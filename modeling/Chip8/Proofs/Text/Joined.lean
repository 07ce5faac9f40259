import Chip8.Proofs.Lists
import Chip8.Text.Basic

namespace Chip8.Text

/-- To decide something about the characters of a list, these are looked at one by one, and not all
the characters that there are. -/
instance (priority := 2000) decidableForallMem (cs : List Char) (p : Char → Prop)
    [DecidablePred p] : Decidable (∀ c ∈ cs, p c) :=
  List.decidableBAll p cs

def Lacks (cs : List Char) (text : String) : Prop := ∀ c ∈ cs, c ∉ text.toList

instance (cs : List Char) (text : String) : Decidable (Lacks cs text) :=
  inferInstanceAs (Decidable (∀ c ∈ cs, c ∉ text.toList))

namespace Lacks

variable {cs : List Char} {text text' : String}

theorem append (h : Lacks cs text) (h' : Lacks cs text') : Lacks cs (text ++ text') := by
  intro c hc
  rw [String.toList_append, List.mem_append, not_or]
  exact ⟨h c hc, h' c hc⟩

theorem intercalate {texts : List String} (h : Lacks cs text) (hall : ∀ t ∈ texts, Lacks cs t) :
    Lacks cs (text.intercalate texts) := by
  intro c hc hmem
  rw [String.toList_intercalate] at hmem
  rcases mem_intercalate _ _ c hmem with hmem | ⟨_, hcell, hmem⟩
  · exact h c hc hmem
  · obtain ⟨t, ht, rfl⟩ := List.mem_map.mp hcell
    exact hall t ht c hc hmem

theorem filling (width : Nat) (hblank : ' ' ∉ cs) : Lacks cs (Text.filling width text) := by
  have hpush (n : Nat) : Lacks cs ("".pushn ' ' n) := by
    rw [String.pushn_eq_repeat_push]
    induction n with
    | zero => exact fun c _ hmem => absurd hmem List.not_mem_nil
    | succ n ih =>
      intro c hc
      rw [Nat.repeat, String.toList_push, List.mem_append, List.mem_singleton, not_or]
      exact ⟨ih c hc, fun heq => hblank (heq ▸ hc)⟩
  exact hpush _

theorem padLeft (width : Nat) (hblank : ' ' ∉ cs) (h : Lacks cs text) :
    Lacks cs (Text.padLeft width text) := (filling width hblank).append h

end Lacks

theorem lacks_decimal {cs : List Char} (h : ∀ c ∈ cs, c.isDigit = false) (n : Nat) :
    Lacks cs (toString n) := by
  intro c hc hmem
  rw [Nat.toString_eq_ofList_toDigits, String.toList_ofList] at hmem
  have hdigit := Nat.isDigit_of_mem_toDigits (by decide) (by decide) hmem
  exact Bool.false_ne_true ((h c hc).symm.trans hdigit)

def lines (text : String) : List String := (text.toList.splitOn '\n').map String.ofList

/-- Lines that are joined to a text can be told apart again, if there are any. -/
theorem lines_intercalate (ls : List String) (hne : ls ≠ []) (h : ∀ l ∈ ls, '\n' ∉ l.toList) :
    lines ("\n".intercalate ls) = ls := by
  have hchars : ∀ cs ∈ ls.map String.toList, '\n' ∉ cs := by
    intro cs hcs
    obtain ⟨l, hl, rfl⟩ := List.mem_map.mp hcs
    exact h l hl
  have hsplit := List.splitOn_intercalate '\n' hchars (mt List.map_eq_nil_iff.mp hne)
  have hbreak : "\n".toList = ['\n'] := rfl
  rw [lines, String.toList_intercalate, hbreak, hsplit, List.map_map]
  calc ls.map (String.ofList ∘ String.toList)
    _ = ls.map id := List.map_congr_left fun _ _ => String.ofList_toList
    _ = ls := List.map_id ls

theorem lines_append_break (front back : String) :
    lines (front ++ "\n" ++ back) = lines front ++ lines back := by
  have hbreak : (front ++ "\n" ++ back).toList = front.toList ++ '\n' :: back.toList := by
    rw [String.toList_append, String.toList_append, List.append_assoc]
    rfl
  rw [lines, hbreak, List.splitOn_append_cons_self, List.map_append]
  rfl

theorem length_lines (text : String) : (lines text).length = text.toList.count '\n' + 1 := by
  rw [lines, List.length_map]
  induction text.toList with
  | nil => rfl
  | cons c cs ih =>
    rw [List.splitOn_cons_eq_if_modifyHead, List.count_cons]
    split
    · rw [List.length_cons, ih]
    · rw [List.length_modifyHead, ih, Nat.add_zero]

end Chip8.Text
