import Chip8.Proofs.Text.Hexadecimal
import Chip8.Registers.Panel

namespace Chip8.Registers

open Text

def names : Vector String 20 :=
  #v["V0", "V1", "V2", "V3", "V4", "V5", "V6", "V7", "V8", "V9", "VA", "VB", "VC", "VD", "VE", "VF",
    "I", "PC", "DT", "ST"]

def numeral (r : Registers) (k : Fin 20) : String :=
  hex (if k.val = 16 ∨ k.val = 17 then 4 else 2) (r.snapshot.get k)

def entryText (r : Registers) (k : Fin 20) : String :=
  padRight 2 (names.get k) ++ " " ++ ("0x" ++ r.numeral k)

def shownOrder : List (Fin 20) := grid.flatten ++ special

/-- The place of a register in that order. The sixteen stand in four columns of four. -/
def place (k : Fin 20) : Nat := if k.val < 16 then 4 * (k.val % 4) + k.val / 4 else k.val

theorem shownOrder_perm : shownOrder.Perm (List.finRange 20) := by decide

theorem getElem?_shownOrder (k : Fin 20) : shownOrder[place k]? = some k := by
  revert k
  decide

theorem label_eq (k : Fin 20) : (entry k).label = padRight 2 (names.get k) := by
  revert k
  decide +kernel

theorem entry_width (k : Fin 20) : (entry k).width = if k.val = 16 ∨ k.val = 17 then 4 else 2 := by
  revert k
  decide

section

variable (r : Registers)

theorem cell_none (k : Fin 20) : cell r.snapshot none k = r.entryText k := by
  show (entry k).label ++ " 0x" ++ hex (entry k).width (r.snapshot.get k) = r.entryText k
  rw [label_eq, entry_width, entryText, numeral, String.append_assoc, String.append_assoc]
  rfl

theorem cell_some (before : Snapshot) (k : Fin 20) :
    cell r.snapshot (some before) k =
      if r.snapshot.get k = before.get k then r.entryText k else mark (r.entryText k) := by
  rw [← r.cell_none k]
  rfl

/-- The lines of the panel: the registers on each, or the stack. -/
def rows : List (Option (List (Fin 20))) := (grid ++ [[], special]).map some ++ [none]

def row (before : Option Snapshot) : Option (List (Fin 20)) → List Char
  | some ks => [' ', ' '].intercalate (ks.map fun k => (cell r.snapshot before k).toList)
  | none => r.stackLine.toList

theorem toList_panel (before : Option Snapshot) :
    (r.panel before).toList = ['\n'].intercalate (rows.map (r.row before)) := by
  have hline (ks : List (Fin 20)) :
      ("  ".intercalate (ks.map (cell r.snapshot before))).toList = r.row before (some ks) := by
    rw [String.toList_intercalate, List.map_map]
    rfl
  have hrows : (r.panelLines before).map String.toList = rows.map (r.row before) := by
    simp [panelLines, rows, hline, row]
  rw [panel, String.toList_intercalate, hrows]
  rfl

theorem lacks_entryText (k : Fin 20) : Lacks ['[', '\n'] (r.entryText k) := by
  have hname : ∀ k : Fin 20, Lacks ['[', '\n'] (padRight 2 (names.get k) ++ " ") := by
    decide +kernel
  have hlead : Lacks ['[', '\n'] "0x" := by decide
  exact (hname k).append (hlead.append (lacks_hex (by decide) _ _))

def depthText : String := "SP " ++ padLeft 2 (toString r.stack.length) ++ "  "

def stackText : String :=
  if r.stack.isEmpty then "empty"
  else " ".intercalate (r.stack.reverse.map fun a => hex 3 a.toNat)

theorem toList_stackLine :
    r.stackLine.toList =
      r.depthText.toList ++ ("[".toList ++ (r.stackText.toList ++ "]".toList)) := by
  calc r.stackLine.toList
    _ = ("SP " ++ padLeft 2 (toString r.stack.length) ++ "  [" ++ r.stackText ++ "]").toList := rfl
    _ = _ := by
      have hopen : "  [".toList = "  ".toList ++ "[".toList := rfl
      simp only [depthText, String.toList_append, hopen, List.append_assoc]

theorem lacks_depthText : Lacks ['[', '\n'] r.depthText := by
  have hname : Lacks ['[', '\n'] "SP " := by decide
  have hgap : Lacks ['[', '\n'] "  " := by decide
  exact (hname.append (Lacks.padLeft 2 (by decide) (lacks_decimal (by decide) _))).append hgap

theorem stackText_of_nil (h : r.stack = []) : r.stackText = "empty" := by
  rw [stackText, h]
  rfl

theorem toList_stackText (h : r.stack ≠ []) :
    r.stackText.toList =
      [' '].intercalate (r.stack.reverse.map fun a => (hex 3 a.toNat).toList) := by
  have hne : ¬ r.stack.isEmpty = true := by
    rwa [List.isEmpty_iff]
  rw [stackText, if_neg hne, String.toList_intercalate, List.map_map]
  rfl

theorem hex_ne_nil (width : Nat) (n : Int) : (hex width n).toList ≠ [] := by
  intro h
  have hread := integer?_hex width n
  rw [← String.ofList_toList (s := hex width n), h] at hread
  cases hread

theorem lacks_stackText : Lacks ['[', ']', '\n'] r.stackText := by
  unfold stackText
  split
  · decide
  · apply Lacks.intercalate
    · decide
    · intro text htext
      obtain ⟨a, -, rfl⟩ := List.mem_map.mp htext
      exact lacks_hex (by decide) 3 _

theorem exists_cons_stackText : ∃ c cs, r.stackText.toList = c :: cs ∧ c ∉ ['b', '/'] := by
  by_cases h : r.stack = []
  · rw [r.stackText_of_nil h]
    exact ⟨'e', "mpty".toList, rfl, by decide⟩
  · have hhex : ∀ c ∈ hexChars, c ∉ ['b', '/'] := by decide
    obtain ⟨first, rest, hcons⟩ := List.exists_cons_of_ne_nil (mt List.reverse_eq_nil_iff.mp h)
    obtain ⟨c, cs, hc⟩ := List.exists_cons_of_ne_nil (hex_ne_nil 3 first.toNat)
    have hmem : c ∈ (hex 3 first.toNat).toList := by
      rw [hc]
      exact List.mem_cons_self
    rw [r.toList_stackText h, hcons]
    cases rest with
    | nil =>
      rw [List.map_singleton, List.intercalate_singleton]
      exact ⟨c, cs, hc, hhex c (mem_hex _ _ c hmem)⟩
    | cons second rest =>
      rw [List.map_cons, List.map_cons, List.intercalate_cons_cons, hc]
      exact ⟨c, _, rfl, hhex c (mem_hex _ _ c hmem)⟩

end

end Chip8.Registers
