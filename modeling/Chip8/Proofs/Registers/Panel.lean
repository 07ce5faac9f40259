import Chip8.Proofs.Registers.Marking
import Chip8.Proofs.Text.Joined
import Chip8.Proofs.Text.Words

namespace Chip8.Registers

open Text

def shownName (text : String) (k : Fin 20) : Option String := (words text)[2 * place k]?

def shownValue (text : String) (k : Fin 20) : Option Int :=
  (words text)[2 * place k + 1]?.bind fun digits =>
    Base.hexadecimal.integer? (String.ofList (digits.toList.drop 2))

/-- The return addresses that the panel shows, the oldest first. -/
def shownStack (text : String) : Option (List UInt16) :=
  match between "[" "]" text with
  | [inside] =>
    if inside = "empty" then some []
    else (words inside).mapM fun digits =>
      (Base.hexadecimal.integer? digits).map fun n => UInt16.ofNat n.toNat
  | _ => none

theorem isBlank_of_mem_hexChars (c : Char) (h : c ∈ hexChars) : isBlank c = false := by
  revert c
  decide

theorem getElem?_flatMap_pair {α β : Type} (first second : α → β) (items : List α)
    (rest : List β) (i : Nat) (a : α) (h : items[i]? = some a) :
    ((items.flatMap fun a => [first a, second a]) ++ rest)[2 * i]? = some (first a) ∧
      ((items.flatMap fun a => [first a, second a]) ++ rest)[2 * i + 1]? = some (second a) := by
  induction items generalizing i with
  | nil => simp at h
  | cons item items ih =>
    cases i with
    | zero =>
      rw [List.getElem?_cons_zero, Option.some.injEq] at h
      rw [h]
      exact ⟨rfl, rfl⟩
    | succ i =>
      rw [List.getElem?_cons_succ] at h
      exact ih i h

variable (r : Registers)

theorem wordsOf_entryText (k : Fin 20) :
    wordsOf (r.entryText k).toList = [(names.get k).toList, ("0x" ++ r.numeral k).toList] := by
  have hname : ∀ k : Fin 20,
      wordsOf (padRight 2 (names.get k)).toList = [(names.get k).toList] := by decide +kernel
  have hnumeral : wordsOf ("0x" ++ r.numeral k).toList = [("0x" ++ r.numeral k).toList] := by
    apply wordsOf_solid
    · rw [String.toList_append]
      exact List.cons_ne_nil _ _
    · intro c hc
      rw [String.toList_append, List.mem_append] at hc
      rcases hc with hc | hc
      · revert c
        decide
      · exact isBlank_of_mem_hexChars c (mem_hex _ _ c hc)
  have hblank : (padRight 2 (names.get k) ++ " " ++ ("0x" ++ r.numeral k)).toList =
      (padRight 2 (names.get k)).toList ++ ' ' :: ("0x" ++ r.numeral k).toList := by
    rw [String.toList_append, String.toList_append, List.append_assoc]
    rfl
  rw [entryText, hblank, wordsOf_append _ ' ' _ (by decide), hname, hnumeral]
  rfl

theorem wordsOf_row (ks : List (Fin 20)) :
    wordsOf (r.row none (some ks)) =
      ks.flatMap fun k => [(names.get k).toList, ("0x" ++ r.numeral k).toList] := by
  rw [row, wordsOf_intercalate _ _ (by decide) (by decide), List.flatMap_map]
  apply congrArg List.flatten
  apply List.map_congr_left
  intro k _
  rw [cell_none, wordsOf_entryText]

/-- On the panel the name of each register is followed by its value, and the stack comes last. -/
theorem wordsOf_panel :
    wordsOf (r.panel none).toList =
      (shownOrder.flatMap fun k => [(names.get k).toList, ("0x" ++ r.numeral k).toList]) ++
        wordsOf r.stackLine.toList := by
  have horder : (grid ++ [[], special]).flatMap id = shownOrder := by decide
  rw [toList_panel, wordsOf_intercalate _ _ (by decide) (by decide), List.flatMap_map, rows,
    List.flatMap_append, List.flatMap_map, ← horder, List.flatMap_assoc]
  simp only [wordsOf_row, List.flatMap_cons, List.flatMap_nil, List.append_nil]
  rfl

theorem shownName_panel (k : Fin 20) : shownName (r.panel none) k = some (names.get k) := by
  have hpair := getElem?_flatMap_pair (fun k => (names.get k).toList)
    (fun k => ("0x" ++ r.numeral k).toList) _ (wordsOf r.stackLine.toList) _ k
    (getElem?_shownOrder k)
  rw [shownName, words_eq, wordsOf_panel, List.getElem?_map, hpair.1, Option.map_some,
    String.ofList_toList]

theorem shownValue_panel (k : Fin 20) :
    shownValue (r.panel none) k = some (r.snapshot.get k) := by
  have hpair := getElem?_flatMap_pair (fun k => (names.get k).toList)
    (fun k => ("0x" ++ r.numeral k).toList) _ (wordsOf r.stackLine.toList) _ k
    (getElem?_shownOrder k)
  have hdigits : ("0x" ++ r.numeral k).toList.drop 2 = (r.numeral k).toList := by
    rw [String.toList_append]
    rfl
  rw [shownValue, words_eq, wordsOf_panel, List.getElem?_map, hpair.2, Option.map_some,
    Option.bind_some, String.ofList_toList, hdigits, String.ofList_toList, numeral, integer?_hex]

theorem between_brackets : between "[" "]" (r.panel none) = [r.stackText] := by
  have hplain (text : List Char) (h : '[' ∉ text) : Holds "[".toList "]".toList text [] :=
    Holds.plain '[' text (by decide) h
  have hstack : Holds "[".toList "]".toList r.stackLine.toList [r.stackText.toList] := by
    have hinside := r.lacks_stackText ']' (by decide)
    rw [toList_stackLine]
    exact (hplain _ (r.lacks_depthText '[' (by decide))).append
      (Holds.marked ']' _ (by decide) (by decide) hinside)
  have hpanel : Holds "[".toList "]".toList (r.panel none).toList
      (rows.flatMap fun line => if line.isSome then [] else [r.stackText.toList]) := by
    rw [toList_panel]
    apply Holds.intercalate
    · exact hplain _ (by decide)
    · intro line _
      cases line with
      | none => exact hstack
      | some ks =>
        apply hplain
        intro h
        rcases mem_intercalate _ _ _ h with h | ⟨entry, hentry, h⟩
        · exact absurd h (by decide)
        · obtain ⟨k, -, rfl⟩ := List.mem_map.mp hentry
          rw [cell_none] at h
          exact r.lacks_entryText k '[' (by decide) h
  have hpieces : (rows.flatMap fun line => if line.isSome then [] else [r.stackText.toList]) =
      [r.stackText.toList] := rfl
  rw [Holds.between_eq hpanel, hpieces, List.map_singleton, String.ofList_toList]

theorem words_stackText (h : r.stack ≠ []) :
    words r.stackText = r.stack.reverse.map fun a => hex 3 a.toNat := by
  have hword (a : UInt16) : wordsOf (hex 3 a.toNat).toList = [(hex 3 a.toNat).toList] := by
    apply wordsOf_solid _ (hex_ne_nil 3 a.toNat)
    intro c hc
    exact isBlank_of_mem_hexChars c (mem_hex _ _ c hc)
  rw [words_eq, r.toList_stackText h, wordsOf_intercalate _ _ (by decide) (by decide),
    List.flatMap_map]
  simp only [hword, ← List.map_eq_flatMap, List.map_map]
  apply List.map_congr_left
  intro a _
  exact String.ofList_toList

theorem shownStack_panel : shownStack (r.panel none) = some r.stack.reverse := by
  rw [shownStack, between_brackets]
  by_cases h : r.stack = []
  · rw [r.stackText_of_nil h, h]
    rfl
  · have hne : r.stackText ≠ "empty" := by
      intro hempty
      have hwords := r.words_stackText h
      rw [hempty] at hwords
      have hmem : "empty" ∈ r.stack.reverse.map fun a => hex 3 a.toNat := by
        rw [← hwords]
        decide
      obtain ⟨a, -, ha⟩ := List.mem_map.mp hmem
      apply not_mem_hex 3 a.toNat 'e' (by decide)
      rw [ha]
      decide
    -- The stack is not empty, and no numeral is taken for the word that says so.
    have hread := mapM_map_of_forall (fun a : UInt16 => hex 3 a.toNat)
      (fun digits => (Base.hexadecimal.integer? digits).map fun n => UInt16.ofNat n.toNat) id
      r.stack.reverse ?_
    · rw [List.map_id] at hread
      dsimp only
      rw [if_neg hne, r.words_stackText h, hread]
    · intro a _
      rw [integer?_hex, Option.map_some, Int.toNat_natCast, UInt16.ofNat_toNat]
      rfl

/-- A snapshot knows every register that is not on the stack. -/
theorem eq_of_snapshot (r' : Registers) (h : ∀ k, r.snapshot.get k = r'.snapshot.get k)
    (hstack : r.stack = r'.stack) : r = r' := by
  have hsnapshot : r.snapshot = r'.snapshot := by
    apply Vector.ext
    intro k hk
    exact h ⟨k, hk⟩
  have hlists := congrArg Vector.toList hsnapshot
  rw [snapshot, snapshot, Vector.toList_append, Vector.toList_append] at hlists
  obtain ⟨hv, hothers⟩ := List.append_inj hlists (by simp)
  have hregisters : r.v = r'.v := by
    rw [Vector.toList_map, Vector.toList_map] at hv
    apply Vector.toList_inj.mp
    apply (List.map_inj_right _).mp hv
    intro b b' hb
    exact UInt8.toNat_inj.mp (Int.ofNat.inj hb)
  have hfour : [r.i, r.pc, r.dt, r.st] = [r'.i, r'.pc, r'.dt, r'.st] := hothers
  simp only [List.cons.injEq, and_true] at hfour
  obtain ⟨hi, hpc, hdt, hst⟩ := hfour
  cases r
  cases r'
  exact (Registers.mk.injEq ..).mpr ⟨hregisters, hi, hdt, hst, hpc, hstack⟩

/-- The panel can be read: it shows each register once, with its name and its value, and the
stack. -/
structure PanelReads (r : Registers) : Prop where
  once : shownOrder.Perm (List.finRange 20)
  name : ∀ k, shownName (r.panel none) k = some (names.get k)
  value : ∀ k, shownValue (r.panel none) k = some (r.snapshot.get k)
  stack : shownStack (r.panel none) = some r.stack.reverse

/-- A panel that compares with an earlier snapshot is the same but for its marks, which are around
the entries of the registers that have changed. -/
structure PanelMarks (r : Registers) (before : Snapshot) : Prop where
  deleted : delete ["[bold yellow]", "[/bold yellow]"] (r.panel (some before)) = r.panel none
  marked : between "[bold yellow]" "[/bold yellow]" (r.panel (some before)) =
    (shownOrder.filter fun k => r.snapshot.get k ≠ before.get k).map r.entryText
  changed : ∀ k, r.entryText k ∈ between "[bold yellow]" "[/bold yellow]" (r.panel (some before)) ↔
    r.snapshot.get k ≠ before.get k

/-- Different registers have different entries, whatever their values. -/
theorem entryText_injective (k k' : Fin 20) (h : r.entryText k = r.entryText k') : k = k' := by
  have hnames : ∀ k k' : Fin 20,
      (padRight 2 (names.get k)).toList = (padRight 2 (names.get k')).toList → k = k' := by
    decide +kernel
  have hwidth : ∀ k : Fin 20, (padRight 2 (names.get k)).toList.length = 2 := by decide +kernel
  have hfront (k : Fin 20) :
      (r.entryText k).toList.take 2 = (padRight 2 (names.get k)).toList := by
    rw [entryText, String.toList_append, String.toList_append, List.append_assoc,
      List.take_left' (hwidth k)]
  apply hnames
  rw [← hfront, ← hfront, h]

theorem panelReads : r.PanelReads where
  once := shownOrder_perm
  name := r.shownName_panel
  value := r.shownValue_panel
  stack := r.shownStack_panel

theorem panelMarks (before : Snapshot) : r.PanelMarks before where
  deleted := r.delete_marks before
  marked := r.between_marks before
  changed k := by
    have hmarked := r.between_marks before
    rw [openingMark, closingMark] at hmarked
    rw [hmarked, List.mem_map]
    constructor
    · rintro ⟨k', hk', heq⟩
      rw [← r.entryText_injective k' k heq]
      exact of_decide_eq_true (List.mem_filter.mp hk').2
    · intro hne
      have hmem : k ∈ shownOrder := shownOrder_perm.mem_iff.mpr (List.mem_finRange k)
      exact ⟨k, List.mem_filter.mpr ⟨hmem, decide_eq_true hne⟩, rfl⟩

/-- The panel shows the registers as they are, so that no two register files have the same panel,
and marks what has changed and nothing else. -/
theorem panel_truthful (r r' : Registers) (before : Snapshot) :
    r.PanelReads ∧ (r.panel none = r'.panel none ↔ r = r') ∧ r.PanelMarks before := by
  refine ⟨r.panelReads, ⟨?_, congrArg fun r => panel r none⟩, r.panelMarks before⟩
  intro h
  apply r.eq_of_snapshot r'
  · intro k
    have hvalue : shownValue (r.panel none) k = shownValue (r'.panel none) k := by rw [h]
    rwa [shownValue_panel, shownValue_panel, Option.some.injEq] at hvalue
  · have hstack := congrArg shownStack h
    rw [shownStack_panel, shownStack_panel, Option.some.injEq] at hstack
    exact List.reverse_inj.mp hstack

end Chip8.Registers
