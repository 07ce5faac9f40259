import Chip8.Proofs.Registers.PanelText
import Chip8.Proofs.Text.Marks

namespace Chip8.Registers

open Text

section

variable (r : Registers)

def openingMark : String := "[bold yellow]"

def closingMark : String := "[/bold yellow]"

theorem toList_mark (text : String) :
    (mark text).toList = openingMark.toList ++ (text.toList ++ closingMark.toList) := by
  show (openingMark ++ text ++ closingMark).toList = _
  rw [String.toList_append, String.toList_append, List.append_assoc]

theorem not_isPrefixOf_stack (cs : List Char) :
    openingMark.toList.isPrefixOf ('[' :: (r.stackText.toList ++ cs)) = false ∧
      closingMark.toList.isPrefixOf ('[' :: (r.stackText.toList ++ cs)) = false := by
  obtain ⟨c, rest, hcons, hc⟩ := r.exists_cons_stackText
  rw [List.mem_cons, List.mem_singleton, not_or] at hc
  rw [hcons]
  have hopening : openingMark.toList.tail.head? = some 'b' := by decide
  have hclosing : closingMark.toList.tail.head? = some '/' := by decide
  exact ⟨Text.not_isPrefixOf_cons_cons (by decide) hopening hc.1,
    Text.not_isPrefixOf_cons_cons (by decide) hclosing hc.2⟩

def marks : List String := [openingMark, closingMark]

theorem head?_of_mem_marks (m : List Char) (h : m ∈ marks.map String.toList) :
    m.head? = some '[' := by
  revert m
  decide

theorem leaves_plain (text : List Char) (h : '[' ∉ text) :
    Leaves (marks.map String.toList) text text :=
  Leaves.plain '[' text head?_of_mem_marks h

theorem leaves_opening : Leaves (marks.map String.toList) openingMark.toList [] := by
  apply Leaves.mark
  · decide
  · intro cs
    exact List.find?_cons_of_pos (isPrefixOf_append _ _)

theorem leaves_closing : Leaves (marks.map String.toList) closingMark.toList [] := by
  apply Leaves.mark
  · decide
  · intro cs
    -- The opening mark is tried first, and differs in its second character.
    have hsecond : openingMark.toList.tail.head? = some 'b' := by decide
    have hother :
        openingMark.toList.isPrefixOf ('[' :: '/' :: ("bold yellow]".toList ++ cs)) = false :=
      not_isPrefixOf_cons_cons (by decide) hsecond (by decide)
    change openingMark.toList.isPrefixOf (closingMark.toList ++ cs) = false at hother
    simp only [marks, List.map_cons, List.find?_cons, hother, isPrefixOf_append]

theorem leaves_mark (text : String) (h : '[' ∉ text.toList) :
    Leaves (marks.map String.toList) (mark text).toList text.toList := by
  rw [toList_mark]
  have hall := leaves_opening.append ((leaves_plain text.toList h).append leaves_closing)
  rwa [List.nil_append, List.append_nil] at hall

theorem leaves_cell (before : Snapshot) (k : Fin 20) :
    Leaves (marks.map String.toList) (cell r.snapshot (some before) k).toList
      (cell r.snapshot none k).toList := by
  have hentry := r.lacks_entryText k '[' (by decide)
  rw [cell_none, cell_some]
  split
  · exact leaves_plain _ hentry
  · exact leaves_mark _ hentry

theorem leaves_stackLine :
    Leaves (marks.map String.toList) r.stackLine.toList r.stackLine.toList := by
  have hinside : '[' ∉ r.stackText.toList ++ "]".toList := by
    rw [List.mem_append, not_or]
    exact ⟨r.lacks_stackText '[' (by decide), by decide⟩
  rw [toList_stackLine]
  apply (leaves_plain _ (r.lacks_depthText '[' (by decide))).append
  apply Leaves.cons '[' _ (leaves_plain _ hinside)
  intro cs m hm
  have hstack := r.not_isPrefixOf_stack ("]".toList ++ cs)
  rw [← List.append_assoc] at hstack
  simp only [marks, List.map_cons, List.map_nil, List.mem_cons, List.not_mem_nil, or_false] at hm
  rcases hm with rfl | rfl
  · exact hstack.1
  · exact hstack.2

/-- Without the marks a panel is the one that compares nothing. -/
theorem delete_marks (before : Snapshot) :
    delete marks (r.panel (some before)) = r.panel none := by
  apply Leaves.delete_eq
  rw [toList_panel, toList_panel]
  apply Leaves.intercalate
  · exact leaves_plain _ (by decide)
  · intro line _
    cases line with
    | none => exact r.leaves_stackLine
    | some ks =>
      apply Leaves.intercalate
      · exact leaves_plain _ (by decide)
      · intro k _
        exact r.leaves_cell before k

theorem holds_plain (text : List Char) (h : '[' ∉ text) :
    Holds openingMark.toList closingMark.toList text [] :=
  Holds.plain '[' text (by decide) h

theorem holds_mark (text : String) (h : '[' ∉ text.toList) :
    Holds openingMark.toList closingMark.toList (mark text).toList [text.toList] := by
  rw [toList_mark]
  exact Holds.marked '[' text.toList (by decide) (by decide) h

def changedEntry (before : Snapshot) (k : Fin 20) : List (List Char) :=
  if r.snapshot.get k = before.get k then [] else [(r.entryText k).toList]

theorem holds_cell (before : Snapshot) (k : Fin 20) :
    Holds openingMark.toList closingMark.toList (cell r.snapshot (some before) k).toList
      (r.changedEntry before k) := by
  have hentry := r.lacks_entryText k '[' (by decide)
  rw [cell_some, changedEntry]
  split
  · exact holds_plain _ hentry
  · exact holds_mark _ hentry

theorem holds_stackLine :
    Holds openingMark.toList closingMark.toList r.stackLine.toList [] := by
  have hinside : '[' ∉ r.stackText.toList ++ "]".toList := by
    rw [List.mem_append, not_or]
    exact ⟨r.lacks_stackText '[' (by decide), by decide⟩
  rw [toList_stackLine]
  apply (holds_plain _ (r.lacks_depthText '[' (by decide))).append
  apply Holds.cons '[' _ (holds_plain _ hinside)
  intro cs
  rw [List.append_assoc]
  exact (r.not_isPrefixOf_stack ("]".toList ++ cs)).1

theorem flatMap_changedEntry (before : Snapshot) (ks : List (Fin 20)) :
    ks.flatMap (r.changedEntry before) =
      (ks.filter fun k => r.snapshot.get k ≠ before.get k).map fun k => (r.entryText k).toList := by
  induction ks with
  | nil => rfl
  | cons k ks ih =>
    rw [List.flatMap_cons, ih, changedEntry]
    by_cases h : r.snapshot.get k = before.get k
    · rw [if_pos h, List.filter_cons_of_neg (by simpa using h)]
      rfl
    · rw [if_neg h, List.filter_cons_of_pos (by simpa using h)]
      rfl

/-- Between marks a panel has the entries of the registers that have changed, in its order. -/
theorem between_marks (before : Snapshot) :
    between openingMark closingMark (r.panel (some before)) =
      (shownOrder.filter fun k => r.snapshot.get k ≠ before.get k).map r.entryText := by
  have hpanel : Holds openingMark.toList closingMark.toList (r.panel (some before)).toList
      (rows.flatMap fun line => (line.getD []).flatMap (r.changedEntry before)) := by
    rw [toList_panel]
    apply Holds.intercalate
    · exact holds_plain _ (by decide)
    · intro line _
      cases line with
      | none => exact r.holds_stackLine
      | some ks =>
        apply Holds.intercalate
        · exact holds_plain _ (by decide)
        · intro k _
          exact r.holds_cell before k
  have horder : (rows.flatMap fun line => line.getD []) = shownOrder := by decide
  have hpieces : (rows.flatMap fun line => (line.getD []).flatMap (r.changedEntry before)) =
      (shownOrder.filter fun k => r.snapshot.get k ≠ before.get k).map
        fun k => (r.entryText k).toList := by
    rw [← flatMap_changedEntry, ← horder, List.flatMap_assoc]
  rw [Holds.between_eq hpanel, hpieces, List.map_map]
  apply List.map_congr_left
  intro k _
  exact String.ofList_toList

end

end Chip8.Registers
