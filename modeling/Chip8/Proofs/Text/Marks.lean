import Chip8.Proofs.Text.Joined

namespace Chip8.Text

/-- Deletes marks from characters, from left to right. Of a mark that has begun, `skip` characters
are still to be passed over. -/
def deleteFrom (marks : List (List Char)) : Nat → List Char → List Char
  | _, [] => []
  | skip + 1, _ :: cs => deleteFrom marks skip cs
  | 0, c :: cs =>
    match marks.find? fun mark => mark.isPrefixOf (c :: cs) with
    | some mark => deleteFrom marks (mark.length - 1) cs
    | none => c :: deleteFrom marks 0 cs

/-- A text without the marks in it. -/
def delete (marks : List String) (text : String) : String :=
  String.ofList (deleteFrom (marks.map String.toList) 0 text.toList)

/-- The pieces of a text between an opening mark and the next closing one; `inside` is what has been
read since the opening mark. -/
def betweenFrom (opening closing : List Char) :
    Nat → Option (List Char) → List Char → List (List Char)
  | _, _, [] => []
  | skip + 1, inside, _ :: cs => betweenFrom opening closing skip inside cs
  | 0, none, c :: cs =>
    if opening.isPrefixOf (c :: cs) then
      betweenFrom opening closing (opening.length - 1) (some []) cs
    else betweenFrom opening closing 0 none cs
  | 0, some piece, c :: cs =>
    if closing.isPrefixOf (c :: cs) then
      piece :: betweenFrom opening closing (closing.length - 1) none cs
    else betweenFrom opening closing 0 (some (piece ++ [c])) cs

/-- The pieces of a text that stand between two marks. -/
def between (opening closing : String) (text : String) : List String :=
  (betweenFrom opening.toList closing.toList 0 none text.toList).map String.ofList

theorem isPrefixOf_append (mark cs : List Char) : mark.isPrefixOf (mark ++ cs) = true :=
  List.isPrefixOf_iff_prefix.mpr (List.prefix_append mark cs)

theorem not_isPrefixOf_cons {mark : List Char} {first c : Char} {cs : List Char}
    (hfirst : mark.head? = some first) (hc : c ≠ first) : mark.isPrefixOf (c :: cs) = false := by
  obtain ⟨tail, rfl⟩ := List.head?_eq_some_iff.mp hfirst
  rw [List.isPrefixOf_cons_cons, beq_eq_false_iff_ne.mpr hc.symm, Bool.false_and]

theorem not_isPrefixOf_cons_cons {mark : List Char} {first second c : Char} {cs : List Char}
    (hfirst : mark.head? = some first) (hsecond : mark.tail.head? = some second) (hc : c ≠ second) :
    mark.isPrefixOf (first :: c :: cs) = false := by
  obtain ⟨tail, rfl⟩ := List.head?_eq_some_iff.mp hfirst
  have htail : tail.isPrefixOf (c :: cs) = false := not_isPrefixOf_cons hsecond hc
  rw [List.isPrefixOf_cons_cons, htail, Bool.and_false]

section

variable {marks : List (List Char)}

theorem deleteFrom_skip (passed cs : List Char) :
    deleteFrom marks passed.length (passed ++ cs) = deleteFrom marks 0 cs := by
  induction passed with
  | nil => rfl
  | cons c passed ih => exact ih

/-- Wherever the first text stands, deleting the marks leaves the second one of it. -/
def Leaves (marks : List (List Char)) (text text' : List Char) : Prop :=
  ∀ cs, deleteFrom marks 0 (text ++ cs) = text' ++ deleteFrom marks 0 cs

namespace Leaves

theorem nil : Leaves marks [] [] := fun _ => rfl

theorem append {a a' b b' : List Char} (ha : Leaves marks a a') (hb : Leaves marks b b') :
    Leaves marks (a ++ b) (a' ++ b') := by
  intro cs
  rw [List.append_assoc, ha, hb, List.append_assoc]

theorem intercalate {ι : Type} {gap : List Char} {items : List ι} {f f' : ι → List Char}
    (hgap : Leaves marks gap gap) (h : ∀ i ∈ items, Leaves marks (f i) (f' i)) :
    Leaves marks (gap.intercalate (items.map f)) (gap.intercalate (items.map f')) :=
  rel_intercalate nil append hgap h

theorem cons {text text' : List Char} (c : Char)
    (hc : ∀ cs, ∀ mark ∈ marks, mark.isPrefixOf (c :: (text ++ cs)) = false)
    (h : Leaves marks text text') : Leaves marks (c :: text) (c :: text') := by
  intro cs
  have hfind : (marks.find? fun mark => mark.isPrefixOf (c :: (text ++ cs))) = none := by
    rw [List.find?_eq_none]
    intro mark hmark
    rw [hc cs mark hmark]
    exact Bool.false_ne_true
  rw [List.cons_append, deleteFrom, hfind, List.cons_append, ← h cs]

theorem plain (first : Char) (text : List Char)
    (hmarks : ∀ mark ∈ marks, mark.head? = some first) (h : first ∉ text) :
    Leaves marks text text := by
  induction text with
  | nil => exact nil
  | cons c text ih =>
    rw [List.mem_cons, not_or] at h
    apply cons
    · intro cs mark hmark
      exact not_isPrefixOf_cons (hmarks mark hmark) (Ne.symm h.1)
    · exact ih h.2

/-- A mark goes, if no other one can be taken for it. -/
theorem mark (m : List Char) (hne : m ≠ [])
    (hfind : ∀ cs, (marks.find? fun mark => mark.isPrefixOf (m ++ cs)) = some m) :
    Leaves marks m [] := by
  intro cs
  have hfound := hfind cs
  cases m with
  | nil => exact absurd rfl hne
  | cons c m =>
    rw [List.cons_append] at hfound
    rw [List.cons_append, deleteFrom, hfound, List.nil_append]
    exact deleteFrom_skip m cs

theorem delete_eq {names : List String} {text text' : String}
    (h : Leaves (names.map String.toList) text.toList text'.toList) :
    delete names text = text' := by
  have hall := h []
  rw [List.append_nil, deleteFrom, List.append_nil] at hall
  rw [delete, hall, String.ofList_toList]

end Leaves

end

section

variable {opening closing : List Char}

theorem betweenFrom_skip (inside : Option (List Char)) (passed cs : List Char) :
    betweenFrom opening closing passed.length inside (passed ++ cs) =
      betweenFrom opening closing 0 inside cs := by
  induction passed with
  | nil => rfl
  | cons c passed ih => exact ih

/-- Wherever a text stands outside of marks, it contributes these pieces. -/
def Holds (opening closing : List Char) (text : List Char) (pieces : List (List Char)) : Prop :=
  ∀ cs, betweenFrom opening closing 0 none (text ++ cs) =
    pieces ++ betweenFrom opening closing 0 none cs

namespace Holds

theorem nil : Holds opening closing [] [] := fun _ => rfl

theorem append {a b : List Char} {as bs : List (List Char)} (ha : Holds opening closing a as)
    (hb : Holds opening closing b bs) : Holds opening closing (a ++ b) (as ++ bs) := by
  intro cs
  rw [List.append_assoc, ha, hb, List.append_assoc]

theorem intercalate {ι : Type} {gap : List Char} {items : List ι} {f : ι → List Char}
    {pieces : ι → List (List Char)} (hgap : Holds opening closing gap [])
    (h : ∀ i ∈ items, Holds opening closing (f i) (pieces i)) :
    Holds opening closing (gap.intercalate (items.map f)) (items.flatMap pieces) := by
  rw [List.flatMap_def, ← nil_intercalate]
  exact rel_intercalate nil append hgap h

theorem cons {text : List Char} {pieces : List (List Char)} (c : Char)
    (hc : ∀ cs, opening.isPrefixOf (c :: (text ++ cs)) = false)
    (h : Holds opening closing text pieces) : Holds opening closing (c :: text) pieces := by
  intro cs
  have hno : ¬ opening.isPrefixOf (c :: (text ++ cs)) = true := by
    rw [hc cs]
    exact Bool.false_ne_true
  rw [List.cons_append, betweenFrom, if_neg hno, h cs]

theorem plain (first : Char) (text : List Char) (hopening : opening.head? = some first)
    (h : first ∉ text) : Holds opening closing text [] := by
  induction text with
  | nil => exact nil
  | cons c text ih =>
    rw [List.mem_cons, not_or] at h
    apply cons
    · intro cs
      exact not_isPrefixOf_cons hopening (Ne.symm h.1)
    · exact ih h.2

theorem betweenFrom_inside (first : Char) (hclosing : closing.head? = some first)
    (text piece cs : List Char) (h : first ∉ text) :
    betweenFrom opening closing 0 (some piece) (text ++ (closing ++ cs)) =
      (piece ++ text) :: betweenFrom opening closing 0 none cs := by
  induction text generalizing piece with
  | nil =>
    obtain ⟨tail, rfl⟩ := List.head?_eq_some_iff.mp hclosing
    have hlead := isPrefixOf_append (first :: tail) cs
    rw [List.cons_append] at hlead
    rw [List.nil_append, List.cons_append, betweenFrom, if_pos hlead, List.append_nil,
      List.length_cons, Nat.add_sub_cancel, betweenFrom_skip]
  | cons c text ih =>
    rw [List.mem_cons, not_or] at h
    have hno : ¬ closing.isPrefixOf (c :: (text ++ (closing ++ cs))) = true := by
      rw [not_isPrefixOf_cons hclosing (Ne.symm h.1)]
      exact Bool.false_ne_true
    rw [List.cons_append, betweenFrom, if_neg hno, ih (piece ++ [c]) h.2, List.append_assoc]
    rfl

theorem marked (first : Char) (text : List Char) (hopening : opening ≠ [])
    (hclosing : closing.head? = some first) (h : first ∉ text) :
    Holds opening closing (opening ++ (text ++ closing)) [text] := by
  intro cs
  cases opening with
  | nil => exact absurd rfl hopening
  | cons c rest =>
    have hlead := isPrefixOf_append (c :: rest) (text ++ closing ++ cs)
    rw [List.cons_append] at hlead
    rw [List.append_assoc, List.cons_append, betweenFrom, if_pos hlead, List.length_cons,
      Nat.add_sub_cancel, betweenFrom_skip, List.append_assoc,
      betweenFrom_inside first hclosing text [] cs h]
    rfl

theorem between_eq {first last text : String} {pieces : List (List Char)}
    (h : Holds first.toList last.toList text.toList pieces) :
    between first last text = pieces.map String.ofList := by
  have hall := h []
  rw [List.append_nil, betweenFrom, List.append_nil] at hall
  rw [between, hall]

end Holds

end

end Chip8.Text
