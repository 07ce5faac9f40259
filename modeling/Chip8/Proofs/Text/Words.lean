import Chip8.Text.Basic

namespace Chip8.Text

def putWord (word : List Char) (rest : List (List Char)) : List (List Char) :=
  if word.isEmpty then rest else word :: rest

def wordsOf (cs : List Char) : List (List Char) := putWord (splitWords cs).1 (splitWords cs).2

theorem words_eq (s : String) : words s = (wordsOf s.toList).map String.ofList := rfl

theorem putWord_append (word : List Char) (rest more : List (List Char)) :
    putWord word (rest ++ more) = putWord word rest ++ more := by
  unfold putWord
  split <;> rfl

theorem splitWords_cons (c : Char) (cs : List Char) :
    splitWords (c :: cs) = if isBlank c then ([], wordsOf cs)
      else (c :: (splitWords cs).1, (splitWords cs).2) := rfl

theorem splitWords_append (front : List Char) (c : Char) (cs : List Char) (hc : isBlank c = true) :
    splitWords (front ++ c :: cs) = ((splitWords front).1, (splitWords front).2 ++ wordsOf cs) := by
  induction front with
  | nil =>
    rw [List.nil_append, splitWords_cons, if_pos hc]
    rfl
  | cons first front ih =>
    rw [List.cons_append, splitWords_cons, splitWords_cons]
    by_cases hfirst : isBlank first = true
    · rw [if_pos hfirst, if_pos hfirst, wordsOf, ih, putWord_append]
      rfl
    · rw [if_neg hfirst, if_neg hfirst, ih]

theorem wordsOf_append (front : List Char) (c : Char) (cs : List Char) (hc : isBlank c = true) :
    wordsOf (front ++ c :: cs) = wordsOf front ++ wordsOf cs := by
  rw [wordsOf, splitWords_append front c cs hc, putWord_append]
  rfl

theorem wordsOf_blanks (gap cs : List Char) (hgap : ∀ c ∈ gap, isBlank c = true) :
    wordsOf (gap ++ cs) = wordsOf cs := by
  induction gap with
  | nil => rfl
  | cons c gap ih =>
    have hfirst := wordsOf_append [] c (gap ++ cs) (hgap c List.mem_cons_self)
    rw [List.cons_append]
    exact hfirst.trans (ih fun c hc => hgap c (List.mem_cons_of_mem _ hc))

/-- Blanks between two texts keep their words apart. -/
theorem wordsOf_gap (front gap cs : List Char) (hne : gap ≠ [])
    (hgap : ∀ c ∈ gap, isBlank c = true) :
    wordsOf (front ++ (gap ++ cs)) = wordsOf front ++ wordsOf cs := by
  cases gap with
  | nil => exact absurd rfl hne
  | cons c gap =>
    rw [List.cons_append, wordsOf_append front c _ (hgap c List.mem_cons_self),
      wordsOf_blanks gap cs fun c hc => hgap c (List.mem_cons_of_mem _ hc)]

theorem wordsOf_solid (word : List Char) (hne : word ≠ [])
    (h : ∀ c ∈ word, isBlank c = false) : wordsOf word = [word] := by
  have hsplit : splitWords word = (word, []) := by
    clear hne
    induction word with
    | nil => rfl
    | cons c word ih =>
      have hc : ¬ isBlank c = true := by
        rw [h c List.mem_cons_self]
        exact Bool.false_ne_true
      rw [splitWords_cons, if_neg hc, ih fun c hc => h c (List.mem_cons_of_mem _ hc)]
  rw [wordsOf, hsplit]
  cases word with
  | nil => exact absurd rfl hne
  | cons c word => rfl

theorem wordsOf_intercalate (gap : List Char) (texts : List (List Char)) (hne : gap ≠ [])
    (hgap : ∀ c ∈ gap, isBlank c = true) :
    wordsOf (gap.intercalate texts) = texts.flatMap wordsOf := by
  induction texts with
  | nil => rfl
  | cons first texts ih =>
    cases texts with
    | nil => rw [List.intercalate_singleton, List.flatMap_singleton]
    | cons second texts =>
      rw [List.intercalate_cons_cons, List.append_assoc, wordsOf_gap first gap _ hne hgap, ih,
        List.flatMap_cons]
      rfl

end Chip8.Text
