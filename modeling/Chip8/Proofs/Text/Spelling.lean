import Chip8.Text.Numeral

namespace Chip8.Text

namespace Base

theorem trim_eq_self (cs : List Char) (h : ∀ c ∈ cs, isMargin c = false) : trim cs = cs := by
  have hdrop (cs : List Char) (h : ∀ c ∈ cs, isMargin c = false) : cs.dropWhile isMargin = cs := by
    cases cs with
    | nil => rfl
    | cons c cs => rw [List.dropWhile_cons, h c List.mem_cons_self, if_neg Bool.false_ne_true]
  have hback : ∀ c ∈ cs.reverse, isMargin c = false := fun c hc => h c (List.mem_reverse.mp hc)
  rw [trim, hdrop cs h, hdrop cs.reverse hback, List.reverse_reverse]

theorem digits?_cons (base : Base) (c c' : Char) (cs : List Char) (h : c' ≠ '_') :
    base.digits? (c :: c' :: cs) =
      (base.digit? c).bind fun d => (base.digits? (c' :: cs)).map (d :: ·) := by
  rw [digits?]
  · cases base.digit? c <;> rfl
  · simp
  · intro rest heq
    exact h (List.cons.inj heq).1

theorem unmarked_eq_self (base : Base) (cs : List Char) (h : ∀ c ∈ cs, c ∉ ['x', 'X']) :
    base.unmarked cs = cs := by
  unfold unmarked
  split
  · next zero mark rest =>
    have hmark := h mark (List.mem_cons_of_mem _ List.mem_cons_self)
    simp only [List.mem_cons, List.not_mem_nil, or_false] at hmark
    exact if_neg fun hx => hmark hx.2
  · rfl

end Base

/-- A hexadecimal digit as one may write it. -/
structure WrittenDigit where
  value : Fin 16
  /-- A letter is a capital. -/
  capital : Bool := false
  /-- An underscore stands before the digit. -/
  parted : Bool := false
deriving DecidableEq, Repr

namespace WrittenDigit

def char (d : WrittenDigit) : Char :=
  if d.value.val < 10 then Char.ofNat (48 + d.value.val)
  else if d.capital then Char.ofNat (55 + d.value.val)
  else Char.ofNat (87 + d.value.val)

def chars (d : WrittenDigit) : List Char := if d.parted then ['_', d.char] else [d.char]

theorem digit?_char (d : WrittenDigit) : Base.hexadecimal.digit? d.char = some d.value.val := by
  obtain ⟨v, capital, parted⟩ := d
  revert v capital parted
  decide

theorem char_not_mem (d : WrittenDigit) : d.char ∉ ['_', 'x', 'X', '+', '-'] := by
  obtain ⟨v, capital, parted⟩ := d
  revert v capital parted
  decide

theorem isMargin_char (d : WrittenDigit) : Base.isMargin d.char = false := by
  obtain ⟨v, capital, parted⟩ := d
  revert v capital parted
  decide

theorem mem_chars (d : WrittenDigit) (c : Char) (h : c ∈ d.chars) : c = '_' ∨ c = d.char := by
  unfold chars at h
  split at h
  · simpa using h
  · exact Or.inr (List.mem_singleton.mp h)

theorem of_mem_flatMap_chars (ds : List WrittenDigit) (c : Char) (h : c ∈ ds.flatMap chars) :
    c ∉ ['x', 'X'] ∧ c ∉ ['+', '-'] ∧ Base.isMargin c = false := by
  obtain ⟨d, -, hd⟩ := List.mem_flatMap.mp h
  rcases d.mem_chars c hd with rfl | rfl
  · decide
  · have hc := d.char_not_mem
    simp only [List.mem_cons, List.not_mem_nil, or_false, not_or] at hc ⊢
    exact ⟨⟨hc.2.1, hc.2.2.1⟩, hc.2.2.2, d.isMargin_char⟩

def magnitude (ds : List WrittenDigit) : Nat := ds.foldl (fun n d => n * 16 + d.value.val) 0

theorem valueOf_eq_magnitude (ds : List WrittenDigit) :
    Base.hexadecimal.valueOf (ds.map (·.value.val)) = magnitude ds := by
  rw [Base.valueOf, List.foldl_map]
  rfl

theorem magnitude_lt_of_four (ds : List WrittenDigit) (h : ds.length ≤ 4) : magnitude ds < 65536 := by
  match ds, h with
  | [], _ => decide
  | [a], _ => simp only [magnitude, List.foldl]; omega
  | [a, b], _ => simp only [magnitude, List.foldl]; omega
  | [a, b, c], _ => simp only [magnitude, List.foldl]; omega
  | [a, b, c, d], _ => simp only [magnitude, List.foldl]; omega

/-- The four digits at the end, or all of them where there are fewer. -/
def lastFour (ds : List WrittenDigit) : List WrittenDigit := ds.drop (ds.length - 4)

/-- Within sixteen bits only the last four digits count. -/
theorem magnitude_mod (ds : List WrittenDigit) : magnitude ds % 65536 = magnitude (lastFour ds) := by
  have hlow : magnitude (lastFour ds) < 65536 := by
    apply magnitude_lt_of_four
    rw [lastFour, List.length_drop]
    omega
  rcases Nat.lt_or_ge ds.length 4 with hfew | hmany
  · have hall : lastFour ds = ds := by
      rw [lastFour, Nat.sub_eq_zero_of_le (Nat.le_of_lt hfew), List.drop_zero]
    rw [hall] at hlow ⊢
    exact Nat.mod_eq_of_lt hlow
  · have hfour : (lastFour ds).length = 4 := by
      rw [lastFour, List.length_drop]
      omega
    have hsplit : ds = ds.take (ds.length - 4) ++ lastFour ds := (List.take_append_drop _ _).symm
    match hl : lastFour ds, hfour with
    | [a, b, c, d], _ =>
      rw [hsplit, hl]
      simp only [magnitude, List.foldl_append, List.foldl]
      omega

theorem digits?_chars (d : WrittenDigit) (ds : List WrittenDigit) :
    Base.hexadecimal.digits? (d.char :: ds.flatMap chars) =
      some ((d :: ds).map (·.value.val)) := by
  induction ds generalizing d with
  | nil => simp only [List.flatMap_nil, Base.digits?, digit?_char, Option.map_some, List.map]
  | cons e ds ih =>
    rw [List.flatMap_cons, chars]
    cases e.parted with
    | true =>
      simp only [if_true, List.cons_append, List.nil_append, Base.digits?, digit?_char, ih e]
      rfl
    | false =>
      have he : e.char ≠ '_' := fun heq => e.char_not_mem (by simp [heq])
      simp only [Bool.false_eq_true, if_false, List.cons_append, List.nil_append]
      rw [Base.digits?_cons _ _ _ _ he, digit?_char, ih e]
      rfl

end WrittenDigit

/-- A hexadecimal integer as one may write it: a sign, the mark of its base and its digits, between any
two of which, and after the mark, an underscore may stand. -/
structure Spelling where
  sign : List Char := []
  mark : List Char := []
  first : WrittenDigit
  later : List WrittenDigit := []
  sign_mem : sign ∈ [[], ['+'], ['-']] := by decide
  mark_mem : mark ∈ [[], ['0', 'x'], ['0', 'X']] := by decide
  parted_marked : first.parted = true → mark ≠ [] := by decide

namespace Spelling

def digits (sp : Spelling) : List WrittenDigit := sp.first :: sp.later

def body (sp : Spelling) : List Char := sp.mark ++ sp.digits.flatMap WrittenDigit.chars

def text (sp : Spelling) : String := String.ofList (sp.sign ++ sp.body)

def signed (sp : Spelling) (n : Nat) : Int := if sp.sign = ['-'] then -(n : Int) else n

def value (sp : Spelling) : Int := sp.signed (WrittenDigit.magnitude sp.digits)

/-- The value within sixteen bits, made of the last four digits. -/
def address (sp : Spelling) : Int :=
  sp.signed (WrittenDigit.magnitude (WrittenDigit.lastFour sp.digits)) % 65536

theorem value_emod (sp : Spelling) : sp.value % 65536 = sp.address := by
  have hmod := WrittenDigit.magnitude_mod sp.digits
  unfold value address signed
  split <;> omega

theorem chars_digits (sp : Spelling) :
    sp.digits.flatMap WrittenDigit.chars =
      (if sp.first.parted then ['_'] else []) ++
        sp.first.char :: sp.later.flatMap WrittenDigit.chars := by
  rw [digits, List.flatMap_cons, WrittenDigit.chars]
  cases sp.first.parted <;> rfl

theorem unmarked_zero_x (x : Char) (hx : x = 'x' ∨ x = 'X') (parted : Bool) (c : Char)
    (hc : c ≠ '_') (cs : List Char) :
    Base.hexadecimal.unmarked (['0', x] ++ ((if parted then ['_'] else []) ++ c :: cs)) =
      c :: cs := by
  have hzero : decimalDigit? '0' = some 0 := by decide
  cases parted <;> simp [Base.unmarked, hzero, hx, hc]

/-- The mark of the base, with the underscore after it, says nothing about the value. -/
theorem unmarked_body (sp : Spelling) :
    Base.hexadecimal.unmarked sp.body = sp.first.char :: sp.later.flatMap WrittenDigit.chars := by
  have hfirst : sp.first.char ≠ '_' := fun heq => sp.first.char_not_mem (by simp [heq])
  have hmem := sp.mark_mem
  simp only [List.mem_cons, List.not_mem_nil, or_false] at hmem
  rw [body]
  rcases hmem with h | h | h
  · have hparted : sp.first.parted = false :=
      Bool.eq_false_iff.mpr fun hp => sp.parted_marked hp h
    have hunmarked := Base.unmarked_eq_self .hexadecimal _ fun c hc =>
      (WrittenDigit.of_mem_flatMap_chars sp.digits c hc).1
    rw [h, List.nil_append, hunmarked, sp.chars_digits, hparted]
    rfl
  · rw [h, sp.chars_digits]
    exact unmarked_zero_x 'x' (Or.inl rfl) _ _ hfirst _
  · rw [h, sp.chars_digits]
    exact unmarked_zero_x 'X' (Or.inr rfl) _ _ hfirst _

theorem natural?_body (sp : Spelling) :
    Base.hexadecimal.natural? sp.body = some (WrittenDigit.magnitude sp.digits) := by
  rw [Base.natural?, sp.unmarked_body, WrittenDigit.digits?_chars]
  exact congrArg some (WrittenDigit.valueOf_eq_magnitude sp.digits)

theorem of_mem_body (sp : Spelling) (c : Char) (h : c ∈ sp.body) :
    c ∉ ['+', '-'] ∧ Base.isMargin c = false := by
  rcases List.mem_append.mp h with h | h
  · have hmark : ∀ cs ∈ [[], ['0', 'x'], ['0', 'X']],
        cs.all (fun c => decide (c ∉ ['+', '-'] ∧ Base.isMargin c = false)) = true := by decide
    exact of_decide_eq_true (List.all_eq_true.mp (hmark _ sp.mark_mem) c h)
  · exact (WrittenDigit.of_mem_flatMap_chars _ c h).2

theorem trim_text (sp : Spelling) : Base.trim sp.text.toList = sp.sign ++ sp.body := by
  rw [text, String.toList_ofList]
  apply Base.trim_eq_self
  intro c h
  rcases List.mem_append.mp h with h | h
  · have hsign : ∀ cs ∈ [[], ['+'], ['-']],
        cs.all (fun c => decide (Base.isMargin c = false)) = true := by decide
    exact of_decide_eq_true (List.all_eq_true.mp (hsign _ sp.sign_mem) c h)
  · exact (sp.of_mem_body c h).2

/-- However an integer is written, it is read as its value. -/
theorem integer?_text (sp : Spelling) : Base.hexadecimal.integer? sp.text = some sp.value := by
  have hnat := sp.natural?_body
  rw [Base.integer?, sp.trim_text, value, signed]
  have hmem := sp.sign_mem
  simp only [List.mem_cons, List.not_mem_nil, or_false] at hmem
  rcases hmem with h | h | h
  · rw [h, List.nil_append]
    split
    · next cs heq => exact absurd (sp.of_mem_body '-' (by simp [heq])).1 (by decide)
    · next cs heq => exact absurd (sp.of_mem_body '+' (by simp [heq])).1 (by decide)
    · simp [hnat]
  · simp [h, hnat]
  · simp [h, hnat]

/-- Minus 0xF00FE: its address is what is left of it below 0x10000. -/
example :
    let sp : Spelling := {
      sign := ['-'], mark := ['0', 'X'], first := { value := 15, capital := true, parted := true },
      later := [{ value := 0 }, { value := 0 }, { value := 15, parted := true }, { value := 14 }] }
    sp.text = "-0X_F00_fe" ∧ sp.address = 0xFF02 := by decide +kernel

end Spelling

end Chip8.Text
