import Chip8.Proofs.Machine.Flow

namespace Chip8

/-- The digit that a character of a form asks for; the letters X, Y and N ask for none. -/
def formDigit? : Char → Option Nat
  | '0' => some 0x0
  | '1' => some 0x1
  | '2' => some 0x2
  | '3' => some 0x3
  | '4' => some 0x4
  | '5' => some 0x5
  | '6' => some 0x6
  | '7' => some 0x7
  | '8' => some 0x8
  | '9' => some 0x9
  | 'A' => some 0xA
  | 'B' => some 0xB
  | 'C' => some 0xC
  | 'D' => some 0xD
  | 'E' => some 0xE
  | 'F' => some 0xF
  | _ => none

theorem formDigit?_digits :
    formDigit? '0' = some 0x0 ∧ formDigit? '1' = some 0x1 ∧ formDigit? '2' = some 0x2 ∧
      formDigit? '3' = some 0x3 ∧ formDigit? '4' = some 0x4 ∧ formDigit? '5' = some 0x5 ∧
      formDigit? '6' = some 0x6 ∧ formDigit? '7' = some 0x7 ∧ formDigit? '8' = some 0x8 ∧
      formDigit? '9' = some 0x9 ∧ formDigit? 'A' = some 0xA ∧ formDigit? 'B' = some 0xB ∧
      formDigit? 'C' = some 0xC ∧ formDigit? 'D' = some 0xD ∧ formDigit? 'E' = some 0xE ∧
      formDigit? 'F' = some 0xF ∧ formDigit? 'X' = none ∧ formDigit? 'Y' = none ∧
      formDigit? 'N' = none := by
  and_intros <;> rfl

/-- The hexadecimal digits of a word are as a form, such as FX33, asks for them. -/
def Word.fits (w : Word) (form : String) : Bool :=
  match form.toList.map formDigit? with
  | [a, b, c, d] =>
    a.all (w.group.val == ·) && b.all (w.x.val == ·) && c.all (w.y.val == ·) && d.all (w.n.val == ·)
  | _ => false

/-- The forms of the words of the machine, each with the instruction that is read from such a
word. -/
def instructionSet : List (String × (Word → Instr)) :=
  [ ("00E0", fun _ => .clear),
    ("00EE", fun _ => .ret),
    ("1NNN", fun w => .jump w.nnn),
    ("2NNN", fun w => .call w.nnn),
    ("3XNN", fun w => .skipIf (.eqByte w.x w.nn)),
    ("4XNN", fun w => .skipIf (.neByte w.x w.nn)),
    ("5XY0", fun w => .skipIf (.eqReg w.x w.y)),
    ("6XNN", fun w => .loadByte w.x w.nn),
    ("7XNN", fun w => .addByte w.x w.nn),
    ("8XY0", fun w => .alu .copy w.x w.y),
    ("8XY1", fun w => .alu .or w.x w.y),
    ("8XY2", fun w => .alu .and w.x w.y),
    ("8XY3", fun w => .alu .xor w.x w.y),
    ("8XY4", fun w => .alu .add w.x w.y),
    ("8XY5", fun w => .alu .sub w.x w.y),
    ("8XY6", fun w => .alu .shiftRight w.x w.y),
    ("8XY7", fun w => .alu .subFrom w.x w.y),
    ("8XYE", fun w => .alu .shiftLeft w.x w.y),
    ("9XY0", fun w => .skipIf (.neReg w.x w.y)),
    ("ANNN", fun w => .loadI w.nnn),
    ("BNNN", fun w => .jumpV0 w.nnn),
    ("CXNN", fun w => .random w.x w.nn),
    ("DXYN", fun w => .draw w.x w.y w.n),
    ("EX9E", fun w => .skipKey w.x true),
    ("EXA1", fun w => .skipKey w.x false),
    ("FX07", fun w => .readDelay w.x),
    ("FX0A", fun w => .awaitKey w.x),
    ("FX15", fun w => .setDelay w.x),
    ("FX18", fun w => .setSound w.x),
    ("FX1E", fun w => .addI w.x),
    ("FX29", fun w => .glyph w.x),
    ("FX33", fun w => .storeDigits w.x),
    ("FX55", fun w => .saveRegisters w.x),
    ("FX65", fun w => .loadRegisters w.x) ]

/-- Forms that are wider than a form of the instruction set by one digit, which decoding ignores. -/
def looseForms : List (String × String) :=
  [("0NE0", "00E0"), ("0NEE", "00EE"), ("5XYN", "5XY0"), ("9XYN", "9XY0")]

def Alu.form : Alu → String
  | copy => "8XY0"
  | or => "8XY1"
  | and => "8XY2"
  | xor => "8XY3"
  | add => "8XY4"
  | sub => "8XY5"
  | shiftRight => "8XY6"
  | subFrom => "8XY7"
  | shiftLeft => "8XYE"

def Instr.form : Instr → String
  | .clear => "0NE0"
  | .ret => "0NEE"
  | .jump _ => "1NNN"
  | .call _ => "2NNN"
  | .skipIf (.eqByte ..) => "3XNN"
  | .skipIf (.neByte ..) => "4XNN"
  | .skipIf (.eqReg ..) => "5XYN"
  | .loadByte .. => "6XNN"
  | .addByte .. => "7XNN"
  | .alu f .. => f.form
  | .skipIf (.neReg ..) => "9XYN"
  | .loadI _ => "ANNN"
  | .jumpV0 _ => "BNNN"
  | .random .. => "CXNN"
  | .draw .. => "DXYN"
  | .skipKey _ true => "EX9E"
  | .skipKey _ false => "EXA1"
  | .readDelay _ => "FX07"
  | .awaitKey _ => "FX0A"
  | .setDelay _ => "FX15"
  | .setSound _ => "FX18"
  | .addI _ => "FX1E"
  | .glyph _ => "FX29"
  | .storeDigits _ => "FX33"
  | .saveRegisters _ => "FX55"
  | .loadRegisters _ => "FX65"

namespace Word

def readings (w : Word) : List Instr := instructionSet.map fun e => e.2 w

/-- A word has the form of an instruction, whose operands are read from it. -/
def Encodes (w : Word) (instr : Instr) : Prop := w.fits instr.form ∧ instr ∈ w.readings

def Listed (w : Word) : Prop := ∃ e ∈ instructionSet, w.fits e.1

/-- A word has a form of the instruction set but for a digit that decoding ignores. -/
def Stray (w : Word) : Prop := ∃ f ∈ looseForms, w.fits f.1 ∧ ¬ w.fits f.2

theorem nn_toNat (w : Word) : w.nn.toNat = 16 * w.y.val + w.n.val := by
  simp only [nn, y, n, UInt8.toNat_ofNat']
  omega

theorem fits_of_nn (w : Word) (form : String) (g nn : Nat) (hg : w.group.val = g)
    (hnn : w.nn.toNat = nn)
    (hform : form.toList.map formDigit? = [some g, none, some (nn / 16), some (nn % 16)]) :
    w.fits form := by
  have hsplit := w.nn_toNat
  simp only [fits, hform, Option.all_some, Option.all_none, Bool.and_true, Bool.and_eq_true,
    beq_iff_eq]
  omega

theorem encodes_of_ofSystem? (w : Word) (instr : Instr) (hg : w.group.val = 0x0)
    (h : Instr.ofSystem? w = some instr) : w.Encodes instr := by
  unfold Instr.ofSystem? at h
  split at h
  case h_3 => cases h
  all_goals
    next hn =>
    cases h
    exact ⟨fits_of_nn w _ _ _ hg hn (by simp [Instr.form, formDigit?_digits]),
      by simp [readings, instructionSet]⟩

theorem encodes_of_ofKeyGroup? (w : Word) (instr : Instr) (hg : w.group.val = 0xE)
    (h : Instr.ofKeyGroup? w = some instr) : w.Encodes instr := by
  unfold Instr.ofKeyGroup? at h
  split at h
  case h_3 => cases h
  all_goals
    next hn =>
    cases h
    exact ⟨fits_of_nn w _ _ _ hg hn (by simp [Instr.form, formDigit?_digits]),
      by simp [readings, instructionSet]⟩

theorem encodes_of_ofMiscGroup? (w : Word) (instr : Instr) (hg : w.group.val = 0xF)
    (h : Instr.ofMiscGroup? w = some instr) : w.Encodes instr := by
  unfold Instr.ofMiscGroup? at h
  split at h
  case h_10 => cases h
  all_goals
    next hn =>
    cases h
    exact ⟨fits_of_nn w _ _ _ hg hn (by simp [Instr.form, formDigit?_digits]),
      by simp [readings, instructionSet]⟩

theorem encodes_of_ofNibble? (w : Word) (f : Alu) (hg : w.group.val = 0x8)
    (h : Alu.ofNibble? w.n = some f) : w.Encodes (.alu f w.x w.y) := by
  unfold Alu.ofNibble? at h
  split at h
  case h_10 => cases h
  all_goals
    next hn =>
    cases h
    exact ⟨by simp [fits, Instr.form, Alu.form, formDigit?_digits, hg, hn],
      by simp [readings, instructionSet]⟩

theorem encodes_of_decode? (w : Word) (instr : Instr) (h : w.decode? = some instr) :
    w.Encodes instr := by
  unfold decode? at h
  split at h
  case h_1 hg => exact encodes_of_ofSystem? w instr hg h
  case h_9 hg =>
    obtain ⟨f, hf, rfl⟩ := Option.map_eq_some_iff.mp h
    exact encodes_of_ofNibble? w f hg hf
  case h_15 hg => exact encodes_of_ofKeyGroup? w instr hg h
  case h_16 hg => exact encodes_of_ofMiscGroup? w instr hg h
  case h_17 => cases h
  -- In the other groups every word encodes something.
  all_goals
    next hg =>
    cases h
    exact ⟨by simp [fits, Instr.form, formDigit?_digits, hg],
      by simp [readings, instructionSet]⟩

theorem decode?_of_fits (w : Word) :
    ∀ e ∈ instructionSet, w.fits (e.2 w).form → w.decode? = some (e.2 w) := by
  have hnn := w.nn_toNat
  simp only [instructionSet, List.forall_mem_cons, List.not_mem_nil, false_implies, implies_true,
    and_true]
  and_intros
  -- Each form fixes the digits that decoding looks at.
  all_goals
    intro hf
    simp [fits, Instr.form, Alu.form, formDigit?_digits] at hf
    simp [decode?, Instr.ofSystem?, Instr.ofKeyGroup?, Instr.ofMiscGroup?, Alu.ofNibble?, hf, hnn]

theorem decode?_eq_some_iff (w : Word) (instr : Instr) :
    w.decode? = some instr ↔ w.Encodes instr := by
  refine ⟨encodes_of_decode? w instr, ?_⟩
  rintro ⟨hf, hr⟩
  obtain ⟨e, he, rfl⟩ := List.mem_map.mp hr
  exact decode?_of_fits w e he hf

theorem decode?_eq_none_iff (w : Word) :
    w.decode? = none ↔ ∀ e ∈ instructionSet, ¬ w.fits (e.2 w).form := by
  rw [Option.eq_none_iff_forall_ne_some]
  constructor
  · intro h e he hf
    exact h (e.2 w) (decode?_of_fits w e he hf)
  · intro h instr hd
    obtain ⟨hf, hr⟩ := w.encodes_of_decode? instr hd
    obtain ⟨e, he, rfl⟩ := List.mem_map.mp hr
    exact h e he hf

/-- Decoding looks at all the digits that a form fixes, but for the loose forms. -/
theorem form_cases (w : Word) :
    ∀ e ∈ instructionSet, (e.2 w).form = e.1 ∨ ((e.2 w).form, e.1) ∈ looseForms := by
  simp [instructionSet, Instr.form, Alu.form, looseForms]

theorem exists_of_mem_looseForms (w : Word) :
    ∀ f ∈ looseForms, ∃ e ∈ instructionSet, (e.2 w).form = f.1 ∧ e.1 = f.2 := by
  simp [instructionSet, Instr.form, Alu.form, looseForms]

theorem fits_loose (w : Word) : ∀ f ∈ looseForms, w.fits f.2 → w.fits f.1 := by
  simp +contextual [looseForms, fits, formDigit?_digits]

/-- A word is taken for an instruction if it has the form of one, loose forms included. -/
theorem decode?_ne_none_iff (w : Word) : w.decode? ≠ none ↔ w.Listed ∨ w.Stray := by
  rw [ne_eq, decode?_eq_none_iff]
  constructor
  · intro h
    obtain ⟨e, he, hf⟩ : ∃ e ∈ instructionSet, w.fits (e.2 w).form := by simpa using h
    by_cases hl : w.fits e.1
    · exact Or.inl ⟨e, he, hl⟩
    · rcases w.form_cases e he with hform | hloose
      · rw [hform] at hf
        exact absurd hf hl
      · exact Or.inr ⟨((e.2 w).form, e.1), hloose, hf, hl⟩
  · rintro (⟨e, he, hl⟩ | ⟨f, hf, hl, -⟩) h
    · apply h e he
      rcases w.form_cases e he with hform | hloose
      · rwa [hform]
      · exact w.fits_loose ((e.2 w).form, e.1) hloose hl
    · obtain ⟨e, he, hform, -⟩ := w.exists_of_mem_looseForms f hf
      apply h e he
      rwa [hform]

theorem decode?_eq_none_iff_neither (w : Word) : w.decode? = none ↔ ¬ w.Listed ∧ ¬ w.Stray := by
  rw [← not_or, ← decode?_ne_none_iff, Decidable.not_not]

theorem not_loose_of_mem_instructionSet :
    ∀ e ∈ instructionSet, ∀ f ∈ looseForms, e.1 ≠ f.1 := by decide

theorem looseForms_injective :
    ∀ f ∈ looseForms, ∀ f' ∈ looseForms, f.1 = f'.1 → f.2 = f'.2 := by decide

theorem Stray.not_listed {w : Word} (h : w.Stray) : ¬ w.Listed := by
  rintro ⟨e, he, hl⟩
  obtain ⟨f, hf, hfits, hnot⟩ := h
  obtain ⟨e', he', hform, -⟩ := w.exists_of_mem_looseForms f hf
  have hd' := w.decode?_of_fits e' he' (by rwa [hform])
  have hloose := w.form_cases e he
  have hwide : w.fits (e.2 w).form := by
    rcases hloose with he1 | hloose
    · rwa [he1]
    · exact w.fits_loose ((e.2 w).form, e.1) hloose hl
  -- Both rows are read from the word, so they have the same form.
  have hsame : e'.2 w = e.2 w := by
    rw [← Option.some.injEq, ← hd', w.decode?_of_fits e he hwide]
  rw [← hsame, hform] at hloose
  rcases hloose with he1 | hloose
  · exact not_loose_of_mem_instructionSet e he f hf he1.symm
  · have heq := looseForms_injective f hf _ hloose rfl
    rw [heq] at hnot
    exact hnot hl

def plain (w : Word) : Word :=
  UInt16.ofNat (if w.group.val = 0 then w.nn.toNat else 16 * (w.toNat / 16))

theorem plain_digits (w : Word) :
    w.plain.group = w.group ∧ w.plain.y = w.y ∧
      (w.group.val = 0 → w.plain.x.val = 0 ∧ w.plain.n = w.n) ∧
      (w.group.val ≠ 0 → w.plain.x = w.x ∧ w.plain.n.val = 0) := by
  have h := w.toNat_lt
  simp only [Fin.ext_iff, plain, group, x, y, n, nn, UInt16.toNat_ofNat', UInt8.toNat_ofNat']
  split
  · and_intros <;> omega
  · and_intros <;> omega

theorem plain_fits (w : Word) : ∀ f ∈ looseForms, w.fits f.1 → w.plain.fits f.2 := by
  obtain ⟨hgroup, hy, hsystem, hother⟩ := w.plain_digits
  simp only [looseForms, List.forall_mem_cons, List.not_mem_nil, false_implies, implies_true,
    and_true]
  and_intros
  all_goals
    intro hf
    simp [fits, formDigit?_digits] at hf
    simp [fits, formDigit?_digits, hgroup, hy, hsystem, hother, hf]

theorem decode?_plain (w : Word) : ∀ f ∈ looseForms, w.fits f.1 → w.plain.decode? = w.decode? := by
  obtain ⟨hgroup, hy, hsystem, hother⟩ := w.plain_digits
  have hnn := w.nn_toNat
  have hnn' := w.plain.nn_toNat
  simp only [looseForms, List.forall_mem_cons, List.not_mem_nil, false_implies, implies_true,
    and_true]
  and_intros
  all_goals
    intro hf
    simp [fits, formDigit?_digits] at hf
    simp [decode?, Instr.ofSystem?, hgroup, hy, hsystem, hother, hf, hnn, hnn']

theorem Stray.plain_listed {w : Word} (h : w.Stray) :
    w.plain.Listed ∧ w.plain.decode? = w.decode? := by
  obtain ⟨f, hf, hfits, -⟩ := h
  obtain ⟨e, he, -, heq⟩ := w.exists_of_mem_looseForms f hf
  have hplain := w.plain_fits f hf hfits
  rw [← heq] at hplain
  exact ⟨⟨e, he, hplain⟩, w.decode?_plain f hf hfits⟩

theorem ofInt_toNat (w : Word) : ofInt w.toNat = w := by
  have h := w.toNat_lt
  have hw := toNat_ofInt_of_lt w.toNat (by omega) (by omega)
  apply UInt16.toNat_inj.mp
  change (UInt16.ofInt w.toNat).toNat = w.toNat
  omega

end Word

namespace Machine

variable {σ : Type} [Surface σ]

theorem execute_error_iff (m : Machine σ) (w : Word) (fault : Fault) :
    (∃ m', m.execute w.toNat = .error fault m') ↔ m.registers.wordRefusal? w = some fault := by
  rw [execute, Word.ofInt_toNat]
  constructor
  · rintro ⟨m', h⟩
    exact (executeWord_error m m' w fault h).1
  · exact executeWord_of_refusal m w fault

theorem execute_unknown_iff (m : Machine σ) (w : Word) :
    (∃ m', m.execute w.toNat = .error (.unknownOpcode w.toNat) m') ↔ w.decode? = none := by
  rw [execute_error_iff, Registers.wordRefusal?]
  cases hd : w.decode? with
  | none => simp
  | some instr => cases instr <;> simp [Registers.refusal?]

theorem execute_congr (m : Machine σ) (w w' : Word) (h : w'.decode? = w.decode?)
    (hne : w.decode? ≠ none) : m.execute w.toNat = m.execute w'.toNat := by
  obtain ⟨instr, hd⟩ := Option.ne_none_iff_exists'.mp hne
  rw [execute, execute, Word.ofInt_toNat, Word.ofInt_toNat]
  simp only [executeWord, h, hd]

theorem execute_of_fits (m n : Machine σ) (w : Word) (e : String × (Word → Instr))
    (he : e ∈ instructionSet) (hf : w.fits (e.2 w).form) (next : Int)
    (hp : m.perform (e.2 w) = .ok next n) : m.execute w.toNat = .ok () (n.setPc next) := by
  have hd := w.decode?_of_fits e he hf
  simp only [execute, Word.ofInt_toNat, executeWord, hd, hp]

/-- A word is refused as unknown exactly if it has neither a form of the instruction set nor a loose
one. A word of a loose form is executed like the word of the set that has a zero for the digit that
is ignored. -/
theorem unknown_iff_neither_listed_nor_stray (m : Machine σ) (w : Word) :
    ((∃ m', m.execute w.toNat = .error (.unknownOpcode w.toNat) m') ↔ ¬ w.Listed ∧ ¬ w.Stray) ∧
      (w.Stray → ¬ w.Listed ∧ w.plain.Listed ∧ m.execute w.toNat = m.execute w.plain.toNat) := by
  constructor
  · rw [execute_unknown_iff, w.decode?_eq_none_iff_neither]
  · intro h
    obtain ⟨hlisted, hdecode⟩ := h.plain_listed
    have hne := w.decode?_ne_none_iff.mpr (Or.inr h)
    exact ⟨h.not_listed, hlisted, execute_congr m w w.plain hdecode hne⟩

/-- The screen is cleared whatever the second digit of the word. -/
theorem unknown_iff_neither_listed_nor_stray_clear :
    let m : Machine Display := { surface := .standard, random := .zeros }
    (0x01E0 : Word).Stray ∧ ¬ (0x01E0 : Word).Listed ∧ m.execute 0x01E0 = m.execute 0x00E0 := by
  intro m
  have hstray : (0x01E0 : Word).Stray := by
    unfold Word.Stray
    decide
  have hplain : ((0x01E0 : Word).plain.toNat : Int) = 0x00E0 := by decide
  obtain ⟨hlisted, -, hsame⟩ := (unknown_iff_neither_listed_nor_stray m 0x01E0).2 hstray
  rw [hplain] at hsame
  exact ⟨hstray, hlisted, hsame⟩

/-- A word that has no form of the instruction set, and yet is executed: V1 and V2 are equal, and
the next word is skipped. -/
theorem stray_word_executed :
    let m : Machine Display := { surface := .standard, random := .zeros }
    ¬ (0x5121 : Word).Listed ∧ m.execute 0x5121 = .ok () (m.setPc 0x204) := by
  refine ⟨?_, rfl⟩
  unfold Word.Listed
  decide

end Machine

end Chip8
