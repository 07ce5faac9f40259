import Chip8.Proofs.Machine.Footprint

namespace Chip8

/-- The forms of the operations that set a flag, each with the equation between the operands in VX
and VY, the value that is stored and the flag. -/
def flagEquations : List (String × (Int → Int → Int → Int → Prop)) :=
  [ ("8XY4", fun a b value flag => 256 * flag + value = a + b),
    ("8XY5", fun a b value flag => value = a - b + 256 * (1 - flag)),
    ("8XY6", fun _ b value flag => 2 * value + flag = b),
    ("8XY7", fun a b value flag => value = b - a + 256 * (1 - flag)),
    ("8XYE", fun _ b value flag => 256 * flag + value = 2 * b) ]

def unflaggedForms : List String := ["8XY0", "8XY1", "8XY2", "8XY3"]

/-- A byte and a bit that solve an equation between operands, value and flag. -/
structure Solves (equation : Int → Int → Int → Int → Prop) (a b value flag : Int) : Prop where
  byte : 0 ≤ value ∧ value ≤ 255
  bit : flag = 0 ∨ flag = 1
  holds : equation a b value flag

/-- The operands determine both the value and the flag. -/
theorem solves_unique (a b value flag value' flag' : Int) :
    ∀ e ∈ flagEquations, Solves e.2 a b value flag → Solves e.2 a b value' flag' →
      value' = value ∧ flag' = flag := by
  simp only [flagEquations, List.forall_mem_cons, List.not_mem_nil, false_implies, implies_true,
    and_true]
  and_intros
  all_goals
    rintro ⟨hbyte, hbit, h⟩ ⟨hbyte', hbit', h'⟩
    omega

theorem solves_of_bytes {equation : Int → Int → Int → Int → Prop} {a b : Int}
    (value flag : UInt8) (hbit : flag.toNat ≤ 1) (h : equation a b value.toNat flag.toNat) :
    Solves equation a b value.toNat flag.toNat := by
  have hbyte := value.toNat_lt
  exact ⟨by omega, by omega, h⟩

theorem add_carry (a b : UInt8) :
    256 * ((if 256 ≤ a.toNat + b.toNat then 1 else 0 : UInt8).toNat : Int) + (a + b).toNat =
      a.toNat + b.toNat := by
  have ha := a.toNat_lt
  have hb := b.toNat_lt
  rw [UInt8.toNat_add]
  split
  · rw [UInt8.toNat_one]
    omega
  · rw [UInt8.toNat_zero]
    omega

theorem sub_borrow (a b : UInt8) :
    ((a - b).toNat : Int) =
      a.toNat - b.toNat + 256 * (1 - (if b ≤ a then 1 else 0 : UInt8).toNat) := by
  have ha := a.toNat_lt
  have hb := b.toNat_lt
  rw [UInt8.toNat_sub]
  split
  · next h =>
    have hle := UInt8.le_iff_toNat_le.mp h
    rw [UInt8.toNat_one]
    omega
  · next h =>
    have hlt := mt UInt8.le_iff_toNat_le.mpr h
    rw [UInt8.toNat_zero]
    omega

theorem shiftRight_bit (b : UInt8) :
    2 * ((b / 2).toNat : Int) + (b % 2).toNat = b.toNat := by
  have hhigh : (b / 2).toNat = b.toNat / 2 := UInt8.toNat_div b 2
  have hlow : (b % 2).toNat = b.toNat % 2 := UInt8.toNat_mod b 2
  omega

theorem shiftLeft_bit (b : UInt8) :
    256 * ((b / 128).toNat : Int) + (2 * b).toNat = 2 * b.toNat := by
  have hb := b.toNat_lt
  have hhigh : (b / 128).toNat = b.toNat / 128 := UInt8.toNat_div b 128
  have hlow : (2 * b).toNat = 2 * b.toNat % 256 := UInt8.toNat_mul 2 b
  omega

theorem eval_solves :
    ∀ e ∈ flagEquations, ∃ f : Alu, f.form = e.1 ∧ ∀ a b : UInt8, ∃ bit,
      (f.eval a b).2 = some bit ∧ Solves e.2 a.toNat b.toNat (f.eval a b).1.toNat bit.toNat := by
  have hflag (c : Prop) [Decidable c] : (if c then 1 else 0 : UInt8).toNat ≤ 1 := by
    split <;> decide
  simp only [flagEquations, List.forall_mem_cons, List.not_mem_nil, false_implies, implies_true,
    and_true]
  and_intros
  · exact ⟨.add, rfl, fun a b => ⟨_, rfl, solves_of_bytes _ _ (hflag _) (add_carry a b)⟩⟩
  · exact ⟨.sub, rfl, fun a b => ⟨_, rfl, solves_of_bytes _ _ (hflag _) (sub_borrow a b)⟩⟩
  · refine ⟨.shiftRight, rfl, fun a b => ⟨_, rfl, solves_of_bytes _ _ ?_ (shiftRight_bit b)⟩⟩
    have hlow : (b % 2).toNat = b.toNat % 2 := UInt8.toNat_mod b 2
    omega
  · exact ⟨.subFrom, rfl, fun a b => ⟨_, rfl, solves_of_bytes _ _ (hflag _) (sub_borrow b a)⟩⟩
  · refine ⟨.shiftLeft, rfl, fun a b => ⟨_, rfl, solves_of_bytes _ _ ?_ (shiftLeft_bit b)⟩⟩
    have hb := b.toNat_lt
    have hhigh : (b / 128).toNat = b.toNat / 128 := UInt8.toNat_div b 128
    omega

theorem eval_unflagged :
    ∀ form ∈ unflaggedForms, ∃ f : Alu, f.form = form ∧ ∀ a b, (f.eval a b).2 = none := by
  simp only [unflaggedForms, List.forall_mem_cons, List.not_mem_nil, false_implies, implies_true,
    and_true]
  exact ⟨⟨.copy, rfl, fun _ _ => rfl⟩, ⟨.or, rfl, fun _ _ => rfl⟩, ⟨.and, rfl, fun _ _ => rfl⟩,
    ⟨.xor, rfl, fun _ _ => rfl⟩⟩

namespace Machine

variable {σ : Type}

def number (m : Machine σ) (x : Fin 16) : Int := (m.registers.get x).toNat

theorem number_mapRegisters (m : Machine σ) (f : Registers → Registers) (pc : Int) (x : Fin 16) :
    ((m.mapRegisters f).setPc pc).number x = ((f m.registers).get x).toNat := rfl

variable [Surface σ]

theorem execute_alu (m : Machine σ) (w : Word) (f : Alu) (hw : w.fits f.form) :
    m.execute w.toNat =
      .ok () ((m.mapRegisters fun r => r.alu f w.x w.y).setPc (m.registers.pc + 2)) := by
  have hd : w.decode? = some (.alu f w.x w.y) :=
    (w.decode?_eq_some_iff _).mpr ⟨hw, by cases f <;> simp [Word.readings, instructionSet]⟩
  simp only [execute, Word.ofInt_toNat, executeWord, hd, perform]

theorem execute_addByte (m : Machine σ) (w : Word) (hw : w.fits "7XNN") :
    m.execute w.toNat =
      .ok () ((m.mapRegisters fun r => r.set w.x (r.get w.x + w.nn)).setPc (m.registers.pc + 2)) :=
  m.execute_of_fits _ w ("7XNN", fun w => .addByte w.x w.nn) (by simp [instructionSet]) hw _ rfl

/-- What a word of arithmetic leaves in VX and in VF. -/
structure ArithmeticExact (m : Machine σ) (w : Word) : Prop where
  flagged : ∀ e ∈ flagEquations, w.fits e.1 → ∃ m', m.execute w.toNat = .ok () m' ∧
    (w.x ≠ Registers.flag →
      Solves e.2 (m.number w.x) (m.number w.y) (m'.number w.x) (m'.number Registers.flag)) ∧
    (∃ value, Solves e.2 (m.number w.x) (m.number w.y) value (m'.number Registers.flag)) ∧
    ∀ value flag, Solves e.2 (m.number w.x) (m.number w.y) value flag →
      m'.number Registers.flag = flag
  unflagged : ∀ form ∈ unflaggedForms, w.fits form → ∃ m', m.execute w.toNat = .ok () m' ∧
    (w.x ≠ Registers.flag → m'.number Registers.flag = m.number Registers.flag)
  addByte : w.fits "7XNN" → ∃ m', m.execute w.toNat = .ok () m' ∧
    m'.number w.x = (m.number w.x + w.nn.toNat) % 256 ∧
    (w.x ≠ Registers.flag → m'.number Registers.flag = m.number Registers.flag)

/-- Value and flag together lose nothing of a result, whichever registers hold the operands. The
flag is stored last, so that in VF it is all that remains; the operations without a flag leave VF
alone. -/
theorem arithmetic_exact (m : Machine σ) (w : Word) : m.ArithmeticExact w where
  flagged e he hw := by
    obtain ⟨f, hform, heval⟩ := eval_solves e he
    obtain ⟨bit, hbit, h⟩ := heval (m.registers.get w.x) (m.registers.get w.y)
    have halu := m.registers.alu_of_flag f w.x w.y bit hbit
    have hflag : (m.registers.alu f w.x w.y).get Registers.flag = bit := by
      rw [halu, Registers.get_set_self]
    refine ⟨_, m.execute_alu w f (hform ▸ hw), ?_⟩
    simp only [number_mapRegisters, hflag]
    refine ⟨?_, ⟨_, h⟩, ?_⟩
    · intro hx
      rwa [halu, Registers.get_set_of_ne _ _ _ _ hx, Registers.get_set_self]
    · intro value flag h'
      exact (solves_unique _ _ _ _ _ _ e he h' h).2
  unflagged form hform hw := by
    obtain ⟨f, rfl, hnone⟩ := eval_unflagged form hform
    have halu := m.registers.alu_of_no_flag f w.x w.y (hnone _ _)
    refine ⟨_, m.execute_alu w f hw, ?_⟩
    intro hx
    rw [number_mapRegisters, halu, Registers.get_set_of_ne _ _ _ _ hx.symm, number]
  addByte hw := by
    refine ⟨_, m.execute_addByte w hw, ?_, ?_⟩
    · rw [number_mapRegisters, Registers.get_set_self, UInt8.toNat_add, number]
      omega
    · intro hx
      rw [number_mapRegisters, Registers.get_set_of_ne _ _ _ _ hx.symm, number]

/-- VF is doubled, and the carry takes the place of the sum. -/
theorem arithmetic_exact_aliased :
    let m : Machine Display :=
      { surface := .standard, random := .zeros, registers := { v := .replicate 16 0x81 } }
    m.ArithmeticExact 0x8FF4 ∧
      ∃ m', m.execute 0x8FF4 = .ok () m' ∧ m'.number Registers.flag = 1 := by
  intro m
  have h : m.ArithmeticExact 0x8FF4 := arithmetic_exact m 0x8FF4
  obtain ⟨m', hm, -, -, hflag⟩ := h.flagged
    ("8XY4", fun a b value flag => 256 * flag + value = a + b) (by simp [flagEquations]) (by decide)
  exact ⟨h, m', hm, hflag 2 1 ⟨by decide, by decide, by decide⟩⟩

end Machine

end Chip8
