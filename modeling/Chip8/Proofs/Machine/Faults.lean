import Chip8.Proofs.Machine.Bounds
import Chip8.Proofs.Machine.InstructionSet
import Chip8.Proofs.Machine.Reach

namespace Chip8

/-- The ways in which a word is refused, each with its fault. -/
inductive Refused (r : Registers) (w : Word) : Fault → Prop where
  | unknown (hl : ¬ w.Listed) (hs : ¬ w.Stray) : Refused r w (.unknownOpcode w.toNat)
  | emptyStack (hw : w.fits "0NEE") (h : r.stack = []) : Refused r w .stackUnderflow
  | fullStack (hw : w.fits "2NNN") (h : r.stack.length = 16) :
    Refused r w (.stackOverflow (r.pc + 2))
  | spriteOutside (hw : w.fits "DXYN") (h : 0x1000 < r.i + w.n.val) :
    Refused r w (.outOfRange r.i w.n.val)
  | digitsOutside (hw : w.fits "FX33") (h : 0xFFD < r.i) : Refused r w (.outOfRange r.i 3)

theorem Memory.not_holds_iff (addr length : Int) (ha : 0 ≤ addr) (hl : 0 ≤ length) :
    ¬ Holds addr length ↔ 0x1000 < addr + length := by
  unfold Holds
  omega

namespace Registers

variable {r : Registers}

theorem refused_of_refusal? (h : r.InRange) (w : Word) (instr : Instr) (fault : Fault)
    (henc : w.Encodes instr) (hr : r.refusal? instr = some fault) : Refused r w fault := by
  obtain ⟨hf, hread⟩ := henc
  cases instr with
  | ret =>
    simp only [refusal?, Option.ite_none_right_eq_some, Option.some.injEq] at hr
    obtain ⟨hs, rfl⟩ := hr
    exact .emptyStack hf hs
  | call target =>
    simp only [refusal?, Option.ite_none_left_eq_some, Option.some.injEq] at hr
    obtain ⟨hs, rfl⟩ := hr
    have hd := h.depth
    simp only [stackDepth] at hs hd
    exact .fullStack hf (by omega)
  | draw x y rows =>
    obtain ⟨-, -, rfl⟩ : x = w.x ∧ y = w.y ∧ rows = w.n := by
      simpa [Word.readings, instructionSet] using hread
    simp only [refusal?, Option.ite_none_left_eq_some, Option.some.injEq] at hr
    obtain ⟨ho, rfl⟩ := hr
    exact .spriteOutside hf ((Memory.not_holds_iff _ _ h.i.1 (by omega)).mp ho)
  | storeDigits x =>
    simp only [refusal?, Option.ite_none_left_eq_some, Option.some.injEq] at hr
    obtain ⟨ho, rfl⟩ := hr
    have ho := (Memory.not_holds_iff _ _ h.i.1 (by omega)).mp ho
    exact .digitsOutside hf (by omega)
  | _ => simp [refusal?] at hr

theorem wordRefusal?_of_refused (h : r.InRange) (w : Word) (fault : Fault)
    (hr : Refused r w fault) : r.wordRefusal? w = some fault := by
  have hdecode (instr : Instr) (hf : w.fits instr.form) (hread : instr ∈ w.readings) :
      r.wordRefusal? w = r.refusal? instr := by
    simp only [wordRefusal?, (w.decode?_eq_some_iff instr).mpr ⟨hf, hread⟩]
  cases hr with
  | unknown hl hs =>
    have hd : w.decode? = none := w.decode?_eq_none_iff_neither.mpr ⟨hl, hs⟩
    simp only [wordRefusal?, hd]
  | emptyStack hw hs =>
    rw [hdecode .ret hw (by simp [Word.readings, instructionSet]), refusal?, if_pos hs]
  | fullStack hw hs =>
    rw [hdecode (.call w.nnn) hw (by simp [Word.readings, instructionSet]), refusal?, if_neg]
    simp only [stackDepth]
    omega
  | spriteOutside hw ho =>
    rw [hdecode (.draw w.x w.y w.n) hw (by simp [Word.readings, instructionSet]), refusal?, if_neg]
    exact (Memory.not_holds_iff _ _ h.i.1 (by omega)).mpr ho
  | digitsOutside hw ho =>
    rw [hdecode (.storeDigits w.x) hw (by simp [Word.readings, instructionSet]), refusal?, if_neg]
    exact (Memory.not_holds_iff _ _ h.i.1 (by omega)).mpr (by omega)

theorem wordRefusal?_eq_some_iff (h : r.InRange) (w : Word) (fault : Fault) :
    r.wordRefusal? w = some fault ↔ Refused r w fault := by
  refine ⟨?_, wordRefusal?_of_refused h w fault⟩
  intro hr
  cases hd : w.decode? with
  | none =>
    simp only [wordRefusal?, hd, Option.some.injEq] at hr
    obtain ⟨hl, hs⟩ := w.decode?_eq_none_iff_neither.mp hd
    rw [← hr]
    exact .unknown hl hs
  | some instr =>
    simp only [wordRefusal?, hd] at hr
    exact refused_of_refusal? h w instr fault (w.encodes_of_decode? instr hd) hr

end Registers

namespace Machine

variable {σ : Type}

theorem fetch_error_iff (m : Machine σ) (hpc : 0 ≤ m.registers.pc) (fault : Fault) :
    m.fetch = .error fault ↔
      0xFFE < m.registers.pc ∧ fault = .outOfRange m.registers.pc 2 := by
  have hholds := Memory.not_holds_iff m.registers.pc 2 hpc (by omega)
  by_cases hh : Memory.Holds m.registers.pc 2
  · have hle : ¬ 0xFFE < m.registers.pc := by
      obtain ⟨-, -, h⟩ := hh
      omega
    simp [fetch, hh, hle]
  · have hlt : 0xFFE < m.registers.pc := by
      have := hholds.mp hh
      omega
    simp [fetch, hh, hlt, eq_comm]

variable [Surface σ]

theorem step_error_iff (m : Machine σ) (fault : Fault) :
    (∃ m', m.step = .error fault m') ↔ m.stepRefusal? = some fault := by
  constructor
  · rintro ⟨m', h⟩
    exact (step_error m m' fault h).1
  · exact step_of_refusal m fault

/-- A running machine fails a step exactly if there is no word at PC, or if that word is refused. -/
theorem step_error_cases (m : Machine σ) (h : m.registers.InRange) (hm : m.mode = .running)
    (fault : Fault) :
    (∃ m', m.step = .error fault m') ↔
      0xFFE < m.registers.pc ∧ fault = .outOfRange m.registers.pc 2 ∨
        ∃ w, m.fetch = .ok w ∧ Refused m.registers w fault := by
  rw [step_error_iff, ← fetch_error_iff m h.pc.1]
  simp only [stepRefusal?, hm]
  cases hf : m.fetch with
  | error cause => simp
  | ok w => simp [Registers.wordRefusal?_eq_some_iff h]

def unfailing : List String := ["FX55", "FX65", "FX29", "BNNN", "EX9E", "EXA1"]

theorem instr_of_unfailing (w : Word) (r : Registers) :
    ∀ form ∈ unfailing, ∃ e ∈ instructionSet, (e.2 w).form = form ∧ r.refusal? (e.2 w) = none := by
  simp [unfailing, instructionSet, Instr.form, Registers.refusal?]

theorem step_of_unfailing (m : Machine σ) (w : Word) (hm : m.mode = .running)
    (hf : m.fetch = .ok w) (form : String) (hmem : form ∈ unfailing) (hform : w.fits form) :
    ∃ m', m.step = .ok true m' := by
  obtain ⟨e, he, hef, hr⟩ := instr_of_unfailing w m.registers form hmem
  have hd := w.decode?_of_fits e he (by rwa [hef])
  have hnone : m.stepRefusal? = none := by
    simp only [stepRefusal?, hm, hf, Registers.wordRefusal?, hd, hr]
  obtain ⟨fault, m', hs, -⟩ | ⟨m', hs, -⟩ := step_cases m hm
  · have hsome := (step_error m m' fault hs).1
    rw [hnone] at hsome
    cases hsome
  · exact ⟨m', hs⟩

/-- Each kind of fault has its own causes, and no step of a running machine fails without one. -/
structure FailsOnlyWhen (m : Machine σ) : Prop where
  outOfRange : (∃ addr length m', m.step = .error (.outOfRange addr length) m') ↔
    0xFFE < m.registers.pc ∨ ∃ w, m.fetch = .ok w ∧
      (w.fits "DXYN" ∧ 0x1000 < m.registers.i + w.n.val ∨ w.fits "FX33" ∧ 0xFFD < m.registers.i)
  stackUnderflow : (∃ m', m.step = .error .stackUnderflow m') ↔
    ∃ w, m.fetch = .ok w ∧ w.fits "0NEE" ∧ m.registers.stack = []
  stackOverflow : (∃ addr m', m.step = .error (.stackOverflow addr) m') ↔
    ∃ w, m.fetch = .ok w ∧ w.fits "2NNN" ∧ m.registers.stack.length = 16
  unknownOpcode : ∀ word, (∃ m', m.step = .error (.unknownOpcode word) m') ↔
    ∃ w, m.fetch = .ok w ∧ word = w.toNat ∧ ¬ w.Listed ∧ ¬ w.Stray
  invalidRegister : ∀ index m', m.step ≠ .error (.invalidRegister index) m'
  succeeds : ∀ w, m.fetch = .ok w → ∀ form ∈ unfailing, w.fits form → ∃ m', m.step = .ok true m'
  /-- The bytes that a transfer of registers reaches lie in memory, wherever I points. -/
  transfer : ∀ x, Memory.transferCount m.registers.i x = 0 ∨
    Memory.Holds m.registers.i (Memory.transferCount m.registers.i x)

theorem step_fails_only_when (m : Machine σ) (h : m.registers.InRange) (hm : m.mode = .running) :
    m.FailsOnlyWhen where
  outOfRange := by
    simp only [step_error_cases m h hm]
    constructor
    · rintro ⟨addr, length, ⟨hpc, -⟩ | ⟨w, hf, hr⟩⟩
      · exact Or.inl hpc
      · cases hr with
        | spriteOutside hw ho => exact Or.inr ⟨w, hf, Or.inl ⟨hw, ho⟩⟩
        | digitsOutside hw ho => exact Or.inr ⟨w, hf, Or.inr ⟨hw, ho⟩⟩
    · rintro (hpc | ⟨w, hf, ⟨hw, ho⟩ | ⟨hw, ho⟩⟩)
      · exact ⟨_, _, Or.inl ⟨hpc, rfl⟩⟩
      · exact ⟨_, _, Or.inr ⟨w, hf, .spriteOutside hw ho⟩⟩
      · exact ⟨_, _, Or.inr ⟨w, hf, .digitsOutside hw ho⟩⟩
  stackUnderflow := by
    rw [step_error_cases m h hm]
    constructor
    · rintro (⟨-, hfault⟩ | ⟨w, hf, hr⟩)
      · cases hfault
      · cases hr with
        | emptyStack hw hs => exact ⟨w, hf, hw, hs⟩
    · rintro ⟨w, hf, hw, hs⟩
      exact Or.inr ⟨w, hf, .emptyStack hw hs⟩
  stackOverflow := by
    simp only [step_error_cases m h hm]
    constructor
    · rintro ⟨addr, ⟨-, hfault⟩ | ⟨w, hf, hr⟩⟩
      · cases hfault
      · cases hr with
        | fullStack hw hs => exact ⟨w, hf, hw, hs⟩
    · rintro ⟨w, hf, hw, hs⟩
      exact ⟨_, Or.inr ⟨w, hf, .fullStack hw hs⟩⟩
  unknownOpcode word := by
    rw [step_error_cases m h hm]
    constructor
    · rintro (⟨-, hfault⟩ | ⟨w, hf, hr⟩)
      · cases hfault
      · cases hr with
        | unknown hl hs => exact ⟨w, hf, rfl, hl, hs⟩
    · rintro ⟨w, hf, rfl, hl, hs⟩
      exact Or.inr ⟨w, hf, .unknown hl hs⟩
  invalidRegister index m' hs := by
    obtain ⟨-, hfault⟩ | ⟨w, -, hr⟩ := (step_error_cases m h hm _).mp ⟨m', hs⟩
    · cases hfault
    · cases hr
  succeeds w hf form hmem hform := step_of_unfailing m w hm hf form hmem hform
  transfer x := by
    rcases Nat.eq_zero_or_pos (Memory.transferCount m.registers.i x) with hzero | hpos
    · exact Or.inl hzero
    · obtain ⟨hi, hend⟩ := Memory.transferCount_bounds m.registers.i x hpos
      exact Or.inr ⟨hi, by omega, hend⟩

/-- A sprite of no rows behind the end of memory is drawn; one of a single row is not. -/
theorem step_fails_only_when_at_edge :
    let m : Machine Display :=
      { surface := .standard, random := .zeros,
        memory := .holding [0xD0, 0x00, 0xD0, 0x01] (by decide), registers := { i := 0x1000 } }
    let m' := m.setPc 0x202
    m.registers.InRange ∧ m'.registers.InRange ∧ m.FailsOnlyWhen ∧
      (¬ ∃ addr length n, m.step = .error (.outOfRange addr length) n) ∧
      ∃ addr length n, m'.step = .error (.outOfRange addr length) n := by
  intro m m'
  have hr : m.registers.InRange := by
    constructor <;> simp [m, programStart, Registers.stackDepth]
  have hr' : m'.registers.InRange := hr.withPc 0x202
  have hbytes : m.memory.byte 0x200 = 0xD0 ∧ m.memory.byte 0x201 = 0x00 ∧
      m.memory.byte 0x202 = 0xD0 ∧ m.memory.byte 0x203 = 0x01 := by decide +kernel
  obtain ⟨h0, h1, h2, h3⟩ := hbytes
  have hf : m.fetch = .ok 0xD000 := by
    change Except.ok (Word.ofBytes (m.memory.byte 0x200) (m.memory.byte 0x201)) = _
    rw [h0, h1]
    rfl
  have hf' : m'.fetch = .ok 0xD001 := by
    change Except.ok (Word.ofBytes (m.memory.byte 0x202) (m.memory.byte 0x203)) = _
    rw [h2, h3]
    rfl
  have h : m.FailsOnlyWhen := step_fails_only_when m hr rfl
  have h' : m'.FailsOnlyWhen := step_fails_only_when m' hr' rfl
  refine ⟨hr, hr', h, ?_, ?_⟩
  · rw [h.outOfRange]
    rintro (hpc | ⟨w, hw, hcause⟩)
    · exact absurd hpc (by decide)
    · rw [hf, Except.ok.injEq] at hw
      subst hw
      revert hcause
      decide
  · exact h'.outOfRange.mpr (Or.inr ⟨0xD001, hf', Or.inl (by decide)⟩)

end Machine

end Chip8
