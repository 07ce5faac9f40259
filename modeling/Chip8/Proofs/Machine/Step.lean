import Chip8.Proofs.Machine.Event
import Chip8.Proofs.Machine.Refusal

namespace Chip8.Machine

variable {σ : Type} [Surface σ]

theorem perform_halted_cycles (m : Machine σ) (instr : Instr) :
    (left (m.perform instr)).halted = m.halted ∧ (left (m.perform instr)).cycles = m.cycles := by
  cases instr with
  | ret => cases h : m.registers.pop <;> simp [perform, h]
  | call target => cases h : m.registers.push (m.registers.pc + 2) <;> simp [perform, h]
  | draw x y rows =>
    cases h : m.memory.block m.registers.i rows.val <;> simp [perform, draw, h]
  | storeDigits x =>
    cases h : m.memory.load m.registers.i (decimalDigits (m.registers.get x)) <;>
      simp [perform, storeDigits, h]
  | _ => simp [perform, mapRegisters, noteKey, drawRandom, saveRegisters, loadRegisters]

theorem executeWord_halted_cycles (m : Machine σ) (w : Word) :
    (left (m.executeWord w)).halted = m.halted ∧
      (left (m.executeWord w)).cycles = m.cycles := by
  unfold executeWord
  cases hd : w.decode? with
  | none => by_cases hw : w.group.val = 0xE <;> simp [refuse, hw, noteKey]
  | some instr =>
    have hp := perform_halted_cycles m instr
    cases hr : m.perform instr with
    | ok next n => simpa [hr, setPc] using hp
    | error fault n => simpa [hr] using hp

/-- A step of a running machine either fails, and then leaves it running, or counts one cycle. -/
theorem step_cases (m : Machine σ) (hm : m.mode = .running) :
    (∃ fault m', m.step = .error fault m' ∧
      m'.mode = .running ∧ m'.halted = m.halted ∧ m'.cycles = m.cycles) ∨
    ∃ m', m.step = .ok true m' ∧ m'.halted = m.halted ∧ m'.cycles = m.cycles + 1 := by
  cases hs : m.step with
  | error fault m' =>
    left
    obtain ⟨-, rfl | ⟨x, rfl⟩⟩ := step_error m m' fault hs
    · exact ⟨fault, m', rfl, hm, rfl, rfl⟩
    · exact ⟨fault, m.noteKey x, rfl, hm, rfl, rfl⟩
  | ok answer m' =>
    right
    simp only [step, hm] at hs
    cases hf : m.fetch with
    | error fault => simp [hf] at hs
    | ok w =>
      have he := executeWord_halted_cycles m w
      cases hr : m.executeWord w with
      | error fault n => simp [hf, hr] at hs
      | ok done n =>
        simp only [hf, hr, EStateM.Result.ok.injEq] at hs
        obtain ⟨rfl, rfl⟩ := hs
        rw [hr, left_ok] at he
        exact ⟨_, rfl, he.1, by rw [he.2]⟩

theorem step_of_zero (m : Machine σ) (hm : m.mode = .running) (hf : m.fetch = .ok 0) :
    m.step = .error (.unknownOpcode 0) m := by
  have hdecode : (0 : Word).decode? = none := by decide
  have hgroup : (0 : Word).group.val ≠ 0xE := by decide
  simp only [step, hm, hf, executeWord, hdecode, refuse, if_neg hgroup]
  rfl

theorem runStep_of_ne_zero (m : Machine σ) (stopAtZero : Bool) (hm : m.mode = .running)
    (hf : m.fetch ≠ .ok 0) : m.runStep stopAtZero = m.step := by
  cases stopAtZero with
  | false => rfl
  | true =>
    cases hw : m.fetch with
    | error fault => simp [runStep, step, hm, hw]
    | ok w =>
      have hne : w ≠ 0 := fun h => hf (by rw [hw, h])
      simp [runStep, hw, hne]

/-- The ways in which a step of a run ends: with a fault, by halting at a zero word where it may,
or with one cycle more. -/
theorem runStep_cases (m : Machine σ) (stopAtZero : Bool) (hm : m.mode = .running) :
    (∃ fault m', m.runStep stopAtZero = .error fault m' ∧
      m'.mode = .running ∧ m'.halted = m.halted ∧ m'.cycles = m.cycles) ∨
    (stopAtZero = true ∧ m.fetch = .ok 0 ∧
      m.runStep stopAtZero = .ok false { m with halted := true }) ∨
    ∃ m', m.runStep stopAtZero = .ok true m' ∧ m.step = .ok true m' ∧
      m'.halted = m.halted ∧ m'.cycles = m.cycles + 1 := by
  by_cases hf : m.fetch = .ok 0
  · cases stopAtZero with
    | false => exact Or.inl ⟨_, m, m.step_of_zero hm hf, hm, rfl, rfl⟩
    | true => exact Or.inr (Or.inl ⟨rfl, hf, by simp [runStep, hf]⟩)
  · rw [m.runStep_of_ne_zero stopAtZero hm hf]
    obtain ⟨fault, m', hs, h⟩ | ⟨m', hs, h⟩ := step_cases m hm
    · exact Or.inl ⟨fault, m', hs, h⟩
    · exact Or.inr (Or.inr ⟨m', hs, hs, h⟩)

theorem runFrom_of_waiting (m : Machine σ) (stopAtZero : Bool) (executed limit : Nat)
    (hm : m.mode ≠ .running) : m.runFrom stopAtZero executed limit = .ok executed m := by
  cases limit with
  | zero => rfl
  | succ limit =>
    unfold runFrom
    split
    · rfl
    · cases h : m.mode with
      | awaitingKey x => rfl
      | running => exact absurd h hm

end Chip8.Machine
