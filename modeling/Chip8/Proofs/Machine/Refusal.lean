import Chip8.Machine.Execute
import Chip8.Surface.Display
import Chip8.Surface.Recorder

namespace Chip8

/-- A surface that a question does not change: it shows the same pixels and holds the same keys
after it. -/
class Surface.Steady (σ : Type) [Surface σ] : Prop where
  pixel_noteRead : ∀ (s : σ) (q : Query), pixel (noteRead s q) = pixel s
  isKeyPressed_noteRead : ∀ (s : σ) (q : Query), isKeyPressed (noteRead s q) = isKeyPressed s

instance : Surface.Steady Display := ⟨fun _ _ => rfl, fun _ _ => rfl⟩

instance : Surface.Steady Recorder := ⟨fun _ _ => rfl, fun _ _ => rfl⟩

namespace Registers

/-- The fault for which an instruction is refused, if it is. Only a call, a return and the two
instructions that need a whole block of memory can be. -/
def refusal? (r : Registers) : Instr → Option Fault
  | .ret => if r.stack = [] then some .stackUnderflow else none
  | .call _ => if r.stack.length < stackDepth then none else some (.stackOverflow (r.pc + 2))
  | .draw _ _ rows => if Memory.Holds r.i rows.val then none else some (.outOfRange r.i rows.val)
  | .storeDigits _ => if Memory.Holds r.i 3 then none else some (.outOfRange r.i 3)
  | _ => none

def wordRefusal? (r : Registers) (w : Word) : Option Fault :=
  match w.decode? with
  | none => some (.unknownOpcode w.toNat)
  | some instr => r.refusal? instr

end Registers

namespace Machine

section

variable {σ : Type}

/-- Two machines that a program or a driver cannot tell apart. -/
structure Unchanged [Surface σ] (m m' : Machine σ) : Prop where
  registers : m'.registers = m.registers
  memory : m'.memory = m.memory
  pixel : Surface.pixel m'.surface = Surface.pixel m.surface
  isKeyPressed : Surface.isKeyPressed m'.surface = Surface.isKeyPressed m.surface
  random : m'.random = m.random
  mode : m'.mode = m.mode
  halted : m'.halted = m.halted
  cycles : m'.cycles = m.cycles

theorem Unchanged.refl [Surface σ] (m : Machine σ) : m.Unchanged m :=
  ⟨rfl, rfl, rfl, rfl, rfl, rfl, rfl, rfl⟩

theorem unchanged_noteKey [Surface σ] [Surface.Steady σ] (m : Machine σ) (x : Fin 16) :
    m.Unchanged (m.noteKey x) :=
  ⟨rfl, rfl, Surface.Steady.pixel_noteRead _ _, Surface.Steady.isKeyPressed_noteRead _ _,
    rfl, rfl, rfl, rfl⟩

end

variable {σ : Type} [Surface σ]

def stepRefusal? (m : Machine σ) : Option Fault :=
  match m.mode with
  | .awaitingKey _ => none
  | .running =>
    match m.fetch with
    | .error fault => some fault
    | .ok w => m.registers.wordRefusal? w

theorem perform_error_iff (m m' : Machine σ) (instr : Instr) (fault : Fault) :
    m.perform instr = .error fault m' ↔ m.registers.refusal? instr = some fault ∧ m = m' := by
  cases instr with
  | ret =>
    cases h : m.registers.stack <;> simp [perform, Registers.pop, Registers.refusal?, h]
  | call target =>
    by_cases h : m.registers.stack.length < Registers.stackDepth <;>
      simp [perform, Registers.push, Registers.refusal?, h]
  | draw x y rows =>
    by_cases h : Memory.Holds m.registers.i rows.val <;>
      simp [perform, draw, Memory.block, Registers.refusal?, h]
  | storeDigits x =>
    by_cases h : Memory.Holds m.registers.i 3 <;>
      simp [perform, storeDigits, Memory.load, decimalDigits, Registers.refusal?, h]
  | _ => simp [perform, Registers.refusal?]

theorem executeWord_error (m m' : Machine σ) (w : Word) (fault : Fault)
    (h : m.executeWord w = .error fault m') :
    m.registers.wordRefusal? w = some fault ∧ (m' = m ∨ m' = m.noteKey w.x) := by
  unfold executeWord at h
  unfold Registers.wordRefusal?
  -- Only a word that encodes nothing can leave a trace, in the keypad it has asked.
  cases hd : w.decode? with
  | none =>
    simp only [hd, refuse, EStateM.Result.error.injEq] at h
    obtain ⟨hf, hm⟩ := h
    refine ⟨congrArg some hf, ?_⟩
    split at hm
    · exact Or.inr hm.symm
    · exact Or.inl hm.symm
  | some instr =>
    cases hp : m.perform instr with
    | ok next n => simp [hd, hp] at h
    | error cause n =>
      simp only [hd, hp, EStateM.Result.error.injEq] at h
      obtain ⟨rfl, rfl⟩ := h
      obtain ⟨hr, hn⟩ := (perform_error_iff m n instr cause).mp hp
      exact ⟨hr, Or.inl hn.symm⟩

theorem executeWord_of_refusal (m : Machine σ) (w : Word) (fault : Fault)
    (h : m.registers.wordRefusal? w = some fault) : ∃ m', m.executeWord w = .error fault m' := by
  unfold Registers.wordRefusal? at h
  unfold executeWord
  cases hd : w.decode? with
  | none =>
    simp only [hd, Option.some.injEq] at h
    exact ⟨_, by rw [← h]; rfl⟩
  | some instr =>
    simp only [hd] at h
    have hp := (perform_error_iff m m instr fault).mpr ⟨h, rfl⟩
    exact ⟨m, by simp [hp]⟩

theorem step_error (m m' : Machine σ) (fault : Fault) (h : m.step = .error fault m') :
    m.stepRefusal? = some fault ∧ (m' = m ∨ ∃ x, m' = m.noteKey x) := by
  unfold step at h
  unfold stepRefusal?
  cases hm : m.mode with
  | awaitingKey x => simp [hm] at h
  | running =>
    cases hf : m.fetch with
    | error cause =>
      simp only [hm, hf, EStateM.Result.error.injEq] at h
      exact ⟨congrArg some h.1, Or.inl h.2.symm⟩
    | ok w =>
      cases he : m.executeWord w with
      | ok answer n => simp [hm, hf, he] at h
      | error cause n =>
        simp only [hm, hf, he, EStateM.Result.error.injEq] at h
        obtain ⟨rfl, rfl⟩ := h
        obtain ⟨hr, hn⟩ := executeWord_error m n w cause he
        exact ⟨hr, hn.imp_right fun hn => ⟨w.x, hn⟩⟩

theorem step_of_refusal (m : Machine σ) (fault : Fault) (h : m.stepRefusal? = some fault) :
    ∃ m', m.step = .error fault m' := by
  unfold stepRefusal? at h
  unfold step
  cases hm : m.mode with
  | awaitingKey x => simp [hm] at h
  | running =>
    cases hf : m.fetch with
    | error cause =>
      simp only [hm, hf, Option.some.injEq] at h
      exact ⟨m, by simp [h]⟩
    | ok w =>
      simp only [hm, hf] at h
      obtain ⟨n, hn⟩ := executeWord_of_refusal m w fault h
      exact ⟨n, by simp [hn]⟩

theorem Unchanged.stepRefusal? {m m' : Machine σ} (h : m.Unchanged m') :
    m'.stepRefusal? = m.stepRefusal? := by
  simp only [Machine.stepRefusal?, fetch, h.registers, h.memory, h.mode]

theorem executeWord_error_unchanged [Surface.Steady σ] (m m' : Machine σ) (w : Word)
    (fault : Fault) (h : m.executeWord w = .error fault m') : m.Unchanged m' := by
  obtain ⟨-, rfl | rfl⟩ := executeWord_error m m' w fault h
  · exact Unchanged.refl m'
  · exact unchanged_noteKey m w.x

theorem step_error_unchanged [Surface.Steady σ] (m m' : Machine σ) (fault : Fault)
    (h : m.step = .error fault m') : m.Unchanged m' := by
  obtain ⟨-, rfl | ⟨x, rfl⟩⟩ := step_error m m' fault h
  · exact Unchanged.refl m'
  · exact unchanged_noteKey m x

/-- An instruction that fails changes nothing, whatever the registers hold, so that it fails again
in the same way. -/
theorem failure_changes_nothing [Surface.Steady σ] (m m' : Machine σ) (fault : Fault) :
    (∀ word : Int, m.execute word = .error fault m' →
      m.Unchanged m' ∧ ∃ m'', m'.execute word = .error fault m'') ∧
    (m.step = .error fault m' → m.Unchanged m' ∧ ∃ m'', m'.step = .error fault m'') := by
  refine ⟨fun word h => ?_, fun h => ?_⟩
  · have hu := executeWord_error_unchanged m m' _ fault h
    refine ⟨hu, executeWord_of_refusal m' _ fault ?_⟩
    rw [hu.registers]
    exact (executeWord_error m m' _ fault h).1
  · have hu := step_error_unchanged m m' fault h
    refine ⟨hu, step_of_refusal m' fault ?_⟩
    rw [hu.stepRefusal?]
    exact (step_error m m' fault h).1

/-- A word of the key group that encodes nothing is refused only after the keypad has been asked,
which a recorder writes down; at the last byte of memory there is no word to fetch. -/
theorem failure_changes_nothing_at_last_byte :
    let m : Machine Recorder :=
      { surface := { width := 64, height := 32 }, random := .zeros, registers := { pc := 0xFFF } }
    (m.execute 0xE000 = .error (.unknownOpcode 0xE000) (m.noteKey 0) ∧
      m.Unchanged (m.noteKey 0) ∧
      ∃ m', (m.noteKey 0).execute 0xE000 = .error (.unknownOpcode 0xE000) m') ∧
    m.step = .error (.outOfRange 0xFFF 2) m ∧
      m.Unchanged m ∧ ∃ m', m.step = .error (.outOfRange 0xFFF 2) m' :=
  ⟨⟨rfl, (failure_changes_nothing _ _ _).1 0xE000 rfl⟩,
    rfl, (failure_changes_nothing _ _ _).2 rfl⟩

end Machine

end Chip8
