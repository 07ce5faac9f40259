import Chip8.Machine.Execute

namespace Chip8

/-- What a driver can do to a machine. -/
inductive Event where
  | loadProgram (data : List UInt8)
  | load (addr : Int) (data : List UInt8)
  | poke (addr value : Int)
  | step
  | run (stopAtZero : Bool) (limit : Int)
  | execute (word : Int)
  | tick
  | pressKey (code : Int)
  | releaseKey (code : Int)
  | awaitKey (register : Int)
  | setV (index value : Int)
  | push (addr : Int)
  | pop
  | setPc (value : Int)
deriving DecidableEq, Repr

def Memory.holding (program : List UInt8) (h : program.length ≤ 3584) : Memory :=
  ⟨⟨⟨List.replicate 512 0 ++ program ++ List.replicate (3584 - program.length) 0⟩, by
    simp only [List.size_toArray, List.length_append, List.length_replicate]
    omega⟩⟩

namespace Machine

variable {σ α : Type}

/-- The machine that an operation leaves, whether it was refused or not. -/
def left : Outcome σ α → Machine σ
  | .ok _ m => m
  | .error _ m => m

@[simp] theorem left_ok (a : α) (m : Machine σ) : left (.ok a m) = m := rfl

@[simp] theorem left_error (fault : Fault) (m : Machine σ) :
    left (.error fault m : Outcome σ α) = m := rfl

def withMemory (m : Machine σ) : Except Fault Memory → Machine σ
  | .ok memory => { m with memory }
  | .error _ => m

def withRegisters (m : Machine σ) : Except Fault Registers → Machine σ
  | .ok registers => { m with registers }
  | .error _ => m

@[simp] theorem withMemory_registers (m : Machine σ) (memory : Except Fault Memory) :
    (m.withMemory memory).registers = m.registers := by
  cases memory <;> rfl

@[simp] theorem withMemory_surface (m : Machine σ) (memory : Except Fault Memory) :
    (m.withMemory memory).surface = m.surface := by
  cases memory <;> rfl

@[simp] theorem withRegisters_surface (m : Machine σ) (registers : Except Fault Registers) :
    (m.withRegisters registers).surface = m.surface := by
  cases registers <;> rfl

theorem withRegisters_kept (P : Registers → Prop) (m : Machine σ)
    (registers : Except Fault Registers) (h : P m.registers)
    (hr : ∀ r, registers = .ok r → P r) : P (m.withRegisters registers).registers := by
  cases registers with
  | ok r => exact hr r rfl
  | error fault => exact h

@[simp] theorem loadProgram_registers (m : Machine σ) (data : List UInt8) :
    (left (m.loadProgram data)).registers = m.registers := by
  cases h : m.memory.loadProgram data <;> simp [loadProgram, h]

@[simp] theorem loadProgram_surface (m : Machine σ) (data : List UInt8) :
    (left (m.loadProgram data)).surface = m.surface := by
  cases h : m.memory.loadProgram data <;> simp [loadProgram, h]

@[simp] theorem awaitKey_registers (m : Machine σ) (register : Int) :
    (left (m.awaitKey register)).registers = m.registers := by
  cases h : Registers.index? register <;> simp [awaitKey, h]

@[simp] theorem awaitKey_surface (m : Machine σ) (register : Int) :
    (left (m.awaitKey register)).surface = m.surface := by
  cases h : Registers.index? register <;> simp [awaitKey, h]

variable [Surface σ]

@[simp] theorem pressKey_surface (m : Machine σ) (code : Int) :
    (m.pressKey code).surface = Surface.setKey m.surface (Keypad.key code).val true := by
  cases h : m.mode <;> simp [pressKey, h]

def after (m : Machine σ) : Event → Machine σ
  | .loadProgram data => left (m.loadProgram data)
  | .load addr data => m.withMemory (m.memory.load addr data)
  | .poke addr value => m.withMemory (m.memory.poke addr value)
  | .step => left m.step
  | .run stopAtZero limit => left (m.run stopAtZero limit.toNat)
  | .execute word => left (m.execute word)
  | .tick => m.tick
  | .pressKey code => m.pressKey code
  | .releaseKey code => m.releaseKey code
  | .awaitKey register => left (m.awaitKey register)
  | .setV index value => m.withRegisters (m.registers.setV index value)
  | .push addr => m.withRegisters (m.registers.push addr)
  | .pop => m.withRegisters (m.registers.pop.map Prod.snd)
  | .setPc value => m.setPc value

def afterAll (m : Machine σ) (events : List Event) : Machine σ := events.foldl after m

theorem afterAll_append (m : Machine σ) (events later : List Event) :
    m.afterAll (events ++ later) = (m.afterAll events).afterAll later :=
  List.foldl_append

theorem afterAll_induction (P : Machine σ → Prop) (hafter : ∀ m event, P m → P (m.after event))
    (m : Machine σ) (events : List Event) (h : P m) : P (m.afterAll events) := by
  induction events generalizing m with
  | nil => exact h
  | cons event events ih => exact ih (m.after event) (hafter m event h)

/-- A property that every part of an execution keeps, so that steps and runs keep it. -/
structure Kept (P : Machine σ → Prop) : Prop where
  perform : ∀ m instr, P m → P (left (m.perform instr))
  setPc : ∀ m pc, P m → P (m.setPc pc)
  noteKey : ∀ m x, P m → P (m.noteKey x)
  cycles : ∀ m cycles, P m → P { m with cycles }
  halted : ∀ m halted, P m → P { m with halted }

namespace Kept

variable {P : Machine σ → Prop}

theorem executeWord (k : Kept P) (m : Machine σ) (w : Word) (h : P m) :
    P (left (m.executeWord w)) := by
  unfold Machine.executeWord
  cases hd : w.decode? with
  | none =>
    by_cases hw : w.group.val = 0xE
    · simpa [refuse, hw] using k.noteKey m w.x h
    · simpa [refuse, hw] using h
  | some instr =>
    have hp := k.perform m instr h
    cases hr : m.perform instr with
    | ok next n =>
      rw [hr, left_ok] at hp
      simpa [hr] using k.setPc n next hp
    | error fault n =>
      rw [hr, left_error] at hp
      simpa [hr] using hp

theorem step (k : Kept P) (m : Machine σ) (h : P m) : P (left m.step) := by
  unfold Machine.step
  cases hm : m.mode with
  | awaitingKey x => simpa using h
  | running =>
    cases hf : m.fetch with
    | error fault => simpa using h
    | ok w =>
      have he := k.executeWord m w h
      cases hr : m.executeWord w with
      | ok answer n =>
        rw [hr, left_ok] at he
        simpa [hr] using k.cycles n (n.cycles + 1) he
      | error fault n =>
        rw [hr, left_error] at he
        simpa [hr] using he

theorem runStep (k : Kept P) (m : Machine σ) (stopAtZero : Bool) (h : P m) :
    P (left (m.runStep stopAtZero)) := by
  unfold Machine.runStep
  cases stopAtZero with
  | false => exact k.step m h
  | true =>
    cases hf : m.fetch with
    | error fault => simpa using h
    | ok w =>
      by_cases hw : w = 0
      · simpa [hw] using k.halted m true h
      · simpa [hw] using k.step m h

theorem runFrom (k : Kept P) (stopAtZero : Bool) (executed limit : Nat) (m : Machine σ) (h : P m) :
    P (left (m.runFrom stopAtZero executed limit)) := by
  induction limit generalizing executed m with
  | zero => exact h
  | succ limit ih =>
    unfold Machine.runFrom
    have hs := k.runStep m stopAtZero h
    cases hh : m.halted with
    | true => simpa using h
    | false =>
      cases hm : m.mode with
      | awaitingKey x => simpa using h
      | running =>
        cases hr : m.runStep stopAtZero with
        | error fault n => simpa [hr] using hs
        | ok goesOn n =>
          rw [hr, left_ok] at hs
          cases goesOn with
          | false => simpa [hr] using hs
          | true => simpa [hr] using ih (executed + 1) n hs

theorem run (k : Kept P) (m : Machine σ) (stopAtZero : Bool) (limit : Nat) (h : P m) :
    P (left (m.run stopAtZero limit)) :=
  k.runFrom stopAtZero 0 limit m h

end Kept

theorem flipAll_surface (Q : σ → Prop) (hset : ∀ s x y on, Q s → Q (Surface.setPixel s x y on))
    (hnote : ∀ s q, Q s → Q (Surface.noteRead s q)) (s : σ) (cells : List (Int × Int)) (h : Q s) :
    Q (Surface.flipAll s cells).1 := by
  unfold Surface.flipAll
  -- The fold starts without a collision, but does not go on so.
  generalize hb : (s, false) = t
  have ht : Q t.1 := by rw [← hb]; exact h
  clear hb
  induction cells generalizing t with
  | nil => exact ht
  | cons cell cells ih => exact ih _ (hset _ _ _ _ (hnote _ _ ht))

theorem draw_surface (Q : σ → Prop) (hset : ∀ s x y on, Q s → Q (Surface.setPixel s x y on))
    (hnote : ∀ s q, Q s → Q (Surface.noteRead s q)) (m : Machine σ) (x y rows : Fin 16)
    (h : Q m.surface) : Q (left (m.draw x y rows)).surface := by
  unfold draw
  cases hb : m.memory.block m.registers.i rows.val with
  | error fault => exact h
  | ok sprite => exact flipAll_surface Q hset hnote _ _ h

/-- What clearing, drawing and asking keep of a surface, every execution keeps. -/
theorem kept_surface (Q : σ → Prop) (hclear : ∀ s, Q s → Q (Surface.clear s))
    (hset : ∀ s x y on, Q s → Q (Surface.setPixel s x y on))
    (hnote : ∀ s q, Q s → Q (Surface.noteRead s q)) : Kept fun m : Machine σ => Q m.surface where
  perform m instr h := by
    cases instr with
    | clear => exact hclear _ h
    | skipKey x held => exact hnote _ _ h
    | draw x y rows =>
      have hd := draw_surface Q hset hnote m x y rows h
      cases hr : m.draw x y rows <;> simpa [perform, hr] using hd
    | ret => cases hr : m.registers.pop <;> simpa [perform, hr] using h
    | call target =>
      cases hr : m.registers.push (m.registers.pc + 2) <;> simpa [perform, hr] using h
    | storeDigits x =>
      cases hr : m.memory.load m.registers.i (decimalDigits (m.registers.get x)) <;>
        simpa [perform, storeDigits, hr] using h
    | loadRegisters x => simpa [perform, loadRegisters] using h
    | _ => exact h
  setPc _ _ h := h
  noteKey _ _ h := hnote _ _ h
  cycles _ _ h := h
  halted _ _ h := h

theorem after_surface (Q : σ → Prop) (hclear : ∀ s, Q s → Q (Surface.clear s))
    (hset : ∀ s x y on, Q s → Q (Surface.setPixel s x y on))
    (hnote : ∀ s q, Q s → Q (Surface.noteRead s q))
    (hkey : ∀ s k pressed, Q s → Q (Surface.setKey s k pressed)) (m : Machine σ) (event : Event)
    (h : Q m.surface) : Q (m.after event).surface := by
  have k := kept_surface Q hclear hset hnote
  cases event with
  | step => exact k.step m h
  | run stopAtZero limit => exact k.run m stopAtZero limit.toNat h
  | execute word => exact k.executeWord m _ h
  | pressKey code => simpa [after] using hkey _ _ _ h
  | releaseKey code => exact hkey _ _ _ h
  | tick => exact h
  | setPc value => exact h
  | _ => simpa [after] using h

end Machine

end Chip8
