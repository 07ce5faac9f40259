import Chip8.Memory.Basic
import Chip8.Registers.Basic
import Chip8.Surface.Basic
import Chip8.Random

namespace Chip8

/-- Whether the machine executes, or waits for a key to be put into a register. -/
inductive Mode where
  | running
  | awaitingKey (x : Fin 16)
deriving DecidableEq, Repr

/-- A machine attached to a surface. -/
structure Machine (σ : Type) where
  surface : σ
  random : RandomSource
  memory : Memory := Memory.initial
  registers : Registers := {}
  mode : Mode := .running
  halted : Bool := false
  /-- The number of instructions that steps have executed. -/
  cycles : Nat := 0

/-- The end of an operation: what it answers, or why it was refused, with the machine it leaves. -/
abbrev Outcome (σ α : Type) := EStateM.Result Fault (Machine σ) α

namespace Machine

variable {σ : Type}

def running (m : Machine σ) : Bool := m.mode = .running

def pc (m : Machine σ) : Int := m.registers.pc

def setPc (m : Machine σ) (pc : Int) : Machine σ :=
  { m with registers := { m.registers with pc := pc % 65536 } }

def loadProgram (m : Machine σ) (data : List UInt8) : Outcome σ Unit :=
  match m.memory.loadProgram data with
  | .ok memory => .ok () { m with memory }
  | .error fault => .error fault m

/-- Counts the timers down; the machine does this sixty times in each second. -/
def tick (m : Machine σ) : Machine σ := { m with registers := m.registers.tick }

def awaitKey (m : Machine σ) (register : Int) : Outcome σ Unit :=
  match Registers.index? register with
  | some x => .ok () { m with mode := .awaitingKey x }
  | none => .error (.invalidRegister register) m

/-- A key goes down. If one is awaited, its number goes into the register that waits. -/
def pressKey [Surface σ] (m : Machine σ) (code : Int) : Machine σ :=
  let key := Keypad.key code
  let surface := Surface.setKey m.surface key.val true
  match m.mode with
  | .running => { m with surface }
  | .awaitingKey x =>
    let registers := m.registers.set x (UInt8.ofNat key.val)
    { m with surface, registers, mode := .running }

def releaseKey [Surface σ] (m : Machine σ) (code : Int) : Machine σ :=
  { m with surface := Surface.setKey m.surface (Keypad.key code).val false }

end Machine

end Chip8
