import Chip8.Machine.Execute
import Chip8.Rom
import Chip8.Surface.Display
import Chip8.Surface.Picture

namespace Chip8.Headless

/-- How long a program runs without a screen, and how often its timers tick. -/
structure Limits where
  maxCycles : Nat := 1000000
  cyclesPerTick : Nat := 10
  stopAtZero : Bool := true

/-- The end of a run: the machine, and the fault that ended it if one did. -/
structure Finish (σ : Type) where
  machine : Machine σ
  fault : Option Fault

section

variable {σ : Type} [Surface σ]

/-- Runs batches of instructions with a tick of the timers after each. Every batch but the last
executes at least one instruction, so the number of cycles left bounds the number of batches. -/
def batches (limits : Limits) : Nat → Machine σ → Finish σ
  | 0, m => ⟨m, none⟩
  | left + 1, m =>
    if m.halted ∨ !m.running ∨ limits.maxCycles ≤ m.cycles then ⟨m, none⟩
    else
      let budget := min limits.cyclesPerTick (limits.maxCycles - m.cycles)
      match m.run limits.stopAtZero budget with
      | .error fault m => ⟨m, some fault⟩
      | .ok _ m => batches limits left m.tick

def run (limits : Limits) (m : Machine σ) : Finish σ :=
  batches limits (limits.maxCycles - m.cycles) m

end

/-- Why a run has ended. -/
inductive Reason where
  | waiting (x : Fin 16)
  | halted
  | failed
  | limitReached
deriving DecidableEq, Repr

def Reason.text : Reason → String
  | waiting x => "waiting for key into V" ++ Text.hex 1 x.val
  | halted => "halted"
  | failed => "failed"
  | limitReached => "cycle limit reached"

namespace Finish

def reason {σ : Type} (f : Finish σ) : Reason :=
  match f.machine.mode with
  | .awaitingKey x => .waiting x
  | .running =>
    if f.machine.halted then .halted
    else if f.fault.isSome then .failed else .limitReached

def exitCode {σ : Type} (f : Finish σ) : Nat := if f.fault.isSome then 1 else 0

def faultLines {σ : Type} (f : Finish σ) (opening : String) : List String :=
  match f.fault with
  | some fault => [s!"{opening} at {Text.address f.machine.pc}: {fault.message}"]
  | none => []

def summaryLines {σ : Type} (f : Finish σ) : List String :=
  let r := f.machine.registers
  let v0 := Text.hex 2 (r.get Registers.first).toNat
  let vf := Text.hex 2 (r.get Registers.flag).toNat
  [ s!"Stopped after {f.machine.cycles} cycles ({f.reason.text}).",
    s!"  V0 = 0x{v0}  VF = 0x{vf}  I = {Text.address r.i}  PC = {Text.address r.pc}" ]

end Finish

end Chip8.Headless
