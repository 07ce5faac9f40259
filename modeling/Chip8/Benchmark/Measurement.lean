import Chip8.Machine.Execute
import Chip8.Surface.Display
import Chip8.Number.Quantity
import Chip8.Text.Basic

namespace Chip8.Benchmark

open Number

/-- A number of operations in a second, in units, thousands or millions. -/
def rateText (rate : Quantity) : Except Failure String :=
  let scaled (places : Nat) (unit : Int) (letter : String) : Except Failure String := do
    let x ← rate.div (.whole unit)
    return fixed places x ++ letter
  if rate.reaches 1000000 then scaled 2 1000000 "M"
  else if rate.reaches 1000 then scaled 1 1000 "K"
  else rate.fixed 0

inductive Subject where
  | peek
  | fetch
  | decode
  | step
  | draw
deriving DecidableEq, Repr

/-- The number of repetitions, less those that fail. -/
def repetitions (n : Int) (succeeds : Nat → Bool) : Int :=
  n - ((List.range n.toNat).countP fun k => !succeeds k : Nat)

def decodedWords : Array Word := #[0x6142, 0x7001, 0x8214, 0xD015, 0x1200, 0xF033]

def loaded (program : List UInt8) : Machine Display :=
  { surface := Display.standard, random := .zeros, memory := Memory.initial.write programStart program }

def executed (m : Machine Display) (limit : Int) : Nat :=
  match m.run true limit.toNat with
  | .ok _ m => m.cycles
  | .error _ m => m.cycles

def Subject.work (s : Subject) (n : Int) : Int :=
  match s with
  | peek => repetitions n fun _ => (Memory.initial.peek programStart).toOption.isSome
  | fetch =>
    let m := loaded [0x12, 0x00]
    repetitions n fun _ => m.fetch.toOption.isSome
  | decode =>
    repetitions n fun k => (decodedWords.getD (k % decodedWords.size) 0).decode?.isSome
  | step => executed (loaded [0x70, 0x01, 0x81, 0x04, 0x12, 0x00]) n
  | draw => executed (loaded [0xD0, 0x1F, 0x12, 0x00]) n / 2

structure Measurement where
  operations : Int
  elapsed : Float
  rate : Float

/-- A measurement that took some time; none is possible if it took no time at all. -/
def measure (operations : Int) (elapsed : Float) : Except Failure Measurement :=
  ((Quantity.whole operations).div (.real elapsed)).map fun rate => ⟨operations, elapsed, rate⟩

def Measurement.line (r : Measurement) (name : String) : Except Failure String := do
  let elapsed := Text.padLeft 7 (fixed 3 r.elapsed)
  let rate := Text.padLeft 8 (← rateText (.real r.rate))
  return s!"  {Text.padRight 20 name} {elapsed}s  {rate}/s  ({grouped r.operations} ops)"

def schedule : List (String × Subject × Int) :=
  [("memory.peek", .peek, 500000), ("cpu.fetch", .fetch, 500000), ("decode", .decode, 500000),
    ("cpu.step (tight loop)", .step, 100000), ("DRW 8x15", .draw, 20000)]

end Chip8.Benchmark
