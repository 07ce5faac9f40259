import Chip8.Memory.Basic

namespace Chip8.Memory

/-- A window onto memory whose whole range has been checked. -/
structure View where
  addr : Int
  length : Int
  writable : Bool
  holds : Holds addr length

namespace View

inductive Refusal where
  | readOnly
  | index
  | value
deriving DecidableEq, Repr

def open? (addr length : Int) (writable : Bool) : Except Fault View :=
  if h : Holds addr length then .ok ⟨addr, length, writable, h⟩
  else .error (.outOfRange addr length)

def bytes (w : View) (m : Memory) : List UInt8 :=
  (List.range w.length.toNat).map fun k => m.byte (w.addr.toNat + k)

/-- Stores one byte. An index below zero counts from the end of the window. -/
def store (w : View) (m : Memory) (index value : Int) : Except Refusal Memory :=
  let place := if index < 0 then index + w.length else index
  if !w.writable then .error .readOnly
  else if place < 0 ∨ w.length ≤ place then .error .index
  else if value < 0 ∨ 256 ≤ value then .error .value
  else .ok (m.write (w.addr + place).toNat [UInt8.ofInt value])

end View

end Chip8.Memory
