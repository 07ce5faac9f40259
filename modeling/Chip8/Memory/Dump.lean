import Chip8.Memory.Basic

namespace Chip8.Memory

/-- Two digits for a byte of memory, question marks for an address outside. -/
def hexCell (m : Memory) (addr : Int) : String :=
  match m.peek addr with
  | .ok b => Text.hex 2 b.toNat
  | .error _ => "??"

/-- A byte of printable ASCII as its character, anything else as a point. -/
def textCell (m : Memory) (addr : Int) : Char :=
  match m.peek addr with
  | .ok b => if 0x20 ≤ b.toNat ∧ b.toNat ≤ 0x7E then Char.ofNat b.toNat else '.'
  | .error _ => '.'

/-- One line of a dump: the address, sixteen bytes in two groups of eight, and their text. -/
def dumpRow (m : Memory) (addr : Int) : String :=
  let cells (first : Nat) := " ".intercalate
    ((List.range 8).map fun k => m.hexCell (addr + (first + k : Nat)))
  let text := String.ofList ((List.range 16).map fun k => m.textCell (addr + (k : Nat)))
  let label := Text.hex 4 addr
  let left := cells 0
  let right := cells 8
  s!"0x{label}: {left}  {right}  |{text}|"

def rowStart (addr : Int) : Int := addr - addr % 16

def dumpLines (m : Memory) (addr : Int) (rows : Nat) : List String :=
  (List.range rows).map fun r => m.dumpRow (rowStart addr + 16 * (r : Nat))

def dump (m : Memory) (addr : Int) (rows : Nat) : String :=
  "\n".intercalate (m.dumpLines addr rows)

end Chip8.Memory
