import Chip8.Text.Basic

namespace Chip8

inductive Fault where
  /-- A byte, or a block of another length, does not lie in memory. -/
  | outOfRange (addr length : Int)
  | invalidRegister (index : Int)
  | stackUnderflow
  | stackOverflow (addr : Int)
  | unknownOpcode (word : Int)
deriving DecidableEq, Repr

namespace Fault

def message : Fault → String
  | outOfRange addr length =>
    let place := Text.hex 4 addr
    if length = 1 then s!"Address out of range: 0x{place}"
    else s!"Block out of range: 0x{place} (length={length})"
  | invalidRegister index => s!"Invalid register index: {index}"
  | stackUnderflow => "Return with empty call stack"
  | stackOverflow addr =>
    let place := Text.hex 4 addr
    s!"Call stack overflow pushing 0x{place} (depth 16)"
  | unknownOpcode word =>
    let bits := Text.hex 4 word
    s!"Unknown opcode: 0x{bits}"

instance : ToString Fault := ⟨message⟩

end Fault

end Chip8
