import Chip8.Fault

namespace Chip8

def font : Vector UInt8 80 :=
  ⟨#[0xF0, 0x90, 0x90, 0x90, 0xF0,
     0x20, 0x60, 0x20, 0x20, 0x70,
     0xF0, 0x10, 0xF0, 0x80, 0xF0,
     0xF0, 0x10, 0xF0, 0x10, 0xF0,
     0x90, 0x90, 0xF0, 0x10, 0x10,
     0xF0, 0x80, 0xF0, 0x10, 0xF0,
     0xF0, 0x80, 0xF0, 0x90, 0xF0,
     0xF0, 0x10, 0x20, 0x40, 0x40,
     0xF0, 0x90, 0xF0, 0x90, 0xF0,
     0xF0, 0x90, 0xF0, 0x10, 0xF0,
     0xF0, 0x90, 0xF0, 0x90, 0x90,
     0xE0, 0x90, 0xE0, 0x90, 0xE0,
     0xF0, 0x80, 0x80, 0x80, 0xF0,
     0xE0, 0x90, 0x90, 0x90, 0xE0,
     0xF0, 0x80, 0xF0, 0x80, 0xF0,
     0xF0, 0x80, 0xF0, 0x80, 0x80], rfl⟩

def glyphSize : Nat := 5

/-- The address at which programs are loaded and started. -/
def programStart : Nat := 0x200

/-- Four kilobytes, addressed by integers; an access that is not wholly inside is refused. -/
structure Memory where
  bytes : Vector UInt8 4096

namespace Memory

def initial : Memory :=
  ⟨Vector.ofFn fun k => if h : k.val < 80 then font.get ⟨k.val, h⟩ else 0⟩

def size (_ : Memory) : Nat := 4096

/-- The byte at an offset, zero beyond the end. -/
@[inline] def byte (m : Memory) (k : Nat) : UInt8 :=
  if h : k < 4096 then m.bytes.get ⟨k, h⟩ else 0

/-- Overwrites consecutive bytes; whatever would lie beyond the end is dropped. -/
def write (m : Memory) (k : Nat) : List UInt8 → Memory
  | [] => m
  | b :: bs => write ⟨m.bytes.setIfInBounds k b⟩ (k + 1) bs

def InRange (addr : Int) : Prop := 0 ≤ addr ∧ addr < 4096

instance (addr : Int) : Decidable (InRange addr) :=
  inferInstanceAs (Decidable (0 ≤ addr ∧ addr < 4096))

/-- A block of bytes lies wholly in memory. -/
def Holds (addr length : Int) : Prop := 0 ≤ addr ∧ 0 ≤ length ∧ addr + length ≤ 4096

instance (addr length : Int) : Decidable (Holds addr length) :=
  inferInstanceAs (Decidable (0 ≤ addr ∧ 0 ≤ length ∧ addr + length ≤ 4096))

def peek (m : Memory) (addr : Int) : Except Fault UInt8 :=
  if InRange addr then .ok (m.byte addr.toNat) else .error (.outOfRange addr 1)

def poke (m : Memory) (addr value : Int) : Except Fault Memory :=
  if InRange addr then .ok (m.write addr.toNat [UInt8.ofInt value])
  else .error (.outOfRange addr 1)

def block (m : Memory) (addr length : Int) : Except Fault (List UInt8) :=
  if Holds addr length then
    .ok ((List.range length.toNat).map fun k => m.byte (addr.toNat + k))
  else .error (.outOfRange addr length)

/-- Copies data into memory, or refuses before the first byte is copied. -/
def load (m : Memory) (addr : Int) (data : List UInt8) : Except Fault Memory :=
  if Holds addr data.length then .ok (m.write addr.toNat data)
  else .error (.outOfRange addr data.length)

def loadProgram (m : Memory) (data : List UInt8) : Except Fault Memory :=
  m.load programStart data

end Memory

end Chip8
