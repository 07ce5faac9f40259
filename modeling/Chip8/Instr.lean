namespace Chip8

/-- A sixteen-bit opcode, seen through its fields. -/
abbrev Word := UInt16

namespace Word

def ofInt (n : Int) : Word := UInt16.ofInt n

def ofBytes (hi lo : UInt8) : Word := UInt16.ofNat (256 * hi.toNat + lo.toNat)

def group (w : Word) : Fin 16 := ⟨w.toNat / 4096 % 16, by omega⟩

def x (w : Word) : Fin 16 := ⟨w.toNat / 256 % 16, by omega⟩

def y (w : Word) : Fin 16 := ⟨w.toNat / 16 % 16, by omega⟩

def n (w : Word) : Fin 16 := ⟨w.toNat % 16, by omega⟩

def nn (w : Word) : UInt8 := UInt8.ofNat w.toNat

def nnn (w : Word) : Fin 4096 := ⟨w.toNat % 4096, by omega⟩

end Word

inductive Alu where
  | copy
  | or
  | and
  | xor
  | add
  | sub
  | shiftRight
  | subFrom
  | shiftLeft
deriving DecidableEq, Repr

namespace Alu

def ofNibble? (n : Fin 16) : Option Alu :=
  match n.val with
  | 0x0 => some copy
  | 0x1 => some or
  | 0x2 => some and
  | 0x3 => some xor
  | 0x4 => some add
  | 0x5 => some sub
  | 0x6 => some shiftRight
  | 0x7 => some subFrom
  | 0xE => some shiftLeft
  | _ => none

/-- The value for VX and, for the operations that have one, the flag. A difference has the flag of
not having borrowed, a shift that of the bit shifted out. -/
def eval (f : Alu) (a b : UInt8) : UInt8 × Option UInt8 :=
  match f with
  | copy => (b, none)
  | or => (a ||| b, none)
  | and => (a &&& b, none)
  | xor => (a ^^^ b, none)
  | add => (a + b, some (if 256 ≤ a.toNat + b.toNat then 1 else 0))
  | sub => (a - b, some (if b ≤ a then 1 else 0))
  | shiftRight => (b / 2, some (b % 2))
  | subFrom => (b - a, some (if a ≤ b then 1 else 0))
  | shiftLeft => (2 * b, some (b / 128))

end Alu

inductive Condition where
  | eqByte (x : Fin 16) (nn : UInt8)
  | neByte (x : Fin 16) (nn : UInt8)
  | eqReg (x y : Fin 16)
  | neReg (x y : Fin 16)
deriving DecidableEq, Repr

/-- The instructions of the machine. -/
inductive Instr where
  /-- Darkens the screen. -/
  | clear
  | ret
  | jump (target : Fin 4096)
  | call (target : Fin 4096)
  | skipIf (condition : Condition)
  | loadByte (x : Fin 16) (nn : UInt8)
  | addByte (x : Fin 16) (nn : UInt8)
  | alu (f : Alu) (x y : Fin 16)
  | loadI (addr : Fin 4096)
  /-- Jumps to the address plus V0. -/
  | jumpV0 (base : Fin 4096)
  /-- Loads a random number, masked. -/
  | random (x : Fin 16) (mask : UInt8)
  /-- Draws `rows` bytes at I as a sprite at (VX, VY). -/
  | draw (x y : Fin 16) (rows : Fin 16)
  /-- Skips if the key in VX is held, or if it is not. -/
  | skipKey (x : Fin 16) (held : Bool)
  | readDelay (x : Fin 16)
  | awaitKey (x : Fin 16)
  | setDelay (x : Fin 16)
  | setSound (x : Fin 16)
  | addI (x : Fin 16)
  /-- Points I at the glyph for VX. -/
  | glyph (x : Fin 16)
  /-- Stores the three decimal digits of VX at I. -/
  | storeDigits (x : Fin 16)
  /-- Stores V0 to VX at I. -/
  | saveRegisters (x : Fin 16)
  /-- Loads V0 to VX from I. -/
  | loadRegisters (x : Fin 16)
deriving DecidableEq, Repr

namespace Instr

def ofSystem? (w : Word) : Option Instr :=
  match w.nn.toNat with
  | 0xE0 => some clear
  | 0xEE => some ret
  | _ => none

def ofKeyGroup? (w : Word) : Option Instr :=
  match w.nn.toNat with
  | 0x9E => some (skipKey w.x true)
  | 0xA1 => some (skipKey w.x false)
  | _ => none

def ofMiscGroup? (w : Word) : Option Instr :=
  match w.nn.toNat with
  | 0x07 => some (readDelay w.x)
  | 0x0A => some (awaitKey w.x)
  | 0x15 => some (setDelay w.x)
  | 0x18 => some (setSound w.x)
  | 0x1E => some (addI w.x)
  | 0x29 => some (glyph w.x)
  | 0x33 => some (storeDigits w.x)
  | 0x55 => some (saveRegisters w.x)
  | 0x65 => some (loadRegisters w.x)
  | _ => none

end Instr

/-- The instruction that a word encodes, if it encodes one. Fields that an instruction has no use
for may hold anything. -/
def Word.decode? (w : Word) : Option Instr :=
  match w.group.val with
  | 0x0 => Instr.ofSystem? w
  | 0x1 => some (.jump w.nnn)
  | 0x2 => some (.call w.nnn)
  | 0x3 => some (.skipIf (.eqByte w.x w.nn))
  | 0x4 => some (.skipIf (.neByte w.x w.nn))
  | 0x5 => some (.skipIf (.eqReg w.x w.y))
  | 0x6 => some (.loadByte w.x w.nn)
  | 0x7 => some (.addByte w.x w.nn)
  | 0x8 => (Alu.ofNibble? w.n).map fun f => .alu f w.x w.y
  | 0x9 => some (.skipIf (.neReg w.x w.y))
  | 0xA => some (.loadI w.nnn)
  | 0xB => some (.jumpV0 w.nnn)
  | 0xC => some (.random w.x w.nn)
  | 0xD => some (.draw w.x w.y w.n)
  | 0xE => Instr.ofKeyGroup? w
  | 0xF => Instr.ofMiscGroup? w
  | _ => none

end Chip8
