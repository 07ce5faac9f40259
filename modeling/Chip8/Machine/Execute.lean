import Chip8.Machine.Basic
import Chip8.Instr

namespace Chip8

/-- The coordinates of the set bits of a sprite at (x, y): row by row, and in each row from the
most significant bit. -/
def spriteCells (x y : Nat) (sprite : List UInt8) : List (Int × Int) :=
  sprite.zipIdx.flatMap fun (bits, row) =>
    (List.range 8).filterMap fun column =>
      if bits.toNat.testBit (7 - column) then
        some (((x + column : Nat) : Int), ((y + row : Nat) : Int))
      else none

def decimalDigits (b : UInt8) : List UInt8 := [b / 100, b / 10 % 10, b % 10]

namespace Memory

/-- The number of registers, up to VX, that a block transfer at `i` reaches before memory ends. -/
def transferCount (i : Int) (x : Fin 16) : Nat :=
  if 0 ≤ i then min (x.val + 1) (4096 - i).toNat else 0

end Memory

namespace Registers

def holds (r : Registers) : Condition → Bool
  | .eqByte x nn => r.get x == nn
  | .neByte x nn => r.get x != nn
  | .eqReg x y => r.get x == r.get y
  | .neReg x y => r.get x != r.get y

def addI (r : Registers) (n : Nat) : Registers := { r with i := (r.i + n) % 65536 }

/-- Stores the result of an operation and then, so that it wins in VF, the flag. -/
def alu (r : Registers) (f : Alu) (x y : Fin 16) : Registers :=
  let (value, flagged) := f.eval (r.get x) (r.get y)
  let r := r.set x value
  match flagged with
  | some bit => r.set flag bit
  | none => r

/-- Loads the first `count` registers from consecutive bytes. -/
def loadFrom (r : Registers) (memory : Memory) (count : Nat) : Registers :=
  { r with v := Vector.ofFn fun k =>
      if k.val < count then memory.byte (r.i.toNat + k.val) else r.get k }

end Registers

namespace Machine

variable {σ : Type} [Surface σ]

def fetch (m : Machine σ) : Except Fault Word :=
  let pc := m.registers.pc
  if Memory.Holds pc 2 then
    .ok (Word.ofBytes (m.memory.byte pc.toNat) (m.memory.byte (pc.toNat + 1)))
  else .error (.outOfRange pc 2)

@[inline] def mapRegisters (m : Machine σ) (f : Registers → Registers) : Machine σ :=
  { m with registers := f m.registers }

def noteKey (m : Machine σ) (x : Fin 16) : Machine σ :=
  { m with surface := Surface.noteRead m.surface (.key (m.registers.get x).toNat) }

def keyHeld (m : Machine σ) (x : Fin 16) : Bool :=
  Surface.isKeyPressed m.surface (m.registers.get x).toNat

/-- Draws the sprite at I. It is read first, so a sprite outside memory changes no pixel. -/
def draw (m : Machine σ) (x y rows : Fin 16) : Outcome σ Unit :=
  match m.memory.block m.registers.i rows.val with
  | .error fault => .error fault m
  | .ok sprite =>
    let cells := spriteCells (m.registers.get x).toNat (m.registers.get y).toNat sprite
    let (surface, collision) := Surface.flipAll m.surface cells
    let registers := m.registers.set Registers.flag (if collision then 1 else 0)
    .ok () { m with surface, registers }

def storeDigits (m : Machine σ) (x : Fin 16) : Outcome σ Unit :=
  match m.memory.load m.registers.i (decimalDigits (m.registers.get x)) with
  | .error fault => .error fault m
  | .ok memory => .ok () { m with memory }

def saveRegisters (m : Machine σ) (x : Fin 16) : Machine σ :=
  let count := Memory.transferCount m.registers.i x
  let bytes := m.registers.v.toList.take count
  { m with
    memory := m.memory.write m.registers.i.toNat bytes
    registers := m.registers.addI count }

def loadRegisters (m : Machine σ) (x : Fin 16) : Machine σ :=
  let count := Memory.transferCount m.registers.i x
  { m with registers := (m.registers.loadFrom m.memory count).addI count }

def drawRandom (m : Machine σ) (x : Fin 16) (mask : UInt8) : Machine σ :=
  let (number, random) := m.random.next
  { m with random, registers := m.registers.set x (UInt8.ofInt number &&& mask) }

/-- Executes an instruction. The answer is where the program goes on; PC itself stays. -/
def perform (m : Machine σ) (instr : Instr) : Outcome σ Int :=
  let pc := m.registers.pc
  let next := pc + 2
  let skip := pc + 4
  match instr with
  | .clear => .ok next { m with surface := Surface.clear m.surface }
  | .ret =>
    match m.registers.pop with
    | .ok (addr, registers) => .ok addr.toNat { m with registers }
    | .error fault => .error fault m
  | .jump target => .ok target.val m
  | .call target =>
    match m.registers.push next with
    | .ok registers => .ok target.val { m with registers }
    | .error fault => .error fault m
  | .skipIf condition => .ok (if m.registers.holds condition then skip else next) m
  | .loadByte x nn => .ok next (m.mapRegisters fun r => r.set x nn)
  | .addByte x nn => .ok next (m.mapRegisters fun r => r.set x (r.get x + nn))
  | .alu f x y => .ok next (m.mapRegisters fun r => r.alu f x y)
  | .loadI addr => .ok next (m.mapRegisters fun r => { r with i := addr.val })
  | .jumpV0 base => .ok (base.val + (m.registers.get Registers.first).toNat : Nat) m
  | .random x mask => .ok next (m.drawRandom x mask)
  | .draw x y rows =>
    match m.draw x y rows with
    | .ok _ m => .ok next m
    | .error fault m => .error fault m
  | .skipKey x held =>
    let pressed := m.keyHeld x
    .ok (if pressed = held then skip else next) (m.noteKey x)
  | .readDelay x => .ok next (m.mapRegisters fun r => r.set x (UInt8.ofInt r.dt))
  | .awaitKey x => .ok next { m with mode := .awaitingKey x }
  | .setDelay x => .ok next (m.mapRegisters fun r => { r with dt := (r.get x).toNat })
  | .setSound x => .ok next (m.mapRegisters fun r => { r with st := (r.get x).toNat })
  | .addI x => .ok next (m.mapRegisters fun r => r.addI (r.get x).toNat)
  | .glyph x =>
    .ok next (m.mapRegisters fun r => { r with i := (glyphSize * (r.get x).toNat : Nat) })
  | .storeDigits x =>
    match m.storeDigits x with
    | .ok _ m => .ok next m
    | .error fault m => .error fault m
  | .saveRegisters x => .ok next (m.saveRegisters x)
  | .loadRegisters x => .ok next (m.loadRegisters x)

/-- Refuses a word that encodes nothing. A word of the key group asks the keypad even so. -/
def refuse {α : Type} (m : Machine σ) (w : Word) : Outcome σ α :=
  .error (.unknownOpcode w.toNat) (if w.group.val = 0xE then m.noteKey w.x else m)

def executeWord (m : Machine σ) (w : Word) : Outcome σ Unit :=
  match w.decode? with
  | none => m.refuse w
  | some instr =>
    match m.perform instr with
    | .ok next m => .ok () (m.setPc next)
    | .error fault m => .error fault m

def execute (m : Machine σ) (word : Int) : Outcome σ Unit := m.executeWord (Word.ofInt word)

/-- Executes the instruction at PC, unless a key is awaited. -/
def step (m : Machine σ) : Outcome σ Bool :=
  match m.mode with
  | .awaitingKey _ => .ok false m
  | .running =>
    match m.fetch with
    | .error fault => .error fault m
    | .ok w =>
      match m.executeWord w with
      | .ok _ m => .ok true { m with cycles := m.cycles + 1 }
      | .error fault m => .error fault m

/-- A step of a run: with `stopAtZero` a zero word is not executed but halts the machine, and the
answer is then `false`. -/
def runStep (m : Machine σ) (stopAtZero : Bool) : Outcome σ Bool :=
  if stopAtZero then
    match m.fetch with
    | .error fault => .error fault m
    | .ok w => if w = 0 then .ok false { m with halted := true } else m.step
  else m.step

def runFrom (stopAtZero : Bool) (executed : Nat) : Nat → Machine σ → Outcome σ Nat
  | 0, m => .ok executed m
  | limit + 1, m =>
    if m.halted then .ok executed m
    else
      match m.mode with
      | .awaitingKey _ => .ok executed m
      | .running =>
        match m.runStep stopAtZero with
        | .error fault m => .error fault m
        | .ok false m => .ok executed m
        | .ok true m => runFrom stopAtZero (executed + 1) limit m

/-- Steps until the machine halts, waits for a key or reaches the limit. The answer is the number
of instructions executed. -/
def run (m : Machine σ) (stopAtZero : Bool) (limit : Nat) : Outcome σ Nat :=
  runFrom stopAtZero 0 limit m

end Machine

end Chip8
