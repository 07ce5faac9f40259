import Chip8.Memory.Basic

namespace Chip8

/-- The register file. V holds bytes; the other registers hold whatever was put into them. -/
structure Registers where
  v : Vector UInt8 16 := Vector.replicate 16 0
  i : Int := 0
  dt : Int := 0
  st : Int := 0
  pc : Int := programStart
  /-- Return addresses, the most recent first. -/
  stack : List UInt16 := []

namespace Registers

def stackDepth : Nat := 16

def first : Fin 16 := ⟨0, Nat.zero_lt_succ 15⟩

def flag : Fin 16 := Fin.last 15

def index? (index : Int) : Option (Fin 16) :=
  if h : 0 ≤ index ∧ index < 16 then some ⟨index.toNat, by omega⟩ else none

@[inline] def get (r : Registers) (x : Fin 16) : UInt8 := r.v.get x

@[inline] def set (r : Registers) (x : Fin 16) (b : UInt8) : Registers :=
  { r with v := r.v.set x b }

def getV (r : Registers) (index : Int) : Except Fault UInt8 :=
  match index? index with
  | some x => .ok (r.get x)
  | none => .error (.invalidRegister index)

def setV (r : Registers) (index value : Int) : Except Fault Registers :=
  match index? index with
  | some x => .ok (r.set x (UInt8.ofInt value))
  | none => .error (.invalidRegister index)

def push (r : Registers) (addr : Int) : Except Fault Registers :=
  if r.stack.length < stackDepth then .ok { r with stack := UInt16.ofInt addr :: r.stack }
  else .error (.stackOverflow addr)

def pop (r : Registers) : Except Fault (UInt16 × Registers) :=
  match r.stack with
  | addr :: rest => .ok (addr, { r with stack := rest })
  | [] => .error .stackUnderflow

def tick (r : Registers) : Registers :=
  { r with
    dt := if 0 < r.dt then r.dt - 1 else r.dt
    st := if 0 < r.st then r.st - 1 else r.st }

def soundActive (r : Registers) : Bool := decide (0 < r.st)

/-- The values of V0 to VF, I, PC, DT and ST at one moment, in that order. -/
abbrev Snapshot := Vector Int 20

def snapshot (r : Registers) : Snapshot :=
  (r.v.map fun b => (b.toNat : Int)) ++ (⟨#[r.i, r.pc, r.dt, r.st], rfl⟩ : Vector Int 4)

def Snapshot.ofList? (values : List Int) : Option Snapshot :=
  if h : (values.take 20).toArray.size = 20 then some ⟨(values.take 20).toArray, h⟩ else none

end Registers

end Chip8
