import Chip8.Files
import Chip8.Machine.Basic

namespace Chip8.Rom

def maxSize : Nat := 4096 - programStart

inductive Refusal where
  | unreadable (error : FileError)
  | empty (path : String)
  | tooLarge (size : Nat)
  /-- The image does not fit into memory. -/
  | outside (fault : Fault)
deriving DecidableEq, Repr

def Refusal.message : Refusal → String
  | unreadable error => error.message
  | empty path => s!"ROM is empty: {path}"
  | tooLarge size => s!"ROM too large: {size} bytes (max {maxSize})"
  | outside fault => fault.message

/-- A program image, read from a file and checked for its size. -/
def check (path : String) : Except FileError (List UInt8) → Except Refusal (List UInt8)
  | .error e => .error (.unreadable e)
  | .ok data =>
    if data = [] then .error (.empty path)
    else if maxSize < data.length then .error (.tooLarge data.length)
    else .ok data

def load {σ : Type} (m : Machine σ) (path : String) (contents : Except FileError (List UInt8)) :
    Except Refusal (Nat × Machine σ) :=
  match check path contents with
  | .error e => .error e
  | .ok data =>
    match m.loadProgram data with
    | .ok _ m => .ok (data.length, m)
    | .error fault _ => .error (.outside fault)

end Chip8.Rom
