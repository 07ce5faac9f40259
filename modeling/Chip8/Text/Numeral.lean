import Chip8.Text.Basic

namespace Chip8.Text

def decimalZeros : List Nat := [
  0x30, 0x660, 0x6F0, 0x7C0, 0x966, 0x9E6, 0xA66, 0xAE6, 0xB66, 0xBE6, 0xC66, 0xCE6, 0xD66,
  0xDE6, 0xE50, 0xED0, 0xF20, 0x1040, 0x1090, 0x17E0, 0x1810, 0x1946, 0x19D0, 0x1A80, 0x1A90,
  0x1B50, 0x1BB0, 0x1C40, 0x1C50, 0xA620, 0xA8D0, 0xA900, 0xA9D0, 0xA9F0, 0xAA50, 0xABF0, 0xFF10,
  0x104A0, 0x10D30, 0x11066, 0x110F0, 0x11136, 0x111D0, 0x112F0, 0x11450, 0x114D0, 0x11650,
  0x116C0, 0x11730, 0x118E0, 0x11950, 0x11C50, 0x11D50, 0x11DA0, 0x16A60, 0x16AC0, 0x16B50,
  0x1D7CE, 0x1D7D8, 0x1D7E2, 0x1D7EC, 0x1D7F6, 0x1E140, 0x1E2F0, 0x1E950, 0x1FBF0
]

def decimalDigit? (c : Char) : Option Nat :=
  (decimalZeros.find? fun z => z ≤ c.toNat && c.toNat < z + 10).map fun z =>
    c.toNat - z

inductive Base where
  | decimal
  | hexadecimal
deriving DecidableEq, Repr

namespace Base

def radix : Base → Nat
  | decimal => 10
  | hexadecimal => 16

def digitLimit : Base → Option Nat
  | decimal => some 4300
  | hexadecimal => none

def digit? (base : Base) (c : Char) : Option Nat :=
  match base with
  | decimal => decimalDigit? c
  | hexadecimal =>
    if 'a' ≤ c ∧ c ≤ 'f' then some (c.toNat - 87)
    else if 'A' ≤ c ∧ c ≤ 'F' then some (c.toNat - 55)
    else decimalDigit? c

/-- What follows the mark of a base, if the numeral has one: a zero of any script and an `x`, after
which one underscore may stand. -/
def unmarked (base : Base) (cs : List Char) : List Char :=
  match base, cs with
  | hexadecimal, zero :: mark :: rest =>
    if decimalDigit? zero = some 0 ∧ (mark = 'x' ∨ mark = 'X') then
      match rest with
      | '_' :: rest => rest
      | rest => rest
    else cs
  | _, _ => cs

/-- The digits of a numeral, between any two of which one underscore may stand. -/
def digits? (base : Base) : List Char → Option (List Nat)
  | [] => none
  | [c] => (base.digit? c).map fun d => [d]
  | c :: '_' :: rest =>
    match base.digit? c with
    | some d => (digits? base rest).map (d :: ·)
    | none => none
  | c :: rest =>
    match base.digit? c with
    | some d => (digits? base rest).map (d :: ·)
    | none => none

def valueOf (base : Base) (digits : List Nat) : Nat :=
  digits.foldl (fun n d => n * base.radix + d) 0

def natural? (base : Base) (cs : List Char) : Option Nat :=
  match base.digits? (base.unmarked cs) with
  | none => none
  | some digits =>
    match base.digitLimit with
    | some limit => if digits.length ≤ limit then some (base.valueOf digits) else none
    | none => some (base.valueOf digits)

def isMargin (c : Char) : Bool := isBlank c && !(0x1C ≤ c.toNat && c.toNat ≤ 0x1F)

def trim (cs : List Char) : List Char :=
  ((cs.dropWhile isMargin).reverse.dropWhile isMargin).reverse

def integer? (base : Base) (s : String) : Option Int :=
  match trim s.toList with
  | '-' :: cs => (base.natural? cs).map fun n => -(n : Int)
  | '+' :: cs => (base.natural? cs).map fun n => (n : Int)
  | cs => (base.natural? cs).map fun n => (n : Int)

end Base

end Chip8.Text
