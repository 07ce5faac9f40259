import Chip8.Number.Decimal

namespace Chip8.Number

def quotientLog2 (num den : Nat) : Int :=
  let e : Int := (num.log2 : Int) - den.log2
  if num <<< (-e).toNat < den <<< e.toNat then e - 1 else e

def quantumExponent (num den : Nat) : Int := max (-1074) (quotientLog2 num den - 52)

def infinityBits : Nat := 2047 <<< 52

/-- The bits of the double nearest to a quotient of positive numbers; beyond the greatest double
they are those of infinity. A significand that is rounded up to the next power of two carries over
into the exponent, which is what the sum of the two fields does. -/
def nearestBits (num den : Nat) : Nat :=
  let e := quantumExponent num den
  let significand := roundHalfEven (num <<< (-e).toNat) (den <<< e.toNat)
  min ((e + 1074).toNat <<< 52 + significand) infinityBits

def sizeBits (num den : Int) : Nat := if num = 0 then 0 else nearestBits num.natAbs den.natAbs

def quotient (num den : Int) : Float :=
  let sign := if num < 0 ↔ den < 0 then 0 else 1 <<< 63
  Float.ofBits (UInt64.ofNat (sign + sizeBits num den))

inductive Failure where
  | zeroDivisor
  /-- The number lies beyond the doubles. -/
  | tooLarge
deriving DecidableEq, Repr

/-- A number as it was counted or measured: a whole one of any size, or a double. -/
inductive Quantity where
  | whole (n : Int)
  | real (x : Float)

def nearest (num den : Int) : Except Failure Float :=
  if den = 0 then .error .zeroDivisor
  else if sizeBits num den = infinityBits then .error .tooLarge
  else .ok (quotient num den)

namespace Quantity

def toFloat : Quantity → Except Failure Float
  | whole n => nearest n 1
  | real x => .ok x

def div : Quantity → Quantity → Except Failure Float
  | whole a, whole b => nearest a b
  | a, b => do
    let x ← a.toFloat
    let y ← b.toFloat
    if y == 0 then throw .zeroDivisor
    return x / y

/-- Whether a quantity is a bound or above it. -/
def reaches (q : Quantity) (bound : Int) : Bool :=
  match q with
  | whole n => decide (bound ≤ n)
  | real x => decide (quotient bound 1 ≤ x)

def fixed (places : Nat) (q : Quantity) : Except Failure String :=
  q.toFloat.map (Number.fixed places)

end Quantity

end Chip8.Number
