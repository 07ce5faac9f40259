namespace Chip8.Number

/-- A quotient rounded to a whole number; a half goes to the even neighbour. -/
def roundHalfEven (num den : Nat) : Nat :=
  let whole := num / den
  let rest := num % den
  if 2 * rest < den then whole
  else if den < 2 * rest then whole + 1
  else if whole % 2 = 0 then whole else whole + 1

inductive Value where
  | nan
  | infinite (negative : Bool)
  /-- The number `significand * 2 ^ exponent`; zeros have a sign too. -/
  | finite (negative : Bool) (significand : Nat) (exponent : Int)
deriving DecidableEq, Repr

def Value.ofBits (bits : Nat) : Value :=
  let negative := decide (1 ≤ bits >>> 63 % 2)
  let exponent : Nat := bits >>> 52 % 2048
  let fraction := bits % 1 <<< 52
  if exponent = 2047 then if fraction = 0 then infinite negative else nan
  else if exponent = 0 then finite negative fraction (-1074)
  else finite negative (1 <<< 52 + fraction) ((exponent : Int) - 1075)

def pointed (places n : Nat) : String :=
  if places = 0 then toString n
  else
    let fraction := toString (n % Nat.pow 10 places)
    let zeros := "".pushn '0' (places - fraction.length)
    toString (n / Nat.pow 10 places) ++ "." ++ zeros ++ fraction

def fixed (places : Nat) (x : Float) : String :=
  let signed (negative : Bool) (text : String) := if negative then "-" ++ text else text
  match Value.ofBits x.toBits.toNat with
  | .nan => "nan"
  | .infinite negative => signed negative "inf"
  | .finite negative significand exponent =>
    let num := (significand * Nat.pow 10 places) <<< exponent.toNat
    signed negative (pointed places (roundHalfEven num (1 <<< (-exponent).toNat)))

def groupDigits : List Char → List Char
  | [] => []
  | d :: ds =>
    let rest := groupDigits ds
    if ds.length % 3 = 0 ∧ ds ≠ [] then d :: ',' :: rest else d :: rest

def grouped (n : Int) : String :=
  let digits := String.ofList (groupDigits (toString n.natAbs).toList)
  if n < 0 then "-" ++ digits else digits

end Chip8.Number
