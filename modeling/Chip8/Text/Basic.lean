namespace Chip8.Text

/-- A set of characters, given by the code points at which characters of the set and others take
turns, in ascending order and from the first character of the set on. -/
structure CharSet where
  turns : Array Nat

def CharSet.contains (s : CharSet) (c : Char) : Bool :=
  s.turns.foldl (fun inside turn => if turn ≤ c.toNat then !inside else inside) false

def filling (width : Nat) (s : String) : String := "".pushn ' ' (width - s.length)

def padLeft (width : Nat) (s : String) : String := filling width s ++ s

def padRight (width : Nat) (s : String) : String := s ++ filling width s

def hexDigit (d : Nat) : Char :=
  if d < 10 then Char.ofNat (48 + d) else Char.ofNat (55 + d)

def hexDigits (n : Nat) : List Char :=
  if n < 16 then [hexDigit n] else hexDigits (n / 16) ++ [hexDigit (n % 16)]

def zeroFill (width : Nat) (negative : Bool) (digits : List Char) : List Char :=
  let sign := if negative then ['-'] else []
  sign ++ List.replicate (width - (sign.length + digits.length)) '0' ++ digits

def hex (width : Nat) (n : Int) : String :=
  String.ofList (zeroFill width (decide (n < 0)) (hexDigits n.natAbs))

def address (addr : Int) : String := "0x" ++ hex 3 addr

theorem hexDigits_of_lt {n : Nat} (h : n < 16) : hexDigits n = [hexDigit n] := by
  rw [hexDigits, if_pos h]

theorem hexDigits_of_le {n : Nat} (h : 16 ≤ n) :
    hexDigits n = hexDigits (n / 16) ++ [hexDigit (n % 16)] := by
  rw [hexDigits, if_neg (by omega)]

/-- The characters that separate words. -/
def isBlank (c : Char) : Bool :=
  let n := c.toNat
  (0x09 ≤ n && n ≤ 0x0D) || (0x1C ≤ n && n ≤ 0x20) || n == 0x85 || n == 0xA0 || n == 0x1680 ||
    (0x2000 ≤ n && n ≤ 0x200A) || n == 0x2028 || n == 0x2029 || n == 0x202F || n == 0x205F ||
    n == 0x3000

/-- The word at the front, empty before a blank, and the words after it. -/
def splitWords : List Char → List Char × List (List Char)
  | [] => ([], [])
  | c :: cs =>
    let (word, rest) := splitWords cs
    if isBlank c then ([], if word.isEmpty then rest else word :: rest) else (c :: word, rest)

def words (s : String) : List String :=
  let (word, rest) := splitWords s.toList
  (if word.isEmpty then rest else word :: rest).map String.ofList

end Chip8.Text
