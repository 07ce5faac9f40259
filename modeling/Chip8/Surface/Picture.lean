import Chip8.Surface.Basic
import Chip8.Text.Basic

namespace Chip8.Picture

/-- The character that shows two pixels, one above the other. -/
def halfBlock (top bottom : Bool) : Char :=
  match top, bottom with
  | false, false => ' '
  | true, false => '▀'
  | false, true => '▄'
  | true, true => '█'

def below (pixel : Int → Int → Bool) (height : Nat) (x y : Nat) : Bool :=
  decide (y + 1 < height) && pixel x (y + 1 : Nat)

def halfBlockLine (pixel : Int → Int → Bool) (width height y : Nat) : String :=
  String.ofList ((List.range width).map fun (x : Nat) =>
    halfBlock (pixel x y) (below pixel height x y))

/-- A picture that shows two rows of pixels on each line. -/
def halfBlockLines (pixel : Int → Int → Bool) (width height : Nat) : List String :=
  (List.range ((height + 1) / 2)).map fun r => halfBlockLine pixel width height (2 * r)

/-- The pixels that the two-row picture looks at, in its order. -/
def halfBlockReads (width height : Nat) : List Query :=
  (List.range ((height + 1) / 2)).flatMap fun r =>
    (List.range width).flatMap fun (x : Nat) =>
      .pixel x (2 * r : Nat) ::
        if 2 * r + 1 < height then [.pixel x (2 * r + 1 : Nat)] else []

def asciiDot (lit : Bool) : Char := if lit then '#' else '.'

def asciiLines (pixel : Int → Int → Bool) (width height : Nat) : List String :=
  (List.range height).map fun (y : Nat) =>
    String.ofList ((List.range width).map fun (x : Nat) => asciiDot (pixel x y))

def asciiReads (width height : Nat) : List Query :=
  (List.range height).flatMap fun (y : Nat) => (List.range width).map fun (x : Nat) => .pixel x y

def keyCell (isPressed : Int → Bool) (key : Fin 16) : String :=
  let name := Text.hex 1 key.val
  if isPressed key.val then s!"[reverse]{name}[/reverse]" else name

def keypadLines (isPressed : Int → Bool) : List String :=
  Keypad.layout.map fun row => " ".intercalate (row.map (keyCell isPressed))

def keypadReads : List Query := Keypad.layout.flatten.map fun key => .key key.val

end Chip8.Picture

namespace Chip8.Surface

variable {σ : Type} [Surface σ]

def halfBlocks (s : σ) (width height : Int) : String :=
  "\n".intercalate (Picture.halfBlockLines (pixel s) width.toNat height.toNat)

def ascii (s : σ) (width height : Int) : String :=
  "\n".intercalate (Picture.asciiLines (pixel s) width.toNat height.toNat)

def keypadText (s : σ) : String :=
  "\n".intercalate (Picture.keypadLines (isKeyPressed s))

end Chip8.Surface
