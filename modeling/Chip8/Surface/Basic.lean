namespace Chip8

/-- The sixteen keys, held or not. -/
structure Keypad where
  held : Vector Bool 16 := Vector.replicate 16 false
deriving DecidableEq

namespace Keypad

/-- The key that a code stands for: codes count modulo sixteen. -/
def key (code : Int) : Fin 16 := ⟨(code % 16).toNat, by omega⟩

def isPressed (k : Keypad) (code : Int) : Bool := k.held.get (key code)

def set (k : Keypad) (code : Int) (pressed : Bool) : Keypad := ⟨k.held.set (key code) pressed⟩

def layout : List (List (Fin 16)) :=
  [[0x1, 0x2, 0x3, 0xC], [0x4, 0x5, 0x6, 0xD], [0x7, 0x8, 0x9, 0xE], [0xA, 0x0, 0xB, 0xF]]

end Keypad

/-- A question that the machine asks its surface. -/
inductive Query where
  | pixel (x y : Int)
  | key (k : Int)
deriving DecidableEq, Repr

/-- A screen and a keypad. Coordinates and key codes arrive as the program computed them; reducing
them is the surface's business. -/
class Surface (σ : Type) where
  /-- The width that pictures of the screen have. -/
  width : σ → Int
  /-- The height that pictures of the screen have. -/
  height : σ → Int
  clear : σ → σ
  pixel : σ → Int → Int → Bool
  setPixel : σ → Int → Int → Bool → σ
  isKeyPressed : σ → Int → Bool
  /-- A key goes down or up. A surface that keeps no keys stays as it is. -/
  setKey : σ → Int → Bool → σ
  /-- Told of every question, for surfaces that keep count of them. -/
  noteRead : σ → Query → σ := fun s _ => s

namespace Surface

variable {σ : Type} [Surface σ]

def noteReads (s : σ) (queries : List Query) : σ := queries.foldl noteRead s

@[specialize] def flip (s : σ × Bool) (cell : Int × Int) : σ × Bool :=
  let (screen, collision) := s
  let lit := pixel screen cell.1 cell.2
  let screen := noteRead screen (.pixel cell.1 cell.2)
  (setPixel screen cell.1 cell.2 (!lit), collision || lit)

@[specialize] def flipAll (s : σ) (cells : List (Int × Int)) : σ × Bool :=
  cells.foldl flip (s, false)

end Surface

end Chip8
