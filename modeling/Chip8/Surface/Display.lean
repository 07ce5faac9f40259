import Chip8.Surface.Basic

namespace Chip8

/-- A screen of at least one pixel whose opposite edges meet, with a keypad. -/
structure Display where
  width : Nat
  height : Nat
  width_pos : 0 < width
  height_pos : 0 < height
  pixels : Vector Bool (width * height)
  keypad : Keypad

namespace Display

def blank (width height : Nat) (hw : 0 < width) (hh : 0 < height) : Display :=
  ⟨width, height, hw, hh, Vector.replicate (width * height) false, {}⟩

def standard : Display := blank 64 32 (by decide) (by decide)

def maxPixels : Nat := 1 <<< 36

inductive SizeError where
  | notPositive (width height : Int)
  | tooLarge (pixels : Nat)
deriving DecidableEq, Repr

def SizeError.message : SizeError → String
  | notPositive width height => s!"Display size must be positive: {width}x{height}"
  | tooLarge pixels => s!"Display has too many pixels: {pixels}"

def ofSize? (width height : Int) : Except SizeError Display :=
  if h : 0 < width ∧ 0 < height then
    let pixels := width.toNat * height.toNat
    if pixels ≤ maxPixels then .ok (blank width.toNat height.toNat (by omega) (by omega))
    else .error (.tooLarge pixels)
  else .error (.notPositive width height)

/-- A coordinate on an axis whose ends meet. -/
def wrap (size : Nat) (n : Int) : Nat := (n % size).toNat

theorem wrap_lt {size : Nat} (h : 0 < size) (n : Int) : wrap size n < size := by
  have := Int.emod_nonneg n (b := size) (by omega)
  have := Int.emod_lt_of_pos n (b := size) (by omega)
  unfold wrap
  omega

theorem row_add_column_lt {width height y x : Nat} (hy : y < height) (hx : x < width) :
    y * width + x < width * height :=
  calc
    y * width + x < y * width + width := Nat.add_lt_add_left hx _
    _ = (y + 1) * width := (Nat.succ_mul y width).symm
    _ ≤ height * width := Nat.mul_le_mul_right width hy
    _ = width * height := Nat.mul_comm _ _

def cell (d : Display) (x y : Int) : Fin (d.width * d.height) :=
  ⟨wrap d.height y * d.width + wrap d.width x,
    row_add_column_lt (wrap_lt d.height_pos y) (wrap_lt d.width_pos x)⟩

@[inline] def pixel (d : Display) (x y : Int) : Bool := d.pixels.get (d.cell x y)

@[inline] def setPixel (d : Display) (x y : Int) (on : Bool) : Display :=
  let place := d.cell x y
  { d with pixels := d.pixels.set place on }

def clear (d : Display) : Display :=
  { d with pixels := Vector.replicate (d.width * d.height) false }

instance : Surface Display where
  width d := d.width
  height d := d.height
  clear := clear
  pixel := pixel
  setPixel := setPixel
  isKeyPressed d := d.keypad.isPressed
  setKey d code pressed := { d with keypad := d.keypad.set code pressed }

end Display

end Chip8
