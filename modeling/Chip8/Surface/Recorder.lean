import Chip8.Surface.Basic
import Std.Data.HashMap

namespace Chip8

/-- Pixels without bounds: every pair of coordinates has its own, dark until it is set. -/
structure Plane where
  pixels : Std.HashMap (Int × Int) Bool := ∅

namespace Plane

def pixel (p : Plane) (x y : Int) : Bool := p.pixels.getD (x, y) false

def setPixel (p : Plane) (x y : Int) (on : Bool) : Plane := ⟨p.pixels.insert (x, y) on⟩

end Plane

/-- A call on a surface, with its arguments as they came. -/
inductive Recorder.Call where
  | clear
  | read (query : Query)
  | setPixel (x y : Int) (on : Bool)
  | setKey (k : Int) (pressed : Bool)
deriving DecidableEq, Repr

/-- A surface without bounds that writes down how it is used. Which keys are held is fixed
beforehand, and no call changes it. -/
structure Recorder where
  width : Int
  height : Int
  held : List Int := []
  /-- Whether the surface asks to be told of keys. -/
  takesKeys : Bool := false
  plane : Plane := {}
  /-- The calls so far, the most recent first. -/
  calls : List Recorder.Call := []

namespace Recorder

def record (r : Recorder) (c : Call) : Recorder := { r with calls := c :: r.calls }

instance : Surface Recorder where
  width := width
  height := height
  clear r := { r with plane := {} }.record .clear
  pixel r := r.plane.pixel
  setPixel r x y on := { r with plane := r.plane.setPixel x y on }.record (.setPixel x y on)
  isKeyPressed r k := r.held.contains k
  setKey r k pressed := if r.takesKeys then r.record (.setKey k pressed) else r
  noteRead r query := r.record (.read query)

end Recorder

end Chip8
