import Chip8.Proofs.Lists
import Chip8.Proofs.Surface.Torus
import Chip8.Surface.Recorder

namespace Chip8

namespace Surface

variable {σ : Type} [Surface σ]

def after (s : σ) : Recorder.Call → σ
  | .clear => clear s
  | .read query => noteRead s query
  | .setPixel x y on => setPixel s x y on
  | .setKey code pressed => setKey s code pressed

def afterAll (s : σ) (calls : List Recorder.Call) : σ := calls.foldl after s

end Surface

namespace Recorder.Call

/-- The calls since the screen was cleared last. -/
def sinceClear (calls : List Call) : List Call :=
  (calls.reverse.takeWhile fun call => call ≠ .clear).reverse

/-- What a call sets a pixel to, if it sets one at congruent coordinates. -/
def pixelSet? (width height : Nat) (x y : Int) : Call → Option Bool
  | .setPixel x' y' on =>
    if x' % width = x % width ∧ y' % height = y % height then some on else none
  | _ => none

def keySet? (code : Int) : Call → Option Bool
  | .setKey code' pressed => if code' % 16 = code % 16 then some pressed else none
  | _ => none

def pixelLeft? (width height : Nat) (x y : Int) (call : Call) : Option Bool :=
  if call = .clear then some false else call.pixelSet? width height x y

def onKeys : Call → Bool
  | .setKey _ _ => true
  | _ => false

/-- A pixel is dark because of a clearing only if it has not been set since. -/
theorem getLast?_pixelLeft (width height : Nat) (x y : Int) (calls : List Call) :
    ((calls.filterMap (pixelLeft? width height x y)).getLast?).getD false =
      (((sinceClear calls).filterMap (pixelSet? width height x y)).getLast?).getD false := by
  rw [sinceClear, List.getLast?_filterMap, List.getLast?_filterMap, List.reverse_reverse]
  -- Going back from the last call both sides look at the same calls, up to the first clearing.
  induction calls.reverse with
  | nil => rfl
  | cons call earlier ih =>
    by_cases hc : call = .clear
    · simp [hc, pixelLeft?]
    · rw [List.takeWhile_cons_of_pos (by simpa using hc), List.findSome?_cons, List.findSome?_cons,
        pixelLeft?, if_neg hc]
      cases call.pixelSet? width height x y with
      | none => exact ih
      | some on => rfl

end Recorder.Call

namespace Display

open Recorder (Call)

theorem after_size (d : Display) (call : Call) :
    (Surface.after d call).width = d.width ∧ (Surface.after d call).height = d.height := by
  cases call <;> exact ⟨rfl, rfl⟩

theorem after_pixel (d : Display) (call : Call) (x y : Int) :
    (Surface.after d call).pixel x y =
      (call.pixelLeft? d.width d.height x y).getD (d.pixel x y) := by
  cases call with
  | clear => exact d.pixel_clear x y
  | read query => rfl
  | setPixel x' y' on =>
    have hpixel := d.pixel_setPixel (x', y') (x, y) on
    show (d.setPixel x' y' on).pixel x y = _
    rw [hpixel]
    simp only [Call.pixelLeft?, reduceCtorEq, if_false, Call.pixelSet?]
    by_cases h : x' % d.width = x % d.width ∧ y' % d.height = y % d.height
    · have hmeets : d.Meets (x', y') (x, y) := h
      rw [if_pos h, if_pos hmeets, Option.getD_some]
    · have hmeets : ¬ d.Meets (x', y') (x, y) := h
      rw [if_neg h, if_neg hmeets, Option.getD_none]
  | setKey code pressed => rfl

theorem after_isPressed (d : Display) (call : Call) (code : Int) :
    (Surface.after d call).keypad.isPressed code =
      (call.keySet? code).getD (d.keypad.isPressed code) := by
  cases call with
  | setKey code' pressed =>
    show (d.keypad.set code' pressed).isPressed code = _
    rw [Keypad.isPressed_set, Call.keySet?]
    split <;> rfl
  | _ => rfl

theorem afterAll_size (d : Display) (calls : List Call) :
    (Surface.afterAll d calls).width = d.width ∧ (Surface.afterAll d calls).height = d.height := by
  induction calls generalizing d with
  | nil => exact ⟨rfl, rfl⟩
  | cons call calls ih =>
    have hfirst := d.after_size call
    have hrest := ih (Surface.after d call)
    exact ⟨hrest.1.trans hfirst.1, hrest.2.trans hfirst.2⟩

theorem afterAll_pixel (d : Display) (calls : List Call) (x y : Int) :
    (Surface.afterAll d calls).pixel x y =
      ((calls.filterMap (Call.pixelLeft? d.width d.height x y)).getLast?).getD (d.pixel x y) := by
  apply foldl_last_given Surface.after (fun d' : Display => d'.pixel x y)
    (Call.pixelLeft? d.width d.height x y)
    (fun d' : Display => d'.width = d.width ∧ d'.height = d.height)
  · intro d' call hsize
    have hkept := d'.after_size call
    exact ⟨hkept.1.trans hsize.1, hkept.2.trans hsize.2⟩
  · intro d' call hsize
    rw [← hsize.1, ← hsize.2]
    exact d'.after_pixel call x y
  · exact ⟨rfl, rfl⟩

theorem afterAll_keys (d : Display) (calls : List Call) (code : Int) :
    (Surface.afterAll d calls).keypad.isPressed code =
      ((calls.filterMap (Call.keySet? code)).getLast?).getD (d.keypad.isPressed code) :=
  foldl_last_given Surface.after (fun d : Display => d.keypad.isPressed code) (Call.keySet? code)
    (fun _ => True) (fun _ _ _ => trivial) (fun d call _ => d.after_isPressed call code) d trivial
    calls

def place (d : Display) (x y : Int) : Int := y % d.height * d.width + x % d.width

theorem cell_val (d : Display) (x y : Int) : ((d.cell x y).val : Int) = d.place x y := by
  have hx := Int.emod_nonneg x (b := d.width) (by have := d.width_pos; omega)
  have hy := Int.emod_nonneg y (b := d.height) (by have := d.height_pos; omega)
  show ((wrap d.height y * d.width + wrap d.width x : Nat) : Int) = _
  rw [Int.natCast_add, Int.natCast_mul, wrap, wrap, Int.toNat_of_nonneg hy, Int.toNat_of_nonneg hx]
  rfl

/-- All coordinates and codes stand for a place within the lists of pixels and keys, and what is
read or written is there. -/
structure StaysWithin (d : Display) : Prop where
  place : ∀ x y, 0 ≤ d.place x y ∧ d.place x y < d.pixels.toList.length
  pixel : ∀ x y, d.pixels.toList[(d.place x y).toNat]? = some (Surface.pixel d x y)
  setPixel : ∀ x y on, (Surface.setPixel d x y on).pixels.toList =
    d.pixels.toList.set (d.place x y).toNat on
  key : ∀ code : Int, 0 ≤ code % 16 ∧ code % 16 < d.keypad.held.toList.length
  isKeyPressed : ∀ code : Int,
    d.keypad.held.toList[(code % 16).toNat]? = some (Surface.isKeyPressed d code)
  setKey : ∀ (code : Int) pressed, (Surface.setKey d code pressed).keypad.held.toList =
    d.keypad.held.toList.set (code % 16).toNat pressed

theorem staysWithin (d : Display) : d.StaysWithin where
  place x y := by
    have hlt := (d.cell x y).isLt
    rw [← cell_val, Vector.length_toList]
    omega
  pixel x y := by
    rw [← cell_val, Int.toNat_natCast, Vector.getElem?_toList,
      Vector.getElem?_eq_getElem (d.cell x y).isLt]
    rfl
  setPixel x y on := by
    rw [← cell_val, Int.toNat_natCast]
    show (d.pixels.set (d.cell x y) on).toList = _
    rw [Vector.toList_set]
  key code := by
    rw [Vector.length_toList]
    omega
  isKeyPressed code := by
    show d.keypad.held.toList[(Keypad.key code).val]? = _
    rw [Vector.getElem?_toList, Vector.getElem?_eq_getElem (Keypad.key code).isLt]
    rfl
  setKey code pressed := by
    show (d.keypad.held.set (Keypad.key code) pressed).toList = _
    rw [Vector.toList_set]
    rfl

/-- A display that was blank before some calls shows each pixel as it was set last since the screen
was cleared last, and holds each key as it was set last. Calls about the keys make no difference to
the pixels, nor do the others to the keys. -/
structure ShowsLastWrites (start : Display) (calls : List Call) (d : Display) : Prop where
  size : d.width = start.width ∧ d.height = start.height
  pixel : ∀ x y, Surface.pixel d x y = (((Call.sinceClear calls).filterMap
    (Call.pixelSet? start.width start.height x y)).getLast?).getD false
  key : ∀ code, Surface.isKeyPressed d code =
    ((calls.filterMap (Call.keySet? code)).getLast?).getD false
  withoutKeys : ∀ x y, Surface.pixel d x y =
    Surface.pixel (Surface.afterAll start (calls.filter fun call => !call.onKeys)) x y
  withoutPixels : ∀ code, Surface.isKeyPressed d code =
    Surface.isKeyPressed (Surface.afterAll start (calls.filter Call.onKeys)) code

theorem showsLastWrites (start : Display) (hdark : ∀ x y, start.pixel x y = false)
    (hup : ∀ code, start.keypad.isPressed code = false) (calls : List Call) :
    ShowsLastWrites start calls (Surface.afterAll start calls) where
  size := start.afterAll_size calls
  pixel x y := by
    have hpixel := start.afterAll_pixel calls x y
    rw [hdark, Call.getLast?_pixelLeft] at hpixel
    exact hpixel
  key code := by
    have hkey := start.afterAll_keys calls code
    rw [hup] at hkey
    exact hkey
  withoutKeys x y := by
    have hnone (call : Call) (hc : (!call.onKeys) = false) :
        call.pixelLeft? start.width start.height x y = none := by
      cases call with
      | setKey code pressed => rfl
      | _ => cases hc
    have hall := start.afterAll_pixel calls x y
    have hrest := start.afterAll_pixel (calls.filter fun call => !call.onKeys) x y
    rw [filterMap_filter_of_none _ _ hnone] at hrest
    exact hall.trans hrest.symm
  withoutPixels code := by
    have hnone (call : Call) (hc : call.onKeys = false) : call.keySet? code = none := by
      cases call with
      | setKey code pressed => cases hc
      | _ => rfl
    have hall := start.afterAll_keys calls code
    have hrest := start.afterAll_keys (calls.filter Call.onKeys) code
    rw [filterMap_filter_of_none _ _ hnone] at hrest
    exact hall.trans hrest.symm

/-- Whatever calls a display of any size takes, with whatever coordinates and codes, it is a torus
of pixels and a ring of keys that show what was written last. -/
theorem torus_of_last_writes (width height : Nat) (hw : 0 < width) (hh : 0 < height)
    (calls : List Call) :
    let start := blank width height hw hh
    (Surface.afterAll start calls).StaysWithin ∧
      ShowsLastWrites start calls (Surface.afterAll start calls) := by
  intro start
  have hup (code : Int) : start.keypad.isPressed code = false := by
    show (Vector.replicate 16 false)[(Keypad.key code).val] = false
    rw [Vector.getElem_replicate]
  exact ⟨staysWithin _, showsLastWrites start (pixel_blank width height hw hh) hup calls⟩

/-- A pixel is lit under coordinates below zero and darkened under others beyond the screen; a key
goes down under a code below zero. -/
theorem torus_of_last_writes_three_by_two :
    let start := blank 3 2 (by decide) (by decide)
    let calls : List Call := [.setPixel 0 0 true, .clear, .setPixel (-1) (-1) true,
      .setKey (-13) true, .setPixel 5 3 false, .setPixel 1 (-5) true, .setKey 20 true]
    let d := Surface.afterAll start calls
    (0 < 3 ∧ 0 < 2) ∧
    ((Surface.pixel d 0 0 = false ∧ Surface.pixel d 2 1 = false ∧ Surface.pixel d 1 1 = true) ∧
      Surface.isKeyPressed d 3 = true) ∧
    d.StaysWithin ∧ ShowsLastWrites start calls d := by
  intro start calls d
  have hsize : 0 < 3 ∧ 0 < 2 := by decide
  have hpixels : Surface.pixel d 0 0 = false ∧ Surface.pixel d 2 1 = false ∧
      Surface.pixel d 1 1 = true := by decide
  have hkey : Surface.isKeyPressed d 3 = true := by decide
  exact ⟨hsize, ⟨hpixels, hkey⟩, torus_of_last_writes 3 2 hsize.1 hsize.2 calls⟩

end Display

end Chip8
