import Chip8.Proofs.Machine.Twins
import Chip8.Proofs.Surface.Torus
import Chip8.Surface.Recorder

namespace Chip8

/-- A surface beside which the coordinates are written down that it is given, the last first. -/
structure Watched (σ : Type) where
  surface : σ
  given : List (Int × Int) := []

namespace Watched

variable {σ : Type}

instance [Surface σ] : Surface (Watched σ) where
  width w := Surface.width w.surface
  height w := Surface.height w.surface
  clear w := { w with surface := Surface.clear w.surface }
  pixel w := Surface.pixel w.surface
  setPixel w x y on := ⟨Surface.setPixel w.surface x y on, (x, y) :: w.given⟩
  isKeyPressed w := Surface.isKeyPressed w.surface
  setKey w k pressed := { w with surface := Surface.setKey w.surface k pressed }
  noteRead w
    | .pixel x y => ⟨Surface.noteRead w.surface (.pixel x y), (x, y) :: w.given⟩
    | .key k => { w with surface := Surface.noteRead w.surface (.key k) }

/-- A surface is watched, and has been given coordinates within reach only. -/
def Shadows (s : σ) (w : Watched σ) : Prop :=
  w.surface = s ∧ ∀ cell ∈ w.given, Surface.InReach cell.1 cell.2

theorem Shadows.give {s : σ} {w : Watched σ} (h : Shadows s w) (s' : σ) (x y : Int)
    (hreach : Surface.InReach x y) : Shadows s' ⟨s', (x, y) :: w.given⟩ := by
  refine ⟨rfl, ?_⟩
  intro cell hcell
  rcases List.mem_cons.mp hcell with rfl | hcell
  · exact hreach
  · exact h.2 cell hcell

/-- Watching a surface makes no difference to a machine. -/
theorem indistinct_shadows [Surface σ] : Surface.Indistinct (Shadows (σ := σ)) where
  clear h := ⟨congrArg Surface.clear h.1, h.2⟩
  pixel x y _ h := (congrArg (Surface.pixel · x y) h.1).symm
  setPixel x y on hreach h := by
    obtain ⟨rfl, hgiven⟩ := h
    exact Shadows.give ⟨rfl, hgiven⟩ _ x y hreach
  isKeyPressed k h := (congrArg (Surface.isKeyPressed · k) h.1).symm
  setKey k pressed h := ⟨congrArg (Surface.setKey · k pressed) h.1, h.2⟩
  notePixel x y hreach h := by
    obtain ⟨rfl, hgiven⟩ := h
    exact Shadows.give ⟨rfl, hgiven⟩ _ x y hreach
  noteKey k h := ⟨congrArg (Surface.noteRead · (.key k)) h.1, h.2⟩

end Watched

theorem Plane.pixel_setPixel (p : Plane) (a b : Int × Int) (on : Bool) :
    (p.setPixel a.1 a.2 on).pixel b.1 b.2 = if a = b then on else p.pixel b.1 b.2 := by
  show (p.pixels.insert a on).getD b false = _
  rw [Std.HashMap.getD_insert]
  by_cases h : a = b
  · rw [if_pos h, if_pos (beq_iff_eq.mpr h)]
  · rw [if_neg h, if_neg (mt beq_iff_eq.mp h)]
    rfl

/-- A surface without edges, on which every pair of coordinates is a pixel of its own, with the keypad
of a display. -/
structure Canvas where
  width : Int
  height : Int
  plane : Plane := {}
  keypad : Keypad := {}

namespace Canvas

instance : Surface Canvas where
  width := width
  height := height
  clear c := { c with plane := {} }
  pixel c := c.plane.pixel
  setPixel c x y on := { c with plane := c.plane.setPixel x y on }
  isKeyPressed c := c.keypad.isPressed
  setKey c k pressed := { c with keypad := c.keypad.set k pressed }

/-- A canvas shows on so much of it what a display shows, and holds the same keys. -/
structure Continues (width height : Nat) (d : Display) (c : Canvas) : Prop where
  size : d.width = width ∧ d.height = height
  keypad : c.keypad = d.keypad
  pixel : ∀ x y : Int, 0 ≤ x → x < width → 0 ≤ y → y < height →
    c.plane.pixel x y = d.pixel x y

/-- On a display that is large enough no coordinates within reach are wrapped. -/
theorem Continues.meets_iff {width height : Nat} {d : Display} {c : Canvas}
    (h : Continues width height d c) {a b : Int × Int}
    (ha : (0 ≤ a.1 ∧ a.1 < width) ∧ 0 ≤ a.2 ∧ a.2 < height)
    (hb : (0 ≤ b.1 ∧ b.1 < width) ∧ 0 ≤ b.2 ∧ b.2 < height) : d.Meets a b ↔ a = b := by
  obtain ⟨hwidth, hheight⟩ := h.size
  rw [Display.Meets, hwidth, hheight, Int.emod_eq_of_lt ha.1.1 ha.1.2,
    Int.emod_eq_of_lt hb.1.1 hb.1.2, Int.emod_eq_of_lt ha.2.1 ha.2.2,
    Int.emod_eq_of_lt hb.2.1 hb.2.2, Prod.ext_iff]

theorem indistinct_continues (width height : Nat) (hw : 263 ≤ width) (hh : 270 ≤ height) :
    Surface.Indistinct (Continues width height) where
  clear {d c} h := by
    refine ⟨h.size, h.keypad, ?_⟩
    intro x y _ _ _ _
    show (∅ : Std.HashMap (Int × Int) Bool).getD (x, y) false = d.clear.pixel x y
    rw [Std.HashMap.getD_empty, Display.pixel_clear]
  pixel {d c} x y hreach h := by
    unfold Surface.InReach at hreach
    exact (h.pixel x y (by omega) (by omega) (by omega) (by omega)).symm
  setPixel {d c} x y on hreach h := by
    unfold Surface.InReach at hreach
    refine ⟨h.size, h.keypad, ?_⟩
    intro x' y' hx hx' hy hy'
    -- Both coordinates are on the display, where being the same pixel is being the same pair.
    have hplane := c.plane.pixel_setPixel (x, y) (x', y') on
    have hdisplay := d.pixel_setPixel (x, y) (x', y') on
    have hmeets : d.Meets (x, y) (x', y') ↔ (x, y) = (x', y') :=
      h.meets_iff ⟨⟨by omega, by omega⟩, by omega, by omega⟩ ⟨⟨hx, hx'⟩, hy, hy'⟩
    rw [h.pixel x' y' hx hx' hy hy'] at hplane
    simp only [hmeets] at hdisplay
    exact hplane.trans hdisplay.symm
  isKeyPressed {d c} k h := congrArg (Keypad.isPressed · k) h.keypad.symm
  setKey {d c} k pressed h := ⟨h.size, congrArg (Keypad.set · k pressed) h.keypad, h.pixel⟩
  notePixel _ _ _ h := h
  noteKey _ h := h

end Canvas

namespace Machine

def watched {σ : Type} (m : Machine σ) : Machine (Watched σ) := m.on ⟨m.surface, []⟩

/-- At some events a machine gives its surface no coordinates but those within reach; to find that
out, its surface has been watched, which has made no difference. -/
structure StaysInReach {σ : Type} [Surface σ] (m : Machine σ) (events : List Event) : Prop where
  given : ∀ cell ∈ (m.watched.afterAll events).surface.given, Surface.InReach cell.1 cell.2
  machine : (m.watched.afterAll events).on (m.watched.afterAll events).surface.surface =
    m.afterAll events

theorem staysInReach {σ : Type} [Surface σ] (m : Machine σ) (events : List Event) :
    m.StaysInReach events := by
  -- The machine and the one whose surface is watched are twins, and what the relation says of the
  -- coordinates given so far holds at the end.
  have hstart : Twins Watched.Shadows m m.watched :=
    ⟨_, ⟨rfl, fun cell hcell => absurd hcell List.not_mem_nil⟩, rfl⟩
  obtain ⟨w, ⟨hsurface, hgiven⟩, hw⟩ := hstart.afterAll Watched.indistinct_shadows events
  constructor
  · rw [hw]
    exact hgiven
  · rw [hw]
    show (m.afterAll events).on w.surface = m.afterAll events
    rw [hsurface]
    rfl

/-- A machine on a canvas stands where one on a display stands: it shows the same on all of the display,
and it answers alike whatever may happen next. -/
structure KeepsUp (width height : Nat) (d : Machine Display) (c : Machine Canvas) : Prop where
  registers : c.registers = d.registers
  memory : c.memory = d.memory
  random : c.random = d.random
  mode : c.mode = d.mode
  halted : c.halted = d.halted
  cycles : c.cycles = d.cycles
  isKeyPressed : Surface.isKeyPressed c.surface = Surface.isKeyPressed d.surface
  pixel : ∀ x y : Int, 0 ≤ x → x < width → 0 ≤ y → y < height →
    Surface.pixel c.surface x y = Surface.pixel d.surface x y
  reply : ∀ event, c.reply event = d.reply event

theorem keepsUp_of_twins (width height : Nat) (hw : 263 ≤ width) (hh : 270 ≤ height)
    (d : Machine Display) (c : Machine Canvas) (h : Twins (Canvas.Continues width height) d c) :
    KeepsUp width height d c := by
  have hreply := fun event => (h.after (Canvas.indistinct_continues width height hw hh) event).2
  obtain ⟨t, ht, rfl⟩ := h
  exact ⟨rfl, rfl, rfl, rfl, rfl, rfl, congrArg Keypad.isPressed ht.keypad, ht.pixel, hreply⟩

/-- A machine does not find out about the edges of its display if they are far enough: whatever happens
to it, no coordinates are given to the surface but those within reach, and with all of these on the
display it goes through the same as without edges. -/
theorem only_wrapping_matters (width height : Nat) (hw : 263 ≤ width) (hh : 270 ≤ height)
    (random : RandomSource) (memory : Memory) (events : List Event) :
    let display : Machine Display :=
      { surface := .blank width height (Nat.lt_of_lt_of_le (Nat.zero_lt_succ 262) hw)
          (Nat.lt_of_lt_of_le (Nat.zero_lt_succ 269) hh), random, memory }
    let canvas : Machine Canvas := { surface := { width, height }, random, memory }
    display.StaysInReach events ∧ canvas.StaysInReach events ∧
      KeepsUp width height (display.afterAll events) (canvas.afterAll events) := by
  intro display canvas
  have hstart : Twins (Canvas.Continues width height) display canvas := by
    refine ⟨_, ⟨⟨rfl, rfl⟩, rfl, ?_⟩, rfl⟩
    intro x y _ _ _ _
    show (∅ : Std.HashMap (Int × Int) Bool).getD (x, y) false = Display.pixel _ x y
    rw [Std.HashMap.getD_empty, Display.pixel_blank]
  have hend := hstart.afterAll (Canvas.indistinct_continues width height hw hh) events
  exact ⟨staysInReach _ _, staysInReach _ _, keepsUp_of_twins width height hw hh _ _ hend⟩

/-- A load of 0xFF into V0, of an address into I, and a sprite of fifteen full rows at (V0, V0), and
once more. -/
def cornerSprite : Memory :=
  .holding ([0x60, 0xFF, 0xA2, 0x08, 0xD0, 0x0F, 0x12, 0x04] ++ List.replicate 15 0xFF) (by decide)

/-- The sprite is drawn up to the last pixel within reach, on the smallest display that has it. -/
theorem only_wrapping_matters_corner :
    let display : Machine Display :=
      { surface := .blank 263 270 (by decide) (by decide), random := .zeros, memory := cornerSprite }
    let canvas : Machine Canvas :=
      { surface := { width := 263, height := 270 }, random := .zeros, memory := cornerSprite }
    let events : List Event := [.pressKey 20, .run true 3, .tick, .step, .releaseKey 4, .step]
    (263 ≤ 263 ∧ 270 ≤ 270) ∧
    (262, 269) ∈ (display.watched.afterAll events).surface.given ∧
      (display.afterAll events).registers.pc = 0x206 ∧
      display.StaysInReach events ∧ canvas.StaysInReach events ∧
      KeepsUp 263 270 (display.afterAll events) (canvas.afterAll events) := by
  intro display canvas events
  have hsize : 263 ≤ 263 ∧ 270 ≤ 270 := by decide
  have hcorner : (262, 269) ∈ (display.watched.afterAll events).surface.given := by decide +kernel
  have hpc : (display.afterAll events).registers.pc = 0x206 := by decide +kernel
  have h := only_wrapping_matters 263 270 hsize.1 hsize.2 .zeros cornerSprite events
  exact ⟨hsize, hcorner, hpc, h⟩

end Machine

end Chip8
