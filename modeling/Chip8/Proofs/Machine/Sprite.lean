import Mathlib.Data.List.ProdSigma
import Chip8.Proofs.Machine.Footprint
import Chip8.Proofs.Surface.Torus

namespace Chip8

namespace Display

def landings (d : Display) (cells : List (Int × Int)) (p : Int × Int) : Nat :=
  cells.countP fun cell => d.Meets cell p

/-- The pixel at `p` is lit as one of some cells is inverted there: it was lit before the first, or
a cell before has lit it. -/
def Struck (d : Display) (cells : List (Int × Int)) (p : Int × Int) : Prop :=
  1 ≤ d.landings cells p ∧ d.pixel p.1 p.2 = true ∨ 2 ≤ d.landings cells p

theorem landings_congr (d : Display) (cells : List (Int × Int)) {p q : Int × Int}
    (h : d.Meets p q) : d.landings cells p = d.landings cells q := by
  have hsame : ∀ cell, d.Meets cell p ↔ d.Meets cell q := by
    intro cell
    unfold Meets at *
    omega
  simp only [landings, hsame]

def inverted (d : Display) (cell : Int × Int) : Display :=
  d.setPixel cell.1 cell.2 (!d.pixel cell.1 cell.2)

theorem flip_eq (d : Display) (seen : Bool) (cell : Int × Int) :
    Surface.flip (d, seen) cell = (d.inverted cell, seen || d.pixel cell.1 cell.2) := rfl

theorem landings_cons (d : Display) (cell : Int × Int) (cells : List (Int × Int)) (p : Int × Int) :
    d.landings (cell :: cells) p =
      (d.inverted cell).landings cells p + if d.Meets cell p then 1 else 0 := by
  show List.countP _ (cell :: cells) = List.countP (fun c => decide (d.Meets c p)) cells + _
  rw [List.countP_cons]
  simp only [decide_eq_true_eq]

theorem pixel_inverted (d : Display) (cell p : Int × Int) :
    (d.inverted cell).pixel p.1 p.2 = (d.pixel p.1 p.2 ^^ decide (d.Meets cell p)) := by
  rw [inverted, pixel_setPixel]
  by_cases h : d.Meets cell p
  · simp [h, d.pixel_of_meets h]
  · simp [h]

theorem pixel_flips (d : Display) (seen : Bool) (cells : List (Int × Int)) (p : Int × Int) :
    (cells.foldl Surface.flip (d, seen)).1.pixel p.1 p.2 =
      (d.pixel p.1 p.2 ^^ decide (d.landings cells p % 2 = 1)) := by
  induction cells generalizing d seen with
  | nil => simp [landings]
  | cons cell cells ih =>
    rw [List.foldl_cons, flip_eq, ih, pixel_inverted, landings_cons]
    by_cases h : d.Meets cell p
    · -- One cell more turns the parity over, as it turns the pixel over.
      have hodd : decide (((d.inverted cell).landings cells p + 1) % 2 = 1) =
          !decide ((d.inverted cell).landings cells p % 2 = 1) := by
        rw [← decide_not, decide_eq_decide]
        omega
      rw [if_pos h, hodd, decide_eq_true h, Bool.xor_true, Bool.xor_not, Bool.not_xor]
    · rw [if_neg h, decide_eq_false h, Bool.xor_false, Nat.add_zero]

theorem struck_cons_iff (d : Display) (cell : Int × Int) (cells : List (Int × Int)) :
    (∃ p, d.Struck (cell :: cells) p) ↔
      d.pixel cell.1 cell.2 = true ∨ ∃ p, (d.inverted cell).Struck cells p := by
  have hself : d.Meets cell cell := ⟨rfl, rfl⟩
  constructor
  · rintro ⟨p, h⟩
    rw [Struck, landings_cons] at h
    by_cases hp : d.Meets cell p
    · -- Whichever cell strikes the pixel of the first, that pixel is lit before the first or after.
      by_cases hlit : d.pixel cell.1 cell.2 = true
      · exact Or.inl hlit
      · right
        have hafter : (d.inverted cell).pixel p.1 p.2 = true := by
          rw [pixel_inverted, ← d.pixel_of_meets hp]
          simp [hp, hlit]
        rw [← d.pixel_of_meets hp, if_pos hp] at h
        refine ⟨p, Or.inl ⟨?_, hafter⟩⟩
        rcases h with ⟨-, hlit'⟩ | h
        · exact absurd hlit' hlit
        · omega
    · right
      refine ⟨p, ?_⟩
      rw [Struck, pixel_inverted]
      simpa [hp] using h
  · rintro (hlit | ⟨p, h⟩)
    · refine ⟨cell, Or.inl ⟨?_, hlit⟩⟩
      rw [landings_cons, if_pos hself]
      omega
    · refine ⟨p, ?_⟩
      rw [Struck, pixel_inverted] at h
      rw [Struck, landings_cons]
      by_cases hp : d.Meets cell p
      · rw [if_pos hp]
        omega
      · simpa [hp] using h

/-- A collision is seen if and only if some pixel is lit as a cell is inverted there. -/
theorem collision_flips (d : Display) (seen : Bool) (cells : List (Int × Int)) :
    (cells.foldl Surface.flip (d, seen)).2 = true ↔ seen = true ∨ ∃ p, d.Struck cells p := by
  induction cells generalizing d seen with
  | nil => simp [Struck, landings]
  | cons cell cells ih =>
    rw [List.foldl_cons, flip_eq, ih, struck_cons_iff, Bool.or_eq_true, or_assoc]

end Display

def spriteBits (rows : Nat) : List (Nat × Nat) := (List.range rows).product (List.range 8)

def spriteBit (sprite : Nat → UInt8) (bit : Nat × Nat) : Bool :=
  (sprite bit.1).toNat.testBit (7 - bit.2)

theorem zipIdx_map_range {α : Type} (f : Nat → α) (n : Nat) :
    ((List.range n).map f).zipIdx = (List.range n).map fun k => (f k, k) := by
  apply List.ext_getElem
  · simp
  · intro k hk hk'
    simp

theorem countP_spriteCells (x y rows : Nat) (sprite : Nat → UInt8) (q : Int × Int → Bool) :
    (spriteCells x y ((List.range rows).map sprite)).countP q =
      (spriteBits rows).countP fun bit =>
        spriteBit sprite bit && q ((x + bit.2 : Nat), (y + bit.1 : Nat)) := by
  rw [spriteCells, zipIdx_map_range, List.flatMap_map, spriteBits, List.product,
    List.countP_flatMap, List.countP_flatMap]
  congr 2
  funext row
  simp only [Function.comp, List.countP_filterMap, List.countP_map]
  congr 1
  funext column
  by_cases hbit : (sprite row).toNat.testBit (7 - column) = true
  · simp [spriteBit, hbit]
  · simp [spriteBit, hbit]

namespace Machine

def hits (m : Machine Display) (w : Word) (p : Nat × Nat) : Nat :=
  (spriteBits w.n.val).countP fun bit =>
    spriteBit (fun row => m.memory.byte (m.registers.i.toNat + row)) bit &&
      decide (((m.registers.get w.x).toNat + bit.2) % m.surface.width = p.1 ∧
        ((m.registers.get w.y).toNat + bit.1) % m.surface.height = p.2)

/-- A set bit falls on a pixel that is lit, or two fall on the same one. -/
def Collides (m : Machine Display) (w : Word) : Prop :=
  ∃ x y : Nat, x < m.surface.width ∧ y < m.surface.height ∧
    (1 ≤ m.hits w (x, y) ∧ m.surface.pixel x y = true ∨ 2 ≤ m.hits w (x, y))

/-- The second machine has drawn the sprite of a word: each pixel is inverted once for every set bit
that falls on it, and VF tells of a collision. -/
structure Drawn (w : Word) (m m' : Machine Display) : Prop where
  size : m'.surface.width = m.surface.width ∧ m'.surface.height = m.surface.height
  pixel : ∀ x y : Nat, x < m.surface.width → y < m.surface.height →
    m'.surface.pixel x y = (m.surface.pixel x y ^^ decide (m.hits w (x, y) % 2 = 1))
  flag_of_collision : m.Collides w → m'.registers.get Registers.flag = 1
  flag_otherwise : ¬ m.Collides w → m'.registers.get Registers.flag = 0

def spriteAt (m : Machine Display) (w : Word) : List (Int × Int) :=
  spriteCells (m.registers.get w.x).toNat (m.registers.get w.y).toNat
    ((List.range w.n.val).map fun row => m.memory.byte (m.registers.i.toNat + row))

theorem landings_spriteAt (m : Machine Display) (w : Word) (x y : Nat) (hx : x < m.surface.width)
    (hy : y < m.surface.height) :
    m.surface.landings (m.spriteAt w) (x, y) = m.hits w (x, y) := by
  rw [Display.landings, spriteAt, countP_spriteCells, hits]
  congr 1
  funext bit
  congr 2
  show (_ ∧ _) = (_ ∧ _)
  simp only [← Int.natCast_emod, Nat.mod_eq_of_lt hx, Nat.mod_eq_of_lt hy, Int.natCast_inj]

theorem collides_iff (m : Machine Display) (w : Word) :
    m.Collides w ↔ ∃ p, m.surface.Struck (m.spriteAt w) p := by
  constructor
  · rintro ⟨x, y, hx, hy, h⟩
    rw [← landings_spriteAt m w x y hx hy] at h
    exact ⟨_, h⟩
  · rintro ⟨p, h⟩
    have hx := Display.wrap_lt m.surface.width_pos p.1
    have hy := Display.wrap_lt m.surface.height_pos p.2
    have hmeets := m.surface.meets_wrap p
    refine ⟨_, _, hx, hy, ?_⟩
    rw [← landings_spriteAt m w _ _ hx hy, ← m.surface.landings_congr _ hmeets,
      ← m.surface.pixel_of_meets hmeets]
    exact h

theorem size_flips (d : Display) (seen : Bool) (cells : List (Int × Int)) :
    (cells.foldl Surface.flip (d, seen)).1.width = d.width ∧
      (cells.foldl Surface.flip (d, seen)).1.height = d.height := by
  induction cells generalizing d seen with
  | nil => exact ⟨rfl, rfl⟩
  | cons cell cells ih => exact ih _ _

def afterDrawing (m : Machine Display) (w : Word) : Machine Display :=
  let (surface, collision) := Surface.flipAll m.surface (m.spriteAt w)
  let registers := m.registers.set Registers.flag (if collision then 1 else 0)
  setPc { m with surface, registers } (m.registers.pc + 2)

theorem drawn_afterDrawing (m : Machine Display) (w : Word) : m.Drawn w (m.afterDrawing w) := by
  have hcollision : (Surface.flipAll m.surface (m.spriteAt w)).2 = true ↔ m.Collides w := by
    rw [collides_iff, Surface.flipAll, Display.collision_flips]
    simp only [Bool.false_eq_true, false_or]
  refine ⟨size_flips _ _ _, ?_, ?_, ?_⟩
  · intro x y hx hy
    rw [← landings_spriteAt m w x y hx hy]
    exact m.surface.pixel_flips false (m.spriteAt w) (x, y)
  · intro h
    exact (m.registers.get_set_self Registers.flag _).trans (if_pos (hcollision.mpr h))
  · intro h
    exact (m.registers.get_set_self Registers.flag _).trans (if_neg (mt hcollision.mp h))

/-- A sprite is drawn if it lies in memory, and refused otherwise. -/
theorem executeWord_draw (m : Machine Display) (w : Word) (hw : w.fits "DXYN") :
    m.executeWord w = if Memory.Holds m.registers.i w.n.val then .ok () (m.afterDrawing w)
      else .error (.outOfRange m.registers.i w.n.val) m := by
  have hdecode : w.decode? = some (.draw w.x w.y w.n) :=
    w.decode?_of_fits ("DXYN", fun w => .draw w.x w.y w.n) (by simp [instructionSet]) hw
  simp only [executeWord, hdecode, perform, draw, Memory.block]
  by_cases hi : Memory.Holds m.registers.i w.n.val
  · simp only [if_pos hi, afterDrawing, spriteAt, Int.toNat_natCast]
    rfl
  · simp only [if_neg hi]

/-- A word of the form DXYN draws the sprite at I, with a row for each unit of N, at (VX, VY): each
pixel is inverted as often as set bits fall on it, wrapped round the edges, and VF becomes one if and
only if a bit falls on a lit pixel or two fall on the same one. Only where I is no address of memory
the word is refused. -/
theorem draw_xors_sprite (m : Machine Display) (w : Word) (hw : w.fits "DXYN")
    (hend : m.registers.i + w.n.val ≤ 0x1000) :
    (0 ≤ m.registers.i → ∃ m', m.execute w.toNat = .ok () m' ∧ m.Drawn w m') ∧
      (m.registers.i < 0 → m.execute w.toNat = .error (.outOfRange m.registers.i w.n.val) m) := by
  rw [execute, Word.ofInt_toNat, executeWord_draw m w hw]
  constructor
  · intro hi
    have hholds : Memory.Holds m.registers.i w.n.val := ⟨hi, Int.natCast_nonneg _, hend⟩
    rw [if_pos hholds]
    exact ⟨_, rfl, drawn_afterDrawing m w⟩
  · intro hi
    have hoverhangs : ¬ Memory.Holds m.registers.i w.n.val := fun h => by
      have := h.1
      omega
    rw [if_neg hoverhangs]

/-- A screen narrower than a byte and lower than the sprite, with one pixel lit. -/
def smallScreen : Machine Display where
  surface := (Display.blank 3 2 (by decide) (by decide)).setPixel 0 0 true
  random := .zeros
  memory := .holding [0x81, 0xFF, 0x10] (by decide)
  registers := { v := .replicate 16 7, i := 0x200 }

/-- Three rows at (7, 7), of which VF is both coordinates. The lit pixel is hit twice and stays lit,
the one to its right three times. -/
theorem draw_xors_sprite_small :
    ((0xDFF3 : Word).fits "DXYN" ∧ smallScreen.registers.i + (0xDFF3 : Word).n.val ≤ 0x1000) ∧
    ∃ m', smallScreen.execute 0xDFF3 = .ok () m' ∧ smallScreen.Drawn 0xDFF3 m' ∧
      m'.surface.pixel 0 0 = true ∧ m'.surface.pixel 1 0 = true ∧ m'.surface.pixel 1 1 = false ∧
      m'.registers.get Registers.flag = 1 := by
  have hw : (0xDFF3 : Word).fits "DXYN" := by decide
  have hend : smallScreen.registers.i + (0xDFF3 : Word).n.val ≤ 0x1000 := by decide
  have hhits : smallScreen.hits 0xDFF3 (0, 0) = 2 ∧ smallScreen.hits 0xDFF3 (1, 0) = 3 ∧
      smallScreen.hits 0xDFF3 (1, 1) = 2 := by decide +kernel
  obtain ⟨hlit, hright, hbelow⟩ := hhits
  have hcollides : smallScreen.Collides 0xDFF3 :=
    ⟨0, 0, by decide, by decide, Or.inr (Nat.le_of_eq hlit.symm)⟩
  obtain ⟨m', hm, hdrawn⟩ := (draw_xors_sprite smallScreen 0xDFF3 hw hend).1 (by decide)
  have hpixel := hdrawn.pixel 0 0 (by decide) (by decide)
  have hpixel' := hdrawn.pixel 1 0 (by decide) (by decide)
  have hpixel'' := hdrawn.pixel 1 1 (by decide) (by decide)
  rw [hlit] at hpixel
  rw [hright] at hpixel'
  rw [hbelow] at hpixel''
  exact ⟨⟨hw, hend⟩, m', hm, hdrawn, hpixel, hpixel', hpixel'', hdrawn.flag_of_collision hcollides⟩

end Machine

end Chip8
