import Chip8.Surface.Display

namespace Chip8

namespace Keypad

theorem set_key (k : Keypad) (code : Int) (pressed : Bool) :
    k.set (key code).val pressed = k.set code pressed := by
  have hkey : key (key code).val = key code := by
    apply Fin.ext
    simp only [key]
    omega
  simp only [set, hkey]

theorem isPressed_set (k : Keypad) (code code' : Int) (pressed : Bool) :
    (k.set code pressed).isPressed code' =
      if code % 16 = code' % 16 then pressed else k.isPressed code' := by
  change (k.held.set (key code) pressed)[(key code').val] = _
  have hkey : (key code).val = (key code').val ↔ code % 16 = code' % 16 := by
    simp only [key]
    omega
  rw [Vector.getElem_set]
  simp only [hkey]
  rfl

end Keypad

namespace Display

/-- Two pairs of coordinates stand for the same pixel of a screen. -/
def Meets (d : Display) (a b : Int × Int) : Prop :=
  a.1 % d.width = b.1 % d.width ∧ a.2 % d.height = b.2 % d.height

instance (d : Display) (a b : Int × Int) : Decidable (d.Meets a b) :=
  inferInstanceAs (Decidable (_ ∧ _))

theorem wrap_eq_iff {size : Nat} (h : 0 < size) (n n' : Int) :
    wrap size n = wrap size n' ↔ n % size = n' % size := by
  have hn := Int.emod_nonneg n (b := size) (by omega)
  have hn' := Int.emod_nonneg n' (b := size) (by omega)
  unfold wrap
  omega

theorem wrap_emod {size : Nat} (h : 0 < size) (n : Int) : (wrap size n : Int) % size = n % size := by
  have hn := Int.emod_nonneg n (b := size) (by omega)
  rw [wrap, Int.toNat_of_nonneg hn, Int.emod_emod_of_dvd n (Int.dvd_refl size)]

theorem row_add_column_inj {width x x' y y' : Nat} (hx : x < width) (hx' : x' < width)
    (h : y * width + x = y' * width + x') : x = x' ∧ y = y' := by
  have hcolumn := congrArg (· % width) h
  have hrow := congrArg (· / width) h
  simp only [Nat.mul_add_mod_self_right, Nat.mod_eq_of_lt hx, Nat.mod_eq_of_lt hx'] at hcolumn
  have hpos : 0 < width := by omega
  simp only [Nat.add_comm (_ * width), Nat.add_mul_div_right _ _ hpos, Nat.div_eq_of_lt hx,
    Nat.div_eq_of_lt hx', Nat.zero_add] at hrow
  exact ⟨hcolumn, hrow⟩

theorem cell_eq_iff (d : Display) (a b : Int × Int) :
    d.cell a.1 a.2 = d.cell b.1 b.2 ↔ d.Meets a b := by
  rw [Meets, ← wrap_eq_iff d.width_pos, ← wrap_eq_iff d.height_pos, Fin.ext_iff]
  constructor
  · intro h
    exact row_add_column_inj (wrap_lt d.width_pos _) (wrap_lt d.width_pos _) h
  · rintro ⟨hx, hy⟩
    show wrap d.height a.2 * d.width + wrap d.width a.1 = _
    rw [hx, hy]
    rfl

theorem meets_wrap (d : Display) (p : Int × Int) :
    d.Meets p (wrap d.width p.1, wrap d.height p.2) :=
  ⟨(wrap_emod d.width_pos p.1).symm, (wrap_emod d.height_pos p.2).symm⟩

theorem pixel_of_meets (d : Display) {a b : Int × Int} (h : d.Meets a b) :
    d.pixel a.1 a.2 = d.pixel b.1 b.2 := by
  unfold pixel
  rw [(d.cell_eq_iff a b).mpr h]

theorem pixel_setPixel (d : Display) (a b : Int × Int) (on : Bool) :
    (d.setPixel a.1 a.2 on).pixel b.1 b.2 = if d.Meets a b then on else d.pixel b.1 b.2 := by
  have hcell : (d.cell a.1 a.2).val = (d.cell b.1 b.2).val ↔ d.Meets a b := by
    rw [← Fin.ext_iff, cell_eq_iff]
  show (d.pixels.set (d.cell a.1 a.2) on)[(d.cell b.1 b.2).val] = _
  rw [Vector.getElem_set]
  simp only [hcell]
  rfl

theorem pixel_clear (d : Display) (x y : Int) : d.clear.pixel x y = false := by
  show (Vector.replicate (d.width * d.height) false)[(d.cell x y).val] = false
  rw [Vector.getElem_replicate]

theorem pixel_blank (width height : Nat) (hw : 0 < width) (hh : 0 < height) (x y : Int) :
    (blank width height hw hh).pixel x y = false :=
  pixel_clear (blank width height hw hh) x y

end Display

end Chip8
