import Chip8.Number.Quantity
import Mathlib.Tactic.Ring

namespace Chip8.Number

theorem roundHalfEven_le (num den : Nat) : roundHalfEven num den ≤ num / den + 1 := by
  simp only [roundHalfEven]
  split_ifs <;> omega

theorem log2_mono {a b : Nat} (ha : 0 < a) (h : a ≤ b) : a.log2 ≤ b.log2 :=
  (Nat.le_log2 (by omega)).mpr ((Nat.log2_self_le (by omega)).trans h)

theorem quotientLog2_of_le (num den : Nat) (hnum : 0 < num) (hle : num ≤ den) :
    quotientLog2 num den = if num * 2 ^ (den.log2 - num.log2) < den
      then -((den.log2 - num.log2 : Nat) : Int) - 1 else -((den.log2 - num.log2 : Nat) : Int) := by
  have hlog := log2_mono hnum hle
  have he : (num.log2 : Int) - den.log2 = -((den.log2 - num.log2 : Nat) : Int) := by omega
  simp only [quotientLog2, he, neg_neg, Int.toNat_natCast, Int.toNat_neg_natCast,
    Nat.shiftLeft_eq, pow_zero, mul_one]

theorem shifted_lt (num den : Nat) (hnum : 0 < num) (hle : num ≤ den) :
    num * 2 ^ (-quotientLog2 num den).toNat < 2 * den := by
  rw [quotientLog2_of_le num den hnum hle]
  split_ifs with h
  · have he : (-(-((den.log2 - num.log2 : Nat) : Int) - 1)).toNat = den.log2 - num.log2 + 1 := by
      omega
    rw [he, pow_succ, ← Nat.mul_assoc]
    omega
  · have hlog := log2_mono hnum hle
    have hn : num < 2 ^ (num.log2 + 1) := Nat.lt_log2_self
    have hd : 2 ^ den.log2 ≤ den := Nat.log2_self_le (by omega)
    rw [neg_neg, Int.toNat_natCast]
    calc
      num * 2 ^ (den.log2 - num.log2) < 2 ^ (num.log2 + 1) * 2 ^ (den.log2 - num.log2) :=
        Nat.mul_lt_mul_of_pos_right hn (Nat.two_pow_pos _)
      _ = 2 ^ (den.log2 + 1) := by rw [← pow_add]; congr 1; omega
      _ = 2 * 2 ^ den.log2 := by rw [pow_succ, Nat.mul_comm]
      _ ≤ 2 * den := Nat.mul_le_mul_left 2 hd

theorem quantumExponent_of_le (num den : Nat) (hnum : 0 < num) (hle : num ≤ den) :
    quantumExponent num den ≤ -52 ∧
      (-quantumExponent num den).toNat ≤ (-quotientLog2 num den).toNat + 52 := by
  have hq : quotientLog2 num den ≤ 0 := by
    rw [quotientLog2_of_le num den hnum hle]
    split_ifs <;> omega
  simp only [quantumExponent]
  omega

/-- A quotient up to one is rounded to a finite double. -/
theorem nearestBits_lt (num den : Nat) (hnum : 0 < num) (hle : num ≤ den) :
    nearestBits num den < infinityBits := by
  obtain ⟨he, hk⟩ := quantumExponent_of_le num den hnum hle
  have hzero : (quantumExponent num den).toNat = 0 := by omega
  have hnumer : num * 2 ^ (-quantumExponent num den).toNat < den * 2 ^ 53 := by
    calc
      num * 2 ^ (-quantumExponent num den).toNat
          ≤ num * 2 ^ ((-quotientLog2 num den).toNat + 52) :=
        Nat.mul_le_mul_left num (Nat.pow_le_pow_right (by decide) hk)
      _ = num * 2 ^ (-quotientLog2 num den).toNat * 2 ^ 52 := by rw [pow_add, Nat.mul_assoc]
      _ < 2 * den * 2 ^ 52 :=
        Nat.mul_lt_mul_of_pos_right (shifted_lt num den hnum hle) (by decide)
      _ = den * 2 ^ 53 := by ring
  have hdiv : num * 2 ^ (-quantumExponent num den).toNat / den < 2 ^ 53 :=
    Nat.div_lt_of_lt_mul hnumer
  have hround := roundHalfEven_le (num * 2 ^ (-quantumExponent num den).toNat) den
  simp only [nearestBits, hzero, Nat.shiftLeft_eq, pow_zero, Nat.mul_one, infinityBits]
  omega

theorem nearest_of_le (num den : Int) (hnum : 0 < num) (hle : num ≤ den) :
    nearest num den = .ok (quotient num den) := by
  have hb := nearestBits_lt num.natAbs den.natAbs (by omega) (by omega)
  have hden : den ≠ 0 := by omega
  have hsize : sizeBits num den ≠ infinityBits := by
    rw [sizeBits, if_neg (by omega)]
    omega
  rw [nearest, if_neg hden, if_neg hsize]

end Chip8.Number
