import Logline.Binary64
import Mathlib.Algebra.Group.Int.Defs
import Mathlib.Algebra.Group.Nat.Defs
import Mathlib.Algebra.Order.Group.Nat
/-!
Whole numbers of 64 bits in the binary format. The number that is held is the nearest one that a
mantissa of 53 bits and a power of two make up, and it is whole again; so exactly the numbers of this
form are held as they are.
-/
namespace Logline.Binary64

theorem le_roundDiv (num den : Nat) : num / den ≤ roundDiv num den := by
  rw [roundDiv]
  split <;> omega

theorem roundDiv_le (num den : Nat) : roundDiv num den ≤ num / den + 1 := by
  rw [roundDiv]
  split <;> omega

theorem roundDiv_mul_self {den : Nat} (hden : 0 < den) (k : Nat) : roundDiv (k * den) den = k := by
  rw [roundDiv, Nat.mul_div_cancel k hden, Nat.mul_mod_left]
  exact if_neg (by omega)

/-- A quotient is rounded to itself exactly if the division leaves no rest. -/
theorem roundDiv_mul_eq_iff {num den : Nat} (hden : 0 < den) :
    roundDiv num den * den = num ↔ den ∣ num := by
  constructor
  · intro h
    exact ⟨roundDiv num den, by rw [Nat.mul_comm, h]⟩
  · rintro ⟨k, rfl⟩
    rw [Nat.mul_comm den k, roundDiv_mul_self hden]

/-- Binary places of a whole number beyond the 53 of a mantissa. -/
def excess (m : Nat) : Nat :=
  m.log2 - 52

/-- The nearest whole number with a mantissa of 53 bits, a tie to the even mantissa. -/
def nearestWhole (m : Nat) : Nat :=
  roundDiv m (2 ^ excess m) * 2 ^ excess m

/-- Whole numbers that a mantissa of 53 bits and a power of two make up. -/
def IsShort (m : Nat) : Prop :=
  ∃ mantissa places, mantissa < 2 ^ 53 ∧ m = mantissa * 2 ^ places

theorem isShort_iff_dvd {m : Nat} : IsShort m ↔ 2 ^ excess m ∣ m := by
  constructor
  · rintro ⟨mantissa, places, hmantissa, rfl⟩
    by_cases hzero : mantissa * 2 ^ places = 0
    · rw [hzero]
      exact Nat.dvd_zero _
    · have hlt : mantissa * 2 ^ places < 2 ^ (53 + places) := by
        rw [Nat.pow_add]
        exact Nat.mul_lt_mul_of_pos_right hmantissa (Nat.two_pow_pos places)
      have hlog : (mantissa * 2 ^ places).log2 < 53 + places := (Nat.log2_lt hzero).mpr hlt
      have hle : excess (mantissa * 2 ^ places) ≤ places := by
        rw [excess]
        omega
      exact Nat.dvd_trans (Nat.pow_dvd_pow 2 hle) (Nat.dvd_mul_left _ _)
  · rintro ⟨mantissa, hm⟩
    refine ⟨mantissa, excess m, ?_, by rw [Nat.mul_comm]; exact hm⟩
    have hlt : m < 2 ^ (53 + excess m) :=
      Nat.lt_of_lt_of_le Nat.lt_log2_self
        (Nat.pow_le_pow_right (by decide) (by rw [excess]; omega))
    rw [Nat.pow_add] at hlt
    refine Nat.lt_of_mul_lt_mul_right (a := 2 ^ excess m) ?_
    rw [Nat.mul_comm mantissa, ← hm]
    exact hlt

theorem nearestWhole_eq_iff {m : Nat} : nearestWhole m = m ↔ IsShort m := by
  rw [isShort_iff_dvd, nearestWhole, roundDiv_mul_eq_iff (Nat.two_pow_pos _)]

instance : DecidablePred IsShort :=
  fun _ => decidable_of_iff _ nearestWhole_eq_iff

theorem excess_eq_zero {m : Nat} (h : m.log2 < 53) : excess m = 0 := by
  rw [excess]
  omega

theorem nearestWhole_of_log2_lt {m : Nat} (h : m.log2 < 53) : nearestWhole m = m := by
  have hshort : IsShort m := by
    rw [isShort_iff_dvd, excess_eq_zero h]
    exact Nat.one_dvd m
  exact nearestWhole_eq_iff.mpr hshort

/-- The mantissa of a long number, before the carry. -/
theorem roundDiv_excess_bounds {m : Nat} (hm : m ≠ 0) (h : 52 ≤ m.log2) :
    2 ^ 52 ≤ roundDiv m (2 ^ excess m) ∧ roundDiv m (2 ^ excess m) ≤ 2 ^ 53 := by
  have hpos : 0 < 2 ^ excess m := Nat.two_pow_pos _
  have hlow : 2 ^ 52 * 2 ^ excess m ≤ m := by
    rw [← Nat.pow_add, excess, Nat.add_sub_cancel' h]
    exact Nat.log2_self_le hm
  have hhigh : m < 2 ^ 53 * 2 ^ excess m := by
    rw [← Nat.pow_add, excess, show 53 + (m.log2 - 52) = m.log2 + 1 by omega]
    exact Nat.lt_log2_self
  have hquotient : 2 ^ 52 ≤ m / 2 ^ excess m := (Nat.le_div_iff_mul_le hpos).mpr hlow
  have hquotient' : m / 2 ^ excess m < 2 ^ 53 := (Nat.div_lt_iff_lt_mul hpos).mpr hhigh
  have hle := le_roundDiv m (2 ^ excess m)
  have hge := roundDiv_le m (2 ^ excess m)
  omega

/-- Numbers up to a power of two are rounded to numbers up to it. -/
theorem nearestWhole_le {m k : Nat} (h : m < 2 ^ k) : nearestWhole m ≤ 2 ^ k := by
  by_cases hlog : m.log2 < 53
  · rw [nearestWhole_of_log2_lt hlog]
    exact Nat.le_of_lt h
  · have hm : m ≠ 0 := by
      rintro rfl
      exact hlog (by decide)
    have hlt : m.log2 < k := (Nat.log2_lt hm).mpr h
    calc nearestWhole m ≤ 2 ^ 53 * 2 ^ excess m :=
          Nat.mul_le_mul_right _ (roundDiv_excess_bounds hm (by omega)).2
      _ = 2 ^ (53 + excess m) := (Nat.pow_add 2 53 _).symm
      _ ≤ 2 ^ k := Nat.pow_le_pow_right (by decide) (by rw [excess]; omega)

theorem exponent_one (m : Nat) (hm : m ≠ 0) : exponent m 1 = m.log2 := by
  have hlog : Nat.log2 1 = 0 := by decide
  simp only [exponent, scaled, hlog, Nat.pow_eq]
  simp [Nat.log2_self_le hm]

/-- Integer part of `m * 2 ^ q`. -/
def integerPart (m : Nat) (q : Int) : Nat :=
  m * 2 ^ q.toNat / 2 ^ (-q).toNat

theorem integerPart_natCast (m k : Nat) : integerPart m (k : Int) = m * 2 ^ k := by
  have hdown : (-(k : Int)).toNat = 0 := by omega
  rw [integerPart, hdown, Int.toNat_natCast, Nat.pow_zero, Nat.div_one]

/-- Zeros behind the point are dropped. -/
theorem integerPart_shifted (m k : Nat) : integerPart (m * 2 ^ k) (-(k : Int)) = m := by
  have hup : (-(k : Int)).toNat = 0 := by omega
  rw [integerPart, hup, Int.neg_neg, Int.toNat_natCast, Nat.pow_zero, Nat.mul_one,
    Nat.mul_div_cancel _ (Nat.two_pow_pos k)]

theorem truncate?_finite (s : Bool) (m : Nat) (q : Int) (h : Canonical m q) :
    (finite s m q h).truncate? =
      some (if s then -(integerPart m q : Int) else integerPart m q) := by
  simp only [truncate?, scaled, integerPart, Nat.pow_eq, Nat.one_mul]

/-- The number held for a quotient is its rounded mantissa, unless that carries into one more place. -/
theorem ofRatio_eq (s : Bool) {num den n d : Nat} {scale : Int} (hnum : num ≠ 0)
    (hscale : max (-1074) (exponent num den - 52) = scale)
    (hscaled : scaled num den (-scale) = (n, d)) :
    (roundDiv n d ≠ 2 ^ 53 → ∀ h : Canonical (roundDiv n d) scale,
        ofRatio s num den = .finite s (roundDiv n d) scale h) ∧
      (roundDiv n d = 2 ^ 53 → ∀ h : Canonical (2 ^ 52) (scale + 1),
        ofRatio s num den = .finite s (2 ^ 52) (scale + 1) h) := by
  constructor
  · intro hcarry h
    simp only [ofRatio, if_neg hnum, hscale, hscaled, Nat.pow_eq, if_neg hcarry]
    exact dif_pos h
  · intro hcarry h
    simp only [ofRatio, if_neg hnum, hscale, hscaled, Nat.pow_eq, if_pos hcarry]
    exact dif_pos h

theorem exponent_scale {m : Nat} (hm : m ≠ 0) :
    max (-1074) (exponent m 1 - 52) = (m.log2 : Int) - 52 := by
  rw [exponent_one m hm]
  omega

/-- The mantissa of a short number, filled up with zeros. -/
theorem filled_bounds {m : Nat} (hm : m ≠ 0) (hlog : m.log2 ≤ 52) :
    2 ^ 52 ≤ m * 2 ^ (52 - m.log2) ∧ m * 2 ^ (52 - m.log2) < 2 ^ 53 := by
  constructor
  · calc 2 ^ 52 = 2 ^ m.log2 * 2 ^ (52 - m.log2) := by rw [← Nat.pow_add, Nat.add_sub_cancel' hlog]
      _ ≤ m * 2 ^ (52 - m.log2) := Nat.mul_le_mul_right _ (Nat.log2_self_le hm)
  · calc m * 2 ^ (52 - m.log2) < 2 ^ (m.log2 + 1) * 2 ^ (52 - m.log2) :=
          Nat.mul_lt_mul_of_pos_right Nat.lt_log2_self (Nat.two_pow_pos _)
      _ = 2 ^ 53 := by rw [← Nat.pow_add, show m.log2 + 1 + (52 - m.log2) = 53 by omega]

/-- A number of at most 53 bits is held as it is, behind the zeros that fill its mantissa. -/
theorem truncate?_ofRatio_short (s : Bool) {m : Nat} (hm : m ≠ 0) (hlog : m.log2 ≤ 52) :
    (ofRatio s m 1).truncate? = some (if s then -(m : Int) else m) := by
  have hscaled : scaled m 1 (-((m.log2 : Int) - 52)) = (m * 2 ^ (52 - m.log2), 1) := by
    have hup : (-((m.log2 : Int) - 52)).toNat = 52 - m.log2 := by omega
    have hdown : (- -((m.log2 : Int) - 52)).toNat = 0 := by omega
    rw [scaled, hup, hdown]
    rfl
  have hround : roundDiv (m * 2 ^ (52 - m.log2)) 1 = m * 2 ^ (52 - m.log2) := by
    simpa using roundDiv_mul_self Nat.one_pos (m * 2 ^ (52 - m.log2))
  obtain ⟨hlow, hhigh⟩ := filled_bounds hm hlog
  have hpart : integerPart (m * 2 ^ (52 - m.log2)) ((m.log2 : Int) - 52) = m := by
    have hscale : (m.log2 : Int) - 52 = -((52 - m.log2 : Nat) : Int) := by omega
    rw [hscale, integerPart_shifted]
  have hheld := (ofRatio_eq s hm (exponent_scale hm) hscaled).1
  rw [hround] at hheld
  rw [hheld (Nat.ne_of_lt hhigh) ⟨hhigh, by omega, by omega, .inl hlow⟩, truncate?_finite, hpart]

/-- A longer number is rounded to the places of the mantissa. -/
theorem truncate?_ofRatio_long (s : Bool) {m : Nat} (hm : m ≠ 0) (hlow : 52 ≤ m.log2)
    (hhigh : m.log2 < 64) :
    (ofRatio s m 1).truncate? = some (if s then -(nearestWhole m : Int) else nearestWhole m) := by
  have hexcess : (m.log2 : Int) - 52 = excess m := by
    rw [excess]
    omega
  have hscaled : scaled m 1 (-(excess m : Int)) = (m, 2 ^ excess m) := by
    have hup : (-(excess m : Int)).toNat = 0 := by omega
    have hdown : (- -(excess m : Int)).toNat = excess m := by omega
    rw [scaled, hup, hdown, Nat.pow_eq, Nat.pow_eq, Nat.pow_zero, Nat.mul_one, Nat.one_mul]
  obtain ⟨hround, hcarry⟩ := roundDiv_excess_bounds hm hlow
  have hheld := ofRatio_eq s hm ((exponent_scale hm).trans hexcess) hscaled
  have hscale : excess m ≤ 11 := by
    rw [excess]
    omega
  -- A mantissa that is rounded up to 54 bits carries into the scale.
  by_cases heq : roundDiv m (2 ^ excess m) = 2 ^ 53
  · have hcanonical : Canonical (2 ^ 52) ((excess m : Int) + 1) :=
      ⟨by decide, by omega, by omega, .inl (by decide)⟩
    have hnearest : nearestWhole m = 2 ^ 52 * 2 ^ (excess m + 1) := by
      rw [nearestWhole, heq, ← Nat.pow_add, ← Nat.pow_add,
        show 53 + excess m = 52 + (excess m + 1) by omega]
    rw [hheld.2 heq hcanonical, truncate?_finite, ← Int.natCast_succ, integerPart_natCast, hnearest]
  · have hcanonical : Canonical (roundDiv m (2 ^ excess m)) (excess m) :=
      ⟨Nat.lt_of_le_of_ne hcarry heq, by omega, by omega, .inl hround⟩
    rw [hheld.1 heq hcanonical, truncate?_finite, integerPart_natCast, nearestWhole]

/-- A whole number of 64 bits is held as the nearest number with a mantissa of 53 bits. -/
theorem truncate?_ofRatio_one (s : Bool) {m : Nat} (h : m < 2 ^ 64) :
    (ofRatio s m 1).truncate? = some (if s then -(nearestWhole m : Int) else nearestWhole m) := by
  by_cases hm : m = 0
  · rw [ofRatio, if_pos hm, zero, truncate?_finite, integerPart, Nat.zero_mul, Nat.zero_div, hm]
    rfl
  by_cases hlog : m.log2 ≤ 52
  · rw [truncate?_ofRatio_short s hm hlog, nearestWhole_of_log2_lt (by omega)]
  · exact truncate?_ofRatio_long s hm (by omega) ((Nat.log2_lt hm).mpr h)

end Logline.Binary64
