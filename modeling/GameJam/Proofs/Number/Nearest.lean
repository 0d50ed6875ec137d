import GameJam.Number.Decimal
import Mathlib.Tactic.Linarith
import Mathlib.Tactic.Ring

/-!
# The nearest binary number

`Binary64.nearest` looks at a ratio only through quotients and remainders, so it depends on the
value of the ratio alone.  This file says so, and says what is nearest where no rounding is needed
or where the value is out of range.  From that `Decimal.toBinary64` is seen to be the nearest number
throughout: the early answers that it gives for very large and very small exponents, without
computing a power, are those that the computation would give.

## What is here

* `nearest_congr` — equal ratios have the same nearest number.
* `nearest_exact` — a number that can be held is its own nearest one.
* `nearest_of_half_lt`, `nearest_of_huge`, `isFinite_nearest` — below half a unit it is zero, beyond
  the range it is infinite, and within the range it is finite.
* `Decimal.toBinary64_eq_ofRatio` and `Decimal.toBinary64_shift` — the value of a decimal, and zeros
  at the end of its digits, which do not change it.
-/

set_option autoImplicit false

namespace GameJam
namespace Binary64

/-! ## Rounding depends on the ratio alone -/

theorem roundHalfEven_mul_right (p q : Nat) {k : Nat} (hk : 0 < k) :
    roundHalfEven (p * k) (q * k) = roundHalfEven p q := by
  have hmod : p * k % (q * k) = p % q * k := Nat.mul_mod_mul_right k p q
  have hdiv : p * k / (q * k) = p / q := Nat.mul_div_mul_right p q hk
  have hlt : 2 * (p % q * k) < q * k ↔ 2 * (p % q) < q := by
    rw [← mul_assoc]
    exact Nat.mul_lt_mul_right hk
  have hgt : q * k < 2 * (p % q * k) ↔ q < 2 * (p % q) := by
    rw [← mul_assoc]
    exact Nat.mul_lt_mul_right hk
  simp only [roundHalfEven, hmod, hdiv, hlt, hgt]

theorem nearest_mul_right (negative : Bool) (p q : Nat) {k : Nat} (hk : 0 < k) :
    nearest negative (p * k) (q * k) = nearest negative p q := by
  have hdiv : p * k / (q * k) = p / q := Nat.mul_div_mul_right p q hk
  have hround : ∀ e, roundHalfEven (p * k) (q * k * Nat.pow 2 e)
      = roundHalfEven p (q * Nat.pow 2 e) := by
    intro e
    rw [mul_right_comm q k]
    exact roundHalfEven_mul_right p _ hk
  simp only [nearest, hdiv, hround]

/-- **Equal ratios have the same nearest number.** -/
theorem nearest_congr (negative : Bool) {p q p' q' : Nat} (hq : 0 < q) (hq' : 0 < q')
    (h : p * q' = p' * q) : nearest negative p q = nearest negative p' q' := by
  calc nearest negative p q
      = nearest negative (p * q') (q * q') := (nearest_mul_right negative p q hq').symm
    _ = nearest negative (p' * q) (q' * q) := by rw [h, mul_comm q q']
    _ = nearest negative p' q' := nearest_mul_right negative p' q' hq

/-! ## Values that need no rounding, or that are out of range -/

theorem roundHalfEven_of_dvd (m : Nat) {q : Nat} (hq : 0 < q) : roundHalfEven (m * q) q = m := by
  have hdiv : m * q / q = m := Nat.mul_div_cancel m hq
  have hmod : m * q % q = 0 := Nat.mul_mod_left m q
  simp [roundHalfEven, hdiv, hmod, hq]

theorem ofParts_of_canonical (negative : Bool) {m e : Nat} (h : Canonical m e) :
    ofParts negative m e = .finite negative m e h :=
  dif_pos h

theorem log2_mul_pow {m e : Nat} (h : Canonical m e) : Nat.log2 (m * 2 ^ e) - 52 = e := by
  obtain ⟨hlt, -, hfull | rfl⟩ := h
  · have hm : Nat.log2 m = 52 := (Nat.log2_eq_iff (by simp only [Nat.pow_eq] at hfull; omega)).2
      ⟨hfull, hlt⟩
    have hm0 : m ≠ 0 := by rintro rfl; simp at hfull
    have hlog : Nat.log2 (m * 2 ^ e) = 52 + e := by
      refine (Nat.log2_eq_iff (by positivity)).2 ⟨?_, ?_⟩
      · rw [pow_add]
        exact Nat.mul_le_mul_right _ hfull
      · rw [show 52 + e + 1 = 53 + e by omega, pow_add]
        exact Nat.mul_lt_mul_of_pos_right hlt (by positivity)
    omega
  · have hlog : Nat.log2 m < 53 := by
      by_cases hm0 : m = 0
      · simp [hm0]
      · exact (Nat.log2_lt hm0).2 hlt
    simp only [pow_zero, mul_one]
    omega

/-- **A number that can be held is its own nearest one.** -/
theorem nearest_exact (negative : Bool) {m e : Nat} (h : Canonical m e) :
    nearest negative (m * 2 ^ e) 1 = .finite negative m e h := by
  have hlt : m ≠ 2 ^ 53 := Nat.ne_of_lt h.1
  have hround : roundHalfEven (m * 2 ^ e) (2 ^ e) = m :=
    roundHalfEven_of_dvd m (by positivity)
  simp only [nearest, Nat.div_one, log2_mul_pow h, one_mul, Nat.pow_eq, hround, hlt, if_false]
  exact ofParts_of_canonical negative h

/-- Below half a unit zero is nearest. -/
theorem nearest_of_half_lt (negative : Bool) {p q : Nat} (h : 2 * p < q) :
    nearest negative p q = zero negative := by
  have hdiv : p / q = 0 := Nat.div_eq_of_lt (by omega)
  have hmod : p % q = p := Nat.mod_eq_of_lt (by omega)
  have hround : roundHalfEven p q = 0 := by simp [roundHalfEven, hdiv, hmod, h]
  have hexp : Nat.log2 0 - 52 = 0 := by decide
  simp only [nearest, hdiv, hexp, Nat.pow_eq, pow_zero, mul_one, hround]
  exact ofParts_of_canonical negative (by decide)

theorem ofParts_of_exponent (negative : Bool) (m : Nat) {e : Nat} (h : 2045 < e) :
    ofParts negative m e = .infinite negative :=
  dif_neg fun hcanonical => absurd hcanonical.2.1 (Nat.not_le_of_lt h)

/-- Beyond the range an infinity is nearest. -/
theorem nearest_of_huge (negative : Bool) {p q : Nat} (h : 2098 ≤ Nat.log2 (p / q)) :
    nearest negative p q = .infinite negative := by
  simp only [nearest]
  split
  · exact ofParts_of_exponent negative _ (by omega)
  · exact ofParts_of_exponent negative _ (by omega)

/-! ## Within the range -/

theorem le_roundHalfEven (p q : Nat) :
    p / q ≤ roundHalfEven p q ∧ roundHalfEven p q ≤ p / q + 1 := by
  unfold roundHalfEven
  split
  · omega
  · split
    · omega
    · split <;> omega

/-- What is left of a quotient above its exponent has at most 53 bits, and exactly so many unless
the exponent is the least. -/
theorem quotient_bounds (n : Nat) :
    n / 2 ^ (Nat.log2 n - 52) < 2 ^ 53 ∧
      (Nat.log2 n - 52 = 0 ∨ 2 ^ 52 ≤ n / 2 ^ (Nat.log2 n - 52)) := by
  rcases Nat.eq_zero_or_pos n with rfl | hn
  · exact ⟨by simp, Or.inl (by decide)⟩
  · have hupper : n < 2 ^ (Nat.log2 n + 1) := Nat.lt_log2_self
    have hlower : 2 ^ Nat.log2 n ≤ n := Nat.log2_self_le (Nat.ne_of_gt hn)
    generalize Nat.log2 n = k at *
    constructor
    · rw [Nat.div_lt_iff_lt_mul (by positivity), ← pow_add]
      exact lt_of_lt_of_le hupper (Nat.pow_le_pow_right (by decide) (by omega))
    · rcases Nat.le_total k 52 with hk | hk
      · exact Or.inl (by omega)
      · refine Or.inr ?_
        rw [Nat.le_div_iff_mul_le (by positivity), ← pow_add, show 52 + (k - 52) = k by omega]
        exact hlower

/-- **Within the range the nearest number is finite.** -/
theorem isFinite_nearest (negative : Bool) {p q : Nat} (h : Nat.log2 (p / q) < 2097) :
    (nearest negative p q).isFinite = true := by
  have hexp : Nat.log2 (p / q) - 52 ≤ 2044 := by omega
  obtain ⟨hupper, hlower⟩ := quotient_bounds (p / q)
  have hround := le_roundHalfEven p (q * 2 ^ (Nat.log2 (p / q) - 52))
  rw [← Nat.div_div_eq_div_mul] at hround
  simp only [nearest, Nat.pow_eq]
  generalize Nat.log2 (p / q) - 52 = e at *
  generalize roundHalfEven p (q * 2 ^ e) = m at *
  generalize p / q / 2 ^ e = r at *
  split
  · rw [ofParts_of_canonical negative ⟨by decide, by omega, Or.inl (Nat.le_refl _)⟩]
    rfl
  · rw [ofParts_of_canonical negative ⟨by simp only [Nat.pow_eq]; omega, by omega,
      by simp only [Nat.pow_eq]; omega⟩]
    rfl

theorem ofParts_ne_nan (negative : Bool) (m e : Nat) : ofParts negative m e ≠ .nan := by
  unfold ofParts
  split <;> simp

theorem nearest_ne_nan (negative : Bool) (p q : Nat) : nearest negative p q ≠ .nan := by
  simp only [nearest]
  split
  · exact ofParts_ne_nan _ _ _
  · exact ofParts_ne_nan _ _ _

/-- The nearest number has the sign that it is given, and the rest of it does not depend on it. -/
theorem nearest_of_positive {negative : Bool} {p q m e : Nat} {h : Canonical m e}
    (hpositive : nearest false p q = .finite false m e h) :
    nearest negative p q = .finite negative m e h := by
  have hparts : ∀ {m' e' : Nat}, ofParts false m' e' = .finite false m e h →
      ofParts negative m' e' = .finite negative m e h := by
    intro m' e' hfalse
    unfold ofParts at hfalse ⊢
    split at hfalse
    · cases hfalse
      exact dif_pos h
    · cases hfalse
  simp only [nearest] at hpositive ⊢
  split at hpositive
  · rename_i hcarry
    rw [if_pos hcarry]
    exact hparts hpositive
  · rename_i hcarry
    rw [if_neg hcarry]
    exact hparts hpositive

theorem log2_mul_two_pow_lt {n a : Nat} (h : n < 2 ^ a) (ha : 0 < a) (k : Nat) :
    Nat.log2 (n * Nat.pow 2 k) < a + k := by
  rw [Nat.pow_eq]
  rcases Nat.eq_zero_or_pos n with rfl | hn
  · simp only [zero_mul, Nat.log2_zero]
    omega
  · rw [Nat.log2_lt (by positivity), pow_add]
    exact Nat.mul_lt_mul_of_pos_right h (by positivity)

/-- Whole numbers of 64 bits are far within the range. -/
theorem isFinite_ofInt {n : Int} (h : n.natAbs < 2 ^ 65) : (ofInt n).isFinite = true := by
  refine isFinite_nearest _ ?_
  rw [Nat.div_one]
  generalize hunit : 1074 = unit
  have hlog := log2_mul_two_pow_lt h (by decide) unit
  omega

end Binary64

/-! ## Decimals -/

namespace Decimal

/-- The numerator of the value of a decimal. -/
def numerator (d : Decimal) : Nat :=
  d.digits * 10 ^ d.exponent.toNat

/-- The denominator of the value of a decimal. -/
def denominator (d : Decimal) : Nat :=
  10 ^ (-d.exponent).toNat

theorem denominator_pos (d : Decimal) : 0 < d.denominator := by
  unfold denominator
  positivity

theorem two_pow_le_ten_pow (k : Nat) : 2 ^ (3 * k) ≤ 10 ^ k := by
  rw [pow_mul]
  exact Nat.pow_le_pow_left (by decide) k

theorem le_log2_mul_ten_pow {n : Nat} (hn : 0 < n) (k unit : Nat) :
    3 * k + unit ≤ Nat.log2 (n * 10 ^ k * 2 ^ unit) := by
  rw [Nat.le_log2 (by positivity), pow_add]
  exact Nat.mul_le_mul_right _ (le_trans (two_pow_le_ten_pow k) (Nat.le_mul_of_pos_left _ hn))

theorem double_mul_two_pow_lt {n k unit : Nat} (hk : Nat.log2 n + 2 + unit ≤ 3 * k) :
    2 * (n * 2 ^ unit) < 10 ^ k := by
  have hn : n < 2 ^ (Nat.log2 n + 1) := Nat.lt_log2_self
  generalize Nat.log2 n = l at *
  have hmul : n * 2 ^ unit < 2 ^ (l + 1) * 2 ^ unit :=
    Nat.mul_lt_mul_of_pos_right hn (by positivity)
  calc 2 * (n * 2 ^ unit) < 2 * (2 ^ (l + 1) * 2 ^ unit) := by omega
    _ = 2 ^ (l + 2 + unit) := by ring
    _ ≤ 2 ^ (3 * k) := Nat.pow_le_pow_right (by decide) hk
    _ ≤ 10 ^ k := two_pow_le_ten_pow k

/-- **The binary number of a decimal is the nearest one**, also where it is answered without
computing any power. -/
theorem toBinary64_eq_ofRatio (negative : Bool) (d : Decimal) :
    d.toBinary64 negative = Binary64.ofRatio negative d.numerator d.denominator := by
  obtain ⟨n, x⟩ := d
  simp only [toBinary64, numerator, denominator, Binary64.ofRatio, Nat.pow_eq]
  generalize hunit : 1074 = unit
  by_cases hzero : n = 0
  · rw [if_pos hzero, hzero, zero_mul, zero_mul]
    exact (Binary64.nearest_of_half_lt negative (by simp)).symm
  have hpos : 0 < n := Nat.pos_of_ne_zero hzero
  rw [if_neg hzero]
  by_cases hhuge : 400 < x
  · rw [if_pos hhuge, show (-x).toNat = 0 by omega, pow_zero]
    refine (Binary64.nearest_of_huge negative ?_).symm
    rw [Nat.div_one]
    exact le_trans (by omega) (le_log2_mul_ten_pow hpos x.toNat unit)
  rw [if_neg hhuge]
  by_cases htiny : x < -(400 + (Nat.log2 n : Int))
  · rw [if_pos htiny, show x.toNat = 0 by omega, pow_zero, mul_one]
    exact (Binary64.nearest_of_half_lt negative (double_mul_two_pow_lt (by omega))).symm
  rw [if_neg htiny]
  by_cases hsign : 0 ≤ x
  · rw [if_pos hsign, show (-x).toNat = 0 by omega, pow_zero]
  · rw [if_neg hsign, show x.toNat = 0 by omega, pow_zero, mul_one]

/-- **Zeros at the end of the digits do not matter**, when the exponent makes up for them. -/
theorem toBinary64_shift (negative : Bool) (n k : Nat) (x : Int) :
    toBinary64 negative ⟨n * 10 ^ k, x - k⟩ = toBinary64 negative ⟨n, x⟩ := by
  have hexp : k + (x - k).toNat + (-x).toNat = x.toNat + (-(x - k)).toNat := by omega
  rw [toBinary64_eq_ofRatio, toBinary64_eq_ofRatio]
  refine Binary64.nearest_congr negative (denominator_pos _) (denominator_pos _) ?_
  simp only [numerator, denominator]
  generalize Nat.pow 2 1074 = unit
  calc n * 10 ^ k * 10 ^ (x - k).toNat * unit * 10 ^ (-x).toNat
      = n * 10 ^ (k + (x - k).toNat + (-x).toNat) * unit := by ring
    _ = n * 10 ^ x.toNat * unit * 10 ^ (-(x - k)).toNat := by rw [hexp, pow_add]; ring

theorem toBinary64_ne_nan (negative : Bool) (d : Decimal) : d.toBinary64 negative ≠ .nan := by
  rw [toBinary64_eq_ofRatio]
  exact Binary64.nearest_ne_nan _ _ _

end Decimal
end GameJam
