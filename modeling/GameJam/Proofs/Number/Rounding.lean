import GameJam.Proofs.Number.Comparison
import Mathlib.Algebra.Order.Group.Abs

/-!
# Whole numbers that are rounded

A whole number that is compared with a binary one is first made a binary number itself, and from
`2 ^ 53` on that may be another number.  This file says how far the comparison can go wrong.  The
rounded number lies on the same side of every other binary number as the whole number does, so the
outcome is that of an exact comparison unless the other number is the rounded one, and then the two
count as equal.

## What is here

* `roundHalfEven_le`, `le_roundHalfEven_of_mul_le`, `abs_roundHalfEven_sub_le` — rounding a quotient
  never passes a whole number, and none is closer.
* `roundedUnits` and `scaled_nearest` — the exact value of a number that is rounded.
* `roundedUnits_le`, `le_roundedUnits`, `abs_roundedUnits_sub_le` — the same of binary numbers.
* `ClosestTo`, with `closestTo_ofInt` — no finite number is closer to a whole one.
* `compare?_ofInt` — **how a rounded whole number compares**.
-/

set_option autoImplicit false

namespace GameJam
namespace Binary64

/-! ## Rounding a quotient -/

section Quotient

variable {p q k : ℕ}

theorem le_roundHalfEven_of_mul_le (hq : 0 < q) (h : k * q ≤ p) : k ≤ roundHalfEven p q :=
  ((Nat.le_div_iff_mul_le hq).2 h).trans (le_roundHalfEven p q).1

/-- A quotient is only rounded up if something is left over. -/
theorem roundHalfEven_le (hq : 0 < q) (h : p ≤ k * q) : roundHalfEven p q ≤ k := by
  have hdiv : p / q ≤ k := Nat.div_le_of_le_mul (by rwa [mul_comm q])
  rcases hdiv.eq_or_lt with heq | hlt
  · have hexact : p = k * q := le_antisymm h (heq ▸ Nat.div_mul_le_self p q)
    rw [hexact, roundHalfEven_of_dvd k hq]
  · exact (le_roundHalfEven p q).2.trans hlt

/-- The distance is what is left over, or what is missing, whichever is less. -/
theorem abs_roundHalfEven_sub (p : ℕ) (hq : 0 < q) :
    |(roundHalfEven p q * q : ℤ) - p| ≤ (p % q : ℕ) ∧
      |(roundHalfEven p q * q : ℤ) - p| ≤ q - (p % q : ℕ) := by
  have hp : (p : ℤ) = (p / q : ℕ) * q + (p % q : ℕ) := by
    exact_mod_cast (Nat.div_add_mod' p q).symm
  have hmod : p % q < q := Nat.mod_lt p hq
  have hdown : ((p / q : ℕ) * q : ℤ) - p = -(p % q : ℕ) := by linarith
  have hup : ((p / q + 1 : ℕ) * q : ℤ) - p = q - (p % q : ℕ) := by
    rw [Nat.cast_add, Nat.cast_one, add_mul, one_mul]
    linarith
  unfold roundHalfEven
  split_ifs
  · rw [hdown, abs_neg, Nat.abs_cast]
    omega
  · rw [hup, abs_of_nonneg (by omega)]
    omega
  · rw [hdown, abs_neg, Nat.abs_cast]
    omega
  · rw [hup, abs_of_nonneg (by omega)]
    omega

/-- **No multiple of the divisor is closer** than the one that is rounded to. -/
theorem abs_roundHalfEven_sub_le (p : ℕ) (hq : 0 < q) (k : ℤ) :
    |(roundHalfEven p q * q : ℤ) - p| ≤ |k * q - p| := by
  have hp : (p : ℤ) = (p / q : ℕ) * q + (p % q : ℕ) := by
    exact_mod_cast (Nat.div_add_mod' p q).symm
  have hq' : (0 : ℤ) ≤ q := Int.natCast_nonneg q
  obtain ⟨hover, hmissing⟩ := abs_roundHalfEven_sub p hq
  rcases le_or_gt k (p / q : ℕ) with hk | hk
  · have hmul : k * q ≤ (p / q : ℕ) * q := Int.mul_le_mul_of_nonneg_right hk hq'
    have hbelow := neg_abs_le (k * q - p)
    omega
  · have hmul : ((p / q : ℕ) + 1) * (q : ℤ) ≤ k * q := Int.mul_le_mul_of_nonneg_right hk hq'
    have habove := le_abs_self (k * q - p)
    rw [add_mul, one_mul] at hmul
    omega

end Quotient

/-! ## Rounding to a mantissa of 53 bits -/

/-- The exponent at which a count of units is rounded. -/
def roundingExponent (p : ℕ) : ℕ := Nat.log2 p - 52

/-- A count of units rounded to a multiple of `2 ^ roundingExponent p`. -/
def roundedUnits (p : ℕ) : ℕ :=
  roundHalfEven p (2 ^ roundingExponent p) * 2 ^ roundingExponent p

section Units

variable {p m e : ℕ}

/-- **The value of the nearest number**, within the range. -/
theorem scaled_nearest (negative : Bool) (h : Nat.log2 p < 2097) :
    (nearest negative p 1).scaled = some (signed negative (roundedUnits p)) := by
  have hexponent : Nat.log2 p - 52 ≤ 2044 := by omega
  obtain ⟨hupper, hlower⟩ := quotient_bounds p
  have hround := le_roundHalfEven p (2 ^ (Nat.log2 p - 52))
  simp only [nearest, Nat.div_one, one_mul, Nat.pow_eq, roundedUnits, roundingExponent]
  generalize Nat.log2 p - 52 = f at *
  generalize roundHalfEven p (2 ^ f) = r at *
  split_ifs with hcarry
  · -- the mantissa has become one bit too long
    have hcanonical : Canonical (2 ^ 52) (f + 1) :=
      ⟨by decide, by omega, Or.inl (Nat.le_refl _)⟩
    have hvalue : 2 ^ 52 * Nat.pow 2 (f + 1) = r * 2 ^ f := by
      rw [hcarry, Nat.pow_eq]
      ring
    rw [ofParts_of_canonical negative hcanonical, scaled, hvalue]
  · have hcanonical : Canonical r f :=
      ⟨by simp only [Nat.pow_eq]; omega, by omega, by simp only [Nat.pow_eq]; omega⟩
    rw [ofParts_of_canonical negative hcanonical, scaled, Nat.pow_eq]

/-- Where a mantissa of 53 bits has a lower exponent than the one at which a count is rounded, its
magnitude is less than a power of two up to which the count goes. -/
theorem mul_pow_lt_of_lt_roundingExponent (hm : m < 2 ^ 53) (he : e < roundingExponent p) :
    m * 2 ^ e < 2 ^ 52 * 2 ^ roundingExponent p ∧ 2 ^ 52 * 2 ^ roundingExponent p ≤ p := by
  have hp : p ≠ 0 := by
    rintro rfl
    simp [roundingExponent] at he
  have hlog : 52 + roundingExponent p = Nat.log2 p := by
    unfold roundingExponent at he ⊢
    omega
  refine ⟨?_, by rw [← pow_add, hlog]; exact Nat.log2_self_le hp⟩
  calc m * 2 ^ e < 2 ^ 53 * 2 ^ e := Nat.mul_lt_mul_of_pos_right hm (by positivity)
    _ = 2 ^ 52 * 2 ^ (e + 1) := by ring
    _ ≤ 2 ^ 52 * 2 ^ roundingExponent p :=
      Nat.mul_le_mul_left _ (Nat.pow_le_pow_right (by decide) he)

/-- A mantissa with another exponent that is no lower is a multiple of the same power. -/
theorem mul_pow_eq_of_le (m : ℕ) {f : ℕ} (h : f ≤ e) : m * 2 ^ e = m * 2 ^ (e - f) * 2 ^ f := by
  rw [mul_assoc, ← pow_add, Nat.sub_add_cancel h]

/-- **Rounding does not pass a binary number from below.** -/
theorem roundedUnits_le (hm : m < 2 ^ 53) (h : p ≤ m * 2 ^ e) : roundedUnits p ≤ m * 2 ^ e := by
  rcases Nat.lt_or_ge e (roundingExponent p) with he | he
  · obtain ⟨hlt, hle⟩ := mul_pow_lt_of_lt_roundingExponent hm he
    omega
  · rw [mul_pow_eq_of_le m he] at h ⊢
    exact Nat.mul_le_mul_right _ (roundHalfEven_le (by positivity) h)

/-- **Rounding does not pass a binary number from above.** -/
theorem le_roundedUnits (hm : m < 2 ^ 53) (h : m * 2 ^ e ≤ p) : m * 2 ^ e ≤ roundedUnits p := by
  rcases Nat.lt_or_ge e (roundingExponent p) with he | he
  · obtain ⟨hlt, hle⟩ := mul_pow_lt_of_lt_roundingExponent hm he
    exact hlt.le.trans
      (Nat.mul_le_mul_right _ (le_roundHalfEven_of_mul_le (by positivity) hle))
  · rw [mul_pow_eq_of_le m he] at h ⊢
    exact Nat.mul_le_mul_right _ (le_roundHalfEven_of_mul_le (by positivity) h)

/-- A binary number is not rounded. -/
theorem roundedUnits_mul_pow (hm : m < 2 ^ 53) (e : ℕ) : roundedUnits (m * 2 ^ e) = m * 2 ^ e :=
  le_antisymm (roundedUnits_le hm le_rfl) (le_roundedUnits hm le_rfl)

/-- **No binary number is closer** than the one that is rounded to, whatever its sign. -/
theorem abs_roundedUnits_sub_le (hm : m < 2 ^ 53) (negative : Bool) :
    |(roundedUnits p : ℤ) - p| ≤ |signed negative (m * 2 ^ e) - p| := by
  have hclosest : ∀ k : ℤ, |(roundedUnits p : ℤ) - p| ≤ |k * 2 ^ roundingExponent p - p| := by
    intro k
    have h := abs_roundHalfEven_sub_le p (q := 2 ^ roundingExponent p) (by positivity) k
    rw [roundedUnits]
    exact_mod_cast h
  cases negative with
  | true =>
    refine (hclosest 0).trans ?_
    rw [signed, if_pos rfl, zero_mul, zero_sub, abs_neg, Nat.abs_cast]
    have h := neg_abs_le (-((m * 2 ^ e : ℕ) : ℤ) - p)
    omega
  | false =>
    rw [signed, if_neg Bool.false_ne_true]
    rcases Nat.lt_or_ge e (roundingExponent p) with he | he
    · -- the least magnitude at this exponent lies between the two
      obtain ⟨hlt, hle⟩ := mul_pow_lt_of_lt_roundingExponent hm he
      refine (hclosest (2 ^ 52)).trans ?_
      have hbetween : ((2 ^ 52 * 2 ^ roundingExponent p : ℕ) : ℤ) ≤ p := by exact_mod_cast hle
      push_cast at hbetween
      rw [abs_of_nonpos (by omega), abs_of_nonpos (by omega)]
      have hlt' : ((m * 2 ^ e : ℕ) : ℤ) < (2 ^ 52 * 2 ^ roundingExponent p : ℕ) := by
        exact_mod_cast hlt
      push_cast at hlt' ⊢
      omega
    · rw [mul_pow_eq_of_le m he]
      exact_mod_cast hclosest (m * 2 ^ (e - roundingExponent p) : ℕ)

end Units

/-! ## Whole numbers -/

/-- A finite number has an exact value. -/
theorem exists_scaled {x : Binary64} (h : x.isFinite = true) : ∃ value, x.scaled = some value := by
  cases x with
  | finite negative m e hcanonical => exact ⟨_, rfl⟩
  | _ => cases h

/-- The number is finite, and no finite number is closer to the whole one. -/
def ClosestTo (x : Binary64) (n : ℤ) : Prop :=
  ∃ value, x.scaled = some value ∧ ∀ y other, scaled y = some other →
    |value - n * unitsOfOne| ≤ |other - n * unitsOfOne|

section Counts

variable {n : ℕ}

/-- The value of a count that is made a binary number. -/
theorem scaled_ofInt (h : n < 2 ^ 64) :
    (ofInt n).scaled = some (roundedUnits (n * unitsOfOne) : ℤ) := by
  have hlog : Nat.log2 (n * unitsOfOne) < 2097 := by
    unfold unitsOfOne
    generalize hunit : 1074 = unit
    have hlt := log2_mul_two_pow_lt h (by decide) unit
    omega
  have hnegative : decide ((n : ℤ) < 0) = false := decide_eq_false (by omega)
  rw [ofInt_eq, hnegative, Int.natAbs_natCast, scaled_nearest false hlog]
  rfl

/-- **No finite number is closer to a count** than the one that it is made. -/
theorem closestTo_ofInt (h : n < 2 ^ 64) : (ofInt n).ClosestTo n := by
  refine ⟨_, scaled_ofInt h, fun y other hy => ?_⟩
  cases y with
  | finite negative m e hcanonical =>
    obtain rfl := Option.some_inj.1 hy
    have hclosest := abs_roundedUnits_sub_le (p := n * unitsOfOne) (e := e) hcanonical.1 negative
    rwa [Nat.cast_mul] at hclosest
  | _ => cases hy

/-- Up to `2 ^ 53` a count is not changed. -/
theorem roundedUnits_of_le (h : n ≤ 2 ^ 53) : roundedUnits (n * unitsOfOne) = n * unitsOfOne := by
  rcases h.lt_or_eq with hlt | rfl
  · obtain ⟨m, e, hcanonical, hvalue⟩ := exists_canonical hlt
    rw [← hvalue, roundedUnits_mul_pow hcanonical.1]
  · obtain ⟨e, hvalue⟩ : ∃ e, 2 ^ 53 * unitsOfOne = 2 ^ 52 * 2 ^ e := by
      unfold unitsOfOne
      generalize 1074 = unit
      exact ⟨unit + 1, by rw [Nat.pow_eq]; ring⟩
    rw [hvalue, roundedUnits_mul_pow (by decide)]

theorem compare?_of_scaled {a b : Binary64} {m k : ℤ} (ha : a.scaled = some m)
    (hb : b.scaled = some k) : a.compare? b = some (compare m k) :=
  match a, b, ha, hb with
  | .finite .., .finite .., rfl, rfl => rfl

/-- What is rounded stays on its side of a finite number. -/
theorem roundedUnits_between {p : ℕ} {x : Binary64} {value : ℤ} (hx : x.scaled = some value) :
    ((p : ℤ) ≤ value → (roundedUnits p : ℤ) ≤ value) ∧
      (value ≤ p → value ≤ (roundedUnits p : ℤ)) := by
  cases x with
  | finite negative m e hcanonical =>
    obtain rfl := Option.some_inj.1 hx
    have habove : p ≤ m * 2 ^ e → roundedUnits p ≤ m * 2 ^ e := roundedUnits_le hcanonical.1
    have hbelow : m * 2 ^ e ≤ p → m * 2 ^ e ≤ roundedUnits p := le_roundedUnits hcanonical.1
    rw [Nat.pow_eq, signed]
    generalize m * 2 ^ e = magnitude at *
    cases negative <;> simp only [Bool.false_eq_true, if_false, if_true] <;> omega
  | _ => cases hx

/-- **A count that is made a binary number compares as the count does**, but counts as equal to the
number that it is made. -/
theorem compare?_ofInt (h : n < 2 ^ 64) {x : Binary64} {value : ℤ} (hx : x.scaled = some value) :
    (ofInt n).compare? x = some (if x.scaled = (ofInt n).scaled then .eq
      else compare ((n * unitsOfOne : ℕ) : ℤ) value) := by
  rw [compare?_of_scaled (scaled_ofInt h) hx, scaled_ofInt h, hx]
  simp only [Option.some.injEq]
  obtain ⟨habove, hbelow⟩ := roundedUnits_between (p := n * unitsOfOne) hx
  generalize n * unitsOfOne = p at *
  split_ifs with hsame
  · rw [hsame, compare_eq_iff_eq.2 rfl]
  · rcases lt_trichotomy (p : ℤ) value with hlt | heq | hgt
    · have hrounded := habove hlt.le
      rw [compare_lt_iff_lt.2 hlt, compare_lt_iff_lt.2 (by omega)]
    · exact absurd (le_antisymm (hbelow heq.ge) (habove heq.le)) hsame
    · have hrounded := hbelow hgt.le
      rw [compare_gt_iff_gt.2 hgt, compare_gt_iff_gt.2 (by omega)]

end Counts

end Binary64
end GameJam
