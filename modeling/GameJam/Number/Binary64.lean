/-!
# Binary floating-point numbers, exactly

A score, a filter operand or a step is a binary number with 53 significant bits.  This file holds
such a number as what it stands for and not as a machine word: a finite one is a sign, a mantissa
`m` and an exponent `e`, and means `±m · 2 ^ e` units of `2 ^ -1074`, the least positive magnitude.
Every operation is then arithmetic on natural numbers and integers.

## What is here

* `Binary64` — the type.  `Canonical m e` is carried by every finite number, so that two finite
  numbers of one sign are equal exactly when they have the same magnitude.
* `scaled` — the value of a finite number, an integer count of units.
* `nearest` — the number closest to a ratio of units, a tie going to the even mantissa, and
  beyond the largest finite number an infinity; `ofInt` rounds a whole number this way.
* `compare?` — the order of the values; a NaN has no place in it, and the two zeros are equal.
-/

set_option autoImplicit false

namespace GameJam

/-- The one way to write a finite magnitude: the mantissa has all its 53 bits unless the exponent
is already the least. -/
def Binary64.Canonical (m e : Nat) : Prop :=
  m < Nat.pow 2 53 ∧ e ≤ 2045 ∧ (Nat.pow 2 52 ≤ m ∨ e = 0)

instance (m e : Nat) : Decidable (Binary64.Canonical m e) := by
  unfold Binary64.Canonical; infer_instance

/-- A binary floating-point number of 64 bits; a NaN carries no further information. -/
inductive Binary64 where
  | nan
  | infinite (negative : Bool)
  | finite (negative : Bool) (m e : Nat) (canonical : Binary64.Canonical m e)
deriving DecidableEq

namespace Binary64

/-- The finite number with this mantissa and exponent, or an infinity when there is none. -/
def ofParts (negative : Bool) (m e : Nat) : Binary64 :=
  if h : Canonical m e then .finite negative m e h else .infinite negative

/-- Zero, which keeps its sign. -/
def zero (negative : Bool) : Binary64 :=
  .finite negative 0 0 (by decide)

instance : Inhabited Binary64 := ⟨zero false⟩

/-- Is it neither infinite nor a NaN? -/
def isFinite : Binary64 → Bool
  | .finite .. => true
  | _ => false

/-! ## Rounding -/

/-- The whole number nearest to `p / q`; a tie goes to the even one. -/
def roundHalfEven (p q : Nat) : Nat :=
  if 2 * (p % q) < q then p / q
  else if q < 2 * (p % q) then p / q + 1
  else if p / q % 2 = 0 then p / q
  else p / q + 1

/-- The number nearest to `p / q` units of `2 ^ -1074`. -/
def nearest (negative : Bool) (p q : Nat) : Binary64 :=
  let e := Nat.log2 (p / q) - 52
  let m := roundHalfEven p (q * Nat.pow 2 e)
  if m = Nat.pow 2 53 then ofParts negative (Nat.pow 2 52) (e + 1) else ofParts negative m e

/-- The number nearest to the ratio `p / q`. -/
def ofRatio (negative : Bool) (p q : Nat) : Binary64 :=
  nearest negative (p * Nat.pow 2 1074) q

/-- The number nearest to a whole number. -/
def ofInt (n : Int) : Binary64 :=
  ofRatio (n < 0) n.natAbs 1

/-! ## Order -/

/-- The magnitude of a mantissa and an exponent under a sign, in units of `2 ^ -1074`. -/
def signed (negative : Bool) (magnitude : Nat) : Int :=
  if negative then -(magnitude : Int) else magnitude

/-- The value of a finite number in units of `2 ^ -1074`. -/
def scaled : Binary64 → Option Int
  | .finite negative m e _ => some (signed negative (m * Nat.pow 2 e))
  | _ => none

/-- How two values compare; nothing compares with a NaN. -/
def compare? : Binary64 → Binary64 → Option Ordering
  | .nan, _ => none
  | _, .nan => none
  | .infinite a, .infinite b => some (compare b a)
  | .infinite a, .finite .. => some (if a then .lt else .gt)
  | .finite .., .infinite b => some (if b then .gt else .lt)
  | .finite a m e _, .finite b n f _ =>
    some (compare (signed a (m * Nat.pow 2 e)) (signed b (n * Nat.pow 2 f)))

/-- Equality of values: a NaN equals nothing, and the two zeros are equal. -/
def sameValue (a b : Binary64) : Bool :=
  a.compare? b == some .eq

end Binary64
end GameJam
