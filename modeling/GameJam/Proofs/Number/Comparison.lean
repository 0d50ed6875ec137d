import GameJam.Filter.Operator
import GameJam.Number.Basic
import GameJam.Proofs.Number.Nearest
import Mathlib.Data.Int.ConditionallyCompleteOrder
import Mathlib.Order.WithBot

/-!
# What a comparison states

A filter compares two binary numbers case by case, the infinities apart, and tells from the outcome
whether an operator accepts it.  Here the values are put in one line, the finite ones between the
two infinities, and a comparison states the relation of its two values in that line.  A NaN stands
nowhere, so that nothing is stated of it, not even that it differs.

## What is here

* `Operator.Relates` — the relation that an operator states.
* `Extended` and `Binary64.extended?` — the line, and the place of a number in it.
* `exists_compare?` — how two numbers compare is how their exact values do.
* `any_accepts_iff` — **a comparison is accepted exactly when the relation holds of the exact
  values**.
* `extended?_ofInt` — whole numbers below `2 ^ 53` lose nothing when they are made binary numbers.
-/

set_option autoImplicit false

universe u

namespace GameJam

/-! ## Relations -/

/-- The relation that an operator states of two values; one that is no comparison states nothing
that is ever true. -/
def Operator.Relates {α : Type u} [LE α] [LT α] (operator : Operator) (a b : α) : Prop :=
  match operator with
  | .eq => a = b
  | .ne => a ≠ b
  | .lt => a < b
  | .le => a ≤ b
  | .gt => b < a
  | .ge => b ≤ a
  | _ => False

/-- The outcome of a comparison is accepted if the relation holds. -/
theorem accepts_iff_relates {α : Type u} [LinearOrder α] (operator : Operator) {order : Ordering}
    {a b : α} (h : order.Compares a b) : operator.accepts order = true ↔ operator.Relates a b := by
  cases order with
  | lt =>
    have hlt : a < b := h
    cases operator <;> simp [Operator.accepts, Operator.Relates, hlt, hlt.ne, hlt.le, hlt.not_gt]
  | eq =>
    obtain rfl : a = b := h
    cases operator <;> simp [Operator.accepts, Operator.Relates]
  | gt =>
    have hgt : b < a := h
    cases operator <;> simp [Operator.accepts, Operator.Relates, hgt, hgt.ne', hgt.le, hgt.not_gt]

/-! ## Exact values -/

/-- A whole number of units, or one of the two infinities beside all of them. -/
abbrev Extended := WithBot (WithTop ℤ)

/-- A whole number of units. -/
def Extended.ofInt (n : ℤ) : Extended := ((n : WithTop ℤ) : WithBot (WithTop ℤ))

theorem Extended.ofInt_lt_ofInt {m n : ℤ} : ofInt m < ofInt n ↔ m < n :=
  WithBot.coe_lt_coe.trans WithTop.coe_lt_coe

theorem Extended.compares_compare (m n : ℤ) : (compare m n).Compares (ofInt m) (ofInt n) := by
  have hcompares : (compare m n).Compares m n := (compare_iff m n).1 rfl
  cases horder : compare m n <;> rw [horder] at hcompares
  · exact ofInt_lt_ofInt.2 hcompares
  · exact congrArg ofInt hcompares
  · exact ofInt_lt_ofInt.2 hcompares

namespace Binary64

/-- How many units make one. -/
def unitsOfOne : ℕ := Nat.pow 2 1074

/-- The exact value of a number in units of `2 ^ -1074`.  A NaN has none. -/
def extended? : Binary64 → Option Extended
  | .nan => none
  | .infinite true => some ⊥
  | .infinite false => some (⊤ : WithTop ℤ)
  | .finite negative m e _ => some (.ofInt (signed negative (m * Nat.pow 2 e)))

/-- **How two numbers compare is how their exact values do.** -/
theorem exists_compare? {a b : Binary64} {x y : Extended} (ha : a.extended? = some x)
    (hb : b.extended? = some y) : ∃ order, a.compare? b = some order ∧ order.Compares x y := by
  match a, b, ha, hb with
  | .infinite true, .infinite true, rfl, rfl => exact ⟨.eq, rfl, rfl⟩
  | .infinite false, .infinite false, rfl, rfl => exact ⟨.eq, rfl, rfl⟩
  | .infinite true, .infinite false, rfl, rfl => exact ⟨.lt, rfl, WithBot.bot_lt_coe _⟩
  | .infinite false, .infinite true, rfl, rfl => exact ⟨.gt, rfl, WithBot.bot_lt_coe _⟩
  | .infinite true, .finite .., rfl, rfl => exact ⟨.lt, rfl, WithBot.bot_lt_coe _⟩
  | .finite .., .infinite true, rfl, rfl => exact ⟨.gt, rfl, WithBot.bot_lt_coe _⟩
  | .infinite false, .finite .., rfl, rfl =>
    exact ⟨.gt, rfl, WithBot.coe_lt_coe.2 (WithTop.coe_lt_top _)⟩
  | .finite .., .infinite false, rfl, rfl =>
    exact ⟨.lt, rfl, WithBot.coe_lt_coe.2 (WithTop.coe_lt_top _)⟩
  | .finite .., .finite .., rfl, rfl => exact ⟨_, rfl, Extended.compares_compare _ _⟩

/-- **A comparison is accepted exactly when the relation holds of the exact values.** -/
theorem any_accepts_iff (operator : Operator) (a b : Binary64) :
    (a.compare? b).any operator.accepts = true ↔
      ∃ x y, a.extended? = some x ∧ b.extended? = some y ∧ operator.Relates x y := by
  cases ha : a.extended? with
  | none =>
    have hnan : a = .nan := by
      rcases a with _ | (_ | _) | _ <;> first | rfl | cases ha
    simp [hnan, compare?]
  | some x =>
    cases hb : b.extended? with
    | none =>
      have hnan : b = .nan := by
        rcases b with _ | (_ | _) | _ <;> first | rfl | cases hb
      cases a <;> simp [hnan, compare?]
    | some y =>
      obtain ⟨order, hcompare, hcompares⟩ := exists_compare? ha hb
      rw [hcompare, Option.any_some, accepts_iff_relates operator hcompares]
      simp

/-! ## Whole numbers -/

theorem ofInt_eq (n : ℤ) : ofInt n = nearest (n < 0) (n.natAbs * unitsOfOne) 1 := by
  unfold ofInt ofRatio unitsOfOne
  with_reducible rfl

/-- A whole number of at most 53 bits has a mantissa of its own. -/
theorem exists_canonical {k : ℕ} (h : k < 2 ^ 53) :
    ∃ m e, Canonical m e ∧ m * 2 ^ e = k * unitsOfOne := by
  unfold unitsOfOne
  generalize hunit : 1074 = unit
  rw [Nat.pow_eq]
  rcases Nat.eq_zero_or_pos k with rfl | hk
  · exact ⟨0, 0, by decide, by rw [zero_mul, zero_mul]⟩
  · have hlower : 2 ^ Nat.log2 k ≤ k := Nat.log2_self_le hk.ne'
    have hupper : k < 2 ^ (Nat.log2 k + 1) := Nat.lt_log2_self
    have hlog : Nat.log2 k < 53 := (Nat.log2_lt hk.ne').2 h
    generalize Nat.log2 k = l at *
    refine ⟨k * 2 ^ (52 - l), unit - 52 + l, ⟨?_, by omega, Or.inl ?_⟩, ?_⟩
    · calc k * 2 ^ (52 - l) < 2 ^ (l + 1) * 2 ^ (52 - l) :=
            Nat.mul_lt_mul_of_pos_right hupper (by positivity)
        _ = 2 ^ 53 := by rw [← pow_add]; congr 1; omega
    · calc 2 ^ 52 = 2 ^ l * 2 ^ (52 - l) := by rw [← pow_add]; congr 1; omega
        _ ≤ k * 2 ^ (52 - l) := Nat.mul_le_mul_right _ hlower
    · have hexponent : 52 - l + (unit - 52 + l) = unit := by omega
      rw [mul_assoc, ← pow_add, hexponent]

/-- **A whole number below `2 ^ 53` loses nothing** when it is made a binary number. -/
theorem extended?_ofInt {n : ℤ} (h : n.natAbs < 2 ^ 53) :
    (ofInt n).extended? = some (.ofInt (n * unitsOfOne)) := by
  obtain ⟨m, e, hcanonical, hvalue⟩ := exists_canonical h
  have hfinite : ofInt n = .finite (n < 0) m e hcanonical := by
    rw [ofInt_eq, ← hvalue]
    exact nearest_exact _ hcanonical
  have hsigned : signed (n < 0) (m * Nat.pow 2 e) = n * unitsOfOne := by
    rw [Nat.pow_eq, hvalue, signed]
    generalize unitsOfOne = unit
    rcases lt_or_ge n 0 with hneg | hpos
    · rw [decide_eq_true hneg, if_pos rfl, Int.natCast_mul, ← Int.neg_mul]
      congr 1
      omega
    · rw [decide_eq_false (Int.not_lt.2 hpos), if_neg (by decide), Int.natCast_mul]
      congr 1
      omega
  rw [hfinite, extended?, hsigned]

end Binary64
end GameJam
