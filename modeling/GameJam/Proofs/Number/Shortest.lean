import GameJam.Proofs.Number.Nearest

/-!
# The shortest decimal reads back

`Binary64.shortest` tries grids of decimals from the coarsest to the finest and takes the first
neighbour that reads back, and where none does it writes out every digit.  Either way the number is
read back from what is taken, so nothing is lost in print.

## What is here

* `toBinary64_exactDecimal` — every digit of a number, read back.
* `toBinary64_shortest` — the decimal that is printed reads back as the number, under either sign.
-/

set_option autoImplicit false

namespace GameJam
namespace Binary64

/-- **Every digit of a number reads back as it.** -/
theorem toBinary64_exactDecimal {m e : Nat} (h : Canonical m e) :
    (exactDecimal m e).toBinary64 false = .finite false m e h := by
  have hden : 0 < (exactDecimal m e).denominator := Decimal.denominator_pos _
  rw [Decimal.toBinary64_eq_ofRatio, ← nearest_exact false h]
  refine nearest_congr false hden Nat.one_pos ?_
  simp only [Decimal.numerator, Decimal.denominator, exactDecimal, Nat.pow_eq]
  have hexp : (-(1074 : Int)).toNat = 0 ∧ (-(-(1074 : Int))).toNat = 1074 := by decide
  rw [hexp.1, hexp.2, pow_zero, mul_one, mul_one]
  generalize 1074 = k
  rw [mul_assoc, ← mul_pow, show 5 * 2 = 10 from rfl]

theorem readsBack_iff {m e : Nat} (h : Canonical m e) (d : Decimal) :
    readsBack m e d = true ↔ d.toBinary64 false = .finite false m e h := by
  rw [readsBack, beq_iff_eq, ofParts_of_canonical false h]

/-- Only a neighbour that reads back is taken. -/
theorem readsBack_of_neighbour? {tie : Tie} {m e : Nat} {k : Int} {d : Decimal}
    (h : neighbour? tie m e k = some d) : readsBack m e d = true := by
  simp only [neighbour?] at h
  split at h
  · rename_i hbelow habove
    split at h
    · cases h; exact habove
    · cases h; exact hbelow
  · rename_i hbelow _
    cases h; exact hbelow
  · rename_i _ habove
    cases h; exact habove
  · cases h

/-- **The decimal that is printed reads back as the number.** -/
theorem toBinary64_shortest (negative : Bool) (tie : Tie) {m e : Nat} (h : Canonical m e) :
    (shortest tie m e).toBinary64 negative = .finite negative m e h := by
  have hpositive : (shortest tie m e).toBinary64 false = .finite false m e h := by
    simp only [shortest]
    cases hfound : (List.range 17).findSome? fun (n : Nat) =>
        neighbour? tie m e (decimalExponent (m * Nat.pow 2 e) - (n : Int)) with
    | none => exact toBinary64_exactDecimal h
    | some d =>
      obtain ⟨n, -, hn⟩ := List.exists_of_findSome?_eq_some hfound
      exact (readsBack_iff h d).1 (readsBack_of_neighbour? hn)
  rw [Decimal.toBinary64_eq_ofRatio] at hpositive ⊢
  exact nearest_of_positive hpositive

/-- A number that is not zero is printed with digits. -/
theorem digits_shortest_pos (tie : Tie) {m e : Nat} (h : Canonical m e) (hm : m ≠ 0) :
    0 < (shortest tie m e).digits := by
  rw [Nat.pos_iff_ne_zero]
  intro hzero
  have hback := toBinary64_shortest false tie h
  rw [Decimal.toBinary64, if_pos hzero] at hback
  cases hback
  exact hm rfl

end Binary64
end GameJam
