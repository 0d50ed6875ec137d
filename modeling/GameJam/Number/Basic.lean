import GameJam.Number.Format

/-!
# Numbers of a record

A record holds counts, places and scores; a filter compares one of them with an operand.  A
`Number` keeps which of the three it is, so that two counts are compared as whole numbers, and
only numbers of different kinds meet as binary floating-point numbers.

## What is here

* `Number` — a signed or an unsigned 64-bit whole number, or a real one.
* `Number.compare?` — the comparison filters use.
* `Number.same` — equality of numbers of one kind; numbers of two kinds are never equal.
* `saturatingMul`, `saturatingAdd`, `saturatingPred` — 64-bit counts that stop at the largest
  and the smallest value.
-/

set_option autoImplicit false

namespace GameJam

/-- A number held by a record or given as an operand. -/
inductive Number where
  | signed (n : Int64)
  | unsigned (n : UInt64)
  | real (x : Binary64)
deriving DecidableEq

namespace Number

/-- The nearest floating-point number. -/
def toBinary64 : Number → Binary64
  | .signed n => .ofInt n.toInt
  | .unsigned n => .ofInt n.toNat
  | .real x => x

/-- Numbers of one kind compare by value, numbers of two kinds by their nearest floating-point
numbers; a NaN compares with nothing. -/
def compare? : Number → Number → Option Ordering
  | .signed a, .signed b => some (compare a.toInt b.toInt)
  | .unsigned a, .unsigned b => some (compare a.toNat b.toNat)
  | a, b => a.toBinary64.compare? b.toBinary64

/-- The same kind and the same value. -/
def same : Number → Number → Bool
  | .signed a, .signed b => a == b
  | .unsigned a, .unsigned b => a == b
  | .real a, .real b => a.sameValue b
  | _, _ => false

end Number

/-! ## Counts that do not wrap -/

/-- A natural number as a 64-bit count, the largest one standing for all beyond it. -/
def saturate (n : Nat) : UInt64 :=
  UInt64.ofNat (min n (UInt64.size - 1))

/-- The product, or the largest count. -/
def saturatingMul (a b : UInt64) : UInt64 :=
  saturate (a.toNat * b.toNat)

/-- The sum, or the largest count. -/
def saturatingAdd (a b : UInt64) : UInt64 :=
  saturate (a.toNat + b.toNat)

/-- One less, or zero. -/
def saturatingPred (a : UInt64) : UInt64 :=
  UInt64.ofNat (a.toNat - 1)

end GameJam
