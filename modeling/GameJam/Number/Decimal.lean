import GameJam.Number.Binary64

/-!
# Decimal numerals

A number is written in decimal and kept in binary.  This file goes both ways: from a decimal to
the nearest binary number, and from a binary number to the shortest decimal that comes back to it.

## What is here

* `Decimal` — `digits · 10 ^ exponent`, and `Decimal.toBinary64`, the nearest binary number.
  Exponents far beyond the range are settled before any power is computed.
* `Numeral` — a decimal as it was written, `Numeral.value` being the number it stands for.
* `Binary64.parse?` — the text of a number in the widest notation that is accepted anywhere: a
  sign, digits around a point, an exponent, or the words for an infinity and for a NaN.
* `Binary64.shortest` — for one, two, … seventeen digits it looks at the two neighbours of the
  number on that decimal grid and takes the first that reads back; of two, the nearer one.  The
  last resort, every digit of the exact value, reads back as well.
-/

set_option autoImplicit false

namespace GameJam

/-- The number `digits · 10 ^ exponent`. -/
structure Decimal where
  digits : Nat
  exponent : Int
deriving DecidableEq, Repr

namespace Decimal

/-- The binary number nearest to a decimal. -/
def toBinary64 (negative : Bool) (d : Decimal) : Binary64 :=
  if d.digits = 0 then .zero negative
  else if 400 < d.exponent then .infinite negative
  else if d.exponent < -(400 + (Nat.log2 d.digits : Int)) then .zero negative
  else if 0 ≤ d.exponent then Binary64.ofRatio negative (d.digits * Nat.pow 10 d.exponent.toNat) 1
  else Binary64.ofRatio negative d.digits (Nat.pow 10 (-d.exponent).toNat)

end Decimal

/-! ## Reading -/

/-- The value of an ASCII digit. -/
def digitValue (c : Char) : Nat :=
  c.toNat - '0'.toNat

/-- The whole number that a run of digits writes. -/
def digitsValue (digits : List Char) : Nat :=
  digits.foldl (fun n c => 10 * n + digitValue c) 0

/-- A decimal as it was written: a sign, the digits before and after the point, an exponent. -/
structure Numeral where
  negative : Bool
  whole : List Char
  fraction : List Char
  exponent : Int
deriving DecidableEq, Repr

namespace Numeral

/-- The magnitude that the digits and the exponent write. -/
def decimal (n : Numeral) : Decimal :=
  ⟨digitsValue (n.whole ++ n.fraction), n.exponent - n.fraction.length⟩

/-- The binary number nearest to what was written. -/
def value (n : Numeral) : Binary64 :=
  n.decimal.toBinary64 n.negative

end Numeral

/-- An exponent: nothing, or the letter `e`, a sign and at least one digit up to the end. -/
def readExponent? : List Char → Option Int
  | [] => some 0
  | c :: rest =>
    if c = 'e' ∨ c = 'E' then
      match rest with
      | '-' :: digits => (read? digits).map fun n => -(n : Int)
      | '+' :: digits => (read? digits).map fun n => (n : Int)
      | digits => (read? digits).map fun n => (n : Int)
    else none
where
  /-- At least one digit and nothing else. -/
  read? (digits : List Char) : Option Nat :=
    if digits ≠ [] ∧ digits.all Char.isDigit then some (digitsValue digits) else none

/-- Digits with or without a point among them, at least one, and an optional exponent. -/
def readUnsigned? (negative : Bool) (text : List Char) : Option Numeral :=
  let whole := text.takeWhile Char.isDigit
  let rest := text.dropWhile Char.isDigit
  let (fraction, rest) := match rest with
    | '.' :: after => (after.takeWhile Char.isDigit, after.dropWhile Char.isDigit)
    | _ => ([], rest)
  if whole = [] ∧ fraction = [] then none
  else (readExponent? rest).map fun exponent => ⟨negative, whole, fraction, exponent⟩

/-- Splits an optional sign off a text; the flag says whether it was a minus. -/
def splitSign : List Char → Bool × List Char
  | '-' :: rest => (true, rest)
  | '+' :: rest => (false, rest)
  | text => (false, text)

/-- The number a text writes: an optional sign, then a decimal, `inf`, `infinity` or `nan`, the
words in any ASCII case. -/
def Binary64.parse? (text : List Char) : Option Binary64 :=
  let (negative, rest) := splitSign text
  let word := rest.map Char.toLower
  if word = "inf".toList ∨ word = "infinity".toList then some (.infinite negative)
  else if word = "nan".toList then some .nan
  else (readUnsigned? negative rest).map Numeral.value

/-! ## The shortest decimal -/

/-- Which of two equally near decimals is written. -/
inductive Tie where
  | even
  | away
deriving DecidableEq, Repr

namespace Binary64

/-- How many decimal digits a number has; zero has one. -/
def digitCount (n : Nat) : Nat :=
  (Nat.toDigits 10 n).length

/-- The `k` with `10 ^ k ≤ units · 2 ^ -1074 < 10 ^ (k + 1)`, for a positive count of units. -/
def decimalExponent (units : Nat) : Int :=
  (digitCount (units * Nat.pow 10 324 / Nat.pow 2 1074) : Int) - 325

/-- Does the decimal read back as the positive number with this mantissa and exponent? -/
def readsBack (m e : Nat) (d : Decimal) : Bool :=
  d.toBinary64 false == ofParts false m e

/-- Between the whole numbers next to `p / q`, is the upper one to be taken? -/
def upperNearer (tie : Tie) (p q : Nat) : Bool :=
  match compare (2 * (p % q)) q, tie with
  | .lt, _ => false
  | .gt, _ => true
  | .eq, .even => p / q % 2 == 1
  | .eq, .away => true

/-- Of the two neighbours on the grid of step `10 ^ k` the one to write, if any reads back. -/
def neighbour? (tie : Tie) (m e : Nat) (k : Int) : Option Decimal :=
  let p := m * Nat.pow 2 e * Nat.pow 10 (-k).toNat
  let q := Nat.pow 2 1074 * Nat.pow 10 k.toNat
  let below : Decimal := ⟨p / q, k⟩
  let above : Decimal := ⟨p / q + 1, k⟩
  match readsBack m e below, readsBack m e above with
  | true, true => some (if upperNearer tie p q then above else below)
  | true, false => some below
  | false, true => some above
  | false, false => none

/-- Every digit of the value `m · 2 ^ e · 2 ^ -1074`. -/
def exactDecimal (m e : Nat) : Decimal :=
  ⟨m * Nat.pow 2 e * Nat.pow 5 1074, -1074⟩

/-- The decimal with the fewest digits that reads back, the nearest of those. -/
def shortest (tie : Tie) (m e : Nat) : Decimal :=
  let top := decimalExponent (m * Nat.pow 2 e)
  ((List.range 17).findSome? fun (n : Nat) => neighbour? tie m e (top - (n : Int))).getD
    (exactDecimal m e)

end Binary64
end GameJam
