import GameJam.Number.Decimal

/-!
# How numbers are written

One layout function serves every place where a real number is printed; what differs between the
places is a `RealFormat`: which decimal exponents are written positionally, whether a whole number
keeps a `.0`, how an exponent begins, which of two equally near decimals is taken, and the words
for the values that are not finite.

## What is here

* `RealFormat`, and the three formats in use: `plain` (labels, summaries, filter texts), `json`
  and `yaml`.
* `RealFormat.write` — the text of a number in a format.
* `decimalText` — the digits of a natural number, `integerText` those of an integer.
-/

set_option autoImplicit false

namespace GameJam

/-- The decimal digits of a natural number. -/
def decimalText (n : Nat) : List Char :=
  Nat.toDigits 10 n

/-- The decimal digits of an integer, a minus before a negative one. -/
def integerText (n : Int) : List Char :=
  if n < 0 then '-' :: decimalText n.natAbs else decimalText n.natAbs

/-- The decisions that differ between the places where a real number is printed. -/
structure RealFormat where
  /-- Exponents `k` of `d.ddd · 10 ^ k` written positionally. -/
  positional : Int → Bool
  /-- What a whole number written positionally ends with. -/
  wholeEnd : String
  /-- What stands before the digits of a positive exponent. -/
  exponentSign : String
  tie : Tie
  notANumber : String
  plusInfinity : String
  minusInfinity : String

namespace RealFormat

/-- Always positional, and a whole number is bare. -/
def plain : RealFormat where
  positional _ := true
  wholeEnd := ""
  exponentSign := ""
  tie := .away
  notANumber := "NaN"
  plusInfinity := "inf"
  minusInfinity := "-inf"

/-- Positional from `0.00001` to below `10 ^ 16`; there is no word for what is not finite. -/
def json : RealFormat where
  positional k := -5 ≤ k && k < 16
  wholeEnd := ".0"
  exponentSign := "+"
  tie := .even
  notANumber := "null"
  plusInfinity := "null"
  minusInfinity := "null"

/-- As in JSON, but a positive exponent has no sign and infinities have names. -/
def yaml : RealFormat where
  positional k := -5 ≤ k && k < 16
  wholeEnd := ".0"
  exponentSign := ""
  tie := .even
  notANumber := ".nan"
  plusInfinity := ".inf"
  minusInfinity := "-.inf"

/-- The digits with the point after the first `point` of them. -/
def positionalText (wholeEnd : List Char) (digits : List Char) (point : Int) : List Char :=
  if point ≤ 0 then '0' :: '.' :: (List.replicate (-point).toNat '0' ++ digits)
  else if digits.length ≤ point.toNat then
    digits ++ List.replicate (point.toNat - digits.length) '0' ++ wholeEnd
  else digits.take point.toNat ++ '.' :: digits.drop point.toNat

/-- The digits as `d.ddd` followed by the exponent `k`. -/
def exponentText (exponentSign : List Char) (digits : List Char) (k : Int) : List Char :=
  let mantissa := match digits with
    | [] => ['0']
    | [d] => [d]
    | d :: rest => d :: '.' :: rest
  mantissa ++ 'e' :: ((if 0 ≤ k then exponentSign else []) ++ integerText k)

/-- A positive decimal in a format; zeros at its end are not written as digits. -/
def writeDecimal (format : RealFormat) (d : Decimal) : List Char :=
  let digits := decimalText d.digits
  let point := (digits.length : Int) + d.exponent
  let digits := (digits.reverse.dropWhile (· == '0')).reverse
  if format.positional (point - 1) then positionalText format.wholeEnd.toList digits point
  else exponentText format.exponentSign.toList digits (point - 1)

/-- The text of a number. -/
def write (format : RealFormat) : Binary64 → List Char
  | .nan => format.notANumber.toList
  | .infinite false => format.plusInfinity.toList
  | .infinite true => format.minusInfinity.toList
  | .finite negative m e _ =>
    let magnitude :=
      if m = 0 then '0' :: format.wholeEnd.toList
      else format.writeDecimal (Binary64.shortest format.tie m e)
    if negative then '-' :: magnitude else magnitude

end RealFormat
end GameJam
