import GameJam.Number.Decimal

/-!
# What plain YAML text stands for

Text without quotes may stand for nothing, for a truth value or for a number.  A text that would
be taken for one of these has to stand between quotes.

## What is here

* `isNull`, `isBool` — the words for nothing and for truth values.
* `natural?`, `isInteger`, `isReal` — numbers, in four notations.
* `isText` — does plain text stand for itself?
-/

set_option autoImplicit false

namespace GameJam
namespace Yaml

/-- Is it a word for nothing? -/
def isNull (text : List Char) : Bool :=
  ["null", "Null", "NULL", "~"].contains (String.ofList text)

/-- Is it a truth value? -/
def isBool (text : List Char) : Bool :=
  ["true", "True", "TRUE", "false", "False", "FALSE"].contains (String.ofList text)

/-! ## Whole numbers -/

/-- The value of a digit of a radix up to 16. -/
def digitIn? (radix : Nat) (c : Char) : Option Nat :=
  let value :=
    if c.isDigit then c.toNat - '0'.toNat
    else if 'a' ≤ c ∧ c ≤ 'f' then c.toNat - 'a'.toNat + 10
    else if 'A' ≤ c ∧ c ≤ 'F' then c.toNat - 'A'.toNat + 10
    else radix
  if value < radix then some value else none

/-- The number that digits of a radix write; there is at least one digit. -/
def digitsIn? (radix : Nat) (text : List Char) : Option Nat :=
  if text.isEmpty then none
  else (text.mapM (digitIn? radix)).map fun values => values.foldl (radix * · + ·) 0

/-- A text without one sign before it. -/
def dropSign : List Char → List Char
  | '+' :: rest => rest
  | '-' :: rest => rest
  | text => text

/-- A decimal number that begins with a zero and has more digits is no number. -/
def hasLeadingZero (text : List Char) : Bool :=
  match dropSign text with
  | '0' :: c :: rest => (c :: rest).all Char.isDigit
  | _ => false

/-- A number without a sign: hexadecimal, octal and binary ones have a letter after a zero. -/
def magnitude? : List Char → Option Nat
  | '0' :: 'x' :: rest => digitsIn? 16 rest
  | '0' :: 'o' :: rest => digitsIn? 8 rest
  | '0' :: 'b' :: rest => digitsIn? 2 rest
  | text => if hasLeadingZero text then none else digitsIn? 10 text

/-- A natural number, with or without a plus. -/
def natural? : List Char → Option Nat
  | '+' :: rest => magnitude? rest
  | text => magnitude? text

/-- Is it a whole number of at most 128 bits? -/
def isInteger (text : List Char) : Bool :=
  match text with
  | '-' :: rest => (magnitude? rest).any fun n => n ≤ Nat.pow 2 127
  | text => (natural? text).any fun n => n < Nat.pow 2 128

/-! ## Real numbers -/

/-- Is it a word for what is not finite? -/
def isSpecialReal (text : List Char) : Bool :=
  [".nan", ".NaN", ".NAN", ".inf", ".Inf", ".INF", "+.inf", "+.Inf", "+.INF",
    "-.inf", "-.Inf", "-.INF"].contains (String.ofList text)

/-- Is it a real number?  A decimal that is too large to be finite is none. -/
def isReal (text : List Char) : Bool :=
  isSpecialReal text
    || (match text with
      | '+' :: '+' :: _ => none
      | '+' :: '-' :: _ => none
      | text => Binary64.parse? text).any Binary64.isFinite

/-- Does plain text stand for itself, however numbers with a leading zero are taken? -/
def isText (text : List Char) : Bool :=
  !(text.isEmpty || isNull text || isBool text || isInteger text || hasLeadingZero text
    || isReal text)

end Yaml
end GameJam
