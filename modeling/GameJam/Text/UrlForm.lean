import GameJam.Text.Fields
import GameJam.Text.Utf8

/-!
# Form encoding

A query string is a list of pairs of texts.  Letters, digits and `*-._` stand for themselves, a
space is a `+`, and every other byte of a text is a `%` with two hexadecimal digits.  Reading never
fails: a `%` without two digits after it stands for itself, and bytes that are no UTF-8 become
U+FFFD.

## What is here

* `UrlForm.write` and `UrlForm.writePairs`.
* `UrlForm.read` and `UrlForm.readPairs`.
-/

set_option autoImplicit false

namespace GameJam
namespace UrlForm

/-! ## Writing -/

/-- Does the byte stand for itself? -/
def isPlain (b : Nat) : Bool :=
  (0x30 ≤ b && b ≤ 0x39) || (0x41 ≤ b && b ≤ 0x5A) || (0x61 ≤ b && b ≤ 0x7A)
    || b == 0x2A || b == 0x2D || b == 0x2E || b == 0x5F

/-- The upper-case hexadecimal digit of a number below 16. -/
def hexDigit (n : Nat) : Char :=
  (Nat.digitChar n).toUpper

/-- A byte in a query string. -/
def writeByte (b : Nat) : List Char :=
  if b = 0x20 then ['+']
  else if isPlain b then [Char.ofNat b]
  else ['%', hexDigit (b / 16), hexDigit (b % 16)]

/-- A text in a query string. -/
def write (text : String) : List Char :=
  (Utf8.encode text.toList).flatMap fun b => writeByte b.toNat

/-- One pair of a query string. -/
def writePair (pair : String × String) : List Char :=
  write pair.1 ++ '=' :: write pair.2

/-- The query string of a list of pairs. -/
def writePairs (pairs : List (String × String)) : List Char :=
  ['&'].intercalate (pairs.map writePair)

/-! ## Reading -/

/-- The value of a hexadecimal digit. -/
def hexValue? (b : UInt8) : Option UInt8 :=
  if 0x30 ≤ b && b ≤ 0x39 then some (b - 0x30)
  else if 0x41 ≤ b && b ≤ 0x46 then some (b - 0x37)
  else if 0x61 ≤ b && b ≤ 0x66 then some (b - 0x57)
  else none

/-- The byte that two digits at the head of a list write. -/
def hexPair? : List UInt8 → Option UInt8
  | a :: b :: _ => do return 16 * (← hexValue? a) + (← hexValue? b)
  | _ => none

/-- The bytes that a part of a query string stands for; `skipped` are still to be passed over. -/
def unescape (skipped : Nat) : List UInt8 → List UInt8
  | [] => []
  | b :: rest =>
    match skipped with
    | skipped + 1 => unescape skipped rest
    | 0 =>
      if b = 0x2B then 0x20 :: unescape 0 rest
      else if b = 0x25 then
        match hexPair? rest with
        | some byte => byte :: unescape 2 rest
        | none => b :: unescape 0 rest
      else b :: unescape 0 rest

/-- The text that a part of a query string stands for. -/
def read (bytes : List UInt8) : String :=
  String.ofList (Utf8.decodeLossy (unescape 0 bytes))

/-- The pairs of a query string: the parts between `&` that are not empty, each cut at its first
`=`. -/
def readPairs (query : List Char) : List (String × String) :=
  ((fieldsBetween 0x26 (Utf8.encode query)).filter fun part => !part.isEmpty).map fun part =>
    let (key, value) := cutAt 0x3D part
    (read key, read value)

end UrlForm
end GameJam
