import GameJam.Text.Unicode.Category

/-!
# Texts shown between quotes

In summaries and in messages a text stands between double quotes, with the characters that could
not be told apart otherwise written as escapes: the quote, the backslash, line ends, and every
character that attaches to another one or is not shown as itself.
-/

set_option autoImplicit false

namespace GameJam

/-- The digits of a number in hexadecimal, lower case. -/
def hexText (n : Nat) : List Char :=
  Nat.toDigits 16 n

/-- A character as it stands between quotes. -/
def quotedChar (c : Char) : List Char :=
  if c = '\x00' then ['\\', '0']
  else if c = '\t' then ['\\', 't']
  else if c = '\r' then ['\\', 'r']
  else if c = '\n' then ['\\', 'n']
  else if c = '\\' ∨ c = '"' then ['\\', c]
  else if Unicode.isGraphemeExtend c || !Unicode.isPrintable c then
    '\\' :: 'u' :: '{' :: (hexText c.toNat ++ ['}'])
  else [c]

/-- A text between quotes. -/
def quotedText (s : String) : String :=
  String.ofList ('"' :: (s.toList.flatMap quotedChar ++ ['"']))

end GameJam
