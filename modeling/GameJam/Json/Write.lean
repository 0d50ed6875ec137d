import GameJam.Json.Basic

/-!
# JSON text

A tree is written on one line (`compact`) or with one item or field per line, indented by two
spaces a level (`pretty`).  A number that is not finite has no JSON text and is written `null`.
Characters are written as they are but for the quote, the backslash and those below U+0020.
-/

set_option autoImplicit false

namespace GameJam
namespace Json

/-- The digit of a number below 16, lower case. -/
def hexDigit (n : Nat) : Char :=
  Nat.digitChar n

/-- A character inside a JSON text. -/
def escapeChar (c : Char) : List Char :=
  if c = '"' then ['\\', '"']
  else if c = '\\' then ['\\', '\\']
  else if c.toNat < 0x20 then
    match c.toNat with
    | 8 => ['\\', 'b']
    | 9 => ['\\', 't']
    | 10 => ['\\', 'n']
    | 12 => ['\\', 'f']
    | 13 => ['\\', 'r']
    | n => ['\\', 'u', '0', '0', hexDigit (n / 16), hexDigit (n % 16)]
  else [c]

/-- A text between quotes. -/
def quote (s : String) : List Char :=
  '"' :: (s.toList.flatMap escapeChar ++ ['"'])

/-- A number; whole numbers of the integer kinds have no point. -/
def writeNumber : Json.Number → List Char
  | .natural n => decimalText n.toNat
  | .negative n => integerText n.toInt
  | .real x => RealFormat.json.write x

mutual

/-- The text of a value on one line, without blanks. -/
def compact : Json → List Char
  | .null => "null".toList
  | .bool true => "true".toList
  | .bool false => "false".toList
  | .number n => writeNumber n
  | .string s => quote s
  | .array [] => ['[', ']']
  | .array (item :: rest) => '[' :: (item.compact ++ compactItems rest)
  | .object [] => ['{', '}']
  | .object ((key, value) :: rest) =>
    '{' :: (quote key ++ ':' :: (value.compact ++ compactFields rest))

/-- The items after the first, each behind a comma, and the closing bracket. -/
def compactItems : List Json → List Char
  | [] => [']']
  | item :: rest => ',' :: (item.compact ++ compactItems rest)

/-- The fields after the first, each behind a comma, and the closing brace. -/
def compactFields : List (String × Json) → List Char
  | [] => ['}']
  | (key, value) :: rest => ',' :: (quote key ++ ':' :: (value.compact ++ compactFields rest))

end

/-- The text of a value on one line. -/
def compactText (j : Json) : String :=
  String.ofList j.compact

/-- A line break and the indentation of a level. -/
def newLine (level : Nat) : List Char :=
  '\n' :: List.replicate (2 * level) ' '

mutual

/-- The text of a value that stands at a level, over several lines. -/
def pretty (level : Nat) : Json → List Char
  | .array (item :: rest) =>
    '[' :: (newLine (level + 1) ++ item.pretty (level + 1) ++ prettyItems level rest)
  | .object ((key, value) :: rest) =>
    '{' :: (newLine (level + 1) ++ quote key ++ ':' :: ' ' ::
      (value.pretty (level + 1) ++ prettyFields level rest))
  | .array [] => ['[', ']']
  | .object [] => ['{', '}']
  | .null => "null".toList
  | .bool true => "true".toList
  | .bool false => "false".toList
  | .number n => writeNumber n
  | .string s => quote s

/-- The items after the first, each on its own line, and the closing bracket. -/
def prettyItems (level : Nat) : List Json → List Char
  | [] => newLine level ++ [']']
  | item :: rest =>
    ',' :: (newLine (level + 1) ++ item.pretty (level + 1) ++ prettyItems level rest)

/-- The fields after the first, each on its own line, and the closing brace. -/
def prettyFields (level : Nat) : List (String × Json) → List Char
  | [] => newLine level ++ ['}']
  | (key, value) :: rest =>
    ',' :: (newLine (level + 1) ++ quote key ++ ':' :: ' ' ::
      (value.pretty (level + 1) ++ prettyFields level rest))

end

/-- The text of a value over several lines. -/
def prettyText (j : Json) : String :=
  String.ofList (j.pretty 0)

end Json
end GameJam
