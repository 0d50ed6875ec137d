import GameJam.Json.Write
import GameJam.Yaml.Plain

/-!
# YAML text

A tree as a YAML document in block style.  Nested collections are indented by two spaces, but the
items of a list under a key stand below the key; only empty collections are written in brackets.
A text is written plainly if it then reads back as itself, else between single quotes, and between
double quotes if it has characters that need escapes.  A text of several lines is written as a
block.

## What is here

* `Style` and `styleOf` — how a text is written.
* `Yaml.write` — the document of a tree.
-/

set_option autoImplicit false

namespace GameJam
namespace Yaml

/-! ## Characters -/

/-- Does the character end a line? -/
def isLineEnd (c : Char) : Bool :=
  c == '\n' || c == '\r' || c == '\u0085' || c == '\u2028' || c == '\u2029'

/-- Is it a space, a tab, a line end or the null character? -/
def endsToken (c : Char) : Bool :=
  c == ' ' || c == '\t' || c == '\x00' || isLineEnd c

/-- May the character be written as it is? -/
def isWritable (c : Char) : Bool :=
  let n := c.toNat
  n == 0x0A || (0x20 ≤ n && n ≤ 0x7E) || (0xA0 ≤ n && n != 0xFEFF && n != 0xFFFE && n != 0xFFFF)

/-! ## The style of a text -/

/-- How a text is written. -/
inductive Style where
  | plain
  | singleQuoted
  | doubleQuoted
  | literal
deriving DecidableEq, Repr

/-- Does some pair of neighbours satisfy a condition? -/
def anyNeighbours (condition : Char → Char → Bool) (text : List Char) : Bool :=
  (text.zip text.tail).any fun (a, b) => condition a b

/-- Does a space stand before a line end? -/
def spaceBeforeLineEnd : List Char → Bool :=
  anyNeighbours fun a b => a == ' ' && isLineEnd b

/-- Does a space stand after a line end? -/
def spaceAfterLineEnd : List Char → Bool :=
  anyNeighbours fun a b => isLineEnd a && b == ' '

/-- Would the characters be lost or changed in any style without escapes? -/
def needsEscapes (text : List Char) : Bool :=
  spaceBeforeLineEnd text || !text.all isWritable

/-- Does the text begin with a character that means something at the beginning? -/
def startsWithIndicator : List Char → Bool
  | [] => false
  | c :: rest =>
    ['#', ',', '[', ']', '{', '}', '&', '*', '!', '|', '>', '\'', '"', '%', '@', '\x60'].contains c
      || ((c == '?' || c == '-') && rest.head?.all endsToken)

/-- Is there a colon that ends a key, or a number sign that begins a comment? -/
def hasIndicator (text : List Char) : Bool :=
  text.getLast? == some ':'
    || anyNeighbours (fun a b => (a == ':' && endsToken b) || (endsToken a && b == '#')) text

/-- May the text be written without quotes in a block? -/
def plainAllowed (text : List Char) : Bool :=
  !(text.head? == some ' ' || text.getLast? == some ' ' || text.any isLineEnd
    || needsEscapes text || startsWithIndicator text || hasIndicator text
    || "---".toList.isPrefixOf text || "...".toList.isPrefixOf text)

/-- The style of a text: a block for one with line feeds unless that would change it, quotes for one
that would be taken for something else. -/
def styleOf (text : List Char) : Style :=
  if text.contains '\n' then
    if needsEscapes text || text.getLast? == some ' ' then .doubleQuoted else .literal
  else if isText text && plainAllowed text then .plain
  else if needsEscapes text || spaceAfterLineEnd text then .doubleQuoted
  else .singleQuoted

/-! ## Writing texts -/

/-- Spaces before a line. -/
def spaces (n : Nat) : List Char :=
  List.replicate n ' '

/-- The upper-case hexadecimal digits of a number, so many of them. -/
def hexDigits (width n : Nat) : List Char :=
  let digits := (Nat.toDigits 16 n).map Char.toUpper
  List.replicate (width - digits.length) '0' ++ digits

/-- A character between double quotes. -/
def escaped (c : Char) : List Char :=
  if c = '"' ∨ c = '\\' then ['\\', c]
  else if isWritable c && !isLineEnd c then [c]
  else match c.toNat with
    | 0x00 => ['\\', '0']
    | 0x07 => ['\\', 'a']
    | 0x08 => ['\\', 'b']
    | 0x09 => ['\\', 't']
    | 0x0A => ['\\', 'n']
    | 0x0B => ['\\', 'v']
    | 0x0C => ['\\', 'f']
    | 0x0D => ['\\', 'r']
    | 0x1B => ['\\', 'e']
    | 0x85 => ['\\', 'N']
    | 0x2028 => ['\\', 'L']
    | 0x2029 => ['\\', 'P']
    | n => if n ≤ 0xFF then '\\' :: 'x' :: hexDigits 2 n else '\\' :: 'u' :: hexDigits 4 n

/-- The rest of a text between single quotes; what stands at the beginning of a line, which is where
`atStart` is, is indented. -/
def singleQuotedRest (indent : Nat) (atStart : Bool) : List Char → List Char
  | [] => (if atStart then spaces indent else []) ++ ['\'']
  | c :: rest =>
    if isLineEnd c then c :: singleQuotedRest indent true rest
    else if c = ' ' then c :: singleQuotedRest indent atStart rest
    else
      (if atStart then spaces indent else [])
        ++ (if c = '\'' then ['\'', '\''] else [c]) ++ singleQuotedRest indent false rest

/-- The lines of a block, each line that is not empty being indented. -/
def blockLines (indent : Nat) (atStart : Bool) : List Char → List Char
  | [] => if atStart then [] else ['\n']
  | c :: rest =>
    if isLineEnd c then c :: blockLines indent true rest
    else (if atStart then spaces indent else []) ++ c :: blockLines indent false rest

/-- The head of a block: the indentation if it cannot be told from the first line, and what becomes
of the line ends after the last line. -/
def writeBlockHead (text : List Char) : List Char :=
  '|' :: ((if text.head?.any fun c => c == ' ' || isLineEnd c then ['2'] else [])
    ++ (match text.reverse with
      | a :: b :: _ => if !isLineEnd a then ['-'] else if isLineEnd b then ['+'] else []
      | [a] => if isLineEnd a then ['+'] else ['-']
      | [] => ['-']))

/-- A text up to the end of its line; the further lines are indented. -/
def writeText (indent : Nat) (text : List Char) : List Char :=
  match styleOf text with
  | .plain => text ++ ['\n']
  | .singleQuoted => '\'' :: (singleQuotedRest indent false text ++ ['\n'])
  | .doubleQuoted => '"' :: (text.flatMap escaped ++ ['"', '\n'])
  | .literal => writeBlockHead text ++ '\n' :: blockLines indent true text

/-- A number. -/
def writeNumber : Json.Number → List Char
  | .natural n => decimalText n.toNat
  | .negative n => integerText n.toInt
  | .real x => RealFormat.yaml.write x

/-! ## Keys -/

/-- May the key stand before its colon on one line?  It has no line end and at most 128 bytes. -/
def isSimpleKey (key : List Char) : Bool :=
  !key.any isLineEnd && key.foldl (fun size c => size + c.utf8Size) 0 ≤ 128

/-- A key with its colon. -/
def simpleKey (key : List Char) : List Char :=
  (writeText 0 key).dropLast ++ [':']

/-- A key at a column, up to where its value begins.  A key that is no simple one and its value are
both marked. -/
def fieldStart (column : Nat) (key : List Char) : List Char :=
  if isSimpleKey key then simpleKey key
  else '?' :: ' ' :: (writeText (column + 2) key ++ spaces column ++ [':', ' '])

/-! ## Writing trees -/

/-- Where a value begins. -/
inductive Place where
  /-- The value begins at this column. -/
  | here (column : Nat)
  /-- The value follows a key that stands at this column. -/
  | afterKey (column : Nat)
deriving DecidableEq

namespace Place

/-- Where the value of a key begins, the key standing at a column. -/
def ofKey (column : Nat) (key : List Char) : Place :=
  if isSimpleKey key then .afterKey column else .here (column + 2)

/-- What stands before a value that is written on one line or as a block. -/
def gap : Place → List Char
  | here _ => []
  | afterKey _ => [' ']

/-- The indentation of the further lines of a text. -/
def textIndent : Place → Nat
  | here column => column
  | afterKey column => column + 2

/-- The column of the items of a list: under a key they are not indented. -/
def itemColumn : Place → Nat
  | here column | afterKey column => column

/-- The column of the fields of an object. -/
def fieldColumn : Place → Nat
  | here column => column
  | afterKey column => column + 2

/-- What stands before a collection whose parts stand at a column. -/
def lead (column : Nat) : Place → List Char
  | here _ => []
  | afterKey _ => '\n' :: spaces column

end Place

mutual

/-- A value up to the end of its last line. -/
def writeValue (place : Place) : Json → List Char
  | .array (item :: rest) =>
    place.lead place.itemColumn ++ '-' :: ' '
      :: (writeValue (.here (place.itemColumn + 2)) item ++ writeItems place.itemColumn rest)
  | .object ((key, value) :: rest) =>
    place.lead place.fieldColumn ++ fieldStart place.fieldColumn key.toList
      ++ writeValue (.ofKey place.fieldColumn key.toList) value
      ++ writeFields place.fieldColumn rest
  | .array [] => place.gap ++ ['[', ']', '\n']
  | .object [] => place.gap ++ ['{', '}', '\n']
  | .null => place.gap ++ "null\n".toList
  | .bool true => place.gap ++ "true\n".toList
  | .bool false => place.gap ++ "false\n".toList
  | .number n => place.gap ++ writeNumber n ++ ['\n']
  | .string s => place.gap ++ writeText place.textIndent s.toList

/-- The items after the first, each on lines of its own. -/
def writeItems (column : Nat) : List Json → List Char
  | [] => []
  | item :: rest => spaces column ++ '-' :: ' '
    :: (writeValue (.here (column + 2)) item ++ writeItems column rest)

/-- The fields after the first, each on lines of its own. -/
def writeFields (column : Nat) : List (String × Json) → List Char
  | [] => []
  | (key, value) :: rest => spaces column ++ fieldStart column key.toList
    ++ writeValue (.ofKey column key.toList) value ++ writeFields column rest

end

/-- The document of a tree. -/
def write (j : Json) : String :=
  String.ofList (match j with
    | .string s => writeText 2 s.toList
    | j => writeValue (.here 0) j)

end Yaml
end GameJam
