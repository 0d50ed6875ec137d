import GameJam.Yaml.Plain

/-!
# A place in a YAML text

A text is read from a place on: what is left of it, and where in its lines the place is.  Between
the parts of a document stand blanks, comments and line ends, and where a line has begun a key may
begin too.

## What is here

* `isReadable` and `withLineFeeds` — the characters a text may have, and the text with one kind of
  line end instead of four.
* `Cursor`, with `Cursor.skip`, which goes to the next part.
* `Cursor.atMark` — the marks between documents.
-/

set_option autoImplicit false

namespace GameJam
namespace Yaml

/-- May a text hold this character at all? -/
def isReadable (c : Char) : Bool :=
  let n := c.toNat
  n == 0x09 || n == 0x0A || n == 0x0D || (0x20 ≤ n && n ≤ 0x7E) || n == 0x85
    || (0xA0 ≤ n && n != 0xFFFE && n != 0xFFFF)

/-- The text with a line feed for each carriage return, with or without a line feed after it, and
for each next-line character. -/
def withLineFeeds : List Char → List Char
  | '\r' :: '\n' :: rest => '\n' :: withLineFeeds rest
  | '\r' :: rest => '\n' :: withLineFeeds rest
  | '\u0085' :: rest => '\n' :: withLineFeeds rest
  | c :: rest => c :: withLineFeeds rest
  | [] => []

/-- Does the character end a line? -/
def isBreak (c : Char) : Bool :=
  c == '\n' || c == '\u2028' || c == '\u2029'

/-- Is it a space or a tab? -/
def isSpace (c : Char) : Bool :=
  c == ' ' || c == '\t'

/-- Does the text end here, or does a space, a tab or a line end follow? -/
def atGap : List Char → Bool
  | [] => true
  | c :: _ => isSpace c || isBreak c

/-- A letter, a digit, a hyphen or an underscore. -/
def isNameChar (c : Char) : Bool :=
  c.isAlphanum || c == '-' || c == '_'

/-- Does one of these three characters at the beginning of a line stand between documents? -/
def isMark (mark : Char) : List Char → Bool
  | a :: b :: c :: rest => a == mark && b == mark && c == mark && atGap rest
  | _ => false

/-- A place in a text. -/
structure Cursor where
  /-- What is left. -/
  rest : List Char
  /-- How many characters stand before the place in its line. -/
  column : Nat
  line : Nat
  /-- May a key begin here? -/
  keyAllowed : Bool
deriving DecidableEq

namespace Cursor

/-- The beginning of a text. -/
def start (text : List Char) : Cursor :=
  ⟨text, 0, 0, true⟩

/-- The place after a number of characters of the same line, where a key may begin or not. -/
def pass (c : Cursor) (count : Nat) (keyAllowed : Bool) : Cursor :=
  ⟨c.rest.drop count, c.column + count, c.line, keyAllowed⟩

/-- Goes over blanks, comments and line ends.  A tab is a blank only where no key may begin or
between braces.  Outside of braces a key may begin on a new line. -/
def skipFrom (braces inComment keyAllowed : Bool) (column line : Nat) : List Char → Cursor
  | [] => ⟨[], column, line, keyAllowed⟩
  | c :: rest =>
    if isBreak c then skipFrom braces false (keyAllowed || !braces) 0 (line + 1) rest
    else if inComment then skipFrom braces true keyAllowed (column + 1) line rest
    else if c == ' ' || (c == '\t' && (braces || !keyAllowed)) || (c == '\uFEFF' && column == 0)
    then skipFrom braces false keyAllowed (column + 1) line rest
    else if c == '#' then skipFrom braces true keyAllowed (column + 1) line rest
    else ⟨c :: rest, column, line, keyAllowed⟩

/-- The place of the next part. -/
def skip (c : Cursor) (braces : Bool) : Cursor :=
  skipFrom braces false c.keyAllowed c.column c.line c.rest

/-- Does a mark of three such characters stand here? -/
def atMark (c : Cursor) (mark : Char) : Bool :=
  c.column == 0 && isMark mark c.rest

/-- Does the document end here, by a mark or with the text? -/
def atEnd (c : Cursor) : Bool :=
  c.rest.isEmpty || c.atMark '-' || c.atMark '.'

/-- Does an indicator stand here, with a gap after it? -/
def atIndicator (c : Cursor) (indicator : Char) : Bool :=
  match c.rest with
  | d :: rest => d == indicator && atGap rest
  | [] => false

/-- Does this character stand here? -/
def isAt (c : Cursor) (d : Char) : Bool :=
  c.rest.head? == some d

end Cursor
end Yaml
end GameJam
