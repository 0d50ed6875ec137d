import GameJam.Text.Utf8
import GameJam.Yaml.Cursor

/-!
# Scalars of a YAML text

A scalar is written plainly, between quotes, or as a block of lines.  In the first two forms a line
end stands for a space, and several of them for one line end less; in a block the lines are kept,
or folded in the same way.

## What is here

* `ScalarStyle`, `Scalar`.
* `Gap` — blanks or line ends that may come to stand inside a text.
* `plainScalar?`, `quotedScalar?`, `blockScalar?` — each reads one scalar and gives the place after
  it.
-/

set_option autoImplicit false

namespace GameJam
namespace Yaml

/-- How a scalar is written. -/
inductive ScalarStyle where
  | plain
  | quoted
  | literal
  | folded
deriving DecidableEq, Repr

/-- A scalar, and the tag that says what it is if it has one. -/
structure Scalar where
  text : List Char
  style : ScalarStyle
  tag : Option (List Char) := none
deriving DecidableEq

/-! ## Gaps -/

/-- What stands between two words of a text; lists are in reverse order. -/
inductive Gap where
  | none
  | blanks (before : List Char)
  /-- Line ends: the first one, unless it is not counted, and the others. -/
  | lines (first : Option Char) (others : List Char)
deriving DecidableEq

namespace Gap

/-- Is there a line end in the gap? -/
def isLines : Gap → Bool
  | lines .. => true
  | _ => false

/-- The gap with a blank more; blanks around line ends do not count. -/
def blank (gap : Gap) (c : Char) : Gap :=
  match gap with
  | none => blanks [c]
  | blanks before => blanks (c :: before)
  | gap => gap

/-- The gap with a line end more. -/
def newLine (gap : Gap) (c : Char) : Gap :=
  match gap with
  | lines first others => lines first (c :: others)
  | _ => lines (some c) []

/-- The text of a gap, in reverse order. -/
def text : Gap → List Char
  | none => []
  | blanks before => before
  | lines (some '\n') [] => [' ']
  | lines (some '\n') others => others
  | lines first others => others ++ first.toList

end Gap

/-! ## Plain scalars -/

/-- Reads a plain scalar after some text and a gap; further lines have to begin at column `least`,
except between braces. -/
def plainFrom (braces : Bool) (least : Nat) (text : List Char) (gap : Gap) (column line : Nat) :
    List Char → Option (List Char × Cursor)
  | [] => some (text.reverse, ⟨[], column, line, gap.isLines⟩)
  | c :: rest =>
    if isSpace c then
      if gap.isLines && c == '\t' && column < least then none
      else plainFrom braces least text (gap.blank c) (column + 1) line rest
    else if isBreak c then plainFrom braces least text (gap.newLine c) 0 (line + 1) rest
    else if gap != .none && (c == '#' || (gap.isLines && !braces && column < least)
        || (column == 0 && (isMark '-' (c :: rest) || isMark '.' (c :: rest)))) then
      some (text.reverse, ⟨c :: rest, column, line, gap.isLines⟩)
    else if braces && c == ':'
        && rest.head?.any [',', '?', '[', ']', '{', '}'].contains then none
    else if (c == ':' && atGap rest) || (braces && [',', '[', ']', '{', '}'].contains c) then
      some (text.reverse, ⟨c :: rest, column, line, gap.isLines⟩)
    else plainFrom braces least (c :: (gap.text ++ text)) .none (column + 1) line rest

/-- Can a plain scalar begin here? -/
def atPlain (braces : Bool) : List Char → Bool
  | [] => false
  | c :: rest =>
    !(isSpace c || isBreak c || ['-', '?', ':', ',', '[', ']', '{', '}', '#', '&', '*', '!', '|',
        '>', '\'', '"', '%', '@', '\x60'].contains c)
      || (c == '-' && !atGap rest)
      || (!braces && (c == '?' || c == ':') && !atGap rest)

/-- Reads a plain scalar. -/
def plainScalar? (braces : Bool) (least : Nat) (c : Cursor) : Option (Scalar × Cursor) :=
  if atPlain braces c.rest then
    (plainFrom braces least [] .none c.column c.line c.rest).map fun (text, after) =>
      (⟨text, .plain, none⟩, after)
  else none

/-! ## Quoted scalars -/

/-- What a character after a backslash stands for. -/
def escape? : Char → Option Char
  | '0' => some '\x00'
  | 'a' => some '\x07'
  | 'b' => some '\x08'
  | 't' | '\t' => some '\t'
  | 'n' => some '\n'
  | 'v' => some '\x0B'
  | 'f' => some '\x0C'
  | 'r' => some '\r'
  | 'e' => some '\x1B'
  | ' ' => some ' '
  | '"' => some '"'
  | '/' => some '/'
  | '\\' => some '\\'
  | 'N' => some '\u0085'
  | '_' => some '\u00A0'
  | 'L' => some '\u2028'
  | 'P' => some '\u2029'
  | _ => none

/-- How many hexadecimal digits follow a letter after a backslash. -/
def escapeDigits? : Char → Option Nat
  | 'x' => some 2
  | 'u' => some 4
  | 'U' => some 8
  | _ => none

/-- What is being read between quotes. -/
inductive QuoteState where
  | text
  /-- A backslash has been read. -/
  | escape
  /-- So many digits of a code are to come after this value. -/
  | code (digits value : Nat)
deriving DecidableEq

/-- The character of a code, if it is one. -/
def charOfCode? (n : Nat) : Option Char :=
  if n.isValidChar then some (Char.ofNat n) else none

/-- Reads a quoted scalar after some text and a gap. -/
def quotedFrom (quote : Char) (state : QuoteState) (text : List Char) (gap : Gap)
    (column line : Nat) : List Char → Option (List Char × Cursor)
  | [] => none
  | c :: rest =>
    match state with
    | .code digits value => do
      let value := 16 * value + (← digitIn? 16 c)
      if digits ≤ 1 then
        let d ← charOfCode? value
        quotedFrom quote .text (d :: text) .none (column + 1) line rest
      else quotedFrom quote (.code (digits - 1) value) text .none (column + 1) line rest
    | .escape =>
      if isBreak c then quotedFrom quote .text text (.lines none []) 0 (line + 1) rest
      else
        match escapeDigits? c with
        | some digits => quotedFrom quote (.code digits 0) text .none (column + 1) line rest
        | none => do
          let d ← escape? c
          quotedFrom quote .text (d :: text) .none (column + 1) line rest
    | .text =>
      if isSpace c then quotedFrom quote .text text (gap.blank c) (column + 1) line rest
      else if isBreak c then quotedFrom quote .text text (gap.newLine c) 0 (line + 1) rest
      else if column == 0 && (isMark '-' (c :: rest) || isMark '.' (c :: rest)) then none
      else
        let text := gap.text ++ text
        if c == quote then
          match rest with
          | d :: rest' =>
            if quote == '\'' && d == '\'' then
              quotedFrom quote .text ('\'' :: text) .none (column + 2) line rest'
            else some (text.reverse, ⟨rest, column + 1, line, false⟩)
          | [] => some (text.reverse, ⟨rest, column + 1, line, false⟩)
        else if quote == '"' && c == '\\' then
          quotedFrom quote .escape text .none (column + 1) line rest
        else quotedFrom quote .text (c :: text) .none (column + 1) line rest

/-- Reads a scalar that begins with a quote. -/
def quotedScalar? (quote : Char) (c : Cursor) : Option (Scalar × Cursor) :=
  (quotedFrom quote .text [] .none (c.column + 1) c.line c.rest.tail).map fun (text, after) =>
    (⟨text, .quoted, none⟩, after)

/-! ## Blocks -/

/-- What becomes of the line ends after the last line of a block. -/
inductive Chomping where
  | strip
  | clip
  | keep
deriving DecidableEq, Repr

/-- The head of a block. -/
structure BlockHead where
  chomping : Chomping
  /-- The indentation, if it is given. -/
  increment : Option Nat
deriving DecidableEq

/-- The chomping that a character stands for. -/
def chomping? : Char → Option Chomping
  | '-' => some .strip
  | '+' => some .keep
  | _ => none

/-- An indentation that is given as a digit. -/
def increment? (c : Char) : Option Nat :=
  if c.isDigit then some (digitValue c) else none

/-- Reads what follows the first character of a block in its line: a chomping and an indentation in
either order, each at most once. -/
def blockHead (text : List Char) : BlockHead × List Char :=
  match text with
  | [] => (⟨.clip, none⟩, [])
  | c :: rest =>
    match chomping? c, increment? c with
    | some chomping, _ =>
      match rest.head?.bind increment? with
      | some n => (⟨chomping, some n⟩, rest.tail)
      | none => (⟨chomping, none⟩, rest)
    | none, some n =>
      match rest.head?.bind chomping? with
      | some chomping => (⟨chomping, some n⟩, rest.tail)
      | none => (⟨.clip, some n⟩, rest)
    | none, none => (⟨.clip, none⟩, text)

/-- The lines after the head, unless something else than a comment follows the head. -/
def blockBody? (text : List Char) : Option (List Char) :=
  let rest := text.dropWhile isSpace
  let rest := if rest.head? == some '#' then rest.dropWhile fun c => !isBreak c else rest
  match rest with
  | [] => some []
  | c :: rest => if isBreak c then some rest else none

/-- The indentation of a block whose head does not give it: that of the first line that is not
blank, but more than that of blank lines before it, and at least `least`. -/
def blockIndent? (least most column : Nat) : List Char → Option Nat
  | [] => some (max least (max most column))
  | c :: rest =>
    if c == ' ' then blockIndent? least most (column + 1) rest
    else if c == '\t' then none
    else if isBreak c then blockIndent? least (max most column) 0 rest
    else some (max least (max most column))

/-- A block as far as it has been read; lists are in reverse order. -/
structure BlockState where
  text : List Char := []
  /-- The end of the last line. -/
  lineEnd : Option Char := none
  /-- The ends of blank lines after it. -/
  blankLines : List Char := []
  /-- Does the last line begin with a blank? -/
  indented : Bool := false
  /-- Is the place inside a line? -/
  inLine : Bool := false
deriving DecidableEq

namespace BlockState

/-- A line begins with a character.  If lines are folded, a line end between two lines that do not
begin with blanks becomes a space, unless blank lines follow it. -/
def beginLine (b : BlockState) (folded : Bool) (c : Char) : BlockState :=
  let joined :=
    if folded && b.lineEnd == some '\n' && !b.indented && !isSpace c then
      (if b.blankLines.isEmpty then [' '] else []) ++ b.text
    else b.lineEnd.toList ++ b.text
  ⟨c :: (b.blankLines ++ joined), none, [], isSpace c, true⟩

/-- The text of the block. -/
def finish (b : BlockState) (chomping : Chomping) : List Char :=
  (match chomping with
    | .strip => b.text
    | .clip => b.lineEnd.toList ++ b.text
    | .keep => b.blankLines ++ b.lineEnd.toList ++ b.text).reverse

end BlockState

/-- Reads the lines of a block with an indentation. -/
def blockFrom (folded : Bool) (indent : Nat) (b : BlockState) (column line : Nat) :
    List Char → Option (BlockState × Cursor)
  | [] => some (b, ⟨[], column, line, true⟩)
  | c :: rest =>
    if b.inLine then
      if isBreak c then
        blockFrom folded indent { b with lineEnd := some c, inLine := false } 0 (line + 1) rest
      else blockFrom folded indent { b with text := c :: b.text } (column + 1) line rest
    else if c == ' ' && column < indent then blockFrom folded indent b (column + 1) line rest
    else if c == '\t' && column < indent then none
    else if isBreak c then
      blockFrom folded indent { b with blankLines := c :: b.blankLines } 0 (line + 1) rest
    else if column == indent then
      blockFrom folded indent (b.beginLine folded c) (column + 1) line rest
    else some (b, ⟨c :: rest, column, line, true⟩)

/-- Reads a block inside of something that stands at a column; an indentation of 0 is refused. -/
def blockScalar? (folded : Bool) (outer : Nat) (c : Cursor) : Option (Scalar × Cursor) := do
  let (head, rest) := blockHead c.rest.tail
  let body ← blockBody? rest
  let indent ← match head.increment with
    | some 0 => none
    | some n => some (outer + n)
    | none => blockIndent? (outer + 1) 0 0 body
  let (b, after) ← blockFrom folded indent {} 0 (c.line + 1) body
  return (⟨b.finish head.chomping, if folded then .folded else .literal, none⟩, after)

end Yaml
end GameJam
