import GameJam.Text.Utf8
import GameJam.Yaml.Cursor

/-!
# Tags and anchors

Before a scalar may stand an anchor, by which it can be repeated, and a tag, which says what it is.
A tag is a name, or a name behind a handle that stands for the beginning of a longer one.

## What is here

* `Handles` — what handles stand for.
* `anchorName?` and `tag?` — each reads what its name says.
* `directive?` — a line that speaks about the text: its version, or a handle.
-/

set_option autoImplicit false

namespace GameJam
namespace Yaml

/-- Handles with what they stand for. -/
abbrev Handles := List (List Char × List Char)

/-- The two handles that every document has. -/
def standardHandles : Handles :=
  [(['!'], ['!']), (['!', '!'], "tag:yaml.org,2002:".toList)]

/-- Reads the name after the sign of an anchor or of a repetition. -/
def anchorName? (c : Cursor) : Option (List Char × Cursor) :=
  let name := c.rest.tail.takeWhile isNameChar
  let after := c.pass (name.length + 1) false
  if !name.isEmpty
      && (atGap after.rest
        || after.rest.head?.any ['?', ':', ',', ']', '}', '%', '@', '\x60'].contains)
  then some (name, after)
  else none

/-- May the character stand in a tag?  Some may only between angle brackets. -/
def isTagChar (bracketed : Bool) (c : Char) : Bool :=
  isNameChar c || [';', '/', '?', ':', '@', '&', '=', '+', '$', '.', '%', '!', '~', '*', '\'', '(',
    ')'].contains c || (bracketed && [',', '[', ']'].contains c)

/-- The bytes of a tag, in which a percent sign and two digits write a byte; `skipped` characters
are still to be passed over. -/
def tagBytes? (skipped : Nat) : List Char → Option (List UInt8)
  | [] => some []
  | c :: rest =>
    match skipped with
    | skipped + 1 => tagBytes? skipped rest
    | 0 =>
      if c == '%' then
        match rest with
        | a :: b :: _ => do
          let byte := 16 * (← digitIn? 16 a) + (← digitIn? 16 b)
          return UInt8.ofNat byte :: (← tagBytes? 2 rest)
        | _ => none
      else do return String.utf8EncodeChar c ++ (← tagBytes? 0 rest)

/-- Reads the characters of a tag: the text they write, and how many they are. -/
def tagText? (bracketed : Bool) (text : List Char) : Option (List Char × Nat) := do
  let written := text.takeWhile (isTagChar bracketed)
  let read ← Utf8.decode? (← tagBytes? 0 written)
  return (read, written.length)

/-- A handle at the beginning of a text: an exclamation mark, and a name with another one. -/
def handleAt (text : List Char) : List Char :=
  match text with
  | '!' :: rest =>
    let name := rest.takeWhile isNameChar
    '!' :: (name ++ if (rest.drop name.length).head? == some '!' then ['!'] else [])
  | _ => []

/-- Does the handle end as it begins, and is it more than that? -/
def isHandle (handle : List Char) : Bool :=
  2 ≤ handle.length && handle.getLast? == some '!'

/-- Reads a tag, without looking at what follows. -/
def tagAt? (handles : Handles) (c : Cursor) : Option (List Char × Cursor) :=
  match c.rest with
  | '!' :: '<' :: rest => do
    let (text, count) ← tagText? true rest
    if count = 0 || (rest.drop count).head? != some '>' then none
    else some (text, c.pass (count + 3) false)
  | rest => do
    let handle := handleAt rest
    if isHandle handle then
      let (text, count) ← tagText? false (rest.drop handle.length)
      if count = 0 then none
      else
        let start ← handles.lookup handle
        some (start ++ text, c.pass (handle.length + count) false)
    else
      let (text, count) ← tagText? false (rest.drop handle.length)
      let name := handle.tail ++ text
      if name.isEmpty then some (['!'], c.pass 1 false)
      else
        let start ← handles.lookup ['!']
        some (start ++ name, c.pass (handle.length + count) false)

/-- Reads a tag, after which there has to be a gap, or between braces a comma. -/
def tag? (handles : Handles) (braces : Bool) (c : Cursor) : Option (List Char × Cursor) := do
  let (tag, after) ← tagAt? handles c
  if atGap after.rest || (braces && after.isAt ',') then some (tag, after) else none

/-! ## Directives -/

/-- What directives have said so far. -/
structure Directives where
  versionSeen : Bool := false
  handles : Handles := []

namespace Directives

/-- The handles of the document, those of directives before the standard ones. -/
def allHandles (d : Directives) : Handles :=
  d.handles ++ standardHandles

end Directives

/-- Reads a number of at most nine digits. -/
def shortNumber? (text : List Char) : Option (Nat × List Char) :=
  let digits := text.takeWhile Char.isDigit
  if digits.isEmpty || 9 < digits.length then none
  else some (digitsValue digits, text.drop digits.length)

/-- The rest of the line of a directive: nothing but a comment. -/
def restOfLine? (text : List Char) : Option (List Char) :=
  let rest := text.dropWhile isSpace
  let rest := if rest.head? == some '#' then rest.dropWhile fun c => !isBreak c else rest
  if rest.head?.all isBreak then some rest else none

/-- Reads a directive that stands after its percent sign: a version once, which is 1.1 or 1.2, or
what a handle stands for, once for each handle. -/
def directive? (d : Directives) (text : List Char) : Option (Directives × List Char) := do
  let name := text.takeWhile isNameChar
  let rest := text.drop name.length
  if !atGap rest then none
  else if name == "YAML".toList then
    let (major, rest) ← shortNumber? (rest.dropWhile isSpace)
    if rest.head? != some '.' then none
    else
      let (minor, rest) ← shortNumber? rest.tail
      if d.versionSeen || major != 1 || (minor != 1 && minor != 2) then none
      else return ({ d with versionSeen := true }, ← restOfLine? rest)
  else if name == "TAG".toList then
    let rest := rest.dropWhile isSpace
    let handle := handleAt rest
    let rest := rest.drop handle.length
    if !(handle == ['!'] || isHandle handle) || !rest.head?.any isSpace
        || (d.handles.lookup handle).isSome then none
    else
      let rest := rest.dropWhile isSpace
      let (start, count) ← tagText? true rest
      let rest := rest.drop count
      if count = 0 || !atGap rest then none
      else return ({ d with handles := d.handles ++ [(handle, start)] }, ← restOfLine? rest)
  else none

end Yaml
end GameJam
