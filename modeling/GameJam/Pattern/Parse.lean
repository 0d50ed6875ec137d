import GameJam.Pattern.Expr

/-!
# Reading patterns

A pattern is read from left to right; the groups around the place are kept on a stack, and so are
the brackets around a place inside a class.  Reading fails, without a reason, on anything that is
no pattern: a parenthesis without its partner, a repetition of nothing, an unknown escape, a
look-around, a back reference, a class without an end.

Every turn of the two loops takes at least one character, so both run on a count that starts at
the length of the pattern.

## What is here

* `skipSpace` — in verbose mode blanks and comments may stand between any two parts.
* `readEscape`, `readClass`, `readCount`, `readGroup` — the parts that begin with a backslash,
  with a bracket, with a brace and with a parenthesis.
* `Expr.ofText?` — the whole pattern.
-/

set_option autoImplicit false

namespace GameJam
namespace Pattern

/-- What is left without leading blanks and comments. -/
def dropSpace (inComment : Bool) : List Char → List Char
  | [] => []
  | c :: rest =>
    if inComment then dropSpace (c ≠ '\n') rest
    else if c = '#' then dropSpace true rest
    else if isBlank c then dropSpace false rest
    else c :: rest

/-- In verbose mode blanks and comments are passed over. -/
def skipSpace (verbose : Bool) (text : List Char) : List Char :=
  if verbose then dropSpace false text else text

/-- The rest after a text that has to stand here. -/
def expect? (part text : List Char) : Option (List Char) :=
  if part.isPrefixOf text then some (text.drop part.length) else none

/-! ## Numbers and names -/

/-- Decimal digits with spaces between them in verbose mode: the digits and what is left. -/
def takeDigits (verbose : Bool) : Nat → List Char → List Char × List Char
  | 0, text => ([], text)
  | fuel + 1, text =>
    match text with
    | c :: rest =>
      if c.isDigit then
        let (digits, rest) := takeDigits verbose fuel (skipSpace verbose rest)
        (c :: digits, rest)
      else ([], text)
    | [] => ([], [])

/-- A number of a repetition, blanks around it: the number if there is one, and what is left. -/
def readDecimal? (verbose : Bool) (text : List Char) : Option (Option Nat × List Char) :=
  let text := text.dropWhile isBlank
  let (digits, rest) := takeDigits verbose text.length text
  let rest := rest.dropWhile isBlank
  if digits.isEmpty then some (none, rest)
  else
    let n := digitsValue digits
    if n < UInt32.size then some (some n, rest) else none
where
  /-- The number that some digits write. -/
  digitsValue (digits : List Char) : Nat :=
    digits.foldl (fun n c => 10 * n + (c.toNat - '0'.toNat)) 0

/-- The value of a hexadecimal digit. -/
def hexDigit? (c : Char) : Option Nat :=
  if c.isDigit then some (c.toNat - '0'.toNat)
  else if 'a' ≤ c ∧ c ≤ 'f' then some (c.toNat - 'a'.toNat + 10)
  else if 'A' ≤ c ∧ c ≤ 'F' then some (c.toNat - 'A'.toNat + 10)
  else none

/-- The character with this code point. -/
def charOf? (n : Nat) : Option Char :=
  if h : n.isValidChar then some (Char.ofNatAux n h) else none

/-- A fixed number of hexadecimal digits, and what is left. -/
def takeHex? (verbose : Bool) : Nat → Nat → List Char → Option (Nat × List Char)
  | 0, value, text => some (value, text)
  | count + 1, value, text =>
    match text with
    | c :: rest => do
      let digit ← hexDigit? c
      takeHex? verbose count (16 * value + digit) (skipSpace verbose rest)
    | [] => none

/-- Hexadecimal digits up to a closing brace: their number, their value, and what is left. -/
def takeHexBraced? (verbose : Bool) : Nat → Nat → Nat → List Char → Option (Nat × Nat × List Char)
  | 0, _, _, _ => none
  | fuel + 1, count, value, text =>
    match text with
    | '}' :: rest => some (count, value, skipSpace verbose rest)
    | c :: rest => do
      let digit ← hexDigit? c
      takeHexBraced? verbose fuel (count + 1) (16 * value + digit) (skipSpace verbose rest)
    | [] => none

/-- A character by its code point, after the letter that says how many digits follow. -/
def readHex? (verbose : Bool) (digits : Nat) (text : List Char) : Option (Char × List Char) :=
  match skipSpace verbose text with
  | '{' :: rest => do
    let rest := skipSpace verbose rest
    let (count, value, rest) ← takeHexBraced? verbose (rest.length + 1) 0 0 rest
    if count = 0 then none
    else return (← charOf? value, rest)
  | text => do
    let (value, rest) ← takeHex? verbose digits 0 text
    return (← charOf? value, rest)

/-- The characters up to a closing brace, and what is left after it. -/
def takeBraced? (verbose : Bool) : Nat → List Char → Option (List Char × List Char)
  | 0, _ => none
  | fuel + 1, text =>
    match text with
    | '}' :: rest => some ([], rest)
    | c :: rest => do
      let (name, rest) ← takeBraced? verbose fuel (skipSpace verbose rest)
      return (c :: name, rest)
    | [] => none

/-- Splits a name at the first occurrence of a text. -/
def splitName? (separator : List Char) : List Char → Option (List Char × List Char)
  | [] => none
  | c :: rest =>
    if separator.isPrefixOf (c :: rest) then some ([], (c :: rest).drop separator.length)
    else (splitName? separator rest).map fun (name, value) => (c :: name, value)

/-- The property that stands between braces. -/
def propertyOf (negated : Bool) (name : List Char) : ClassExpr :=
  match splitName? ['!', '='] name with
  | some (name, value) => .property (!negated) (String.ofList name) (some (String.ofList value))
  | none =>
    match splitName? [':'] name with
    | some (name, value) => .property negated (String.ofList name) (some (String.ofList value))
    | none =>
      match splitName? ['='] name with
      | some (name, value) => .property negated (String.ofList name) (some (String.ofList value))
      | none => .property negated (String.ofList name) none

/-- A Unicode class, after its letter. -/
def readProperty? (verbose negated : Bool) (text : List Char) :
    Option (ClassExpr × List Char) :=
  match skipSpace verbose text with
  | '{' :: rest => do
    let rest := skipSpace verbose rest
    let (name, rest) ← takeBraced? verbose (rest.length + 1) rest
    return (propertyOf negated name, rest)
  | '\\' :: _ => none
  | c :: rest => some (.property negated (String.ofList [c]) none, skipSpace verbose rest)
  | [] => none

/-! ## Escapes -/

/-- Characters with a meaning of their own somewhere in a pattern. -/
def isMeta (c : Char) : Bool :=
  ['\\', '.', '+', '*', '?', '(', ')', '|', '[', ']', '{', '}', '^', '$', '#', '&', '-',
    '~'].contains c

/-- May the character stand for itself behind a backslash? -/
def isEscapable (c : Char) : Bool :=
  isMeta c || (c.toNat < 0x80 && !c.isAlphanum && c ≠ '<' && c ≠ '>')

/-- The places that a boundary with a name in braces asks for. -/
def boundaryNamed? (name : List Char) : Option Anchor :=
  if name = "start".toList then some .wordStart
  else if name = "end".toList then some .wordEnd
  else if name = "start-half".toList then some .wordStartHalf
  else if name = "end-half".toList then some .wordEndHalf
  else none

/-- The letters and hyphens of a name, and what is left. -/
def takeBoundaryName (verbose : Bool) : Nat → List Char → List Char × List Char
  | 0, text => ([], text)
  | fuel + 1, text =>
    match text with
    | c :: rest =>
      if c.isAlpha || c = '-' then
        let (name, rest) := takeBoundaryName verbose fuel (skipSpace verbose rest)
        (c :: name, rest)
      else ([], text)
    | [] => ([], [])

/-- A word boundary, after its letter: a name in braces may say which one.  A brace with anything
but a name in it is left for a repetition. -/
def readBoundary? (verbose : Bool) (text : List Char) : Option (Expr × List Char) :=
  match text with
  | '{' :: rest =>
    match skipSpace verbose rest with
    | [] => none
    | c :: rest =>
      if c.isAlpha || c = '-' then
        let (name, rest) := takeBoundaryName verbose (rest.length + 1) (c :: rest)
        match rest with
        | '}' :: rest => (boundaryNamed? name).map fun a => (.anchor a, rest)
        | _ => none
      else some (.anchor .wordBoundary, text)
  | _ => some (.anchor .wordBoundary, text)

/-- What a backslash begins, from the character after it. -/
def readEscape? (verbose : Bool) : List Char → Option (Expr × List Char)
  | [] => none
  | c :: rest =>
    match c with
    | 'x' => (readHex? verbose 2 rest).map fun (d, left) =>
      (.literal d (!(skipSpace verbose rest).head?.any (· = '{')), left)
    | 'u' => (readHex? verbose 4 rest).map fun (c, rest) => (.literal c false, rest)
    | 'U' => (readHex? verbose 8 rest).map fun (c, rest) => (.literal c false, rest)
    | 'p' => (readProperty? verbose false rest).map fun (c, rest) => (.cls c, rest)
    | 'P' => (readProperty? verbose true rest).map fun (c, rest) => (.cls c, rest)
    | 'd' => some (.cls (.perl .digit false), rest)
    | 'D' => some (.cls (.perl .digit true), rest)
    | 's' => some (.cls (.perl .space false), rest)
    | 'S' => some (.cls (.perl .space true), rest)
    | 'w' => some (.cls (.perl .word false), rest)
    | 'W' => some (.cls (.perl .word true), rest)
    | 'a' => some (.literal '\x07' false, rest)
    | 'f' => some (.literal '\x0c' false, rest)
    | 't' => some (.literal '\t' false, rest)
    | 'n' => some (.literal '\n' false, rest)
    | 'r' => some (.literal '\r' false, rest)
    | 'v' => some (.literal '\x0b' false, rest)
    | 'A' => some (.anchor .textStart, rest)
    | 'z' => some (.anchor .textEnd, rest)
    | 'b' => readBoundary? verbose rest
    | 'B' => some (.anchor .notWordBoundary, rest)
    | '<' => some (.anchor .wordStart, rest)
    | '>' => some (.anchor .wordEnd, rest)
    | c => if isEscapable c then some (.literal c false, rest) else none

/-! ## Classes between brackets -/

/-- The classes with an ASCII name. -/
def asciiClass? (name : List Char) : Option (List (Char × Char)) :=
  match String.ofList name with
  | "alnum" => some [('0', '9'), ('A', 'Z'), ('a', 'z')]
  | "alpha" => some [('A', 'Z'), ('a', 'z')]
  | "ascii" => some [('\x00', '\x7f')]
  | "blank" => some [('\t', '\t'), (' ', ' ')]
  | "cntrl" => some [('\x00', '\x1f'), ('\x7f', '\x7f')]
  | "digit" => some [('0', '9')]
  | "graph" => some [('!', '~')]
  | "lower" => some [('a', 'z')]
  | "print" => some [(' ', '~')]
  | "punct" => some [('!', '/'), (':', '@'), ('[', '\x60'), ('{', '~')]
  | "space" => some [('\t', '\r'), (' ', ' ')]
  | "upper" => some [('A', 'Z')]
  | "word" => some [('0', '9'), ('A', 'Z'), ('_', '_'), ('a', 'z')]
  | "xdigit" => some [('0', '9'), ('A', 'F'), ('a', 'f')]
  | _ => none

/-- A class with an ASCII name, from its inner bracket on, if one stands here. -/
def readAscii? (text : List Char) : Option (ClassExpr × List Char) := do
  let rest ← expect? ['[', ':'] text
  let (negated, rest) := match rest with
    | '^' :: rest => (true, rest)
    | _ => (false, rest)
  let name := rest.takeWhile (· ≠ ':')
  let rest ← expect? [':', ']'] (rest.dropWhile (· ≠ ':'))
  let ranges ← asciiClass? name
  return (.ascii ranges negated, rest)

/-- An open bracket: what has been read inside it, last first, and the operation that waits for
its second class. -/
structure OpenClass where
  negated : Bool
  items : List ClassExpr
  waiting : Option (SetOp × ClassExpr)

namespace OpenClass

/-- The items since the last operation, as one class. -/
def itemsClass (o : OpenClass) : ClassExpr :=
  match o.items with
  | [item] => item
  | items => .union items.reverse

/-- Everything inside the bracket, as one class. -/
def set (o : OpenClass) : ClassExpr :=
  match o.waiting with
  | some (op, a) => .binary op a o.itemsClass
  | none => o.itemsClass

/-- One more item. -/
def push (o : OpenClass) (item : ClassExpr) : OpenClass :=
  { o with items := item :: o.items }

/-- An operation: what has been read is its first class. -/
def operate (o : OpenClass) (op : SetOp) : OpenClass :=
  { o with items := [], waiting := some (op, o.set) }

end OpenClass

/-- Hyphens that begin a class stand for themselves. -/
def takeHyphens? (verbose : Bool) : Nat → List ClassExpr → List Char →
    Option (List ClassExpr × List Char)
  | 0, items, text => some (items, text)
  | fuel + 1, items, text =>
    match text with
    | '-' :: rest => takeHyphens? verbose fuel (.range '-' '-' :: items) (skipSpace verbose rest)
    | [] => none
    | text => some (items, text)

/-- The beginning of a class, after its bracket. -/
def openClass? (verbose : Bool) (text : List Char) : Option (OpenClass × List Char) := do
  let text := skipSpace verbose text
  let (negated, text) := match text with
    | '^' :: rest => (true, skipSpace verbose rest)
    | _ => (false, text)
  let (items, text) ← takeHyphens? verbose (text.length + 1) [] text
  match text with
  | ']' :: rest =>
    if items.isEmpty then
      let rest := skipSpace verbose rest
      if rest.isEmpty then none
      else some (⟨negated, [.range ']' ']'], none⟩, rest)
    else some (⟨negated, items, none⟩, text)
  | _ => some (⟨negated, items, none⟩, text)

/-- One character or class inside brackets. -/
def readClassItem? (verbose : Bool) : List Char → Option (Expr × List Char)
  | '\\' :: rest => readEscape? verbose rest
  | c :: rest => some (.literal c false, rest)
  | [] => none

/-- The character after the next one, blanks and one comment mark passed over in verbose mode. -/
def peekSpace (verbose : Bool) (rest : List Char) : Option Char :=
  if verbose then
    match rest.dropWhile isBlank with
    | '#' :: rest => (rest.dropWhile isBlank).head?
    | rest => rest.head?
  else rest.head?

/-- A single item or a range. -/
def readClassRange? (verbose : Bool) (text : List Char) : Option (ClassExpr × List Char) := do
  let (first, rest) ← readClassItem? verbose text
  let alone : Option ClassExpr := match first with
    | .literal c _ => some (.range c c)
    | .cls c => some c
    | _ => none
  match skipSpace verbose rest with
  | [] => none
  | '-' :: after =>
    let next := peekSpace verbose after
    if next = some ']' ∨ next = some '-' then return (← alone, '-' :: after)
    else
      let after := skipSpace verbose after
      let (second, rest) ← readClassItem? verbose after
      match first, second with
      | .literal low _, .literal high _ =>
        if low ≤ high then some (.range low high, rest) else none
      | _, _ => none
  | rest => return (← alone, rest)

/-- The inside of a bracket and of all brackets in it, up to its end. -/
def readClassBody? (verbose : Bool) : Nat → OpenClass → List OpenClass → List Char →
    Option (ClassExpr × List Char)
  | 0, _, _, _ => none
  | fuel + 1, o, stack, text =>
    match skipSpace verbose text with
    | [] => none
    | '[' :: rest =>
      match readAscii? ('[' :: rest) with
      | some (item, rest) => readClassBody? verbose fuel (o.push item) stack rest
      | none => do
        let (inner, rest) ← openClass? verbose rest
        readClassBody? verbose fuel inner (o :: stack) rest
    | ']' :: rest =>
      let done := ClassExpr.bracket o.negated o.set
      match stack with
      | [] => some (done, rest)
      | outer :: stack => readClassBody? verbose fuel (outer.push done) stack rest
    | '&' :: '&' :: rest => readClassBody? verbose fuel (o.operate .inter) stack rest
    | '-' :: '-' :: rest => readClassBody? verbose fuel (o.operate .diff) stack rest
    | '~' :: '~' :: rest => readClassBody? verbose fuel (o.operate .either) stack rest
    | text => do
      let (item, rest) ← readClassRange? verbose text
      readClassBody? verbose fuel (o.push item) stack rest

/-- A class between brackets, after the first one. -/
def readClass? (verbose : Bool) (text : List Char) : Option (ClassExpr × List Char) := do
  let (o, rest) ← openClass? verbose text
  readClassBody? verbose (rest.length + 1) o [] rest

/-! ## Repetitions and groups -/

/-- A repetition between braces, after the first one: the least and the greatest number. -/
def readCount? (verbose : Bool) (text : List Char) : Option (Nat × Option Nat × List Char) := do
  let text := skipSpace verbose text
  if text.isEmpty then none
  else
    let (least, rest) ← readDecimal? verbose text
    match rest with
    | ',' :: rest =>
      let rest := skipSpace verbose rest
      match rest with
      | '}' :: rest => return (← least, none, rest)
      | _ =>
        let least ← least
        let (most, rest) ← readDecimal? verbose rest
        let most ← most
        match rest with
        | '}' :: rest => if least ≤ most then some (least, some most, rest) else none
        | _ => none
    | '}' :: rest =>
      let least ← least
      return (least, some least, rest)
    | _ => none

/-- The flag that a letter stands for. -/
def flagOf? : Char → Option Flag
  | 'i' => some .ignoreCase
  | 'm' => some .multiLine
  | 's' => some .dotAll
  | 'U' => some .swapGreed
  | 'u' => some .unicode
  | 'R' => some .carriageReturn
  | 'x' => some .verbose
  | _ => none

/-- The flags of a group up to the colon or parenthesis, which is left.  A flag may be written
once, and so may the minus, which has to be followed by a flag. -/
def readFlags? (on lastMinus : Bool) (change : FlagChange) :
    List Char → Option (FlagChange × List Char)
  | [] => none
  | ':' :: rest => if lastMinus then none else some (change.reverse, ':' :: rest)
  | ')' :: rest => if lastMinus then none else some (change.reverse, ')' :: rest)
  | '-' :: rest => if on then readFlags? false true change rest else none
  | c :: rest => do
    let flag ← flagOf? c
    if (change.find? fun entry => entry.1 == flag).isSome then none
    else readFlags? on false ((flag, on) :: change) rest

/-- May the character stand in the name of a group? -/
def isNameChar (first : Bool) (c : Char) : Bool :=
  let letter := CharClass.alphabetic.holds c.toNat
  if first then c = '_' || letter
  else
    c = '_' || c = '.' || c = '[' || c = ']' || letter
      || (match Unicode.category c.toNat with
        | .Nd | .Nl | .No => true
        | _ => false)

/-- The name of a group, up to its closing angle. -/
def readName? (text : List Char) : Option (List Char × List Char) :=
  let name := text.takeWhile (· ≠ '>')
  match name, text.dropWhile (· ≠ '>') with
  | c :: more, '>' :: rest =>
    if isNameChar true c && more.all (isNameChar false) then some (name, rest) else none
  | _, _ => none

/-- What a parenthesis begins. -/
inductive GroupStart where
  /-- Flags for the rest of the group around it. -/
  | flags (change : FlagChange)
  | plain (change : Option FlagChange)
  | named (name : List Char)

/-- What a parenthesis begins, from the character after it. -/
def readGroup? (verbose : Bool) (text : List Char) : Option (GroupStart × List Char) :=
  match skipSpace verbose text with
  | '?' :: '=' :: _ | '?' :: '!' :: _ => none
  | '?' :: '<' :: '=' :: _ | '?' :: '<' :: '!' :: _ => none
  | '?' :: 'P' :: '<' :: rest => (readName? rest).map fun (name, rest) => (.named name, rest)
  | '?' :: '<' :: rest => (readName? rest).map fun (name, rest) => (.named name, rest)
  | '?' :: rest =>
    match readFlags? true false [] rest with
    | some (change, ')' :: rest) => if change.isEmpty then none else some (.flags change, rest)
    | some (change, _ :: rest) => some (.plain (some change), rest)
    | _ => none
  | text => some (.plain none, text)

/-! ## Whole patterns -/

/-- A group that is being read: the alternatives before the present one and the parts of the
present one, both last first, what kind of group it is, and the mode around it. -/
structure OpenGroup where
  alternatives : List Expr
  parts : List Expr
  change : Option FlagChange
  verboseAround : Bool

namespace OpenGroup

/-- The parts of the present alternative, as one pattern. -/
def sequence (g : OpenGroup) : Expr :=
  match g.parts with
  | [] => .empty
  | [part] => part
  | parts => .concat parts.reverse

/-- The whole inside of the group. -/
def body (g : OpenGroup) : Expr :=
  if g.alternatives.isEmpty then g.sequence
  else .alternation (g.sequence :: g.alternatives).reverse

/-- One more part. -/
def push (g : OpenGroup) (part : Expr) : OpenGroup :=
  { g with parts := part :: g.parts }

/-- A repetition of the last part, which has to be there and to be no change of flags. -/
def repeatLast? (g : OpenGroup) (least : Nat) (most : Option Nat) : Option OpenGroup :=
  match g.parts with
  | [] => none
  | .empty :: _ | .flags _ :: _ => none
  | part :: parts => some { g with parts := .repeated part least most :: parts }

end OpenGroup

/-- What is left after the question mark that makes a repetition lazy. -/
def dropLazy : List Char → List Char
  | '?' :: rest => rest
  | text => text

/-- The rest of a pattern, inside the present group and those around it. -/
def readBody? (verbose : Bool) (names : List (List Char)) :
    Nat → OpenGroup → List OpenGroup → List Char → Option Expr
  | 0, _, _, _ => none
  | fuel + 1, g, stack, text =>
    match skipSpace verbose text with
    | [] => if stack.isEmpty then some g.body else none
    | '(' :: rest => do
      let (start, rest) ← readGroup? verbose rest
      match start with
      | .flags change =>
        readBody? ((change.state? .verbose).getD verbose) names fuel (g.push (.flags change)) stack
          rest
      | .plain change =>
        readBody? (((change.getD []).state? .verbose).getD verbose) names fuel
          ⟨[], [], change, verbose⟩ (g :: stack) rest
      | .named name =>
        if names.contains name then none
        else readBody? verbose (name :: names) fuel ⟨[], [], none, verbose⟩ (g :: stack) rest
    | ')' :: rest =>
      match stack with
      | [] => none
      | outer :: stack =>
        readBody? g.verboseAround names fuel (outer.push (.group g.change g.body)) stack rest
    | '|' :: rest =>
      readBody? verbose names fuel
        { g with alternatives := g.sequence :: g.alternatives, parts := [] } stack rest
    | '[' :: rest => do
      let (c, rest) ← readClass? verbose rest
      readBody? verbose names fuel (g.push (.cls c)) stack rest
    | '?' :: rest => do
      readBody? verbose names fuel (← g.repeatLast? 0 (some 1)) stack (dropLazy rest)
    | '*' :: rest => do
      readBody? verbose names fuel (← g.repeatLast? 0 none) stack (dropLazy rest)
    | '+' :: rest => do
      readBody? verbose names fuel (← g.repeatLast? 1 none) stack (dropLazy rest)
    | '{' :: rest => do
      let (least, most, rest) ← readCount? verbose rest
      readBody? verbose names fuel (← g.repeatLast? least most) stack
        (dropLazy (skipSpace verbose rest))
    | '\\' :: rest => do
      let (part, rest) ← readEscape? verbose rest
      readBody? verbose names fuel (g.push part) stack rest
    | '.' :: rest => readBody? verbose names fuel (g.push .dot) stack rest
    | '^' :: rest => readBody? verbose names fuel (g.push (.anchor .lineStart)) stack rest
    | '$' :: rest => readBody? verbose names fuel (g.push (.anchor .lineEnd)) stack rest
    | c :: rest => readBody? verbose names fuel (g.push (.literal c false)) stack rest

/-- How deeply a pattern may be nested. -/
def depthLimit : Nat := 250

/-- The tree of a pattern, if it is one and not nested too deeply. -/
def Expr.ofText? (text : List Char) : Option Expr := do
  let expr ← readBody? false [] (text.length + 1) ⟨[], [], none, false⟩ [] text
  if expr.depth ≤ depthLimit then some expr else none

end Pattern
end GameJam
