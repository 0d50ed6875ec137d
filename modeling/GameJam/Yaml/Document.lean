import GameJam.Yaml.Scalar
import GameJam.Yaml.Tag

/-!
# Documents of settings

A YAML document that holds settings: names, each with one scalar as its value, one below the other
or between braces.  Any other document is refused, one with lists or with nested settings too, and
so is a text with more than one document.

## What is here

* `Node` — a scalar, or the repetition of an earlier one, as it stands in the text.
* `entriesFrom?` and `bracedFrom?` — the pairs of a document in either form.
* `Document.ofText?` — the pairs of a text, with repetitions replaced by what they repeat.
-/

set_option autoImplicit false

namespace GameJam
namespace Yaml

/-- A scalar as it stands in a text. -/
inductive Node where
  | scalar (anchor : Option (List Char)) (scalar : Scalar)
  /-- Repeats the scalar with this anchor. -/
  | repetition (name : List Char)
deriving DecidableEq

/-- The node where nothing stands. -/
def Node.empty : Node :=
  .scalar none ⟨[], .plain, none⟩

/-! ## Properties of a node -/

/-- An anchor and a tag before a scalar, in either order. -/
structure Properties where
  anchor : Option (List Char) := none
  tag : Option (List Char) := none
deriving DecidableEq

namespace Properties

/-- Is there neither of them? -/
def isEmpty (p : Properties) : Bool :=
  p.anchor.isNone && p.tag.isNone

/-- The node of a scalar with these properties.  The tag `!` says nothing. -/
def node (p : Properties) (s : Scalar) : Node :=
  .scalar p.anchor { s with tag := if p.tag == some ['!'] then none else p.tag }

/-- The node where nothing stands but these properties. -/
def emptyNode (p : Properties) : Node :=
  .scalar p.anchor ⟨[], .plain, p.tag⟩

end Properties

/-- Reads one property if one stands here that has not been given before, and goes to the next
part. -/
def property? (handles : Handles) (braces : Bool) (p : Properties) (c : Cursor) :
    Option (Properties × Cursor) :=
  if c.isAt '&' && p.anchor.isNone then do
    let (name, after) ← anchorName? c
    return ({ p with anchor := some name }, after.skip braces)
  else if c.isAt '!' && p.tag.isNone then do
    let (tag, after) ← tag? handles braces c
    return ({ p with tag := some tag }, after.skip braces)
  else some (p, c)

/-- Reads the properties before a scalar. -/
def properties? (handles : Handles) (braces : Bool) (c : Cursor) :
    Option (Properties × Cursor) := do
  let (p, c) ← property? handles braces {} c
  property? handles braces p c

/-! ## Scalars -/

/-- Reads a scalar that is no block, or a repetition, which has no properties. -/
def flowNode? (braces : Bool) (least : Nat) (p : Properties) (c : Cursor) :
    Option (Node × Cursor) :=
  match c.rest.head? with
  | some '\'' => (quotedScalar? '\'' c).map fun (s, after) => (p.node s, after)
  | some '"' => (quotedScalar? '"' c).map fun (s, after) => (p.node s, after)
  | some '*' =>
    if p.isEmpty then (anchorName? c).map fun (name, after) => (.repetition name, after) else none
  | _ => (plainScalar? braces least c).map fun (s, after) => (p.node s, after)

/-- Does a block begin here? -/
def atBlock (c : Cursor) : Bool :=
  c.isAt '|' || c.isAt '>'

/-- Reads a block. -/
def blockNode? (outer : Nat) (p : Properties) (c : Cursor) : Option (Node × Cursor) :=
  (blockScalar? (c.isAt '>') outer c).map fun (s, after) => (p.node s, after)

/-- How far a colon may be from the beginning of its key. -/
def keyReach : Nat := 1024

/-- Does a colon at the second place end a key that begins at the first one?  Both are on one
line. -/
def endsKey (start colon : Cursor) : Bool :=
  start.line == colon.line && start.rest.length ≤ colon.rest.length + keyReach

/-- Reads a key up to its colon, which comes before a gap. -/
def key? (handles : Handles) (least : Nat) (c : Cursor) : Option (Node × Cursor) := do
  let (p, start) ← properties? handles false c
  let (node, after) ← flowNode? false least p start
  let after := after.skip false
  if after.atIndicator ':' && endsKey c after then return (node, after.pass 1 false) else none

/-- Reads the value of a setting whose key stands at a column.  A value stands further to the right,
but a block may begin at the column itself. -/
def value? (handles : Handles) (outer : Nat) (c : Cursor) : Option (Node × Cursor) := do
  let (p, c) ← if outer < (c.skip false).column then properties? handles false (c.skip false)
    else some ({}, c.skip false)
  if c.atEnd || c.column < outer then return (p.emptyNode, c)
  else if atBlock c then
    let (node, after) ← blockNode? outer p c
    return (node, after.skip false)
  else if c.column = outer then return (p.emptyNode, c)
  else if c.atIndicator '-' || c.atIndicator '?' || c.atIndicator ':' then none
  else
    let (node, after) ← flowNode? false (outer + 1) p c
    return (node, after.skip false)

/-! ## Settings below one another -/

/-- Reads a key that is marked, and its value, which is marked too if there is one. -/
def markedEntry? (handles : Handles) (outer : Nat) (c : Cursor) :
    Option ((Node × Node) × Cursor) := do
  let (key, after) ← value? handles outer (c.pass 1 true)
  if after.column = outer && after.keyAllowed && after.atIndicator ':' then
    let (value, after) ← value? handles outer (after.pass 1 true)
    return ((key, value), after)
  else return ((key, .empty), after)

/-- Reads one setting. -/
def entry? (handles : Handles) (outer : Nat) (c : Cursor) : Option ((Node × Node) × Cursor) := do
  if c.atIndicator '?' then markedEntry? handles outer c
  else if c.atIndicator '-' then none
  else
    let (key, after) ← key? handles (outer + 1) c
    let (value, after) ← value? handles outer after
    return ((key, value), after)

/-- Reads settings that stand at a column, up to the end of the document. -/
def entriesFrom? (handles : Handles) (outer : Nat) :
    Nat → Cursor → Option (List (Node × Node) × Cursor)
  | 0, _ => none
  | fuel + 1, c =>
    if c.atEnd then some ([], c)
    else if c.column != outer || !c.keyAllowed || (c.column == 0 && c.isAt '%') then none
    else do
      let (entry, after) ← entry? handles outer c
      let (entries, after) ← entriesFrom? handles outer fuel after
      return (entry :: entries, after)

/-! ## Settings between braces -/

/-- Does the value of a setting between braces end here? -/
def atBraceStop (c : Cursor) : Bool :=
  c.isAt ',' || c.isAt '}'

/-- Reads a scalar between braces; it may be missing where something else ends it. -/
def bracedNode? (handles : Handles) (stop : Cursor → Bool) (c : Cursor) :
    Option (Node × Cursor) := do
  let (p, c) ← properties? handles true c
  if stop c then return (p.emptyNode, c)
  else if c.atEnd then none
  else
    let (node, after) ← flowNode? true 0 p c
    return (node, after.skip true)

/-- Reads one setting between braces.  The colon of a key that is not marked stands on the line of
the key. -/
def bracedEntry? (handles : Handles) (c : Cursor) : Option ((Node × Node) × Cursor) := do
  let marked := c.isAt '?'
  let start := if marked then (c.pass 1 false).skip true else c
  let (key, after) ← bracedNode? handles (fun c => atBraceStop c || c.isAt ':') start
  if after.isAt ':' then
    if marked || endsKey start after then
      let (value, after) ← bracedNode? handles atBraceStop ((after.pass 1 false).skip true)
      return ((key, value), after)
    else none
  else return ((key, .empty), after)

/-- Reads settings up to the closing brace; after each there is a comma or the end. -/
def bracedFrom? (handles : Handles) : Nat → Cursor → Option (List (Node × Node) × Cursor)
  | 0, _ => none
  | fuel + 1, c =>
    if c.isAt '}' then some ([], c.pass 1 false)
    else if c.atEnd || (c.column == 0 && c.isAt '%') then none
    else do
      let (entry, after) ← bracedEntry? handles c
      if after.isAt ',' then
        let (entries, after) ← bracedFrom? handles fuel ((after.pass 1 true).skip true)
        return (entry :: entries, after)
      else if after.isAt '}' then return ([entry], after.pass 1 false)
      else none

/-! ## Documents -/

/-- Is there nothing more in the text after the document, other than marks that end it? -/
def nothingFollows : Nat → Cursor → Bool
  | 0, _ => false
  | fuel + 1, c =>
    let c := c.skip false
    c.rest.isEmpty || (c.atMark '.' && nothingFollows fuel (c.pass 3 false))

/-- Reads the settings of a document.  Properties on lines before them, or before their opening
brace, belong to all of them and say nothing. -/
def settings? (handles : Handles) (size : Nat) :
    Nat → Properties → Cursor → Option (List (Node × Node) × Cursor)
  | 0, _, _ => none
  | fuel + 1, p, c =>
    if c.atEnd then some ([], c)
    else if c.isAt '{' then bracedFrom? handles size ((c.pass 1 true).skip true)
    else if (c.column == 0 && c.isAt '%') || atBlock c then none
    else if c.isAt '&' || c.isAt '!' then do
      let (more, after) ← properties? handles false c
      if !c.keyAllowed || c.line < after.line || after.rest.isEmpty || after.isAt '{' then
        if (more.anchor.isSome && p.anchor.isSome) || (more.tag.isSome && p.tag.isSome) then none
        else settings? handles size fuel ⟨more.anchor <|> p.anchor, more.tag <|> p.tag⟩ after
      else entriesFrom? handles c.column size c
    else entriesFrom? handles c.column size c

/-- Reads directives up to the place after them; the flag says whether there are any. -/
def directives? : Nat → Directives → Bool → Cursor → Option (Directives × Bool × Cursor)
  | 0, _, _, _ => none
  | fuel + 1, d, any, c =>
    let c := c.skip false
    if c.column == 0 && c.isAt '%' then do
      let (d, rest) ← directive? d c.rest.tail
      directives? fuel d true ⟨rest, 1, c.line, false⟩
    else some (d, any, c)

/-- The pairs of a text as they stand there.  A document may begin with a mark, and does if there
are directives. -/
def pairs? (text : List Char) : Option (List (Node × Node)) := do
  let size := text.length + 2
  let (d, any, c) ← directives? size {} false (.start text)
  let marked := c.atMark '-'
  if any && !marked then none
  else if !marked && c.rest.isEmpty then return []
  else if !marked && c.atEnd then none
  else
    let c := if marked then (c.pass 3 false).skip false else c
    let (pairs, after) ← settings? d.allHandles size size {} c
    if nothingFollows size after then return pairs else none

/-! ## Repetitions -/

/-- Scalars by their anchors, the latest first. -/
abbrev Anchors := List (List Char × Scalar)

/-- The scalar of a node, and the anchors after it. -/
def Node.resolve? (anchors : Anchors) : Node → Option (Scalar × Anchors)
  | .scalar none s => some (s, anchors)
  | .scalar (some name) s => some (s, (name, s) :: anchors)
  | .repetition name => (anchors.lookup name).map fun s => (s, anchors)

/-- The scalars of pairs of nodes. -/
def resolvePairs? (anchors : Anchors) : List (Node × Node) → Option (List (Scalar × Scalar))
  | [] => some []
  | (key, value) :: rest => do
    let (key, anchors) ← key.resolve? anchors
    let (value, anchors) ← value.resolve? anchors
    return (key, value) :: (← resolvePairs? anchors rest)

/-- Settings with their values, in the order of the text. -/
structure Document where
  pairs : List (Scalar × Scalar)
deriving DecidableEq

/-- The settings of a text, which may begin with a byte order mark. -/
def Document.ofText? (text : List Char) : Option Document :=
  if text.all isReadable then
    let text := match text with
      | '\uFEFF' :: rest => rest
      | text => text
    ((pairs? (withLineFeeds text)).bind (resolvePairs? [])).map fun pairs => ⟨pairs⟩
  else none

end Yaml
end GameJam
