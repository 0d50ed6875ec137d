import GameJam.Pattern.Expr
import GameJam.Pattern.Regular
import GameJam.Pattern.Size

/-!
# What a written pattern means

The flags of a pattern decide what its letters, dots and anchors mean.  They are carried from left
to right: a change of flags holds up to the end of the group it stands in, in later alternatives
too.

Without the Unicode flag a pattern is about ASCII alone.  Since it must not match inside a
character, whatever could match other bytes (a dot, a complement, a byte above 7F) is refused.

## What is here

* `Flags` — the flags in force.
* `classOf?` — the meaning of a class.
* `Part` — the meaning of a part of a pattern, together with how much room it takes.
* `Expr.part?` — the meaning of a pattern; there is none where a name is unknown or something is
  refused.
-/

set_option autoImplicit false

namespace GameJam
namespace Pattern

/-- The flags in force. -/
structure Flags where
  ignoreCase : Bool
  multiLine : Bool := false
  dotAll : Bool := false
  unicode : Bool := true
  carriageReturn : Bool := false

/-- The flags after a change. -/
def Flags.change (flags : Flags) (change : FlagChange) : Flags where
  ignoreCase := (change.state? .ignoreCase).getD flags.ignoreCase
  multiLine := (change.state? .multiLine).getD flags.multiLine
  dotAll := (change.state? .dotAll).getD flags.dotAll
  unicode := (change.state? .unicode).getD flags.unicode
  carriageReturn := (change.state? .carriageReturn).getD flags.carriageReturn

/-! ## Classes -/

namespace Flags

/-- A class with the characters added that are equal when case is ignored, if it is. -/
def fold (flags : Flags) (c : CharClass) : CharClass :=
  if !flags.ignoreCase then c
  else if flags.unicode then .folded c
  else .foldedAscii c

/-- A class or its complement; there is no complement in ASCII. -/
def negate? (flags : Flags) (negated : Bool) (c : CharClass) : Option CharClass :=
  if !negated then some c
  else if flags.unicode then some (.complement c)
  else none

/-- The class of a letter such as `d`. -/
def perl (flags : Flags) : PerlClass → CharClass
  | .digit => if flags.unicode then .digit else .range '0' '9'
  | .space =>
    if flags.unicode then .space else CharClass.ranges [('\t', '\r'), (' ', ' ')]
  | .word =>
    if flags.unicode then .word
    else CharClass.ranges [('0', '9'), ('A', 'Z'), ('_', '_'), ('a', 'z')]

end Flags

mutual

/-- The meaning of a class. -/
def classOf? (flags : Flags) : ClassExpr → Option CharClass
  | .range low high =>
    if flags.unicode || high.toNat < 0x80 then some (.range low high) else none
  | .perl kind negated => flags.negate? negated (flags.perl kind)
  | .ascii ranges negated => flags.negate? negated (flags.fold (CharClass.ranges ranges))
  | .property negated name value =>
    if !flags.unicode then none
    else
      let cls := match value with
        | none => CharClass.named? name
        | some value => CharClass.valued? name value
      cls.bind fun c => flags.negate? negated (flags.fold c)
  | .bracket negated set => do flags.negate? negated (flags.fold (← classOf? flags set))
  | .union items => do return CharClass.unions (← classesOf? flags items)
  | .binary op a b => do
    let a := flags.fold (← classOf? flags a)
    let b := flags.fold (← classOf? flags b)
    return match op with
      | .inter => .inter a b
      | .diff => .diff a b
      | .either => .either a b

/-- The meanings of some classes. -/
def classesOf? (flags : Flags) : List ClassExpr → Option (List CharClass)
  | [] => some []
  | item :: rest => do
    let c ← classOf? flags item
    return c :: (← classesOf? flags rest)

end

/-! ## Parts with their sizes -/

/-- How classes are counted, and whether groups take room of their own. -/
structure Measure where
  classSize : CharClass → Nat
  groupSize : Nat

/-- The meaning of a part of a pattern. -/
structure Part where
  regular : Regular
  size : Measure → Nat
  /-- Nothing but looks. -/
  widthless : Bool
  /-- Some match may be empty. -/
  mayBeEmpty : Bool

namespace Part

/-- Nothing. -/
def nothing : Part := ⟨.empty, fun _ => stateSize, true, true⟩

/-- A look at a place. -/
def look (l : Look) : Part := ⟨.look l, fun _ => stateSize, true, true⟩

/-- A character that stands for itself alone. -/
def single (c : Char) : Part :=
  ⟨.chars (.single c), fun _ => stateSize * c.utf8Size, false, false⟩

/-- A class. -/
def chars (c : CharClass) : Part :=
  ⟨.chars c, fun measure => measure.classSize c, false, false⟩

/-- One part after the other. -/
def seq (a b : Part) : Part where
  regular := a.regular.andThen b.regular
  size measure := a.size measure + b.size measure
  widthless := a.widthless && b.widthless
  mayBeEmpty := a.mayBeEmpty && b.mayBeEmpty

/-- Some parts one after the other. -/
def seqs : List Part → Part
  | [] => nothing
  | [a] => a
  | a :: rest => a.seq (seqs rest)

/-- One of some parts. -/
def oneOf (parts : List Part) : Part where
  regular := match parts.reverse with
    | [] => .empty
    | last :: before => before.foldl (fun rest part => .alt part.regular rest) last.regular
  size measure :=
    2 * stateSize + branchSize * parts.length
      + parts.foldl (fun size part => size + part.size measure) 0
  widthless := parts.all (·.widthless)
  mayBeEmpty := parts.any (·.mayBeEmpty)

/-- A group that captures. -/
def captured (a : Part) : Part :=
  { a with size := fun measure => a.size measure + measure.groupSize }

/-- The size of a repetition of something of the size `size`. -/
def repeatedSize (size : Nat) (mayBeEmpty : Bool) (least : Nat) (most : Option Nat) : Nat :=
  let copies := if least = 0 then stateSize else least * size
  let branching := stateSize + 2 * branchSize
  match least, most with
  | 0, some 1 => size + branching + stateSize
  | 0, none => if mayBeEmpty then size + 2 * branching + stateSize else size + branching
  | _, none => copies + branching
  | least, some most =>
    if least = most then copies
    else copies + stateSize + (most - least) * (size + branching)

/-- A repetition; of what takes no room in the text one time is enough. -/
def repeated (a : Part) (least : Nat) (most : Option Nat) : Part :=
  let (least, most) :=
    if a.widthless then (min least 1, some (min (most.getD 1) 1)) else (least, most)
  if most = some 0 then nothing
  else if least = 1 ∧ most = some 1 then a
  else
    { regular := a.regular.repeated least most
      size := fun measure => repeatedSize (a.size measure) a.mayBeEmpty least most
      widthless := a.widthless
      mayBeEmpty := least == 0 || a.mayBeEmpty }

end Part

/-! ## Patterns -/

/-- The meaning of a character. -/
def literal? (flags : Flags) (c : Char) (byte : Bool) : Option Part :=
  if flags.unicode then
    if flags.ignoreCase && !(Unicode.foldOrbit c).isEmpty then
      some (.chars (.folded (.single c)))
    else some (.single c)
  else if byte && 0x80 ≤ c.toNat then none
  else if flags.ignoreCase && c.isAlpha then some (.chars (.foldedAscii (.single c)))
  else some (.single c)

/-- The meaning of the dot. -/
def dot? (flags : Flags) : Option Part :=
  if !flags.unicode then none
  else if flags.dotAll then some (.chars .all)
  else if flags.carriageReturn then
    some (.chars (.complement (CharClass.ranges [('\n', '\n'), ('\r', '\r')])))
  else some (.chars (.complement (.single '\n')))

/-- The meaning of an anchor. -/
def anchorLook (flags : Flags) : Anchor → Look
  | .lineStart =>
    if !flags.multiLine then .textStart
    else if flags.carriageReturn then .lineStartReturn
    else .lineStart
  | .lineEnd =>
    if !flags.multiLine then .textEnd
    else if flags.carriageReturn then .lineEndReturn
    else .lineEnd
  | .textStart => .textStart
  | .textEnd => .textEnd
  | .wordBoundary => .boundary !flags.unicode
  | .notWordBoundary => .notBoundary !flags.unicode
  | .wordStart => .wordStart !flags.unicode
  | .wordEnd => .wordEnd !flags.unicode
  | .wordStartHalf => .wordStartHalf !flags.unicode
  | .wordEndHalf => .wordEndHalf !flags.unicode

mutual

/-- The meaning of a pattern under flags, and the flags after it. -/
def Expr.part? (flags : Flags) : Expr → Option (Part × Flags)
  | .empty => some (.nothing, flags)
  | .literal c byte => (literal? flags c byte).map (·, flags)
  | .dot => (dot? flags).map (·, flags)
  | .anchor a => some (.look (anchorLook flags a), flags)
  | .cls c => (classOf? flags c).map fun c => (.chars c, flags)
  | .flags change => some (.nothing, flags.change change)
  | .repeated sub least most => do
    let (part, flags) ← sub.part? flags
    return (part.repeated least most, flags)
  | .group none sub => do
    let (part, _) ← sub.part? flags
    return (part.captured, flags)
  | .group (some change) sub => do
    let (part, _) ← sub.part? (flags.change change)
    return (part, flags)
  | .alternation subs => do
    let (parts, flags) ← Expr.parts? flags subs
    return (.oneOf parts, flags)
  | .concat subs => do
    let (parts, flags) ← Expr.parts? flags subs
    return (.seqs parts, flags)

/-- The meanings of some patterns, the flags carried along. -/
def Expr.parts? (flags : Flags) : List Expr → Option (List Part × Flags)
  | [] => some ([], flags)
  | sub :: rest => do
    let (part, flags) ← sub.part? flags
    let (parts, flags) ← Expr.parts? flags rest
    return (part :: parts, flags)

end

end Pattern
end GameJam
