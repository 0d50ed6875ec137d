import GameJam.Pattern.Meaning
import GameJam.Pattern.Parse

/-!
# Patterns

A filter may ask for texts in which a regular expression occurs.  Case is ignored unless the
pattern says otherwise, and characters are those of Unicode.

## What is here

* `Pattern` — a pattern that has been accepted, with its text.
* `Pattern.compile?` — accepts a text that is a pattern and whose automaton is not too large.
* `Pattern.occursIn` — does it occur in a text?
-/

set_option autoImplicit false

namespace GameJam

/-- A regular expression that has been accepted. -/
structure Pattern where
  source : String
  regular : Pattern.Regular
deriving DecidableEq

namespace Pattern

/-- The room that every automaton takes: a loop that skips to the start of a match, the group of
the whole match, and the end. -/
def frameSize : Nat := 200

/-- A class counted without looking at its members, unless there are only a few. -/
def roughClassSize : CharClass → Nat
  | .folded (.range low high) =>
    if low = high then
      let members := (low :: Unicode.foldOrbit low).map Char.toNat
      forwardClassSize (members.map fun n => (n, n))
    else 200000
  | .foldedAscii (.range _ _) => 2 * stateSize + 2 * rangeSize
  | .range low high =>
    if high.toNat < 0x80 then 2 * stateSize + rangeSize
    else if low = high then stateSize * low.utf8Size
    else 200000
  | _ => 200000

/-- Is the automaton of a part too large, forwards or backwards?  The members of classes are
counted only if a rough count leaves it open. -/
def isTooLarge (part : Part) : Bool :=
  sizeLimit < part.size ⟨roughClassSize, 2 * stateSize⟩ + frameSize
    && (sizeLimit <
        part.size ⟨fun c => forwardClassSize (classRanges c), 2 * stateSize⟩ + frameSize
      || sizeLimit < part.size ⟨fun c => backwardClassSize (classRanges c), 0⟩ + frameSize)

/-- The pattern that a text writes, if it writes one. -/
def compile? (source : String) : Option Pattern := do
  let expr ← Expr.ofText? source.toList
  let (part, _) ← expr.part? { ignoreCase := true }
  if isTooLarge part then none else some ⟨source, part.regular⟩

/-- Does the pattern occur in a text? -/
def occursIn (pattern : Pattern) (s : String) : Bool :=
  pattern.regular.occursIn s.toList

end Pattern
end GameJam
