import GameJam.Pattern.Class

/-!
# Matching by what is left to match

A regular expression is matched a character at a time.  Whatever has been read, what may still
follow is described by a finite set of regular expressions, the *rests*; reading a character turns
every rest into the rests behind that character, and a match has been found as soon as one of them
accepts the empty text.  Rests are kept without repetition, so that a repeated group does not make
them many.

A place in the text is asked about by the characters before and after it only.  That matters for
repetitions: a body that may match nothing *here* may be used up any number of times before the
character, while one that may not is used once.

## What is here

* `Place`, `Look`, `Look.holds` — places of a text, and what a pattern can ask of one.
* `Regular` — regular expressions with looks.
* `Regular.acceptsEmpty`, `Regular.after` — the empty text at a place, and the rests.
* `Regular.occursIn` — is there a match anywhere in a text?
-/

set_option autoImplicit false

namespace GameJam
namespace Pattern

/-- A place in a text: the characters before and after it. -/
structure Place where
  before : Option Char
  after : Option Char

/-- What a pattern can ask of a place. -/
inductive Look where
  | textStart
  | textEnd
  | lineStart
  | lineEnd
  /-- The start of a line where carriage returns end lines too. -/
  | lineStartReturn
  | lineEndReturn
  | boundary (ascii : Bool)
  | notBoundary (ascii : Bool)
  | wordStart (ascii : Bool)
  | wordEnd (ascii : Bool)
  | wordStartHalf (ascii : Bool)
  | wordEndHalf (ascii : Bool)
deriving DecidableEq, Repr

/-- Is there a word character here? -/
def isWordAt (ascii : Bool) (c : Option Char) : Bool :=
  c.any fun c => if ascii then c.isAlphanum || c == '_' else CharClass.isWord c

/-- Does the place fulfil the look? -/
def Look.holds (p : Place) : Look → Bool
  | .textStart => p.before.isNone
  | .textEnd => p.after.isNone
  | .lineStart => p.before.isNone || p.before == some '\n'
  | .lineEnd => p.after.isNone || p.after == some '\n'
  | .lineStartReturn =>
    p.before.isNone || p.before == some '\n'
      || (p.before == some '\r' && p.after != some '\n')
  | .lineEndReturn =>
    p.after.isNone || p.after == some '\r'
      || (p.after == some '\n' && p.before != some '\r')
  | .boundary ascii => isWordAt ascii p.before != isWordAt ascii p.after
  | .notBoundary ascii => isWordAt ascii p.before == isWordAt ascii p.after
  | .wordStart ascii => !isWordAt ascii p.before && isWordAt ascii p.after
  | .wordEnd ascii => isWordAt ascii p.before && !isWordAt ascii p.after
  | .wordStartHalf ascii => !isWordAt ascii p.before
  | .wordEndHalf ascii => !isWordAt ascii p.after

/-- A regular expression. -/
inductive Regular where
  | empty
  | look (l : Look)
  | chars (c : CharClass)
  | seq (a b : Regular)
  | alt (a b : Regular)
  /-- At least so many times, and at most so many if there is a bound. -/
  | times (a : Regular) (least : Nat) (most : Option Nat)
deriving DecidableEq

namespace Regular

/-- One after the other; nothing is added to nothing. -/
def andThen : Regular → Regular → Regular
  | .empty, b => b
  | a, .empty => a
  | a, b => .seq a b

/-- A repetition, where it is none of the two trivial ones. -/
def repeated (a : Regular) (least : Nat) (most : Option Nat) : Regular :=
  if most = some 0 then .empty
  else if least = 1 ∧ most = some 1 then a
  else .times a least most

/-- Is the empty text at this place a match? -/
def acceptsEmpty (p : Place) : Regular → Bool
  | .empty => true
  | .look l => l.holds p
  | .chars _ => false
  | .seq a b => a.acceptsEmpty p && b.acceptsEmpty p
  | .alt a b => a.acceptsEmpty p || b.acceptsEmpty p
  | .times a least _ => least == 0 || a.acceptsEmpty p

/-- The rests of a match that reads the character after the place. -/
def after (p : Place) (c : Char) : Regular → List Regular
  | .empty => []
  | .look _ => []
  | .chars cls => if cls.contains c then [.empty] else []
  | .seq a b =>
    (a.after p c).map (fun rest => rest.andThen b)
      ++ (if a.acceptsEmpty p then b.after p c else [])
  | .alt a b => a.after p c ++ b.after p c
  | .times a least most =>
    if most = some 0 then []
    else
      let least := if a.acceptsEmpty p then 0 else least - 1
      (a.after p c).map fun rest => rest.andThen (a.repeated least (most.map (· - 1)))

/-- Is there a match that goes on with one of these rests, or begins here or later? -/
def search (start : Regular) (rests : List Regular) (before : Option Char) :
    List Char → Bool
  | [] => (start :: rests).any fun r => r.acceptsEmpty ⟨before, none⟩
  | c :: text =>
    let p : Place := ⟨before, some c⟩
    let here := start :: rests
    here.any (fun r => r.acceptsEmpty p)
      || search start (here.flatMap fun r => r.after p c).eraseDups (some c) text

/-- Does a match occur in the text? -/
def occursIn (r : Regular) (text : List Char) : Bool :=
  search r [] none text

end Regular
end Pattern
end GameJam
