import GameJam.Text.Unicode.CaseData
import GameJam.Text.Unicode.Category

/-!
# Letter case

Lower-casing maps every character to its lower-case form.  Two characters need more than a table:
the capital I with a dot becomes two characters, and the capital sigma becomes a final sigma at
the end of a word.  Ignoring case is a different relation: the characters that are equal to `c`
when case is ignored are `c` and the others of its `foldOrbit`.

## What is here

* `lowerChar` — the lower-case form of one character.
* `lowerText` — the lower-case form of a text.  `sigmaEndsWord` looks at what stands before and
  after a sigma, passing over characters that are ignored for case.
* `foldOrbit` — the other characters equal to a given one when case is ignored.
-/

set_option autoImplicit false

namespace GameJam
namespace Unicode

/-- A run of a map between characters: first, last, distance, and the image of the first. -/
structure MapRun where
  first : Nat
  last : Nat
  step : Nat
  image : Nat

instance : Inhabited MapRun := ⟨⟨0, 0, 1, 0⟩⟩

namespace MapRun

/-- The run that a word such as `41-5A:61`, `100~12E:101` or `178:FF` writes. -/
def ofWord (word : List Char) : MapRun :=
  let (domain, image) := splitAt ':' word
  if domain.contains '~' then
    let (first, last) := splitAt '~' domain
    ⟨hexNumber first, hexNumber last, 2, hexNumber image⟩
  else
    let (first, last) := Ranges.ofWord domain
    ⟨first, last, 1, hexNumber image⟩

/-- The image of a code point, if the run has it. -/
def image? (run : MapRun) (c : Nat) : Option Nat :=
  if run.first ≤ c ∧ c ≤ run.last ∧ (c - run.first) % run.step = 0 then
    some (run.image + (c - run.first))
  else none

end MapRun

/-- The map that some runs write. -/
def mapTable (runs : List String) : Array MapRun :=
  ((wordsOf runs).map MapRun.ofWord).toArray

/-- The image of a code point under a map, if it has one.  Runs of every second character may lie
over one another, four at most. -/
def mapImage? (table : Array MapRun) (c : Nat) : Option Nat :=
  let n := Ranges.rank (fun i => (table.getD i default).first) c 0 table.size
  (List.range (min n 4)).findSome? fun i => (table.getD (n - 1 - i) default).image? c

/-- The map to lower case. -/
def lowercaseTable : Array MapRun := mapTable lowercaseRuns

/-- The cyclic map through the characters that are equal when case is ignored. -/
def foldTable : Array MapRun := mapTable foldRuns

/-! ## Lower case -/

/-- The lower-case form of a character on its own. -/
def lowerChar (c : Char) : List Char :=
  if c.toNat < 0x80 then [c.toLower]
  else if c = '\u0130' then ['i', '\u0307']
  else match mapImage? lowercaseTable c.toNat with
    | some image => [Char.ofNat image]
    | none => [c]

/-- Is the first character that is not ignored for case a cased one? -/
def casedFirst : List Char → Bool
  | [] => false
  | c :: rest => if isCaseIgnorable c then casedFirst rest else isCased c

/-- Does a sigma between these texts, the first one reversed, end a word? -/
def sigmaEndsWord (before after : List Char) : Bool :=
  casedFirst before && !casedFirst after

/-- The lower-case form of what follows a text, given reversed. -/
def lowerAfter (before : List Char) : List Char → List Char
  | [] => []
  | c :: rest =>
    let lower :=
      if c = 'Σ' then [if sigmaEndsWord before rest then 'ς' else 'σ'] else lowerChar c
    lower ++ lowerAfter (c :: before) rest

/-- The lower-case form of a text. -/
def lowerText (s : List Char) : List Char :=
  lowerAfter [] s

/-! ## Ignoring case -/

/-- The characters reached from `c` before the cycle is back at `start`. -/
def orbitFrom (start : Nat) : Nat → Nat → List Nat
  | 0, _ => []
  | fuel + 1, c =>
    match mapImage? foldTable c with
    | some next => if next = start then [] else next :: orbitFrom start fuel next
    | none => []

/-- The other characters that are equal to this one when case is ignored; there are at most
three. -/
def foldOrbit (c : Char) : List Char :=
  if c.toNat < 0x80 && !c.isAlpha then []
  else (orbitFrom c.toNat 3 c.toNat).map Char.ofNat

end Unicode
end GameJam
