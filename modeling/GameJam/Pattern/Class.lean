import GameJam.Text.Blank
import GameJam.Text.Unicode.Case
import GameJam.Text.Unicode.Script

/-!
# Character classes

A class of a pattern is kept as the operations that build it and not as a list of characters, so
that two classes are easily compared and nothing is computed before a character is looked at.

## What is here

* `CharClass` — ranges, the classes of Unicode, and the operations on classes; `folded` adds the
  characters that are equal to a member when case is ignored.
* `CharClass.contains` — membership.
* `CharClass.property?` — the class that the name of a Unicode property stands for.
-/

set_option autoImplicit false

namespace GameJam
namespace Pattern

/-- A set of characters. -/
inductive CharClass where
  | none
  | range (low high : Char)
  | digit
  | space
  | word
  | categories (list : List Unicode.Category)
  | property (name : String)
  | script (code : String)
  | scriptInUse (code : String)
  | union (a b : CharClass)
  | inter (a b : CharClass)
  | diff (a b : CharClass)
  | either (a b : CharClass)
  | complement (a : CharClass)
  | folded (a : CharClass)
  | foldedAscii (a : CharClass)
deriving DecidableEq

namespace CharClass

/-- One character. -/
def single (c : Char) : CharClass := .range c c

/-- All characters. -/
def all : CharClass := .complement .none

/-- The union of some classes. -/
def unions (list : List CharClass) : CharClass :=
  match list with
  | [] => .none
  | [a] => a
  | a :: rest => rest.foldl .union a

/-- The class of some ranges of ASCII characters. -/
def ranges (list : List (Char × Char)) : CharClass :=
  unions (list.map fun (low, high) => .range low high)

/-- Is the character a decimal digit? -/
def isDigit (c : Char) : Bool :=
  if c.toNat < 0x80 then c.isDigit else Unicode.category c.toNat == .Nd

/-- The property of being a letter, in the widest sense. -/
def alphabetic : Unicode.Property := Unicode.propertyNamed "alphabetic"

/-- Is the character part of a word: a letter, a mark, a digit, a connector or a joiner? -/
def isWord (c : Char) : Bool :=
  if c.toNat < 0x80 then c.isAlphanum || c == '_'
  else match Unicode.category c.toNat with
    | .Mn | .Mc | .Me | .Nd | .Pc => true
    | _ => c == '\u200c' || c == '\u200d' || alphabetic.holds c.toNat

/-- Is the character in the class? -/
def contains : CharClass → Char → Bool
  | .none, _ => false
  | .range low high, c => low ≤ c && c ≤ high
  | .digit, c => isDigit c
  | .space, c => isBlank c
  | .word, c => isWord c
  | .categories list, c => list.contains (Unicode.category c.toNat)
  | .property name, c => (Unicode.Property.named? name).any fun p => p.holds c.toNat
  | .script code, c => Unicode.script c.toNat == code
  | .scriptInUse code, c => (Unicode.scriptsInUse c.toNat).contains code
  | .union a b, c => a.contains c || b.contains c
  | .inter a b, c => a.contains c && b.contains c
  | .diff a b, c => a.contains c && !b.contains c
  | .either a b, c => a.contains c != b.contains c
  | .complement a, c => !a.contains c
  | .folded a, c => a.contains c || (Unicode.foldOrbit c).any a.contains
  | .foldedAscii a, c => a.contains c || a.contains c.toLower || a.contains c.toUpper

/-! ## Names of Unicode properties -/

/-- A name in lower case, without separators and without a leading `is`. -/
def normalizeName (name : String) : String :=
  let chars := name.toList
  let (prefixed, chars) := match chars with
    | i :: s :: rest => if i.toLower = 'i' ∧ s.toLower = 's' then (true, rest) else (false, chars)
    | _ => (false, chars)
  let kept := (chars.filter fun c => c ≠ ' ' ∧ c ≠ '_' ∧ c ≠ '-' ∧ c.toNat < 0x80).map Char.toLower
  if prefixed ∧ kept = ['c'] then "isc" else String.ofList kept

/-- The class of a general category or a group of them. -/
def category? (name : String) : Option CharClass :=
  if name = "any" then some all
  else if name = "ascii" then some (.range '\x00' '\x7f')
  else if name = "assigned" then some (.complement (.categories [.Cn]))
  else (Unicode.Category.named? name).map .categories

/-- The class of a name that stands alone: of a binary property, a category or a script. -/
def named? (name : String) : Option CharClass :=
  let name := normalizeName name
  let binary :=
    if name = "cf" ∨ name = "sc" ∨ name = "lc" then Option.none else Unicode.Property.named? name
  match binary with
  | some _ => some (.property name)
  | Option.none =>
    match category? name with
    | some cls => some cls
    | Option.none => (Unicode.scriptNamed? name).map .script

/-- The class of a property with a value. -/
def valued? (name value : String) : Option CharClass :=
  let name := normalizeName name
  let value := normalizeName value
  if ["generalcategory", "gc", "category"].contains name then category? value
  else if ["script", "sc"].contains name then (Unicode.scriptNamed? value).map .script
  else if ["scriptextensions", "scx"].contains name then
    (Unicode.scriptNamed? value).map .scriptInUse
  else Option.none

end CharClass
end Pattern
end GameJam
