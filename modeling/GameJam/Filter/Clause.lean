import GameJam.Filter.FieldValue
import GameJam.Filter.Operator
import GameJam.Pattern

/-!
# Clauses

A clause is what a row of a filter comes to once the schema has said what its path leads to: the
path of a field and a test of the value found there.  A value that the test cannot read does not
pass it, but a text test reads a missing value as the empty text.

## What is here

* `Test` and `Test.passes` — the four kinds of test, and which values pass them.
* `Clause`, with `Clause.text?`, `Clause.numeric` and `Clause.labels`, which build one from an
  operator and an operand, and `Clause.holds`.
* `occurs` — does one list stand somewhere in another?
-/

set_option autoImplicit false

universe u

namespace GameJam

/-- Does the first list stand somewhere in the second one? -/
def occurs {α : Type u} [BEq α] (part : List α) : List α → Bool
  | [] => part.isEmpty
  | c :: rest => part.isPrefixOf (c :: rest) || occurs part rest

/-- A test of the value of a field. -/
inductive Test where
  /-- The needle is kept in lower case. -/
  | text (operator : Operator) (needle : List Char)
  | pattern (pattern : Pattern)
  | numeric (operator : Operator) (operand : Number)
  /-- A record without labels holds the absent label, if there is one. -/
  | labels (operator : Operator) (label : String) (absentLabel : Option String)
deriving DecidableEq

namespace Test

/-- Does a text in lower case pass the test for a needle?  An operator that is none of the four
lets all pass. -/
def textPasses (operator : Operator) (needle haystack : List Char) : Bool :=
  match operator with
  | .contains => occurs needle haystack
  | .notContains => !occurs needle haystack
  | .startsWith => needle.isPrefixOf haystack
  | .endsWith => needle.isSuffixOf haystack
  | _ => true

/-- Does a value pass the test for a label?  An operator that is none of the three lets all
pass. -/
def labelPasses (operator : Operator) (label : String) (absentLabel : Option String)
    (value : FieldValue) : Bool :=
  match operator with
  | .notEmpty => value.hasLabels
  | .empty => !value.hasLabels
  | .contains => if value.hasLabels then value.hasLabel label else absentLabel == some label
  | _ => true

/-- Does a value pass the test? -/
def passes (test : Test) (value : FieldValue) : Bool :=
  match test with
  | text operator needle =>
    textPasses operator needle (Unicode.lowerText (value.asText?.getD "").toList)
  | pattern p => value.asText?.any p.occursIn
  | numeric operator operand =>
    value.asNumber?.any fun n => (n.compare? operand).any operator.accepts
  | labels operator label absentLabel => labelPasses operator label absentLabel value

end Test

/-- A test of the field at a path. -/
structure Clause where
  field : List String
  test : Test
deriving DecidableEq

namespace Clause

/-- The clause of a text operator: a pattern for `matches`, which may be refused, and else the
needle in lower case. -/
def text? (field : List String) (operator : Operator) (needle : String) : Option Clause :=
  match operator with
  | .matchesPattern => (Pattern.compile? needle).map fun p => ⟨field, .pattern p⟩
  | _ => some ⟨field, .text operator (Unicode.lowerText needle.toList)⟩

/-- The clause of a comparison with a number. -/
def numeric (field : List String) (operator : Operator) (operand : Number) : Clause :=
  ⟨field, .numeric operator operand⟩

/-- The clause of a label operator. -/
def labels (field : List String) (operator : Operator) (label : String)
    (absentLabel : Option String) : Clause :=
  ⟨field, .labels operator label absentLabel⟩

/-- Does a record hold to the clause, `serve` being what it serves at each path? -/
def holds (clause : Clause) (serve : List String → FieldValue) : Bool :=
  clause.test.passes (serve clause.field)

end Clause
end GameJam
