/-!
# Operators of a filter

A filter row names its operator by a short text, which is also what travels in links.  Each kind
of property offers some of the operators; `contains` is offered by two kinds and means a substring
in the one and membership in the other.

## What is here

* `Operator`, with `symbol` and `ofSymbol?`, each the inverse of the other.
* `Operator.text`, `Operator.numeric`, `Operator.enumerated` — the operators of each kind, in the
  order in which a selector shows them.
* `Operator.accepts` — the meaning of the six comparisons on the outcome of a comparison.
-/

set_option autoImplicit false

namespace GameJam

/-- What a filter row asks of a field. -/
inductive Operator where
  | contains
  | notContains
  | startsWith
  | endsWith
  | matchesPattern
  | eq
  | ne
  | lt
  | le
  | gt
  | ge
  | notEmpty
  | empty
deriving DecidableEq, Repr

namespace Operator

/-- The operators of a text property. -/
def text : List Operator := [.contains, .notContains, .startsWith, .endsWith, .matchesPattern]

/-- The operators of a numeric property. -/
def numeric : List Operator := [.eq, .ne, .lt, .le, .gt, .ge]

/-- The operators of an enumerated property. -/
def enumerated : List Operator := [.contains, .notEmpty, .empty]

/-- The text of an operator in links and on screens. -/
def symbol : Operator → String
  | .contains => "contains"
  | .notContains => "does not contain"
  | .startsWith => "starts with"
  | .endsWith => "ends with"
  | .matchesPattern => "matches"
  | .eq => "=="
  | .ne => "!="
  | .lt => "<"
  | .le => "<="
  | .gt => ">"
  | .ge => ">="
  | .notEmpty => "not empty"
  | .empty => "empty"

/-- The operator with this text. -/
def ofSymbol? (s : String) : Option Operator :=
  match s with
  | "contains" => some .contains
  | "does not contain" => some .notContains
  | "starts with" => some .startsWith
  | "ends with" => some .endsWith
  | "matches" => some .matchesPattern
  | "==" => some .eq
  | "!=" => some .ne
  | "<" => some .lt
  | "<=" => some .le
  | ">" => some .gt
  | ">=" => some .ge
  | "not empty" => some .notEmpty
  | "empty" => some .empty
  | _ => none

theorem ofSymbol?_symbol (operator : Operator) : ofSymbol? operator.symbol = some operator := by
  cases operator <;> rfl

theorem symbol_injective {a b : Operator} (h : a.symbol = b.symbol) : a = b := by
  have := congrArg ofSymbol? h
  simpa [ofSymbol?_symbol] using this

/-- What is said of a text that names no operator. -/
def unknownMessage (s : String) : String :=
  "unknown operator '" ++ s ++ "'"

/-- Does the comparison hold when the operands compare this way?  An operator that is no
comparison holds of nothing. -/
def accepts : Operator → Ordering → Bool
  | .eq, o => o == .eq
  | .ne, o => o != .eq
  | .lt, o => o == .lt
  | .le, o => o != .gt
  | .gt, o => o == .gt
  | .ge, o => o != .lt
  | _, _ => false

end Operator
end GameJam
