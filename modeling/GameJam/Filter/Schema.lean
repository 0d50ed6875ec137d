import GameJam.Filter.Clause
import GameJam.Filter.Entry

/-!
# Schemas

A schema is a list of properties that records can be filtered by.  A property is tested as a text,
as a number or for its labels, or it holds further properties, which the next name of a path
selects.

## What is here

* `Property` and `Schema`, with their JSON.
* `Property.follow` and `Schema.resolve?` — where a path leads, and how many names it took.
* `Schema.summary?` — the rows that constrain anything, as they are shown.
* `Property.leafClause?` and `Schema.compile?` — the clause of a row.  A row that does not lead to a
  testable property, or whose operator or value is not complete for it, has none.
-/

set_option autoImplicit false

namespace GameJam

/-- What an input field for a number suggests. -/
structure InputRange where
  min : Option Binary64 := none
  max : Option Binary64 := none
  step : Option Binary64 := none
deriving DecidableEq

/-- The JSON of a suggestion, with what is suggested only. -/
def InputRange.fields (input : InputRange) : List (String × Json) :=
  [("min", input.min), ("max", input.max), ("step", input.step)].filterMap fun (name, bound) =>
    bound.map fun x => (name, .ofBinary64 x)

/-- Something that records can be filtered by. -/
inductive Property where
  | text (name label : String)
  | numeric (name label : String) (input : InputRange)
  /-- Records without the field hold the absent label, if there is one. -/
  | enumerated (name label : String) (values : List String) (absentLabel : Option String)
  | nested (name label : String) (children : List Property)
deriving BEq

/-- The properties that records can be filtered by, in the order in which they are shown. -/
abbrev Schema := List Property

namespace Property

/-- The name that selects the property among its siblings. -/
def name : Property → String
  | text name _ | numeric name _ _ | enumerated name _ _ _ | nested name _ _ => name

/-- How the property is called on screens. -/
def label : Property → String
  | text _ label | numeric _ label _ | enumerated _ label _ _ | nested _ label _ => label

/-- The kind of the property. -/
def kindName : Property → String
  | text .. => "text"
  | numeric .. => "numeric"
  | enumerated .. => "enumerated"
  | nested .. => "nested"

/-- The operators that a selector may offer. -/
def operators : Property → List Operator
  | text .. => Operator.text
  | numeric .. => Operator.numeric
  | enumerated .. => Operator.enumerated
  | nested .. => []

/-- The properties inside a nested one. -/
def children : Property → List Property
  | nested _ _ children => children
  | _ => []

/-- Does the property hold further ones? -/
def isNested : Property → Bool
  | nested .. => true
  | _ => false

/-- The property with a label for the records without the field, if it has labels at all. -/
def withAbsentLabel (property : Property) (absentLabel : String) : Property :=
  match property with
  | enumerated name label values _ => enumerated name label values (some absentLabel)
  | property => property

mutual

/-- The JSON of a property.  The absent label is not part of it. -/
def toJson : Property → Json
  | text name label => .object [
      ("name", .string name), ("label", .string label), ("type", .string "text"),
      ("operators", .ofStrings (Operator.text.map Operator.symbol))]
  | numeric name label input => .object ([
      ("name", .string name), ("label", .string label), ("type", .string "numeric"),
      ("operators", .ofStrings (Operator.numeric.map Operator.symbol))]
      ++ if input.fields.isEmpty then [] else [("input", .object input.fields)])
  | enumerated name label values _ => .object [
      ("name", .string name), ("label", .string label), ("type", .string "enumerated"),
      ("operators", .ofStrings (Operator.enumerated.map Operator.symbol)),
      ("values", .ofStrings values)]
  | nested name label children => .object [
      ("name", .string name), ("label", .string label), ("type", .string "nested"),
      ("children", .array (listToJson children))]

/-- The JSON of each property. -/
def listToJson : List Property → List Json
  | [] => []
  | property :: rest => property.toJson :: listToJson rest

end

/-- The first property of this name. -/
def named? (properties : List Property) (name : String) : Option Property :=
  properties.find? fun property => property.name == name

/-- The first child of this name. -/
def child? (property : Property) (name : String) : Option Property :=
  named? property.children name

/-- The property that names lead to from here, and how many of them were followed: one names a
child each, and the first that is empty or names none ends the way. -/
def follow (property : Property) : List String → Property × Nat
  | [] => (property, 0)
  | name :: rest =>
    if name = "" then (property, 0)
    else match property.child? name with
      | none => (property, 0)
      | some child =>
        let (reached, taken) := child.follow rest
        (reached, taken + 1)

/-- The clause of an operator and a value on this property, `field` being the path that led here.
A text or an enumerated property wants a text that is not empty, a numeric one a finite number. -/
def leafClause? (property : Property) (field : List String) (operator : Operator)
    (value : EntryValue) : Option Clause :=
  if !property.operators.contains operator then none
  else match property, value with
    | text .., value => do
      let needle ← value.text?
      if needle = "" then none else Clause.text? field operator needle
    | numeric .., value => value.finiteNumber?.map fun x => .numeric field operator (.real x)
    | enumerated _ _ _ absentLabel, .text label =>
      if label = "" then none else some (.labels field operator label absentLabel)
    | _, _ => none

end Property

namespace Schema

/-- The JSON of a schema. -/
def toJson (schema : Schema) : Json :=
  .array (Property.listToJson schema)

/-- Where a path leads, and how many of its names were followed; nowhere if its first name is that
of no property. -/
def resolve? (schema : Schema) : List String → Option (Property × Nat)
  | [] => none
  | name :: rest =>
    (Property.named? schema name).map fun property =>
      let (reached, taken) := property.follow rest
      (reached, taken + 1)

/-- The clause of a row, unless the row constrains nothing. -/
def compile? (schema : Schema) (entry : Entry) : Option Clause := do
  let _ ← entry.propertyName
  let (property, taken) ← schema.resolve? entry.path
  let operator ← entry.operator.bind Operator.ofSymbol?
  let value ← entry.value
  property.leafClause? (entry.path.take taken) operator value

/-- The rows that constrain the result, in one line; none if no row does. -/
def summary? (schema : Schema) (entries : List Entry) : Option String :=
  let active := entries.filter fun entry => (schema.compile? entry).isSome
  if active.isEmpty then none
  else some (String.intercalate " and " (active.map Entry.display))

end Schema
end GameJam
