import GameJam.Filter.Schema

/-!
# The outline of a schema

A schema as a list of rows, one for each property, parents before their children.  This is what is
printed as a tree and what a table of the schema holds.

## What is here

* `OutlineRow`, and its JSON.
* `Schema.outline` — the rows of a schema.
-/

set_option autoImplicit false

namespace GameJam

/-- A property in the outline of a schema. -/
structure OutlineRow where
  /-- The names that lead to the property, outermost first. -/
  path : List String
  /-- The property that they lead to. -/
  property : Property

namespace OutlineRow

/-- How many properties the row is inside of. -/
def depth (row : OutlineRow) : Nat :=
  row.path.length - 1

/-- The labels that the property offers. -/
def values (row : OutlineRow) : List String :=
  match row.property with
  | .enumerated _ _ values _ => values
  | _ => []

/-- What an input field for the property suggests. -/
def input (row : OutlineRow) : String :=
  match row.property with
  | .numeric _ _ range =>
    String.intercalate ", "
      ([("min", range.min), ("max", range.max), ("step", range.step)].filterMap
        fun (name, bound) =>
          bound.map fun x => name ++ " " ++ String.ofList (RealFormat.plain.write x))
  | _ => ""

/-- The JSON of a row. -/
def toJson (row : OutlineRow) : Json :=
  .object [
    ("path", .string (String.intercalate "." row.path)),
    ("name", .string row.property.name),
    ("label", .string row.property.label),
    ("type", .string row.property.kindName),
    ("operators", .ofStrings (row.property.operators.map Operator.symbol)),
    ("values", .ofStrings row.values),
    ("input", .string row.input)]

end OutlineRow

mutual

/-- The rows of a property below other ones. -/
def Property.outline (parents : List String) : Property → List OutlineRow
  | .nested name label children =>
    ⟨parents ++ [name], .nested name label children⟩
      :: Property.listOutline (parents ++ [name]) children
  | .text name label => [⟨parents ++ [name], .text name label⟩]
  | .numeric name label input => [⟨parents ++ [name], .numeric name label input⟩]
  | .enumerated name label values absentLabel =>
    [⟨parents ++ [name], .enumerated name label values absentLabel⟩]

/-- The rows of properties below other ones. -/
def Property.listOutline (parents : List String) : List Property → List OutlineRow
  | [] => []
  | property :: rest => property.outline parents ++ Property.listOutline parents rest

end

/-- The rows of a schema. -/
def Schema.outline (schema : Schema) : List OutlineRow :=
  Property.listOutline [] schema

end GameJam
