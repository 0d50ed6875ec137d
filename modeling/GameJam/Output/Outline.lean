import GameJam.Filter.Outline
import GameJam.Output.Styled

/-!
# The tree of a schema

The outline of a schema as a text: a line for each property, indented by its depth, and below it
the operators and the labels that it offers.

## What is here

* `TreeRow` — what the tree shows of a property, and `TreeRow.text`, its lines.
* `treeText` — the lines of some rows, and `Schema.text`, those of a schema.
-/

set_option autoImplicit false

namespace GameJam

/-- The space before a line of some depth. -/
def indentation (depth : Nat) : String :=
  String.ofList (List.replicate (2 * depth) ' ')

/-- What the tree shows of a property. -/
structure TreeRow where
  /-- How many properties it is inside of. -/
  depth : Nat
  name : String
  kind : String
  label : String
  /-- What an input field for the property suggests; empty if it suggests nothing. -/
  input : String
  operators : List String
  values : List String
deriving DecidableEq

namespace TreeRow

/-- A line with a detail of a property, if there is anything in it. -/
def detail (depth : Nat) (title separator : String) (parts : List String) : StyledText :=
  if parts.isEmpty then []
  else [.plain (indentation (depth + 2)), .marked .muted title,
    .plain (" " ++ String.intercalate separator parts ++ "\n")]

/-- The lines of a property. -/
def text (row : TreeRow) : StyledText :=
  [.plain (indentation row.depth),
    .marked .title row.name, .plain " ",
    .marked .muted ("[" ++ row.kind ++ "]"),
    .plain (" " ++ row.label ++ (if row.input = "" then "" else " (" ++ row.input ++ ")") ++ "\n")]
  ++ detail row.depth "operators:" " | " row.operators
  ++ detail row.depth "values:" ", " row.values

end TreeRow

/-- The lines of some rows. -/
def treeText (rows : List TreeRow) : StyledText :=
  rows.flatMap TreeRow.text

/-- What the tree shows of a row of the outline. -/
def OutlineRow.shown (row : OutlineRow) : TreeRow where
  depth := row.depth
  name := row.property.name
  kind := row.property.kindName
  label := row.property.label
  input := row.input
  operators := row.property.operators.map Operator.symbol
  values := row.values

/-- The tree of a schema. -/
def Schema.text (schema : Schema) : StyledText :=
  treeText (schema.outline.map OutlineRow.shown)

end GameJam
