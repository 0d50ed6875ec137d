import GameJam.Filter.Operator
import GameJam.Json.Read
import GameJam.Text.Blank

/-!
# Rows of a filter

A filter is a list of rows that a user fills in: a path into the schema, an operator and a value,
each possibly still unset.  The operator is kept as it was typed, so that one nobody knows is kept
too.

## What is here

* `Entry` and `EntryValue`, with `Entry.display` and `Entry.toJson`.
* `EntryValue.finiteNumber?` and `EntryValue.text?` — the two ways in which a value is read.
* `Entry.reader` — an entry from JSON.  The path comes as a list, which ends at its first `null`,
  or as the three flat names of older links; a value that is neither a number, a text nor a list
  of texts counts as unset.
* `EntryValue.reader` — a value on its own, where nothing is let pass.
-/

set_option autoImplicit false

namespace GameJam

open Json (Reader)

/-- What a row compares with. -/
inductive EntryValue where
  | number (x : Binary64)
  | text (s : String)
  | list (items : List String)
deriving DecidableEq

/-- One row of a filter. -/
structure Entry where
  /-- The name of a property, then names of nested ones, outermost first. -/
  path : List String
  operator : Option String
  value : Option EntryValue
deriving DecidableEq

namespace EntryValue

/-- The value as a finite number: a number, or a text that writes one between blanks. -/
def finiteNumber? : EntryValue → Option Binary64
  | .number x => if x.isFinite then some x else none
  | .text s =>
    match Binary64.parse? (trim s.toList) with
    | some x => if x.isFinite then some x else none
    | none => none
  | .list _ => none

/-- The value as a text; a list is none. -/
def text? : EntryValue → Option String
  | .text s => some s
  | .number x => some (String.ofList (RealFormat.plain.write x))
  | .list _ => none

/-- How a value is shown in a summary. -/
def display : EntryValue → String
  | .number x => String.ofList (RealFormat.plain.write x)
  | .text s => quotedText s
  | .list items => "[" ++ String.intercalate ", " items ++ "]"

/-- The JSON of a value. -/
def toJson : EntryValue → Json
  | .number x => .ofBinary64 x
  | .text s => .string s
  | .list items => .ofStrings items

end EntryValue

namespace Entry

/-- The part of the path at a depth, unless it is absent or empty. -/
def segment (entry : Entry) (depth : Nat) : Option String :=
  (entry.path[depth]?).filter (· ≠ "")

/-- The name of the outermost property, unless it is absent or empty. -/
def propertyName (entry : Entry) : Option String :=
  entry.segment 0

/-- How a row is shown in a summary: its path, operator and value. -/
def display (entry : Entry) : String :=
  (if entry.path.isEmpty then "(unset)" else String.intercalate "." entry.path)
    ++ (match entry.operator with
      | some operator => " " ++ operator
      | none => "")
    ++ (match entry.value with
      | some value => " " ++ value.display
      | none => "")

/-- The JSON of a row; what is unset is `null`. -/
def toJson (entry : Entry) : Json :=
  .object [
    ("path", .ofStrings entry.path),
    ("operator", (entry.operator.map Json.string).getD .null),
    ("value", (entry.value.map EntryValue.toJson).getD .null)]

end Entry

/-! ## Reading -/

namespace EntryValue

/-- The value that a JSON value stands for, if it is of a kind that can be compared with. -/
def ofJson? : Json → Option EntryValue
  | .string s => some (.text s)
  | .number n => some (.number n.toBinary64)
  | .array items => (Json.strings? items).map .list
  | _ => none

/-- A value on its own: a number, a text or a list of texts. -/
def reader : Reader EntryValue := fun depth d => do
  match ofJson? (← Reader.tree depth d) with
  | some value => return value
  | none => .error (.noShape "FilterValue")

end EntryValue

namespace Entry

/-- An entry as it is read: either form of the path, each part possibly `null` or absent. -/
structure Form where
  path : Option (List (Option String)) := none
  propertyName : Option String := none
  propertyName2 : Option String := none
  propertyName3 : Option String := none
  operator : Option String := none
  value : Option Json := none

namespace Form

/-- The fields in the order in which an array gives them. -/
def slots : List (Reader.Slot Form) := [
  .of "path" (Reader.optional (Reader.list (Reader.optional Reader.text)))
    fun form path => { form with path },
  .of "propertyName" (Reader.optional Reader.text)
    fun form propertyName => { form with propertyName },
  .of "propertyName2" (Reader.optional Reader.text)
    fun form propertyName2 => { form with propertyName2 },
  .of "propertyName3" (Reader.optional Reader.text)
    fun form propertyName3 => { form with propertyName3 },
  .of "operator" (Reader.optional Reader.text) fun form operator => { form with operator },
  .of "value" (Reader.optional Reader.sortedTree) fun form value => { form with value }]

/-- The texts before the first absent one. -/
def leading : List (Option String) → List String
  | some s :: rest => s :: leading rest
  | _ => []

/-- The row that was meant. -/
def entry (form : Form) : Entry where
  path := leading (form.path.getD [form.propertyName, form.propertyName2, form.propertyName3])
  operator := form.operator
  value := form.value.bind EntryValue.ofJson?

end Form

/-- A row, in the present or in the older form. -/
def reader : Reader Entry :=
  Reader.record "RawEntry" Form.slots {} fun _ form => .ok form.entry

end Entry
end GameJam
