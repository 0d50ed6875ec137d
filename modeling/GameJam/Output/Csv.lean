import GameJam.Json.Write

/-!
# Tables of comma-separated values

A JSON value becomes a table of texts, and a table becomes lines of fields.  A list of objects has
a column for each key of the first one, in the order of the keys; an object has a line for each
field; anything else is one column of values.

## What is here

* `Json.cell` and `Json.table` — the texts of a value and the table of them.
* `Csv.write` — the text of a table, and `Csv.write?`, which wants lines of one length; the table of
  a value has such lines.
-/

set_option autoImplicit false

namespace GameJam
namespace Json

/-- The text of a value in a table: texts are bare, `null` is empty, texts in a list stand after
one another, and anything else is its JSON. -/
def cell (j : Json) : String :=
  match j with
  | .string s => s
  | .null => ""
  | .number (.real x) => if x.isFinite then j.compactText else ""
  | .array items =>
    match strings? items with
    | some texts => String.intercalate "; " texts
    | none => j.compactText
  | _ => j.compactText

/-- The value of the first field with this key. -/
def field? (fields : List (String × Json)) (key : String) : Option Json :=
  (fields.find? fun field => field.1 == key).map Prod.snd

/-- The cells of an object under some keys, empty where a key is missing; there are none for what
is no object. -/
def cellsUnder? (keys : List String) : Json → Option (List String)
  | .object fields => some (keys.map fun key => ((field? fields key).map cell).getD "")
  | _ => none

/-- The table of a value whose keys are sorted: its header and its lines. -/
def table : Json → List (List String)
  | .array [] => []
  | .array (.object first :: rest) =>
    let keys := first.map Prod.fst
    keys :: (Json.object first :: rest).filterMap (cellsUnder? keys)
  | .array items => ["value"] :: items.map fun item => [item.cell]
  | .object fields => ["key", "value"] :: fields.map fun (key, value) => [key, value.cell]
  | j => [["value"], [j.cell]]

theorem length_of_mem_filterMap_cellsUnder? {keys : List String} {items : List Json}
    {line : List String} (h : line ∈ items.filterMap (cellsUnder? keys)) :
    line.length = keys.length := by
  obtain ⟨item, -, hline⟩ := List.mem_filterMap.1 h
  cases item with
  | object fields =>
    cases hline
    exact List.length_map _
  | _ => cases hline

/-- All lines of a table are as long as the first. -/
theorem length_of_mem_table {j : Json} {line : List String} (h : line ∈ j.table) :
    line.length = (j.table.headD []).length := by
  revert h
  fun_cases table j with
  | case1 => exact fun h => absurd h List.not_mem_nil
  | case2 first rest keys =>
    rw [List.mem_cons]
    rintro (rfl | hline)
    · rfl
    · exact length_of_mem_filterMap_cellsUnder? hline
  | case3 items =>
    rw [List.mem_cons, List.mem_map]
    rintro (rfl | ⟨item, -, rfl⟩) <;> rfl
  | case4 fields =>
    rw [List.mem_cons, List.mem_map]
    rintro (rfl | ⟨field, -, rfl⟩) <;> rfl
  | case5 =>
    rw [List.mem_cons, List.mem_singleton]
    rintro (rfl | rfl) <;> rfl

end Json

namespace Csv

/-- Must the field stand between quotes? -/
def needsQuotes (field : List Char) : Bool :=
  field.any fun c => c == ',' || c == '"' || c == '\r' || c == '\n'

/-- A field between quotes, a quote inside it being written twice. -/
def quoted (field : List Char) : List Char :=
  '"' :: (field.flatMap fun c => if c = '"' then ['"', '"'] else [c]) ++ ['"']

/-- A field of a line. -/
def writeField (field : List Char) : List Char :=
  if needsQuotes field then quoted field else field

/-- A line.  One that would be empty is written as an empty field between quotes, so that it can be
told from no line at all. -/
def writeLine (fields : List (List Char)) : List Char :=
  (match fields with
    | [] | [[]] => quoted []
    | fields => [','].intercalate (fields.map writeField)) ++ ['\n']

/-- The text of a table. -/
def write (table : List (List String)) : String :=
  String.ofList (table.flatMap fun line => writeLine (line.map String.toList))

/-- Have all lines as many fields as the first? -/
def isEven (table : List (List String)) : Bool :=
  table.all fun line => line.length == (table.headD []).length

/-- The text of a table, unless its lines differ in length. -/
def write? (table : List (List String)) : Option String :=
  if isEven table then some (write table) else none

theorem isEven_table (j : Json) : isEven j.table = true :=
  List.all_eq_true.2 fun _ hline => beq_iff_eq.2 (Json.length_of_mem_table hline)

/-- The table of a value can be written. -/
theorem write?_table (j : Json) : write? j.table = some (write j.table) :=
  if_pos (isEven_table j)

end Csv
end GameJam
