import GameJam.Number.Basic

/-!
# JSON values

The tree that a JSON text stands for.  An object is a list of fields in the order in which they
are written, so that a result can be printed with its fields in their own order; `sorted` puts
the fields of every object into the order of their keys and keeps the last of equal keys.

## What is here

* `Json`, and `Json.Number` with the three kinds of number a text can write.
* `Json.insertField` — a field put into its place among sorted fields.
* `Json.sorted` — the tree with sorted, distinct keys throughout.
-/

set_option autoImplicit false

namespace GameJam

/-- A number in a JSON tree. -/
inductive Json.Number where
  | natural (n : UInt64)
  | negative (n : Int64)
  | real (x : Binary64)
deriving DecidableEq

namespace Json.Number

/-- The nearest floating-point number. -/
def toBinary64 : Json.Number → Binary64
  | .natural n => .ofInt n.toNat
  | .negative n => .ofInt n.toInt
  | .real x => x

end Json.Number

/-- A JSON value. -/
inductive Json where
  | null
  | bool (b : Bool)
  | number (n : Json.Number)
  | string (s : String)
  | array (items : List Json)
  | object (fields : List (String × Json))

namespace Json

instance : Inhabited Json := ⟨.null⟩

/-- A natural number below `2 ^ 64`. -/
def ofUInt64 (n : UInt64) : Json :=
  .number (.natural n)

/-- A real number. -/
def ofBinary64 (x : Binary64) : Json :=
  .number (.real x)

/-- A list of texts. -/
def ofStrings (list : List String) : Json :=
  .array (list.map .string)

/-- The texts of a list of values, if they all are texts. -/
def strings? : List Json → Option (List String)
  | [] => some []
  | .string s :: rest => (strings? rest).map (s :: ·)
  | _ :: _ => none

/-- A field put into its place among fields sorted by key, replacing one of the same key. -/
def insertField {α : Type} (key : String) (value : α) :
    List (String × α) → List (String × α)
  | [] => [(key, value)]
  | (k, v) :: rest =>
    if key < k then (key, value) :: (k, v) :: rest
    else if key = k then (key, value) :: rest
    else (k, v) :: insertField key value rest

/-- Fields in the order of their keys, the last of equal keys being kept. -/
def sortFields {α : Type} (fields : List (String × α)) : List (String × α) :=
  fields.foldl (fun sorted field => insertField field.1 field.2 sorted) []

mutual

/-- The same tree with the fields of every object sorted by key. -/
def sorted : Json → Json
  | .array items => .array (sortedItems items)
  | .object fields => .object (sortFields (sortedFields fields))
  | .null => .null
  | .bool b => .bool b
  | .number n => .number n
  | .string s => .string s

/-- Every item with sorted fields. -/
def sortedItems : List Json → List Json
  | [] => []
  | item :: rest => item.sorted :: sortedItems rest

/-- Every field with a sorted value. -/
def sortedFields : List (String × Json) → List (String × Json)
  | [] => []
  | (key, value) :: rest => (key, value.sorted) :: sortedFields rest

end

end Json
end GameJam
