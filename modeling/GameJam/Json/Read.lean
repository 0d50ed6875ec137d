import GameJam.Json.Draft
import GameJam.Json.Write
import GameJam.Text.Quoted

/-!
# Reading values of a known shape

A reader takes a draft and gives a value, or the first thing that is wrong in reading order: a
fault of the text, or a value of the wrong shape.  Containers may be nested up to a depth; a
reader is told how many more it may enter, and a container beyond that is a fault of the text.
Values that are skipped are not counted.

## What is here

* `ReadError`, and `ReadError.message` for the errors that have one.
* `Reader`, and the readers of texts, whole numbers, real numbers, lists and optional values.
* `Reader.record` — a record, read from an object by the names of its fields or from an array by
  their order.  Unknown names are skipped, a known one may come once, and what is missing is
  found out at the end.
* `Reader.tree` — any value at all, as a tree.
* `read` — a whole text, after which only blanks may follow.
-/

set_option autoImplicit false

namespace GameJam
namespace Json

/-- What is wrong with a text that should hold a value of a known shape. -/
inductive ReadError where
  /-- The text is not JSON. -/
  | fault (fault : Fault)
  /-- A value of another kind stands here. -/
  | wrongType (found expected : String)
  /-- The kind is right and the value is not. -/
  | wrongValue (found expected : String)
  /-- A record given as an array has too few items. -/
  | wrongLength (length : Nat) (expected : String)
  | missingField (name : String)
  | repeatedField (name : String)
  /-- None of the shapes that are allowed fits. -/
  | noShape (name : String)
deriving DecidableEq, Repr

namespace ReadError

/-- What is said of a value of the wrong shape. -/
def message : ReadError → String
  | .fault .malformed => "malformed text"
  | .fault .truncated => "truncated text"
  | .wrongType found expected => "invalid type: " ++ found ++ ", expected " ++ expected
  | .wrongValue found expected => "invalid value: " ++ found ++ ", expected " ++ expected
  | .wrongLength length expected =>
    "invalid length " ++ String.ofList (decimalText length) ++ ", expected " ++ expected
  | .missingField name => "missing field \x60" ++ name ++ "\x60"
  | .repeatedField name => "duplicate field \x60" ++ name ++ "\x60"
  | .noShape name => "data did not match any variant of untagged enum " ++ name

end ReadError

/-- Reads a value from a draft, given how many containers may still be entered. -/
abbrev Reader (α : Type) := Nat → Draft → Except ReadError α

/-- How many containers may be nested. -/
def depthLimit : Nat := 127

/-- A fault where there is one. -/
def faultOf (fault : Option Fault) : Except ReadError Unit :=
  match fault with
  | none => .ok ()
  | some fault => .error (.fault fault)

/-- The part of a leaf that a reader wants. -/
def Leaf.get {α : Type} (leaf : Leaf α) : Except ReadError α :=
  leaf.kept.mapError .fault

/-- How a number is called in messages. -/
def describeNumber : Number → String
  | .natural n => "integer \x60" ++ String.ofList (decimalText n.toNat) ++ "\x60"
  | .negative n => "integer \x60" ++ String.ofList (integerText n.toInt) ++ "\x60"
  | .real x => "floating point \x60" ++ String.ofList (RealFormat.json.write x) ++ "\x60"

namespace Reader

/-- A value of another kind than the expected one; a leaf that cannot be read is reported first. -/
def refuse {α : Type} (expected : String) : Draft → Except ReadError α
  | .broken fault => .error (.fault fault)
  | .null => .error (.wrongType "null" expected)
  | .bool true => .error (.wrongType "boolean \x60true\x60" expected)
  | .bool false => .error (.wrongType "boolean \x60false\x60" expected)
  | .number leaf => leaf.get.bind fun n => .error (.wrongType (describeNumber n) expected)
  | .string leaf => leaf.get.bind fun s => .error (.wrongType ("string " ++ quotedText s) expected)
  | .array .. => .error (.wrongType "sequence" expected)
  | .object .. => .error (.wrongType "map" expected)

/-- A text. -/
def text : Reader String
  | _, .string leaf => leaf.get
  | _, d => refuse "a string" d

/-- A whole number below a limit. -/
def natural (limit : Nat) (expected : String) : Reader Nat
  | _, .number leaf => do
    match ← leaf.get with
    | .natural n =>
      if n.toNat < limit then .ok n.toNat
      else .error (.wrongValue (describeNumber (.natural n)) expected)
    | .negative n => .error (.wrongValue (describeNumber (.negative n)) expected)
    | .real x => .error (.wrongType (describeNumber (.real x)) expected)
  | _, d => refuse expected d

/-- A number of any kind, as a real one. -/
def real : Reader Binary64
  | _, .number leaf => do return (← leaf.get).toBinary64
  | _, d => refuse "f64" d

/-- `null`, or a value. -/
def optional {α : Type} (read : Reader α) : Reader (Option α)
  | _, .null => .ok none
  | depth, d => (read depth d).map some

/-- The items of an array, in order. -/
def list {α : Type} (read : Reader α) : Reader (List α)
  | 0, .array .. => .error (.fault .malformed)
  | depth + 1, .array items ending => do
    let values ← items.mapM (read depth)
    faultOf ending
    return values
  | _, d => refuse "a sequence" d

/-! ## Records -/

/-- A field of a record: its name, and how its value is put into what has been read so far. -/
structure Slot (σ : Type) where
  name : String
  put : σ → Reader σ

/-- A field that is read and then set. -/
def Slot.of {σ β : Type} (name : String) (read : Reader β) (set : σ → β → σ) : Slot σ :=
  ⟨name, fun s depth d => (read depth d).map (set s)⟩

/-- Reads the fields of an object by their names; `seen` are the names met so far. -/
def keyedFields {σ : Type} (slots : List (Slot σ)) (depth : Nat) :
    List (Leaf String × Draft) → List String → σ → Except ReadError σ
  | [], _, s => .ok s
  | (key, value) :: rest, seen, s => do
    let name ← key.get
    match slots.find? fun slot => slot.name == name with
    | none =>
      value.skip.mapError .fault
      keyedFields slots depth rest seen s
    | some slot =>
      if seen.contains name then .error (.repeatedField name)
      else keyedFields slots depth rest (name :: seen) (← slot.put s depth value)

/-- Reads the items of an array into the fields in their order. -/
def orderedFields {σ : Type} (depth : Nat) :
    List (Slot σ) → List Draft → σ → Except ReadError σ
  | _, [], s => .ok s
  | [], _ :: _, _ => .error (.fault .malformed)
  | slot :: slots, item :: items, s => do
    orderedFields depth slots items (← slot.put s depth item)

/-- A record.  `finish` makes it from what has been read, and is told which error a missing field
is. -/
def record {σ α : Type} (name : String) (slots : List (Slot σ)) (start : σ)
    (finish : (String → ReadError) → σ → Except ReadError α) : Reader α
  | 0, .object .. => .error (.fault .malformed)
  | 0, .array .. => .error (.fault .malformed)
  | depth + 1, .object fields ending => do
    let s ← keyedFields slots depth fields [] start
    faultOf ending
    finish .missingField s
  | depth + 1, .array items ending => do
    let s ← orderedFields depth slots items start
    let expected :=
      "struct " ++ name ++ " with " ++ String.ofList (decimalText slots.length) ++ " elements"
    if items.length < slots.length then
      faultOf ending
      finish (fun field => .wrongLength (slots.findIdx fun slot => slot.name == field) expected) s
    else
      let value ← finish .missingField s
      faultOf ending
      return value
  | _, d => refuse ("struct " ++ name) d

/-- The value of a field that must be there. -/
def require {α : Type} (missing : String → ReadError) (name : String) (value : Option α) :
    Except ReadError α :=
  match value with
  | some value => .ok value
  | none => .error (missing name)

/-! ## Trees -/

mutual

/-- Any value, its fields in the order in which they are written. -/
def tree : Nat → Draft → Except ReadError Json
  | _, .broken fault => .error (.fault fault)
  | _, .null => .ok .null
  | _, .bool b => .ok (.bool b)
  | _, .number leaf => leaf.get.map .number
  | _, .string leaf => leaf.get.map .string
  | 0, .array .. => .error (.fault .malformed)
  | depth + 1, .array items ending => do
    let items ← treeItems depth items
    faultOf ending
    return .array items
  | 0, .object .. => .error (.fault .malformed)
  | depth + 1, .object fields ending => do
    let fields ← treeFields depth fields
    faultOf ending
    return .object fields

/-- The items of an array. -/
def treeItems (depth : Nat) : List Draft → Except ReadError (List Json)
  | [] => .ok []
  | item :: rest => do
    let value ← tree depth item
    return value :: (← treeItems depth rest)

/-- The fields of an object. -/
def treeFields (depth : Nat) :
    List (Leaf String × Draft) → Except ReadError (List (String × Json))
  | [] => .ok []
  | (key, value) :: rest => do
    let name ← key.get
    let value ← tree depth value
    return (name, value) :: (← treeFields depth rest)

end

/-- Any value with the keys of its objects sorted, the last of equal keys being kept. -/
def sortedTree : Reader Json := fun depth d => (tree depth d).map Json.sorted

end Reader

/-- A whole text: a value of the shape, and nothing but blanks after it. -/
def read {α : Type} (reader : Reader α) (text : String) : Except ReadError α := do
  let document := Document.ofText text.toList
  let value ← reader depthLimit document.root
  if document.surplus then .error (.fault .malformed) else .ok value

/-- The tree of a text, its keys sorted. -/
def parse (text : String) : Except ReadError Json :=
  read Reader.sortedTree text

/-! ## Trees as drafts -/

mutual

/-- The draft in which nothing is wrong. -/
def toDraft : Json → Draft
  | .null => .null
  | .bool b => .bool b
  | .number n => .number ⟨.ok n, none⟩
  | .string s => .string ⟨.ok s, none⟩
  | .array items => .array (itemDrafts items) none
  | .object fields => .object (fieldDrafts fields) none

/-- The drafts of the items. -/
def itemDrafts : List Json → List Draft
  | [] => []
  | item :: rest => item.toDraft :: itemDrafts rest

/-- The drafts of the fields. -/
def fieldDrafts : List (String × Json) → List (Leaf String × Draft)
  | [] => []
  | (key, value) :: rest => (⟨.ok key, none⟩, value.toDraft) :: fieldDrafts rest

end

/-- Reads a value of a known shape from a tree. -/
def decode {α : Type} (reader : Reader α) (j : Json) : Except ReadError α :=
  reader depthLimit j.toDraft

end Json
end GameJam
