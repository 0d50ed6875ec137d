import GameJam.Number.Basic

/-!
# Values of a field

What a record serves at a path: a text, a number, a list of labels, a single label, or nothing.
The readings below are the only ways in which a filter looks at a value.
-/

set_option autoImplicit false

namespace GameJam

/-- What a record serves at a path. -/
inductive FieldValue where
  | text (s : String)
  | number (n : Number)
  | labels (list : List String)
  | label (s : String)
  /-- The field is absent or cannot be reached on this record. -/
  | missing
deriving DecidableEq

namespace FieldValue

/-- Is nothing served? -/
def isMissing : FieldValue → Bool
  | .missing => true
  | _ => false

/-- The characters of a text or of a single label. -/
def asText? : FieldValue → Option String
  | .text s | .label s => some s
  | _ => none

/-- The number, if the value is one. -/
def asNumber? : FieldValue → Option Number
  | .number n => some n
  | _ => none

/-- Does the value carry a label?  Empty texts and lists carry none, a number counts as one. -/
def hasLabels : FieldValue → Bool
  | .labels list => !list.isEmpty
  | .label s | .text s => s != ""
  | .number _ => true
  | .missing => false

/-- Is this exact label in the list, or is it the text or the label itself? -/
def hasLabel : FieldValue → String → Bool
  | .labels list, l => list.contains l
  | .label s, l | .text s, l => s == l
  | _, _ => false

end FieldValue
end GameJam
