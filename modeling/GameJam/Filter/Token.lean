import GameJam.Filter.Entry

/-!
# Filters as a text

A list of rows travels in a link as a JSON array, its token.  Reading one never fails: a token
that is absent or blank, is no JSON, is no array, or has a row that cannot be read is no filter at
all.
-/

set_option autoImplicit false

namespace GameJam
namespace Token

/-- The token of a list of rows. -/
def write (entries : List Entry) : String :=
  (Json.array (entries.map Entry.toJson)).compactText

/-- The rows of a JSON value: those of an array whose elements all are rows, else none. -/
def rows (j : Json) : List Entry :=
  match j with
  | .array _ =>
    match Json.decode (Json.Reader.list Entry.reader) j with
    | .ok entries => entries
    | .error _ => []
  | _ => []

/-- The rows of a token. -/
def read (token : Option String) : List Entry :=
  match token with
  | none => []
  | some text =>
    if (trim text.toList).isEmpty then []
    else match Json.parse text with
      | .ok j => rows j
      | .error _ => []

end Token
end GameJam
