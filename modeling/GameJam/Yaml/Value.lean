import GameJam.Yaml.Plain
import GameJam.Yaml.Scalar

/-!
# Values of scalars

What a scalar says where a text, a count or one of several names is expected.  Only plain text can
stand for nothing or for a number, and a tag may say what a scalar is.

## What is here

* `Scalar.optionalText?` — a text that may be missing.
* `Scalar.count?` — a number below `2 ^ 64`.
* `Scalar.choice?` — a name, which may also be given as a tag.
-/

set_option autoImplicit false

namespace GameJam
namespace Yaml

/-- The tag of what is nothing. -/
def nullTag : List Char := "tag:yaml.org,2002:null".toList

/-- The tag of whole numbers. -/
def integerTag : List Char := "tag:yaml.org,2002:int".toList

namespace Scalar

/-- Is it plain text that stands for nothing, whatever its tag? -/
def isNothing (s : Scalar) : Bool :=
  s.style == .plain && (s.text.isEmpty || isNull s.text)

/-- A text that may be missing.  Plain text with the tag of nothing has to be a word for it. -/
def optionalText? (s : Scalar) : Option (Option String) :=
  if s.style == .plain && s.tag == some nullTag then
    if isNull s.text then some none else none
  else if s.tag.isNone && s.isNothing then some none
  else some (some (String.ofList s.text))

/-- A number below `2 ^ 64`.  It is plain text, or lines that have the tag of whole numbers. -/
def count? (s : Scalar) : Option UInt64 :=
  if s.style == .plain || (s.style == .literal && s.tag == some integerTag) then
    match natural? s.text with
    | some n => if n < UInt64.size then some (UInt64.ofNat n) else none
    | none => none
  else none

/-- One of several names: that of a tag of this document with nothing after it, or else the text. -/
def choice? (s : Scalar) : Option String :=
  match s.tag with
  | some ('!' :: name) =>
    if s.isNothing then some (String.ofList (if name.isEmpty then ['!'] else name)) else none
  | _ => some (String.ofList s.text)

end Scalar
end Yaml
end GameJam
