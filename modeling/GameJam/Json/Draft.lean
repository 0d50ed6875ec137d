import GameJam.Json.Basic

/-!
# JSON texts, as far as they go

A reader that takes a text from left to right reports the first thing that is wrong with it, and
that may be a value of the wrong shape before the text stops being JSON at all.  So the text is
first made into a `Draft`: the tree of everything up to the place where it breaks off, with the
break recorded there.  A typed reader then walks the tree and meets every fault in reading order.

Some faults are faults only of a value that is wanted.  A number out of range and half a surrogate
pair are passed over in a value that is skipped, and a number cut short by the end of the text is
one kind of fault when it is read and another when it is skipped.  A `Leaf` holds both answers.

The text is read one character at a time by `step`, with the containers around the place kept on
a stack; what is read is `List.foldl step`, so that reading a text made of two parts is reading
the one and then the other.

## What is here

* `Fault` — the text is malformed, or it ends too early.
* `Draft` — the tree; `Draft.skip` says what a reader that passes over it meets.
* `NumberText`, `StringText` — a number and a string part way through.
* `State`, `step`, `finish` — the reading of a whole text, and `Document.ofText`.
-/

set_option autoImplicit false

namespace GameJam
namespace Json

/-- Why a text is not JSON. -/
inductive Fault where
  | malformed
  | truncated
deriving DecidableEq, Repr

/-- A number or a string: what a reader gets who wants it, and what one meets who skips it. -/
structure Leaf (α : Type) where
  kept : Except Fault α
  skipped : Option Fault

/-- A JSON text as far as it goes.  The ending of a container is its fault when it is not closed,
whether the text breaks off inside an item or between two. -/
inductive Draft where
  | broken (fault : Fault)
  | null
  | bool (b : Bool)
  | number (leaf : Leaf Number)
  | string (leaf : Leaf String)
  | array (items : List Draft) (ending : Option Fault)
  | object (fields : List (Leaf String × Draft)) (ending : Option Fault)

/-- What a reader meets who passes over a draft: at most the place where the text breaks off. -/
def Draft.skip : Draft → Except Fault Unit
  | .broken fault => .error fault
  | .null | .bool _ => .ok ()
  | .number leaf => leaf.skipped.elim (.ok ()) .error
  | .string leaf => leaf.skipped.elim (.ok ()) .error
  | .array _ ending => ending.elim (.ok ()) .error
  | .object _ ending => ending.elim (.ok ()) .error

/-! ## Numbers -/

/-- How far a number has been read. -/
inductive NumberPhase where
  | sign
  | zero
  | whole
  | point
  | fraction
  | exponentMark
  | exponentSign
  | exponent
deriving DecidableEq, Repr

/-- A number part way through; digits are kept last first. -/
structure NumberText where
  phase : NumberPhase
  negative : Bool := false
  whole : List Char := []
  fraction : List Char := []
  exponentNegative : Bool := false
  exponent : List Char := []

/-- What a further character makes of a number. -/
inductive NumberStep where
  | more (n : NumberText)
  | ended
  | bad

namespace NumberText

/-- A number that begins with this character. -/
def start? (c : Char) : Option NumberText :=
  if c = '-' then some ⟨.sign, true, [], [], false, []⟩
  else if c = '0' then some ⟨.zero, false, ['0'], [], false, []⟩
  else if c.isDigit then some ⟨.whole, false, [c], [], false, []⟩
  else none

/-- After the digits before the point. -/
def afterWhole (n : NumberText) (c : Char) : NumberStep :=
  if c = '.' then .more { n with phase := .point }
  else if c = 'e' ∨ c = 'E' then .more { n with phase := .exponentMark }
  else .ended

/-- The number with one more character. -/
def push (n : NumberText) (c : Char) : NumberStep :=
  match n.phase with
  | .sign =>
    if c = '0' then .more { n with phase := .zero, whole := ['0'] }
    else if c.isDigit then .more { n with phase := .whole, whole := [c] }
    else .bad
  | .zero => if c.isDigit then .bad else n.afterWhole c
  | .whole => if c.isDigit then .more { n with whole := c :: n.whole } else n.afterWhole c
  | .point =>
    if c.isDigit then .more { n with phase := .fraction, fraction := [c] } else .bad
  | .fraction =>
    if c.isDigit then .more { n with fraction := c :: n.fraction }
    else if c = 'e' ∨ c = 'E' then .more { n with phase := .exponentMark }
    else .ended
  | .exponentMark =>
    if c = '+' then .more { n with phase := .exponentSign }
    else if c = '-' then .more { n with phase := .exponentSign, exponentNegative := true }
    else if c.isDigit then .more { n with phase := .exponent, exponent := [c] }
    else .bad
  | .exponentSign =>
    if c.isDigit then .more { n with phase := .exponent, exponent := [c] } else .bad
  | .exponent =>
    if c.isDigit then .more { n with exponent := c :: n.exponent } else .ended

/-- May the number end here? -/
def isComplete (n : NumberText) : Bool :=
  match n.phase with
  | .zero | .whole | .fraction | .exponent => true
  | _ => false

/-- The decimal that was written. -/
def numeral (n : NumberText) : Numeral where
  negative := n.negative
  whole := n.whole.reverse
  fraction := n.fraction.reverse
  exponent :=
    let magnitude : Int := digitsValue n.exponent.reverse
    if n.exponentNegative then -magnitude else magnitude

/-- The floating-point number, unless it is out of range. -/
def real (n : NumberText) : Except Fault Number :=
  match n.numeral.value with
  | .infinite _ => .error .malformed
  | x => .ok (.real x)

/-- The number written: a whole one in 64 bits where it fits, and `-0` is a real number. -/
def value (n : NumberText) : Except Fault Number :=
  match n.phase with
  | .zero | .whole =>
    let magnitude := digitsValue n.whole.reverse
    if n.negative then
      if 0 < magnitude ∧ magnitude ≤ Nat.pow 2 63 then .ok (.negative (Int64.ofInt (-magnitude)))
      else n.real
    else if magnitude < UInt64.size then .ok (.natural (UInt64.ofNat magnitude))
    else n.real
  | _ => n.real

/-- The number as a draft. -/
def draft (n : NumberText) : Draft :=
  .number ⟨n.value, none⟩

/-- The number as a draft when the text ends here. -/
def draftAtEnd (n : NumberText) : Draft :=
  if n.isComplete then n.draft else .number ⟨.error .truncated, some .malformed⟩

end NumberText

/-! ## Strings -/

/-- How far a string has been read. -/
inductive StringPhase where
  | plain
  | escape
  /-- After the letter `u`: how many bytes have followed, the value of the digits, and whether
  all of them were digits. -/
  | hex (bytes value : Nat) (good : Bool)
deriving DecidableEq, Repr

/-- A string part way through; characters are kept last first. -/
structure StringText where
  chars : List Char := []
  /-- The first half of a surrogate pair, when the second has to follow. -/
  high : Option Nat := none
  /-- Half a pair has been left alone. -/
  lone : Bool := false
  phase : StringPhase := .plain

/-- What a further character makes of a string. -/
inductive StringStep where
  | more (s : StringText)
  | closed (s : StringText)
  | bad (s : StringText)

/-- The value of a hexadecimal digit. -/
def hexValue? (c : Char) : Option Nat :=
  if c.isDigit then some (c.toNat - '0'.toNat)
  else if 'a' ≤ c ∧ c ≤ 'f' then some (c.toNat - 'a'.toNat + 10)
  else if 'A' ≤ c ∧ c ≤ 'F' then some (c.toNat - 'A'.toNat + 10)
  else none

namespace StringText

/-- A first half that waits for its second is given up. -/
def settle (s : StringText) : StringText :=
  if s.high.isSome then { s with high := none, lone := true } else s

/-- One more character of content. -/
def add (s : StringText) (c : Char) : StringText :=
  { s.settle with chars := c :: s.chars, phase := .plain }

/-- The code unit of a finished `\u` escape. -/
def addUnit (s : StringText) (unit : Nat) : StringText :=
  if 0xDC00 ≤ unit ∧ unit ≤ 0xDFFF then
    match s.high with
    | some high =>
      { s with
        high := none
        phase := .plain
        chars := Char.ofNat (0x10000 + (high - 0xD800) * 0x400 + (unit - 0xDC00)) :: s.chars }
    | none => { s with lone := true, phase := .plain }
  else if 0xD800 ≤ unit ∧ unit ≤ 0xDBFF then
    { s.settle with high := some unit, phase := .plain }
  else s.add (Char.ofNat unit)

/-- The string with one more character. -/
def push (s : StringText) (c : Char) : StringStep :=
  match s.phase with
  | .plain =>
    if c = '"' then .closed s.settle
    else if c = '\\' then .more { s with phase := .escape }
    else if c.toNat < 0x20 then .bad s.settle
    else .more (s.add c)
  | .escape =>
    match c with
    | '"' => .more (s.add '"')
    | '\\' => .more (s.add '\\')
    | '/' => .more (s.add '/')
    | 'b' => .more (s.add '\x08')
    | 'f' => .more (s.add '\x0c')
    | 'n' => .more (s.add '\n')
    | 'r' => .more (s.add '\r')
    | 't' => .more (s.add '\t')
    | 'u' => .more { s with phase := .hex 0 0 true }
    | _ => .bad s.settle
  | .hex bytes value good =>
    let bytes := bytes + c.utf8Size
    let (value, good) := match hexValue? c with
      | some digit => (16 * value + digit, good)
      | none => (value, false)
    if bytes < 4 then .more { s with phase := .hex bytes value good }
    else if good then .more (s.addUnit value)
    else .bad s

/-- The string as it is when its closing quote has been read. -/
def leaf (s : StringText) : Leaf String :=
  ⟨if s.lone then .error .malformed else .ok (String.ofList s.chars.reverse), none⟩

/-- The string as it is when it is never closed. -/
def brokenLeaf (s : StringText) (fault : Fault) : Leaf String :=
  ⟨.error (if s.lone then .malformed else fault), some fault⟩

end StringText

/-! ## Whole texts -/

/-- A container that waits for a value: the items or fields before it, last first. -/
inductive Frame where
  | array (items : List Draft)
  | member (fields : List (Leaf String × Draft)) (key : Leaf String)

/-- What may come next. -/
inductive Mode where
  /-- A value. -/
  | value
  /-- A first item or the closing bracket. -/
  | firstItem
  | afterItem (items : List Draft)
  /-- A key, or the closing brace if no field has come before. -/
  | key (fields : List (Leaf String × Draft))
  | colon (fields : List (Leaf String × Draft)) (key : Leaf String)
  | afterField (fields : List (Leaf String × Draft))
  /-- The rest of a word that stands for a value. -/
  | word (rest : List Char) (value : Draft)
  | number (n : NumberText)
  | string (s : StringText)
  | keyString (fields : List (Leaf String × Draft)) (s : StringText)
  /-- Blanks up to the end of the text. -/
  | done (root : Draft)
  /-- Something follows the value. -/
  | surplus (root : Draft)
  /-- The text broke off. -/
  | stopped (root : Draft)

/-- The containers around the place, innermost first, and what may come next. -/
structure State where
  stack : List Frame
  mode : Mode

/-- Is it one of the four blanks of JSON? -/
def isBlank (c : Char) : Bool :=
  c = ' ' || c = '\n' || c = '\t' || c = '\r'

namespace State

/-- A finished value handed to the container that waits for it. -/
def complete (value : Draft) : List Frame → State
  | [] => ⟨[], .done value⟩
  | .array items :: rest => ⟨rest, .afterItem (value :: items)⟩
  | .member fields key :: rest => ⟨rest, .afterField ((key, value) :: fields)⟩

/-- The whole draft when the text breaks off in this value. -/
def abandon (fault : Fault) (value : Draft) : List Frame → Draft
  | [] => value
  | .array items :: rest =>
    abandon fault (.array (value :: items).reverse (some fault)) rest
  | .member fields key :: rest =>
    abandon fault (.object ((key, value) :: fields).reverse (some fault)) rest

/-- The text breaks off in this value. -/
def stop (fault : Fault) (value : Draft) (stack : List Frame) : State :=
  ⟨[], .stopped (abandon fault value stack)⟩

/-- The start of a value. -/
def begin (stack : List Frame) (c : Char) : State :=
  if c = '"' then ⟨stack, .string {}⟩
  else if c = '[' then ⟨stack, .firstItem⟩
  else if c = '{' then ⟨stack, .key []⟩
  else if c = 'n' then ⟨stack, .word ['u', 'l', 'l'] .null⟩
  else if c = 't' then ⟨stack, .word ['r', 'u', 'e'] (.bool true)⟩
  else if c = 'f' then ⟨stack, .word ['a', 'l', 's', 'e'] (.bool false)⟩
  else match NumberText.start? c with
    | some n => ⟨stack, .number n⟩
    | none => stop .malformed (.broken .malformed) stack

/-- A character between two items, two fields, or after the whole value. -/
def between (s : State) (c : Char) : State :=
  match s.mode with
  | .afterItem items =>
    if c = ',' then ⟨.array items :: s.stack, .value⟩
    else if c = ']' then complete (.array items.reverse none) s.stack
    else stop .malformed (.array items.reverse (some .malformed)) s.stack
  | .afterField fields =>
    if c = ',' then ⟨s.stack, .key fields⟩
    else if c = '}' then complete (.object fields.reverse none) s.stack
    else stop .malformed (.object fields.reverse (some .malformed)) s.stack
  | .done root => ⟨s.stack, .surplus root⟩
  | _ => s

/-- A character outside of numbers, words and strings. -/
def structural (s : State) (c : Char) : State :=
  if isBlank c then s
  else match s.mode with
    | .value => begin s.stack c
    | .firstItem =>
      if c = ']' then complete (.array [] none) s.stack
      else begin (.array [] :: s.stack) c
    | .key fields =>
      if c = '"' then ⟨s.stack, .keyString fields {}⟩
      else if c = '}' ∧ fields.isEmpty then complete (.object [] none) s.stack
      else stop .malformed (.object fields.reverse (some .malformed)) s.stack
    | .colon fields key =>
      if c = ':' then ⟨.member fields key :: s.stack, .value⟩
      else stop .malformed (.broken .malformed) (.member fields key :: s.stack)
    | _ => between s c

/-- The state after one more character. -/
def step (s : State) (c : Char) : State :=
  match s.mode with
  | .word rest value =>
    match rest with
    | [] => structural (complete value s.stack) c
    | [last] =>
      if c = last then complete value s.stack
      else stop .malformed (.broken .malformed) s.stack
    | next :: rest =>
      if c = next then ⟨s.stack, .word rest value⟩
      else stop .malformed (.broken .malformed) s.stack
  | .number n =>
    match n.push c with
    | .more n => ⟨s.stack, .number n⟩
    | .ended => structural (complete n.draft s.stack) c
    | .bad => stop .malformed (.broken .malformed) s.stack
  | .string text =>
    match text.push c with
    | .more text => ⟨s.stack, .string text⟩
    | .closed text => complete (.string text.leaf) s.stack
    | .bad text => stop .malformed (.string (text.brokenLeaf .malformed)) s.stack
  | .keyString fields text =>
    match text.push c with
    | .more text => ⟨s.stack, .keyString fields text⟩
    | .closed text => ⟨s.stack, .colon fields text.leaf⟩
    | .bad text =>
      stop .malformed (.broken .malformed)
        (.member fields (text.brokenLeaf .malformed) :: s.stack)
  | .surplus _ | .stopped _ => s
  | _ => structural s c

/-- Before the first character. -/
def initial : State := ⟨[], .value⟩

end State

/-- A whole text: its value, and whether anything but blanks follows it. -/
structure Document where
  root : Draft
  surplus : Bool

/-- The text ends where no number is being read. -/
def State.cut (s : State) : Document :=
  match s.mode with
  | .done root | .stopped root => ⟨root, false⟩
  | .surplus root => ⟨root, true⟩
  | .firstItem => ⟨abandon .truncated (.array [] (some .truncated)) s.stack, false⟩
  | .afterItem items =>
    ⟨abandon .truncated (.array items.reverse (some .truncated)) s.stack, false⟩
  | .key fields | .afterField fields =>
    ⟨abandon .truncated (.object fields.reverse (some .truncated)) s.stack, false⟩
  | .colon fields key =>
    ⟨abandon .truncated (.broken .truncated) (.member fields key :: s.stack), false⟩
  | .string text =>
    ⟨abandon .truncated (.string (text.brokenLeaf .truncated)) s.stack, false⟩
  | .keyString fields text =>
    ⟨abandon .truncated (.broken .truncated)
      (.member fields (text.brokenLeaf .truncated) :: s.stack), false⟩
  | .value | .word .. | .number _ =>
    ⟨abandon .truncated (.broken .truncated) s.stack, false⟩

/-- What has been read when the text ends: a number may end there, and one that may not is a
fault of another kind where it is skipped. -/
def State.finish (s : State) : Document :=
  match s.mode with
  | .number n =>
    if n.isComplete then (complete n.draft s.stack).cut
    else ⟨abandon .malformed n.draftAtEnd s.stack, false⟩
  | _ => s.cut

/-- The draft of a text. -/
def Document.ofText (text : List Char) : Document :=
  (text.foldl State.step State.initial).finish

end Json
end GameJam
