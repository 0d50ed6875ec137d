/-!
# UTF-8

The bytes of a text, and the text of bytes.  Bytes are read one at a time: a first byte tells how
many more belong to its character, and which values the next of them may have.  Where that fails,
the bytes up to there stand for no character, and reading goes on with the byte that did not fit.

## What is here

* `Utf8.encode` — the bytes of a text.
* `Utf8.step` and `Utf8.scan` — the characters that bytes stand for, `none` where they stand for
  none.
* `Utf8.decode?` and `Utf8.decodeLossy` — the text, if there is one, and the text with U+FFFD
  where there is none.
-/

set_option autoImplicit false

namespace GameJam
namespace Utf8

/-- The bytes of a text. -/
def encode (text : List Char) : List UInt8 :=
  text.flatMap String.utf8EncodeChar

/-- A character that has begun. -/
structure Pending where
  /-- How many bytes are still to come. -/
  owed : Nat
  /-- The bounds of the next one. -/
  low : Nat
  high : Nat
  /-- The bits read so far. -/
  value : Nat
deriving DecidableEq

/-- What a byte is at the start of a character. -/
inductive Lead where
  | whole (c : Char)
  | start (pending : Pending)
  | stray
deriving DecidableEq

/-- What a byte is at the start of a character.  The bounds of the second byte keep out
characters written too long, surrogates, and what is beyond U+10FFFF. -/
def lead (b : Nat) : Lead :=
  if b ≤ 0x7F then .whole (Char.ofNat b)
  else if b < 0xC2 then .stray
  else if b ≤ 0xDF then .start ⟨1, 0x80, 0xBF, b - 0xC0⟩
  else if b = 0xE0 then .start ⟨2, 0xA0, 0xBF, 0⟩
  else if b = 0xED then .start ⟨2, 0x80, 0x9F, 0xD⟩
  else if b ≤ 0xEF then .start ⟨2, 0x80, 0xBF, b - 0xE0⟩
  else if b = 0xF0 then .start ⟨3, 0x90, 0xBF, 0⟩
  else if b ≤ 0xF3 then .start ⟨3, 0x80, 0xBF, b - 0xF0⟩
  else if b = 0xF4 then .start ⟨3, 0x80, 0x8F, 4⟩
  else .stray

/-- What a byte at the start of a character gives, and what has then begun. -/
def begin (b : Nat) : List (Option Char) × Option Pending :=
  match lead b with
  | .whole c => ([some c], none)
  | .start pending => ([], some pending)
  | .stray => ([none], none)

/-- What a byte gives after what has begun, and what has then begun. -/
def step (state : Option Pending) (b : Nat) : List (Option Char) × Option Pending :=
  match state with
  | none => begin b
  | some pending =>
    if pending.low ≤ b ∧ b ≤ pending.high then
      let value := 64 * pending.value + (b - 0x80)
      if pending.owed ≤ 1 then ([some (Char.ofNat value)], none)
      else ([], some ⟨pending.owed - 1, 0x80, 0xBF, value⟩)
    else
      let (read, next) := begin b
      (none :: read, next)

/-- The characters of bytes that follow on what has begun. -/
def scan (state : Option Pending) : List UInt8 → List (Option Char)
  | [] => if state.isSome then [none] else []
  | b :: rest =>
    let (read, next) := step state b.toNat
    read ++ scan next rest

/-- The text, if the bytes are that of one. -/
def decode? (bytes : List UInt8) : Option (List Char) :=
  (scan none bytes).mapM id

/-- The text, with a replacement character for bytes that are not part of one. -/
def decodeLossy (bytes : List UInt8) : List Char :=
  (scan none bytes).map fun c => c.getD '\uFFFD'

end Utf8
end GameJam
