import GameJam.Text.Utf8

/-!
# Reading files

What is on the disk is seen as a function from paths to bytes, so that everything that reads a file
can be told what it reads.

## What is here

* `FileError` — why a file cannot be read.
* `Files`, with `Files.text`, which reads UTF-8, and `Files.holds`.
-/

set_option autoImplicit false

namespace GameJam

/-- Why a file cannot be read. -/
inductive FileError where
  | notFound
  | denied
  | notADirectory
  | isADirectory
  | nameTooLong
  /-- There is a NUL in its name. -/
  | impossibleName
  | notUtf8
deriving DecidableEq, Repr

namespace FileError

/-- What is said about a file that cannot be read. -/
def message : FileError → String
  | .notFound => "No such file or directory (os error 2)"
  | .denied => "Permission denied (os error 13)"
  | .notADirectory => "Not a directory (os error 20)"
  | .isADirectory => "Is a directory (os error 21)"
  | .nameTooLong => "File name too long (os error 36)"
  | .impossibleName => "file name contained an unexpected NUL byte"
  | .notUtf8 => "stream did not contain valid UTF-8"

end FileError

/-- What reading each path gives. -/
abbrev Files := String → Except FileError (List UInt8)

namespace Files

/-- The text of a file. -/
def text (files : Files) (path : String) : Except FileError String := do
  match Utf8.decode? (← files path) with
  | some text => return String.ofList text
  | none => throw .notUtf8

/-- Is there a file at a path?  One that must not be read counts too. -/
def holds (files : Files) (path : String) : Bool :=
  match files path with
  | .ok _ | .error .denied => true
  | .error _ => false

end Files
end GameJam
