import GameJam.Text.Fields

/-!
# Paths

A path names a file by the directories that lead to it, with slashes between them.  One that begins
with a slash starts at the root; any other one starts at the directory that it is looked at from.

## What is here

* `Path.parts` — what is written between the slashes.
* `Path.steps` and `Path.same` — two paths are the same if they take the same steps, however many
  slashes there are.
* `Path.join` and `Path.parent?`.
-/

set_option autoImplicit false

namespace GameJam
namespace Path

/-- What is written between the slashes; the first part of a path that starts at the root is
empty. -/
def parts (path : String) : List String :=
  (fieldsBetween '/' path.toList).map String.ofList

/-- Does the path start at the root? -/
def isAbsolute (path : String) : Bool :=
  path.toList.head? == some '/'

/-- Does the part lead nowhere else? -/
def isIdle (part : String) : Bool :=
  part == "" || part == "."

/-- The steps of a path.  A point counts only at the beginning. -/
def steps (path : String) : List String :=
  match parts path with
  | "." :: rest => "." :: rest.filter fun part => !isIdle part
  | parts => parts.filter fun part => !isIdle part

/-- Do two paths take the same steps from the same start? -/
def same (a b : String) : Bool :=
  isAbsolute a == isAbsolute b && steps a == steps b

@[simp]
theorem same_self (path : String) : same path path = true := by
  simp [same]

/-- The path that is read from a directory, unless it starts at the root itself. -/
def join (directory path : String) : String :=
  if isAbsolute path then path
  else if directory == "" || directory.toList.getLast? == some '/' then directory ++ path
  else directory ++ "/" ++ path

/-- Parts without those at the end that lead nowhere else; the first part is kept. -/
def trimmed : List String → List String
  | [] => []
  | first :: rest => first :: (rest.reverse.dropWhile isIdle).reverse

/-- The path without its last step.  The root has no such path, and neither has the path without
any step. -/
def parent? (path : String) : Option String :=
  match trimmed (parts path) with
  | [] | [""] => none
  | parts =>
    match trimmed parts.dropLast with
    | [] => some ""
    | [""] => some "/"
    | parts => some ("/".intercalate parts)

end Path
end GameJam
