import GameJam.Files.Basic
import GameJam.Files.Path

/-!
# Trees of files

Files in directories, kept as a value.  A place in the tree is the list of the names that lead to
it from the root.

## What is here

* `FileTree`, with `write`, which makes the directories that it needs, and `remove`.
* `FileTree.walk` and `FileTree.read` — what reading a path gives, seen from a directory.
-/

set_option autoImplicit false

namespace GameJam

/-- Directories and files by the names that lead to them.  The root is always there. -/
structure FileTree where
  directories : List (List String) := []
  files : List (List String × List UInt8) := []
deriving DecidableEq

namespace FileTree

/-- Is there a directory? -/
def hasDirectory (tree : FileTree) (place : List String) : Bool :=
  place.isEmpty || tree.directories.contains place

/-- The bytes of the file at a place. -/
def file? (tree : FileTree) (place : List String) : Option (List UInt8) :=
  tree.files.lookup place

/-- Makes a directory and those that it is in. -/
def addDirectory (tree : FileTree) (place : List String) : FileTree :=
  { tree with
    directories := (List.range place.length).map (fun n => place.take (n + 1)) ++ tree.directories }

/-- Writes a file, in place of the one that may be there. -/
def write (tree : FileTree) (place : List String) (bytes : List UInt8) : FileTree :=
  let tree := tree.addDirectory place.dropLast
  { tree with files := (place, bytes) :: tree.files.filter fun file => file.1 != place }

/-- Removes a file; its directory stays. -/
def remove (tree : FileTree) (place : List String) : FileTree :=
  { tree with files := tree.files.filter fun file => file.1 != place }

/-! ## Reading paths -/

/-- How many bytes a name may have. -/
def maxName : Nat := 255

/-- How many bytes a path may have. -/
def maxPath : Nat := 4095

/-- What the parts of a path lead to from a directory.  Two points lead to the directory outside,
and from the root to the root. -/
def walk (tree : FileTree) (place : List String) : List String → Except FileError (List UInt8)
  | [] => .error .isADirectory
  | part :: rest =>
    if Path.isIdle part then tree.walk place rest
    else if part == ".." then tree.walk place.dropLast rest
    else if maxName < part.utf8ByteSize then .error .nameTooLong
    else
      let next := place ++ [part]
      if tree.hasDirectory next then tree.walk next rest
      else match tree.file? next with
        | some bytes => if rest.isEmpty then .ok bytes else .error .notADirectory
        | none => .error .notFound

/-- What reading each path gives, seen from a directory. -/
def read (tree : FileTree) (directory : List String) : Files := fun path =>
  if path.toList.contains '\x00' then .error .impossibleName
  else if path == "" then .error .notFound
  else if maxPath < path.utf8ByteSize then .error .nameTooLong
  else tree.walk (if Path.isAbsolute path then [] else directory) (Path.parts path)

end FileTree
end GameJam
