import GameJam.Pattern.Class

/-!
# The size of a pattern

A pattern is refused when the automaton that would recognise it, forwards or backwards, takes more
than ten mebibytes.  The automaton reads the bytes of UTF-8, so that a class of characters is a
network of byte ranges; forwards the network is shared as far as it goes, backwards only from its
beginning.

Sizes are counted in the cells of such an automaton: 32 bytes a state, 8 for each range of a state
with several, and 4 for each branch of a state that branches.

## What is here

* `byteRanges` — a range of code points as sequences of byte ranges.
* `forwardClassSize`, `backwardClassSize` — the networks of a class.
* `sizeLimit`.
-/

set_option autoImplicit false

namespace GameJam
namespace Pattern

/-- The greatest size, in bytes. -/
def sizeLimit : Nat := 10 * 1024 * 1024

/-- The size of a state. -/
def stateSize : Nat := 32

/-- The size of one range of a state with several. -/
def rangeSize : Nat := 8

/-- The size of one branch. -/
def branchSize : Nat := 4

/-! ## Classes as byte ranges -/

/-- A code point as the bytes of UTF-8. -/
def utf8Bytes (c : Nat) : List Nat :=
  if c < 0x80 then [c]
  else if c < 0x800 then [0xC0 + c / 0x40, 0x80 + c % 0x40]
  else if c < 0x10000 then [0xE0 + c / 0x1000, 0x80 + c / 0x40 % 0x40, 0x80 + c % 0x40]
  else [0xF0 + c / 0x40000, 0x80 + c / 0x1000 % 0x40, 0x80 + c / 0x40 % 0x40, 0x80 + c % 0x40]

/-- A cut of a range of code points that has to be made before its bytes vary independently:
the last code point of the first part. -/
def cut? (low high : Nat) : Option Nat :=
  if low < 0xD800 ∧ 0xD800 ≤ high then some 0xD7FF
  else if low ≤ 0x7F ∧ 0x7F < high then some 0x7F
  else if low ≤ 0x7FF ∧ 0x7FF < high then some 0x7FF
  else if low ≤ 0xFFFF ∧ 0xFFFF < high then some 0xFFFF
  else if high ≤ 0x7F then none
  else [0x40, 0x1000, 0x40000].findSome? fun block =>
    if low / block ≠ high / block then
      if low % block ≠ 0 then some (low / block * block + (block - 1))
      else if high % block ≠ block - 1 then some (high / block * block - 1)
      else none
    else none

/-- The sequences of byte ranges that make up a range of code points. -/
def byteRanges : Nat → Nat → Nat → List (List (Nat × Nat))
  | 0, _, _ => []
  | fuel + 1, low, high =>
    if high < low then []
    else if 0xD800 ≤ low ∧ high ≤ 0xDFFF then []
    else if 0xD800 ≤ low ∧ low ≤ 0xDFFF then byteRanges fuel 0xE000 high
    else match cut? low high with
      | some middle => byteRanges fuel low middle ++ byteRanges fuel (middle + 1) high
      | none => [(utf8Bytes low).zip (utf8Bytes high)]

/-- The ranges of code points of a class. -/
def classRanges (c : CharClass) : List (Nat × Nat) :=
  let extend (ranges : List (Nat × Nat)) (n : Nat) : List (Nat × Nat) :=
    if (0xD800 ≤ n && n ≤ 0xDFFF) || !c.contains (Char.ofNat n) then ranges
    else match ranges with
      | (low, high) :: rest =>
        if high + 1 = n then (low, n) :: rest else (n, n) :: (low, high) :: rest
      | [] => [(n, n)]
  ((List.range 0x110000).foldl extend []).reverse

/-! ## Networks -/

/-- The tree of the sequences: each node with its ranges, grouped by first range.  Sequences that
begin alike stand together. -/
inductive Network where
  | node (branches : List ((Nat × Nat) × Network))
deriving BEq

/-- The network of some sequences, merging those that begin with the same range. -/
def network : Nat → List (List (Nat × Nat)) → Network
  | 0, _ => .node []
  | fuel + 1, sequences =>
    let heads := (sequences.filterMap List.head?).eraseReps
    .node (heads.map fun head =>
      (head, network fuel (sequences.filterMap fun s =>
        match s with
        | first :: rest => if first = head then some rest else none
        | [] => none)))

mutual

/-- All parts of a network that lead on, innermost first. -/
def Network.parts : Network → List Network
  | .node [] => []
  | .node (branch :: branches) =>
    partsOf (branch :: branches) ++ [.node (branch :: branches)]

/-- All parts of the networks behind some branches. -/
def Network.partsOf : List ((Nat × Nat) × Network) → List Network
  | [] => []
  | (_, next) :: rest => next.parts ++ Network.partsOf rest

end

/-- The number of branches of a network. -/
def Network.width : Network → Nat
  | .node branches => branches.length

/-- The size of a class read forwards: equal parts of the network are shared. -/
def forwardClassSize (ranges : List (Nat × Nat)) : Nat :=
  if ranges.all fun r => r.2 < 0x80 then 2 * stateSize + rangeSize * ranges.length
  else
    let sequences := ranges.flatMap fun r => byteRanges 64 r.1 r.2
    let parts := (network 5 sequences).parts.eraseDups
    stateSize + parts.foldl (fun size part => size + stateSize + rangeSize * part.width) 0

/-- The size of a class read backwards: only common beginnings are shared, and every sequence is
a branch. -/
def backwardClassSize (ranges : List (Nat × Nat)) : Nat :=
  if ranges.all fun r => r.2 < 0x80 then 2 * stateSize + rangeSize * ranges.length
  else
    let sequences := ranges.flatMap fun r => byteRanges 64 r.1 r.2
    let parts := (network 5 sequences).parts
    2 * stateSize + branchSize * sequences.length
      + stateSize * parts.foldl (fun size part => size + part.width) 0

end Pattern
end GameJam
