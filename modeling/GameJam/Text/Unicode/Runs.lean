/-!
# Tables over the code space

A property of characters is kept as a short text: words such as `41-5A` for the code points of a
range and `Lu41` for the first code point of a run.  This file reads such texts into sorted
arrays and searches them by halving.

## What is here

* `hexNumber` — the number a run of hexadecimal digits writes.
* `Ranges`, with `Ranges.ofText` and `Ranges.contains` — a set of code points.
* `Runs`, with `Runs.at?` — a value for each code point, constant over runs.
-/

set_option autoImplicit false

universe u

namespace GameJam
namespace Unicode

/-- The words of some lines. -/
def wordsOf (lines : List String) : List (List Char) :=
  lines.flatMap fun line => split line.toList
where
  /-- The parts of a line between single blanks. -/
  split (line : List Char) : List (List Char) :=
    let (last, words) := line.foldr
      (fun c (word, words) => if c = ' ' then ([], word :: words) else (c :: word, words)) ([], [])
    last :: words

/-- The value of a hexadecimal digit in upper case. -/
def hexDigitValue (c : Char) : Nat :=
  if c ≤ '9' then c.toNat - '0'.toNat else c.toNat - 'A'.toNat + 10

/-- The number a run of hexadecimal digits writes. -/
def hexNumber (digits : List Char) : Nat :=
  digits.foldl (fun n c => 16 * n + hexDigitValue c) 0

/-- What stands before and after the first occurrence of a character. -/
def splitAt (separator : Char) (word : List Char) : List Char × List Char :=
  (word.takeWhile (· ≠ separator), (word.dropWhile (· ≠ separator)).drop 1)

/-- A set of code points as ranges with both ends, in increasing order. -/
abbrev Ranges := Array (Nat × Nat)

namespace Ranges

/-- The range a word such as `41-5A` or `AA` writes. -/
def ofWord (word : List Char) : Nat × Nat :=
  let (low, high) := splitAt '-' word
  (hexNumber low, if high.isEmpty then hexNumber low else hexNumber high)

/-- The set that some lines of words write. -/
def ofText (lines : List String) : Ranges :=
  ((wordsOf lines).filter (! ·.isEmpty)).toArray.map ofWord

/-- The number of ranges, at the places from `low` to below `high`, that begin at or before `c`,
counted from 0; found by halving. -/
def rank (starts : Nat → Nat) (c low high : Nat) : Nat :=
  if low < high then
    let middle := (low + high) / 2
    if starts middle ≤ c then rank starts c (middle + 1) high else rank starts c low middle
  else low
termination_by high - low

/-- Is the code point in the set? -/
def contains (ranges : Ranges) (c : Nat) : Bool :=
  let n := rank (fun i => (ranges.getD i (0, 0)).1) c 0 ranges.size
  n != 0 && c ≤ (ranges.getD (n - 1) (0, 0)).2

end Ranges

/-- A value for each code point: the first code points of the runs, in increasing order, with the
values over them. -/
abbrev Runs (α : Type u) := Array (Nat × α)

/-- The value at a code point, if a run begins at or before it. -/
def Runs.at? {α : Type u} (runs : Runs α) (c : Nat) : Option α :=
  let n := Ranges.rank (fun i => (runs[i]?.map Prod.fst).getD 0) c 0 runs.size
  if n = 0 then none else runs[n - 1]?.map Prod.snd

end Unicode
end GameJam
