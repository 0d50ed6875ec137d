import GameJam.Number.Basic

/-!
# Pages of a list

The matches of a filter are shown a page at a time.  Pages are numbered from 1 and counted in
64 bits; the number of items a page holds is at least 1, a setting of 0 counting as 1.

## What is here

* `PageSize` — a number of items that is not 0.
* `pageCount`, `clampPage` — how many pages there are, and the page nearest to a requested one.
* `pageBounds`, `pageSlice` — the items of a page; past the end there are none.
* `pagerWindow` — the numbers a pager shows around the current page.
-/

set_option autoImplicit false

universe u

namespace GameJam

/-- How many items a page holds, where that is known to be some. -/
structure PageSize where
  count : UInt64
  count_ne_zero : count ≠ 0
deriving DecidableEq, Repr

/-- The page size of a count, unless it is 0. -/
def PageSize.ofCount? (count : UInt64) : Option PageSize :=
  if h : count ≠ 0 then some ⟨count, h⟩ else none

theorem PageSize.ofCount?_eq_none_iff (count : UInt64) :
    PageSize.ofCount? count = none ↔ count = 0 := by
  unfold PageSize.ofCount?
  split <;> simp_all

/-- How many pages `total` items fill. -/
def pageCount (total perPage : UInt64) : UInt64 :=
  let perPage := max perPage 1
  if total % perPage = 0 then total / perPage else total / perPage + 1

/-- The page closest to the requested one among `1, …, totalPages`; page 1 if there is none. -/
def clampPage (page totalPages : UInt64) : UInt64 :=
  min (max page 1) (max totalPages 1)

/-- Where the page begins and ends among `size` items. -/
def pageBounds (size page perPage : UInt64) : UInt64 × UInt64 :=
  let perPage := max perPage 1
  let start := min (saturatingMul (saturatingPred page) perPage) size
  (start, min (saturatingAdd start perPage) size)

/-- The items on a page. -/
def pageSlice {α : Type u} (items : List α) (page perPage : UInt64) : List α :=
  let (start, stop) := pageBounds items.length.toUInt64 page perPage
  (items.drop start.toNat).take (stop.toNat - start.toNat)

/-! ## The pager -/

/-- One slot of the pager line. -/
inductive PagerSlot where
  | page (n : UInt64)
  /-- Some pages are left out here. -/
  | gap
deriving DecidableEq

/-- The pages from 1 to `n`. -/
def pagesUpTo (n : UInt64) : List PagerSlot :=
  (List.range n.toNat).map fun i => .page (UInt64.ofNat (i + 1))

/-- Up to five pages are all shown.  Beyond that the first and the last page always are, together
with the first four, the last four, or the current page and its neighbours. -/
def pagerWindow (current totalPages : UInt64) : List PagerSlot :=
  if totalPages ≤ 5 then pagesUpTo totalPages
  else if current ≤ 3 then
    [.page 1, .page 2, .page 3, .page 4, .gap, .page totalPages]
  else if totalPages - 2 ≤ current then
    [.page 1, .gap, .page (totalPages - 3), .page (totalPages - 2), .page (totalPages - 1),
      .page totalPages]
  else
    [.page 1, .gap, .page (current - 1), .page current, .page (current + 1), .gap,
      .page totalPages]

end GameJam
