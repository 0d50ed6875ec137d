import GameJam.Proofs.Paging

/-!
# The slices of a list

The items of a page are cut out of the list between two places.  These are computed in 64 bits, by
arithmetic that stops at the largest count, and then moved back to the end of the list if they are
beyond it.  How many pages there are is computed elsewhere, by a division.  This file says that the
two fit together for every page size: the slices up to that number are the list, all of them but the
last are full, and none of the others has an item, however far beyond the end they are.

## What is here

* `itemsBetween?` — the items between two places, if the list has these places;
  `itemsBetween?_pageBounds` says that it has those of a page.
* `flatten_pageSlice` — **the slices, one after the other, are the list**.
* `length_pageSlice_of_lt`, `pageSlice_eq_nil_iff` — which slices are full, and which are empty.
* `Slices` and `slices_of_list` — **how the slices make up a list**.
-/

set_option autoImplicit false

universe u

namespace GameJam

/-! ## Within the list -/

/-- The items from one place up to another one, unless the list does not have both of them in this
order. -/
def itemsBetween? {α : Type u} (items : List α) (start stop : UInt64) : Option (List α) :=
  if start ≤ stop ∧ stop.toNat ≤ items.length then
    some ((items.drop start.toNat).take (stop.toNat - start.toNat))
  else none

section PageSlice

variable {α : Type u} {items : List α} {page perPage : UInt64}

/-- **A slice never leaves the list.** -/
theorem itemsBetween?_pageBounds (items : List α) (page perPage : UInt64) :
    itemsBetween? items (pageBounds items.length.toUInt64 page perPage).1
      (pageBounds items.length.toUInt64 page perPage).2 = some (pageSlice items page perPage) := by
  obtain ⟨hle, hsize⟩ := pageBounds_le items.length.toUInt64 page perPage
  have hcount : items.length.toUInt64.toNat ≤ items.length := Nat.mod_le _ _
  exact if_pos ⟨hle, (UInt64.le_iff_toNat_le.1 hsize).trans hcount⟩

/-! ## Settings of 0 -/

theorem itemsPerPage_max_one (perPage : UInt64) :
    itemsPerPage (max perPage 1) = itemsPerPage perPage := by
  rw [itemsPerPage, itemsPerPage, toNat_max_one]
  omega

theorem pageCount_max_one (total perPage : UInt64) :
    pageCount total (max perPage 1) = pageCount total perPage := by
  rw [← UInt64.toNat_inj, toNat_pageCount, toNat_pageCount, itemsPerPage_max_one]

theorem pageSlice_max_one (hitems : items.length < UInt64.size) (page perPage : UInt64) :
    pageSlice items (max page 1) (max perPage 1) = pageSlice items page perPage := by
  have hpage : (max page 1).toNat - 1 = page.toNat - 1 := by
    rw [toNat_max_one]
    omega
  rw [pageSlice_eq hitems, pageSlice_eq hitems, itemsPerPage_max_one, hpage]

/-! ## How many items are on a page -/

/-- A page is counted exactly if an item of the list is on it.  Pages are numbered from 0 here. -/
theorem lt_pageCount_length_iff (hitems : items.length < UInt64.size) (perPage : UInt64) (k : ℕ) :
    k < (pageCount items.length.toUInt64 perPage).toNat ↔
      k * itemsPerPage perPage < items.length := by
  rw [lt_pageCount_iff, toNat_toUInt64_of_lt hitems, Nat.mul_comm]

theorem length_pageSlice_eq_min (hitems : items.length < UInt64.size) (page perPage : UInt64) :
    (pageSlice items page perPage).length =
      min (itemsPerPage perPage) (items.length - (page.toNat - 1) * itemsPerPage perPage) := by
  rw [pageSlice_eq hitems, List.length_take, List.length_drop]

/-- **A page is full if another one comes after it.** -/
theorem length_pageSlice_of_lt (hitems : items.length < UInt64.size) (hpos : 1 ≤ page)
    (hlt : page < pageCount items.length.toUInt64 perPage) :
    (pageSlice items page perPage).length = itemsPerPage perPage := by
  have hnext := (lt_pageCount_length_iff hitems perPage _).1 (UInt64.lt_iff_toNat_lt.1 hlt)
  obtain ⟨k, hk⟩ := Nat.exists_eq_add_of_le' (UInt64.le_iff_toNat_le.1 hpos)
  rw [hk, UInt64.toNat_one, Nat.succ_mul] at hnext
  rw [length_pageSlice_eq_min hitems, hk, UInt64.toNat_one, Nat.add_sub_cancel]
  omega

/-- **A page is empty exactly if it is beyond those that are counted.** -/
theorem pageSlice_eq_nil_iff (hitems : items.length < UInt64.size) (hpos : 1 ≤ page) :
    pageSlice items page perPage = [] ↔ pageCount items.length.toUInt64 perPage < page := by
  have hcounted := lt_pageCount_length_iff hitems perPage (page.toNat - 1)
  have hsize := itemsPerPage_pos perPage
  rw [UInt64.le_iff_toNat_le, UInt64.toNat_one] at hpos
  rw [← List.length_eq_zero_iff, length_pageSlice_eq_min hitems, UInt64.lt_iff_toNat_lt]
  omega

/-- A page is empty if the items before it are too many to be counted. -/
theorem pageSlice_eq_nil_of_size_le (hitems : items.length < UInt64.size)
    (hfar : UInt64.size ≤ (page.toNat - 1) * itemsPerPage perPage) :
    pageSlice items page perPage = [] := by
  rw [← List.length_eq_zero_iff, length_pageSlice_eq_min hitems]
  omega

/-! ## One slice after the other -/

/-- The numbers of the pages do not wrap. -/
theorem toNat_ofNat_of_le {total : UInt64} {k : ℕ} (hk : k ≤ total.toNat) :
    (UInt64.ofNat k).toNat = k :=
  UInt64.toNat_ofNat_of_lt' (Nat.lt_of_le_of_lt hk total.toNat_lt)

/-- **The slices, one after the other, are the list.** -/
theorem flatten_pageSlice (hitems : items.length < UInt64.size) (perPage : UInt64) :
    ((List.range' 1 (pageCount items.length.toUInt64 perPage).toNat).map fun k =>
      pageSlice items (UInt64.ofNat k) perPage).flatten = items := by
  have hruns : (List.range' 1 (pageCount items.length.toUInt64 perPage).toNat).map (fun k =>
        pageSlice items (UInt64.ofNat k) perPage)
      = (List.range (pageCount items.length.toUInt64 perPage).toNat).map fun k =>
        (items.drop (k * itemsPerPage perPage)).take (itemsPerPage perPage) := by
    rw [List.range'_eq_map_range, List.map_map]
    refine List.map_congr_left fun k hk => ?_
    have hpage : 1 + k ≤ (pageCount items.length.toUInt64 perPage).toNat :=
      Nat.one_add k ▸ List.mem_range.1 hk
    rw [Function.comp_apply, pageSlice_eq hitems, toNat_ofNat_of_le hpage,
      Nat.add_sub_cancel_left]
  -- An item that is on none of these pages would be on one that is not counted.
  have hall : items.length
      ≤ (pageCount items.length.toUInt64 perPage).toNat * itemsPerPage perPage := by
    rw [← Nat.not_lt, ← lt_pageCount_length_iff hitems]
    exact Nat.lt_irrefl _
  rw [hruns, flatten_runs, List.take_of_length_le hall]

end PageSlice

/-! ## How the slices make up a list -/

/-- What the slices of a list are, where `slice` gives the one for each page, `total` is the number
of pages, and `size` the number of items on a full one. -/
structure Slices {α : Type u} (items : List α) (size : ℕ) (total : UInt64)
    (slice : UInt64 → List α) : Prop where
  flatten_eq : ((List.range' 1 total.toNat).map fun k => slice (UInt64.ofNat k)).flatten = items
  length_eq : ∀ page, 1 ≤ page → page < total → (slice page).length = size
  length_last : 1 ≤ total → 1 ≤ (slice total).length ∧ (slice total).length ≤ size
  eq_nil_of_lt : ∀ page, total < page → slice page = []

/-- **How the slices make up a list**, for any page size and any items that can be counted in 64
bits.  A slice never leaves the list, whichever page is asked for.  The slices up to the number of
pages are the list, each of them but the last is full, and the last has an item.  All others are
empty, also if the items before them could not be counted.  Page 0 is page 1, and a page size of 0
is one of 1. -/
theorem slices_of_list {α : Type u} (items : List α) (hitems : items.length < UInt64.size)
    (perPage : UInt64) :
    (∀ page, itemsBetween? items (pageBounds items.length.toUInt64 page perPage).1
      (pageBounds items.length.toUInt64 page perPage).2 = some (pageSlice items page perPage)) ∧
    Slices items (itemsPerPage perPage) (pageCount items.length.toUInt64 perPage)
      (fun page => pageSlice items page perPage) ∧
    (∀ page, UInt64.size ≤ (page.toNat - 1) * itemsPerPage perPage →
      pageSlice items page perPage = []) ∧
    (∀ page, pageSlice items (max page 1) (max perPage 1) = pageSlice items page perPage) ∧
    pageCount items.length.toUInt64 (max perPage 1)
      = pageCount items.length.toUInt64 perPage := by
  refine ⟨fun page => itemsBetween?_pageBounds items page perPage, ?_,
    fun page => pageSlice_eq_nil_of_size_le hitems,
    fun page => pageSlice_max_one hitems page perPage, pageCount_max_one _ perPage⟩
  refine
    { flatten_eq := flatten_pageSlice hitems perPage
      length_eq := fun page => length_pageSlice_of_lt hitems
      length_last := fun hsome => ⟨?_, ?_⟩
      eq_nil_of_lt := fun page hlt => ?_ }
  · refine List.length_pos_iff.2 fun hnil => ?_
    exact UInt64.lt_irrefl _ ((pageSlice_eq_nil_iff hitems hsome).1 hnil)
  · rw [length_pageSlice_eq_min hitems]
    exact Nat.min_le_left _ _
  · have hpos : 1 ≤ page := by
      rw [UInt64.lt_iff_toNat_lt] at hlt
      rw [UInt64.le_iff_toNat_le, UInt64.toNat_one]
      omega
    exact (pageSlice_eq_nil_iff hitems hpos).2 hlt

/-- Five items fill three pages of two.  The last page that can be asked for begins where no item
can be counted. -/
theorem slices_of_list_five_items :
    let items := [1, 2, 3, 4, 5]
    let farthest : UInt64 := 18446744073709551615
    items.length < UInt64.size ∧
    Slices items 2 3 (fun page => pageSlice items page 2) ∧ pageSlice items 3 2 = [5] ∧
    UInt64.size ≤ (farthest.toNat - 1) * itemsPerPage 2 ∧ pageSlice items farthest 2 = [] := by
  intro items farthest
  have hitems : items.length < UInt64.size := by decide
  have hfarthest : UInt64.size ≤ (farthest.toNat - 1) * itemsPerPage 2 := by decide
  have hcount : pageCount items.length.toUInt64 2 = 3 := by decide
  have hsize : itemsPerPage 2 = 2 := rfl
  obtain ⟨-, hslices, hfar, -⟩ := slices_of_list items hitems 2
  rw [hcount, hsize] at hslices
  exact ⟨hitems, hslices, rfl, hfarthest, hfar farthest hfarthest⟩

end GameJam
