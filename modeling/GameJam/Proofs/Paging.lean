import GameJam.Paging
import Mathlib.Algebra.Order.Floor.Div

/-!
# Pages in exact arithmetic

Pages are counted in 64 bits, by expressions that could wrap.  This file says what they come to on
natural numbers, where nothing wraps: the number of pages is a quotient that is rounded up, and a
page is a run of items that begins at a multiple of the page size.  The pages up to that number then
are the list cut into runs.

## What is here

* `toNat_pageCount`, `toNat_clampPage`, `pageSlice_eq` — the three expressions on natural numbers.
* `flatten_runs` — **runs of one length, one after the other, are the list**.
* `lt_pageCount_iff` — a page is counted exactly if an item is on it.
* `exactAdd?`, `exactSub?`, `exactMul?` — arithmetic that gives nothing where a result has no place
  in 64 bits, and `pageCount?`, `pageSlice?`, `pagerWindow?` by it.  They give the same as the
  expressions that could wrap.
-/

set_option autoImplicit false

universe u

namespace GameJam

/-! ## How many pages there are -/

theorem toNat_toUInt64_of_lt {n : ℕ} (h : n < UInt64.size) : n.toUInt64.toNat = n :=
  UInt64.toNat_ofNat_of_lt' h

/-- How many items a page holds, 0 counting as 1. -/
def itemsPerPage (perPage : UInt64) : ℕ :=
  max perPage.toNat 1

theorem itemsPerPage_pos (perPage : UInt64) : 0 < itemsPerPage perPage :=
  Nat.le_max_right _ 1

theorem PageSize.itemsPerPage_count (size : PageSize) :
    itemsPerPage size.count = size.count.toNat := by
  have hpos : 0 < size.count.toNat := UInt64.pos_iff_ne_zero.2 size.count_ne_zero
  exact Nat.max_eq_left hpos

theorem toNat_max_one (n : UInt64) : (max n 1).toNat = max n.toNat 1 :=
  UInt64.toNat_max n 1

/-- A quotient that is rounded up, by the remainder. -/
theorem ceilDiv_eq_ite {s : ℕ} (hs : 0 < s) (n : ℕ) :
    n ⌈/⌉ s = if n % s = 0 then n / s else n / s + 1 := by
  refine eq_of_forall_ge_iff fun c => ?_
  rw [ceilDiv_le_iff_le_mul hs]
  split
  · rename_i hmod
    rw [Nat.div_le_iff_le_mul_of_dvd hs.ne' (Nat.dvd_of_mod_eq_zero hmod), Nat.mul_comm]
  · rename_i hmod
    have hne : n ≠ s * c := by
      rintro rfl
      exact hmod (Nat.mul_mod_right s c)
    rw [Nat.succ_le_iff, Nat.div_lt_iff_lt_mul hs, Nat.mul_comm c s]
    exact Nat.le_iff_lt_or_eq.trans (or_iff_left hne)

/-- Items fill no more pages than there are items. -/
theorem ceilDiv_le_self {s : ℕ} (hs : 0 < s) (n : ℕ) : n ⌈/⌉ s ≤ n :=
  (ceilDiv_le_iff_le_mul hs).2 (Nat.le_mul_of_pos_left n hs)

/-- The number of pages is the number of items by the page size, rounded up. -/
theorem toNat_pageCount (total perPage : UInt64) :
    (pageCount total perPage).toNat = total.toNat ⌈/⌉ itemsPerPage perPage := by
  have hle := ceilDiv_le_self (itemsPerPage_pos perPage) total.toNat
  have hmod : total % max perPage 1 = 0 ↔ total.toNat % itemsPerPage perPage = 0 := by
    rw [← UInt64.toNat_inj, UInt64.toNat_mod, toNat_max_one]
    rfl
  rw [ceilDiv_eq_ite (itemsPerPage_pos perPage)] at hle ⊢
  simp only [pageCount, hmod]
  split
  · rw [UInt64.toNat_div, toNat_max_one]
    rfl
  · rename_i hrest
    rw [if_neg hrest] at hle
    have hlt := Nat.lt_of_le_of_lt hle total.toNat_lt
    rw [UInt64.toNat_add, UInt64.toNat_div, toNat_max_one]
    exact Nat.mod_eq_of_lt hlt

/-- **A page is counted exactly if there is an item on it.**  Pages are numbered from 0 here. -/
theorem lt_pageCount_iff (total perPage : UInt64) (k : ℕ) :
    k < (pageCount total perPage).toNat ↔ itemsPerPage perPage * k < total.toNat := by
  rw [toNat_pageCount, ← Nat.not_le, ceilDiv_le_iff_le_mul (itemsPerPage_pos perPage), Nat.not_le]

theorem pageCount_eq_zero_iff (total perPage : UInt64) :
    pageCount total perPage = 0 ↔ total = 0 := by
  have hzero := lt_pageCount_iff total perPage 0
  rw [← UInt64.toNat_inj, ← UInt64.toNat_inj (a := total)]
  simp only [Nat.mul_zero, UInt64.toNat_zero] at hzero ⊢
  omega

/-! ## The page that is shown -/

theorem toNat_clampPage (page total : UInt64) :
    (clampPage page total).toNat = min (max page.toNat 1) (max total.toNat 1) := by
  rw [clampPage, UInt64.toNat_min, toNat_max_one, toNat_max_one]

theorem one_le_clampPage (page total : UInt64) : 1 ≤ clampPage page total := by
  rw [UInt64.le_iff_toNat_le, toNat_clampPage, UInt64.toNat_one]
  omega

theorem clampPage_of_le {page total : UInt64} (hpage : 1 ≤ page) (hle : page ≤ total) :
    clampPage page total = page := by
  rw [UInt64.le_iff_toNat_le, UInt64.toNat_one] at hpage
  rw [UInt64.le_iff_toNat_le] at hle
  rw [← UInt64.toNat_inj, toNat_clampPage]
  omega

/-- A page that has been clamped stays as it is. -/
theorem clampPage_clampPage (page total : UInt64) :
    clampPage (clampPage page total) total = clampPage page total := by
  rw [← UInt64.toNat_inj, toNat_clampPage, toNat_clampPage]
  omega

/-- Page 0 counts as page 1. -/
theorem clampPage_max_one (page total : UInt64) :
    clampPage (max page 1) total = clampPage page total := by
  rw [← UInt64.toNat_inj, toNat_clampPage, toNat_clampPage, toNat_max_one]
  omega

/-! ## The items of a page -/

theorem toNat_saturate (n : ℕ) : (saturate n).toNat = min n (UInt64.size - 1) :=
  UInt64.toNat_ofNat_of_lt' (by simp only [UInt64.size]; omega)

/-- Where a page begins and ends, if the items can be counted in 64 bits. -/
theorem toNat_pageBounds (size page perPage : UInt64) :
    (pageBounds size page perPage).1.toNat =
      min ((page.toNat - 1) * itemsPerPage perPage) size.toNat ∧
    (pageBounds size page perPage).2.toNat =
      min ((page.toNat - 1) * itemsPerPage perPage + itemsPerPage perPage) size.toNat := by
  have hsize := size.toNat_lt
  have hpred : (saturatingPred page).toNat = page.toNat - 1 :=
    UInt64.toNat_ofNat_of_lt' (Nat.lt_of_le_of_lt (Nat.sub_le _ 1) page.toNat_lt)
  have hstart : (pageBounds size page perPage).1.toNat
      = min ((page.toNat - 1) * itemsPerPage perPage) size.toNat := by
    simp only [pageBounds, UInt64.toNat_min, saturatingMul, toNat_saturate, hpred, toNat_max_one,
      UInt64.size]
    rw [itemsPerPage]
    omega
  refine ⟨hstart, ?_⟩
  have hstop : (pageBounds size page perPage).2.toNat
      = min (min ((pageBounds size page perPage).1.toNat + itemsPerPage perPage)
          (UInt64.size - 1)) size.toNat := by
    simp only [pageBounds, UInt64.toNat_min, saturatingAdd, toNat_saturate, toNat_max_one,
      itemsPerPage]
  rw [hstop, hstart]
  simp only [UInt64.size]
  omega

/-- A page does not end before it begins, nor beyond the items. -/
theorem pageBounds_le (size page perPage : UInt64) :
    (pageBounds size page perPage).1 ≤ (pageBounds size page perPage).2 ∧
    (pageBounds size page perPage).2 ≤ size := by
  obtain ⟨hstart, hstop⟩ := toNat_pageBounds size page perPage
  rw [UInt64.le_iff_toNat_le, UInt64.le_iff_toNat_le]
  omega

section Slices

variable {α : Type u} {items : List α}

/-- **A page is the run of items that begins at a multiple of the page size**, cut off at the end of
the list, and empty beyond it. -/
theorem pageSlice_eq (hitems : items.length < UInt64.size) (page perPage : UInt64) :
    pageSlice items page perPage =
      (items.drop ((page.toNat - 1) * itemsPerPage perPage)).take (itemsPerPage perPage) := by
  obtain ⟨hstart, hstop⟩ := toNat_pageBounds items.length.toUInt64 page perPage
  change (items.drop (pageBounds items.length.toUInt64 page perPage).1.toNat).take
    ((pageBounds items.length.toUInt64 page perPage).2.toNat
      - (pageBounds items.length.toUInt64 page perPage).1.toNat) = _
  rw [hstart, hstop, toNat_toUInt64_of_lt hitems]
  generalize (page.toNat - 1) * itemsPerPage perPage = start
  generalize itemsPerPage perPage = size
  rcases Nat.le_total items.length start with hout | hin
  · rw [Nat.min_eq_right hout, List.drop_length, List.drop_of_length_le hout]
    simp
  · rw [Nat.min_eq_left hin, List.take_eq_take_iff, List.length_drop]
    omega

/-- The length of a page, also where the items cannot be counted in 64 bits. -/
theorem length_pageSlice (items : List α) (page perPage : UInt64) :
    (pageSlice items page perPage).length =
      min ((page.toNat - 1) * itemsPerPage perPage + itemsPerPage perPage)
          items.length.toUInt64.toNat
        - min ((page.toNat - 1) * itemsPerPage perPage) items.length.toUInt64.toNat := by
  obtain ⟨hstart, hstop⟩ := toNat_pageBounds items.length.toUInt64 page perPage
  have hcount : items.length.toUInt64.toNat ≤ items.length := Nat.mod_le _ _
  change ((items.drop (pageBounds items.length.toUInt64 page perPage).1.toNat).take
    ((pageBounds items.length.toUInt64 page perPage).2.toNat
      - (pageBounds items.length.toUInt64 page perPage).1.toNat)).length = _
  rw [hstart, hstop, List.length_take, List.length_drop]
  omega

/-- **Runs of one length, one after the other, are the list.** -/
theorem flatten_runs (items : List α) (size n : ℕ) :
    ((List.range n).map fun k => (items.drop (k * size)).take size).flatten
      = items.take (n * size) := by
  induction n with
  | zero => simp
  | succ n ih => rw [List.range_succ, List.map_append, List.flatten_append, ih, Nat.succ_mul,
      List.take_add, List.map_singleton, List.flatten_singleton]

/-- What is done with each item of a run, its position in the list being given, is what is done with
the whole list, cut in the same way. -/
theorem mapIdx_run {β : Type u} (f : ℕ → α → β) (items : List α) (start size : ℕ) :
    ((items.drop start).take size).mapIdx (fun i item => f (start + i) item)
      = ((items.mapIdx f).drop start).take size := by
  refine List.ext_getElem? fun i => ?_
  rw [List.getElem?_mapIdx, List.getElem?_take, List.getElem?_take, List.getElem?_drop,
    List.getElem?_drop, List.getElem?_mapIdx]
  split <;> rfl

end Slices

/-! ## Arithmetic that cannot wrap -/

/-- The number, if it has a place in 64 bits. -/
def exactCount? (n : ℕ) : Option UInt64 :=
  if n < UInt64.size then some n.toUInt64 else none

/-- The sum, if it has a place in 64 bits. -/
def exactAdd? (a b : UInt64) : Option UInt64 :=
  if a.toNat + b.toNat < UInt64.size then some (a + b) else none

/-- The difference, if it is not negative. -/
def exactSub? (a b : UInt64) : Option UInt64 :=
  if b ≤ a then some (a - b) else none

/-- The product, if it has a place in 64 bits. -/
def exactMul? (a b : UInt64) : Option UInt64 :=
  if a.toNat * b.toNat < UInt64.size then some (a * b) else none

theorem exactCount?_of_lt {n : ℕ} (h : n < UInt64.size) : exactCount? n = some n.toUInt64 :=
  if_pos h

theorem exactAdd?_of_lt {a b : UInt64} (h : a.toNat + b.toNat < UInt64.size) :
    exactAdd? a b = some (a + b) :=
  if_pos h

theorem exactSub?_of_le {a b : UInt64} (h : b ≤ a) : exactSub? a b = some (a - b) :=
  if_pos h

theorem exactMul?_of_lt {a b : UInt64} (h : a.toNat * b.toNat < UInt64.size) :
    exactMul? a b = some (a * b) :=
  if_pos h

/-- A result for each item, where there is one for each. -/
theorem mapM_eq_some_map {α β : Type u} {f : α → Option β} {g : α → β} {items : List α}
    (h : ∀ item ∈ items, f item = some (g item)) : items.mapM f = some (items.map g) := by
  induction items with
  | nil => rfl
  | cons item rest ih =>
    rw [List.forall_mem_cons] at h
    rw [List.mapM_cons, h.1, ih h.2]
    rfl

/-- How many pages `total` items fill, where nothing wraps. -/
def pageCount? (total perPage : UInt64) : Option UInt64 :=
  let perPage := max perPage 1
  if total % perPage = 0 then some (total / perPage) else exactAdd? (total / perPage) 1

theorem pageCount?_eq_some (total perPage : UInt64) :
    pageCount? total perPage = some (pageCount total perPage) := by
  simp only [pageCount?, pageCount]
  split
  · rfl
  · rename_i hmod
    refine exactAdd?_of_lt ?_
    have hle := ceilDiv_le_self (itemsPerPage_pos perPage) total.toNat
    have hne : ¬total.toNat % itemsPerPage perPage = 0 := by
      rwa [← UInt64.toNat_inj, UInt64.toNat_mod, toNat_max_one] at hmod
    rw [ceilDiv_eq_ite (itemsPerPage_pos perPage), if_neg hne] at hle
    rw [UInt64.toNat_div, toNat_max_one]
    exact Nat.lt_of_le_of_lt hle total.toNat_lt

/-- The items on a page, the end of which must not be before its beginning. -/
def pageSlice? {α : Type u} (items : List α) (page perPage : UInt64) : Option (List α) :=
  let (start, stop) := pageBounds items.length.toUInt64 page perPage
  (exactSub? stop start).map fun count => (items.drop start.toNat).take count.toNat

theorem pageSlice?_eq_some {α : Type u} (items : List α) (page perPage : UInt64) :
    pageSlice? items page perPage = some (pageSlice items page perPage) := by
  have hle := (pageBounds_le items.length.toUInt64 page perPage).1
  simp only [pageSlice?, exactSub?_of_le hle, Option.map_some, UInt64.toNat_sub_of_le _ _ hle]
  rfl

/-- The pager around a page, where nothing wraps. -/
def pagerWindow? (current totalPages : UInt64) : Option (List PagerSlot) :=
  if totalPages ≤ 5 then some (pagesUpTo totalPages)
  else if current ≤ 3 then
    some [.page 1, .page 2, .page 3, .page 4, .gap, .page totalPages]
  else do
    let secondLast ← exactSub? totalPages 2
    if secondLast ≤ current then
      return [.page 1, .gap, .page (← exactSub? totalPages 3), .page secondLast,
        .page (← exactSub? totalPages 1), .page totalPages]
    else
      return [.page 1, .gap, .page (← exactSub? current 1), .page current,
        .page (← exactAdd? current 1), .gap, .page totalPages]

theorem pagerWindow?_eq_some (current totalPages : UInt64) :
    pagerWindow? current totalPages = some (pagerWindow current totalPages) := by
  rw [pagerWindow?, pagerWindow]
  split
  · rfl
  split
  · rfl
  rename_i hmany hfar
  rw [UInt64.le_iff_toNat_le] at hmany hfar
  have h1 : (1 : UInt64).toNat = 1 := rfl
  have h2 : (2 : UInt64).toNat = 2 := rfl
  have h3 : (3 : UInt64).toNat = 3 := rfl
  have h5 : (5 : UInt64).toNat = 5 := rfl
  rw [exactSub?_of_le (UInt64.le_iff_toNat_le.2 (by omega))]
  change (if totalPages - 2 ≤ current then _ else _) = some _
  split
  · rw [exactSub?_of_le (UInt64.le_iff_toNat_le.2 (by omega)),
      exactSub?_of_le (UInt64.le_iff_toNat_le.2 (by omega))]
    rfl
  · rename_i hbefore
    rw [UInt64.le_iff_toNat_le, UInt64.toNat_sub_of_le _ _ (UInt64.le_iff_toNat_le.2 (by omega))]
      at hbefore
    have hlast := totalPages.toNat_lt
    rw [exactSub?_of_le (UInt64.le_iff_toNat_le.2 (by omega)),
      exactAdd?_of_lt (by rw [UInt64.size]; omega)]
    rfl

end GameJam
