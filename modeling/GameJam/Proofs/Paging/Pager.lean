import GameJam.Proofs.Paging

/-!
# The pager around a page

A pager shows some numbers of pages, in one of four shapes that overlap where there are few pages.
Whichever it is, the numbers in it ascend, and the current page is one of them if there is such a
page.  So it is shown just once.

## What is here

* `PagerSlot.number?` — the page that a slot shows.
* `shownPages` — the numbers in a pager as natural numbers; `toNat_number?_pagerWindow` says that
  none of them wraps.
* `pairwise_shownPages`, `mem_shownPages_of_near` — **they ascend, and the current page is one of
  them, with its neighbours**; `page_mem_pagerWindow_iff` carries this over to the slots.
* `pagerWindow_eq_nil_iff` — a pager is empty just if there is no page.
* `exists_pagerWindow_eq` — **the current page stands in the pager just once**.
-/

set_option autoImplicit false

namespace GameJam

/-- The page that a slot shows, unless pages are left out there. -/
def PagerSlot.number? : PagerSlot → Option UInt64
  | .page n => some n
  | .gap => none

/-! ## Numbers that do not wrap -/

/-- The numbers in a pager, as natural numbers. -/
def shownPages (current total : ℕ) : List ℕ :=
  if total ≤ 5 then List.range' 1 total
  else if current ≤ 3 then [1, 2, 3, 4, total]
  else if total - 2 ≤ current then [1, total - 3, total - 2, total - 1, total]
  else [1, current - 1, current, current + 1, total]

theorem toNat_number?_pagesUpTo (total : UInt64) :
    ((pagesUpTo total).filterMap PagerSlot.number?).map UInt64.toNat
      = List.range' 1 total.toNat := by
  have hnumbers : (pagesUpTo total).filterMap PagerSlot.number?
      = (List.range total.toNat).map fun i => UInt64.ofNat (i + 1) := by
    rw [pagesUpTo, List.filterMap_map]
    exact congrFun (List.filterMap_eq_map (f := fun i => UInt64.ofNat (i + 1))) _
  rw [hnumbers, List.map_map, List.range'_eq_map_range]
  refine List.map_congr_left fun i hi => ?_
  have hlt : i + 1 < UInt64.size :=
    Nat.lt_of_le_of_lt (List.mem_range.1 hi) total.toNat_lt
  exact (UInt64.toNat_ofNat_of_lt' hlt).trans (Nat.add_comm i 1)

/-- **No number in a pager wraps.** -/
theorem toNat_number?_pagerWindow (current total : UInt64) :
    ((pagerWindow current total).filterMap PagerSlot.number?).map UInt64.toNat
      = shownPages current.toNat total.toNat := by
  have hfew : total ≤ 5 ↔ total.toNat ≤ 5 := UInt64.le_iff_toNat_le
  have hnear : current ≤ 3 ↔ current.toNat ≤ 3 := UInt64.le_iff_toNat_le
  rw [pagerWindow, shownPages]
  by_cases hall : total ≤ 5
  · rw [if_pos hall, if_pos (hfew.1 hall)]
    exact toNat_number?_pagesUpTo total
  rw [if_neg hall, if_neg (mt hfew.2 hall)]
  have hless {n : UInt64} (hn : n ≤ 5) : (total - n).toNat = total.toNat - n.toNat :=
    UInt64.toNat_sub_of_le _ _ (UInt64.le_trans hn (UInt64.le_of_lt (UInt64.not_le.1 hall)))
  by_cases hfirst : current ≤ 3
  · rw [if_pos hfirst, if_pos (hnear.1 hfirst)]
    rfl
  rw [if_neg hfirst, if_neg (mt hnear.2 hfirst)]
  have hfar : total - 2 ≤ current ↔ total.toNat - 2 ≤ current.toNat := by
    rw [UInt64.le_iff_toNat_le, hless (by decide)]
    rfl
  by_cases hlast : total - 2 ≤ current
  · rw [if_pos hlast, if_pos (hfar.1 hlast)]
    change [1, (total - 3).toNat, (total - 2).toNat, (total - 1).toNat, total.toNat] = _
    rw [hless (by decide), hless (by decide), hless (by decide)]
    rfl
  · rw [if_neg hlast, if_neg (mt hfar.2 hlast)]
    have hthree : 3 ≤ current := UInt64.le_of_lt (UInt64.not_le.1 hfirst)
    have hbefore : (current - 1).toNat = current.toNat - 1 := by
      refine UInt64.toNat_sub_of_le _ _ (UInt64.le_trans ?_ hthree)
      decide
    have hafter : (current + 1).toNat = current.toNat + 1 := by
      have hend := total.toNat_lt
      rw [UInt64.toNat_add]
      refine Nat.mod_eq_of_lt ?_
      rw [hfar] at hlast
      rw [UInt64.toNat_one]
      omega
    change [1, (current - 1).toNat, current.toNat, (current + 1).toNat, total.toNat] = _
    rw [hbefore, hafter]

/-! ## The current page -/

/-- **The numbers in a pager ascend**, also around a page that there is not. -/
theorem pairwise_shownPages (current total : ℕ) : (shownPages current total).Pairwise (· < ·) := by
  rw [shownPages]
  split_ifs
  · exact List.pairwise_lt_range'
  all_goals
    simp only [List.pairwise_cons, List.forall_mem_cons, List.not_mem_nil, false_imp_iff,
      implies_true, List.Pairwise.nil, and_true]
    omega

/-- Only pages that there are can be shown. -/
theorem bounds_of_mem_shownPages {current total n : ℕ} (h : n ∈ shownPages current total) :
    1 ≤ n ∧ n ≤ total := by
  rw [shownPages] at h
  split_ifs at h
  · rw [List.mem_range'_1] at h
    omega
  all_goals
    simp only [List.mem_cons, List.not_mem_nil, or_false] at h
    omega

/-- **The current page and its neighbours are shown**, as far as there are such pages. -/
theorem mem_shownPages_of_near {current total n : ℕ} (hpos : 1 ≤ n) (hle : n ≤ total)
    (hafter : n ≤ current + 1) (hbefore : current ≤ n + 1) : n ∈ shownPages current total := by
  rw [shownPages]
  split_ifs
  · rw [List.mem_range'_1]
    omega
  all_goals
    simp only [List.mem_cons, List.not_mem_nil, or_false]
    omega

variable {current total n : UInt64}

/-- A page is shown if its number is among those that are shown. -/
theorem page_mem_pagerWindow_iff :
    .page n ∈ pagerWindow current total ↔ n.toNat ∈ shownPages current.toNat total.toNat := by
  rw [← toNat_number?_pagerWindow, List.mem_map]
  simp only [List.mem_filterMap]
  constructor
  · exact fun hmem => ⟨n, ⟨_, hmem, rfl⟩, rfl⟩
  · rintro ⟨m, ⟨slot, hmem, hnumber⟩, hsame⟩
    obtain rfl := UInt64.toNat_inj.1 hsame
    cases slot with
    | page k =>
      cases hnumber
      exact hmem
    | gap => cases hnumber

/-- A pager is empty just if there is no page. -/
theorem pagerWindow_eq_nil_iff : pagerWindow current total = [] ↔ total = 0 := by
  by_cases hall : total ≤ 5
  · rw [pagerWindow, if_pos hall, pagesUpTo, List.map_eq_nil_iff, List.range_eq_nil,
      ← UInt64.toNat_inj]
    rfl
  · have hsome : total ≠ 0 := by
      rintro rfl
      exact hall (by decide)
    rw [pagerWindow, if_neg hall]
    split_ifs <;> simp [hsome]

/-- **The current page stands in the pager just once**, if there is such a page. -/
theorem exists_pagerWindow_eq (hpos : 1 ≤ current) (hle : current ≤ total) :
    ∃ before after, pagerWindow current total = before ++ .page current :: after ∧
      .page current ∉ before ++ after := by
  have hnumbers := toNat_number?_pagerWindow current total
  have hmem : .page current ∈ pagerWindow current total :=
    page_mem_pagerWindow_iff.2 (mem_shownPages_of_near (UInt64.le_iff_toNat_le.1 hpos)
      (UInt64.le_iff_toNat_le.1 hle) (Nat.le_succ _) (Nat.le_succ _))
  obtain ⟨before, after, hwindow⟩ := List.append_of_mem hmem
  refine ⟨before, after, hwindow, fun hagain => ?_⟩
  have hnodup : ((pagerWindow current total).filterMap PagerSlot.number?).Nodup := by
    refine List.Nodup.of_map UInt64.toNat ?_
    rw [hnumbers]
    exact (pairwise_shownPages _ _).imp Nat.ne_of_lt
  have hmiddle : (pagerWindow current total).Perm (.page current :: (before ++ after)) := by
    rw [hwindow]
    exact List.perm_middle
  have hcons := ((hmiddle.filterMap PagerSlot.number?).nodup_iff).1 hnodup
  rw [List.filterMap_cons] at hcons
  exact (List.nodup_cons.1 hcons).1 (List.mem_filterMap.2 ⟨_, hagain, rfl⟩)

end GameJam
