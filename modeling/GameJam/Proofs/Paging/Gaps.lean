import GameJam.Proofs.Paging.Pager
import Mathlib.Data.List.Chain

/-!
# Where a pager leaves pages out

The four shapes of a pager come to one rule: some pages are shown, in ascending order, and a gap
stands between two of them just where there are pages between.  `withGaps` is this rule, so that
what there is to say about gaps is said of any pages, by induction, and the shapes only have to be
compared with it once.

## What is here

* `withGaps` — pages with the gaps between them, and `pagerWindow_eq_withGaps`.
* `exists_of_withGaps_eq`, `gap_infix_withGaps_iff` — **a gap stands between two pages just if pages
  are left out there**, and nowhere else.
* `SpansPages` — slots that lead from the first page to the last.
* `pager_around` — **what a pager shows**, for any page and any number of pages.
-/

set_option autoImplicit false

namespace GameJam

/-! ## Pages with gaps between them -/

/-- Pages, with a gap between two of them where pages are left out. -/
def withGaps : List UInt64 → List PagerSlot
  | [] => []
  | [n] => [.page n]
  | a :: b :: rest =>
    if a.toNat + 1 < b.toNat then .page a :: .gap :: withGaps (b :: rest)
    else .page a :: withGaps (b :: rest)

section Gaps

variable {a b : UInt64} {rest numbers : List UInt64}

theorem withGaps_cons_of_lt (h : a.toNat + 1 < b.toNat) :
    withGaps (a :: b :: rest) = .page a :: .gap :: withGaps (b :: rest) :=
  if_pos h

theorem withGaps_cons_of_le (h : b.toNat ≤ a.toNat + 1) :
    withGaps (a :: b :: rest) = .page a :: withGaps (b :: rest) :=
  if_neg (Nat.not_lt.2 h)

/-- Nothing stands before the first page. -/
theorem exists_withGaps_cons (a : UInt64) (rest : List UInt64) :
    ∃ slots, withGaps (a :: rest) = .page a :: slots := by
  cases rest with
  | nil => exact ⟨[], rfl⟩
  | cons b rest =>
    rw [withGaps]
    split <;> exact ⟨_, rfl⟩

theorem head?_withGaps (numbers : List UInt64) :
    (withGaps numbers).head? = numbers.head?.map .page := by
  cases numbers with
  | nil => rfl
  | cons a rest =>
    obtain ⟨slots, hslots⟩ := exists_withGaps_cons a rest
    rw [hslots]
    rfl

/-- Nothing stands behind the last page. -/
theorem getLast?_withGaps (numbers : List UInt64) :
    (withGaps numbers).getLast? = numbers.getLast?.map .page := by
  induction numbers with
  | nil => rfl
  | cons a rest ih =>
    cases rest with
    | nil => rfl
    | cons b rest =>
      obtain ⟨slots, hslots⟩ := exists_withGaps_cons b rest
      rw [hslots] at ih
      rw [withGaps, hslots, List.getLast?_cons_cons, ← ih]
      split <;> simp [List.getLast?_cons_cons]

/-- Pages that follow one another have no gaps. -/
theorem withGaps_eq_map (h : numbers.IsChain fun a b => b.toNat ≤ a.toNat + 1) :
    withGaps numbers = numbers.map .page := by
  induction h with
  | nil => rfl
  | singleton a => rfl
  | cons_cons hle _ ih => rw [withGaps_cons_of_le hle, ih, ← List.map_cons]

/-- **Every gap stands between two pages**, and there are pages between them. -/
theorem exists_of_withGaps_eq {before after : List PagerSlot}
    (h : withGaps numbers = before ++ .gap :: after) :
    ∃ a b, before.getLast? = some (.page a) ∧ after.head? = some (.page b) ∧
      a.toNat + 1 < b.toNat := by
  induction numbers generalizing before with
  | nil => simp [withGaps] at h
  | cons a rest ih =>
    obtain _ | ⟨first, before⟩ := before
    · obtain ⟨slots, hslots⟩ := exists_withGaps_cons a rest
      rw [hslots] at h
      cases h
    obtain _ | ⟨b, rest⟩ := rest
    · simp [withGaps] at h
    have hbehind {slots : List PagerSlot} (hslots : withGaps (b :: rest) = slots ++ .gap :: after)
        (more : List PagerSlot) :
        ∃ a b, (more ++ slots).getLast? = some (.page a) ∧ after.head? = some (.page b) ∧
          a.toNat + 1 < b.toNat := by
      obtain ⟨a', b', hbefore, hrest⟩ := ih hslots
      exact ⟨a', b', by rw [List.getLast?_append, hbefore, Option.some_or], hrest⟩
    rcases Nat.lt_or_ge (a.toNat + 1) b.toNat with hlt | hle
    · rw [withGaps_cons_of_lt hlt, List.cons_append] at h
      obtain ⟨rfl, hslots⟩ := List.cons.inj h
      obtain _ | ⟨second, before⟩ := before
      · rw [← (List.cons.inj hslots).2]
        exact ⟨a, b, rfl, head?_withGaps (b :: rest), hlt⟩
      · exact hbehind (List.cons.inj hslots).2 [.page a, second]
    · rw [withGaps_cons_of_le hle, List.cons_append] at h
      exact hbehind (List.cons.inj h).2 [first]

/-- What stands behind a page does not depend on the pages before it. -/
theorem exists_withGaps_append (before : List UInt64) (a : UInt64) (rest : List UInt64) :
    ∃ slots, withGaps (before ++ a :: rest) = slots ++ withGaps (a :: rest) := by
  induction before with
  | nil => exact ⟨[], rfl⟩
  | cons first before ih =>
    obtain ⟨slots, hslots⟩ := ih
    obtain ⟨next, behind, hnext⟩ : ∃ next behind, before ++ a :: rest = next :: behind :=
      List.exists_cons_of_ne_nil (by simp)
    rw [List.cons_append, hnext, withGaps, ← hnext, hslots]
    split
    · exact ⟨.page first :: .gap :: slots, rfl⟩
    · exact ⟨.page first :: slots, rfl⟩

/-- **A gap stands between two pages that are shown one after the other** just if there are pages
between them. -/
theorem gap_infix_withGaps_iff (h : [a, b] <:+: numbers) :
    [.page a, .gap, .page b] <:+: withGaps numbers ↔ a.toNat + 1 < b.toNat := by
  constructor
  · rintro ⟨before, after, hslots⟩
    have hgap : withGaps numbers = (before ++ [.page a]) ++ .gap :: .page b :: after := by
      rw [← hslots]
      simp
    obtain ⟨a', b', hbefore, hafter, hlt⟩ := exists_of_withGaps_eq hgap
    rw [List.getLast?_concat] at hbefore
    obtain rfl := PagerSlot.page.inj (Option.some.inj hbefore)
    obtain rfl := PagerSlot.page.inj (Option.some.inj hafter)
    exact hlt
  · intro hlt
    obtain ⟨before, after, rfl⟩ := h
    obtain ⟨slots, hslots⟩ := exists_withGaps_append before a (b :: after)
    obtain ⟨behind, hbehind⟩ := exists_withGaps_cons b after
    refine ⟨slots, behind, ?_⟩
    rw [List.append_assoc before, List.cons_append, List.cons_append, List.nil_append, hslots,
      withGaps_cons_of_lt hlt, hbehind]
    simp

end Gaps

/-! ## The shapes of a pager -/

/-- The pages from 1 on have no gaps. -/
theorem withGaps_pagesUpTo (total : UInt64) :
    withGaps ((pagesUpTo total).filterMap PagerSlot.number?) = pagesUpTo total := by
  have hnumbers := toNat_number?_pagesUpTo total
  have hpages : ((pagesUpTo total).filterMap PagerSlot.number?).map .page = pagesUpTo total := by
    rw [pagesUpTo, List.filterMap_map, List.map_filterMap]
    exact congrFun List.filterMap_eq_map _
  rw [withGaps_eq_map, hpages]
  have hchain : (List.range' 1 total.toNat).IsChain fun a b => b ≤ a + 1 :=
    (List.isChain_range' 1 _ 1).imp fun a b h => Nat.le_of_eq h
  rw [← hnumbers, List.isChain_map] at hchain
  exact hchain

/-- **A pager is made by one rule**, whichever shape it has. -/
theorem pagerWindow_eq_withGaps (current total : UInt64) :
    pagerWindow current total
      = withGaps ((pagerWindow current total).filterMap PagerSlot.number?) := by
  have hend := total.toNat_lt
  rw [pagerWindow]
  split_ifs with hall hfirst hlast
  · exact (withGaps_pagesUpTo total).symm
  all_goals
    simp only [UInt64.le_iff_toNat_le, UInt64.reduceToNat] at hall hfirst
    simp only [List.filterMap_cons, PagerSlot.number?, List.filterMap_nil]
  · rw [withGaps_cons_of_le (by decide), withGaps_cons_of_le (by decide),
      withGaps_cons_of_le (by decide), withGaps_cons_of_lt]
    · rfl
    · simp only [UInt64.reduceToNat]
      omega
  all_goals
    simp only [UInt64.le_iff_toNat_le, UInt64.toNat_sub, UInt64.reduceToNat] at hlast
  · rw [withGaps_cons_of_lt, withGaps_cons_of_le, withGaps_cons_of_le, withGaps_cons_of_le]
    · rfl
    all_goals
      simp only [UInt64.toNat_sub, UInt64.reduceToNat]
      omega
  · rw [withGaps_cons_of_lt, withGaps_cons_of_le, withGaps_cons_of_le, withGaps_cons_of_lt]
    · rfl
    all_goals
      simp only [UInt64.toNat_sub, UInt64.toNat_add, UInt64.reduceToNat]
      omega

/-- No more than seven slots are shown. -/
theorem length_pagerWindow_le (current total : UInt64) :
    (pagerWindow current total).length ≤ 7 := by
  rw [pagerWindow]
  split_ifs with hall
  · have hfew : total.toNat ≤ 5 := UInt64.le_iff_toNat_le.1 hall
    rw [pagesUpTo, List.length_map, List.length_range]
    exact Nat.le_trans hfew (by decide)
  all_goals simp

/-! ## What a pager shows -/

/-- The slots lead from the first page to the last: the pages ascend, and a gap stands between two
of them that are shown one after the other just where pages are left out, and nowhere else. -/
structure SpansPages (slots : List PagerSlot) (total : UInt64) : Prop where
  ascending : (slots.filterMap PagerSlot.number?).Pairwise (· < ·)
  within : ∀ n, .page n ∈ slots → 1 ≤ n ∧ n ≤ total
  first : slots.head? = some (.page 1)
  last : slots.getLast? = some (.page total)
  gap_iff : ∀ a b, [a, b] <:+: slots.filterMap PagerSlot.number? →
    ([.page a, .gap, .page b] <:+: slots ↔ a.toNat + 1 < b.toNat)
  gap_between : ∀ before after, slots = before ++ .gap :: after →
    ∃ a b, before.getLast? = some (.page a) ∧ after.head? = some (.page b) ∧ a.toNat + 1 < b.toNat

theorem head?_shownPages (current : ℕ) {total : ℕ} (h : 1 ≤ total) :
    (shownPages current total).head? = some 1 := by
  rw [shownPages]
  split_ifs
  · obtain ⟨n, rfl⟩ := Nat.exists_eq_add_of_le' h
    rfl
  all_goals rfl

theorem getLast?_shownPages (current : ℕ) {total : ℕ} (h : 1 ≤ total) :
    (shownPages current total).getLast? = some total := by
  rw [shownPages]
  split_ifs
  · rw [List.getLast?_range', if_neg (Nat.ne_of_gt h)]
    exact congrArg some (by omega)
  all_goals rfl

section Window

variable {current total : UInt64}

theorem head?_pagerWindow (h : 1 ≤ total) : (pagerWindow current total).head? = some (.page 1) := by
  have hshown := head?_shownPages current.toNat (UInt64.le_iff_toNat_le.1 h)
  rw [← toNat_number?_pagerWindow, List.head?_map, Option.map_eq_some_iff] at hshown
  obtain ⟨n, hn, hone⟩ := hshown
  obtain rfl : n = 1 := UInt64.toNat_inj.1 hone
  rw [pagerWindow_eq_withGaps, head?_withGaps, hn]
  rfl

theorem getLast?_pagerWindow (h : 1 ≤ total) :
    (pagerWindow current total).getLast? = some (.page total) := by
  have hshown := getLast?_shownPages current.toNat (UInt64.le_iff_toNat_le.1 h)
  rw [← toNat_number?_pagerWindow, List.getLast?_map, Option.map_eq_some_iff] at hshown
  obtain ⟨n, hn, hlast⟩ := hshown
  obtain rfl := UInt64.toNat_inj.1 hlast
  rw [pagerWindow_eq_withGaps, getLast?_withGaps, hn]
  rfl

theorem pagerWindow_spansPages (h : 1 ≤ total) : SpansPages (pagerWindow current total) total where
  ascending := by
    have hnumbers := pairwise_shownPages current.toNat total.toNat
    rw [← toNat_number?_pagerWindow, List.pairwise_map] at hnumbers
    exact hnumbers.imp UInt64.lt_iff_toNat_lt.2
  within n hn := by
    have hbounds := bounds_of_mem_shownPages (page_mem_pagerWindow_iff.1 hn)
    exact ⟨UInt64.le_iff_toNat_le.2 hbounds.1, UInt64.le_iff_toNat_le.2 hbounds.2⟩
  first := head?_pagerWindow h
  last := getLast?_pagerWindow h
  gap_iff a b hab := by
    have hiff := gap_infix_withGaps_iff hab
    rwa [← pagerWindow_eq_withGaps] at hiff
  gap_between before after hslots := exists_of_withGaps_eq (pagerWindow_eq_withGaps _ _ ▸ hslots)

end Window

/-- **What a pager shows around a page**, for any page and any number of pages.  No number in it
wraps; it has at most seven slots, and none just if there is no page.  Otherwise it leads from the
first page to the last, and the current page and its neighbours are shown as far as there are such
pages. -/
theorem pager_around (current total : UInt64) :
    pagerWindow? current total = some (pagerWindow current total) ∧
    (pagerWindow current total).length ≤ 7 ∧
    (pagerWindow current total = [] ↔ total = 0) ∧
    (1 ≤ total → SpansPages (pagerWindow current total) total) ∧
    ∀ n, 1 ≤ n → n ≤ total → n.toNat ≤ current.toNat + 1 → current.toNat ≤ n.toNat + 1 →
      .page n ∈ pagerWindow current total := by
  refine ⟨pagerWindow?_eq_some _ _, length_pagerWindow_le _ _, pagerWindow_eq_nil_iff,
    pagerWindow_spansPages, fun n hpos hle hafter hbefore => ?_⟩
  exact page_mem_pagerWindow_iff.2 (mem_shownPages_of_near (UInt64.le_iff_toNat_le.1 hpos)
    (UInt64.le_iff_toNat_le.1 hle) hafter hbefore)

/-- The pager at the last of as many pages as can be counted. -/
theorem pager_around_last_of_all :
    let total : UInt64 := 18446744073709551615
    1 ≤ total ∧ SpansPages (pagerWindow total total) total ∧
      .page (total - 1) ∈ pagerWindow total total := by
  intro total
  obtain ⟨-, -, -, hspans, hnear⟩ := pager_around total total
  exact ⟨by decide, hspans (by decide),
    hnear (total - 1) (by decide) (by decide) (by decide) (by decide)⟩

end GameJam
