import GameJam.Proofs.Listing
import GameJam.Proofs.Output.Styled
import GameJam.Proofs.Paging.Pager

/-!
# What the text of a listing says

The text of a listing begins with the positions of the games that it shows, and ends with a line of
pages.  It has words for a page without games although some match, but they are never needed: the
page that is shown is the one closest to what is asked for among those there are, so that it begins
before the last game.  The numbers are given here as arithmetic on natural numbers, and none of them
wraps, also if there should be more games than 64 bits can count, for what the text says is how many
it has counted.

## What is here

* `Listing.range?_of_items` — the positions of the first and the last game that are shown;
  `Location.range?_listing` says which ones they are on the page that is shown.
* `Listing.plain` — the text without styles, with `Listing.plain_eq` and `Listing.write_pagerLine`
  for its end and `Listing.exists_plain_eq` for its beginning.
* `Listing.Readable` — what a reader is told; `Location.readable_listing` says that every page is
  so.
* `ListRequest.readable_page` — **what a list says in plain text, whatever has been asked for**.
-/

set_option autoImplicit false

namespace GameJam

/-! ## The games that are shown -/

/-- The first and the last position on a page that is not empty do not wrap, if the games up to
there can be counted. -/
theorem Listing.range?_of_items {listing : Listing} {before : UInt64} {games : List Game}
    (hitems : listing.items = games.mapIdx fun i game => .ofGame (before + i.toUInt64 + 1) game)
    (hgames : games ≠ []) (hcount : before.toNat + games.length < UInt64.size) :
    ∃ first last, listing.range? = some (first, last) ∧
      first.toNat = before.toNat + 1 ∧ last.toNat = before.toNat + games.length := by
  have hposition {i : ℕ} (hi : i < games.length) :
      (before + i.toUInt64 + 1).toNat = before.toNat + (i + 1) := by
    have hlt : before.toNat + (i + 1) < UInt64.size := by omega
    rw [UInt64.toNat_add, UInt64.toNat_add, UInt64.toNat_one, toNat_toUInt64_of_lt (by omega),
      Nat.mod_eq_of_lt (show before.toNat + i < UInt64.size by omega), Nat.add_assoc]
    exact Nat.mod_eq_of_lt hlt
  have hfirst : games.head? = some (games.head hgames) := List.head?_eq_some_head hgames
  have hlast : games.getLast? = some (games.getLast hgames) := List.getLast?_eq_some_getLast hgames
  have hpos : 0 < games.length := List.length_pos_iff.2 hgames
  refine ⟨before + (0 : ℕ).toUInt64 + 1, before + (games.length - 1).toUInt64 + 1, ?_, ?_, ?_⟩
  · simp only [range?, hitems, List.head?_mapIdx, List.getLast?_mapIdx, hfirst, hlast,
      Option.map_some, Option.bind_eq_bind, Option.bind_some, GameRow.ofGame]
    rfl
  · exact hposition hpos
  · rw [hposition (Nat.sub_lt hpos Nat.one_pos), Nat.sub_add_cancel hpos]

namespace Location

variable {target : Location} {dataset : Dataset} {schema : Schema} {size : PageSize}

/-- The page that is shown begins before the last game, if there is any. -/
theorem before_listing_lt (htotal : (target.listing dataset schema size).totalCount ≠ 0) :
    ((target.listing dataset schema size).page.toNat - 1) * size.count.toNat
      < (target.listing dataset schema size).totalCount.toNat := by
  have hpage : (target.listing dataset schema size).page.toNat
      = min (max target.page.toNat 1) (max (target.totalPages dataset schema size).toNat 1) :=
    toNat_clampPage _ _
  have hpages (k : ℕ) : k < (target.totalPages dataset schema size).toNat ↔
      itemsPerPage size.count * k < (target.listing dataset schema size).totalCount.toNat :=
    lt_pageCount_iff _ _ k
  have hsome : 0 < (target.totalPages dataset schema size).toNat := by
    rw [hpages, Nat.mul_zero]
    exact UInt64.pos_iff_ne_zero.2 htotal
  rw [Nat.mul_comm, ← size.itemsPerPage_count, ← hpages]
  omega

/-- The number of games before the page that is shown does not wrap. -/
theorem toNat_before_listing (htotal : (target.listing dataset schema size).totalCount ≠ 0) :
    (((target.listing dataset schema size).page - 1) * size.count).toNat
      = ((target.listing dataset schema size).page.toNat - 1) * size.count.toNat := by
  have hone : 1 ≤ (target.listing dataset schema size).page := one_le_clampPage _ _
  rw [UInt64.toNat_mul, UInt64.toNat_sub_of_le _ _ hone]
  exact Nat.mod_eq_of_lt ((before_listing_lt htotal).trans (UInt64.toNat_lt _))

/-- The first and the last position on the page that is shown. -/
theorem range?_listing (htotal : (target.listing dataset schema size).totalCount ≠ 0) :
    let listing := target.listing dataset schema size
    ∃ first last, listing.range? = some (first, last) ∧
      first.toNat = (listing.page.toNat - 1) * size.count.toNat + 1 ∧
      last.toNat = min (listing.page.toNat * size.count.toNat) listing.totalCount.toNat := by
  intro listing
  have hstart : (listing.page.toNat - 1) * size.count.toNat < listing.totalCount.toNat :=
    before_listing_lt htotal
  have hbefore : ((listing.page - 1) * size.count).toNat
      = (listing.page.toNat - 1) * size.count.toNat := toNat_before_listing htotal
  have htotal := listing.totalCount.toNat_lt
  have hend : listing.page.toNat * size.count.toNat
      = (listing.page.toNat - 1) * size.count.toNat + size.count.toNat := by
    rw [← Nat.succ_mul, Nat.succ_eq_add_one, Nat.sub_add_cancel]
    exact UInt64.le_iff_toNat_le.1 (one_le_clampPage _ _)
  have hlength : (pageSlice (target.found dataset schema) listing.page size.count).length
      = min ((listing.page.toNat - 1) * size.count.toNat + size.count.toNat)
          listing.totalCount.toNat
        - min ((listing.page.toNat - 1) * size.count.toNat) listing.totalCount.toNat := by
    rw [length_pageSlice, size.itemsPerPage_count]
    rfl
  have hsize : 0 < size.count.toNat := UInt64.pos_iff_ne_zero.2 size.count_ne_zero
  have hslice : pageSlice (target.found dataset schema) listing.page size.count ≠ [] := by
    rw [← List.length_pos_iff]
    omega
  have hcount : ((listing.page - 1) * size.count).toNat
      + (pageSlice (target.found dataset schema) listing.page size.count).length
        < UInt64.size := by
    rw [hbefore, UInt64.size]
    omega
  have hitems : listing.items = (pageSlice (target.found dataset schema) listing.page
      size.count).mapIdx fun i game =>
        .ofGame ((listing.page - 1) * size.count + i.toUInt64 + 1) game := rfl
  obtain ⟨first, last, hrange, hfirst, hlast⟩ := Listing.range?_of_items hitems hslice hcount
  refine ⟨first, last, hrange, hfirst.trans (by rw [hbefore]), hlast.trans ?_⟩
  rw [hbefore]
  omega

end Location

/-! ## What is written -/

/-- A slot of the pager for another page than the current one. -/
def PagerSlot.unmarked : PagerSlot → String
  | .page n => toString n.toNat
  | .gap => "…"

theorem PagerSlot.text_of_ne {current : UInt64} {slot : PagerSlot} (h : slot ≠ .page current) :
    (slot.text current).text = slot.unmarked := by
  cases slot with
  | page n =>
    have hne : n ≠ current := fun heq => h (congrArg page heq)
    rw [PagerSlot.text, if_neg hne]
    rfl
  | gap => rfl

theorem PagerSlot.text_current (current : UInt64) :
    (PagerSlot.text current (.page current)).text = s!"[{current.toNat}]" := by
  rw [PagerSlot.text, if_pos rfl]
  rfl

namespace Listing

/-- The text without styles. -/
def plain (listing : Listing) : String :=
  listing.text.write .plain

/-- The listing without its pager. -/
def withoutPager (listing : Listing) : Listing :=
  { listing with pages := [] }

variable {listing : Listing}

theorem plain_eq (listing : Listing) :
    listing.plain = listing.withoutPager.plain ++ listing.pagerLine.write .plain := by
  have htext : listing.text = listing.withoutPager.text ++ listing.pagerLine := by
    have hnone : listing.withoutPager.pagerLine = [] := rfl
    rw [text, text, hnone, List.append_nil]
    rfl
  rw [plain, htext, StyledText.write_append]
  rfl

/-- The line of pages, in which the current one is marked. -/
theorem write_pagerLine {before after : List PagerSlot}
    (hpages : listing.pages = before ++ .page listing.page :: after)
    (hothers : .page listing.page ∉ before ++ after) :
    listing.pagerLine.write .plain = "\nPage: " ++ " ".intercalate (before.map PagerSlot.unmarked
      ++ s!"[{listing.page.toNat}]" :: after.map PagerSlot.unmarked) ++ "\n" := by
  have hunmarked {slots : List PagerSlot} (hslots : slots ⊆ before ++ after) :
      slots.map (fun slot => StyledText.write .plain [slot.text listing.page])
        = slots.map PagerSlot.unmarked := by
    refine List.map_congr_left fun slot hslot => ?_
    rw [StyledText.write_of_plain, PagerSlot.text_of_ne]
    rintro rfl
    exact hothers (hslots hslot)
  have hsome : listing.pages.isEmpty = false := by simp [hpages]
  have hslots : listing.pages.map (fun slot => StyledText.write .plain [slot.text listing.page])
      = before.map PagerSlot.unmarked
        ++ s!"[{listing.page.toNat}]" :: after.map PagerSlot.unmarked := by
    rw [hpages, List.map_append, List.map_cons, hunmarked (List.subset_append_left _ _),
      hunmarked (List.subset_append_right _ _), StyledText.write_of_plain, PagerSlot.text_current]
  rw [pagerLine, hsome, if_neg Bool.false_ne_true, StyledText.write_cons, StyledText.write_append,
    StyledText.write_join, List.map_map, StyledText.write_plain, StyledText.write_plain,
    String.append_assoc]
  exact congrArg _ (congrArg (fun slots => " ".intercalate slots ++ "\n") hslots)

/-- Says which games are shown, and of how many. -/
def rangeText (first last total : ℕ) : String :=
  s!"Showing {first}-{last} of {total} games"

/-- Says that there is no game on a page. -/
def emptyPageText (page : ℕ) : String :=
  s!"Page {page} is empty"

theorem rangeText_append_ne (first last total page : ℕ) (rest other : String) :
    rangeText first last total ++ rest ≠ emptyPageText page ++ other := by
  intro heq
  have hfirst := congrArg (fun text => text.toList.head?) heq
  simp [rangeText, emptyPageText, ToString.toString] at hfirst

theorem noMatch_append_ne (page : ℕ) (rest other : String) :
    "No games match" ++ rest ≠ emptyPageText page ++ other := by
  intro heq
  have hfirst := congrArg (fun text => text.toList.head?) heq
  simp [emptyPageText, ToString.toString] at hfirst

/-- What follows in the first line if the filter leaves games out. -/
def datasetText (listing : Listing) : String :=
  if listing.totalCount = listing.datasetCount then ""
  else s!" ({listing.datasetCount.toNat} in dataset)"

theorem headline_of_range {first last : UInt64} (hrange : listing.range? = some (first, last)) :
    listing.headline
      = rangeText first.toNat last.toNat listing.totalCount.toNat ++ listing.datasetText := by
  rw [headline, hrange]
  rfl

theorem headline_of_noMatch (hrange : listing.range? = none) (htotal : listing.totalCount = 0) :
    listing.headline = "No games match" ++ listing.datasetText := by
  rw [headline, hrange]
  simp only [if_pos htotal]
  rfl

/-- The text begins with the headline, whatever that begins with. -/
theorem exists_plain_eq {start rest : String} (hheadline : listing.headline = start ++ rest) :
    ∃ rest, listing.plain = start ++ rest := by
  refine ⟨rest ++ ("\n" ++ StyledText.write .plain (listing.filterLine
    ++ listing.items.flatMap GameRow.text ++ listing.pagerLine)), ?_⟩
  rw [plain, text, List.append_assoc, List.append_assoc, StyledText.write_append,
    StyledText.write_plain, String.append_assoc, List.append_assoc, hheadline, String.append_assoc]

/-- What the text of a page says, so many games being the most that a page holds. -/
structure Readable (listing : Listing) (size : ℕ) : Prop where
  showing : listing.totalCount ≠ 0 → ∃ rest, listing.plain
    = rangeText ((listing.page.toNat - 1) * size + 1)
      (min (listing.page.toNat * size) listing.totalCount.toNat) listing.totalCount.toNat ++ rest
  noMatch : listing.totalCount = 0 → ∃ rest, listing.plain = "No games match" ++ rest
  /-- It never says that there is no game on the page although some match. -/
  ne_emptyPage : ∀ (page : ℕ) (rest : String), listing.plain ≠ emptyPageText page ++ rest
  /-- The line of pages, in which the page that is shown is marked, and no other one. -/
  pager : listing.totalCount ≠ 0 → ∃ before after,
    listing.pages = before ++ .page listing.page :: after ∧
    .page listing.page ∉ before ++ after ∧
    listing.plain = listing.withoutPager.plain ++ ("\nPage: "
      ++ " ".intercalate (before.map PagerSlot.unmarked
        ++ s!"[{listing.page.toNat}]" :: after.map PagerSlot.unmarked) ++ "\n")
  noPager : listing.totalCount = 0 → listing.plain = listing.withoutPager.plain

end Listing

namespace Location

variable {target : Location} {dataset : Dataset} {schema : Schema} {size : PageSize}

theorem range?_listing_of_eq_zero
    (htotal : (target.listing dataset schema size).totalCount = 0) :
    (target.listing dataset schema size).range? = none := by
  have hcount : (target.found dataset schema).length.toUInt64.toNat = 0 :=
    congrArg UInt64.toNat htotal
  have hslice : pageSlice (target.found dataset schema)
      (target.listing dataset schema size).page size.count = [] := by
    rw [← List.length_eq_zero_iff, length_pageSlice, hcount]
    simp
  have hitems : (target.listing dataset schema size).items = [] :=
    (congrArg (List.mapIdx _) hslice).trans List.mapIdx_nil
  rw [Listing.range?, hitems]
  rfl

/-- The page that is shown is one of those there are, if some game matches. -/
theorem page_listing_le (htotal : (target.listing dataset schema size).totalCount ≠ 0) :
    (target.listing dataset schema size).page
      ≤ (target.listing dataset schema size).totalPages := by
  have hsome : (target.listing dataset schema size).totalPages ≠ 0 := by
    rw [Ne, ← pageCount_eq_zero_iff] at htotal
    exact htotal
  have hpage : (target.listing dataset schema size).page.toNat
      = min (max target.page.toNat 1)
        (max (target.listing dataset schema size).totalPages.toNat 1) :=
    toNat_clampPage _ _
  have hpos := UInt64.pos_iff_ne_zero.2 hsome
  rw [UInt64.lt_iff_toNat_lt, UInt64.toNat_zero] at hpos
  rw [UInt64.le_iff_toNat_le]
  omega

theorem pages_listing_eq_nil_iff : (target.listing dataset schema size).pages = [] ↔
    (target.listing dataset schema size).totalCount = 0 :=
  pagerWindow_eq_nil_iff.trans (pageCount_eq_zero_iff _ _)

/-- **The text of a page says which games are on it**, and its pager marks that page. -/
theorem readable_listing (target : Location) (dataset : Dataset) (schema : Schema)
    (size : PageSize) : (target.listing dataset schema size).Readable size.count.toNat where
  showing htotal := by
    obtain ⟨first, last, hrange, hfirst, hlast⟩ := range?_listing htotal
    rw [← hfirst, ← hlast]
    exact Listing.exists_plain_eq (Listing.headline_of_range hrange)
  noMatch htotal :=
    Listing.exists_plain_eq
      (Listing.headline_of_noMatch (range?_listing_of_eq_zero htotal) htotal)
  ne_emptyPage page rest := by
    by_cases htotal : (target.listing dataset schema size).totalCount = 0
    · obtain ⟨start, hplain⟩ := Listing.exists_plain_eq
        (Listing.headline_of_noMatch (range?_listing_of_eq_zero htotal) htotal)
      rw [hplain]
      exact Listing.noMatch_append_ne page start rest
    · obtain ⟨first, last, hrange, -⟩ := range?_listing htotal
      obtain ⟨start, hplain⟩ := Listing.exists_plain_eq (Listing.headline_of_range hrange)
      rw [hplain]
      exact Listing.rangeText_append_ne _ _ _ page start rest
  pager htotal := by
    obtain ⟨before, after, hpages, hothers⟩ :=
      exists_pagerWindow_eq (one_le_clampPage _ _) (page_listing_le htotal)
    exact ⟨before, after, hpages, hothers,
      (Listing.plain_eq _).trans (congrArg _ (Listing.write_pagerLine hpages hothers))⟩
  noPager htotal := by
    have hnone : (target.listing dataset schema size).pagerLine = [] := by
      rw [Listing.pagerLine, pages_listing_eq_nil_iff.2 htotal]
      rfl
    rw [Listing.plain_eq, hnone, StyledText.write_nil, String.append_empty]

end Location

/-! ## What a command shows -/

/-- A session without styles answers with the text of the page. -/
theorem Session.answer_list_plain {session after : Session} {files : Files} {request : ListRequest}
    {listing : Listing} (hstyle : session.mode.textStyle? session.terminal = some .plain)
    (hpage : session.listing files request = .ok (listing, after)) :
    session.answer files (.list request) = .ok (listing.plain, after) := by
  have hshown : session.present listing.presentation = listing.plain := by
    rw [present, Presentation.write, hstyle]
    rfl
  rw [answer_list, hpage, ← hshown]
  rfl

/-- **A list says which games are on the page**, and its pager marks that page, whatever has been
asked for.  No list says that a page is empty.  This is the text that a session without styles
answers with. -/
theorem ListRequest.readable_page (request : ListRequest) (dataset : Dataset) (schema : Schema)
    (usual : PageSize) :
    let listing := request.listing dataset schema usual
    listing.page = clampPage request.target.page listing.totalPages ∧
    listing.Readable (request.perPage.getD usual).count.toNat ∧
    ∀ (session after : Session) (files : Files), session.config.perPage = usual →
      session.mode.textStyle? session.terminal = some .plain →
      session.consult files request.data = .ok (dataset, schema, after) →
      session.answer files (.list request) = .ok (listing.plain, after) := by
  intro listing
  have hlisting : listing
      = request.target.listing dataset schema (request.perPage.getD usual) :=
    request.listing_eq dataset schema usual
  refine ⟨?_, ?_, ?_⟩
  · rw [hlisting]
    rfl
  · rw [hlisting]
    exact request.target.readable_listing dataset schema _
  · intro session after files husual hstyle hconsult
    exact Session.answer_list_plain hstyle
      (Session.listing_eq_ok_iff.2 ⟨dataset, schema, hconsult, by rw [husual]⟩)

/-- The ninth of two pages is asked for, and the text says that the second one is shown. -/
theorem ListRequest.readable_page_past_the_end :
    ∃ (rest : String) (after : Session),
      (Session.start {} (some .text) false).answer Session.threeGames (.list Session.ninthPage)
        = .ok (Listing.rangeText 3 3 3 ++ rest, after) := by
  have hsome : (((Session.start {} (some .text) false).consult Session.threeGames
      Session.ninthPage.data).toOption.map fun given =>
        let listing := Session.ninthPage.listing given.1 given.2.1 ({} : Config).perPage
        (listing.totalCount, listing.page)) = some (3, 2) := by
    decide +kernel
  obtain ⟨⟨dataset, schema, after⟩, hconsult, hcounts⟩ := toOption_map_eq_some_iff.1 hsome
  obtain ⟨htotal, hpage⟩ := Prod.mk.inj hcounts
  obtain ⟨-, hreadable, hanswer⟩ :=
    Session.ninthPage.readable_page dataset schema ({} : Config).perPage
  obtain ⟨rest, hplain⟩ := hreadable.showing (by rw [htotal]; decide)
  rw [htotal, hpage] at hplain
  exact ⟨rest, after, (hanswer _ after _ rfl rfl hconsult).trans (by rw [hplain]; rfl)⟩

end GameJam
