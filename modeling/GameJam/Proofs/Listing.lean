import GameJam.Proofs.Location
import GameJam.Proofs.Paging.Slices
import GameJam.Proofs.Session.Loading

/-!
# The pages of a listing

A listing shows one page of the games that match, and how to go on from there.  Whatever page is
asked for, one is shown, and it has a link.  This file says that the pages fit together: one after
the other they are all games that match, each with its position, and the link on a page leads to
that page, also if another one was asked for.

## What is here

* `Location.listing` — the page that a location asks for; `ListRequest.listing_eq` says that a
  request depends on its location and its page size only.
* `Session.listing_of_link` — **a page is shown again by its link**.
* `Location.items_listing` — the games of a page are a slice of those that match;
  `Location.flatten_items_listing` puts the pages together.
* `Location.listing?` — the page by arithmetic that gives nothing where a number would wrap.
* `Pages` and `Session.pages_of_listing` — **the pages are the games that match, cut into runs**.
-/

set_option autoImplicit false

namespace GameJam

/-! ## What a page depends on -/

namespace Location

variable (target : Location) (dataset : Dataset) (schema : Schema) (size : PageSize)

/-- The games that match the rows of a location, in their order. -/
def found : List Game :=
  dataset.games.filter ((Query.compile schema target.filters).holds Game.serve)

/-- How many pages they fill. -/
def totalPages : UInt64 :=
  pageCount (target.found dataset schema).length.toUInt64 size.count

/-- The same location with another page. -/
def onPage (page : UInt64) : Location :=
  { target with page }

/-- The page that a location asks for, or the one closest to it. -/
def listing : Listing :=
  let found := target.found dataset schema
  let totalPages := target.totalPages dataset schema size
  let page := clampPage target.page totalPages
  let before := (page - 1) * size.count
  { items := (pageSlice found page size.count).mapIdx fun i game =>
      .ofGame (before + i.toUInt64 + 1) game
    totalCount := found.length.toUInt64
    datasetCount := dataset.games.length.toUInt64
    filterSummary := schema.summary? target.filters
    page
    totalPages
    pages := pagerWindow page totalPages
    link := (target.onPage page).toQuery }

variable {target dataset schema size} {page : UInt64}

@[simp] theorem page_onPage : (target.onPage page).page = page :=
  rfl

@[simp] theorem filters_onPage : (target.onPage page).filters = target.filters :=
  rfl

@[simp] theorem onPage_onPage {other : UInt64} :
    (target.onPage page).onPage other = target.onPage other :=
  rfl

@[simp] theorem found_onPage :
    (target.onPage page).found dataset schema = target.found dataset schema :=
  rfl

@[simp] theorem totalPages_onPage :
    (target.onPage page).totalPages dataset schema size = target.totalPages dataset schema size :=
  rfl

/-- Two pages are the same one if the same one is closest to both. -/
theorem listing_onPage_congr {other : UInt64}
    (h : clampPage page (target.totalPages dataset schema size)
      = clampPage other (target.totalPages dataset schema size)) :
    (target.onPage page).listing dataset schema size
      = (target.onPage other).listing dataset schema size := by
  simp only [listing, page_onPage, filters_onPage, onPage_onPage, totalPages_onPage,
    found_onPage, h]

theorem listing_onPage_max_one :
    (target.onPage (max page 1)).listing dataset schema size
      = (target.onPage page).listing dataset schema size :=
  listing_onPage_congr (clampPage_max_one page _)

/-- The page that is shown is the one that its own number asks for. -/
theorem listing_shown (target : Location) (dataset : Dataset) (schema : Schema)
    (size : PageSize) :
    (target.onPage (target.listing dataset schema size).page).listing dataset schema size
      = target.listing dataset schema size :=
  listing_onPage_congr (clampPage_clampPage _ _)

theorem canonical_shown (h : target.Canonical) :
    (target.onPage (target.listing dataset schema size).page).Canonical where
  page := one_le_clampPage _ _
  filters := h.filters
  extra := h.extra

/-- **The link of a page leads to it**, with a question mark before it or without. -/
theorem listing_ofQuery_link (h : target.Canonical) {query : String}
    (hquery : query ∈ [(target.listing dataset schema size).link,
      "?" ++ (target.listing dataset schema size).link]) :
    (ofQuery query).listing dataset schema size = target.listing dataset schema size := by
  have hshown := target.listing_shown dataset schema size
  have hlink : (target.listing dataset schema size).link
      = (target.onPage (target.listing dataset schema size).page).toQuery := rfl
  simp only [hlink, List.mem_cons, List.not_mem_nil, or_false] at hquery
  rcases hquery with rfl | rfl
  · rw [ofQuery_toQuery (canonical_shown h), hshown]
  · rw [ofQuery_question_toQuery (canonical_shown h), hshown]

end Location

namespace ListRequest

/-- A request depends on its location and its page size only. -/
theorem listing_eq (request : ListRequest) (dataset : Dataset) (schema : Schema)
    (usual : PageSize) : request.listing dataset schema usual
      = request.target.listing dataset schema (request.perPage.getD usual) := by
  simp only [listing, Query.filter_eq]
  rfl

/-- Another page of the same list is asked for. -/
theorem target_withPage (request : ListRequest) (page : UInt64) :
    ({ request with page := some page } : ListRequest).target
      = request.target.onPage (max page 1) := by
  obtain ⟨⟨filters, location, other⟩, data, perPage⟩ := request
  cases filters <;> cases other <;> rfl

end ListRequest

/-! ## Links -/

namespace Session

variable {config : Config} {first after : Session} {files : Files}
  {request again : ListRequest} {page : Listing}

theorem target_of_location {query : String}
    (h : again.toLinkRequest = { location := some query }) : again.target = .ofQuery query := by
  rw [h]
  rfl

/-- **A page is shown again by its link**, with a question mark before it or without.  The link is
asked for as the location, with no other filters and no other page.  In any session under the same
configuration the same games, in pages of the same size, then give the same page; and so does the
session that has listed it, whatever has become of the files. -/
theorem listing_of_link (hfirst : first.Reached config)
    (hpage : first.listing files request = .ok (page, after)) {query : String}
    (hquery : query ∈ [page.link, "?" ++ page.link])
    (hagain : again.toLinkRequest = { location := some query })
    (hsize : again.perPage.getD config.perPage = request.perPage.getD config.perPage) :
    (∀ (second : Session) (later : Files), second.Reached config →
      second.games later again.data = first.games files request.data →
      ∃ left, second.listing later again = .ok (page, left)) ∧
    (again.data = request.data → ∀ later : Files,
      after.listing later again = .ok (page, after)) := by
  obtain ⟨dataset, schema, hconsult, rfl⟩ := listing_eq_ok_iff.1 hpage
  obtain ⟨rfl, hafter⟩ := hfirst.sound.of_consult hconsult
  have hsame : again.listing dataset (jamSchema dataset.games config.categories) config.perPage
      = request.listing dataset (jamSchema dataset.games config.categories)
        first.config.perPage := by
    rw [hfirst.sound.config_eq, request.listing_eq] at hquery ⊢
    rw [again.listing_eq, target_of_location hagain, hsize]
    exact Location.listing_ofQuery_link (Location.canonical_ofParts _ _ _) hquery
  constructor
  · intro second later hsecond hgames
    have hgiven : second.games later again.data = .ok dataset := by
      obtain ⟨shared, loaded, hdataset, rfl, -⟩ := consult_eq_ok_iff.1 hconsult
      rw [hgames, games, hdataset]
      rfl
    obtain ⟨left, hleft⟩ := hsecond.sound.consult_of_games hgiven
    refine ⟨left, listing_eq_ok_iff.2 ⟨_, _, hleft, ?_⟩⟩
    rw [hsecond.sound.config_eq, hsame]
  · intro hdata later
    refine listing_eq_ok_iff.2 ⟨_, _, hdata ▸ consult_again hconsult later, ?_⟩
    rw [hafter.config_eq, hsame]

/-- Three games in a file, wherever it is looked for. -/
def threeGames : Files := fun _ =>
  .ok (Utf8.encode ("[\x7b\"gameUrl\":\"a\",\"name\":\"A\"\x7d,".toList
    ++ "\x7b\"gameUrl\":\"b\",\"name\":\"B\"\x7d,\x7b\"gameUrl\":\"c\",\"name\":\"C\"\x7d]".toList))

/-- Asks for games, two to a page. -/
def twoToAPage : ListRequest where
  data := some "games.json"
  perPage := some ⟨2, by decide⟩

/-- Asks for games with few votes, on a page that there may not be. -/
def ninthPage : ListRequest :=
  { twoToAPage with
    filters := some "[\x7b\"path\":[\"votesCount\"],\"operator\":\"<\",\"value\":\"7\"\x7d]"
    page := some 9 }

/-- The last page, which is shown since there is no ninth one, is shown again by its link. -/
theorem listing_of_link_past_the_end :
    ∃ (page : Listing) (after left : Session),
      (start {} none false).listing threeGames ninthPage = .ok (page, after) ∧ page.page = 2 ∧
      (start {} none false).listing threeGames
        { twoToAPage with location := some ("?" ++ page.link) } = .ok (page, left) ∧
      ∀ later : Files, after.listing later { twoToAPage with location := some page.link }
        = .ok (page, after) := by
  have hsome : (((start {} none false).listing threeGames ninthPage).toOption.map
      fun given => given.1.page) = some 2 := by
    decide +kernel
  obtain ⟨⟨page, after⟩, hpage, hlast⟩ := toOption_map_eq_some_iff.1 hsome
  have hreached : Reached {} (start {} none false) := .start none false
  have hquestion : ({ twoToAPage with location := some ("?" ++ page.link) }
    : ListRequest).toLinkRequest = { location := some ("?" ++ page.link) } := rfl
  have hplain : ({ twoToAPage with location := some page.link } : ListRequest).toLinkRequest
    = { location := some page.link } := rfl
  obtain ⟨left, hleft⟩ := (listing_of_link hreached hpage (by simp) hquestion rfl).1
    (start {} none false) threeGames hreached rfl
  have hlater := (listing_of_link hreached hpage (by simp) hplain rfl).2 rfl
  exact ⟨page, after, left, hpage, hlast, hleft, hlater⟩

end Session

/-! ## All pages -/

namespace GameRow

/-- The row of each game, with its position counted from 1. -/
def numbered (games : List Game) : List GameRow :=
  games.mapIdx fun i game => .ofGame (UInt64.ofNat (i + 1)) game

@[simp] theorem length_numbered (games : List Game) : (numbered games).length = games.length :=
  List.length_mapIdx

/-- The positions do not wrap, if the games can be counted in 64 bits. -/
theorem positions_numbered {games : List Game} (h : games.length < UInt64.size) :
    (numbered games).map (fun row => row.position.toNat) = List.range' 1 games.length := by
  refine List.ext_getElem (by simp) fun i hi _ => ?_
  have hlt : i + 1 < UInt64.size := by
    rw [List.length_map, length_numbered] at hi
    omega
  simp only [numbered, List.getElem_map, List.getElem_mapIdx, List.getElem_range', ofGame,
    Nat.one_mul, Nat.add_comm 1 i]
  exact UInt64.toNat_ofNat_of_lt' hlt

/-- The rows of some games after so many others, if every position has a place in 64 bits. -/
def after? (before : UInt64) (games : List Game) : Option (List GameRow) :=
  games.zipIdx.mapM fun (game, i) => do
    return .ofGame (← exactAdd? (← exactAdd? before i.toUInt64) 1) game

theorem after?_eq_some {before : UInt64} {games : List Game}
    (h : before.toNat + games.length < UInt64.size) : after? before games
      = some (games.mapIdx fun i game => .ofGame (before + i.toUInt64 + 1) game) := by
  rw [List.mapIdx_eq_zipIdx_map, after?]
  refine mapM_eq_some_map fun ⟨game, i⟩ hmem => ?_
  have hi : i < games.length := List.snd_lt_of_mem_zipIdx hmem
  have hnat : i.toUInt64.toNat = i := toNat_toUInt64_of_lt (by omega)
  have hfirst : before.toNat + i.toUInt64.toNat < UInt64.size := by omega
  have hsecond : (before + i.toUInt64).toNat + (1 : UInt64).toNat < UInt64.size := by
    rw [UInt64.toNat_add, Nat.mod_eq_of_lt hfirst, UInt64.toNat_one]
    omega
  simp only [exactAdd?_of_lt hfirst, exactAdd?_of_lt hsecond, Option.bind_eq_bind,
    Option.bind_some]
  rfl

end GameRow

namespace Location

variable {target : Location} {dataset : Dataset} {schema : Schema} {size : PageSize}

theorem length_found_le (target : Location) (dataset : Dataset) (schema : Schema) :
    (target.found dataset schema).length ≤ dataset.games.length :=
  List.length_filter_le _ _

/-- A page is counted exactly if a game that matches is on it.  Pages are numbered from 0 here. -/
theorem lt_totalPages_iff (hfound : (target.found dataset schema).length < UInt64.size) (k : ℕ) :
    k < (target.totalPages dataset schema size).toNat ↔
      size.count.toNat * k < (target.found dataset schema).length := by
  rw [totalPages, lt_pageCount_iff, toNat_toUInt64_of_lt hfound, size.itemsPerPage_count]

/-- The pages before the one that is shown hold no more than the games that match. -/
theorem before_listing_le (hfound : (target.found dataset schema).length < UInt64.size) :
    ((target.listing dataset schema size).page.toNat - 1) * size.count.toNat
      ≤ (target.found dataset schema).length := by
  have hpage : (target.listing dataset schema size).page.toNat
      = min (max target.page.toNat 1) (max (target.totalPages dataset schema size).toNat 1) :=
    toNat_clampPage _ _
  rcases Nat.eq_zero_or_pos ((target.listing dataset schema size).page.toNat - 1) with hzero | hpos
  · rw [hzero, Nat.zero_mul]
    exact Nat.zero_le _
  · rw [Nat.mul_comm]
    exact Nat.le_of_lt ((lt_totalPages_iff hfound _).1 (by omega))

theorem length_numbered_found_lt (hfound : (target.found dataset schema).length < UInt64.size) :
    (GameRow.numbered (target.found dataset schema)).length < UInt64.size := by
  rwa [GameRow.length_numbered]

/-- The rows of the games that match fill as many pages as these games do. -/
theorem pageCount_numbered_found : pageCount
      (GameRow.numbered (target.found dataset schema)).length.toUInt64 size.count
    = target.totalPages dataset schema size := by
  rw [GameRow.length_numbered]
  rfl

/-- **The games of a page are a slice of those that match**, and each has its position among all of
them. -/
theorem items_listing (hfound : (target.found dataset schema).length < UInt64.size) :
    (target.listing dataset schema size).items
      = pageSlice (GameRow.numbered (target.found dataset schema))
        (target.listing dataset schema size).page size.count := by
  set page := (target.listing dataset schema size).page with hpage
  have hone : 1 ≤ page := one_le_clampPage _ _
  have hbefore : (page - 1) * size.count
      = UInt64.ofNat ((page.toNat - 1) * size.count.toNat) := by
    rw [UInt64.ofNat_mul, UInt64.ofNat_toNat, ← UInt64.toNat_one,
      ← UInt64.toNat_sub_of_le page 1 hone, UInt64.ofNat_toNat]
  have hitems : (target.listing dataset schema size).items
      = (pageSlice (target.found dataset schema) page size.count).mapIdx fun i game =>
        .ofGame ((page - 1) * size.count + i.toUInt64 + 1) game := rfl
  rw [hitems, pageSlice_eq hfound, pageSlice_eq (length_numbered_found_lt hfound),
    size.itemsPerPage_count, hbefore, GameRow.numbered, ← mapIdx_run]
  congr 1
  funext i game
  rw [UInt64.ofNat_add, UInt64.ofNat_add]
  rfl

/-- A page that there is is shown if it is asked for. -/
theorem page_listing_onPage {page : UInt64} (hpos : 1 ≤ page)
    (hle : page ≤ target.totalPages dataset schema size) :
    ((target.onPage page).listing dataset schema size).page = page :=
  clampPage_of_le hpos hle

/-- The games of a page that there is. -/
theorem items_listing_onPage (hfound : (target.found dataset schema).length < UInt64.size)
    {page : UInt64} (hpos : 1 ≤ page) (hle : page ≤ target.totalPages dataset schema size) :
    ((target.onPage page).listing dataset schema size).items
      = pageSlice (GameRow.numbered (target.found dataset schema)) page size.count := by
  rw [items_listing (by rwa [found_onPage]), page_listing_onPage hpos hle, found_onPage]

/-- **The pages, one after the other, are the games that match.** -/
theorem flatten_items_listing (hfound : (target.found dataset schema).length < UInt64.size) :
    ((List.range' 1 (target.totalPages dataset schema size).toNat).map fun k =>
        ((target.onPage (UInt64.ofNat k)).listing dataset schema size).items).flatten
      = GameRow.numbered (target.found dataset schema) := by
  have hslices := flatten_pageSlice (length_numbered_found_lt hfound) size.count
  rw [pageCount_numbered_found] at hslices
  refine Eq.trans (congrArg List.flatten (List.map_congr_left fun k hk => ?_)) hslices
  obtain ⟨hone, hlast⟩ := List.mem_range'_1.1 hk
  have hle : k ≤ (target.totalPages dataset schema size).toNat := by omega
  have hnat := toNat_ofNat_of_le hle
  refine items_listing_onPage hfound ?_ ?_
  · rwa [UInt64.le_iff_toNat_le, hnat]
  · rwa [UInt64.le_iff_toNat_le, hnat]

/-! ## No number wraps -/

/-- The page that a location asks for, if every number on the way has a place in 64 bits. -/
def listing? (target : Location) (dataset : Dataset) (schema : Schema) (size : PageSize) :
    Option Listing := do
  let found := target.found dataset schema
  let totalCount ← exactCount? found.length
  let datasetCount ← exactCount? dataset.games.length
  let totalPages ← pageCount? totalCount size.count
  let page := clampPage target.page totalPages
  let before ← exactMul? (← exactSub? page 1) size.count
  let items ← GameRow.after? before (← pageSlice? found page size.count)
  let pages ← pagerWindow? page totalPages
  return {
    items, totalCount, datasetCount, page, totalPages, pages
    filterSummary := schema.summary? target.filters
    link := (target.onPage page).toQuery }

/-- **No number on the way to a page wraps.** -/
theorem listing?_eq_some (hgames : dataset.games.length < UInt64.size) :
    target.listing? dataset schema size = some (target.listing dataset schema size) := by
  have hfound := (target.length_found_le dataset schema).trans_lt hgames
  have htotal : pageCount? (target.found dataset schema).length.toUInt64 size.count
      = some (target.totalPages dataset schema size) := pageCount?_eq_some _ _
  obtain ⟨page, hpage⟩ : ∃ page, (target.listing dataset schema size).page = page := ⟨_, rfl⟩
  have hclamp : clampPage target.page (target.totalPages dataset schema size) = page := hpage
  have hone : 1 ≤ page := hclamp ▸ one_le_clampPage _ _
  have hpred : (page - 1).toNat = page.toNat - 1 := UInt64.toNat_sub_of_le page 1 hone
  -- The pages before this one end within the games that match, and so does this page.
  have hstart : (page - 1).toNat * size.count.toNat ≤ (target.found dataset schema).length := by
    rw [hpred, ← hpage]
    exact before_listing_le hfound
  have hbefore : ((page - 1) * size.count).toNat = (page - 1).toNat * size.count.toNat := by
    rw [UInt64.toNat_mul]
    exact Nat.mod_eq_of_lt (hstart.trans_lt hfound)
  have hstop : ((page - 1) * size.count).toNat
      + (pageSlice (target.found dataset schema) page size.count).length < UInt64.size := by
    rw [hbefore, pageSlice_eq hfound, List.length_take, List.length_drop, size.itemsPerPage_count,
      hpred]
    rw [hpred] at hstart
    omega
  simp only [listing?, exactCount?_of_lt hfound, exactCount?_of_lt hgames, htotal, hclamp,
    exactSub?_of_le hone, exactMul?_of_lt (hstart.trans_lt hfound), pageSlice?_eq_some,
    GameRow.after?_eq_some hstop, pagerWindow?_eq_some, Option.bind_eq_bind, Option.bind_some]
  rw [listing, hclamp]
  rfl

end Location

/-! ## How the pages fit together -/

/-- What the pages of some games are, where `view` gives the page that is shown for each number. -/
structure Pages (games : List Game) (size : PageSize) (total : UInt64)
    (view : UInt64 → Listing) : Prop where
  totalCount : ∀ page, (view page).totalCount.toNat = games.length
  totalPages : ∀ page, (view page).totalPages = total
  total_eq_zero_iff : total = 0 ↔ games = []
  /-- The pages, one after the other, are the games, each as a row with its position. -/
  items : ((List.range' 1 total.toNat).map fun k => (view (UInt64.ofNat k)).items).flatten
    = GameRow.numbered games
  positions : (GameRow.numbered games).map (fun row => row.position.toNat)
    = List.range' 1 games.length
  items_ne_nil : ∀ page, 1 ≤ page → page ≤ total → (view page).items ≠ []
  length_items_le : ∀ page, (view page).items.length ≤ size.count.toNat
  page_eq : ∀ page, 1 ≤ page → page ≤ total → (view page).page = page
  /-- A number that no page has shows the first or the last one. -/
  clamped : ∀ page, view page = view (min (max page 1) (max total 1))

namespace Location

variable {target : Location} {dataset : Dataset} {schema : Schema} {size : PageSize}

/-- **The pages of a location are the games that match it.** -/
theorem pages_listing (hgames : dataset.games.length < UInt64.size) :
    Pages (target.found dataset schema) size (target.totalPages dataset schema size) fun page =>
      (target.onPage page).listing dataset schema size := by
  have hfound := (target.length_found_le dataset schema).trans_lt hgames
  have hrows := length_numbered_found_lt hfound
  refine
    { totalCount := fun _ => toNat_toUInt64_of_lt hfound
      totalPages := fun _ => rfl
      total_eq_zero_iff := ?_
      items := flatten_items_listing hfound
      positions := GameRow.positions_numbered hfound
      items_ne_nil := fun page hpos hle => ?_
      length_items_le := fun page => ?_
      page_eq := fun _ => page_listing_onPage
      clamped := fun page => listing_onPage_congr (clampPage_clampPage page _).symm }
  · rw [totalPages, pageCount_eq_zero_iff, ← UInt64.toNat_inj, toNat_toUInt64_of_lt hfound]
    exact List.length_eq_zero_iff
  · rw [items_listing_onPage hfound hpos hle, Ne, pageSlice_eq_nil_iff hrows hpos,
      pageCount_numbered_found]
    exact UInt64.not_lt.2 hle
  · rw [items_listing (by rwa [found_onPage]), found_onPage, length_pageSlice_eq_min hrows,
      size.itemsPerPage_count]
    exact Nat.min_le_left _ _

end Location

namespace Session

variable {config : Config} {session loaded : Session} {files : Files} {request : ListRequest}
  {dataset : Shared Dataset}

/-- **The pages of a list are the games that match**, whichever filters it has and however many
games a page holds, if the games can be counted in 64 bits.  A page is the same in the session and
in the one that another page has left, whatever becomes of the files, and no number on the way to it
wraps. -/
theorem pages_of_listing (hsession : session.Reached config)
    (hdataset : session.dataset files request.data = .ok (dataset, loaded))
    (hgames : dataset.value.games.length < UInt64.size) :
    let schema := jamSchema dataset.value.games config.categories
    let size := request.perPage.getD config.perPage
    ∃ (view : UInt64 → Listing) (after : Session),
      (∀ page, session.listing files { request with page := some page } = .ok (view page, after)) ∧
      (∀ page later,
        after.listing later { request with page := some page } = .ok (view page, after)) ∧
      (∀ page, ({ request with page := some page } : ListRequest).target.listing? dataset.value
        schema size = some (view page)) ∧
      Pages (request.target.found dataset.value schema) size
        (request.target.totalPages dataset.value schema size) view := by
  intro schema size
  have hconsult := hsession.sound.consult_of_dataset hdataset
  have hafter := (hsession.sound.of_consult hconsult).2
  have hpage (page : UInt64) : ({ request with page := some page } : ListRequest).listing
      dataset.value schema config.perPage
        = (request.target.onPage page).listing dataset.value schema size := by
    rw [ListRequest.listing_eq, ListRequest.target_withPage, Location.listing_onPage_max_one]
  refine ⟨fun page => (request.target.onPage page).listing dataset.value schema size,
    (loaded.schema dataset).2,
    fun page => listing_eq_ok_iff.2 ⟨_, _, hconsult, ?_⟩,
    fun page later => listing_eq_ok_iff.2 ⟨_, _, consult_again hconsult later, ?_⟩,
    fun page => ?_, Location.pages_listing hgames⟩
  · rw [hsession.sound.config_eq, hpage]
  · rw [hafter.config_eq, hpage]
  · rw [Location.listing?_eq_some hgames, ListRequest.target_withPage,
      Location.listing_onPage_max_one]

/-- Three games fill two pages of two. -/
theorem pages_of_listing_three_games :
    ∃ (dataset : Shared Dataset) (loaded : Session),
      (start {} none false).dataset threeGames twoToAPage.data = .ok (dataset, loaded) ∧
      dataset.value.games.map Game.name = ["A", "B", "C"] ∧
      ∃ (view : UInt64 → Listing) (after : Session),
        (∀ page, (start {} none false).listing threeGames { twoToAPage with page := some page }
          = .ok (view page, after)) ∧
        Pages dataset.value.games ⟨2, by decide⟩ 2 view := by
  have hsome : (((start {} none false).dataset threeGames twoToAPage.data).toOption.map
      fun given => given.1.value.games.map Game.name) = some ["A", "B", "C"] := by
    decide +kernel
  obtain ⟨⟨dataset, loaded⟩, hdataset, hnames⟩ := toOption_map_eq_some_iff.1 hsome
  have hlength : dataset.value.games.length = 3 := by
    rw [← List.length_map Game.name, hnames]
    rfl
  have hgames : dataset.value.games.length < UInt64.size := by
    rw [hlength, UInt64.size]
    omega
  obtain ⟨view, after, hview, -, -, hpages⟩ :=
    pages_of_listing (.start none false) hdataset hgames
  have hfound (schema : Schema) :
      twoToAPage.target.found dataset.value schema = dataset.value.games :=
    List.filter_eq_self.2 fun _ _ => rfl
  have htotal (schema : Schema) :
      twoToAPage.target.totalPages dataset.value schema ⟨2, by decide⟩ = 2 := by
    rw [Location.totalPages, hfound, hlength]
    decide
  have hsize : twoToAPage.perPage.getD ({} : Config).perPage = ⟨2, by decide⟩ := rfl
  rw [hsize, htotal, hfound] at hpages
  exact ⟨dataset, loaded, hdataset, hnames, view, after, hview, hpages⟩

end Session
end GameJam
