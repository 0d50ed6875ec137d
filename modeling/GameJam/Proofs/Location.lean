import GameJam.Proofs.Filter.Token
import GameJam.Proofs.Number.Written
import GameJam.Proofs.Text.UrlForm
import GameJam.Session

/-!
# Locations and their query strings

A query string can say the same thing in many ways, and much of what it says can be wrong.  What is
read from it, though, is always of one form: the page is at least 1, no number is infinite or a NaN,
and the other pairs have keys of their own.  On that form writing and reading are inverse, so that a
link which is asked for again is the same link.

## What is here

* `Location.Canonical` — the form; `Location.canonical_ofParts` says that it is always reached.
* `Location.query_round_trip` — **a canonical location is read from its query string**.
* `LinkRequest.canonical_link` — what is asked for by a query string, a token and a page, and
  **that the link to it leads there again**.
-/

set_option autoImplicit false

namespace GameJam

/-! ## Pages -/

theorem not_isBlank_of_isDigit {c : Char} (h : c.isDigit = true) : isBlank c = false := by
  rw [Char.isDigit_iff_toNat] at h
  have hlow : '0'.toNat = 48 := rfl
  have hhigh : '9'.toNat = 57 := rfl
  rw [hlow, hhigh] at h
  rw [isBlank, Bool.eq_false_iff]
  simp only [ne_eq, Bool.or_eq_true, Bool.and_eq_true, decide_eq_true_eq, beq_iff_eq]
  omega

theorem not_isBlank_of_mem_decimalText {n : Nat} {c : Char} (h : c ∈ decimalText n) :
    isBlank c = false :=
  not_isBlank_of_isDigit (isDigit_of_mem_decimalText h)

theorem readCount?_decimalText (n : UInt64) : readCount? (decimalText n.toNat) = some n := by
  have hne := decimalText_ne_nil n.toNat
  have hall : (decimalText n.toNat).all Char.isDigit = true :=
    List.all_eq_true.2 fun c hc => isDigit_of_mem_decimalText hc
  have hplus : ∀ digits, decimalText n.toNat ≠ '+' :: digits := by
    intro digits htext
    have hdigit : '+'.isDigit = true := isDigit_of_mem_decimalText (htext ▸ List.mem_cons_self)
    exact absurd hdigit (by decide)
  rw [readCount?]
  · simp [hne, hall, digitsValue_decimalText, UInt64.toNat_lt_size, List.isEmpty_iff]
  · exact hplus

namespace Location

theorem max_one_of_le {page : UInt64} (h : 1 ≤ page) : max page 1 = page := by
  have hmax : max page 1 = if page ≤ 1 then 1 else page := rfl
  rw [hmax]
  split
  · exact UInt64.le_antisymm h ‹page ≤ 1›
  · rfl

theorem one_le_max (page : UInt64) : 1 ≤ max page 1 := by
  have hmax : max page 1 = if page ≤ 1 then 1 else page := rfl
  rw [hmax]
  split
  · exact UInt64.le_refl 1
  · exact (UInt64.le_total page 1).resolve_left ‹¬page ≤ 1›

theorem one_le_pageOf (text : Option String) : 1 ≤ pageOf text := by
  unfold pageOf
  split
  · exact one_le_max _
  · exact UInt64.le_refl 1

/-- The page that a text writes. -/
theorem pageOf_of_trim_eq {page : UInt64} (h : 1 ≤ page) {text : String}
    (htrim : trim text.toList = decimalText page.toNat) : pageOf (some text) = page := by
  simp only [pageOf, Option.bind_some, htrim, readCount?_decimalText, max_one_of_le h]

theorem pageOf_decimalText {page : UInt64} (h : 1 ≤ page) :
    pageOf (some (String.ofList (decimalText page.toNat))) = page := by
  refine pageOf_of_trim_eq h ?_
  rw [String.toList_ofList, trim_eq_self fun c hc => not_isBlank_of_mem_decimalText hc]

theorem pageOf_decimalText_newline {page : UInt64} (h : 1 ≤ page) :
    pageOf (some (String.ofList (decimalText page.toNat) ++ "\n")) = page := by
  refine pageOf_of_trim_eq h ?_
  rw [String.toList_append, String.toList_ofList]
  exact trim_append_of_isBlank (fun c hc => not_isBlank_of_mem_decimalText hc) (by decide)

/-! ## Pairs -/

/-- The pairs of a query string, which may begin with a question mark. -/
def pairs (query : String) : List (String × String) :=
  UrlForm.readPairs (match query.toList with
    | '?' :: rest => rest
    | text => text)

theorem ofQuery_eq_ofPairs (query : String) : ofQuery query = ofPairs (pairs query) :=
  rfl

/-- What every location that is read has: a page, finite numbers, and other pairs whose keys are
not its own. -/
structure Canonical (location : Location) : Prop where
  page : 1 ≤ location.page
  filters : ∀ entry ∈ location.filters, entry.IsFinite
  extra : ∀ pair ∈ location.extra, pair.1 ≠ "filters" ∧ pair.1 ≠ "page"

theorem canonical_ofPairs (pairs : List (String × String)) : (ofPairs pairs).Canonical where
  page := one_le_pageOf _
  filters _ h := Token.isFinite_of_mem_read h
  extra pair h := by simpa [ofPairs] using (List.mem_filter.1 h).2

/-- The last value of a key among other pairs. -/
theorem lastValue?_append_of_forall_ne {others rest : List (String × String)} {key : String}
    (h : ∀ pair ∈ others, pair.1 ≠ key) :
    lastValue? (others ++ rest) key = lastValue? rest key := by
  have hnone : others.filter (fun pair => pair.1 == key) = [] :=
    List.filter_eq_nil_iff.2 fun pair hpair => by simpa using h pair hpair
  rw [lastValue?, List.filter_append, hnone, List.nil_append]
  rfl

/-- The pairs of a location before its page. -/
def pairsBeforePage (location : Location) : List (String × String) :=
  location.extra
    ++ (if location.filters.isEmpty then [] else [("filters", Token.write location.filters)])

theorem toPairs_eq (location : Location) : location.toPairs
    = location.pairsBeforePage ++ [("page", String.ofList (decimalText location.page.toNat))] :=
  rfl

/-- **The pairs of a canonical location are read as the location**, its page written in any way that
is read as the page. -/
theorem ofPairs_append_page {location : Location} (h : location.Canonical) {page : String}
    (hpage : pageOf (some page) = location.page) :
    ofPairs (location.pairsBeforePage ++ [("page", page)]) = location := by
  have hfilters : lastValue? (location.pairsBeforePage ++ [("page", page)]) "filters"
      = if location.filters.isEmpty then none else some (Token.write location.filters) := by
    rw [pairsBeforePage, List.append_assoc,
      lastValue?_append_of_forall_ne fun pair hpair => (h.extra pair hpair).1]
    cases location.filters.isEmpty <;> rfl
  have hlast : lastValue? (location.pairsBeforePage ++ [("page", page)]) "page" = some page := by
    rw [pairsBeforePage, List.append_assoc,
      lastValue?_append_of_forall_ne fun pair hpair => (h.extra pair hpair).2]
    cases location.filters.isEmpty <;> rfl
  have hextra : (location.pairsBeforePage ++ [("page", page)]).filter
      (fun pair => pair.1 != "filters" && pair.1 != "page") = location.extra := by
    have hkept : location.extra.filter (fun pair => pair.1 != "filters" && pair.1 != "page")
        = location.extra :=
      List.filter_eq_self.2 fun pair hpair => by simpa using h.extra pair hpair
    rw [pairsBeforePage, List.filter_append, List.filter_append, hkept]
    cases location.filters.isEmpty <;> simp
  have hread : Token.read (if location.filters.isEmpty then none
      else some (Token.write location.filters)) = location.filters := by
    split
    · rename_i hempty
      rw [List.isEmpty_iff.1 hempty]
      rfl
    · exact Token.read_write_of_isFinite h.filters
  rw [ofPairs, hfilters, hlast, hextra, hread, hpage]

/-! ## Query strings -/

/-- A question mark before a query string is passed over. -/
theorem pairs_question (query : String) :
    pairs ("?" ++ query) = UrlForm.readPairs query.toList := by
  rw [pairs, String.toList_append]
  rfl

theorem pairs_of_question_not_mem {query : String} (h : '?' ∉ query.toList) :
    pairs query = UrlForm.readPairs query.toList := by
  rw [pairs]
  split
  · rename_i rest htext
    exact absurd (htext ▸ List.mem_cons_self) h
  · rfl

theorem toList_toQuery (location : Location) :
    location.toQuery.toList = UrlForm.writePairs location.toPairs :=
  String.toList_ofList

theorem ofPairs_toPairs {location : Location} (h : location.Canonical) :
    ofPairs location.toPairs = location :=
  ofPairs_append_page h (pageOf_decimalText h.page)

theorem ofQuery_toQuery {location : Location} (h : location.Canonical) :
    ofQuery location.toQuery = location := by
  have hquestion : '?' ∉ location.toQuery.toList := by
    rw [toList_toQuery]
    exact UrlForm.question_not_mem_writePairs _
  rw [ofQuery_eq_ofPairs, pairs_of_question_not_mem hquestion, toList_toQuery,
    UrlForm.readPairs_writePairs, ofPairs_toPairs h]

theorem ofQuery_question_toQuery {location : Location} (h : location.Canonical) :
    ofQuery ("?" ++ location.toQuery) = location := by
  rw [ofQuery_eq_ofPairs, pairs_question, toList_toQuery, UrlForm.readPairs_writePairs,
    ofPairs_toPairs h]

/-- A line break behind the query string makes no difference. -/
theorem ofQuery_question_toQuery_newline {location : Location} (h : location.Canonical) :
    ofQuery ("?" ++ location.toQuery ++ "\n") = location := by
  have hpairs : UrlForm.readPairs (location.toQuery ++ "\n").toList = location.pairsBeforePage
      ++ [("page", String.ofList (decimalText location.page.toNat) ++ "\n")] := by
    rw [String.toList_append, toList_toQuery, toPairs_eq]
    exact UrlForm.readPairs_writePairs_newline _ _ _
  rw [String.append_assoc, ofQuery_eq_ofPairs, pairs_question, hpairs]
  exact ofPairs_append_page h (pageOf_decimalText_newline h.page)

/-- **A canonical location is read from its query string**, with a question mark before it or
without: its rows, its page, and its other pairs in their order. -/
theorem query_round_trip {location : Location} (h : location.Canonical) :
    ofQuery location.toQuery = location ∧ ofQuery ("?" ++ location.toQuery) = location :=
  ⟨ofQuery_toQuery h, ofQuery_question_toQuery h⟩

/-- A row with a number, a repeated key, an empty one, and characters that query strings use. -/
theorem query_round_trip_reserved :
    ofQuery (toQuery ⟨[⟨["score"], some "=", some (.number (.ofInt 3))⟩], 7,
        [("a&b", "=+%?"), ("", ""), ("a&b", "ü x")]⟩)
      = ⟨[⟨["score"], some "=", some (.number (.ofInt 3))⟩], 7,
        [("a&b", "=+%?"), ("", ""), ("a&b", "ü x")]⟩ := by
  refine (query_round_trip ⟨by decide, List.forall_mem_singleton.2 fun x hx => ?_, by decide⟩).1
  rw [← EntryValue.number.inj (Option.some.inj hx)]
  exact Binary64.isFinite_ofInt (by decide)

/-! ## Other filters, another page -/

/-- An absent query string is as good as an empty one. -/
theorem map_ofQuery_getD (query : Option String) :
    (query.map ofQuery).getD {} = ofQuery (query.getD "") := by
  cases query <;> rfl

theorem canonical_withFilters {location : Location} (h : location.Canonical)
    (token : Option String) : (location.withFilters (Token.read token)).Canonical where
  page := UInt64.le_refl 1
  filters _ hentry := Token.isFinite_of_mem_read hentry
  extra := h.extra

theorem canonical_withPage {location : Location} (h : location.Canonical) (page : UInt64) :
    (location.withPage page).Canonical where
  page := one_le_max page
  filters := h.filters
  extra := h.extra

theorem canonical_ofParts (query token : Option String) (page : Option UInt64) :
    (ofParts query token page).Canonical := by
  have hquery : (ofQuery (query.getD "")).Canonical := canonical_ofPairs _
  simp only [ofParts, map_ofQuery_getD]
  cases token with
  | none =>
    cases page with
    | none => exact hquery
    | some page => exact canonical_withPage hquery page
  | some token =>
    have htoken := canonical_withFilters hquery (some token)
    cases page with
    | none => exact htoken
    | some page => exact canonical_withPage htoken page

/-- The other pairs are those of the query string. -/
theorem extra_ofParts (query token : Option String) (page : Option UInt64) :
    (ofParts query token page).extra = (ofQuery (query.getD "")).extra := by
  simp only [ofParts, map_ofQuery_getD]
  cases token <;> cases page <;> rfl

/-- A page that is given counts, and else new filters begin at page 1. -/
theorem page_ofParts (query token : Option String) (page : Option UInt64) :
    (ofParts query token page).page =
      match page, token with
      | some page, _ => max page 1
      | none, some _ => 1
      | none, none => (ofQuery (query.getD "")).page := by
  simp only [ofParts, map_ofQuery_getD]
  cases token <;> cases page <;> rfl

end Location

/-! ## Links -/

namespace LinkRequest

/-- The link to what is asked for leads there again, as it is written and as it is shown. -/
theorem target_link (request : LinkRequest) {query : String}
    (h : query ∈ [request.target.toQuery, "?" ++ request.target.toQuery,
      "?" ++ request.target.toQuery ++ "\n"]) :
    ({ location := some query } : LinkRequest).target = request.target := by
  have hcanonical : request.target.Canonical := Location.canonical_ofParts _ _ _
  have htarget : ({ location := some query } : LinkRequest).target = Location.ofQuery query := rfl
  rw [htarget]
  simp only [List.mem_cons, List.not_mem_nil, or_false] at h
  rcases h with rfl | rfl | rfl
  · exact Location.ofQuery_toQuery hcanonical
  · exact Location.ofQuery_question_toQuery hcanonical
  · exact Location.ofQuery_question_toQuery_newline hcanonical

/-- What a session shows of a link, unless it shows data. -/
theorem answer_link (session : Session) (files : Files) (request : LinkRequest)
    (h : session.mode.isStructured = false) : session.answer files (.link request)
      = .ok ("?" ++ request.target.toQuery ++ "\n", session) := by
  have hsome : session.mode.textStyle? session.terminal ≠ none := by
    rw [ne_eq, OutputMode.textStyle?_eq_none_iff, h]
    decide
  obtain ⟨style, hstyle⟩ := Option.ne_none_iff_exists'.1 hsome
  have hshown : session.present request.target.presentation
      = "?" ++ request.target.toQuery ++ "\n" := by
    rw [Session.present, Presentation.write, hstyle]
    cases style <;> simp [Location.presentation, StyledText.write, Span.write, Span.plain,
      String.append_assoc]
  rw [Session.answer, hshown]
  rfl

/-- **Whatever is asked for, the location is canonical and its link leads to it again.**  Its page
is at least 1, its numbers are finite, and it keeps the other pairs of the query string; a link that
is asked for by what was shown is the same link. -/
theorem canonical_link (request : LinkRequest) :
    1 ≤ request.target.page ∧
    (∀ entry ∈ request.target.filters, entry.IsFinite) ∧
    request.target.extra = (Location.pairs (request.location.getD "")).filter
      (fun pair => pair.1 ≠ "filters" ∧ pair.1 ≠ "page") ∧
    request.target.page =
      (match request.page, request.filters with
      | some page, _ => max page 1
      | none, some _ => 1
      | none, none => (Location.ofQuery (request.location.getD "")).page) ∧
    (∀ query ∈ [request.target.toQuery, "?" ++ request.target.toQuery,
        "?" ++ request.target.toQuery ++ "\n"],
      ({ location := some query } : LinkRequest).target = request.target ∧
      ∀ (session : Session) (files : Files),
        session.answer files (.link { location := some query })
          = session.answer files (.link request)) ∧
    ∀ (session : Session) (files : Files), session.mode.isStructured = false →
      session.answer files (.link request)
        = .ok ("?" ++ request.target.toQuery ++ "\n", session) := by
  have hcanonical : request.target.Canonical := Location.canonical_ofParts _ _ _
  refine ⟨hcanonical.page, hcanonical.filters, ?_, Location.page_ofParts _ _ _, ?_, ?_⟩
  · refine (Location.extra_ofParts _ _ _).trans (List.filter_congr fun pair _ => ?_)
    by_cases hfilters : pair.1 = "filters" <;> by_cases hpage : pair.1 = "page" <;>
      simp [hfilters, hpage]
  · intro query hquery
    have htarget := request.target_link hquery
    refine ⟨htarget, fun session files => ?_⟩
    rw [Session.answer, Session.answer, htarget]
  · exact fun session files h => answer_link session files request h

/-- Page 0 of a query string with a broken escape: asked for again, and as it is shown. -/
theorem canonical_link_page_zero :
    ({ location := some ("?" ++ (target { location := some "?x=%GG", page := some 0 }).toQuery
        ++ "\n") } : LinkRequest).target
      = target { location := some "?x=%GG", page := some 0 } ∧
    (Session.start {} (some .text) false).answer (fun _ => .error .notFound)
        (.link { location := some "?x=%GG", page := some 0 })
      = .ok ("?" ++ (target { location := some "?x=%GG", page := some 0 }).toQuery ++ "\n",
        Session.start {} (some .text) false) := by
  have hlink := canonical_link { location := some "?x=%GG", page := some 0 }
  exact ⟨(hlink.2.2.2.2.1 _ (by simp)).1, hlink.2.2.2.2.2 _ _ rfl⟩

end LinkRequest
end GameJam
