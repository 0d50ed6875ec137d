import GameJam.Proofs.Filter.WellFormed
import GameJam.Proofs.Session.Loading

/-!
# What the summary of a filter names

A listing says in one line by which rows it is filtered.  The line and the query are made from the
same rows, but apart from one another: the query passes over rows without a property before it asks
for clauses, and the line asks for the clause of every row.  They agree all the same, so that a
reader is told of the rows that constrain the result and of no others, and a listing that names none
shows all games.

## What is here

* `Schema.summary?_eq_none_iff` — a line is left out just if the query asks for nothing.
* `Query.filter_of_clauses_eq_nil` — such a query keeps all games.
* `Schema.summary_of_rows` — **the line names the rows that the clauses stand for**, one by one.
-/

set_option autoImplicit false

universe u

namespace GameJam

/-- A query that asks for nothing keeps everything. -/
theorem Query.filter_of_clauses_eq_nil {α : Type u} {query : Query} (h : query.clauses = [])
    (serve : α → List String → FieldValue) (items : List α) : query.filter serve items = items := by
  rw [filter, isEmpty, h]
  rfl

namespace Schema

/-- The rows that have a clause, each shown as it is. -/
theorem summary?_eq_some {schema : Schema} {entries : List Entry}
    (h : (Query.compile schema entries).clauses ≠ []) :
    schema.summary? entries = some (" and ".intercalate
      ((entries.filter fun entry => (schema.compile? entry).isSome).map Entry.display)) := by
  have hlength := (forall₂_compile schema entries).length_eq
  have hactive : (entries.filter fun entry => (schema.compile? entry).isSome) ≠ [] := by
    rwa [← List.length_pos_iff, hlength, List.length_pos_iff]
  rw [summary?, if_neg (by simpa using hactive)]

/-- There is a line just if there is a clause. -/
theorem summary?_eq_none_iff {schema : Schema} {entries : List Entry} :
    schema.summary? entries = none ↔ (Query.compile schema entries).clauses = [] := by
  constructor
  · intro h
    by_contra hclauses
    rw [summary?_eq_some hclauses] at h
    cases h
  · intro h
    have hlength := (forall₂_compile schema entries).length_eq
    rw [h, List.length_nil, List.length_eq_zero_iff] at hlength
    rw [summary?, hlength]
    rfl

/-- **The summary names the rows that constrain the result.**  There is none just if the query has
no clause.  Otherwise it shows some of the rows, in their order, one for each clause, and each is
the row that the clause was made from.  So a listing without a summary finds as many games as there
are. -/
theorem summary_of_rows :
    (∀ (schema : Schema) (entries : List Entry),
      (schema.summary? entries = none ↔ (Query.compile schema entries).clauses = []) ∧
      ((Query.compile schema entries).clauses ≠ [] → ∃ active : List Entry,
        active.Sublist entries ∧
        List.Forall₂ (fun entry clause => schema.compile? entry = some clause) active
          (Query.compile schema entries).clauses ∧
        schema.summary? entries = some (" and ".intercalate (active.map Entry.display)))) ∧
    ∀ (session after : Session) (files : Files) (request : ListRequest) (page : Listing),
      session.listing files request = .ok (page, after) → page.filterSummary = none →
        page.totalCount = page.datasetCount := by
  constructor
  · exact fun schema entries => ⟨summary?_eq_none_iff, fun hclauses =>
      ⟨_, List.filter_sublist, forall₂_compile schema entries, summary?_eq_some hclauses⟩⟩
  · intro session after files request page hpage hnone
    obtain ⟨dataset, schema, -, rfl⟩ := Session.listing_eq_ok_iff.1 hpage
    have hclauses := summary?_eq_none_iff.1 hnone
    exact congrArg (fun games : List Game => games.length.toUInt64)
      (Query.filter_of_clauses_eq_nil hclauses Game.serve dataset.games)

/-- A property without a name cannot be filtered by, and so a row that names it is not shown. -/
theorem summary_of_rows_without_name :
    let schema : Schema := [.text "" "Anything", .text "name" "Name"]
    let nameless : Entry := ⟨[""], some "contains", some (.text "a")⟩
    let named : Entry := ⟨["name"], some "contains", some (.text "b")⟩
    let query := Query.compile schema [nameless, named]
    query.clauses ≠ [] ∧ schema.summary? [nameless, named] = some "name contains \"b\"" ∧
      ∃ active : List Entry, active.Sublist [nameless, named] ∧
        List.Forall₂ (fun entry clause => schema.compile? entry = some clause) active
          query.clauses ∧
        schema.summary? [nameless, named]
          = some (" and ".intercalate (active.map Entry.display)) := by
  intro schema nameless named query
  have hclauses : query.clauses ≠ [] := by decide +kernel
  have hsummary : schema.summary? [nameless, named] = some "name contains \"b\"" := by
    decide +kernel
  exact ⟨hclauses, hsummary, (summary_of_rows.1 schema [nameless, named]).2 hclauses⟩

end Schema
end GameJam
