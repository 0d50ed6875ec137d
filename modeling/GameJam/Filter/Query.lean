import GameJam.Filter.Schema

/-!
# Queries

A query is a list of clauses; a record matches when all of them hold.  Rows that constrain nothing
leave no clause, so that an empty query matches every record.

## What is here

* `Query` and `Query.compile` — the clauses of a list of rows.
* `Query.holds` and the ways to search a list with it: `filter`, `filterCopies`, `count`, `any`,
  `find?` and `position?`.
* `Query.predicate` — the query as a test of one record.
-/

set_option autoImplicit false

universe u

namespace GameJam

/-- Clauses that all have to hold. -/
structure Query where
  clauses : List Clause := []
deriving DecidableEq

namespace Query

/-- The clauses of a list of rows, in the order of the rows.  Rows without a property are not
looked at. -/
def compile (schema : Schema) (entries : List Entry) : Query :=
  ⟨(entries.filter fun entry => entry.propertyName.isSome).filterMap schema.compile?⟩

/-- A row without a property would have had no clause. -/
theorem compile_eq (schema : Schema) (entries : List Entry) :
    compile schema entries = ⟨entries.filterMap schema.compile?⟩ := by
  rw [compile, List.filterMap_filter]
  congr 2
  funext entry
  split
  · rfl
  · rename_i hname
    rw [Option.not_isSome_iff_eq_none] at hname
    rw [Schema.compile?, hname]
    rfl

/-- The query with one more clause. -/
def and (query : Query) (clause : Clause) : Query :=
  ⟨query.clauses ++ [clause]⟩

/-- Does the query ask for nothing? -/
def isEmpty (query : Query) : Bool :=
  query.clauses.isEmpty

section Search

variable {α : Type u} (query : Query) (serve : α → List String → FieldValue)

/-- Does a record match, `serve` being what each record serves at a path? -/
def holds (item : α) : Bool :=
  query.clauses.all fun clause => clause.holds (serve item)

/-- The query as a test of one record. -/
def predicate : α → Bool :=
  fun item => query.holds serve item

/-- The records that match, in their order. -/
def filter (items : List α) : List α :=
  if query.isEmpty then items else items.filter (query.holds serve)

/-- Going through the records is left out only where all of them match. -/
theorem filter_eq (items : List α) :
    query.filter serve items = items.filter (query.holds serve) := by
  unfold filter
  split
  · refine (List.filter_eq_self.2 fun item _ => ?_).symm
    simp_all [holds, isEmpty]
  · rfl

/-- Copies of the records that match, in their order, `copy` being how a record is copied. -/
def filterCopies (copy : α → α) (items : List α) : List α :=
  (query.filter serve items).map copy

/-- How many records match. -/
def count (items : List α) : Nat :=
  items.countP (query.holds serve)

/-- Does any record match? -/
def any (items : List α) : Bool :=
  items.any (query.holds serve)

/-- The first record that matches. -/
def find? (items : List α) : Option α :=
  items.find? (query.holds serve)

/-- Where the first record that matches stands. -/
def position? (items : List α) : Option Nat :=
  items.findIdx? (query.holds serve)

end Search

end Query
end GameJam
