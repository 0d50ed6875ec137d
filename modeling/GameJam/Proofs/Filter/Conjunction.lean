import GameJam.Proofs.Filter.RowMeaning
import Mathlib.Data.List.Basic

/-!
# Rows as a conjunction

Rows are compiled in their order, those that constrain nothing are left out, the clauses are tried
one after the other until one fails, and without a clause no record is looked at.  None of this
shows in what is kept.  A record is kept if every clause holds of it, so what is kept depends on
which clauses there are, not on their order or their number, and more clauses keep less.

## What is here

* `Query.filter_append` — clauses after other ones go through what those have kept.
* `Query.filter_sublist_filter` — **more clauses keep less**; `Query.filter_congr`, the same clauses
  keep the same.
* `Schema.kept` — the games that a list of rows keeps.
* `Schema.kept_congr` — rows that constrain nothing, the order of rows and repeated ones make no
  difference.
* `Schema.kept_conjunction` — **lists of rows are put together as conjunctions**.
-/

set_option autoImplicit false

universe u

namespace GameJam

/-! ## Clauses -/

namespace Query

variable {α : Type u} {serve : α → List String → FieldValue} {query other : Query}

theorem holds_iff {item : α} : query.holds serve item = true ↔
    ∀ clause ∈ query.clauses, clause.holds (serve item) = true :=
  List.all_eq_true

/-- What is kept is kept in its order. -/
theorem filter_sublist (query : Query) (serve : α → List String → FieldValue) (items : List α) :
    (query.filter serve items).Sublist items := by
  rw [filter_eq]
  exact List.filter_sublist

/-- Clauses after other ones go through what those have kept. -/
theorem filter_append (first second : List Clause) (serve : α → List String → FieldValue)
    (items : List α) : (mk (first ++ second)).filter serve items
      = (mk second).filter serve ((mk first).filter serve items) := by
  rw [filter_eq, filter_eq, filter_eq, List.filter_filter]
  refine List.filter_congr fun item _ => ?_
  rw [holds, List.all_append, Bool.and_comm]
  rfl

/-- **More clauses keep less**, and what they keep stays in its order. -/
theorem filter_sublist_filter (h : query.clauses ⊆ other.clauses) (items : List α) :
    (other.filter serve items).Sublist (query.filter serve items) := by
  rw [filter_eq, filter_eq]
  refine List.monotone_filter_right items fun item hholds => ?_
  rw [holds_iff] at hholds ⊢
  exact fun clause hclause => hholds clause (h hclause)

/-- The same clauses keep the same, in whatever order and however often they stand. -/
theorem filter_congr (h : ∀ clause, clause ∈ query.clauses ↔ clause ∈ other.clauses)
    (items : List α) : query.filter serve items = other.filter serve items :=
  (filter_sublist_filter (fun clause => (h clause).2) items).antisymm
    (filter_sublist_filter (fun clause => (h clause).1) items)

theorem mem_clauses_compile {schema : Schema} {entries : List Entry} {clause : Clause} :
    clause ∈ (compile schema entries).clauses ↔
      ∃ entry ∈ entries, schema.compile? entry = some clause := by
  rw [compile_eq]
  exact List.mem_filterMap

end Query

/-! ## Rows -/

namespace Schema

variable {schema : Schema} {entries others : List Entry} {games : List Game}

/-- The games that a list of rows keeps. -/
def kept (schema : Schema) (entries : List Entry) (games : List Game) : List Game :=
  (Query.compile schema entries).filter Game.serve games

theorem kept_append (schema : Schema) (entries others : List Entry) (games : List Game) :
    schema.kept (entries ++ others) games = schema.kept others (schema.kept entries games) := by
  have hcompile : Query.compile schema (entries ++ others)
      = ⟨(Query.compile schema entries).clauses ++ (Query.compile schema others).clauses⟩ := by
    simp only [Query.compile_eq, List.filterMap_append]
  rw [kept, hcompile, Query.filter_append]
  rfl

/-- Two lists keep the same games if the same rows in them have a clause. -/
theorem kept_congr
    (h : ∀ entry clause, schema.compile? entry = some clause → (entry ∈ entries ↔ entry ∈ others)) :
    schema.kept entries games = schema.kept others games := by
  refine Query.filter_congr (fun clause => ?_) games
  rw [Query.mem_clauses_compile, Query.mem_clauses_compile]
  constructor
  · rintro ⟨entry, hentry, hclause⟩
    exact ⟨entry, (h entry clause hclause).1 hentry, hclause⟩
  · rintro ⟨entry, hentry, hclause⟩
    exact ⟨entry, (h entry clause hclause).2 hentry, hclause⟩

/-- **Lists of rows are put together as conjunctions**: the rows of a second list are applied to
what those of the first one have kept.  So the order of rows and repeated ones make no difference,
nor do rows that constrain nothing, wherever they stand, and what is kept stays in its order. -/
theorem kept_conjunction (schema : Schema) (games : List Game) :
    (∀ entries others,
      schema.kept (entries ++ others) games = schema.kept others (schema.kept entries games)) ∧
    (∀ entries others, entries.Perm others →
      schema.kept entries games = schema.kept others games) ∧
    (∀ before entry after, entry ∈ before ++ after →
      schema.kept (before ++ entry :: after) games = schema.kept (before ++ after) games) ∧
    (∀ before idle after, (∀ entry ∈ idle, schema.compile? entry = none) →
      schema.kept (before ++ idle ++ after) games = schema.kept (before ++ after) games) ∧
    (∀ entries, (schema.kept entries games).Sublist games) := by
  refine ⟨fun entries others => schema.kept_append entries others games, ?_, ?_, ?_, ?_⟩
  · intro entries others hperm
    exact kept_congr fun entry _ _ => hperm.mem_iff
  · intro before entry after hagain
    refine kept_congr fun other _ _ => ?_
    rw [List.perm_middle.mem_iff, List.mem_cons]
    exact or_iff_right_of_imp fun hother => hother ▸ hagain
  · intro before idle after hidle
    refine kept_congr fun entry clause hclause => ?_
    have hactive : entry ∉ idle := by
      intro hentry
      rw [hidle entry hentry] at hclause
      cases hclause
    simp [hactive]
  · intro entries
    exact Query.filter_sublist _ Game.serve games

/-- A name and few votes are asked for, the votes twice and with a row between that is not filled
in; one game is kept, as if they were asked for once and the other way round. -/
theorem kept_conjunction_repeated_row :
    let schema : Schema := [.text "name" "Name", .numeric "votesCount" "Votes count" {}]
    let games := [("Ash", 3), ("Ash", 9), ("Elm", 3)].map fun (name, votes) =>
      (⟨"", "", none, name, [], votes, [], none, none, none, none⟩ : Game)
    let named : Entry := ⟨["name"], some "contains", some (.text "a")⟩
    let few : Entry := ⟨["votesCount"], some "<", some (.text "7")⟩
    let unset : Entry := ⟨["votesCount"], some "<", none⟩
    schema.compile? unset = none ∧
    schema.kept [named, few, unset, few] games = schema.kept [few, named] games ∧
    schema.kept [few, named] games = games.take 1 := by
  intro schema games named few unset
  have hunset : schema.compile? unset = none := by decide +kernel
  obtain ⟨-, hperm, hagain, hidle, -⟩ := schema.kept_conjunction games
  refine ⟨hunset, ?_, by decide +kernel⟩
  calc schema.kept [named, few, unset, few] games
      = schema.kept [named, few, few] games := hidle [named, few] [unset] [few] (by simpa)
    _ = schema.kept [named, few] games := hagain [named] few [few] (by simp)
    _ = schema.kept [few, named] games := hperm _ _ (.swap few named [])

end Schema
end GameJam
