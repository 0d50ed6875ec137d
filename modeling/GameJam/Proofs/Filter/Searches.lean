import GameJam.Proofs.Filter.Conjunction
import Mathlib.Data.List.FinRange

/-!
# Ways to search a list

A list can be searched for all records that match a query or for copies of them, for their number,
for whether there is one, for the first one, and for the place where that one stands.  Each of these
goes through the list by itself: three of them stop at the first record that matches, and one does
not look at the records at all if the query has no clause.  They agree nevertheless, because all of
them go by the same places, those where every clause holds of the record that stands there.

What a record is does not matter, nor which clauses there are: a clause with an operator that its
test does not know has an answer too, and every search gets the same one.

## What is here

* `Query.places` — where the records stand that match, in order; `Query.places_and`, where they
  stand once a clause is added.
* `Query.filter_eq_map_places` — what is kept are the records at these places.
* `Query.position?_eq_head?_places` — the first of the places is the one that is found.
* `Query.FoundAt` and `Query.searches_agree` — **all ways to search a list agree**.
-/

set_option autoImplicit false

universe u

namespace GameJam
namespace Query

variable {α : Type u} (query : Query) (serve : α → List String → FieldValue)

/-! ## Where the records stand that match -/

/-- The places of the records that match, in order. -/
def places (items : List α) : List (Fin items.length) :=
  (List.finRange items.length).filter fun i => query.holds serve items[i]

theorem pairwise_places (items : List α) : (query.places serve items).Pairwise (· < ·) :=
  (List.pairwise_lt_finRange _).filter _

variable {query serve} in
theorem mem_places_iff {items : List α} {i : Fin items.length} :
    i ∈ query.places serve items ↔ query.holds serve items[i] = true := by
  rw [places, List.mem_filter]
  exact and_iff_right (List.mem_finRange i)

/-- A clause that is added leaves the places where it holds as well. -/
theorem places_and (clause : Clause) (items : List α) : (query.and clause).places serve items
    = (query.places serve items).filter fun i => clause.holds (serve items[i]) := by
  rw [places, places, List.filter_filter]
  refine List.filter_congr fun i _ => ?_
  rw [holds, and, List.all_append, Bool.and_comm, List.all_cons, List.all_nil, Bool.and_true]
  rfl

/-- **What is kept are the records at these places.** -/
theorem filter_eq_map_places (items : List α) :
    query.filter serve items = (query.places serve items).map items.get := by
  rw [filter_eq]
  conv_lhs => rw [← List.map_get_finRange items, List.filter_map]
  rfl

/-! ## Searches that stop -/

theorem any_iff_filter_ne_nil (items : List α) :
    query.any serve items = true ↔ query.filter serve items ≠ [] := by
  rw [any, filter_eq, List.any_eq_true, Ne, List.filter_eq_nil_iff]
  simp only [not_forall, exists_prop, not_not]

/-- **The first place is the one that is found**, since no record matches before it. -/
theorem position?_eq_head?_places (items : List α) :
    query.position? serve items = (query.places serve items).head?.map Fin.val := by
  have hordered := query.pairwise_places serve items
  rw [position?]
  cases hplaces : query.places serve items with
  | nil =>
    refine List.findIdx?_eq_none_iff.2 fun item hitem => ?_
    obtain ⟨i, hi, rfl⟩ := List.mem_iff_getElem.1 hitem
    refine Bool.eq_false_iff.2 fun hholds => ?_
    have hmem : (⟨i, hi⟩ : Fin items.length) ∈ query.places serve items :=
      mem_places_iff.2 hholds
    rw [hplaces] at hmem
    exact List.not_mem_nil hmem
  | cons first rest =>
    have hfirst : query.holds serve items[first] = true := by
      refine mem_places_iff.1 ?_
      rw [hplaces]
      exact List.mem_cons_self
    refine List.findIdx?_eq_some_iff_getElem.2 ⟨first.isLt, hfirst, fun j hj hholds => ?_⟩
    -- A record that matches before the first place would stand at one of the places behind it.
    have hmem : (⟨j, hj.trans first.isLt⟩ : Fin items.length) ∈ query.places serve items :=
      mem_places_iff.2 hholds
    rw [hplaces] at hmem hordered
    rcases List.mem_cons.1 hmem with hsame | hrest
    · exact Nat.ne_of_lt hj (congrArg Fin.val hsame)
    · exact Nat.lt_asymm hj ((List.pairwise_cons.1 hordered).1 _ hrest)

/-! ## All searches -/

/-- What each search finds in a list, if the records that match stand at `places`. -/
structure FoundAt (copy : α → α) (items : List α) (places : List (Fin items.length)) : Prop where
  ascending : places.Pairwise (· < ·)
  mem_iff : ∀ i, i ∈ places ↔ ∀ clause ∈ query.clauses, clause.holds (serve items[i]) = true
  holds_iff : ∀ i, query.holds serve items[i] = true ↔ i ∈ places
  predicate_eq : ∀ item, query.predicate serve item = query.holds serve item
  filter_eq : query.filter serve items = places.map items.get
  filterCopies_eq : query.filterCopies serve copy items = places.map fun i => copy items[i]
  count_eq : query.count serve items = (query.filter serve items).length
  any_iff : query.any serve items = true ↔ query.filter serve items ≠ []
  find?_eq : query.find? serve items = (query.filter serve items).head?
  position?_eq : query.position? serve items = places.head?.map Fin.val

/-- The searches go by the places of the records that match. -/
theorem foundAt_places (copy : α → α) (items : List α) :
    query.FoundAt serve copy items (query.places serve items) where
  ascending := query.pairwise_places serve items
  mem_iff i := mem_places_iff.trans holds_iff
  holds_iff i := mem_places_iff.symm
  predicate_eq item := rfl
  filter_eq := query.filter_eq_map_places serve items
  filterCopies_eq := by
    rw [filterCopies, filter_eq_map_places, List.map_map]
    rfl
  count_eq := by rw [count, Query.filter_eq, List.countP_eq_length_filter]
  any_iff := query.any_iff_filter_ne_nil serve items
  find?_eq := by rw [find?, Query.filter_eq, List.head?_filter]
  position?_eq := query.position?_eq_head?_places serve items

/-- **All ways to search a list agree**, whichever clauses the query has and whatever the records
serve.  They go by one ascending list of places, those where every clause holds, and a clause that
is added leaves some of them.  What is kept are the records at these places, also if they are not
looked at; their number is the count, the first of them is the one that is found, and it is found at
the first of the places. -/
theorem searches_agree (copy : α → α) (items : List α) :
    query.FoundAt serve copy items (query.places serve items) ∧
    ∀ clause, (query.and clause).FoundAt serve copy items
      ((query.places serve items).filter fun i => clause.holds (serve items[i])) := by
  refine ⟨query.foundAt_places serve copy items, fun clause => ?_⟩
  rw [← places_and]
  exact (query.and clause).foundAt_places serve copy items

/-- A label is not compared with others by size, so the first clause lets every record pass. -/
example :
    let query := (({} : Query).and (.labels [] .lt "a" none)).and (.numeric [] .ge (.unsigned 2))
    let serve := fun (n : UInt64) (_ : List String) => FieldValue.number (.unsigned n)
    query.filter serve [1, 2, 3] = [2, 3] ∧ query.find? serve [1, 2, 3] = some 2 ∧
      query.position? serve [1, 2, 3] = some 1 := by
  decide

end Query
end GameJam
