import GameJam.Proofs.Filter.Token
import GameJam.Proofs.Json.FieldReading
import GameJam.Proofs.Json.Grammar

/-!
# Tokens row by row

A token is read as a whole or not at all: its rows are those that each of its items would give on
its own, and one item that is no row leaves no filter.  The token may be spelled in any way, and its
items may be anything that JSON can spell, so what is said of a token is said of the drafts that its
items mean.

## What is here

* `row?` — the row that an item is, if it is one, and `read_arrayText`: **a token is read as the
  rows of its items**.
* `exists_arrayText_of_read_ne_nil` — only an array is a filter.
* `read_all_or_nothing` — **a token is read as the rows that its items give alone, or not at all**.
-/

set_option autoImplicit false

namespace GameJam
namespace Token

open Json (Reader ArrayText)

/-! ## Items -/

/-- The row that an item of a token is, if it is one; the array around it has been entered. -/
def row? (item : Json.Draft) : Option Entry :=
  (Reader.sortedTree 126 item).toOption.bind fun j => (Entry.reader 126 j.toDraft).toOption

/-- The items of an array are sorted one by one. -/
theorem sortedTree_array (depth : Nat) (items : List Json.Draft) :
    Reader.sortedTree (depth + 1) (.array items none)
      = (items.mapM (Reader.sortedTree depth)).map .array := by
  have hsorted : items.mapM (Reader.sortedTree depth)
      = (items.mapM (Reader.tree depth)).map (List.map Json.sorted) := by
    induction items with
    | nil => rfl
    | cons item items ih =>
      rw [List.mapM_cons, List.mapM_cons, ih, Reader.sortedTree]
      cases Reader.tree depth item <;> cases items.mapM (Reader.tree depth) <;> rfl
  rw [Reader.sortedTree, Reader.tree, Json.treeItems_eq_mapM, hsorted]
  cases items.mapM (Reader.tree depth) with
  | error e => rfl
  | ok values =>
    change Except.ok (Json.sorted (.array values)) = _
    rw [Json.sorted, Json.sortedItems_eq_map]
    rfl

/-- The rows of a parsed array. -/
theorem rows_array (values : List Json) :
    rows (.array values)
      = (values.mapM fun j => Entry.reader 126 j.toDraft).toOption.getD [] := by
  have hdecode : Json.decode (Reader.list Entry.reader) (.array values)
      = values.mapM fun j => Entry.reader 126 j.toDraft := by
    rw [Json.decode, Json.toDraft, Json.depthLimit, Reader.list, Json.itemDrafts_eq_map,
      List.mapM_map]
    cases hread : values.mapM (Entry.reader 126 ∘ Json.toDraft) <;> exact hread.symm
  rw [rows, hdecode]
  cases values.mapM fun j => Entry.reader 126 j.toDraft <;> rfl

/-- **A token is read as the rows of its items**, if all of them are rows. -/
theorem read_arrayText {items : List Json.Draft} {text : String} (h : ArrayText items text) :
    read (some text) = (items.mapM row?).getD [] := by
  obtain ⟨s, htext, hdraft⟩ := h
  obtain ⟨spelled, -, hmem⟩ := s.exists_of_draft_eq_array hdraft
  have hblank : (trim text.toList).isEmpty = false := by
    rw [List.isEmpty_eq_false_iff, htext]
    exact trim_ne_nil hmem (by decide)
  have hparse : Json.parse text = (items.mapM (Reader.sortedTree 126)).map .array := by
    rw [Json.parse, Json.read, htext, Json.ofText_text, Json.depthLimit, hdraft, sortedTree_array]
    cases items.mapM (Reader.sortedTree 126) <;> rfl
  have hrows := toOption_mapM_bind (Reader.sortedTree 126)
    (fun j => Entry.reader 126 j.toDraft) items
  change _ = items.mapM row? at hrows
  rw [← hrows]
  simp only [read, hblank, Bool.false_eq_true, if_false, hparse]
  cases items.mapM (Reader.sortedTree 126) with
  | error e => rfl
  | ok values => exact rows_array values

/-- An item on its own. -/
theorem read_arrayText_singleton {item : Json.Draft} {text : String} (h : ArrayText [item] text) :
    read (some text) = (row? item).toList := by
  rw [read_arrayText h, List.mapM_cons, List.mapM_nil]
  cases row? item <;> rfl

/-! ## Texts -/

/-- Only an array without a fault is sorted to an array. -/
theorem exists_of_sortedTree_eq_array {depth : Nat} {d : Json.Draft} {values : List Json}
    (h : Reader.sortedTree depth d = .ok (.array values)) : ∃ items, d = .array items none := by
  obtain ⟨j, hj, hsorted⟩ := map_eq_ok_iff.1 h
  cases Json.tree_eq_ok_iff.1 hj with
  | array _ => exact ⟨_, rfl⟩
  | _ => simp [Json.sorted] at hsorted

/-- **Only an array is a filter**: where there are rows, the text spells an array, and an array is
what it is parsed as. -/
theorem exists_arrayText_of_read_ne_nil {text : String} (h : read (some text) ≠ []) :
    (∃ items, ArrayText items text) ∧ ∃ values, Json.parse text = .ok (.array values) := by
  cases hparse : Json.parse text with
  | error e =>
    rw [read] at h
    simp [hparse] at h
  | ok j =>
    obtain ⟨values, rfl⟩ : ∃ values, j = .array values := by
      cases j with
      | array values => exact ⟨values, rfl⟩
      | _ => simp [read, hparse, rows] at h
    refine ⟨?_, values, rfl⟩
    obtain ⟨s, htext⟩ := Json.exists_spelling_of_parse hparse
    rw [Json.parse, Json.read, htext, Json.ofText_text] at hparse
    obtain ⟨j, hj, hend⟩ := bind_eq_ok_iff.1 hparse
    obtain rfl : j = .array values := by simpa using hend
    obtain ⟨items, hdraft⟩ := exists_of_sortedTree_eq_array hj
    exact ⟨items, s, htext, hdraft⟩

/-! ## All or nothing -/

/-- **A token is read as the rows that its items give alone, or not at all.**  An item alone gives
one row or none; what is no text of an array, or is parsed as none, is no filter; and no number that
is read is infinite or a NaN. -/
theorem read_all_or_nothing :
    (∀ items text, ArrayText items text →
      (∀ entries, List.Forall₂ (fun item entry => ∃ single, ArrayText [item] single ∧
          read (some single) = [entry]) items entries → read (some text) = entries) ∧
      ((∃ item ∈ items, ∃ single, ArrayText [item] single ∧ read (some single) = []) →
        read (some text) = []) ∧
      ∀ item ∈ items, (∃ single, ArrayText [item] single) ∧
        ∀ single, ArrayText [item] single →
          read (some single) = [] ∨ ∃ entry, read (some single) = [entry]) ∧
    (∀ text, (∀ items, ¬ArrayText items text) → read (some text) = []) ∧
    (∀ text, (∀ values, Json.parse text ≠ .ok (.array values)) → read (some text) = []) ∧
    read none = [] ∧
    ∀ token, ∀ entry ∈ read token, entry.IsFinite := by
  refine ⟨fun items text h => ⟨fun entries hentries => ?_, ?_, fun item hitem => ⟨?_, ?_⟩⟩,
    fun text h => ?_, fun text h => ?_, rfl, fun token entry => isFinite_of_mem_read⟩
  · have hrows : items.mapM row? = some entries := by
      refine mapM_eq_some_iff.2 (hentries.imp ?_)
      rintro item entry ⟨single, hsingle, hread⟩
      rw [read_arrayText_singleton hsingle] at hread
      simpa using hread
    rw [read_arrayText h, hrows, Option.getD_some]
  · rintro ⟨item, hitem, single, hsingle, hread⟩
    have hnone : row? item = none := by
      rw [read_arrayText_singleton hsingle] at hread
      simpa using hread
    rw [read_arrayText h, mapM_eq_none_of_mem hitem hnone, Option.getD_none]
  · exact h.exists_singleton hitem
  · intro single hsingle
    rw [read_arrayText_singleton hsingle]
    cases row? item with
    | none => exact Or.inl rfl
    | some entry => exact Or.inr ⟨entry, rfl⟩
  · by_contra hread
    obtain ⟨⟨items, hitems⟩, -⟩ := exists_arrayText_of_read_ne_nil hread
    exact h items hitems
  · by_contra hread
    obtain ⟨-, values, hvalues⟩ := exists_arrayText_of_read_ne_nil hread
    exact h values hvalues

end Token
end GameJam
