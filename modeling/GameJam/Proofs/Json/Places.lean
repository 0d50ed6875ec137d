import GameJam.Proofs.Json.FieldReading
import GameJam.Proofs.Json.Spelling

/-!
# Values in their places

A text in which one value is left open: an item of a list, or a field of a record, in either of the
two forms that a record may have.  What a reader makes of the whole text depends on what the value's
own reader makes of the value, and on nothing else of it; and of what has been read, the part of
that field is the value, whatever stands before and after it.

## What is here

* `Spelling.Means` — the value that a text stands for.
* `ItemPlace`, `FieldPlace` — the places, and `fill` for a text in which one is filled.
* `Reader.list_fill_congr`, `Reader.record_fill_congr` — **values that are read alike can stand for
  each other**.
* `Reader.getElem?_of_list_fill`, `Reader.get_of_record_fill` — what has been read of the value.
-/

set_option autoImplicit false

namespace GameJam
namespace Json

open Reader (Slot)

/-! ## Values -/

/-- The text is JSON of this value. -/
def Spelling.Means (s : Spelling) (j : Json) : Prop :=
  parse (String.ofList s.text) = .ok j

theorem Spelling.means_iff {s : Spelling} {j : Json} :
    s.Means j ↔ Reader.sortedTree depthLimit s.draft = .ok j := by
  rw [Means, parse, read, String.toList_ofList, ofText_text]
  cases Reader.sortedTree depthLimit s.draft <;> exact Iff.rfl

theorem Spelling.exists_tree_of_means {s : Spelling} {j : Json} (h : s.Means j) :
    ∃ tree, Reader.tree depthLimit s.draft = .ok tree ∧ tree.sorted = j :=
  map_eq_ok_iff.1 (means_iff.1 h)

/-! ## Places -/

/-- A text of an array without one of its items. -/
structure ItemPlace where
  left : Gap
  gap : Gap
  before : List Spelling
  after : List Spelling
  right : Gap

/-- The array with the item. -/
def ItemPlace.fill (place : ItemPlace) (value : Spelling) : Spelling :=
  .spaced place.left (.array place.gap (place.before ++ value :: place.after)) place.right

/-- A text of a record without the value of a field: an object in which the value stands behind the
field's name, or an array with as many items before the value as there are fields before the
field. -/
inductive FieldPlace {σ : Type} (slots : List (Slot σ)) (name : String) where
  | keyed (left gap : Gap) (before : List (KeySpelling × Spelling)) (key : KeySpelling)
      (named : (piecesLeaf key.pieces).kept = .ok name) (after : List (KeySpelling × Spelling))
      (right : Gap)
  | ordered (left gap : Gap) (before : List Spelling)
      (counted : before.length = slots.findIdx fun slot => slot.name == name)
      (after : List Spelling) (right : Gap)

/-- The record with the value. -/
def FieldPlace.fill {σ : Type} {slots : List (Slot σ)} {name : String} (value : Spelling) :
    FieldPlace slots name → Spelling
  | keyed left gap before key _ after right =>
    .spaced left (.object gap (before ++ (key, value) :: after)) right
  | ordered left gap before _ after right =>
    .spaced left (.array gap (before ++ value :: after)) right

theorem ItemPlace.draft_fill (place : ItemPlace) (value : Spelling) :
    (place.fill value).draft = .array (place.before.map Spelling.draft ++
      value.draft :: place.after.map Spelling.draft) none := by
  rw [fill, Spelling.draft, Spelling.draft, Spelling.drafts_eq_map, List.map_append, List.map_cons]

/-- The record with the value, as a draft: an object that has the value under the name, or an array
that has it in the place of the slot. -/
theorem FieldPlace.draft_fill {σ : Type} {slots : List (Slot σ)} {name : String}
    (place : FieldPlace slots name) :
    (∃ before after key, key.kept = .ok name ∧ ∀ value,
      (place.fill value).draft = .object (before ++ (key, value.draft) :: after) none) ∨
    ∃ before after, slots[before.length]? = slots.find? (fun slot => slot.name == name) ∧
      ∀ value, (place.fill value).draft = .array (before ++ value.draft :: after) none := by
  cases place with
  | keyed left gap before key named after right =>
    refine Or.inl ⟨Spelling.fieldDrafts before, Spelling.fieldDrafts after, _, named, ?_⟩
    intro value
    simp only [fill, Spelling.draft, Spelling.fieldDrafts_eq_map, List.map_append, List.map_cons]
  | ordered left gap before counted after right =>
    refine Or.inr ⟨before.map Spelling.draft, after.map Spelling.draft, ?_, fun value => ?_⟩
    · rw [List.length_map, counted, List.find?_eq_getElem?_findIdx]
    · rw [fill, Spelling.draft, Spelling.draft, Spelling.drafts_eq_map, List.map_append,
        List.map_cons]

namespace Reader

variable {α β σ : Type} {slots : List (Slot σ)} {slot : Slot σ} {name : String} {depth : Nat}

/-! ## Values that are read alike -/

theorem list_fill_congr {read : Reader α} (place : ItemPlace) {value value' : Spelling}
    (h : read depth value.draft = read depth value'.draft) :
    list read (depth + 1) (place.fill value).draft
      = list read (depth + 1) (place.fill value').draft := by
  rw [place.draft_fill, place.draft_fill, list, list]
  simp only [List.mapM_append, List.mapM_cons, h]

theorem keyedFields_congr {key : Leaf String} {d d' : Draft} (hkey : key.kept = .ok name)
    (hslot : slots.find? (fun slot => slot.name == name) = some slot)
    (hput : ∀ s, slot.put s depth d = slot.put s depth d')
    (before after : List (Leaf String × Draft)) (seen : List String) (s : σ) :
    keyedFields slots depth (before ++ (key, d) :: after) seen s
      = keyedFields slots depth (before ++ (key, d') :: after) seen s := by
  induction before generalizing seen s with
  | nil =>
    simp only [List.nil_append, keyedFields, Leaf.get_eq_ok_iff.2 hkey, bind, Except.bind, hslot,
      hput]
  | cons field before ih =>
    simp only [List.cons_append, keyedFields, ih]

theorem orderedFields_congr {d d' : Draft} (before after : List Draft)
    (hslot : slots[before.length]? = some slot)
    (hput : ∀ s, slot.put s depth d = slot.put s depth d') (s : σ) :
    orderedFields depth slots (before ++ d :: after) s
      = orderedFields depth slots (before ++ d' :: after) s := by
  induction before generalizing slots s with
  | nil =>
    cases slots with
    | nil => cases hslot
    | cons first slots =>
      obtain rfl := Option.some.inj hslot
      simp only [List.nil_append, orderedFields, hput]
  | cons item before ih =>
    cases slots with
    | nil => cases hslot
    | cons first slots =>
      have hrest : slots[before.length]? = some slot := by simpa using hslot
      simp only [List.cons_append, orderedFields, ih hrest]

/-- **A record whose fields are read alike is read alike**, errors included. -/
theorem record_fill_congr {recordName : String} {start : σ}
    {finish : (String → ReadError) → σ → Except ReadError α}
    (hslot : slots.find? (fun slot => slot.name == name) = some slot)
    (place : FieldPlace slots name) {value value' : Spelling}
    (hput : ∀ s, slot.put s depth value.draft = slot.put s depth value'.draft) :
    record recordName slots start finish (depth + 1) (place.fill value).draft
      = record recordName slots start finish (depth + 1) (place.fill value').draft := by
  rcases place.draft_fill with ⟨before, after, key, hkey, hdraft⟩ | ⟨before, after, hat, hdraft⟩
  · rw [hdraft, hdraft, record, record, keyedFields_congr hkey hslot hput]
  · rw [hdraft, hdraft, record, record, orderedFields_congr before after (hat.trans hslot) hput]
    simp only [List.length_append, List.length_cons]

/-! ## What has been read of a value -/

theorem getElem?_of_list_fill {read : Reader α} {place : ItemPlace} {value : Spelling}
    {made : List α} (h : list read (depth + 1) (place.fill value).draft = .ok made) :
    ∃ a, made[place.before.length]? = some a ∧ read depth value.draft = .ok a := by
  rw [place.draft_fill] at h
  simp only [list, bind_eq_ok_iff, pure, Except.pure, Except.ok.injEq, mapM_eq_ok_iff] at h
  obtain ⟨values, hmade, -, -, rfl⟩ := h
  obtain ⟨hlength, hitems⟩ := List.forall₂_iff_get.1 hmade
  have hlt : place.before.length < values.length := by rw [← hlength]; simp
  have hitem := hitems place.before.length (by simp) hlt
  exact ⟨_, List.getElem?_eq_getElem hlt, by simpa using hitem⟩

/-- The slots behind that of a name leave its part alone. -/
theorem get_eq_of_orderedFields {get : σ → β}
    (hslots : ∀ slot ∈ slots, ∀ s depth d s', slot.put s depth d = .ok s' → get s' = get s)
    {items : List Draft} {s s' : σ} (h : orderedFields depth slots items s = .ok s') :
    get s' = get s := by
  induction items generalizing slots s with
  | nil => cases slots <;> rw [← Except.ok.inj h]
  | cons item items ih =>
    obtain ⟨slot, others, next, rfl, hnext, h⟩ := orderedFields_cons_eq_ok h
    obtain ⟨hslot, hothers⟩ := List.forall_mem_cons.1 hslots
    rw [ih hothers h, hslot s depth item next hnext]

theorem get_of_keyedFields {read : Reader β} {get : σ → β} (hsets : Slot.Sets slots name read get)
    {key : Leaf String} (hkey : key.kept = .ok name) {d : Draft}
    {before after : List (Leaf String × Draft)} {seen : List String} {s s' : σ}
    (h : keyedFields slots depth (before ++ (key, d) :: after) seen s = .ok s') :
    read depth d = .ok (get s') := by
  induction before generalizing seen s with
  | nil =>
    obtain ⟨set, hown, hget⟩ := hsets.own
    obtain ⟨found, hfound, h⟩ := keyedFields_cons_eq_ok h
    obtain rfl := Except.ok.inj (hkey.symm.trans hfound)
    rcases h with ⟨hnone, -⟩ | ⟨slot, s₁, hslot, -, hput, h⟩
    · rw [hown] at hnone
      cases hnone
    · obtain rfl := Option.some.inj (hslot.symm.trans hown)
      obtain ⟨b, hread, rfl⟩ := map_eq_ok_iff.1 hput
      rw [eq_of_keyedFields_of_mem hsets List.mem_cons_self h, hget]
      exact hread
  | cons field before ih =>
    obtain ⟨_, -, ⟨-, h⟩ | ⟨_, _, -, -, -, h⟩⟩ := keyedFields_cons_eq_ok h
    · exact ih h
    · exact ih h

theorem get_of_orderedFields {read : Reader β} {get : σ → β} {set : σ → β → σ}
    (hget : ∀ s b, get (set s b) = b) {d : Draft} {before after : List Draft}
    (hslot : slots[before.length]? = some (.of name read set))
    (hothers : ∀ slot ∈ slots.drop (before.length + 1), ∀ s depth d s',
      slot.put s depth d = .ok s' → get s' = get s) {s s' : σ}
    (h : orderedFields depth slots (before ++ d :: after) s = .ok s') :
    read depth d = .ok (get s') := by
  induction before generalizing slots s with
  | nil =>
    obtain ⟨slot, others, next, rfl, hnext, h⟩ := orderedFields_cons_eq_ok h
    obtain rfl := Option.some.inj hslot
    obtain ⟨b, hread, rfl⟩ := map_eq_ok_iff.1 hnext
    rw [get_eq_of_orderedFields hothers h, hget]
    exact hread
  | cons item before ih =>
    obtain ⟨slot, others, next, rfl, -, h⟩ := orderedFields_cons_eq_ok h
    exact ih (by simpa using hslot) (by simpa using hothers) h

/-- Names that come once each do not come behind their own place. -/
theorem name_ne_of_mem_drop (hnodup : (slots.map Slot.name).Nodup) {i : Nat}
    (hslot : slots[i]? = some slot) {other : Slot σ} (hother : other ∈ slots.drop (i + 1)) :
    other.name ≠ slot.name := by
  obtain ⟨hi, rfl⟩ := List.getElem?_eq_some_iff.1 hslot
  have hdrop : ((slots.drop i).map Slot.name).Nodup :=
    ((List.drop_sublist i slots).map Slot.name).nodup hnodup
  rw [List.drop_eq_getElem_cons hi, List.map_cons, List.nodup_cons] at hdrop
  exact fun heq => hdrop.1 (heq ▸ List.mem_map_of_mem hother)

/-- **What has been read of a field is its value**, wherever it stands in the record. -/
theorem get_of_record_fill {recordName : String} {start : σ}
    {finish : (String → ReadError) → σ → Except ReadError α} {read : Reader β} {get : σ → β}
    (hsets : Slot.Sets slots name read get) (hnodup : (slots.map Slot.name).Nodup)
    {place : FieldPlace slots name} {value : Spelling} {a : α}
    (h : record recordName slots start finish (depth + 1) (place.fill value).draft = .ok a) :
    ∃ missing s, finish missing s = .ok a ∧ read depth value.draft = .ok (get s) := by
  rcases place.draft_fill with ⟨before, after, key, hkey, hdraft⟩ | ⟨before, after, hat, hdraft⟩
  · rw [hdraft] at h
    obtain ⟨s, hs, h⟩ := record_object_eq_ok h
    exact ⟨_, s, h, get_of_keyedFields hsets hkey hs⟩
  · rw [hdraft] at h
    obtain ⟨missing, s, hs, h⟩ := record_array_eq_ok h
    obtain ⟨set, hown, hget⟩ := hsets.own
    have hslot := hat.trans hown
    exact ⟨missing, s, h, get_of_orderedFields hget hslot (fun other hother => hsets.other other
      (List.mem_of_mem_drop hother) (name_ne_of_mem_drop hnodup hslot hother)) hs⟩

end Reader
end Json
end GameJam
