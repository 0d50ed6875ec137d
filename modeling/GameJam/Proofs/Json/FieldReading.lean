import GameJam.Proofs.Except
import GameJam.Proofs.Json.RecordReading

/-!
# Records by the names of their fields

A reader of records goes through the fields of an object in their order.  If no name comes twice,
what it makes of them can be said without the order: it has a result when the value of every known
field can be read, and each part of the result is what is read of the field that has its name.

Sorted fields come once each, and the value of a name is then the last one that was written under
it.

## What is here

* `lastField?` — the value of a name that counts; `lookup_sortFields` and `nodup_sortFields` for
  sorted fields.
* `tree_eq_ok_iff` — the ways in which a tree is read, and `treeFields_eq_ok_iff` for an object,
  field by field.
* `Reader.Slot.Sets` — the part of a record that a slot sets.
* `Reader.keyedFields_cons_eq_ok`, `Reader.orderedFields_cons_eq_ok` — a record is read step by
  step.
* `Reader.eq_of_keyedFields` — **what has been read of a part is the value of its name**.
* `Reader.exists_keyedFields` — a record is read when each of its fields is.
-/

set_option autoImplicit false

namespace GameJam
namespace Json

/-! ## Sorted fields -/

section Sorted

variable {α : Type}

theorem lookup_cons_eq_ite (name key : String) (value : α) (rest : List (String × α)) :
    ((key, value) :: rest).lookup name = if name = key then some value else rest.lookup name := by
  rw [List.lookup_cons]
  by_cases hname : name = key
  · simp [hname]
  · rw [if_neg hname, beq_eq_false_iff_ne.2 hname]

theorem lookup_insertField (key name : String) (value : α) (fields : List (String × α)) :
    (insertField key value fields).lookup name
      = if name = key then some value else fields.lookup name := by
  induction fields with
  | nil => rw [insertField, lookup_cons_eq_ite]
  | cons field rest ih =>
    obtain ⟨k, v⟩ := field
    rw [insertField]
    split_ifs with hlt heq hname hname hname <;>
      simp_all [lookup_cons_eq_ite]

/-- The keys of fields that are sorted and come once each. -/
abbrev KeysSorted (fields : List (String × α)) : Prop :=
  (fields.map Prod.fst).Pairwise (· < ·)

theorem mem_keys_insertField {key k : String} {value : α} {fields : List (String × α)}
    (h : k ∈ (insertField key value fields).map Prod.fst) :
    k = key ∨ k ∈ fields.map Prod.fst := by
  induction fields with
  | nil => exact Or.inl (by simpa [insertField] using h)
  | cons field rest ih =>
    obtain ⟨k', v⟩ := field
    rw [insertField] at h
    split_ifs at h with hlt heq
    · simpa using h
    · subst heq
      exact Or.inr (by simpa using h)
    · rcases List.mem_cons.1 h with rfl | h
      · exact Or.inr List.mem_cons_self
      · exact (ih h).imp_right (List.mem_cons_of_mem _)

theorem keysSorted_insertField (key : String) (value : α) {fields : List (String × α)}
    (h : KeysSorted fields) : KeysSorted (insertField key value fields) := by
  induction fields with
  | nil => exact List.pairwise_singleton ..
  | cons field rest ih =>
    obtain ⟨k, v⟩ := field
    obtain ⟨hk, hrest⟩ := List.pairwise_cons.1 h
    rw [insertField]
    split_ifs with hlt heq
    · refine List.pairwise_cons.2 ⟨fun k' hk' => ?_, h⟩
      rcases List.mem_cons.1 hk' with rfl | hk'
      · exact hlt
      · exact String.lt_trans hlt (hk k' hk')
    · subst heq
      exact h
    · refine List.pairwise_cons.2 ⟨fun k' hk' => ?_, ih hrest⟩
      rcases mem_keys_insertField hk' with rfl | hk'
      · exact Std.lt_of_le_of_ne (String.not_lt.1 hlt) (Ne.symm heq)
      · exact hk k' hk'

/-- The last value among the fields whose keys are such. -/
def lastField? {κ : Type} (is : κ → Bool) : List (κ × α) → Option α
  | [] => none
  | (key, value) :: rest => (lastField? is rest).or (if is key then some value else none)

theorem lookup_sortFields (name : String) (fields : List (String × α)) :
    (sortFields fields).lookup name = lastField? (name == ·) fields := by
  have hfold : ∀ sorted : List (String × α),
      (fields.foldl (fun sorted field => insertField field.1 field.2 sorted) sorted).lookup name
        = (lastField? (name == ·) fields).or (sorted.lookup name) := by
    induction fields with
    | nil => exact fun sorted => rfl
    | cons field rest ih =>
      obtain ⟨key, value⟩ := field
      intro sorted
      rw [List.foldl_cons, ih, lookup_insertField, lastField?]
      by_cases hname : name = key <;> cases lastField? (name == ·) rest <;> simp [hname]
  rw [sortFields, hfold, List.lookup_nil, Option.or_none]

theorem keysSorted_sortFields (fields : List (String × α)) : KeysSorted (sortFields fields) := by
  have hfold : ∀ sorted : List (String × α), KeysSorted sorted → KeysSorted
      (fields.foldl (fun sorted field => insertField field.1 field.2 sorted) sorted) := by
    induction fields with
    | nil => exact fun sorted h => h
    | cons field rest ih => exact fun sorted h => ih _ (keysSorted_insertField _ _ h)
  exact hfold [] List.Pairwise.nil

theorem nodup_sortFields (fields : List (String × α)) :
    ((sortFields fields).map Prod.fst).Nodup :=
  (keysSorted_sortFields fields).imp String.ne_of_lt

theorem lookup_eq_some_of_mem {fields : List (String × α)} (h : (fields.map Prod.fst).Nodup)
    {name : String} {value : α} (hmem : (name, value) ∈ fields) :
    fields.lookup name = some value := by
  obtain ⟨before, after, rfl⟩ := List.append_of_mem hmem
  refine List.lookup_eq_some_iff.2 ⟨before, after, rfl, fun field hfield => ?_⟩
  rw [List.map_append, List.nodup_append] at h
  have hne := h.2.2 field.1 (List.mem_map_of_mem hfield) name (by simp)
  simpa using Ne.symm hne

end Sorted

/-! ## The last value of a name -/

section LastField

variable {α β κ κ' : Type} {is : κ → Bool}

theorem lastField?_append (fields more : List (κ × α)) :
    lastField? is (fields ++ more) = (lastField? is more).or (lastField? is fields) := by
  induction fields with
  | nil => rw [List.nil_append, lastField?, Option.or_none]
  | cons field fields ih =>
    rw [List.cons_append, lastField?, lastField?, ih, Option.or_assoc]

/-- Fields with other keys do not matter. -/
theorem lastField?_filter (keep : κ → Bool) (h : ∀ key, is key = true → keep key = true)
    (fields : List (κ × α)) :
    lastField? is (fields.filter fun field => keep field.1) = lastField? is fields := by
  induction fields with
  | nil => rfl
  | cons field fields ih =>
    obtain ⟨key, value⟩ := field
    rw [List.filter_cons]
    by_cases hkeep : keep key = true
    · rw [if_pos hkeep, lastField?, lastField?, ih]
    · have his : ¬is key = true := fun his => hkeep (h key his)
      rw [if_neg hkeep, ih, lastField?, if_neg his, Option.or_none]

theorem lastField?_eq_none_iff {fields : List (κ × α)} :
    lastField? is fields = none ↔ ∀ field ∈ fields, is field.1 = false := by
  induction fields with
  | nil => simp [lastField?]
  | cons field fields ih =>
    rw [lastField?, Option.or_eq_none_iff, ih, List.forall_mem_cons, and_comm]
    cases is field.1 <;> simp

theorem lastField?_eq_none {fields : List (κ × α)}
    (h : ∀ field ∈ fields, is field.1 = false) : lastField? is fields = none :=
  lastField?_eq_none_iff.2 h

theorem exists_mem_of_lastField? {fields : List (κ × α)} {value : α}
    (h : lastField? is fields = some value) : ∃ field ∈ fields, is field.1 = true ∧
      field.2 = value := by
  induction fields with
  | nil => cases h
  | cons field fields ih =>
    obtain ⟨key, v⟩ := field
    rw [lastField?, Option.or_eq_some_iff] at h
    rcases h with h | ⟨-, h⟩
    · obtain ⟨field, hmem, his, hvalue⟩ := ih h
      exact ⟨field, List.mem_cons_of_mem _ hmem, his, hvalue⟩
    · by_cases hkey : is key = true
      · rw [if_pos hkey] at h
        exact ⟨(key, v), List.mem_cons_self, hkey, Option.some.inj h⟩
      · rw [if_neg hkey] at h
        cases h

/-- Fields that go together one by one have last values that go together. -/
theorem rel_lastField? {is' : κ' → Bool} {R : α → β → Prop} {fields : List (κ × α)}
    {fields' : List (κ' × β)}
    (h : List.Forall₂ (fun field field' => is field.1 = is' field'.1 ∧ R field.2 field'.2)
      fields fields') :
    Option.Rel R (lastField? is fields) (lastField? is' fields') := by
  induction h with
  | nil => exact .none
  | @cons field field' rest rest' hfield _ ih =>
    rw [lastField?, lastField?, hfield.1]
    generalize lastField? is rest = last, lastField? is' rest' = last' at ih
    cases ih with
    | some hlast => exact .some hlast
    | none =>
      split_ifs
      · exact .some hfield.2
      · exact .none

theorem lastField?_eq_none_iff_not_mem {key : String} {fields : List (String × α)} :
    lastField? (key == ·) fields = none ↔ key ∉ fields.map Prod.fst := by
  rw [lastField?_eq_none_iff, List.mem_map, not_exists]
  simp only [beq_eq_false_iff_ne, not_and]
  exact forall₂_congr fun _ _ => ne_comm

/-- Sorting the fields leaves the keys that there are. -/
theorem mem_keys_sortFields_iff {key : String} {fields : List (String × α)} :
    key ∈ (sortFields fields).map Prod.fst ↔ key ∈ fields.map Prod.fst := by
  rw [← not_iff_not, ← @lastField?_eq_none_iff_not_mem _ key fields, ← lookup_sortFields,
    List.lookup_eq_none_iff, List.mem_map, not_exists]
  simp only [bne_iff_ne, not_and]
  exact forall₂_congr fun _ _ => ne_comm

end LastField

/-! ## Trees of drafts -/

section Trees

variable {depth : Nat}

theorem Leaf.get_eq_ok_iff {α : Type} {leaf : Leaf α} {a : α} :
    leaf.get = .ok a ↔ leaf.kept = .ok a := by
  rw [Leaf.get]
  cases leaf.kept <;> simp [Except.mapError]

/-- The tree of an object is made field by field. -/
theorem treeFields_eq_ok_iff {fields : List (Leaf String × Draft)} {made : List (String × Json)} :
    Reader.treeFields depth fields = .ok made ↔ List.Forall₂ (fun field made =>
      field.1.kept = .ok made.1 ∧ Reader.tree depth field.2 = .ok made.2) fields made := by
  induction fields generalizing made with
  | nil => cases made <;> simp [Reader.treeFields]
  | cons field fields ih =>
    obtain ⟨key, value⟩ := field
    rw [Reader.treeFields, bind_eq_ok_iff, List.forall₂_cons_left_iff]
    simp only [bind_eq_ok_iff, ih, Leaf.get_eq_ok_iff, pure, Except.pure, Except.ok.injEq]
    constructor
    · rintro ⟨name, hname, j, hj, rest, hrest, rfl⟩
      exact ⟨(name, j), rest, ⟨hname, hj⟩, hrest, rfl⟩
    · rintro ⟨⟨name, j⟩, rest, ⟨hname, hj⟩, hrest, rfl⟩
      exact ⟨name, hname, j, hj, rest, hrest, rfl⟩

theorem treeItems_eq_mapM (items : List Draft) :
    Reader.treeItems depth items = items.mapM (Reader.tree depth) := by
  induction items with
  | nil => rfl
  | cons item items ih => rw [Reader.treeItems, ih, List.mapM_cons]

/-- The ways in which a draft is the draft of a tree. -/
inductive IsTree : Nat → Draft → Json → Prop
  | null {depth : Nat} : IsTree depth .null .null
  | bool {depth : Nat} {b : Bool} : IsTree depth (.bool b) (.bool b)
  | number {depth : Nat} {leaf : Leaf Number} {n : Number} :
    leaf.kept = .ok n → IsTree depth (.number leaf) (.number n)
  | string {depth : Nat} {leaf : Leaf String} {s : String} :
    leaf.kept = .ok s → IsTree depth (.string leaf) (.string s)
  | array {depth : Nat} {items : List Draft} {values : List Json} :
    items.mapM (Reader.tree depth) = .ok values →
      IsTree (depth + 1) (.array items none) (.array values)
  | object {depth : Nat} {fields : List (Leaf String × Draft)} {made : List (String × Json)} :
    Reader.treeFields depth fields = .ok made →
      IsTree (depth + 1) (.object fields none) (.object made)

theorem faultOf_eq_ok_iff {ending : Option Fault} : faultOf ending = .ok () ↔ ending = none := by
  cases ending <;> simp [faultOf]

/-- **A tree is read in one of these ways.** -/
theorem tree_eq_ok_iff {d : Draft} {j : Json} :
    Reader.tree depth d = .ok j ↔ IsTree depth d j := by
  constructor
  · intro h
    cases d with
    | broken fault => simp [Reader.tree] at h
    | null =>
      obtain rfl : Json.null = j := by simpa [Reader.tree] using h
      exact .null
    | bool b =>
      obtain rfl : Json.bool b = j := by simpa [Reader.tree] using h
      exact .bool
    | number leaf =>
      rw [Reader.tree, map_eq_ok_iff] at h
      obtain ⟨n, hn, rfl⟩ := h
      exact .number (Leaf.get_eq_ok_iff.1 hn)
    | string leaf =>
      rw [Reader.tree, map_eq_ok_iff] at h
      obtain ⟨s, hs, rfl⟩ := h
      exact .string (Leaf.get_eq_ok_iff.1 hs)
    | array items ending =>
      obtain _ | depth := depth
      · simp [Reader.tree] at h
      · rw [Reader.tree, bind_eq_ok_iff] at h
        obtain ⟨values, hvalues, h⟩ := h
        obtain ⟨_, hending, hj⟩ := bind_eq_ok_iff.1 h
        obtain rfl := faultOf_eq_ok_iff.1 hending
        obtain rfl := Except.ok.inj hj
        exact .array (treeItems_eq_mapM items ▸ hvalues)
    | object fields ending =>
      obtain _ | depth := depth
      · simp [Reader.tree] at h
      · rw [Reader.tree, bind_eq_ok_iff] at h
        obtain ⟨made, hmade, h⟩ := h
        obtain ⟨_, hending, hj⟩ := bind_eq_ok_iff.1 h
        obtain rfl := faultOf_eq_ok_iff.1 hending
        obtain rfl := Except.ok.inj hj
        exact .object hmade
  · intro h
    cases h with
    | null => rw [Reader.tree]
    | bool => rw [Reader.tree]
    | number hn => rw [Reader.tree, Leaf.get_eq_ok_iff.2 hn, Except.map]
    | string hs => rw [Reader.tree, Leaf.get_eq_ok_iff.2 hs, Except.map]
    | array hvalues =>
      rw [Reader.tree, treeItems_eq_mapM, hvalues]
      rfl
    | object hmade =>
      rw [Reader.tree, hmade]
      rfl

/-- A text is read from a text, however deep it stands. -/
theorem tree_eq_ok_string_iff {d : Draft} {s : String} :
    Reader.tree depth d = .ok (.string s) ↔ ∃ leaf, d = .string leaf ∧ leaf.kept = .ok s := by
  rw [tree_eq_ok_iff]
  constructor
  · rintro ⟨⟩
    exact ⟨_, rfl, ‹_›⟩
  · rintro ⟨leaf, rfl, hleaf⟩
    exact .string hleaf

/-- So is a list of texts, in any place where a list may stand. -/
theorem tree_eq_ok_ofStrings {d : Draft} {texts : List String}
    (h : Reader.tree (depth + 1) d = .ok (ofStrings texts)) (other : Nat) :
    Reader.tree (other + 1) d = .ok (ofStrings texts) := by
  cases tree_eq_ok_iff.1 h with
  | array hvalues =>
    rw [mapM_eq_ok_iff, List.forall₂_map_right_iff] at hvalues
    refine tree_eq_ok_iff.2 (.array ?_)
    rw [mapM_eq_ok_iff, List.forall₂_map_right_iff]
    exact hvalues.imp fun _ _ hitem => tree_eq_ok_string_iff.2 (tree_eq_ok_string_iff.1 hitem)

end Trees

/-! ## Records -/

theorem skip_toDraft (j : Json) : j.toDraft.skip = .ok () := by
  cases j <;> rfl

namespace Reader

variable {σ β : Type} {slots : List (Slot σ)} {depth : Nat}

/-- Of the slots, one has the name, and it sets this part of the record to what is read; the others
leave the part alone. -/
structure Slot.Sets (slots : List (Slot σ)) (name : String) (read : Reader β) (get : σ → β) :
    Prop where
  own : ∃ set, slots.find? (fun slot => slot.name == name) = some (.of name read set) ∧
    ∀ s b, get (set s b) = b
  other : ∀ slot ∈ slots, slot.name ≠ name →
    ∀ s depth d s', slot.put s depth d = .ok s' → get s' = get s

/-- One field, as a step. -/
theorem keyedFields_cons_eq_ok {key : Leaf String} {d : Draft} {rest : List (Leaf String × Draft)}
    {seen : List String} {s s' : σ}
    (h : keyedFields slots depth ((key, d) :: rest) seen s = .ok s') :
    ∃ name, key.kept = .ok name ∧
      ((slots.find? (fun slot => slot.name == name) = none ∧
        keyedFields slots depth rest seen s = .ok s') ∨
      ∃ slot s₁, slots.find? (fun slot => slot.name == name) = some slot ∧ name ∉ seen ∧
        slot.put s depth d = .ok s₁ ∧
        keyedFields slots depth rest (name :: seen) s₁ = .ok s') := by
  rw [keyedFields, bind_eq_ok_iff] at h
  obtain ⟨name, hname, h⟩ := h
  refine ⟨name, Leaf.get_eq_ok_iff.1 hname, ?_⟩
  cases hslot : slots.find? fun slot => slot.name == name with
  | none =>
    simp only [hslot, bind_eq_ok_iff] at h
    obtain ⟨_, -, h⟩ := h
    exact Or.inl ⟨rfl, h⟩
  | some slot =>
    simp only [hslot] at h
    split_ifs at h with hseen
    obtain ⟨s₁, hput, h⟩ := bind_eq_ok_iff.1 h
    exact Or.inr ⟨slot, s₁, rfl, by simpa using hseen, hput, h⟩

/-- One field of a tree, as a step. -/
theorem keyedFields_fieldDrafts_cons_eq_ok {name : String} {j : Json} {rest : List (String × Json)}
    {seen : List String} {s s' : σ}
    (h : keyedFields slots depth (fieldDrafts ((name, j) :: rest)) seen s = .ok s') :
    (slots.find? (fun slot => slot.name == name) = none ∧
      keyedFields slots depth (fieldDrafts rest) seen s = .ok s') ∨
    ∃ slot s₁, slots.find? (fun slot => slot.name == name) = some slot ∧ name ∉ seen ∧
      slot.put s depth j.toDraft = .ok s₁ ∧
      keyedFields slots depth (fieldDrafts rest) (name :: seen) s₁ = .ok s' := by
  obtain ⟨key, hkey, h⟩ := keyedFields_cons_eq_ok h
  obtain rfl := Except.ok.inj hkey
  exact h

/-- One item, as a step: it goes to the first of the slots. -/
theorem orderedFields_cons_eq_ok {item : Draft} {items : List Draft} {s s' : σ}
    (h : orderedFields depth slots (item :: items) s = .ok s') :
    ∃ slot others s₁, slots = slot :: others ∧ slot.put s depth item = .ok s₁ ∧
      orderedFields depth others items s₁ = .ok s' := by
  cases slots with
  | nil => cases h
  | cons slot others =>
    obtain ⟨s₁, hput, h⟩ := bind_eq_ok_iff.1 h
    exact ⟨slot, others, s₁, rfl, hput, h⟩

section Forms

variable {α : Type} {recordName : String} {start : σ}
  {finish : (String → ReadError) → σ → Except ReadError α} {a : α}

/-- A record that is read from an object. -/
theorem record_object_eq_ok {fields : List (Leaf String × Draft)} {ending : Option Fault}
    (h : record recordName slots start finish (depth + 1) (.object fields ending) = .ok a) :
    ∃ s, keyedFields slots depth fields [] start = .ok s ∧ finish .missingField s = .ok a := by
  simp only [record, bind_eq_ok_iff] at h
  obtain ⟨s, hs, -, -, h⟩ := h
  exact ⟨s, hs, h⟩

/-- A record that is read from an array.  What a missing field is called depends on its length. -/
theorem record_array_eq_ok {items : List Draft} {ending : Option Fault}
    (h : record recordName slots start finish (depth + 1) (.array items ending) = .ok a) :
    ∃ missing s, orderedFields depth slots items start = .ok s ∧ finish missing s = .ok a := by
  simp only [record, bind_eq_ok_iff] at h
  obtain ⟨s, hs, h⟩ := h
  split_ifs at h
  · obtain ⟨-, -, h⟩ := bind_eq_ok_iff.1 h
    exact ⟨_, s, hs, h⟩
  · simp only [bind_eq_ok_iff, pure, Except.pure, Except.ok.injEq] at h
    obtain ⟨_, h, -, -, rfl⟩ := h
    exact ⟨_, s, hs, h⟩

end Forms

/-- A part whose name has come is set for good. -/
theorem eq_of_keyedFields_of_mem {name : String} {read : Reader β} {get : σ → β}
    (hsets : Slot.Sets slots name read get) {fields : List (Leaf String × Draft)} :
    ∀ {seen : List String} {s s' : σ}, name ∈ seen →
      keyedFields slots depth fields seen s = .ok s' → get s' = get s := by
  induction fields with
  | nil =>
    intro seen s s' _ h
    rw [← Except.ok.inj h]
  | cons field rest ih =>
    intro seen s s' hseen h
    obtain ⟨key, -, ⟨-, h⟩ | ⟨slot, s₁, hslot, hnew, hput, h⟩⟩ := keyedFields_cons_eq_ok h
    · exact ih hseen h
    · have hother : slot.name ≠ name := by
        have hname : slot.name = key := by simpa using List.find?_some hslot
        rw [hname]
        rintro rfl
        exact hnew hseen
      rw [ih (List.mem_cons_of_mem _ hseen) h,
        hsets.other slot (List.mem_of_find?_eq_some hslot) hother s depth _ s₁ hput]

/-- **What has been read of a part is the value of its name**, and it stays as it was if there is no
such field. -/
theorem eq_of_keyedFields {name : String} {read : Reader β} {get : σ → β}
    (hsets : Slot.Sets slots name read get) {fields : List (String × Json)} :
    ∀ {seen : List String} {s s' : σ},
      keyedFields slots depth (fieldDrafts fields) seen s = .ok s' →
        (fields.lookup name).elim (.ok (get s)) (fun j => read depth j.toDraft) = .ok (get s') := by
  induction fields with
  | nil =>
    intro seen s s' h
    rw [← Except.ok.inj h]
    rfl
  | cons field rest ih =>
    obtain ⟨key, j⟩ := field
    intro seen s s' h
    rcases keyedFields_fieldDrafts_cons_eq_ok h with
      ⟨hnone, h⟩ | ⟨slot, s₁, hslot, hnew, hput, h⟩
    · have hother : (name == key) = false := by
        rw [beq_eq_false_iff_ne]
        rintro rfl
        obtain ⟨set, hown, -⟩ := hsets.own
        rw [hnone] at hown
        cases hown
      rw [List.lookup_cons, hother]
      exact ih h
    · by_cases hname : name = key
      · subst hname
        obtain ⟨set, hown, hget⟩ := hsets.own
        obtain rfl := Option.some.inj (hslot.symm.trans hown)
        obtain ⟨b, hread, rfl⟩ := map_eq_ok_iff.1 hput
        have hrest := eq_of_keyedFields_of_mem hsets List.mem_cons_self h
        rw [List.lookup_cons, beq_self_eq_true, hrest, hget]
        exact hread
      · have hslotname : slot.name = key := by simpa using List.find?_some hslot
        have hkeep := hsets.other slot (List.mem_of_find?_eq_some hslot)
          (by rw [hslotname]; exact Ne.symm hname) s depth _ s₁ hput
        rw [List.lookup_cons, beq_eq_false_iff_ne.2 hname, ← hkeep]
        exact ih h

/-- **A record is read when each of its fields is**, and no name comes twice. -/
theorem exists_keyedFields {fields : List (String × Json)} (hnodup : (fields.map Prod.fst).Nodup)
    (hput : ∀ field ∈ fields, ∀ slot, slots.find? (fun slot => slot.name == field.1) = some slot →
      ∀ s, ∃ s', slot.put s depth field.2.toDraft = .ok s') :
    ∀ {seen : List String} (s : σ), (∀ name ∈ fields.map Prod.fst, name ∉ seen) →
      ∃ s', keyedFields slots depth (fieldDrafts fields) seen s = .ok s' := by
  induction fields with
  | nil => exact fun s _ => ⟨s, rfl⟩
  | cons field rest ih =>
    obtain ⟨name, j⟩ := field
    intro seen s hseen
    rw [List.map_cons, List.nodup_cons] at hnodup
    rw [List.map_cons, List.forall_mem_cons] at hseen
    obtain ⟨hfirst, hrest⟩ := List.forall_mem_cons.1 hput
    have hname : (Leaf.get ⟨.ok name, none⟩ : Except ReadError String) = .ok name := rfl
    cases hslot : slots.find? fun slot => slot.name == name with
    | none =>
      obtain ⟨s', hs'⟩ := ih hnodup.2 hrest s hseen.2
      refine ⟨s', ?_⟩
      rw [fieldDrafts, keyedFields, hname]
      simpa only [bind, Except.bind, hslot, skip_toDraft, Except.mapError] using hs'
    | some slot =>
      obtain ⟨s₁, hs₁⟩ := hfirst slot hslot s
      have hbehind : ∀ key ∈ rest.map Prod.fst, key ∉ name :: seen := by
        intro key hkey
        rw [List.mem_cons, not_or]
        exact ⟨fun heq => hnodup.1 (heq ▸ hkey), hseen.2 key hkey⟩
      obtain ⟨s', hs'⟩ := ih hnodup.2 hrest s₁ hbehind
      refine ⟨s', ?_⟩
      rw [fieldDrafts, keyedFields_cons hslot (by simpa using hseen.1) hs₁, hs']

end Reader
end Json
end GameJam
