import GameJam.Proofs.Json.AllNumbers
import GameJam.Proofs.Json.FieldReading

/-!
# Reading what a text spells

A record can be read from a text in two steps: the text is made into a tree with sorted keys, and
the record is read from the tree.  Here this is said of the draft of the text, without the tree: the
record is read from the last value of each name, a text is read from a text, and a list from its
items.  A name that is missing counts as `null`.

## What is here

* `Draft.valueOf` — the value of a name; `Draft.without` — the fields that have other names.
* `Draft.text?` — a text or `null`.
* `Reader.ReadsDraft` — a value that is read of a draft through a tree; `readsDraft_optional_text`
  and `readsDraft_path` say what texts and lists of texts are.
* `readsDraft_valueOf` — **the value of a name is found again among the sorted fields**.
-/

set_option autoImplicit false

namespace GameJam
namespace Json

/-! ## Values of names -/

/-- The fields of an object, with their keys as they are spelled. -/
abbrev Fields := List (Leaf String × Draft)

/-- The key is this name. -/
def Leaf.isNamed (name : String) (key : Leaf String) : Bool :=
  key.kept.toOption == some name

theorem Leaf.isNamed_iff {name : String} {key : Leaf String} :
    key.isNamed name = true ↔ key.kept = .ok name := by
  rw [isNamed, beq_iff_eq, toOption_eq_some_iff]

theorem Leaf.isNamed_inj {key : Leaf String} {name name' : String}
    (h : key.isNamed name = true) (h' : key.isNamed name' = true) : name = name' :=
  Except.ok.inj ((isNamed_iff.1 h).symm.trans (isNamed_iff.1 h'))

namespace Draft

/-- The last value of a name, `null` where there is none. -/
def valueOf (fields : Fields) (name : String) : Draft :=
  (lastField? (Leaf.isNamed name) fields).getD .null

/-- Where every key comes once, each value is that of its name. -/
theorem eq_valueOf_of_nodup {fields : Fields} {name : String}
    (h : (fields.map fun field => field.1.kept.toOption).Nodup) {field : Leaf String × Draft}
    (hfield : field ∈ fields) (hkey : field.1.isNamed name = true) :
    field.2 = valueOf fields name := by
  obtain ⟨before, after, rfl⟩ := List.append_of_mem hfield
  rw [List.map_append, List.map_cons, List.nodup_append, List.nodup_cons] at h
  have hafter : lastField? (Leaf.isNamed name) after = none := by
    refine lastField?_eq_none fun other hother => Bool.eq_false_iff.2 fun hnamed => ?_
    refine h.2.1.1 (List.mem_map.2 ⟨other, hother, ?_⟩)
    rw [Leaf.isNamed_iff.1 hnamed, Leaf.isNamed_iff.1 hkey]
  rw [valueOf, lastField?_append, lastField?, hafter, if_pos hkey]
  rfl

/-- The fields that have none of the names. -/
def without (names : List String) (fields : Fields) : Fields :=
  fields.filter fun field => !names.any fun name => field.1.isNamed name

section Without

variable {names : List String} {name : String} {fields : Fields}

theorem mem_without_iff {field : Leaf String × Draft} :
    field ∈ without names fields ↔
      field ∈ fields ∧ ∀ name ∈ names, field.1.isNamed name = false := by
  simp [without]

theorem lastField?_without (hname : name ∉ names) :
    lastField? (Leaf.isNamed name) (without names fields)
      = lastField? (Leaf.isNamed name) fields := by
  refine lastField?_filter (fun key => !names.any fun name => key.isNamed name) ?_ fields
  intro key hkey
  rw [Bool.not_eq_true', List.any_eq_false]
  intro other hother hnamed
  exact hname (Leaf.isNamed_inj hnamed hkey ▸ hother)

theorem valueOf_without (hname : name ∉ names) :
    valueOf (without names fields) name = valueOf fields name := by
  rw [valueOf, valueOf, lastField?_without hname]

theorem lastField?_eq_none_of_without {more : Fields}
    (hmore : ∀ field ∈ more, field ∈ without names fields) (hname : name ∈ names) :
    lastField? (Leaf.isNamed name) more = none :=
  lastField?_eq_none fun field hfield => (mem_without_iff.1 (hmore field hfield)).2 name hname

end Without

/-- The draft is that of a tree. -/
def Readable (depth : Nat) (d : Draft) : Prop :=
  ∃ j, Reader.tree depth d = .ok j

/-- All fields can be read if those without the names can, and the values of the others. -/
theorem readable_of_without (names : List String) {fields : Fields} {depth : Nat}
    (hothers : ∀ field ∈ without names fields,
      (∃ name, field.1.kept = .ok name) ∧ field.2.Readable depth)
    (hnamed : ∀ name ∈ names, ∀ field ∈ fields, field.1.isNamed name = true →
      field.2.Readable depth) :
    ∀ field ∈ fields, (∃ name, field.1.kept = .ok name) ∧ field.2.Readable depth := by
  intro field hfield
  by_cases hname : ∃ name ∈ names, field.1.isNamed name = true
  · obtain ⟨name, hmem, hkey⟩ := hname
    exact ⟨⟨name, Leaf.isNamed_iff.1 hkey⟩, hnamed name hmem field hfield hkey⟩
  · refine hothers field (mem_without_iff.2 ⟨hfield, fun name hmem => ?_⟩)
    exact Bool.eq_false_iff.2 fun hkey => hname ⟨name, hmem, hkey⟩

/-- A text or `null`, if it is one of them. -/
def text? : Draft → Option (Option String)
  | .null => some none
  | .string leaf => leaf.kept.toOption.map some
  | _ => none

end Draft

/-! ## Values read through a tree -/

namespace Reader

variable {α : Type} {depth : Nat}

/-- The draft is made into a sorted tree, and the value is read from that. -/
def ReadsDraft (read : Reader α) (depth : Nat) (d : Draft) (a : α) : Prop :=
  ∃ j, tree depth d = .ok j ∧ read depth j.sorted.toDraft = .ok a

/-- A text that may be missing is read from a text or `null`. -/
theorem readsDraft_optional_text {d : Draft} {s : Option String} :
    (optional text).ReadsDraft depth d s ↔ d.text? = some s := by
  constructor
  · rintro ⟨j, hj, hread⟩
    cases tree_eq_ok_iff.1 hj with
    | null => simpa [Json.sorted, toDraft, optional, Draft.text?] using hread
    | @string _ leaf s' hs =>
      have hs' : some s' = s := by
        simpa [Json.sorted, toDraft, optional, text, Leaf.get, Except.mapError, Except.map]
          using hread
      rw [Draft.text?, hs, ← hs']
      rfl
    | bool | number | array | object =>
      simp [Json.sorted, toDraft, optional, text, map_eq_ok_iff, refuse_ne_ok] at hread
  · intro h
    cases d with
    | null =>
      obtain rfl : none = s := by simpa [Draft.text?] using h
      exact ⟨.null, tree_eq_ok_iff.2 .null, rfl⟩
    | string leaf =>
      rw [Draft.text?, Option.map_eq_some_iff] at h
      obtain ⟨s', hs', rfl⟩ := h
      exact ⟨.string s', tree_eq_ok_iff.2 (.string (toOption_eq_some_iff.1 hs')), rfl⟩
    | _ => simp [Draft.text?] at h

theorem readable_of_text? {d : Draft} (h : d.text?.isSome = true) : d.Readable depth := by
  obtain ⟨s, hs⟩ := Option.isSome_iff_exists.1 h
  obtain ⟨j, hj, -⟩ : (optional text).ReadsDraft depth d s := readsDraft_optional_text.2 hs
  exact ⟨j, hj⟩

theorem readsDraft_optional_null {read : Reader α} {a : Option α} :
    (optional read).ReadsDraft depth .null a ↔ a = none := by
  constructor
  · rintro ⟨j, hj, hread⟩
    cases tree_eq_ok_iff.1 hj
    exact (Except.ok.inj hread).symm
  · rintro rfl
    exact ⟨.null, tree_eq_ok_iff.2 .null, rfl⟩

/-- What is there is not missing. -/
theorem exists_of_readsDraft_optional {read : Reader α} {d : Draft} {a : Option α}
    (h : (optional read).ReadsDraft depth d a) (hnull : d ≠ .null) : ∃ b, a = some b := by
  obtain ⟨j, hj, hread⟩ := h
  cases tree_eq_ok_iff.1 hj with
  | null => exact absurd rfl hnull
  | _ =>
    obtain ⟨b, -, rfl⟩ := map_eq_ok_iff.1 hread
    exact ⟨b, rfl⟩

/-- A list of texts is read item by item. -/
theorem readsDraft_path {segments : List Draft} {path : Option (List (Option String))} :
    (optional (list (optional text))).ReadsDraft (depth + 1) (.array segments none) path
      ↔ ∃ texts, List.Forall₂ (fun segment text => segment.text? = some text) segments texts ∧
        path = some texts := by
  have hlist : ∀ values : List Json,
      optional (list (optional text)) (depth + 1) (Json.array values).sorted.toDraft
        = (values.mapM fun j => optional text depth j.sorted.toDraft).map some := by
    intro values
    rw [Json.sorted, toDraft, sortedItems_eq_map, itemDrafts_eq_map, List.map_map, optional, list,
      List.mapM_map]
    · cases hread : values.mapM (optional text depth ∘ toDraft ∘ Json.sorted) <;>
        exact (congrArg (Except.map some) hread).symm
    · simp
  have hitems : ∀ texts, (∃ values, segments.mapM (tree depth) = .ok values ∧
      (values.mapM fun j => optional text depth j.sorted.toDraft) = .ok texts)
      ↔ List.Forall₂ (fun segment text => segment.text? = some text) segments texts := by
    intro texts
    have htext : ∀ (segment : Draft) (s : Option String),
        segment.text? = some s ↔ (optional text).ReadsDraft depth segment s :=
      fun _ _ => readsDraft_optional_text.symm
    simp only [exists_mapM_eq_ok_iff, htext, ReadsDraft]
  constructor
  · rintro ⟨j, hj, hread⟩
    cases tree_eq_ok_iff.1 hj with
    | array hvalues =>
      rw [hlist, map_eq_ok_iff] at hread
      obtain ⟨texts, htexts, rfl⟩ := hread
      exact ⟨texts, (hitems texts).1 ⟨_, hvalues, htexts⟩, rfl⟩
  · rintro ⟨texts, htexts, rfl⟩
    obtain ⟨values, hvalues, hread⟩ := (hitems texts).2 htexts
    refine ⟨.array values, tree_eq_ok_iff.2 (.array hvalues), ?_⟩
    rw [hlist, hread]
    rfl

end Reader

/-! ## From drafts to sorted fields -/

theorem lastField?_sortedFields (is : String → Bool) (fields : List (String × Json)) :
    lastField? is (sortedFields fields) = (lastField? is fields).map Json.sorted := by
  induction fields with
  | nil => rfl
  | cons field rest ih =>
    obtain ⟨key, value⟩ := field
    rw [sortedFields, lastField?, lastField?, ih]
    cases lastField? is rest <;> cases is key <;> rfl

/-- **The value of a name** is found again among the sorted fields of the tree. -/
theorem readsDraft_valueOf {α : Type} {read : Reader α} {depth : Nat} {fields : Fields}
    {made : List (String × Json)} (h : Reader.treeFields depth fields = .ok made) (name : String)
    (a : α) :
    read.ReadsDraft depth (Draft.valueOf fields name) a ↔
      read depth (((sortFields (sortedFields made)).lookup name).getD .null).toDraft = .ok a := by
  have hrel : Option.Rel (fun d j => Reader.tree depth d = .ok j)
      (lastField? (Leaf.isNamed name) fields) (lastField? (name == ·) made) := by
    refine rel_lastField? ((treeFields_eq_ok_iff.1 h).imp fun field made hfield => ⟨?_, hfield.2⟩)
    rw [Leaf.isNamed, hfield.1, Bool.beq_comm]
    simp [Except.toOption]
  obtain ⟨j, hj, hlookup⟩ : ∃ j, Reader.tree depth (Draft.valueOf fields name) = .ok j ∧
      ((sortFields (sortedFields made)).lookup name).getD .null = j.sorted := by
    rw [Draft.valueOf, lookup_sortFields, lastField?_sortedFields]
    generalize lastField? (Leaf.isNamed name) fields = d, lastField? (name == ·) made = j at hrel
    cases hrel with
    | none => exact ⟨.null, tree_eq_ok_iff.2 .null, rfl⟩
    | some hj => exact ⟨_, hj, rfl⟩
  rw [hlookup]
  constructor
  · rintro ⟨j', hj', hread⟩
    obtain rfl := Except.ok.inj (hj.symm.trans hj')
    exact hread
  · exact fun hread => ⟨j, hj, hread⟩

theorem exists_treeFields_iff {depth : Nat} {fields : Fields} :
    (∃ made, Reader.treeFields depth fields = .ok made) ↔
      ∀ field ∈ fields, (∃ name, field.1.kept = .ok name) ∧ field.2.Readable depth := by
  simp only [treeFields_eq_ok_iff]
  induction fields with
  | nil => simp
  | cons field fields ih =>
    rw [List.forall_mem_cons, ← ih]
    constructor
    · rintro ⟨made, hmade⟩
      obtain ⟨⟨name, j⟩, rest, ⟨hname, hj⟩, hrest, rfl⟩ := List.forall₂_cons_left_iff.1 hmade
      exact ⟨⟨⟨name, hname⟩, j, hj⟩, rest, hrest⟩
    · rintro ⟨⟨⟨name, hname⟩, j, hj⟩, rest, hrest⟩
      exact ⟨(name, j) :: rest, .cons ⟨hname, hj⟩ hrest⟩

end Json
end GameJam
