import GameJam.Proofs.Filter.TokenRows
import GameJam.Proofs.Json.DraftReading

/-!
# The older form of a row

Older links give the path of a row as three flat names, newer ones as a list.  Both are read by one
record, and the three names count where there is no list.  So a row means the same when the names
are moved into a list, whatever they are: texts, nulls, or values that make the row unreadable in
both forms.

The first half of this file says that a row which is an object is read from the last value of each
of its names.

## What is here

* `Entry.Form.ReadFrom` and `row?_object` — **a row is read from the values of its names**.
* `Modernized` — an object whose flat names have been moved into a list.
* `LongestPrefix` — a path up to the first `null`.
* `older_form_reads_as_path` — **old rows are read as the new ones they stand for**.
-/

set_option autoImplicit false

namespace GameJam

open Json (Reader ArrayText lastField?)

/-! ## Rows by the values of their names -/

namespace Entry

open Json (Draft)
open Json.Reader (Slot)

namespace Form

/-- Every slot sets the part of its name. -/
theorem sets_slots :
    Slot.Sets slots "path" (Reader.optional (Reader.list (Reader.optional Reader.text))) path ∧
    Slot.Sets slots "propertyName" (Reader.optional Reader.text) propertyName ∧
    Slot.Sets slots "propertyName2" (Reader.optional Reader.text) propertyName2 ∧
    Slot.Sets slots "propertyName3" (Reader.optional Reader.text) propertyName3 ∧
    Slot.Sets slots "operator" (Reader.optional Reader.text) operator ∧
    Slot.Sets slots "value" (Reader.optional Reader.sortedTree) value := by
  refine ⟨⟨⟨_, rfl, fun _ _ => rfl⟩, ?_⟩, ⟨⟨_, rfl, fun _ _ => rfl⟩, ?_⟩,
    ⟨⟨_, rfl, fun _ _ => rfl⟩, ?_⟩, ⟨⟨_, rfl, fun _ _ => rfl⟩, ?_⟩,
    ⟨⟨_, rfl, fun _ _ => rfl⟩, ?_⟩, ⟨⟨_, rfl, fun _ _ => rfl⟩, ?_⟩⟩
  all_goals
    simp only [slots, List.forall_mem_cons, List.not_mem_nil, false_implies, implies_true,
      and_true]
    refine ⟨?_, ?_, ?_, ?_, ?_, ?_⟩
    all_goals
      intro hname s depth d s' hput
      first
      | exact absurd rfl hname
      | obtain ⟨b, -, rfl⟩ := map_eq_ok_iff.1 hput
        rfl

/-- The form is what is read of the values of the names. -/
structure ReadFrom (form : Form) (value : String → Draft) : Prop where
  path : (Reader.optional (Reader.list (Reader.optional Reader.text))).ReadsDraft 125
    (value "path") form.path
  propertyName : (value "propertyName").text? = some form.propertyName
  propertyName2 : (value "propertyName2").text? = some form.propertyName2
  propertyName3 : (value "propertyName3").text? = some form.propertyName3
  operator : (value "operator").text? = some form.operator
  value : (Reader.optional Reader.sortedTree).ReadsDraft 125 (value "value") form.value

section Record

variable {fields : Json.Fields} {made : List (String × Json)}

/-- What has been read of a part is read of the value of its name. -/
theorem readsDraft_of_keyedFields {α : Type} {name : String} {read : Reader α}
    {get : Form → Option α} (hmade : Reader.treeFields 125 fields = .ok made)
    (hsets : Slot.Sets slots name (Reader.optional read) get) (hstart : get {} = none) {form : Form}
    (h : Reader.keyedFields slots 125
      (Json.fieldDrafts (Json.sortFields (Json.sortedFields made))) [] {} = .ok form) :
    (Reader.optional read).ReadsDraft 125 (Draft.valueOf fields name) (get form) := by
  have hpart := Reader.eq_of_keyedFields hsets h
  rw [hstart] at hpart
  rw [Json.readsDraft_valueOf hmade, ← hpart]
  cases (Json.sortFields (Json.sortedFields made)).lookup name <;> rfl

/-- A field is put into its slot when the value of its name is read. -/
theorem exists_put {α : Type} {name : String} {read : Reader α} {set : Form → α → Form} {a : α}
    {j : Json} (hmade : Reader.treeFields 125 fields = .ok made)
    (hmem : (name, j) ∈ Json.sortFields (Json.sortedFields made))
    (hread : read.ReadsDraft 125 (Draft.valueOf fields name) a) (form : Form) :
    ∃ form', (Slot.of name read set).put form 125 j.toDraft = .ok form' := by
  have hlookup := Json.lookup_eq_some_of_mem (Json.nodup_sortFields _) hmem
  rw [Json.readsDraft_valueOf hmade, hlookup, Option.getD_some] at hread
  exact ⟨set form a, congrArg (Except.map (set form)) hread⟩

theorem readFrom_of_keyedFields (hmade : Reader.treeFields 125 fields = .ok made) {form : Form}
    (h : Reader.keyedFields slots 125
      (Json.fieldDrafts (Json.sortFields (Json.sortedFields made))) [] {} = .ok form) :
    form.ReadFrom (Draft.valueOf fields) := by
  obtain ⟨hpath, hname, hname2, hname3, hoperator, hvalue⟩ := sets_slots
  have htext : ∀ {name get}, Slot.Sets slots name (Reader.optional Reader.text) get →
      get {} = none → (Draft.valueOf fields name).text? = some (get form) := fun hsets hstart =>
    Reader.readsDraft_optional_text.1 (readsDraft_of_keyedFields hmade hsets hstart h)
  exact ⟨readsDraft_of_keyedFields hmade hpath rfl h, htext hname rfl, htext hname2 rfl,
    htext hname3 rfl, htext hoperator rfl, readsDraft_of_keyedFields hmade hvalue rfl h⟩

theorem keyedFields_of_readFrom (hmade : Reader.treeFields 125 fields = .ok made) {form : Form}
    (h : form.ReadFrom (Draft.valueOf fields)) :
    Reader.keyedFields slots 125
      (Json.fieldDrafts (Json.sortFields (Json.sortedFields made))) [] {} = .ok form := by
  have htext : ∀ {name s}, (Draft.valueOf fields name).text? = some s →
      (Reader.optional Reader.text).ReadsDraft 125 (Draft.valueOf fields name) s :=
    fun hs => Reader.readsDraft_optional_text.2 hs
  have hput : ∀ field ∈ Json.sortFields (Json.sortedFields made), ∀ slot,
      slots.find? (fun slot => slot.name == field.1) = some slot →
        ∀ form, ∃ form', slot.put form 125 field.2.toDraft = .ok form' := by
    rintro ⟨name, j⟩ hmem slot hslot
    obtain rfl : slot.name = name := by simpa using List.find?_some hslot
    have hslots := List.mem_of_find?_eq_some hslot
    simp only [slots, List.mem_cons, List.not_mem_nil, or_false] at hslots
    rcases hslots with rfl | rfl | rfl | rfl | rfl | rfl
    · exact exists_put hmade hmem h.path
    · exact exists_put hmade hmem (htext h.propertyName)
    · exact exists_put hmade hmem (htext h.propertyName2)
    · exact exists_put hmade hmem (htext h.propertyName3)
    · exact exists_put hmade hmem (htext h.operator)
    · exact exists_put hmade hmem h.value
  obtain ⟨form', hform'⟩ := Reader.exists_keyedFields (Json.nodup_sortFields _) hput {}
    (fun name _ => List.not_mem_nil)
  -- What has been read and what should be read come from the same values.
  have h' := readFrom_of_keyedFields hmade hform'
  have hpath := (Json.readsDraft_valueOf hmade "path" _).1 h.path
  have hpath' := (Json.readsDraft_valueOf hmade "path" _).1 h'.path
  have hvalue := (Json.readsDraft_valueOf hmade "value" _).1 h.value
  have hvalue' := (Json.readsDraft_valueOf hmade "value" _).1 h'.value
  have heq : form' = form := by
    obtain ⟨path, name, name2, name3, operator, value⟩ := form
    obtain ⟨path', name', name2', name3', operator', value'⟩ := form'
    obtain rfl := Except.ok.inj (hpath'.symm.trans hpath)
    obtain rfl := Except.ok.inj (hvalue'.symm.trans hvalue)
    obtain rfl := Option.some.inj (h'.propertyName.symm.trans h.propertyName)
    obtain rfl := Option.some.inj (h'.propertyName2.symm.trans h.propertyName2)
    obtain rfl := Option.some.inj (h'.propertyName3.symm.trans h.propertyName3)
    obtain rfl := Option.some.inj (h'.operator.symm.trans h.operator)
    rfl
  rw [← heq]
  exact hform'

end Record

end Form
end Entry

namespace Token

open Json (Draft)

/-- **A row is read from the values of its names**, if all of its fields can be read. -/
theorem row?_object {fields : Json.Fields} {entry : Entry} :
    row? (.object fields none) = some entry ↔
      (∀ field ∈ fields, (∃ name, field.1.kept = .ok name) ∧ field.2.Readable 125) ∧
        ∃ form : Entry.Form, form.ReadFrom (Draft.valueOf fields) ∧ form.entry = entry := by
  have hread : ∀ sorted : List (String × Json),
      Entry.reader 126 (Json.object sorted).toDraft
        = (Reader.keyedFields Entry.Form.slots 125 (Json.fieldDrafts sorted) [] {}).map
            Entry.Form.entry := by
    intro sorted
    rw [Json.toDraft, Entry.reader, Reader.record]
    cases Reader.keyedFields Entry.Form.slots 125 (Json.fieldDrafts sorted) [] {} <;> rfl
  have htree : Reader.sortedTree 126 (.object fields none)
      = (Reader.treeFields 125 fields).map fun made =>
          .object (Json.sortFields (Json.sortedFields made)) := by
    rw [Reader.sortedTree, Reader.tree]
    cases Reader.treeFields 125 fields with
    | error e => rfl
    | ok made =>
      change Except.ok (Json.sorted (.object made)) = _
      rw [Json.sorted]
      rfl
  rw [row?, htree, Option.bind_eq_some_iff]
  simp only [toOption_eq_some_iff, map_eq_ok_iff]
  constructor
  · rintro ⟨j, ⟨made, hmade, rfl⟩, hentry⟩
    rw [hread, map_eq_ok_iff] at hentry
    obtain ⟨form, hform, hentry⟩ := hentry
    exact ⟨Json.exists_treeFields_iff.1 ⟨made, hmade⟩, form,
      Entry.Form.readFrom_of_keyedFields hmade hform, hentry⟩
  · rintro ⟨hreadable, form, hform, hentry⟩
    obtain ⟨made, hmade⟩ := Json.exists_treeFields_iff.2 hreadable
    refine ⟨_, ⟨made, hmade, rfl⟩, ?_⟩
    rw [hread, map_eq_ok_iff]
    exact ⟨form, Entry.Form.keyedFields_of_readFrom hmade hform, hentry⟩

/-! ## Old names and new paths -/

/-- The names of the older form. -/
def flatNames : List String :=
  ["propertyName", "propertyName2", "propertyName3"]

/-- The values of the flat names, in their order. -/
def flatSegments (fields : Json.Fields) : List Draft :=
  flatNames.map (Draft.valueOf fields)

/-- An object without a path, and the object in which the values of the flat names are the path.
Where a name comes twice its last value counts, and the others need only be values that can be
read. -/
structure Modernized (fields fields' : Json.Fields) : Prop where
  unset : Draft.valueOf fields "path" = .null
  readable : ∀ name ∈ "path" :: flatNames, ∀ field ∈ fields, field.1.isNamed name = true →
    field.2 = Draft.valueOf fields name ∨ field.2.Readable 125
  moved : ∃ before after key,
    fields' = before ++ (key, .array (flatSegments fields) none) :: after ∧
      key.isNamed "path" = true ∧ before ++ after = Draft.without ("path" :: flatNames) fields

/-- Two objects with the same path, which is not `null`, and with the same other fields, except for
flat names that are texts or `null`. -/
structure SamePath (fields fields' : Json.Fields) : Prop where
  set : Draft.valueOf fields "path" ≠ .null
  wellTyped : ∀ name ∈ flatNames, ∀ field ∈ fields ++ fields', field.1.isNamed name = true →
    field.2.text?.isSome = true
  others : Draft.without flatNames fields' = Draft.without flatNames fields

/-- The segments of the path that an object gives in either form. -/
def Segments (fields : Json.Fields) (segments : List Draft) : Prop :=
  Draft.valueOf fields "path" = .array segments none ∨
    Draft.valueOf fields "path" = .null ∧ segments = flatSegments fields

/-- The path is made of the texts before the first `null`. -/
def LongestPrefix (segments : List Draft) (path : List String) : Prop :=
  (segments.take path.length).map Draft.text? = path.map (fun s => some (some s)) ∧
    (segments[path.length]? = none ∨ segments[path.length]? = some .null)

/-! ### The names moved into a list -/

namespace Modernized

variable {fields fields' : Json.Fields}

/-- The path is the list, the flat names are gone, and every other value is as it was. -/
theorem valueOf_eq (h : Modernized fields fields') :
    Draft.valueOf fields' "path" = .array (flatSegments fields) none ∧
      (∀ name ∈ flatNames, Draft.valueOf fields' name = .null) ∧
      ∀ name ∉ "path" :: flatNames, Draft.valueOf fields' name = Draft.valueOf fields name := by
  obtain ⟨before, after, key, rfl, hkey, hothers⟩ := h.moved
  have hmiddle : ∀ is : Json.Leaf String → Bool,
      lastField? is (before ++ (key, .array (flatSegments fields) none) :: after)
        = (lastField? is after).or
          ((if is key then some (.array (flatSegments fields) none) else none).or
            (lastField? is before)) := by
    intro is
    rw [Json.lastField?_append, lastField?, Option.or_assoc]
  have hbefore : ∀ field ∈ before, field ∈ Draft.without ("path" :: flatNames) fields :=
    fun field hfield => hothers ▸ List.mem_append_left after hfield
  have hafter : ∀ field ∈ after, field ∈ Draft.without ("path" :: flatNames) fields :=
    fun field hfield => hothers ▸ List.mem_append_right before hfield
  have hnot : ∀ {name}, name ≠ "path" → key.isNamed name = false := fun hname =>
    Bool.eq_false_iff.2 fun hnamed => hname (Json.Leaf.isNamed_inj hnamed hkey)
  refine ⟨?_, fun name hname => ?_, fun name hname => ?_⟩
  · rw [Draft.valueOf, hmiddle, Draft.lastField?_eq_none_of_without hafter List.mem_cons_self,
      if_pos hkey]
    rfl
  · have hpath : name ≠ "path" := by
      rintro rfl
      exact absurd hname (by decide)
    have hmem : name ∈ "path" :: flatNames := List.mem_cons_of_mem _ hname
    rw [Draft.valueOf, hmiddle, Draft.lastField?_eq_none_of_without hafter hmem, hnot hpath,
      Draft.lastField?_eq_none_of_without hbefore hmem]
    rfl
  · have hpath : name ≠ "path" := fun heq => hname (heq ▸ List.mem_cons_self)
    have hsplit : lastField? (Json.Leaf.isNamed name) (before ++ after) = _ :=
      Json.lastField?_append before after
    have hlast : lastField? (Json.Leaf.isNamed name)
          (before ++ (key, .array (flatSegments fields) none) :: after)
        = lastField? (Json.Leaf.isNamed name) (Draft.without ("path" :: flatNames) fields) := by
      rw [hmiddle, hnot hpath, ← hothers, hsplit]
      simp
    rw [Draft.valueOf, hlast, ← Draft.valueOf, Draft.valueOf_without hname]

/-- What is read where the names are flat is read from the list as well. -/
theorem row?_of_flat (h : Modernized fields fields') {entry : Entry}
    (hentry : row? (.object fields none) = some entry) :
    row? (.object fields' none) = some entry := by
  obtain ⟨hpath, hflat, hothers⟩ := h.valueOf_eq
  obtain ⟨hreadable, form, hform, rfl⟩ := row?_object.1 hentry
  have hnone : form.path = none := by
    have hread := hform.path
    rwa [h.unset, Reader.readsDraft_optional_null] at hread
  have hlist : (Reader.optional (Reader.list (Reader.optional Reader.text))).ReadsDraft 125
      (.array (flatSegments fields) none)
      (some [form.propertyName, form.propertyName2, form.propertyName3]) :=
    Reader.readsDraft_path.2 ⟨_, .cons hform.propertyName
      (.cons hform.propertyName2 (.cons hform.propertyName3 .nil)), rfl⟩
  refine row?_object.2 ⟨fun field hfield => ?_,
    { form with
      path := some [form.propertyName, form.propertyName2, form.propertyName3]
      propertyName := none
      propertyName2 := none
      propertyName3 := none }, ⟨?_, ?_, ?_, ?_, ?_, ?_⟩, ?_⟩
  · obtain ⟨before, after, key, rfl, hkey, hmoved⟩ := h.moved
    have hmem : field ∈ before ++ after ∨ field = (key, .array (flatSegments fields) none) := by
      simp only [List.mem_append, List.mem_cons] at hfield ⊢
      tauto
    rcases hmem with hmem | rfl
    · rw [hmoved, Draft.mem_without_iff] at hmem
      exact hreadable field hmem.1
    · obtain ⟨j, hj, -⟩ := hlist
      exact ⟨⟨"path", Json.Leaf.isNamed_iff.1 hkey⟩, j, hj⟩
  · rw [hpath]
    exact hlist
  · rw [hflat "propertyName" (by decide)]
    rfl
  · rw [hflat "propertyName2" (by decide)]
    rfl
  · rw [hflat "propertyName3" (by decide)]
    rfl
  · rw [hothers "operator" (by decide)]
    exact hform.operator
  · rw [hothers "value" (by decide)]
    exact hform.value
  · simp only [Entry.Form.entry, hnone, Option.getD_some, Option.getD_none]

/-- What is read from the list is read where the names are flat. -/
theorem row?_of_list (h : Modernized fields fields') {entry : Entry}
    (hentry : row? (.object fields' none) = some entry) :
    row? (.object fields none) = some entry := by
  obtain ⟨hpath, hflat, hothers⟩ := h.valueOf_eq
  obtain ⟨hreadable, form, hform, rfl⟩ := row?_object.1 hentry
  obtain ⟨texts, htexts, hlist⟩ : ∃ texts, List.Forall₂ (fun segment text =>
      segment.text? = some text) (flatSegments fields) texts ∧ form.path = some texts := by
    have hread := hform.path
    rwa [hpath, Reader.readsDraft_path] at hread
  simp only [flatSegments, flatNames, List.map_cons, List.map_nil, List.forall₂_cons_left_iff,
    List.forall₂_nil_left_iff] at htexts
  obtain ⟨name, -, hname, ⟨name2, -, hname2, ⟨name3, -, hname3, rfl, rfl⟩, rfl⟩, rfl⟩ := htexts
  have hnamed : ∀ name ∈ "path" :: flatNames, (Draft.valueOf fields name).Readable 125 := by
    simp only [flatNames, List.forall_mem_cons, List.not_mem_nil, false_implies, implies_true,
      and_true]
    refine ⟨?_, ?_, ?_, ?_⟩
    · rw [h.unset]
      exact Reader.readable_of_text? rfl
    · exact Reader.readable_of_text? (by rw [hname]; rfl)
    · exact Reader.readable_of_text? (by rw [hname2]; rfl)
    · exact Reader.readable_of_text? (by rw [hname3]; rfl)
  refine row?_object.2 ⟨Draft.readable_of_without ("path" :: flatNames) (fun field hfield => ?_)
      (fun name hmem field hfield hkey => ?_),
    { form with
      path := none
      propertyName := name
      propertyName2 := name2
      propertyName3 := name3 }, ⟨?_, hname, hname2, hname3, ?_, ?_⟩, ?_⟩
  · obtain ⟨before, after, key, rfl, -, hmoved⟩ := h.moved
    rw [← hmoved] at hfield
    refine hreadable field ?_
    simp only [List.mem_append, List.mem_cons] at hfield ⊢
    tauto
  · rcases h.readable name hmem field hfield hkey with heq | hvalue
    · rw [heq]
      exact hnamed name hmem
    · exact hvalue
  · rw [h.unset, Reader.readsDraft_optional_null]
  · rw [← hothers "operator" (by decide)]
    exact hform.operator
  · rw [← hothers "value" (by decide)]
    exact hform.value
  · simp only [Entry.Form.entry, hlist, Option.getD_some, Option.getD_none]

/-- **An old row is read as the new one**, or neither is a row. -/
theorem row?_eq (h : Modernized fields fields') :
    row? (.object fields' none) = row? (.object fields none) :=
  Option.ext fun _ => ⟨h.row?_of_list, h.row?_of_flat⟩

end Modernized

/-! ### Flat names beside a path -/

namespace SamePath

variable {fields fields' : Json.Fields}

theorem valueOf_eq (h : SamePath fields fields') {name : String} (hname : name ∉ flatNames) :
    Draft.valueOf fields' name = Draft.valueOf fields name := by
  rw [← Draft.valueOf_without hname, h.others, Draft.valueOf_without hname]

theorem symm (h : SamePath fields fields') : SamePath fields' fields where
  set := by
    rw [h.valueOf_eq (by decide)]
    exact h.set
  wellTyped := fun name hname field hfield =>
    h.wellTyped name hname field (List.mem_append.2 (List.mem_append.1 hfield).symm)
  others := h.others.symm

theorem exists_text? (h : SamePath fields fields') {name : String} (hname : name ∈ flatNames) :
    ∃ s, (Draft.valueOf fields' name).text? = some s := by
  rw [Draft.valueOf]
  cases hlast : lastField? (Json.Leaf.isNamed name) fields' with
  | none => exact ⟨none, rfl⟩
  | some d =>
    obtain ⟨field, hmem, hkey, rfl⟩ := Json.exists_mem_of_lastField? hlast
    exact Option.isSome_iff_exists.1
      (h.wellTyped name hname field (List.mem_append_right fields hmem) hkey)

theorem row?_of_row? (h : SamePath fields fields') {entry : Entry}
    (hentry : row? (.object fields none) = some entry) :
    row? (.object fields' none) = some entry := by
  obtain ⟨hreadable, form, hform, rfl⟩ := row?_object.1 hentry
  obtain ⟨path, hpath⟩ := Reader.exists_of_readsDraft_optional hform.path h.set
  obtain ⟨name, hname⟩ := h.exists_text? (by decide : "propertyName" ∈ flatNames)
  obtain ⟨name2, hname2⟩ := h.exists_text? (by decide : "propertyName2" ∈ flatNames)
  obtain ⟨name3, hname3⟩ := h.exists_text? (by decide : "propertyName3" ∈ flatNames)
  refine row?_object.2 ⟨Draft.readable_of_without flatNames (fun field hfield => ?_)
      (fun name hmem field hfield hkey => ?_),
    { form with
      propertyName := name
      propertyName2 := name2
      propertyName3 := name3 }, ⟨?_, hname, hname2, hname3, ?_, ?_⟩, ?_⟩
  · rw [h.others] at hfield
    exact hreadable field (Draft.mem_without_iff.1 hfield).1
  · exact Reader.readable_of_text?
      (h.wellTyped name hmem field (List.mem_append_right fields hfield) hkey)
  · rw [h.valueOf_eq (by decide)]
    exact hform.path
  · rw [h.valueOf_eq (by decide)]
    exact hform.operator
  · rw [h.valueOf_eq (by decide)]
    exact hform.value
  · simp only [Entry.Form.entry, hpath, Option.getD_some]

/-- **Flat names beside a path have no influence**, if they are texts or `null`. -/
theorem row?_eq (h : SamePath fields fields') :
    row? (.object fields' none) = row? (.object fields none) :=
  Option.ext fun _ => ⟨h.symm.row?_of_row?, h.row?_of_row?⟩

end SamePath

/-! ### The path up to the first null -/

theorem text?_eq_some_none_iff {d : Draft} : d.text? = some none ↔ d = .null := by
  cases d <;> simp [Draft.text?]

theorem longestPrefix_leading {segments : List Draft} {texts : List (Option String)}
    (h : List.Forall₂ (fun segment text => segment.text? = some text) segments texts) :
    LongestPrefix segments (Entry.Form.leading texts) := by
  induction h with
  | nil => exact ⟨rfl, Or.inl rfl⟩
  | @cons segment text segments texts hsegment _ ih =>
    cases text with
    | none =>
      obtain rfl := text?_eq_some_none_iff.1 hsegment
      exact ⟨rfl, Or.inr rfl⟩
    | some s =>
      obtain ⟨htake, hend⟩ := ih
      refine ⟨?_, hend⟩
      rw [Entry.Form.leading, List.length_cons, List.take_succ_cons, List.map_cons, List.map_cons,
        hsegment, htake]

/-- **The path of a row is the longest prefix without `null`**, in either form. -/
theorem longestPrefix_of_row? {fields : Json.Fields} {segments : List Draft} {entry : Entry}
    (hentry : row? (.object fields none) = some entry) (h : Segments fields segments) :
    LongestPrefix segments entry.path := by
  obtain ⟨-, form, hform, rfl⟩ := row?_object.1 hentry
  have hread := hform.path
  rcases h with hpath | ⟨hpath, rfl⟩
  · rw [hpath, Reader.readsDraft_path] at hread
    obtain ⟨texts, htexts, hlist⟩ := hread
    rw [Entry.Form.entry, hlist, Option.getD_some]
    exact longestPrefix_leading htexts
  · rw [hpath, Reader.readsDraft_optional_null] at hread
    rw [Entry.Form.entry, hread, Option.getD_none]
    exact longestPrefix_leading (.cons hform.propertyName
      (.cons hform.propertyName2 (.cons hform.propertyName3 .nil)))

/-! ### Whole tokens -/

/-- The items are the same, or objects that stand in a relation. -/
def SameOr (R : Json.Fields → Json.Fields → Prop) (item item' : Draft) : Prop :=
  item' = item ∨
    ∃ fields fields', item = .object fields none ∧ item' = .object fields' none ∧ R fields fields'

theorem read_eq_of_sameOr {R : Json.Fields → Json.Fields → Prop}
    (hrow : ∀ {fields fields'}, R fields fields' →
      row? (.object fields' none) = row? (.object fields none))
    {items items' : List Draft} {text text' : String} (htext : ArrayText items text)
    (htext' : ArrayText items' text') (h : List.Forall₂ (SameOr R) items items') :
    read (some text') = read (some text) := by
  have hrows : items'.mapM row? = items.mapM row? := by
    clear htext htext'
    induction h with
    | nil => rfl
    | @cons item item' items items' hitem _ ih =>
      have heq : row? item' = row? item := by
        rcases hitem with rfl | ⟨fields, fields', rfl, rfl, hfields⟩
        · rfl
        · exact hrow hfields
      rw [List.mapM_cons, List.mapM_cons, heq, ih]
  rw [read_arrayText htext', read_arrayText htext, hrows]

/-- **Old rows are read as the new ones they stand for.**  Moving the flat names of any rows without
a path into a list changes nothing, whatever their values are; the path of a row is in both forms
the longest prefix without `null`; and beside a path, flat names that are texts or `null` have no
influence. -/
theorem older_form_reads_as_path :
    (∀ items items' text text', ArrayText items text → ArrayText items' text' →
      List.Forall₂ (SameOr Modernized) items items' → read (some text') = read (some text)) ∧
    (∀ items text, ArrayText items text → read (some text) ≠ [] →
      List.Forall₂ (fun item entry => ∀ fields segments, item = .object fields none →
        Segments fields segments → LongestPrefix segments entry.path) items (read (some text))) ∧
    ∀ items items' text text', ArrayText items text → ArrayText items' text' →
      List.Forall₂ (SameOr SamePath) items items' → read (some text') = read (some text) := by
  refine ⟨fun items items' text text' htext htext' h =>
    read_eq_of_sameOr Modernized.row?_eq htext htext' h, fun items text htext hread => ?_,
    fun items items' text text' htext htext' h =>
      read_eq_of_sameOr SamePath.row?_eq htext htext' h⟩
  rw [read_arrayText htext] at hread ⊢
  cases hrows : items.mapM row? with
  | none => simp [hrows] at hread
  | some entries =>
    refine (mapM_eq_some_iff.1 hrows).imp ?_
    rintro item entry hentry fields segments rfl hsegments
    exact longestPrefix_of_row? hentry hsegments

/-- A row with two flat names, and the same row with a path. -/
theorem older_form_reads_as_path_ranks :
    read (some (Json.array [.object [
        ("path", .array [.string "ranks", .string "Overall", .null]),
        ("operator", .string "<=")]]).compactText)
      = read (some (Json.array [.object [
        ("propertyName", .string "ranks"), ("propertyName2", .string "Overall"),
        ("operator", .string "<=")]]).compactText) := by
  refine older_form_reads_as_path.1 _ _ _ _ (Json.arrayText_compactText (by decide))
    (Json.arrayText_compactText (by decide)) (.cons (.inr ⟨_, _, rfl, rfl, ?_, ?_, ?_⟩) .nil)
  · rfl
  · exact fun name _ field hfield hkey => Or.inl (Draft.eq_valueOf_of_nodup (by decide) hfield hkey)
  · exact ⟨[], [(⟨.ok "operator", none⟩, .string ⟨.ok "<=", none⟩)], ⟨.ok "path", none⟩, rfl, rfl,
      rfl⟩

end Token
end GameJam
