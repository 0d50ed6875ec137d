import GameJam.Filter.Token
import GameJam.Proofs.Json.AllNumbers
import GameJam.Proofs.Json.RecordReading
import GameJam.Proofs.Text.Parts

/-!
# Tokens are read back

The token of a list of rows is written from the rows as they are and read through several hands: a
JSON tree with its keys sorted, a record that knows older forms, and values of which any may be
missing.  A row comes back through all of them as it was, except that a number that is not finite
has no text, is written `null`, and comes back unset.

## What is here

* `Entry.settled` — a row as it comes back, and `Entry.IsFinite` for those that do not change.
* `Entry.reader_toJson` — one row through the record reader.
* `Token.token_round_trip` — **a token is read as the rows it was written from**.
* `Token.isFinite_of_mem_read` — **whatever a token is, its rows are finite**.
-/

set_option autoImplicit false

namespace GameJam

open Json (Reader)

/-! ## Rows -/

namespace Entry

/-- The row has no number that is infinite or a NaN. -/
def IsFinite (entry : Entry) : Prop :=
  ∀ x, entry.value = some (.number x) → x.isFinite = true

/-- The row with its value unset, if that is a number that is not finite. -/
def settled (entry : Entry) : Entry where
  path := entry.path
  operator := entry.operator
  value :=
    match entry.value with
    | some (.number x) => if x.isFinite then some (.number x) else none
    | value => value

theorem settled_of_isFinite {entry : Entry} (h : entry.IsFinite) : entry.settled = entry := by
  obtain ⟨path, operator, value⟩ := entry
  rcases value with _ | x | s | items
  · rfl
  · have hx : x.isFinite = true := h x rfl
    simp [settled, hx]
  · rfl
  · rfl

end Entry

/-! ## Their JSON -/

namespace Json

/-- A value, `null` counting as absent. -/
def present? : Json → Option Json
  | .null => none
  | j => some j

namespace Reader

/-- A text that may be missing. -/
theorem optional_text (s : Option String) (depth : Nat) :
    optional text depth ((s.map Json.string).getD .null).toDraft = .ok s := by
  cases s <;> rfl

/-- The segments of a path. -/
theorem optional_list_text (list : List String) (depth : Nat) :
    optional (Reader.list (optional text)) (depth + 1) (ofStrings list).toDraft
      = .ok (some (list.map some)) := by
  have hitems : (itemDrafts (list.map .string)).mapM (optional text depth)
      = .ok (list.map some) := by
    rw [itemDrafts_eq_map, List.map_map]
    exact mapM_map_eq_ok fun s _ => optional_text (some s) depth
  simp [ofStrings, toDraft, optional, Reader.list, hitems, bind, Except.bind, faultOf, pure,
    Except.pure, Except.map]

/-- Any value that may be missing. -/
theorem optional_sortedTree {j : Json} {depth : Nat} (h : j.depth ≤ depth) :
    optional sortedTree depth j.toDraft
      = .ok (j.present?.map Json.sorted) := by
  have htree : sortedTree depth j.toDraft = .ok j.sorted := by
    rw [sortedTree, tree_toDraft j h]
    rfl
  cases j with
  | null => rfl
  | _ => exact congrArg (Except.map some) htree

end Reader
end Json

/-! ## One row -/

namespace Entry

/-- The JSON that is read where the operator of a row was written. -/
theorem asRead_operator (operator : Option String) :
    ((operator.map Json.string).getD .null).asRead = (operator.map Json.string).getD .null := by
  cases operator <;> rfl

theorem sorted_operator (operator : Option String) :
    ((operator.map Json.string).getD .null).sorted = (operator.map Json.string).getD .null := by
  cases operator <;> rfl

/-- The JSON that is read where the value of a row was written. -/
def valueAsRead (entry : Entry) : Json :=
  ((entry.value.map EntryValue.toJson).getD .null).asRead

theorem depth_valueAsRead_le (entry : Entry) : entry.valueAsRead.depth ≤ 1 := by
  rw [valueAsRead, Json.depth_asRead]
  rcases entry.value with _ | x | s | items
  · exact Nat.zero_le 1
  · exact Nat.zero_le 1
  · exact Nat.zero_le 1
  · exact Json.depth_ofStrings_le items

theorem sorted_valueAsRead (entry : Entry) : entry.valueAsRead.sorted = entry.valueAsRead := by
  unfold valueAsRead
  rcases entry.value with _ | x | s | items
  · rfl
  · simp only [Option.map_some, Option.getD_some, EntryValue.toJson, Json.ofBinary64, Json.asRead,
      Json.Number.asRead]
    split <;> rfl
  · rfl
  · change (Json.ofStrings items).asRead.sorted = (Json.ofStrings items).asRead
    rw [Json.asRead_ofStrings, Json.sorted_ofStrings]

/-- What the value is worth when it has been read. -/
theorem bind_ofJson?_valueAsRead (entry : Entry) :
    (entry.valueAsRead.present?.map Json.sorted).bind EntryValue.ofJson? = entry.settled.value := by
  obtain ⟨path, operator, value⟩ := entry
  rcases value with _ | x | s | items
  · rfl
  · cases hx : x.isFinite <;>
      simp [valueAsRead, settled, EntryValue.toJson, Json.ofBinary64, Json.asRead,
        Json.Number.asRead, hx, Json.present?, Json.sorted, EntryValue.ofJson?,
        Json.Number.toBinary64]
  · rfl
  · have hread : (Entry.mk path operator (some (.list items))).valueAsRead
        = Json.ofStrings items := Json.asRead_ofStrings items
    have hpresent : (Json.ofStrings items).present? = some (Json.ofStrings items) := rfl
    rw [hread, hpresent, Option.map_some, Json.sorted_ofStrings, Option.bind_some, Json.ofStrings,
      EntryValue.ofJson?, Json.strings?_map_string]
    rfl

/-- A written row as it is parsed: its keys sorted. -/
theorem sorted_asRead_toJson (entry : Entry) :
    entry.toJson.asRead.sorted = .object [
      ("operator", (entry.operator.map Json.string).getD .null),
      ("path", .ofStrings entry.path),
      ("value", entry.valueAsRead)] := by
  have hread : entry.toJson.asRead = .object [
      ("path", .ofStrings entry.path),
      ("operator", (entry.operator.map Json.string).getD .null),
      ("value", entry.valueAsRead)] := by
    simp only [toJson, Json.asRead, Json.fieldsAsRead, Json.asRead_ofStrings, asRead_operator,
      valueAsRead]
  have hbefore : "operator" < "path" := by decide
  have hbehind : ¬"value" < "operator" ∧ ¬"value" < "path" := by decide
  rw [hread, Json.sorted, Json.sortFields]
  simp [Json.sortedFields, Json.insertField, hbefore, hbehind, sorted_operator,
    Json.sorted_ofStrings, sorted_valueAsRead]

theorem leading_map_some (path : List String) : Form.leading (path.map some) = path := by
  induction path with
  | nil => rfl
  | cons s path ih => rw [List.map_cons, Form.leading, ih]

/-- **A row is read as it was written.** -/
theorem reader_toJson (entry : Entry) (depth : Nat) :
    Entry.reader (depth + 3) entry.toJson.asRead.sorted.toDraft = .ok entry.settled := by
  have hoperator := Reader.optional_text entry.operator (depth + 2)
  have hpath := Reader.optional_list_text entry.path (depth + 1)
  have hvalue := Reader.optional_sortedTree
    (Nat.le_trans entry.depth_valueAsRead_le (Nat.le_add_left 1 (depth + 1)))
  -- The fields come by their names, each for the first time.
  have hfields : Reader.keyedFields Form.slots (depth + 2) (Json.fieldDrafts [
        ("operator", (entry.operator.map Json.string).getD .null),
        ("path", .ofStrings entry.path),
        ("value", entry.valueAsRead)]) [] {}
      = .ok {
        path := some (entry.path.map some)
        operator := entry.operator
        value := entry.valueAsRead.present?.map Json.sorted } := by
    rw [Json.fieldDrafts, Reader.keyedFields_cons rfl rfl (congrArg (Except.map _) hoperator),
      Json.fieldDrafts, Reader.keyedFields_cons rfl rfl (congrArg (Except.map _) hpath),
      Json.fieldDrafts, Reader.keyedFields_cons rfl rfl (congrArg (Except.map _) hvalue)]
    rfl
  have hentry : Form.entry {
        path := some (entry.path.map some)
        operator := entry.operator
        value := entry.valueAsRead.present?.map Json.sorted } = entry.settled := by
    rw [Form.entry, Option.getD_some, leading_map_some, bind_ofJson?_valueAsRead]
    rfl
  rw [sorted_asRead_toJson, Json.toDraft, Entry.reader, Reader.record, hfields, ← hentry]
  rfl

/-- A row that is read from finite numbers is finite: its value is one of them, if a number. -/
theorem yields_reader :
    Reader.Yields Json.Number.IsFinite Entry.reader IsFinite := by
  have hany : ∀ {β : Type} {read : Reader β},
      Reader.Yields Json.Number.IsFinite read fun _ => True :=
    fun _ _ _ _ _ => trivial
  refine Reader.yields_record (I := fun form : Form => ∀ j, form.value = some j →
    j.All Json.Number.IsFinite) (by simp) ?_ ?_
  · simp only [Form.slots, List.forall_mem_cons, List.not_mem_nil, false_implies, implies_true,
      and_true]
    refine ⟨?_, ?_, ?_, ?_, ?_, ?_⟩
    case refine_6 =>
      exact Reader.yields_slot (Reader.yields_optional Reader.yields_sortedTree)
        fun form value _ hvalue => hvalue
    all_goals exact Reader.yields_slot hany fun form value hform _ => hform
  · rintro _ form _ hform ⟨⟩ x hx
    obtain ⟨j, hj, hread⟩ := Option.bind_eq_some_iff.1 hx
    have hall := hform j hj
    cases j with
    | number n =>
      obtain rfl : n.toBinary64 = x := by simpa [EntryValue.ofJson?] using hread
      cases hall
      assumption
    | array items => simp [EntryValue.ofJson?] at hread
    | _ => simp [EntryValue.ofJson?] at hread

end Entry

/-! ## Lists of rows -/

namespace Token

theorem depth_toJson_le (entry : Entry) : entry.toJson.depth ≤ 2 := by
  have hpath := Json.depth_ofStrings_le entry.path
  have hoperator : ((entry.operator.map Json.string).getD .null).depth ≤ 1 := by
    cases entry.operator <;> exact Nat.zero_le 1
  have hvalue := entry.depth_valueAsRead_le
  rw [Entry.valueAsRead, Json.depth_asRead] at hvalue
  simp only [Entry.toJson, Json.depth, Json.fieldsDepth]
  omega

/-- The token parses as the list of its rows. -/
theorem parse_write (entries : List Entry) :
    Json.parse (write entries)
      = .ok (.array (entries.map fun entry => entry.toJson.asRead.sorted)) := by
  have hdepth : (Json.array (entries.map Entry.toJson)).depth ≤ Json.depthLimit := by
    have hitems : Json.itemsDepth (entries.map Entry.toJson) ≤ 2 := by
      refine Json.itemsDepth_le fun j hj => ?_
      obtain ⟨entry, -, rfl⟩ := List.mem_map.1 hj
      exact depth_toJson_le entry
    exact Nat.succ_le_succ (Nat.le_trans hitems (by decide))
  rw [write, Json.parse_compactText hdepth, Json.asRead, Json.sorted, Json.itemsAsRead_eq_map,
    Json.sortedItems_eq_map, List.map_map, List.map_map]
  rfl

/-- A token is never blank. -/
theorem not_isEmpty_trim_write (entries : List Entry) :
    (trim (write entries).toList).isEmpty = false := by
  have hhead : ∃ rest, (write entries).toList = '[' :: rest := by
    rw [write, Json.compactText, String.toList_ofList]
    cases entries with
    | nil => exact ⟨_, rfl⟩
    | cons entry entries => exact ⟨_, rfl⟩
  obtain ⟨rest, hrest⟩ := hhead
  rw [hrest, List.isEmpty_eq_false_iff]
  exact trim_ne_nil List.mem_cons_self (by decide)

/-- A token is read as the rows it was written from, each as it comes back. -/
theorem read_write (entries : List Entry) :
    read (some (write entries)) = entries.map Entry.settled := by
  have hitems : (Json.itemDrafts (entries.map fun entry => entry.toJson.asRead.sorted)).mapM
      (Entry.reader 126) = .ok (entries.map Entry.settled) := by
    rw [Json.itemDrafts_eq_map, List.map_map]
    exact Reader.mapM_map_eq_ok fun entry _ => entry.reader_toJson 123
  have hlist : Json.decode (Reader.list Entry.reader)
      (.array (entries.map fun entry => entry.toJson.asRead.sorted))
      = .ok (entries.map Entry.settled) := by
    rw [Json.decode, Json.toDraft, Json.depthLimit, Reader.list, hitems]
    rfl
  simp only [read, not_isEmpty_trim_write, Bool.false_eq_true, if_false, parse_write, rows, hlist]

theorem read_write_of_isFinite {entries : List Entry} (h : ∀ entry ∈ entries, entry.IsFinite) :
    read (some (write entries)) = entries := by
  have hsettled : entries.map Entry.settled = entries.map id :=
    List.map_congr_left fun entry hentry => Entry.settled_of_isFinite (h entry hentry)
  rw [read_write, hsettled, List.map_id]

/-- **A token is read as the rows it was written from**: a number that is not finite comes back
unset, and everything else as it was. -/
theorem token_round_trip (entries : List Entry) :
    read (some (write entries)) = entries.map Entry.settled ∧
      ((∀ entry ∈ entries, entry.IsFinite) → read (some (write entries)) = entries) :=
  ⟨read_write entries, read_write_of_isFinite⟩

/-- A row with a number, read back from its token. -/
theorem token_round_trip_number :
    read (some (write [⟨["results", "score"], some ">=", some (.number (.ofInt 3))⟩]))
      = [⟨["results", "score"], some ">=", some (.number (.ofInt 3))⟩] := by
  refine (token_round_trip _).2 (List.forall_mem_singleton.2 fun x hx => ?_)
  rw [← EntryValue.number.inj (Option.some.inj hx)]
  exact Binary64.isFinite_ofInt (by decide)

/-- **Whatever a token is, its rows are finite**: a JSON text has no other numbers. -/
theorem isFinite_of_mem_read {token : Option String} {entry : Entry} (h : entry ∈ read token) :
    entry.IsFinite := by
  unfold read at h
  split at h
  · simp at h
  split at h
  · simp at h
  split at h
  · rename_i j hparse
    have hj : j.All Json.Number.IsFinite :=
      Json.all_of_parse (fun _ _ => Json.isFinite_of_value) hparse
    unfold rows at h
    split at h
    · split at h
      · rename_i entries hread
        exact Reader.yields_list Entry.yields_reader _ _ entries (Json.all_toDraft hj) hread entry h
      · simp at h
    · simp at h
  · simp at h

end Token
end GameJam
