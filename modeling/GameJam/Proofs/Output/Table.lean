import GameJam.Output.Structured
import GameJam.Proofs.Json.DraftReading
import GameJam.Proofs.Output.TableReading
import GameJam.Proofs.Text.Utf8
import Mathlib.Data.List.Sort

/-!
# The table of a value

Which table a value stands for is said here without the function that makes it: the shape of the
table depends on the first item of a list alone, the columns of a list of objects are the keys of
the first one in the order of their bytes, and each object has a line with the text it has under
each of them.  Of equal keys the last one counts.

The function makes the table that is said, and what is written of it is read back, so that every
value is found again in its text cell by cell.  A list that begins with the empty object has no
columns; its text is written, but no reader could tell its lines.

## What is here

* `Json.CellText`, `Json.CellUnder` — the text of a value in a cell, and of a field under its key.
* `Json.Tabulates` — the table of a value.
* `Json.tabulates_iff` — **the table that is made is the table of the value**.
* `OutputMode.exists_serialize?_csv` — **every value is written as its table**.
-/

set_option autoImplicit false

namespace GameJam
namespace Json

/-! ## What a table says -/

/-- The text of a value in a cell. -/
inductive CellText : Json → String → Prop
  | string (s : String) : CellText (.string s) s
  | null : CellText .null ""
  | notFinite {x : Binary64} : x.isFinite = false → CellText (ofBinary64 x) ""
  | strings (texts : List String) : CellText (ofStrings texts) ("; ".intercalate texts)
  /-- Everything else is written as JSON. -/
  | json {j : Json} : (∀ s, j ≠ .string s) → j ≠ .null →
      (∀ x, j = ofBinary64 x → x.isFinite = true) → (∀ texts, j ≠ ofStrings texts) →
      CellText j j.sorted.compactText

/-- The text under a key, which is empty if there is no such field. -/
inductive CellUnder (fields : List (String × Json)) (key : String) : String → Prop
  | value {value : Json} {cell : String} : lastField? (key == ·) fields = some value →
      CellText value cell → CellUnder fields key cell
  | missing : key ∉ fields.map Prod.fst → CellUnder fields key ""

/-- The keys of some fields: each once, in the order of their bytes. -/
structure Keys (fields : List (String × Json)) (keys : List String) : Prop where
  ascending : keys.Pairwise fun key next => Utf8.encode key.toList < Utf8.encode next.toList
  mem_iff : ∀ key, key ∈ keys ↔ key ∈ fields.map Prod.fst

/-- The fields of an object. -/
def fields? : Json → Option (List (String × Json))
  | .object fields => some fields
  | _ => none

/-- The table of a value. -/
inductive Tabulates : Json → List (List String) → Prop
  | nothing : Tabulates (.array []) []
  /-- A list of objects has a line for each object in it. -/
  | records {first : List (String × Json)} {rest : List Json} {keys : List String}
      {lines : List (List String)} : first ≠ [] → Keys first keys →
      List.Forall₂ (fun fields line => List.Forall₂ (CellUnder fields) keys line)
        ((Json.object first :: rest).filterMap fields?) lines →
      Tabulates (.array (.object first :: rest)) (keys :: lines)
  /-- Another list has a line for each item. -/
  | values {first : Json} {rest : List Json} {lines : List (List String)} :
      (∀ fields, first ≠ .object fields) →
      List.Forall₂ (fun item line => ∃ cell, CellText item cell ∧ line = [cell])
        (first :: rest) lines →
      Tabulates (.array (first :: rest)) (["value"] :: lines)
  /-- An object has a line for each key. -/
  | pairs {fields : List (String × Json)} {keys : List String} {lines : List (List String)} :
      Keys fields keys →
      List.Forall₂ (fun key line => ∃ cell, CellUnder fields key cell ∧ line = [key, cell])
        keys lines →
      Tabulates (.object fields) (["key", "value"] :: lines)
  | single {j : Json} {cell : String} : (∀ items, j ≠ .array items) →
      (∀ fields, j ≠ .object fields) → CellText j cell → Tabulates j [["value"], [cell]]

/-! ## Cells -/

/-- What has no text of its own is written as JSON. -/
theorem cell_sorted_eq_compactText {j : Json} (hstring : ∀ s, j ≠ .string s) (hnull : j ≠ .null)
    (hfinite : ∀ x, j = ofBinary64 x → x.isFinite = true)
    (hstrings : ∀ texts, j ≠ ofStrings texts) : j.sorted.cell = j.sorted.compactText := by
  cases j with
  | null => exact absurd rfl hnull
  | string s => exact absurd rfl (hstring s)
  | number n =>
    cases n with
    | real x => simp [sorted, cell, hfinite x rfl]
    | _ => rfl
  | array items =>
    have hnone : strings? items = none := by
      refine Option.eq_none_iff_forall_ne_some.2 fun texts htexts => hstrings texts ?_
      rw [strings?_eq_some_iff.1 htexts, ofStrings]
    rw [sorted, cell, strings?_sortedItems, hnone]
  | _ => rfl

theorem CellText.cell_sorted_eq {j : Json} {text : String} (h : CellText j text) :
    j.sorted.cell = text := by
  cases h with
  | string => rfl
  | null => rfl
  | notFinite hx => simp [ofBinary64, sorted, cell, hx]
  | strings texts => rw [sorted_ofStrings, ofStrings, cell, strings?_map_string]
  | json hstring hnull hfinite hstrings =>
    exact cell_sorted_eq_compactText hstring hnull hfinite hstrings

theorem cellText_cell_sorted (j : Json) : CellText j j.sorted.cell := by
  by_cases hstring : ∃ s, j = .string s
  · obtain ⟨s, rfl⟩ := hstring
    exact .string s
  by_cases hnull : j = .null
  · subst hnull
    exact .null
  by_cases hnotFinite : ∃ x, j = ofBinary64 x ∧ x.isFinite = false
  · obtain ⟨x, rfl, hx⟩ := hnotFinite
    rw [(CellText.notFinite hx).cell_sorted_eq]
    exact .notFinite hx
  by_cases hstrings : ∃ texts, j = ofStrings texts
  · obtain ⟨texts, rfl⟩ := hstrings
    rw [(CellText.strings texts).cell_sorted_eq]
    exact .strings texts
  simp only [not_exists, not_and, Bool.not_eq_false] at hstring hnotFinite hstrings
  rw [cell_sorted_eq_compactText hstring hnull hnotFinite hstrings]
  exact .json hstring hnull hnotFinite hstrings

/-- **The text in a cell** is the one that is said. -/
theorem cellText_iff {j : Json} {text : String} : CellText j text ↔ j.sorted.cell = text :=
  ⟨CellText.cell_sorted_eq, fun h => h ▸ cellText_cell_sorted j⟩

/-! ## Fields -/

/-- The text under a key, as it is found. -/
def cellAt (fields : List (String × Json)) (key : String) : String :=
  ((lastField? (key == ·) fields).map fun value => value.sorted.cell).getD ""

theorem cellUnder_iff {fields : List (String × Json)} {key text : String} :
    CellUnder fields key text ↔ cellAt fields key = text := by
  constructor
  · rintro (⟨hvalue, hcell⟩ | hmissing)
    · rw [cellAt, hvalue, Option.map_some, Option.getD_some, hcell.cell_sorted_eq]
    · rw [cellAt, lastField?_eq_none_iff_not_mem.2 hmissing, Option.map_none, Option.getD_none]
  · rintro rfl
    cases hvalue : lastField? (key == ·) fields with
    | none =>
      rw [cellAt, hvalue]
      exact .missing (lastField?_eq_none_iff_not_mem.1 hvalue)
    | some value =>
      rw [cellAt, hvalue]
      exact .value hvalue (cellText_cell_sorted value)

theorem field?_eq_lookup (fields : List (String × Json)) (key : String) :
    field? fields key = fields.lookup key := by
  induction fields with
  | nil => rfl
  | cons field fields ih =>
    rw [field?, List.find?_cons, List.lookup_cons, Bool.beq_comm, ← ih]
    cases key == field.1 <;> rfl

/-- The text that sorted fields have under a key. -/
theorem cellAt_eq (fields : List (String × Json)) (key : String) :
    ((field? (sortFields (sortedFields fields)) key).map cell).getD "" = cellAt fields key := by
  rw [field?_eq_lookup, lookup_sortFields, lastField?_sortedFields, Option.map_map]
  rfl

theorem keys_sortedFields (fields : List (String × Json)) :
    (sortedFields fields).map Prod.fst = fields.map Prod.fst := by
  induction fields with
  | nil => rfl
  | cons field fields ih => rw [sortedFields, List.map_cons, List.map_cons, ih]

/-- The keys under which sorted fields stand. -/
def sortedKeys (fields : List (String × Json)) : List String :=
  (sortFields (sortedFields fields)).map Prod.fst

theorem keysSorted_sortedKeys (fields : List (String × Json)) :
    (sortedKeys fields).Pairwise (· < ·) :=
  keysSorted_sortFields _

theorem mem_sortedKeys_iff {fields : List (String × Json)} {key : String} :
    key ∈ sortedKeys fields ↔ key ∈ fields.map Prod.fst := by
  rw [sortedKeys, mem_keys_sortFields_iff, keys_sortedFields]

/-- **The keys of the columns** are those that are said. -/
theorem keys_iff {fields : List (String × Json)} {keys : List String} :
    Keys fields keys ↔ sortedKeys fields = keys := by
  constructor
  · intro h
    refine (keysSorted_sortedKeys fields).eq_of_mem_iff (h.ascending.imp fun hlt => ?_) ?_
    · exact String.lt_iff.2 (Utf8.encode_lt_encode_iff.1 hlt)
    · exact fun key => by rw [mem_sortedKeys_iff, h.mem_iff]
  · rintro rfl
    refine ⟨(keysSorted_sortedKeys fields).imp fun hlt => ?_, fun _ => mem_sortedKeys_iff⟩
    exact Utf8.encode_lt_encode_iff.2 (String.lt_iff.1 hlt)

/-! ## Tables -/

/-- Lines that are said one by one are those of a function. -/
theorem forall₂_iff_map_eq {α β : Type} {R : α → β → Prop} (f : α → β)
    (h : ∀ a b, R a b ↔ f a = b) {list : List α} {lines : List β} :
    List.Forall₂ R list lines ↔ list.map f = lines := by
  obtain rfl : R = fun a b => f a = b := funext₂ fun a b => propext (h a b)
  rw [← List.forall₂_eq_eq_eq, List.forall₂_map_left_iff]

theorem filterMap_cellsUnder?_sortedItems (keys : List String) (items : List Json) :
    (sortedItems items).filterMap (cellsUnder? keys)
      = (items.filterMap fields?).map fun fields => keys.map (cellAt fields) := by
  rw [sortedItems_eq_map, List.filterMap_map, List.map_filterMap]
  congr 1
  funext item
  cases item with
  | object fields =>
    simp only [Function.comp_apply, sorted, cellsUnder?, fields?, Option.map_some, cellAt_eq]
  | _ => rfl

theorem table_sorted_records (first : List (String × Json)) (rest : List Json) :
    (Json.array (.object first :: rest)).sorted.table = sortedKeys first ::
      ((Json.object first :: rest).filterMap fields?).map fun fields =>
        (sortedKeys first).map (cellAt fields) := by
  rw [← filterMap_cellsUnder?_sortedItems]
  rfl

theorem table_sorted_values {first : Json} (h : ∀ fields, first ≠ .object fields)
    (rest : List Json) :
    (Json.array (first :: rest)).sorted.table
      = ["value"] :: (first :: rest).map fun item => [item.sorted.cell] := by
  have hitems : (sortedItems (first :: rest)).map (fun item => [item.cell])
      = (first :: rest).map fun item => [item.sorted.cell] := by
    rw [sortedItems_eq_map, List.map_map]
    rfl
  rw [← hitems]
  cases first with
  | object fields => exact absurd rfl (h fields)
  | _ => rfl

theorem table_sorted_object (fields : List (String × Json)) :
    (Json.object fields).sorted.table
      = ["key", "value"] :: (sortedKeys fields).map fun key => [key, cellAt fields key] := by
  rw [sorted, table, sortedKeys, List.map_map]
  congr 1
  refine List.map_congr_left fun field hfield => ?_
  -- No key comes twice among the sorted fields, so each has the value of its own field.
  have hlookup := lookup_eq_some_of_mem (nodup_sortFields _) hfield
  rw [Function.comp_apply, ← cellAt_eq, field?_eq_lookup, hlookup]
  rfl

theorem table_sorted_single {j : Json} (harray : ∀ items, j ≠ .array items)
    (hobject : ∀ fields, j ≠ .object fields) :
    j.sorted.table = [["value"], [j.sorted.cell]] := by
  cases j with
  | array items => exact absurd rfl (harray items)
  | object fields => exact absurd rfl (hobject fields)
  | _ => rfl

theorem forall₂_records_iff {objects : List (List (String × Json))} {keys : List String}
    {lines : List (List String)} :
    List.Forall₂ (fun fields line => List.Forall₂ (CellUnder fields) keys line) objects lines ↔
      (objects.map fun fields => keys.map (cellAt fields)) = lines :=
  forall₂_iff_map_eq _ fun fields _ => forall₂_iff_map_eq (cellAt fields) fun _ _ => cellUnder_iff

theorem forall₂_values_iff {items : List Json} {lines : List (List String)} :
    List.Forall₂ (fun item line => ∃ text, CellText item text ∧ line = [text]) items lines ↔
      (items.map fun item => [item.sorted.cell]) = lines :=
  forall₂_iff_map_eq _ fun _ _ => by simp only [cellText_iff, exists_eq_left']; exact eq_comm

theorem forall₂_pairs_iff {fields : List (String × Json)} {keys : List String}
    {lines : List (List String)} :
    List.Forall₂ (fun key line => ∃ text, CellUnder fields key text ∧ line = [key, text])
        keys lines ↔
      (keys.map fun key => [key, cellAt fields key]) = lines :=
  forall₂_iff_map_eq _ fun _ _ => by simp only [cellUnder_iff, exists_eq_left']; exact eq_comm

theorem Tabulates.table_sorted_eq {j : Json} {table : List (List String)} (h : Tabulates j table) :
    j.sorted.table = table := by
  cases h with
  | nothing => rfl
  | records _ hkeys hlines =>
    obtain rfl := keys_iff.1 hkeys
    rw [table_sorted_records, forall₂_records_iff.1 hlines]
  | values hfirst hlines => rw [table_sorted_values hfirst, forall₂_values_iff.1 hlines]
  | pairs hkeys hlines =>
    obtain rfl := keys_iff.1 hkeys
    rw [table_sorted_object, forall₂_pairs_iff.1 hlines]
  | single harray hobject hcell =>
    rw [table_sorted_single harray hobject, hcell.cell_sorted_eq]

theorem tabulates_table_sorted {j : Json} (h : ∀ rest, j ≠ .array (.object [] :: rest)) :
    Tabulates j j.sorted.table := by
  by_cases hobject : ∃ fields, j = .object fields
  · obtain ⟨fields, rfl⟩ := hobject
    rw [table_sorted_object]
    exact .pairs (keys_iff.2 rfl) (forall₂_pairs_iff.2 rfl)
  by_cases harray : ∃ items, j = .array items
  · obtain ⟨items, rfl⟩ := harray
    match items with
    | [] => exact .nothing
    | .object [] :: rest => exact absurd rfl (h rest)
    | .object (field :: fields) :: rest =>
      rw [table_sorted_records]
      exact .records (List.cons_ne_nil _ _) (keys_iff.2 rfl) (forall₂_records_iff.2 rfl)
    | .null :: rest | .bool _ :: rest | .number _ :: rest | .string _ :: rest | .array _ :: rest =>
      rw [table_sorted_values (by simp)]
      exact .values (by simp) (forall₂_values_iff.2 rfl)
  · simp only [not_exists] at hobject harray
    rw [table_sorted_single harray hobject]
    exact .single harray hobject (cellText_cell_sorted j)

/-- **The table that is made is the table of the value.** -/
theorem tabulates_iff {j : Json} (h : ∀ rest, j ≠ .array (.object [] :: rest))
    {table : List (List String)} : Tabulates j table ↔ table = j.sorted.table :=
  ⟨fun htable => htable.table_sorted_eq.symm, fun heq => heq ▸ tabulates_table_sorted h⟩

/-- There is something in each line of a table. -/
theorem Tabulates.ne_nil_of_mem {j : Json} {table : List (List String)} (h : Tabulates j table)
    {line : List String} (hline : line ∈ table) : line ≠ [] := by
  have hhead : table.headD [] ≠ [] := by
    cases h with
    | nothing => cases hline
    | records hfirst hkeys _ =>
      obtain ⟨field, fields, rfl⟩ := List.exists_cons_of_ne_nil hfirst
      exact List.ne_nil_of_mem ((hkeys.mem_iff field.1).2 List.mem_cons_self)
    | _ => exact List.cons_ne_nil _ _
  have hlength : line.length = (table.headD []).length := by
    rw [← h.table_sorted_eq] at hline ⊢
    exact length_of_mem_table hline
  rwa [← List.length_pos_iff, hlength, List.length_pos_iff]

end Json

open Json

/-- **Every value is written as its table.**  Readers of either kind find in the text the one table
that the value stands for; only of a list that begins with the empty object nothing is said but
that it is written. -/
theorem OutputMode.exists_serialize?_csv (j : Json) (skipsEmpty : Bool) :
    ∃ text, OutputMode.csv.serialize? j = some text ∧
      ((∀ rest, j ≠ .array (.object [] :: rest)) →
        ∃ table, Csv.read skipsEmpty text = some table ∧
          ∀ other, Tabulates j other ↔ other = table) := by
  refine ⟨Csv.write j.sorted.table, Csv.write?_table _, fun h => ⟨j.sorted.table, ?_, ?_⟩⟩
  · have htable := tabulates_table_sorted h
    exact Csv.read_write (fun line hline => htable.ne_nil_of_mem hline) (Csv.isEven_table _)
      skipsEmpty
  · exact fun other => tabulates_iff h

/-- Quotes, commas and line ends stay in their cells, what is no object has no line, and a key that
the first object does not have is left out. -/
theorem OutputMode.exists_serialize?_csv_records :
    ∃ text, OutputMode.csv.serialize?
        (.array [.object [("b", .string "x, \"y\"\r\nz"), ("a", .null)], .string "w",
          .object [("c", .null), ("a", ofStrings ["u", "v"])]]) = some text ∧
      Csv.read true text = some [["a", "b"], ["", "x, \"y\"\r\nz"], ["u; v", ""]] := by
  obtain ⟨text, htext, hread⟩ := OutputMode.exists_serialize?_csv
    (.array [.object [("b", .string "x, \"y\"\r\nz"), ("a", .null)], .string "w",
      .object [("c", .null), ("a", ofStrings ["u", "v"])]]) true
  obtain ⟨table, htable, hother⟩ := hread (by simp)
  refine ⟨text, htext, ?_⟩
  rw [htable, Option.some_inj, eq_comm, ← hother]
  refine .records (List.cons_ne_nil _ _) ⟨by decide, by simp [or_comm]⟩ (.cons ?_ (.cons ?_ .nil))
  · exact .cons (.value rfl .null) (.cons (.value rfl (.string _)) .nil)
  · exact .cons (.value rfl (.strings _)) (.cons (.missing (by decide)) .nil)

end GameJam
