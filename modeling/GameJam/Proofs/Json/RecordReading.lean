import GameJam.Proofs.Except
import GameJam.Proofs.Json.TreeReading

/-!
# Records are read back

A value that is written as JSON comes back through the reader of its shape, if the reader fits the
writer: a reader of records looks its fields up by their names, so that the order in which they are
written does not matter, and neither does a field that is left out, as long as no name comes twice.
This file says what fits what, shape by shape, so that the round trip of a record is the round trips
of its fields.

## What is here

* `Reader.Reads` — a reader gives a value for what is read of a JSON tree.
* `reads_text`, `reads_natural`, `reads_real`, `reads_optional`, `reads_list` — the shapes that are
  no records.
* `Reader.Fills` — the fields of an object fill what has been read of a record.
* `reads_record` — **a record is read when its fields fill it and no name comes twice**.
* `read_compactText` — **a value that is read from its tree is read from its text**.
-/

set_option autoImplicit false

namespace GameJam
namespace Json

/-! ## What is read as it was written -/

theorem asRead_ofBinary64 {x : Binary64} (h : x.isFinite = true) :
    (ofBinary64 x).asRead = ofBinary64 x := by
  rw [ofBinary64, asRead, Number.asRead, if_pos h]

theorem asRead_ofStrings (list : List String) : (ofStrings list).asRead = ofStrings list := by
  rw [ofStrings, asRead, itemsAsRead_eq_map, List.map_map]
  rfl

theorem sorted_ofStrings (list : List String) : (ofStrings list).sorted = ofStrings list := by
  rw [ofStrings, sorted, sortedItems_eq_map, List.map_map]
  rfl

theorem depth_ofStrings_le (list : List String) : (ofStrings list).depth ≤ 1 := by
  refine Nat.succ_le_succ (itemsDepth_le fun j hj => ?_)
  obtain ⟨s, -, rfl⟩ := List.mem_map.1 hj
  exact Nat.le_refl 0

theorem strings?_map_string (list : List String) : strings? (list.map .string) = some list := by
  induction list with
  | nil => rfl
  | cons s list ih => rw [List.map_cons, strings?, ih, Option.map_some]

theorem strings?_sortedItems (items : List Json) :
    strings? (sortedItems items) = strings? items := by
  induction items with
  | nil => rfl
  | cons item items ih => cases item <;> simp [sortedItems, sorted, strings?, ih]

theorem strings?_eq_some_iff {items : List Json} {texts : List String} :
    strings? items = some texts ↔ items = texts.map .string := by
  refine ⟨fun h => ?_, fun h => h ▸ strings?_map_string texts⟩
  induction items generalizing texts with
  | nil => cases h; rfl
  | cons item items ih =>
    cases item with
    | string s =>
      rw [strings?, Option.map_eq_some_iff] at h
      obtain ⟨texts, htexts, rfl⟩ := h
      rw [ih htexts, List.map_cons]
    | _ => cases h

/-- Nothing is sorted in a list of texts. -/
theorem sorted_eq_ofStrings_iff {j : Json} {texts : List String} :
    j.sorted = ofStrings texts ↔ j = ofStrings texts := by
  refine ⟨fun h => ?_, fun h => h ▸ sorted_ofStrings texts⟩
  cases j with
  | array items =>
    have hitems := strings?_eq_some_iff.2 (array.inj h)
    rw [strings?_sortedItems] at hitems
    rw [strings?_eq_some_iff.1 hitems, ofStrings]
  | _ => cases h

theorem ofStrings_injective : Function.Injective ofStrings := by
  intro a b h
  have hstrings := congrArg strings? (array.inj h)
  simpa only [strings?_map_string, Option.some.injEq] using hstrings

namespace Reader

variable {α β σ : Type}

theorem mapM_map_eq_ok {γ : Type} {f : β → Except ReadError γ} {g : α → β} {k : α → γ}
    {list : List α} (h : ∀ a ∈ list, f (g a) = .ok (k a)) :
    (list.map g).mapM f = .ok (list.map k) := by
  rw [mapM_eq_ok_iff, List.forall₂_map_left_iff, List.forall₂_map_right_iff]
  exact List.forall₂_same.2 h

/-! ## Values -/

/-- The reader gives the value for what is read of the tree, if it may enter as many containers as
there are levels, or more. -/
def Reads (read : Reader α) (levels : Nat) (j : Json) (a : α) : Prop :=
  ∀ depth, levels ≤ depth → read depth j.asRead.toDraft = .ok a

theorem reads_text (s : String) : text.Reads 0 (.string s) s :=
  fun _ _ => rfl

theorem reads_natural {limit : Nat} (expected : String) {n : UInt64} (h : n.toNat < limit) :
    (natural limit expected).Reads 0 (.ofUInt64 n) n.toNat :=
  fun _ _ => if_pos h

/-- A number that is not finite would be read where `null` was written. -/
theorem reads_real {x : Binary64} (h : x.isFinite = true) : real.Reads 0 (.ofBinary64 x) x := by
  intro depth _
  rw [asRead_ofBinary64 h]
  rfl

theorem reads_optional_null (read : Reader α) : (optional read).Reads 0 .null none :=
  fun _ _ => rfl

/-- What is there is not `null`. -/
theorem reads_optional {read : Reader α} {levels : Nat} {j : Json} {a : α}
    (hnull : j.asRead.toDraft ≠ .null) (h : read.Reads levels j a) :
    (optional read).Reads levels j (some a) := by
  intro depth hdepth
  rw [optional, h depth hdepth]
  · rfl
  · exact hnull

theorem reads_list {read : Reader α} {levels : Nat} {write : α → Json} {items : List α}
    (h : ∀ a ∈ items, read.Reads levels (write a) a) :
    (list read).Reads (levels + 1) (.array (items.map write)) items := by
  rintro (_ | depth) hdepth
  · exact absurd hdepth (Nat.not_succ_le_zero levels)
  · have hitems : (itemDrafts (itemsAsRead (items.map write))).mapM (read depth)
        = .ok (items.map id) := by
      rw [itemDrafts_eq_map, itemsAsRead_eq_map, List.map_map, List.map_map]
      exact mapM_map_eq_ok fun a ha => h a ha depth (Nat.le_of_succ_le_succ hdepth)
    rw [asRead, toDraft, list, hitems, List.map_id]
    rfl

/-! ## Records -/

/-- A field with a known name that has not come before. -/
theorem keyedFields_cons {slots : List (Slot σ)} {slot : Slot σ} {depth : Nat}
    {name : String} {value : Draft} {rest : List (Leaf String × Draft)} {seen : List String}
    {s s' : σ} (hslot : slots.find? (fun slot => slot.name == name) = some slot)
    (hseen : seen.contains name = false) (hput : slot.put s depth value = .ok s') :
    keyedFields slots depth ((⟨.ok name, none⟩, value) :: rest) seen s
      = keyedFields slots depth rest (name :: seen) s' := by
  have hname : (Leaf.get ⟨.ok name, none⟩ : Except ReadError String) = .ok name := rfl
  have hnew : ¬seen.contains name = true := by rw [hseen]; decide
  simp only [keyedFields, hname, bind, Except.bind, hslot, if_neg hnew, hput]

/-- One after the other, the fields take a record from one state of its reading to another: each
has a slot, and its value fits there. -/
inductive Fills (slots : List (Slot σ)) (depth : Nat) : List (String × Json) → σ → σ → Prop
  | nil (s : σ) : Fills slots depth [] s s
  | cons {slot : Slot σ} {name : String} {j : Json} {rest : List (String × Json)} {s s' s'' : σ} :
    slots.find? (fun slot => slot.name == name) = some slot →
      slot.put s depth j.asRead.toDraft = .ok s' → Fills slots depth rest s' s'' →
      Fills slots depth ((name, j) :: rest) s s''

namespace Fills

variable {slots : List (Slot σ)} {depth : Nat} {s s' s'' : σ}

/-- A field whose value is read and then set. -/
theorem field {name : String} {read : Reader β} {set : σ → β → σ} {levels : Nat} {j : Json} {b : β}
    {rest : List (String × Json)}
    (hslot : slots.find? (fun slot => slot.name == name) = some (.of name read set))
    (hread : read.Reads levels j b) (hdepth : levels ≤ depth)
    (hrest : Fills slots depth rest (set s b) s'') :
    Fills slots depth ((name, j) :: rest) s s'' := by
  refine .cons hslot ?_ hrest
  exact congrArg (Except.map (set s)) (hread depth hdepth)

theorem append {before after : List (String × Json)} (h : Fills slots depth before s s')
    (hafter : Fills slots depth after s' s'') : Fills slots depth (before ++ after) s s'' := by
  induction h with
  | nil s => exact hafter
  | cons hslot hput _ ih => exact .cons hslot hput (ih hafter)

/-- Fields with different names that have not come before are read one after the other. -/
theorem keyedFields_eq_ok {fields : List (String × Json)} (h : Fills slots depth fields s s')
    (hkeys : (fields.map Prod.fst).Nodup) {seen : List String}
    (hseen : ∀ name ∈ fields.map Prod.fst, name ∉ seen) :
    keyedFields slots depth (fieldDrafts (fieldsAsRead fields)) seen s = .ok s' := by
  induction h generalizing seen with
  | nil s => rfl
  | @cons slot name j rest s s' s'' hslot hput _ ih =>
    rw [List.map_cons, List.nodup_cons] at hkeys
    rw [List.map_cons, List.forall_mem_cons] at hseen
    have hnew : seen.contains name = false := by simpa using hseen.1
    rw [fieldsAsRead, fieldDrafts, keyedFields_cons hslot hnew hput]
    refine ih hkeys.2 fun key hkey => ?_
    rw [List.mem_cons, not_or]
    refine ⟨?_, hseen.2 key hkey⟩
    rintro rfl
    exact hkeys.1 hkey

end Fills

/-- **A record is read when its fields fill it** and no name comes twice. -/
theorem reads_record {name : String} {slots : List (Slot σ)} {start s : σ}
    {finish : (String → ReadError) → σ → Except ReadError α} {levels : Nat}
    {fields : List (String × Json)} {a : α}
    (hfields : ∀ depth, levels ≤ depth → Fills slots depth fields start s)
    (hkeys : (fields.map Prod.fst).Nodup) (hfinish : finish .missingField s = .ok a) :
    (record name slots start finish).Reads (levels + 1) (.object fields) a := by
  rintro (_ | depth) hdepth
  · exact absurd hdepth (Nat.not_succ_le_zero levels)
  · have hread := (hfields depth (Nat.le_of_succ_le_succ hdepth)).keyedFields_eq_ok hkeys
      (fun name _ => List.not_mem_nil : ∀ name ∈ fields.map Prod.fst, name ∉ [])
    rw [asRead, toDraft, record, hread]
    exact hfinish

/-! ## Texts -/

/-- **A value that is read from its tree is read from its text.** -/
theorem read_compactText {read : Reader α} {levels : Nat} {j : Json} {a : α}
    (h : read.Reads levels j a) (hlevels : levels ≤ depthLimit) :
    Json.read read j.compactText = .ok a := by
  rw [Json.read, compactText, String.toList_ofList, ofText_compact, h depthLimit hlevels]
  rfl

end Reader
end Json
end GameJam
