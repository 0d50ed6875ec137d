import GameJam.Proofs.Json.FieldReading

/-!
# The numbers of a tree

What a text can write as a number satisfies more than what a tree can hold: it is never out of
range, for one.  Such a property of numbers is carried here from the reader of numbers to the tree
that is parsed and to whatever a reader of known shapes makes of the tree.

The property `P` is any property at all that every number of a text has.  The reader keeps drafts on
its stack and in its mode, so its invariant says of each of them that its numbers have the property;
one character keeps the invariant, and so does a text.

## What is here

* `Draft.All`, `Json.All` — every number has the property.
* `State.All` — the invariant of the reader, with `all_step` and `all_ofText`.
* `all_of_tree`, `all_sorted`, `all_toDraft` — trees; `all_of_parse` puts them together: **every
  number of a parsed text has the property**.
* `Reader.Yields` — what a reader makes of a draft; `Reader.yields_list` and `Reader.yields_record`
  for the readers that are put together.
-/

set_option autoImplicit false

namespace GameJam

namespace Json

/-- Every number in the tree has the property. -/
inductive All (P : Number → Prop) : Json → Prop
  | null : All P .null
  | bool {b : Bool} : All P (.bool b)
  | number {n : Number} : P n → All P (.number n)
  | string {s : String} : All P (.string s)
  | array {items : List Json} : (∀ j ∈ items, All P j) → All P (.array items)
  | object {fields : List (String × Json)} :
    (∀ field ∈ fields, All P field.2) → All P (.object fields)

/-- Every number that is kept in the draft has the property. -/
inductive Draft.All (P : Number → Prop) : Draft → Prop
  | broken {fault : Fault} : Draft.All P (.broken fault)
  | null : Draft.All P .null
  | bool {b : Bool} : Draft.All P (.bool b)
  | number {leaf : Leaf Number} : (∀ n, leaf.kept = .ok n → P n) → Draft.All P (.number leaf)
  | string {leaf : Leaf String} : Draft.All P (.string leaf)
  | array {items : List Draft} {ending : Option Fault} :
    (∀ d ∈ items, Draft.All P d) → Draft.All P (.array items ending)
  | object {fields : List (Leaf String × Draft)} {ending : Option Fault} :
    (∀ field ∈ fields, Draft.All P field.2) → Draft.All P (.object fields ending)

/-! ## The invariant of the reader -/

/-- The drafts of a container that waits have the property. -/
def Frame.All (P : Number → Prop) : Frame → Prop
  | .array items => ∀ d ∈ items, d.All P
  | .member fields _ => ∀ field ∈ fields, field.2.All P

/-- The drafts that the mode keeps have the property. -/
def Mode.All (P : Number → Prop) : Mode → Prop
  | .afterItem items => ∀ d ∈ items, d.All P
  | .key fields | .colon fields _ | .afterField fields | .keyString fields _ =>
    ∀ field ∈ fields, field.2.All P
  | .word _ meant => meant.All P
  | .done root | .surplus root | .stopped root => root.All P
  | .value | .firstItem | .number _ | .string _ => True

/-- All drafts of the reader have the property. -/
structure State.All (P : Number → Prop) (s : State) : Prop where
  stack : ∀ frame ∈ s.stack, frame.All P
  mode : s.mode.All P

namespace State

variable {P : Number → Prop} {stack : List Frame}

theorem all_complete {value : Draft} (hstack : ∀ frame ∈ stack, frame.All P)
    (hvalue : value.All P) : (complete value stack).All P := by
  cases stack with
  | nil => exact ⟨hstack, hvalue⟩
  | cons frame rest =>
    obtain ⟨hframe, hrest⟩ := List.forall_mem_cons.1 hstack
    cases frame with
    | array items => exact ⟨hrest, List.forall_mem_cons.2 ⟨hvalue, hframe⟩⟩
    | member fields key => exact ⟨hrest, List.forall_mem_cons.2 ⟨hvalue, hframe⟩⟩

theorem all_array_reverse {items : List Draft} {ending : Option Fault}
    (h : ∀ d ∈ items, d.All P) : (Draft.array items.reverse ending).All P :=
  .array fun d hd => h d (List.mem_reverse.1 hd)

theorem all_object_reverse {fields : List (Leaf String × Draft)} {ending : Option Fault}
    (h : ∀ field ∈ fields, field.2.All P) : (Draft.object fields.reverse ending).All P :=
  .object fun field hfield => h field (List.mem_reverse.1 hfield)

theorem all_abandon (fault : Fault) {value : Draft} (hstack : ∀ frame ∈ stack, frame.All P)
    (hvalue : value.All P) : (abandon fault value stack).All P := by
  induction stack generalizing value with
  | nil => exact hvalue
  | cons frame rest ih =>
    obtain ⟨hframe, hrest⟩ := List.forall_mem_cons.1 hstack
    cases frame with
    | array items => exact ih hrest (all_array_reverse (List.forall_mem_cons.2 ⟨hvalue, hframe⟩))
    | member fields key =>
      exact ih hrest (all_object_reverse (List.forall_mem_cons.2 ⟨hvalue, hframe⟩))

theorem all_stop (fault : Fault) {value : Draft} (hstack : ∀ frame ∈ stack, frame.All P)
    (hvalue : value.All P) : (stop fault value stack).All P :=
  ⟨by simp [stop], all_abandon fault hstack hvalue⟩

theorem all_begin (hstack : ∀ frame ∈ stack, frame.All P) (c : Char) : (begin stack c).All P := by
  unfold begin
  split_ifs
  · exact ⟨hstack, trivial⟩
  · exact ⟨hstack, trivial⟩
  · exact ⟨hstack, by simp [Mode.All]⟩
  · exact ⟨hstack, .null⟩
  · exact ⟨hstack, .bool⟩
  · exact ⟨hstack, .bool⟩
  · split
    · exact ⟨hstack, trivial⟩
    · exact all_stop _ hstack .broken

theorem all_between {s : State} (h : s.All P) (c : Char) : (between s c).All P := by
  obtain ⟨stack, mode⟩ := s
  obtain ⟨hstack, hmode⟩ := h
  cases mode with
  | afterItem items =>
    simp only [between]
    split_ifs
    · exact ⟨List.forall_mem_cons.2 ⟨hmode, hstack⟩, trivial⟩
    · exact all_complete hstack (all_array_reverse hmode)
    · exact all_stop _ hstack (all_array_reverse hmode)
  | afterField fields =>
    simp only [between]
    split_ifs
    · exact ⟨hstack, hmode⟩
    · exact all_complete hstack (all_object_reverse hmode)
    · exact all_stop _ hstack (all_object_reverse hmode)
  | _ => exact ⟨hstack, hmode⟩

theorem all_structural {s : State} (h : s.All P) (c : Char) : (structural s c).All P := by
  have hbetween := all_between h c
  obtain ⟨stack, mode⟩ := s
  obtain ⟨hstack, hmode⟩ := h
  unfold structural
  split
  · exact ⟨hstack, hmode⟩
  cases mode with
  | value => exact all_begin hstack c
  | firstItem =>
    dsimp only
    split_ifs
    · exact all_complete hstack (.array (by simp))
    · exact all_begin (List.forall_mem_cons.2 ⟨by simp [Frame.All], hstack⟩) c
  | key fields =>
    dsimp only
    split_ifs
    · exact ⟨hstack, hmode⟩
    · exact all_complete hstack (.object (by simp))
    · exact all_stop _ hstack (all_object_reverse hmode)
  | colon fields key =>
    dsimp only
    split_ifs
    · exact ⟨List.forall_mem_cons.2 ⟨hmode, hstack⟩, trivial⟩
    · exact all_stop _ (List.forall_mem_cons.2 ⟨hmode, hstack⟩) .broken
  | _ => exact hbetween

theorem all_cut {s : State} (h : s.All P) : s.cut.root.All P := by
  obtain ⟨stack, mode⟩ := s
  obtain ⟨hstack, hmode⟩ := h
  cases mode with
  | value => exact all_abandon _ hstack .broken
  | firstItem => exact all_abandon _ hstack (.array (by simp))
  | afterItem items => exact all_abandon _ hstack (all_array_reverse hmode)
  | key fields => exact all_abandon _ hstack (all_object_reverse hmode)
  | colon fields key =>
    exact all_abandon _ (List.forall_mem_cons.2 ⟨hmode, hstack⟩) .broken
  | afterField fields => exact all_abandon _ hstack (all_object_reverse hmode)
  | word rest value => exact all_abandon _ hstack .broken
  | number n => exact all_abandon _ hstack .broken
  | string text => exact all_abandon _ hstack .string
  | keyString fields text =>
    exact all_abandon _ (List.forall_mem_cons.2 ⟨hmode, hstack⟩) .broken
  | done root => exact hmode
  | surplus root => exact hmode
  | stopped root => exact hmode

section Texts

-- The one thing that is asked of the property.
variable (hP : ∀ (n : NumberText) (k : Number), n.value = .ok k → P k)

include hP

/-- **One character keeps the invariant.** -/
theorem all_step {s : State} (h : s.All P) (c : Char) : (step s c).All P := by
  have hstructural := all_structural h c
  obtain ⟨stack, mode⟩ := s
  obtain ⟨hstack, hmode⟩ := h
  cases mode with
  | word rest value =>
    rcases rest with _ | ⟨next, _ | ⟨_, _⟩⟩
    · exact all_structural (all_complete hstack hmode) c
    · simp only [step]
      split_ifs
      · exact all_complete hstack hmode
      · exact all_stop _ hstack .broken
    · simp only [step]
      split_ifs
      · exact ⟨hstack, hmode⟩
      · exact all_stop _ hstack .broken
  | number n =>
    simp only [step]
    split
    · exact ⟨hstack, trivial⟩
    · exact all_structural (all_complete hstack (.number (hP n))) c
    · exact all_stop _ hstack .broken
  | string text =>
    simp only [step]
    split
    · exact ⟨hstack, trivial⟩
    · exact all_complete hstack .string
    · exact all_stop _ hstack .string
  | keyString fields text =>
    simp only [step]
    split
    · exact ⟨hstack, hmode⟩
    · exact ⟨hstack, hmode⟩
    · exact all_stop _ (List.forall_mem_cons.2 ⟨hmode, hstack⟩) .broken
  | surplus root => exact ⟨hstack, hmode⟩
  | stopped root => exact ⟨hstack, hmode⟩
  | _ => exact hstructural

theorem all_foldl (text : List Char) {s : State} (h : s.All P) : (text.foldl step s).All P := by
  induction text generalizing s with
  | nil => exact h
  | cons c text ih => exact ih (all_step hP h c)

theorem all_finish {s : State} (h : s.All P) : s.finish.root.All P := by
  have hcut := all_cut h
  obtain ⟨stack, mode⟩ := s
  cases mode with
  | number n =>
    simp only [finish]
    split_ifs with hcomplete
    · exact all_cut (all_complete h.stack (.number (hP n)))
    · rw [NumberText.draftAtEnd, if_neg hcomplete]
      exact all_abandon _ h.stack (.number (by simp))
  | _ => exact hcut

/-- What is read of any text. -/
theorem all_ofText (text : List Char) : (Document.ofText text).root.All P := by
  have hinitial : initial.All P := ⟨by simp [initial], trivial⟩
  exact all_finish hP (all_foldl hP text hinitial)

end Texts

end State

/-! ## Trees -/

section Trees

variable {P : Number → Prop}

mutual

/-- The tree of a draft. -/
theorem all_of_tree : (d : Draft) → ∀ {n : Nat} {j : Json}, d.All P → Reader.tree n d = .ok j →
    j.All P
  | .broken fault, n, j, _, h => by simp [Reader.tree] at h
  | .null, n, j, _, h => by
    obtain rfl : Json.null = j := by simpa [Reader.tree] using h
    exact .null
  | .bool b, n, j, _, h => by
    obtain rfl : Json.bool b = j := by simpa [Reader.tree] using h
    exact .bool
  | .number leaf, n, j, .number hleaf, h => by
    rw [Reader.tree, map_eq_ok_iff] at h
    obtain ⟨k, hk, rfl⟩ := h
    refine .number (hleaf k ?_)
    cases hkept : leaf.kept with
    | ok kept => simpa [Leaf.get, hkept, Except.mapError] using hk
    | error fault => simp [Leaf.get, hkept, Except.mapError] at hk
  | .string leaf, n, j, _, h => by
    rw [Reader.tree, map_eq_ok_iff] at h
    obtain ⟨s, -, rfl⟩ := h
    exact .string
  | .array items ending, 0, j, _, h => by simp [Reader.tree] at h
  | .array items ending, n + 1, j, .array hitems, h => by
    simp only [Reader.tree, bind_eq_ok_iff, pure, Except.pure, Except.ok.injEq] at h
    obtain ⟨values, hvalues, -, -, rfl⟩ := h
    exact .array (all_of_treeItems items hitems hvalues)
  | .object fields ending, 0, j, _, h => by simp [Reader.tree] at h
  | .object fields ending, n + 1, j, .object hfields, h => by
    simp only [Reader.tree, bind_eq_ok_iff, pure, Except.pure, Except.ok.injEq] at h
    obtain ⟨values, hvalues, -, -, rfl⟩ := h
    exact .object (all_of_treeFields fields hfields hvalues)

theorem all_of_treeItems : (items : List Draft) → ∀ {n : Nat} {values : List Json},
    (∀ d ∈ items, d.All P) → Reader.treeItems n items = .ok values → ∀ j ∈ values, j.All P
  | [], n, values, _, h => by
    obtain rfl : [] = values := by simpa [Reader.treeItems] using h
    simp
  | item :: rest, n, values, hitems, h => by
    simp only [Reader.treeItems, bind_eq_ok_iff, pure, Except.pure, Except.ok.injEq] at h
    obtain ⟨value, hvalue, more, hmore, rfl⟩ := h
    obtain ⟨hitem, hrest⟩ := List.forall_mem_cons.1 hitems
    exact List.forall_mem_cons.2 ⟨all_of_tree item hitem hvalue, all_of_treeItems rest hrest hmore⟩

theorem all_of_treeFields : (fields : List (Leaf String × Draft)) →
    ∀ {n : Nat} {values : List (String × Json)}, (∀ field ∈ fields, field.2.All P) →
    Reader.treeFields n fields = .ok values → ∀ field ∈ values, field.2.All P
  | [], n, values, _, h => by
    obtain rfl : [] = values := by simpa [Reader.treeFields] using h
    simp
  | (key, item) :: rest, n, values, hfields, h => by
    simp only [Reader.treeFields, bind_eq_ok_iff, pure, Except.pure, Except.ok.injEq] at h
    obtain ⟨name, -, value, hvalue, more, hmore, rfl⟩ := h
    obtain ⟨hitem, hrest⟩ := List.forall_mem_cons.1 hfields
    exact List.forall_mem_cons.2 ⟨all_of_tree item hitem hvalue, all_of_treeFields rest hrest hmore⟩

end

/-- Sorting fields makes no new ones. -/
theorem mem_insertField {α : Type} {key : String} {value : α} {fields : List (String × α)}
    {field : String × α} (h : field ∈ insertField key value fields) :
    field = (key, value) ∨ field ∈ fields := by
  induction fields with
  | nil => exact Or.inl (List.mem_singleton.1 h)
  | cons first rest ih =>
    rw [insertField] at h
    split_ifs at h <;> grind

theorem mem_sortFields {α : Type} {fields : List (String × α)} {field : String × α}
    (h : field ∈ sortFields fields) : field ∈ fields := by
  have hfold : ∀ (fields sorted : List (String × α)),
      field ∈ fields.foldl (fun sorted field => insertField field.1 field.2 sorted) sorted →
        field ∈ sorted ∨ field ∈ fields := by
    intro fields
    induction fields with
    | nil => exact fun _ h => Or.inl h
    | cons first rest ih =>
      intro sorted h
      rcases ih _ h with hsorted | hrest
      · rcases mem_insertField hsorted with rfl | hmem
        · exact Or.inr List.mem_cons_self
        · exact Or.inl hmem
      · exact Or.inr (List.mem_cons_of_mem _ hrest)
  exact (hfold fields [] h).resolve_left (by simp)

mutual

/-- The tree with its keys sorted. -/
theorem all_sorted : {j : Json} → j.All P → j.sorted.All P
  | .null, h => h
  | .bool _, h => h
  | .number _, h => h
  | .string _, h => h
  | .array _, .array hitems => .array (all_sortedItems hitems)
  | .object _, .object hfields =>
    .object fun field hfield => all_sortedFields hfields field (mem_sortFields hfield)

theorem all_sortedItems : {items : List Json} → (∀ j ∈ items, j.All P) →
    ∀ j ∈ sortedItems items, j.All P
  | [], h => h
  | item :: rest, h => by
    obtain ⟨hitem, hrest⟩ := List.forall_mem_cons.1 h
    exact List.forall_mem_cons.2 ⟨all_sorted hitem, all_sortedItems hrest⟩

theorem all_sortedFields : {fields : List (String × Json)} → (∀ field ∈ fields, field.2.All P) →
    ∀ field ∈ sortedFields fields, field.2.All P
  | [], h => h
  | (key, value) :: rest, h => by
    obtain ⟨hvalue, hrest⟩ := List.forall_mem_cons.1 h
    exact List.forall_mem_cons.2 ⟨all_sorted hvalue, all_sortedFields hrest⟩

end

mutual

/-- The draft of a tree. -/
theorem all_toDraft : {j : Json} → j.All P → j.toDraft.All P
  | .null, _ => .null
  | .bool _, _ => .bool
  | .number n, .number hn => .number (by rintro k ⟨⟩; exact hn)
  | .string _, _ => .string
  | .array _, .array hitems => .array (all_itemDrafts hitems)
  | .object _, .object hfields => .object (all_fieldDrafts hfields)

theorem all_itemDrafts : {items : List Json} → (∀ j ∈ items, j.All P) →
    ∀ d ∈ itemDrafts items, d.All P
  | [], _ => by simp [itemDrafts]
  | item :: rest, h => by
    obtain ⟨hitem, hrest⟩ := List.forall_mem_cons.1 h
    exact List.forall_mem_cons.2 ⟨all_toDraft hitem, all_itemDrafts hrest⟩

theorem all_fieldDrafts : {fields : List (String × Json)} → (∀ field ∈ fields, field.2.All P) →
    ∀ field ∈ fieldDrafts fields, field.2.All P
  | [], _ => by simp [fieldDrafts]
  | (key, value) :: rest, h => by
    obtain ⟨hvalue, hrest⟩ := List.forall_mem_cons.1 h
    exact List.forall_mem_cons.2 ⟨all_toDraft hvalue, all_fieldDrafts hrest⟩

end

/-- **Every number of a parsed text has the property.** -/
theorem all_of_parse (hP : ∀ (n : NumberText) (k : Number), n.value = .ok k → P k) {text : String}
    {j : Json} (h : parse text = .ok j) : j.All P := by
  simp only [parse, read, bind_eq_ok_iff, Reader.sortedTree, map_eq_ok_iff] at h
  obtain ⟨_, ⟨tree, htree, rfl⟩, hsurplus⟩ := h
  split at hsurplus
  · simp at hsurplus
  · obtain rfl := Except.ok.inj hsurplus
    exact all_sorted (all_of_tree _ (State.all_ofText hP text.toList) htree)

end Trees

/-! ## Readers -/

namespace Reader

variable {α β σ : Type} {P : Number → Prop}

/-- What the reader makes of a draft whose numbers have the property `P` satisfies `Q`. -/
def Yields (P : Number → Prop) (read : Reader α) (Q : α → Prop) : Prop :=
  ∀ depth d a, d.All P → read depth d = .ok a → Q a

theorem refuse_ne_ok (expected : String) (d : Draft) (a : α) : refuse expected d ≠ .ok a := by
  cases d with
  | bool b => cases b <;> simp [refuse]
  | number leaf => cases h : leaf.get <;> simp [refuse, h, Except.bind]
  | string leaf => cases h : leaf.get <;> simp [refuse, h, Except.bind]
  | _ => simp [refuse]

theorem yields_sortedTree : Yields P sortedTree (Json.All P) := by
  intro depth d a hd h
  obtain ⟨tree, htree, rfl⟩ := map_eq_ok_iff.1 h
  exact all_sorted (all_of_tree d hd htree)

theorem yields_optional {read : Reader α} {Q : α → Prop} (hread : Yields P read Q) :
    Yields P (optional read) (fun value => ∀ a, value = some a → Q a) := by
  rintro depth d value hd h a rfl
  cases d with
  | null => simp [optional] at h
  | _ =>
    obtain ⟨b, hb, hsome⟩ := map_eq_ok_iff.1 h
    obtain rfl := Option.some.inj hsome
    exact hread depth _ b hd hb

theorem yields_list {read : Reader α} {Q : α → Prop} (hread : Yields P read Q) :
    Yields P (list read) (fun values => ∀ a ∈ values, Q a) := by
  intro depth d values hd h
  cases d with
  | array items ending =>
    cases depth with
    | zero => simp [list] at h
    | succ depth =>
      have hitems : ∀ d ∈ items, d.All P := by cases hd; assumption
      simp only [list, bind_eq_ok_iff, pure, Except.pure, Except.ok.injEq, mapM_eq_ok_iff] at h
      obtain ⟨_, hmade, -, -, rfl⟩ := h
      clear hd
      induction hmade with
      | nil => simp
      | cons hfirst _ ih =>
        obtain ⟨hitem, hrest⟩ := List.forall_mem_cons.1 hitems
        exact List.forall_mem_cons.2 ⟨hread depth _ _ hitem hfirst, ih hrest⟩
  | _ => simp [list, refuse_ne_ok] at h

/-- A field that is read and then set keeps what setting it keeps. -/
theorem yields_slot {name : String} {read : Reader β} {set : σ → β → σ} {Q : β → Prop}
    {I : σ → Prop} (hread : Yields P read Q) (hset : ∀ s b, I s → Q b → I (set s b)) (s : σ)
    (hs : I s) : Yields P ((Slot.of name read set).put s) I := by
  intro depth d s' hd h
  obtain ⟨b, hb, rfl⟩ := map_eq_ok_iff.1 h
  exact hset s b hs (hread depth d b hd hb)

section Record

variable {slots : List (Slot σ)} {I : σ → Prop}

theorem keyedFields_keeps (hslots : ∀ slot ∈ slots, ∀ s, I s → Yields P (slot.put s) I)
    {depth : Nat} {fields : List (Leaf String × Draft)} (hfields : ∀ field ∈ fields, field.2.All P)
    {seen : List String} {s s' : σ} (hs : I s)
    (h : keyedFields slots depth fields seen s = .ok s') : I s' := by
  induction fields generalizing seen s with
  | nil =>
    obtain rfl := Except.ok.inj h
    exact hs
  | cons field rest ih =>
    obtain ⟨key, value⟩ := field
    obtain ⟨hvalue, hrest⟩ := List.forall_mem_cons.1 hfields
    obtain ⟨name, -, ⟨-, h⟩ | ⟨slot, next, hfind, -, hnext, h⟩⟩ := keyedFields_cons_eq_ok h
    · exact ih hrest hs h
    · have hslot := hslots slot (List.mem_of_find?_eq_some hfind) s hs
      exact ih hrest (hslot depth value next hvalue hnext) h

theorem orderedFields_keeps (hslots : ∀ slot ∈ slots, ∀ s, I s → Yields P (slot.put s) I)
    {depth : Nat} {items : List Draft} (hitems : ∀ d ∈ items, d.All P) {s s' : σ} (hs : I s)
    (h : orderedFields depth slots items s = .ok s') : I s' := by
  induction items generalizing slots s with
  | nil =>
    cases slots <;>
      · obtain rfl := Except.ok.inj h
        exact hs
  | cons item items ih =>
    obtain ⟨hitem, hrest⟩ := List.forall_mem_cons.1 hitems
    obtain ⟨slot, others, next, rfl, hnext, h⟩ := orderedFields_cons_eq_ok h
    obtain ⟨hslot, hothers⟩ := List.forall_mem_cons.1 hslots
    exact ih hothers hrest (hslot s hs depth item next hitem hnext) h

/-- **A record keeps what each of its fields keeps**, in either of its forms. -/
theorem yields_record {name : String} {start : σ}
    {finish : (String → ReadError) → σ → Except ReadError α} {Q : α → Prop} (hstart : I start)
    (hslots : ∀ slot ∈ slots, ∀ s, I s → Yields P (slot.put s) I)
    (hfinish : ∀ missing s a, I s → finish missing s = .ok a → Q a) :
    Yields P (record name slots start finish) Q := by
  intro depth d a hd h
  cases d with
  | object fields ending =>
    cases depth with
    | zero => simp [record] at h
    | succ depth =>
      have hfields : ∀ field ∈ fields, field.2.All P := by cases hd; assumption
      obtain ⟨s, hs, h⟩ := record_object_eq_ok h
      exact hfinish _ s a (keyedFields_keeps hslots hfields hstart hs) h
  | array items ending =>
    cases depth with
    | zero => simp [record] at h
    | succ depth =>
      have hitems : ∀ d ∈ items, d.All P := by cases hd; assumption
      obtain ⟨missing, s, hs, h⟩ := record_array_eq_ok h
      exact hfinish missing s a (orderedFields_keeps hslots hitems hstart hs) h
  | _ => simp [record, refuse_ne_ok] at h

end Record

end Reader
end Json
end GameJam
