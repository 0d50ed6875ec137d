import GameJam.Proofs.Json.FieldReading
import GameJam.Proofs.Json.PartialLeaves

/-!
# What is read is spelled

The reader takes nothing that the grammar does not have: a text from which a tree is parsed is the
text of a spelling.  Together with the reading of spelled texts this says which texts are JSON for
the reader, without a word about the reader.

The reader is followed from the left.  At every place the text behind it is a beginning of spelled
texts — containers that are open, and in the innermost one a value that may be half written — or the
reader has met a fault and no tree comes out any more.  One character keeps this, and at the end of
the text only a whole value is left.

## What is here

* `Opens` — the texts before a value, by the containers around it.
* `State.Spelled` — the invariant, with `spelled_step` and `spelled_foldl`.
* `exists_spelling_of_parse` — **a text that is parsed is spelled**, and `arrayText_compactText` for
  what is written.
-/

set_option autoImplicit false

namespace GameJam
namespace Json

/-! ## Containers part way through -/

/-- The items before another one, each with its comma. -/
def itemsBefore (items : List Spelling) : List Char :=
  items.flatMap fun item => item.text ++ [',']

/-- The fields before another one, each with its comma. -/
def fieldsBefore (fields : List (KeySpelling × Spelling)) : List Char :=
  fields.flatMap fun field => field.1.text ++ (field.2.text ++ [','])

theorem append_itemsText (items : List Spelling) : ∀ first last : Spelling,
    first.text ++ Spelling.itemsText (items ++ [last])
      = itemsBefore (first :: items) ++ (last.text ++ [']']) := by
  induction items with
  | nil => intro first last; simp [itemsBefore, Spelling.itemsText]
  | cons item items ih =>
    intro first last
    rw [List.cons_append, Spelling.itemsText, ih item last]
    simp [itemsBefore]

theorem text_array_append (gap : Gap) (items : List Spelling) (last : Spelling) :
    (Spelling.array gap (items ++ [last])).text
      = '[' :: (gap.1 ++ (itemsBefore items ++ (last.text ++ [']']))) := by
  cases items with
  | nil => simp [Spelling.text, Spelling.itemsText, itemsBefore]
  | cons item items => rw [List.cons_append, Spelling.text, append_itemsText]

theorem append_fieldsText (fields : List (KeySpelling × Spelling)) :
    ∀ first last : KeySpelling × Spelling,
      first.1.text ++ (first.2.text ++ Spelling.fieldsText (fields ++ [last]))
        = fieldsBefore (first :: fields) ++ (last.1.text ++ (last.2.text ++ ['}'])) := by
  induction fields with
  | nil => intro first last; simp [fieldsBefore, Spelling.fieldsText]
  | cons field fields ih =>
    intro first last
    rw [List.cons_append, Spelling.fieldsText, ih field last]
    simp [fieldsBefore]

theorem text_object_append (gap : Gap) (fields : List (KeySpelling × Spelling))
    (last : KeySpelling × Spelling) :
    (Spelling.object gap (fields ++ [last])).text
      = '{' :: (gap.1 ++ (fieldsBefore fields ++ (last.1.text ++ (last.2.text ++ ['}'])))) := by
  cases fields with
  | nil => simp [Spelling.text, Spelling.fieldsText, fieldsBefore]
  | cons field fields => rw [List.cons_append, Spelling.text, append_fieldsText]

mutual

/-- The texts before a value, by the containers around it. -/
inductive Opens : List Frame → List Char → Prop
  | root (gap : Gap) : Opens [] gap.1
  | item {stack : List Frame} {items : List Spelling} {text : List Char} {drafts : List Draft}
    (inside : InArray stack items text) (gap : Gap) : Opens (.array drafts :: stack) (text ++ gap.1)
  | member {stack : List Frame} {fields : List (KeySpelling × Spelling)} {text : List Char}
    {drafts : List (Leaf String × Draft)} {leaf : Leaf String} (inside : InObject stack fields text)
    (key : KeySpelling) (gap : Gap) :
    Opens (.member drafts leaf :: stack) (text ++ (key.text ++ gap.1))

/-- The texts in an array behind some of its items and the comma after them. -/
inductive InArray : List Frame → List Spelling → List Char → Prop
  | intro {stack : List Frame} {before : List Char} (outside : Opens stack before) (gap : Gap)
    (items : List Spelling) : InArray stack items (before ++ '[' :: (gap.1 ++ itemsBefore items))

/-- The texts in an object behind some of its fields and the comma after them. -/
inductive InObject : List Frame → List (KeySpelling × Spelling) → List Char → Prop
  | intro {stack : List Frame} {before : List Char} (outside : Opens stack before) (gap : Gap)
    (fields : List (KeySpelling × Spelling)) :
    InObject stack fields (before ++ '{' :: (gap.1 ++ fieldsBefore fields))

end

/-- No blanks. -/
def Gap.none : Gap :=
  ⟨[], List.forall_mem_nil _⟩

/-- Blanks and one more. -/
def Gap.snoc (gap : Gap) {c : Char} (h : isBlank c = true) : Gap :=
  ⟨gap.1 ++ [c], List.forall_mem_append.2 ⟨gap.2, by simpa using h⟩⟩

section Containers

variable {stack : List Frame} {text : List Char}

theorem Opens.blank (h : Opens stack text) {c : Char} (hc : isBlank c = true) :
    Opens stack (text ++ [c]) := by
  cases h with
  | root gap => exact .root (gap.snoc hc)
  | item inside gap =>
    rw [List.append_assoc]
    exact .item inside (gap.snoc hc)
  | member inside key gap =>
    rw [List.append_assoc, List.append_assoc]
    exact .member inside key (gap.snoc hc)

/-- The bracket of an array that has just been opened. -/
theorem InArray.bracket (h : Opens stack text) : InArray stack [] (text ++ ['[']) := by
  simpa [Gap.none, itemsBefore] using InArray.intro h .none []

theorem InArray.blank (h : InArray stack [] text) {c : Char} (hc : isBlank c = true) :
    InArray stack [] (text ++ [c]) := by
  obtain ⟨outside, gap, -⟩ := h
  simpa [Gap.snoc, itemsBefore] using InArray.intro outside (gap.snoc hc) []

/-- One more item, with its comma. -/
theorem InArray.comma {items : List Spelling} (h : InArray stack items text) (item : Spelling) :
    InArray stack (items ++ [item]) (text ++ item.text ++ [',']) := by
  obtain ⟨outside, gap, -⟩ := h
  simpa [itemsBefore] using InArray.intro outside gap (items ++ [item])

/-- The brace of an object that has just been opened. -/
theorem InObject.brace (h : Opens stack text) : InObject stack [] (text ++ ['{']) := by
  simpa [Gap.none, fieldsBefore] using InObject.intro h .none []

/-- One more field, with its comma. -/
theorem InObject.comma {fields : List (KeySpelling × Spelling)} (h : InObject stack fields text)
    (key : KeySpelling) (value : Spelling) :
    InObject stack (fields ++ [(key, value)]) (text ++ (key.text ++ value.text) ++ [',']) := by
  obtain ⟨outside, gap, -⟩ := h
  simpa [fieldsBefore] using InObject.intro outside gap (fields ++ [(key, value)])

end Containers

/-! ## Faults -/

/-- No tree comes out of the draft, to whatever depth. -/
def Draft.Faulty (d : Draft) : Prop :=
  ∀ depth j, Reader.tree depth d ≠ .ok j

theorem faulty_broken (fault : Fault) : (Draft.broken fault).Faulty := by
  intro depth j h
  cases tree_eq_ok_iff.1 h

theorem faulty_string (s : StringText) (fault : Fault) :
    (Draft.string (s.brokenLeaf fault)).Faulty := by
  intro depth j h
  cases tree_eq_ok_iff.1 h with
  | string hs => simp [StringText.brokenLeaf] at hs

theorem faulty_array (items : List Draft) (fault : Fault) :
    (Draft.array items (some fault)).Faulty := by
  intro depth j h
  cases tree_eq_ok_iff.1 h

theorem faulty_object (fields : List (Leaf String × Draft)) (fault : Fault) :
    (Draft.object fields (some fault)).Faulty := by
  intro depth j h
  cases tree_eq_ok_iff.1 h

/-- Where the text breaks off in a value, it breaks off in the containers around it. -/
theorem faulty_abandon (fault : Fault) {value : Draft} (h : value.Faulty) (stack : List Frame) :
    (State.abandon fault value stack).Faulty := by
  induction stack generalizing value with
  | nil => exact h
  | cons frame stack ih =>
    cases frame with
    | array items => exact ih (faulty_array _ fault)
    | member fields key => exact ih (faulty_object _ fault)

/-! ## The reader -/

namespace State

/-- What has been read is the beginning of a spelling, as far as the mode says, or no tree comes out
of it. -/
def Spelled (s : State) (text : List Char) : Prop :=
  match s.mode with
  | .value => Opens s.stack text
  | .firstItem => InArray s.stack [] text
  | .afterItem _ => ∃ items before, ∃ item : Spelling,
      InArray s.stack items before ∧ text = before ++ item.text
  | .key fields => ∃ members before, ∃ gap : Gap, InObject s.stack members before ∧
      (fields = [] → members = []) ∧ text = before ++ gap.1
  | .colon _ _ => ∃ members before pieces, ∃ lead gap : Gap, InObject s.stack members before ∧
      text = before ++ (lead.1 ++ (quotedPieces pieces ++ gap.1))
  | .afterField fields => ∃ members before, ∃ (key : KeySpelling) (value : Spelling),
      InObject s.stack members before ∧ fields ≠ [] ∧ text = before ++ (key.text ++ value.text)
  | .word rest _ => ∃ before, ∃ value : Spelling, Opens s.stack before ∧ rest ≠ [] ∧
      text ++ rest = before ++ value.text
  | .number n => ∃ before written, Opens s.stack before ∧ NumberText.Spelled n.phase written ∧
      text = before ++ written
  | .string s' => ∃ before written, Opens s.stack before ∧ StringText.Spelled s'.phase written ∧
      text = before ++ '"' :: written
  | .keyString _ s' => ∃ members before written, ∃ lead : Gap, InObject s.stack members before ∧
      StringText.Spelled s'.phase written ∧ text = before ++ (lead.1 ++ '"' :: written)
  | .done _ => ∃ value : Spelling, text = value.text
  | .surplus _ => True
  | .stopped root => root.Faulty

variable {stack : List Frame} {text : List Char}

theorem spelled_stop (fault : Fault) {value : Draft} (h : value.Faulty) :
    (stop fault value stack).Spelled text :=
  faulty_abandon fault h stack

/-- A value that has been spelled is handed to the container around it. -/
theorem spelled_complete (h : Opens stack text) (draft : Draft) (value : Spelling) :
    (complete draft stack).Spelled (text ++ value.text) := by
  cases h with
  | root gap => exact ⟨.spaced gap value .none, by simp [Spelling.text, Gap.none]⟩
  | item inside gap =>
    exact ⟨_, _, .spaced gap value .none, inside, by simp [Spelling.text, Gap.none]⟩
  | member inside key gap =>
    exact ⟨_, _, key, .spaced gap value .none, inside, by simp, by simp [Spelling.text, Gap.none]⟩

theorem spelled_begin (h : Opens stack text) (c : Char) :
    (begin stack c).Spelled (text ++ [c]) := by
  unfold begin
  split_ifs with hquote hbracket hbrace hn ht hf
  · exact ⟨text, [], h, ⟨[], rfl⟩, by rw [hquote]⟩
  · rw [hbracket]
    exact InArray.bracket h
  · rw [hbrace]
    exact ⟨[], _, .none, InObject.brace h, fun _ => rfl, (List.append_nil _).symm⟩
  · exact ⟨text, .null, h, by simp, by simp [hn, Spelling.text]⟩
  · exact ⟨text, .bool true, h, by simp, by simp [ht, Spelling.text]⟩
  · exact ⟨text, .bool false, h, by simp, by simp [hf, Spelling.text]⟩
  · split
    · rename_i n hstart
      exact ⟨text, [c], h, NumberText.spelled_start hstart, rfl⟩
    · exact spelled_stop _ (faulty_broken _)

/-! ### One character outside of numbers, words and strings -/

theorem spelled_value (h : Opens stack text) (c : Char) :
    (structural ⟨stack, .value⟩ c).Spelled (text ++ [c]) := by
  by_cases hblank : isBlank c = true
  · rw [structural, if_pos hblank]
    exact Opens.blank h hblank
  · rw [structural, if_neg hblank]
    exact spelled_begin h c

theorem spelled_firstItem (h : InArray stack [] text) (c : Char) :
    (structural ⟨stack, .firstItem⟩ c).Spelled (text ++ [c]) := by
  by_cases hblank : isBlank c = true
  · rw [structural, if_pos hblank]
    exact InArray.blank h hblank
  rw [structural, if_neg hblank]
  dsimp only
  split_ifs with hclose
  · obtain ⟨outside, gap, -⟩ := h
    simpa [hclose, itemsBefore, Spelling.text] using spelled_complete outside _ (.array gap [])
  · have hopens : Opens (.array [] :: stack) _ := .item h .none
    rw [Gap.none, List.append_nil] at hopens
    exact spelled_begin hopens c

theorem spelled_afterItem {items : List Spelling} {drafts : List Draft}
    (h : InArray stack items text) (item : Spelling) (c : Char) :
    (structural ⟨stack, .afterItem drafts⟩ c).Spelled (text ++ item.text ++ [c]) := by
  by_cases hblank : isBlank c = true
  · rw [structural, if_pos hblank]
    exact ⟨items, text, .spaced .none item (Gap.none.snoc hblank), h,
      by simp [Spelling.text, Gap.none, Gap.snoc]⟩
  rw [structural, if_neg hblank]
  dsimp only [between]
  split_ifs with hcomma hclose
  · have hopens : Opens (.array drafts :: stack) _ := .item (h.comma item) .none
    rw [Gap.none, List.append_nil] at hopens
    rw [hcomma]
    exact hopens
  · obtain ⟨outside, gap, -⟩ := h
    have hcomplete := spelled_complete outside (.array drafts.reverse none)
      (.array gap (items ++ [item]))
    simpa [hclose, text_array_append] using hcomplete
  · exact spelled_stop _ (faulty_array _ _)

theorem spelled_key {members : List (KeySpelling × Spelling)}
    {fields : List (Leaf String × Draft)} (h : InObject stack members text)
    (hfields : fields = [] → members = []) (gap : Gap) (c : Char) :
    (structural ⟨stack, .key fields⟩ c).Spelled (text ++ gap.1 ++ [c]) := by
  by_cases hblank : isBlank c = true
  · rw [structural, if_pos hblank]
    exact ⟨members, text, gap.snoc hblank, h, hfields, List.append_assoc ..⟩
  rw [structural, if_neg hblank]
  dsimp only
  split_ifs with hquote hclose
  · exact ⟨members, text, [], gap, h, ⟨[], rfl⟩, by simp [hquote]⟩
  · -- A brace closes an object only if it has no fields: none may follow a comma.
    obtain rfl := hfields (List.isEmpty_iff.1 hclose.2)
    obtain ⟨outside, lead, -⟩ := h
    have hcomplete := spelled_complete outside (.object [] none)
      (.object ⟨lead.1 ++ gap.1, List.forall_mem_append.2 ⟨lead.2, gap.2⟩⟩ [])
    simpa [hclose.1, fieldsBefore, Spelling.text] using hcomplete
  · exact spelled_stop _ (faulty_object _ _)

theorem spelled_colon {members : List (KeySpelling × Spelling)}
    {fields : List (Leaf String × Draft)} {key : Leaf String} (h : InObject stack members text)
    (pieces : List Piece) (lead gap : Gap) (c : Char) :
    (structural ⟨stack, .colon fields key⟩ c).Spelled
      (text ++ (lead.1 ++ (quotedPieces pieces ++ gap.1)) ++ [c]) := by
  by_cases hblank : isBlank c = true
  · rw [structural, if_pos hblank]
    exact ⟨members, text, pieces, lead, gap.snoc hblank, h, by simp [Gap.snoc]⟩
  rw [structural, if_neg hblank]
  dsimp only
  split_ifs with hcolon
  · have hopens : Opens (.member fields key :: stack) _ := .member h ⟨lead, pieces, gap⟩ .none
    simp only [KeySpelling.text, Gap.none, List.append_nil, ← List.append_assoc] at hopens
    simp only [hcolon, ← List.append_assoc]
    exact hopens
  · exact spelled_stop _ (faulty_broken _)

theorem spelled_afterField {members : List (KeySpelling × Spelling)}
    {fields : List (Leaf String × Draft)} (h : InObject stack members text) (hfields : fields ≠ [])
    (key : KeySpelling) (value : Spelling) (c : Char) :
    (structural ⟨stack, .afterField fields⟩ c).Spelled
      (text ++ (key.text ++ value.text) ++ [c]) := by
  by_cases hblank : isBlank c = true
  · rw [structural, if_pos hblank]
    exact ⟨members, text, key, .spaced .none value (Gap.none.snoc hblank), h, hfields,
      by simp [Spelling.text, Gap.none, Gap.snoc]⟩
  rw [structural, if_neg hblank]
  dsimp only [between]
  split_ifs with hcomma hclose
  · rw [hcomma]
    exact ⟨_, _, .none, h.comma key value, fun hnil => absurd hnil hfields,
      (List.append_nil _).symm⟩
  · obtain ⟨outside, gap, -⟩ := h
    have hcomplete := spelled_complete outside (.object fields.reverse none)
      (.object gap (members ++ [(key, value)]))
    simpa [hclose, text_object_append] using hcomplete
  · exact spelled_stop _ (faulty_object _ _)

theorem spelled_done (root : Draft) (value : Spelling) (c : Char) :
    (structural ⟨stack, .done root⟩ c).Spelled (value.text ++ [c]) := by
  by_cases hblank : isBlank c = true
  · rw [structural, if_pos hblank]
    exact ⟨.spaced .none value (Gap.none.snoc hblank), by simp [Spelling.text, Gap.none, Gap.snoc]⟩
  · rw [structural, if_neg hblank]
    exact trivial

/-- Behind a value that a character has ended. -/
theorem spelled_behind (h : Opens stack text) (draft : Draft) (value : Spelling) (c : Char) :
    (structural (complete draft stack) c).Spelled (text ++ value.text ++ [c]) := by
  have hcomplete := spelled_complete h draft value
  match stack, hcomplete with
  | [], ⟨value, htext⟩ =>
    rw [htext]
    exact spelled_done draft value c
  | .array _ :: _, ⟨_, _, item, inside, htext⟩ =>
    rw [htext]
    exact spelled_afterItem inside item c
  | .member _ _ :: _, ⟨_, _, key, value, inside, hfields, htext⟩ =>
    rw [htext]
    exact spelled_afterField inside hfields key value c

/-- **One more character** keeps what has been read spelled. -/
theorem spelled_step {s : State} (h : s.Spelled text) (c : Char) :
    (s.step c).Spelled (text ++ [c]) := by
  obtain ⟨stack, mode⟩ := s
  cases mode with
  | value => exact spelled_value h c
  | firstItem => exact spelled_firstItem h c
  | afterItem drafts =>
    obtain ⟨items, before, item, inside, rfl⟩ := h
    exact spelled_afterItem inside item c
  | key fields =>
    obtain ⟨members, before, gap, inside, hfields, rfl⟩ := h
    exact spelled_key inside hfields gap c
  | colon fields key =>
    obtain ⟨members, before, pieces, lead, gap, inside, rfl⟩ := h
    exact spelled_colon inside pieces lead gap c
  | afterField fields =>
    obtain ⟨members, before, key, value, inside, hfields, rfl⟩ := h
    exact spelled_afterField inside hfields key value c
  | word rest draft =>
    obtain ⟨before, value, hopens, hrest, htext⟩ := h
    match rest with
    | [] => exact absurd rfl hrest
    | [last] =>
      simp only [step]
      split_ifs with hlast
      · rw [hlast, htext]
        exact spelled_complete hopens draft value
      · exact spelled_stop _ (faulty_broken _)
    | next :: further :: rest =>
      simp only [step]
      split_ifs with hnext
      · exact ⟨before, value, hopens, by simp, by rw [hnext, ← htext]; simp⟩
      · exact spelled_stop _ (faulty_broken _)
  | number n =>
    obtain ⟨before, written, hopens, hwritten, rfl⟩ := h
    simp only [step]
    cases hpush : n.push c with
    | more next =>
      exact ⟨before, written ++ [c], hopens, NumberText.spelled_push hwritten hpush,
        List.append_assoc ..⟩
    | ended =>
      obtain ⟨spelling, rfl⟩ := NumberText.exists_of_spelled
        (NumberText.isComplete_of_push_ended hpush) hwritten
      exact spelled_behind hopens n.draft (.number spelling) c
    | bad => exact spelled_stop _ (faulty_broken _)
  | string s =>
    obtain ⟨before, written, hopens, hwritten, rfl⟩ := h
    simp only [step]
    cases hpush : s.push c with
    | more next =>
      exact ⟨before, written ++ [c], hopens, StringText.spelled_push hwritten hpush, by simp⟩
    | closed next =>
      obtain ⟨rfl, pieces, rfl⟩ := StringText.exists_of_push_closed hwritten hpush
      simpa [Spelling.text, quotedPieces] using
        spelled_complete hopens (.string next.leaf) (.string pieces)
    | bad next => exact spelled_stop _ (faulty_string _ _)
  | keyString fields s =>
    obtain ⟨members, before, written, lead, inside, hwritten, rfl⟩ := h
    simp only [step]
    cases hpush : s.push c with
    | more next =>
      exact ⟨members, before, written ++ [c], lead, inside,
        StringText.spelled_push hwritten hpush, by simp⟩
    | closed next =>
      obtain ⟨rfl, pieces, rfl⟩ := StringText.exists_of_push_closed hwritten hpush
      exact ⟨members, before, pieces, lead, .none, inside, by simp [quotedPieces, Gap.none]⟩
    | bad next => exact spelled_stop _ (faulty_broken _)
  | done root =>
    obtain ⟨value, rfl⟩ := h
    exact spelled_done root value c
  | surplus root => exact trivial
  | stopped root => exact h

/-- **What has been read is always spelled**, by induction on what comes. -/
theorem spelled_foldl (rest : List Char) : ∀ {s : State} {text : List Char}, s.Spelled text →
    (rest.foldl step s).Spelled (text ++ rest) := by
  induction rest with
  | nil => exact fun h => by simpa using h
  | cons c rest ih =>
    intro s text h
    have hrest := ih (spelled_step h c)
    rwa [List.append_assoc, List.singleton_append] at hrest

/-! ### The end of the text -/

/-- Where the text ends and a tree comes out, it is a value that has ended. -/
theorem exists_spelling_of_cut {s : State} (h : s.Spelled text) {depth : Nat} {j : Json}
    (hsurplus : s.cut.surplus = false) (htree : Reader.tree depth s.cut.root = .ok j) :
    ∃ value : Spelling, text = value.text := by
  obtain ⟨stack, mode⟩ := s
  have hfault : ∀ {value : Draft}, value.Faulty →
      Reader.tree depth (abandon .truncated value stack) ≠ .ok j :=
    fun hvalue => faulty_abandon _ hvalue stack depth j
  cases mode with
  | done root => exact h
  | surplus root => cases hsurplus
  | stopped root => exact absurd htree (h depth j)
  | firstItem => exact absurd htree (hfault (faulty_array _ _))
  | afterItem items => exact absurd htree (hfault (faulty_array _ _))
  | key fields => exact absurd htree (hfault (faulty_object _ _))
  | afterField fields => exact absurd htree (hfault (faulty_object _ _))
  | string s => exact absurd htree (hfault (faulty_string _ _))
  | colon fields key =>
    exact absurd htree (faulty_abandon _ (faulty_broken _) (.member fields key :: stack) depth j)
  | keyString fields s =>
    exact absurd htree (faulty_abandon _ (faulty_broken _) (.member fields _ :: stack) depth j)
  | _ => exact absurd htree (hfault (faulty_broken _))

theorem exists_spelling_of_finish {s : State} (h : s.Spelled text) {depth : Nat} {j : Json}
    (hsurplus : s.finish.surplus = false) (htree : Reader.tree depth s.finish.root = .ok j) :
    ∃ value : Spelling, text = value.text := by
  obtain ⟨stack, mode⟩ := s
  cases mode with
  | number n =>
    obtain ⟨before, written, hopens, hwritten, rfl⟩ := h
    by_cases hcomplete : n.isComplete = true
    · obtain ⟨spelling, rfl⟩ := NumberText.exists_of_spelled hcomplete hwritten
      have hspelled := spelled_complete hopens n.draft (.number spelling)
      simp only [finish, hcomplete, if_true] at hsurplus htree
      exact exists_spelling_of_cut hspelled hsurplus htree
    · have hfaulty : n.draftAtEnd.Faulty := by
        intro depth j
        simp [NumberText.draftAtEnd, hcomplete, Reader.tree, Leaf.get, Except.mapError, Except.map]
      simp only [finish, hcomplete] at htree
      exact absurd htree (faulty_abandon _ hfaulty stack depth j)
  | _ => exact exists_spelling_of_cut h hsurplus htree

end State

/-- **A text that is parsed is spelled**: the reader takes nothing but JSON. -/
theorem exists_spelling_of_parse {text : String} {j : Json} (h : parse text = .ok j) :
    ∃ s : Spelling, text.toList = s.text := by
  rw [parse, read] at h
  obtain ⟨value, hvalue, hend⟩ := bind_eq_ok_iff.1 h
  obtain ⟨tree, htree, -⟩ := map_eq_ok_iff.1 hvalue
  have hsurplus : (Document.ofText text.toList).surplus = false := by
    cases hs : (Document.ofText text.toList).surplus with
    | false => rfl
    | true => simp [hs] at hend
  have hinitial : State.initial.Spelled [] := Opens.root .none
  have hspelled := State.spelled_foldl text.toList hinitial
  exact State.exists_spelling_of_finish hspelled hsurplus htree

/-- The one line on which an array is written is one of its spellings. -/
theorem arrayText_compactText {items : List Json} (h : (Json.array items).depth ≤ depthLimit) :
    ArrayText (items.map fun j => j.asRead.toDraft) (Json.array items).compactText := by
  obtain ⟨s, htext⟩ := exists_spelling_of_parse (parse_compactText h)
  have hread := ofText_text s
  rw [← htext, compactText, String.toList_ofList, ofText_compact, Document.mk.injEq] at hread
  refine ⟨s, htext, ?_⟩
  rw [← hread.1, asRead, toDraft, itemsAsRead_eq_map, itemDrafts_eq_map, List.map_map]
  rfl

end Json
end GameJam
