import GameJam.Json.Read
import GameJam.Proofs.Json.NumberReading

/-!
# Reading a written tree

A tree that is written on one line is read back as it was, numbers apart that have no text of their
own.  The reader goes through the text with the containers around the place on a stack, so the
statement about one value is made for every stack, and the values in a container are read one after
another with the container on top of it.

A number has not ended when its last digit has been read, so what is said of a value is that
*whatever follows* finds it complete: `Behind` is that relation.

## What is here

* `Json.asRead` — the tree that is read where a tree was written.
* `foldl_string` and `foldl_keyString` — strings, as values and as keys; `foldl_quote` and
  `foldl_key` for those that are written.
* `behind_compact` — **a written value is read whole**, on any stack.
* `tree_toDraft` — the draft in which nothing is wrong is the tree, if it is not too deep.
* `parse_compactText` — **a written tree is parsed as it was written**, with its keys sorted.
* `asRead_eq_of_compactText_eq` — trees with the same text are read as the same tree.
-/

set_option autoImplicit false

namespace GameJam
namespace Json

/-! ## What comes back -/

mutual

/-- What is read where a tree was written. -/
def asRead : Json → Json
  | .number n => n.asRead
  | .array items => .array (itemsAsRead items)
  | .object fields => .object (fieldsAsRead fields)
  | .null => .null
  | .bool b => .bool b
  | .string s => .string s

/-- Every item as it is read. -/
def itemsAsRead : List Json → List Json
  | [] => []
  | item :: rest => item.asRead :: itemsAsRead rest

/-- Every field with its value as it is read. -/
def fieldsAsRead : List (String × Json) → List (String × Json)
  | [] => []
  | (key, value) :: rest => (key, value.asRead) :: fieldsAsRead rest

end

mutual

/-- How many containers are nested in a tree. -/
def depth : Json → Nat
  | .array items => itemsDepth items + 1
  | .object fields => fieldsDepth fields + 1
  | .null | .bool _ | .number _ | .string _ => 0

/-- The depth of the deepest item. -/
def itemsDepth : List Json → Nat
  | [] => 0
  | item :: rest => max item.depth (itemsDepth rest)

/-- The depth of the deepest field. -/
def fieldsDepth : List (String × Json) → Nat
  | [] => 0
  | (_, value) :: rest => max value.depth (fieldsDepth rest)

end

theorem Number.depth_asRead (n : Number) : n.asRead.depth = 0 := by
  cases n <;> simp only [Number.asRead] <;> (try split) <;> simp only [depth]

mutual

@[simp] theorem depth_asRead : (j : Json) → j.asRead.depth = j.depth
  | .number n => by rw [asRead, Number.depth_asRead, depth]
  | .array items => by rw [asRead, depth, depth, itemsDepth_itemsAsRead items]
  | .object fields => by rw [asRead, depth, depth, fieldsDepth_fieldsAsRead fields]
  | .null => rfl
  | .bool _ => rfl
  | .string _ => rfl

theorem itemsDepth_itemsAsRead : (items : List Json) →
    itemsDepth (itemsAsRead items) = itemsDepth items
  | [] => rfl
  | item :: rest => by
    rw [itemsAsRead, itemsDepth, itemsDepth, depth_asRead item, itemsDepth_itemsAsRead rest]

theorem fieldsDepth_fieldsAsRead : (fields : List (String × Json)) →
    fieldsDepth (fieldsAsRead fields) = fieldsDepth fields
  | [] => rfl
  | (key, value) :: rest => by
    rw [fieldsAsRead, fieldsDepth, fieldsDepth, depth_asRead value, fieldsDepth_fieldsAsRead rest]

end

theorem itemsAsRead_eq_map (items : List Json) : itemsAsRead items = items.map asRead := by
  induction items with
  | nil => rfl
  | cons item rest ih => rw [itemsAsRead, ih, List.map_cons]

theorem sortedItems_eq_map (items : List Json) : sortedItems items = items.map sorted := by
  induction items with
  | nil => rfl
  | cons item rest ih => rw [sortedItems, ih, List.map_cons]

theorem itemDrafts_eq_map (items : List Json) : itemDrafts items = items.map toDraft := by
  induction items with
  | nil => rfl
  | cons item rest ih => rw [itemDrafts, ih, List.map_cons]

theorem itemsDepth_le {items : List Json} {n : Nat} (h : ∀ j ∈ items, j.depth ≤ n) :
    itemsDepth items ≤ n := by
  induction items with
  | nil => exact Nat.zero_le n
  | cons item rest ih =>
    obtain ⟨hitem, hrest⟩ := List.forall_mem_cons.1 h
    exact Nat.max_le.2 ⟨hitem, ih hrest⟩

/-! ## Strings -/

section Strings

variable {stack : List Frame}

/-- The string after characters that all belong to it. -/
def StringText.takes (s : StringText) : List Char → Option StringText
  | [] => some s
  | c :: rest =>
    match s.push c with
    | .more s => s.takes rest
    | _ => none

/-- Sixteen digits, one byte each. -/
theorem hexValue?_hexDigit :
    ∀ d < 16, hexValue? (hexDigit d) = some d ∧ (hexDigit d).utf8Size = 1 := by
  decide

/-- A character below U+0020 that has no letter of its own. -/
theorem takes_unicode (chars : List Char) {n : Nat} (h : n < 0x20) :
    StringText.takes { chars } ['\\', 'u', '0', '0', hexDigit (n / 16), hexDigit (n % 16)]
      = some { chars := Char.ofNat n :: chars } := by
  have hopen : ∀ tail, StringText.takes { chars } ('\\' :: 'u' :: '0' :: '0' :: tail)
      = StringText.takes { chars, phase := .hex 2 0 true } tail := fun _ => rfl
  have hvalue : 16 * (n / 16) + n % 16 = n := Nat.div_add_mod n 16
  have hunit : ¬(0xDC00 ≤ n ∧ n ≤ 0xDFFF) ∧ ¬(0xD800 ≤ n ∧ n ≤ 0xDBFF) := by omega
  have hhigh := hexValue?_hexDigit (n / 16) (by omega)
  have hlow := hexValue?_hexDigit (n % 16) (by omega)
  rw [hopen]
  simp [StringText.takes, StringText.push, hhigh, hlow, hvalue, StringText.addUnit, hunit,
    StringText.add, StringText.settle]

/-- A written character adds itself. -/
theorem takes_escapeChar (chars : List Char) (c : Char) :
    StringText.takes { chars } (escapeChar c) = some { chars := c :: chars } := by
  unfold escapeChar
  split_ifs with hquote hslash hcontrol
  · rw [hquote]
    rfl
  · rw [hslash]
    rfl
  · have hback := Char.ofNat_toNat c
    split
    case h_6 => rw [takes_unicode chars hcontrol, hback]
    all_goals
      rename_i hc
      rw [hc] at hback
      rw [← hback]
      rfl
  · simp [StringText.takes, StringText.push, hquote, hslash, hcontrol, StringText.add,
      StringText.settle]

theorem StringText.takes_append {s s' : StringText} {text : List Char} (h : s.takes text = some s')
    (more : List Char) : s.takes (text ++ more) = s'.takes more := by
  induction text generalizing s with
  | nil =>
    obtain rfl : s = s' := Option.some.inj h
    rfl
  | cons c text ih =>
    rw [List.cons_append, StringText.takes]
    rw [StringText.takes] at h
    cases hpush : s.push c with
    | more next =>
      rw [hpush] at h
      exact ih h
    | closed next => simp [hpush] at h
    | bad next => simp [hpush] at h

theorem takes_flatMap_escapeChar (text : List Char) : ∀ chars : List Char,
    StringText.takes { chars } (text.flatMap escapeChar)
      = some { chars := text.reverse ++ chars } := by
  induction text with
  | nil => exact fun _ => rfl
  | cons c text ih =>
    intro chars
    rw [List.flatMap_cons, StringText.takes_append (takes_escapeChar chars c), ih,
      List.reverse_cons, List.append_assoc, List.singleton_append]

/-- Strings stand in two places, as values and as keys; `place` is either. -/
theorem foldl_takes (place : StringText → Mode)
    (hplace : ∀ s c next, s.push c = .more next →
      State.step ⟨stack, place s⟩ c = ⟨stack, place next⟩)
    {text : List Char} {s s' : StringText} (h : s.takes text = some s') :
    text.foldl State.step ⟨stack, place s⟩ = ⟨stack, place s'⟩ := by
  induction text generalizing s with
  | nil =>
    obtain rfl : s = s' := Option.some.inj h
    rfl
  | cons c text ih =>
    rw [StringText.takes] at h
    cases hpush : s.push c with
    | more next =>
      rw [hpush] at h
      rw [List.foldl_cons, hplace s c next hpush, ih h]
    | closed next => simp [hpush] at h
    | bad next => simp [hpush] at h

theorem StringText.push_quote {s : StringText} (h : s.phase = .plain) :
    s.push '"' = .closed s.settle := by
  simp [StringText.push, h]

/-- Between its quotes a string is read where a value may stand. -/
theorem foldl_string {text : List Char} {s : StringText} (h : StringText.takes {} text = some s)
    (hphase : s.phase = .plain) :
    ('"' :: (text ++ ['"'])).foldl State.step ⟨stack, .value⟩
      = State.complete (.string s.settle.leaf) stack := by
  have hopen : State.step ⟨stack, .value⟩ '"' = ⟨stack, .string {}⟩ := rfl
  have hclose : State.step ⟨stack, .string s⟩ '"'
      = State.complete (.string s.settle.leaf) stack := by
    simp [State.step, StringText.push_quote hphase]
  rw [List.foldl_cons, hopen, List.foldl_append,
    foldl_takes Mode.string (fun s c next h => by simp [State.step, h]) h, List.foldl_cons, hclose,
    List.foldl_nil]

/-- Between its quotes a string is read where a key may stand. -/
theorem foldl_keyString (fields : List (Leaf String × Draft)) {text : List Char} {s : StringText}
    (h : StringText.takes {} text = some s) (hphase : s.phase = .plain) :
    ('"' :: (text ++ ['"'])).foldl State.step ⟨stack, .key fields⟩
      = ⟨stack, .colon fields s.settle.leaf⟩ := by
  have hopen : State.step ⟨stack, .key fields⟩ '"' = ⟨stack, .keyString fields {}⟩ := rfl
  have hclose : State.step ⟨stack, .keyString fields s⟩ '"'
      = ⟨stack, .colon fields s.settle.leaf⟩ := by
    simp [State.step, StringText.push_quote hphase]
  rw [List.foldl_cons, hopen, List.foldl_append,
    foldl_takes (Mode.keyString fields) (fun s c next h => by simp [State.step, h]) h,
    List.foldl_cons, hclose, List.foldl_nil]

theorem leaf_ofText (s : String) :
    (StringText.settle { chars := s.toList.reverse ++ [] }).leaf = ⟨.ok s, none⟩ := by
  simp [StringText.settle, StringText.leaf]

/-- A string where a value may stand. -/
theorem foldl_quote (s : String) :
    (quote s).foldl State.step ⟨stack, .value⟩ = State.complete (.string ⟨.ok s, none⟩) stack := by
  rw [← leaf_ofText]
  exact foldl_string (takes_flatMap_escapeChar s.toList []) rfl

/-- A string where a key may stand, with the colon behind it. -/
theorem foldl_key (fields : List (Leaf String × Draft)) (s : String) (rest : List Char) :
    (quote s ++ ':' :: rest).foldl State.step ⟨stack, .key fields⟩
      = rest.foldl State.step ⟨.member fields ⟨.ok s, none⟩ :: stack, .value⟩ := by
  have hkey : (quote s).foldl State.step ⟨stack, .key fields⟩
      = ⟨stack, .colon fields ⟨.ok s, none⟩⟩ := by
    rw [← leaf_ofText]
    exact foldl_keyString fields (takes_flatMap_escapeChar s.toList []) rfl
  have hcolon : ∀ key, State.step ⟨stack, .colon fields key⟩ ':'
      = ⟨.member fields key :: stack, .value⟩ := fun _ => rfl
  rw [List.foldl_append, hkey, List.foldl_cons, hcolon]

end Strings

/-! ## Values -/

/-- The reader is behind a value: whatever comes next finds it handed to the container around it. -/
structure Behind (s : State) (value : Draft) (stack : List Frame) : Prop where
  step : ∀ c, ¬goesOn c → s.step c = (State.complete value stack).step c
  finish : s.finish = (State.complete value stack).finish

theorem behind_complete (value : Draft) (stack : List Frame) :
    Behind (State.complete value stack) value stack :=
  ⟨fun _ _ => rfl, rfl⟩

/-- A complete value is followed by a character between values, or by the end. -/
theorem step_complete (value : Draft) (stack : List Frame) (c : Char) :
    (State.complete value stack).step c = (State.complete value stack).structural c := by
  rcases stack with _ | ⟨_ | _, _⟩ <;> rfl

theorem finish_complete (value : Draft) (stack : List Frame) :
    (State.complete value stack).finish = (State.complete value stack).cut := by
  rcases stack with _ | ⟨_ | _, _⟩ <;> rfl

/-- A number that may end is ended by whatever does not belong to it. -/
theorem behind_numberText (stack : List Frame) {n : NumberText} (h : n.isComplete = true) :
    Behind ⟨stack, .number n⟩ n.draft stack := by
  constructor
  · intro c hc
    rw [step_complete]
    simp [State.step, push_of_isComplete h hc]
  · rw [finish_complete]
    simp [State.finish, h]

theorem behind_number (stack : List Frame) (n : Numeral) {value : Number}
    (h : n.numberText.value = .ok value) :
    Behind ⟨stack, .number n.numberText⟩ (.number ⟨.ok value, none⟩) stack := by
  have hdraft : n.numberText.draft = .number ⟨.ok value, none⟩ := by rw [NumberText.draft, h]
  rw [← hdraft]
  exact behind_numberText stack (isComplete_numberText n)

theorem foldl_null (stack : List Frame) :
    "null".toList.foldl State.step ⟨stack, .value⟩ = State.complete .null stack :=
  rfl

theorem foldl_bool (stack : List Frame) (b : Bool) :
    (compact (.bool b)).foldl State.step ⟨stack, .value⟩ = State.complete (.bool b) stack := by
  cases b <;> rfl

theorem behind_writeNumber (stack : List Frame) (n : Number) :
    Behind ((writeNumber n).foldl State.step ⟨stack, .value⟩) n.asRead.toDraft stack := by
  rcases exists_numeral_writeNumber n with
    ⟨numeral, value, htext, hregular, hvalue, hread⟩ | ⟨htext, hread⟩
  · rw [htext, foldl_text hregular, hread]
    exact behind_number stack numeral hvalue
  · rw [htext, foldl_null, hread]
    exact behind_complete _ _

/-- A value begins with a character that is neither a blank nor a closing bracket. -/
theorem exists_cons_compact (j : Json) :
    ∃ c rest, j.compact = c :: rest ∧ isBlank c = false ∧ c ≠ ']' := by
  rcases j with _ | (_ | _) | n | s | (_ | ⟨item, rest⟩) | (_ | ⟨⟨key, value⟩, rest⟩)
  case number =>
    rw [compact]
    rcases exists_numeral_writeNumber n with ⟨numeral, value, htext, hregular, -⟩ | ⟨htext, -⟩
    · obtain ⟨c, rest, hcons, hc⟩ := exists_cons_text hregular
      refine ⟨c, rest, htext.trans hcons, ?_⟩
      rcases hc with rfl | hdigit
      · decide
      · exact ⟨not_isBlank_of_isDigit hdigit, by rintro rfl; exact absurd hdigit (by decide)⟩
    · exact ⟨'n', _, htext, by decide⟩
  all_goals
    rw [compact]
    exact ⟨_, _, rfl, by decide⟩

/-- The first item of an array is read as one behind a comma is. -/
theorem foldl_firstItem (stack : List Frame) (j : Json) :
    j.compact.foldl State.step ⟨stack, .firstItem⟩
      = j.compact.foldl State.step ⟨.array [] :: stack, .value⟩ := by
  obtain ⟨c, rest, htext, hblank, hbracket⟩ := exists_cons_compact j
  have hfirst : State.step ⟨stack, .firstItem⟩ c = State.step ⟨.array [] :: stack, .value⟩ c := by
    simp [State.step, State.structural, hblank, hbracket]
  rw [htext, List.foldl_cons, List.foldl_cons, hfirst]

theorem not_goesOn_between {c : Char} (h : c = ',' ∨ c = ']' ∨ c = '}') : ¬goesOn c := by
  rcases h with rfl | rfl | rfl <;> (unfold goesOn; decide)

mutual

/-- **A written value is read whole.** -/
theorem behind_compact : (j : Json) → ∀ stack : List Frame,
    Behind (j.compact.foldl State.step ⟨stack, .value⟩) j.asRead.toDraft stack
  | .null, stack => by
    rw [compact, foldl_null]
    exact behind_complete _ _
  | .bool b, stack => by
    rw [foldl_bool]
    exact behind_complete _ _
  | .number n, stack => by
    rw [compact, asRead]
    exact behind_writeNumber stack n
  | .string s, stack => by
    rw [compact, foldl_quote]
    exact behind_complete _ _
  | .array [], stack => by
    rw [compact]
    exact behind_complete _ _
  | .array (item :: rest), stack => by
    -- Behind the bracket the array may also end, which the first item rules out.
    have hopen : State.step ⟨stack, .value⟩ '[' = ⟨stack, .firstItem⟩ := rfl
    have hitem := behind_compact item (.array [] :: stack)
    rw [compact, List.foldl_cons, hopen, List.foldl_append, foldl_firstItem,
      foldl_compactItems rest hitem]
    exact behind_complete _ _
  | .object [], stack => by
    rw [compact]
    exact behind_complete _ _
  | .object ((key, value) :: rest), stack => by
    have hopen : State.step ⟨stack, .value⟩ '{' = ⟨stack, .key []⟩ := rfl
    have hvalue := behind_compact value (.member [] ⟨.ok key, none⟩ :: stack)
    rw [compact, List.foldl_cons, hopen, foldl_key, List.foldl_append,
      foldl_compactFields rest hvalue]
    exact behind_complete _ _

/-- The items behind one that has been read, up to the closing bracket. -/
theorem foldl_compactItems : (rest : List Json) → ∀ {s : State} {item : Draft}
    {before : List Draft} {stack : List Frame}, Behind s item (.array before :: stack) →
      (compactItems rest).foldl State.step s
        = State.complete
            (.array ((item :: before).reverse ++ itemDrafts (itemsAsRead rest)) none) stack
  | [], s, item, before, stack, h => by
    have hclose := h.step ']' (not_goesOn_between (Or.inr (Or.inl rfl)))
    rw [compactItems, List.foldl_cons, hclose, itemsAsRead, itemDrafts, List.append_nil]
    rfl
  | next :: rest, s, item, before, stack, h => by
    have hcomma : s.step ',' = ⟨.array (item :: before) :: stack, .value⟩ :=
      h.step ',' (not_goesOn_between (Or.inl rfl))
    have hnext := behind_compact next (.array (item :: before) :: stack)
    rw [compactItems, List.foldl_cons, hcomma, List.foldl_append, foldl_compactItems rest hnext,
      itemsAsRead, itemDrafts, List.reverse_cons, List.append_assoc, List.singleton_append]

/-- The fields behind one that has been read, up to the closing brace. -/
theorem foldl_compactFields : (rest : List (String × Json)) → ∀ {s : State} {value : Draft}
    {before : List (Leaf String × Draft)} {key : Leaf String} {stack : List Frame},
    Behind s value (.member before key :: stack) →
      (compactFields rest).foldl State.step s
        = State.complete (.object
            (((key, value) :: before).reverse ++ fieldDrafts (fieldsAsRead rest)) none) stack
  | [], s, value, before, key, stack, h => by
    have hclose := h.step '}' (not_goesOn_between (Or.inr (Or.inr rfl)))
    rw [compactFields, List.foldl_cons, hclose, fieldsAsRead, fieldDrafts, List.append_nil]
    rfl
  | (nextKey, next) :: rest, s, value, before, key, stack, h => by
    have hcomma : s.step ',' = ⟨stack, .key ((key, value) :: before)⟩ :=
      h.step ',' (not_goesOn_between (Or.inl rfl))
    have hnext := behind_compact next
      (.member ((key, value) :: before) ⟨.ok nextKey, none⟩ :: stack)
    rw [compactFields, List.foldl_cons, hcomma, foldl_key, List.foldl_append,
      foldl_compactFields rest hnext, fieldsAsRead, fieldDrafts, List.reverse_cons,
      List.append_assoc, List.singleton_append]

end

/-- The whole text. -/
theorem ofText_compact (j : Json) : Document.ofText j.compact = ⟨j.asRead.toDraft, false⟩ := by
  rw [Document.ofText, State.initial, (behind_compact j []).finish]
  rfl

/-! ## Trees -/

mutual

/-- A tree whose depth is allowed is read from its draft. -/
theorem tree_toDraft : (j : Json) → ∀ {n : Nat}, j.depth ≤ n → Reader.tree n j.toDraft = .ok j
  | .null, n, _ => by simp only [toDraft, Reader.tree]
  | .bool b, n, _ => by simp only [toDraft, Reader.tree]
  | .number _, n, _ => by
    simp only [toDraft, Reader.tree]
    rfl
  | .string _, n, _ => by
    simp only [toDraft, Reader.tree]
    rfl
  | .array items, 0, h => by simp [depth] at h
  | .array items, n + 1, h => by
    have hitems := treeItems_itemDrafts items (Nat.le_of_succ_le_succ h)
    rw [toDraft, Reader.tree, hitems]
    rfl
  | .object fields, 0, h => by simp [depth] at h
  | .object fields, n + 1, h => by
    have hfields := treeFields_fieldDrafts fields (Nat.le_of_succ_le_succ h)
    rw [toDraft, Reader.tree, hfields]
    rfl

theorem treeItems_itemDrafts : (items : List Json) → ∀ {n : Nat}, itemsDepth items ≤ n →
    Reader.treeItems n (itemDrafts items) = .ok items
  | [], n, _ => by rw [itemDrafts, Reader.treeItems]
  | item :: rest, n, h => by
    rw [itemsDepth, Nat.max_le] at h
    rw [itemDrafts, Reader.treeItems, tree_toDraft item h.1, treeItems_itemDrafts rest h.2]
    rfl

theorem treeFields_fieldDrafts : (fields : List (String × Json)) → ∀ {n : Nat},
    fieldsDepth fields ≤ n → Reader.treeFields n (fieldDrafts fields) = .ok fields
  | [], n, _ => by rw [fieldDrafts, Reader.treeFields]
  | (key, value) :: rest, n, h => by
    rw [fieldsDepth, Nat.max_le] at h
    rw [fieldDrafts, Reader.treeFields, tree_toDraft value h.1, treeFields_fieldDrafts rest h.2]
    rfl

end

/-- **A written tree is parsed as it was written.** -/
theorem parse_compactText {j : Json} (h : j.depth ≤ depthLimit) :
    parse j.compactText = .ok j.asRead.sorted := by
  have htree := tree_toDraft j.asRead (j.depth_asRead.trans_le h)
  rw [parse, read, compactText, String.toList_ofList, ofText_compact, Reader.sortedTree, htree]
  rfl

/-! ## Equal texts -/

/-- A draft in which nothing is wrong is that of one tree only. -/
theorem toDraft_injective : Function.Injective toDraft := by
  intro a b h
  have ha := tree_toDraft a (Nat.le_max_left a.depth b.depth)
  have hb := tree_toDraft b (Nat.le_max_right a.depth b.depth)
  rw [h, hb] at ha
  exact (Except.ok.inj ha).symm

/-- **Trees with the same text are read as the same tree**, however deep they are. -/
theorem asRead_eq_of_compactText_eq {a b : Json} (h : a.compactText = b.compactText) :
    a.asRead = b.asRead := by
  have hcompact : a.compact = b.compact := by
    simpa only [compactText, String.toList_ofList] using congrArg String.toList h
  have hdocument := congrArg Document.ofText hcompact
  rw [ofText_compact, ofText_compact, Document.mk.injEq] at hdocument
  exact toDraft_injective hdocument.1

end Json
end GameJam
