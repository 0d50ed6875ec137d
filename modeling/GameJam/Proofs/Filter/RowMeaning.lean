import GameJam.Filter.Query
import GameJam.Results.Game
import Mathlib.Data.List.FinRange
import Mathlib.Data.List.Infix

/-!
# What a row of a filter means

A row is compiled to a clause before any record is looked at, and the way to the property that it
names is followed along the path.  This file says what a row asks of a record without either: by
recursion on the tree of properties, each property being asked in turn, and with the tests written
out as statements about the value that is served.

## What is here

* `TextHolds`, `NumberHolds`, `LabelHolds` — what an operator asks of a value, for each kind of
  property.  An operator that the kind does not list asks for nothing.
* `Property.LeafHolds` — what a testable property asks; a value that is unusable for its kind asks
  for nothing.
* `Property.Holds`, `Property.ListHolds` and `Schema.Holds` — what a row asks, on the tree.
* `Schema.holds_iff` — the tree and the compiled clause ask the same.
* `filter_compile_eq_map_positions` — the records that a list of rows keeps are those at the
  positions where every row holds, each once and in order.
-/

set_option autoImplicit false

universe u

namespace GameJam

/-! ## What an operator asks of a value -/

/-- What a text operator asks.  A missing text reads as the empty one, except for a pattern, and a
pattern that cannot be compiled asks for nothing. -/
def TextHolds (operator : Operator) (needle : String) (served : FieldValue) : Prop :=
  let lowerNeedle := Unicode.lowerText needle.toList
  let lowerText := Unicode.lowerText (served.asText?.getD "").toList
  match operator with
  | .contains => lowerNeedle <:+: lowerText
  | .notContains => ¬lowerNeedle <:+: lowerText
  | .startsWith => lowerNeedle <+: lowerText
  | .endsWith => lowerNeedle <:+ lowerText
  | .matchesPattern => ∀ pattern, Pattern.compile? needle = some pattern →
      ∃ text, served.asText? = some text ∧ pattern.occursIn text = true
  | _ => True

/-- What a comparison asks: that a number is served which compares in this way. -/
def NumberHolds (operator : Operator) (operand : Binary64) (served : FieldValue) : Prop :=
  operator ∈ Operator.numeric → ∃ n order, served.asNumber? = some n ∧
    n.compare? (.real operand) = some order ∧ operator.accepts order = true

/-- What a label operator asks.  Where no label is served the absent label stands for one. -/
def LabelHolds (operator : Operator) (label : String) (absentLabel : Option String)
    (served : FieldValue) : Prop :=
  match operator with
  | .contains =>
    (served.hasLabels = true ∧ served.hasLabel label = true) ∨
      (served.hasLabels = false ∧ absentLabel = some label)
  | .notEmpty => served.hasLabels = true
  | .empty => served.hasLabels = false
  | _ => True

/-! ## What a row asks on the tree -/

/-- What a testable property asks of the value served for it: nothing for a text or an enumerated
property without a text that is not empty, or for a numeric one without a finite number. -/
def Property.LeafHolds (property : Property) (operator : Operator) (value : EntryValue)
    (served : FieldValue) : Prop :=
  match property with
  | .text .. => ∀ needle, value.text? = some needle → needle ≠ "" →
      TextHolds operator needle served
  | .numeric .. => ∀ operand, value.finiteNumber? = some operand →
      NumberHolds operator operand served
  | .enumerated _ _ _ absentLabel => ∀ label, value = .text label → label ≠ "" →
      LabelHolds operator label absentLabel served
  | .nested .. => True

mutual

/-- What a row asks once its path has led to a property: `field` is the way there, and `below` are
the names that are left over, which only a nested property looks at. -/
def Property.Holds (entry : Entry) (serve : List String → FieldValue)
    (field below : List String) : Property → Prop
  | .nested _ _ children => Property.ListHolds entry serve field below children
  | leaf => ∀ operator value, entry.operator = some operator.symbol → entry.value = some value →
      leaf.LeafHolds operator value (serve field)

/-- What a row asks of the first of some properties that has the next name of its path; nothing if
there is no further name, if it is empty, or if none of them has it. -/
def Property.ListHolds (entry : Entry) (serve : List String → FieldValue)
    (field path : List String) : List Property → Prop
  | [] => True
  | property :: rest =>
    match path with
    | [] => True
    | name :: below =>
      if name = "" then True
      else if property.name = name then property.Holds entry serve (field ++ [name]) below
      else Property.ListHolds entry serve field path rest

end

/-- What a row asks of a record, `serve` being what the record serves at each path. -/
def Schema.Holds (schema : Schema) (entry : Entry) (serve : List String → FieldValue) : Prop :=
  Property.ListHolds entry serve [] entry.path schema

/-! ## The tests say the same -/

theorem occurs_iff {α : Type u} [BEq α] [LawfulBEq α] (part list : List α) :
    occurs part list = true ↔ part <:+: list := by
  induction list with
  | nil => simp [occurs]
  | cons c rest ih =>
    rw [occurs, Bool.or_eq_true, ih, List.isPrefixOf_iff_prefix, List.infix_cons_iff]

theorem textHolds_iff (operator : Operator) (field : List String) (needle : String)
    (served : FieldValue) (h : operator ∈ Operator.text) :
    TextHolds operator needle served ↔
      ∀ clause, Clause.text? field operator needle = some clause →
        clause.test.passes served = true := by
  simp only [Operator.text, List.mem_cons, List.not_mem_nil, or_false] at h
  rcases h with rfl | rfl | rfl | rfl | rfl
  · simp [TextHolds, Clause.text?, Test.passes, Test.textPasses, occurs_iff]
  · simp [TextHolds, Clause.text?, Test.passes, Test.textPasses, ← occurs_iff]
  · simp [TextHolds, Clause.text?, Test.passes, Test.textPasses]
  · simp [TextHolds, Clause.text?, Test.passes, Test.textPasses]
  · simp [TextHolds, Clause.text?, Test.passes, Option.any_eq_true]

theorem numberHolds_iff (operator : Operator) (field : List String) (operand : Binary64)
    (served : FieldValue) (h : operator ∈ Operator.numeric) :
    NumberHolds operator operand served ↔
      (Clause.numeric field operator (.real operand)).test.passes served = true := by
  simp only [NumberHolds, h, true_imp_iff, Clause.numeric, Test.passes, Option.any_eq_true]
  constructor
  · rintro ⟨n, order, hn, horder, haccepts⟩
    exact ⟨n, hn, order, horder, haccepts⟩
  · rintro ⟨n, hn, order, horder, haccepts⟩
    exact ⟨n, order, hn, horder, haccepts⟩

theorem labelHolds_iff (operator : Operator) (field : List String) (label : String)
    (absentLabel : Option String) (served : FieldValue) (h : operator ∈ Operator.enumerated) :
    LabelHolds operator label absentLabel served ↔
      (Clause.labels field operator label absentLabel).test.passes served = true := by
  simp only [Operator.enumerated, List.mem_cons, List.not_mem_nil, or_false] at h
  rcases h with rfl | rfl | rfl
  · cases hserved : served.hasLabels <;>
      simp [LabelHolds, Clause.labels, Test.passes, Test.labelPasses, hserved]
  · simp [LabelHolds, Clause.labels, Test.passes, Test.labelPasses]
  · simp [LabelHolds, Clause.labels, Test.passes, Test.labelPasses]

/-! An operator that the kind does not list asks for nothing, as it leaves no clause. -/

theorem textHolds_of_not_mem {operator : Operator} {needle : String} {served : FieldValue}
    (h : operator ∉ Operator.text) : TextHolds operator needle served := by
  cases operator <;> simp_all [Operator.text, TextHolds]

theorem labelHolds_of_not_mem {operator : Operator} {label : String}
    {absentLabel : Option String} {served : FieldValue} (h : operator ∉ Operator.enumerated) :
    LabelHolds operator label absentLabel served := by
  cases operator <;> simp_all [Operator.enumerated, LabelHolds]

/-- **A testable property asks what its clause tests**, whichever operator and value it is
given. -/
theorem leafHolds_iff (property : Property) (field : List String) (operator : Operator)
    (value : EntryValue) (served : FieldValue) :
    property.LeafHolds operator value served ↔
      ∀ clause, property.leafClause? field operator value = some clause →
        clause.test.passes served = true := by
  by_cases hoffered : operator ∈ property.operators
  · cases property with
    | text name label =>
      have hmem : operator ∈ Operator.text := hoffered
      simp only [Property.LeafHolds, Property.leafClause?, textHolds_iff operator field _ _ hmem]
      cases value.text? with
      | none => simp
      | some needle => by_cases hneedle : needle = "" <;> simp [hoffered, hneedle]
    | numeric name label input =>
      have hmem : operator ∈ Operator.numeric := hoffered
      simp only [Property.LeafHolds, Property.leafClause?, numberHolds_iff operator field _ _ hmem]
      cases value.finiteNumber? with
      | none => simp
      | some operand => simp [hoffered]
    | enumerated name label values absentLabel =>
      have hmem : operator ∈ Operator.enumerated := hoffered
      simp only [Property.LeafHolds, Property.leafClause?,
        labelHolds_iff operator field _ _ _ hmem]
      cases value with
      | text picked => by_cases hpicked : picked = "" <;> simp [hoffered, hpicked]
      | number x => simp
      | list items => simp
    | nested name label children => simp [Property.LeafHolds, Property.leafClause?]
  · have hnone : property.leafClause? field operator value = none := by
      simp [Property.leafClause?, hoffered]
    simp only [hnone, reduceCtorEq, false_imp_iff, implies_true, iff_true]
    cases property with
    | text => exact fun _ _ _ => textHolds_of_not_mem hoffered
    | numeric => exact fun _ _ hmem => absurd hmem hoffered
    | enumerated => exact fun _ _ _ => labelHolds_of_not_mem hoffered
    | nested => trivial

/-! ## The tree and the way to a property say the same -/

theorem Operator.ofSymbol?_eq_some_iff (s : String) (operator : Operator) :
    Operator.ofSymbol? s = some operator ↔ s = operator.symbol := by
  constructor
  · intro h
    unfold Operator.ofSymbol? at h
    split at h <;> simp_all [Operator.symbol]
    all_goals subst h; rfl
  · rintro rfl
    exact Operator.ofSymbol?_symbol operator

/-- Only the first property of the next name is asked, and only if the name is not empty. -/
theorem listHolds_cons_iff (entry : Entry) (serve : List String → FieldValue)
    (field below : List String) (name : String) (properties : List Property) :
    Property.ListHolds entry serve field (name :: below) properties ↔
      (name ≠ "" → ∀ property, Property.named? properties name = some property →
        property.Holds entry serve (field ++ [name]) below) := by
  induction properties with
  | nil => simp [Property.ListHolds, Property.named?]
  | cons property rest ih =>
    rw [Property.ListHolds]
    by_cases hempty : name = ""
    · simp [hempty]
    · by_cases hname : property.name = name
      · simp [hempty, hname, Property.named?]
      · rw [if_neg hempty, if_neg hname, ih]
        simp [Property.named?, hname]

theorem listHolds_nil (entry : Entry) (serve : List String → FieldValue) (field : List String)
    (properties : List Property) : Property.ListHolds entry serve field [] properties := by
  cases properties <;> simp [Property.ListHolds]

/-- A property that is not nested ends every way. -/
theorem follow_of_not_nested {property : Property} (h : property.isNested = false)
    (below : List String) : property.follow below = (property, 0) := by
  have hchild : ∀ name, property.child? name = none := by
    intro name
    cases property <;> simp_all [Property.child?, Property.children, Property.named?,
      Property.isNested]
  cases below with
  | nil => rfl
  | cons name rest => simp [Property.follow, hchild]

theorem field_of_text? {field : List String} {operator : Operator} {needle : String}
    {clause : Clause} (h : Clause.text? field operator needle = some clause) :
    clause.field = field := by
  unfold Clause.text? at h
  split at h
  · obtain ⟨pattern, -, rfl⟩ := Option.map_eq_some_iff.1 h
    rfl
  · cases h
    rfl

theorem field_of_leafClause? {property : Property} {field : List String} {operator : Operator}
    {value : EntryValue} {clause : Clause}
    (h : property.leafClause? field operator value = some clause) : clause.field = field := by
  unfold Property.leafClause? at h
  split at h
  · cases h
  · split at h
    · obtain ⟨needle, -, hclause⟩ := Option.bind_eq_some_iff.1 h
      split at hclause
      · cases hclause
      · exact field_of_text? hclause
    · obtain ⟨operand, -, rfl⟩ := Option.map_eq_some_iff.1 h
      rfl
    · split at h
      · cases h
      · cases h
        rfl
    · cases h

/-- The operand of a row is a finite number. -/
theorem isFinite_of_finiteNumber? {value : EntryValue} {operand : Binary64}
    (h : value.finiteNumber? = some operand) : operand.isFinite = true := by
  have hguard : ∀ x : Binary64, (if x.isFinite then some x else none) = some operand →
      operand.isFinite = true := by
    intro x hx
    rw [Option.ite_none_right_eq_some] at hx
    exact Option.some_inj.1 hx.2 ▸ hx.1
  cases value with
  | number x => exact hguard x h
  | text s =>
    rw [EntryValue.finiteNumber?] at h
    split at h
    · exact hguard _ h
    · cases h
  | list _ => cases h

/-- The clause of a row at a property, if its operator is known and its value is set. -/
def Property.rowClause? (property : Property) (field : List String) (entry : Entry) :
    Option Clause := do
  let operator ← entry.operator.bind Operator.ofSymbol?
  let value ← entry.value
  property.leafClause? field operator value

theorem rowClause?_eq_some_iff (property : Property) (field : List String) (entry : Entry)
    (clause : Clause) :
    property.rowClause? field entry = some clause ↔
      ∃ operator value, entry.operator = some operator.symbol ∧ entry.value = some value ∧
        property.leafClause? field operator value = some clause := by
  simp [Property.rowClause?, Option.bind_eq_some_iff, Operator.ofSymbol?_eq_some_iff]

theorem rowClause?_nested (name label : String) (children : List Property) (field : List String)
    (entry : Entry) : (Property.nested name label children).rowClause? field entry = none := by
  rw [Option.eq_none_iff_forall_ne_some]
  intro clause h
  obtain ⟨operator, value, -, -, hclause⟩ := (rowClause?_eq_some_iff ..).1 h
  simp [Property.leafClause?, Property.operators] at hclause

/-- At a testable property a row asks what its clause there tests. -/
theorem holds_leaf_iff {property : Property} (hleaf : property.isNested = false) (entry : Entry)
    (serve : List String → FieldValue) (field below : List String) :
    property.Holds entry serve field below ↔
      ∀ clause, property.rowClause? field entry = some clause → clause.holds serve = true := by
  have hholds : property.Holds entry serve field below ↔
      ∀ operator value, entry.operator = some operator.symbol → entry.value = some value →
        property.LeafHolds operator value (serve field) := by
    cases property <;> first | rfl | cases hleaf
  simp only [hholds, rowClause?_eq_some_iff, leafHolds_iff property field]
  constructor
  · rintro h clause ⟨operator, value, hoperator, hvalue, hclause⟩
    rw [Clause.holds, field_of_leafClause? hclause]
    exact h operator value hoperator hvalue clause hclause
  · intro h operator value hoperator hvalue clause hclause
    have hpasses := h clause ⟨operator, value, hoperator, hvalue, hclause⟩
    rwa [Clause.holds, field_of_leafClause? hclause] at hpasses

/-- **The tree and the way along the path agree.**  The induction is on the names that are left
over: each nested property takes one of them, and so does `follow`. -/
theorem holds_iff (entry : Entry) (serve : List String → FieldValue) (below : List String) :
    ∀ (property : Property) (field : List String),
      property.Holds entry serve field below ↔
        ∀ clause, (property.follow below).1.rowClause?
            (field ++ below.take (property.follow below).2) entry = some clause →
          clause.holds serve = true := by
  induction below with
  | nil =>
    intro property field
    cases hnested : property.isNested with
    | false => simpa [Property.follow] using holds_leaf_iff hnested entry serve field []
    | true =>
      obtain ⟨name, label, children, rfl⟩ : ∃ name label children,
          property = .nested name label children := by
        cases property <;> simp_all [Property.isNested]
      simp [Property.Holds, listHolds_nil, Property.follow, rowClause?_nested]
  | cons name rest ih =>
    intro property field
    cases hnested : property.isNested with
    | false =>
      simpa [follow_of_not_nested hnested] using holds_leaf_iff hnested entry serve field _
    | true =>
      obtain ⟨own, label, children, rfl⟩ : ∃ own label children,
          property = .nested own label children := by
        cases property <;> simp_all [Property.isNested]
      rw [Property.Holds, listHolds_cons_iff]
      by_cases hempty : name = ""
      · simp [hempty, Property.follow, rowClause?_nested]
      · cases hchild : Property.named? children name with
        | none =>
          simp [hempty, Property.follow, Property.child?, Property.children, hchild,
            rowClause?_nested]
        | some child =>
          simp [hempty, Property.follow, Property.child?, Property.children, hchild, ih child]

theorem propertyName_of_path {entry : Entry} {name : String} {below : List String}
    (hpath : entry.path = name :: below) :
    entry.propertyName = if name = "" then none else some name := by
  by_cases hempty : name = "" <;>
    simp [Entry.propertyName, Entry.segment, hpath, hempty, Option.filter]

/-- **A row holds on the tree exactly when its clause does**, and always when it has none. -/
theorem Schema.holds_iff (schema : Schema) (entry : Entry) (serve : List String → FieldValue) :
    schema.Holds entry serve ↔
      ∀ clause, schema.compile? entry = some clause → clause.holds serve = true := by
  rw [Schema.Holds]
  cases hpath : entry.path with
  | nil => simp [listHolds_nil, Schema.compile?, Schema.resolve?, hpath]
  | cons name below =>
    rw [listHolds_cons_iff]
    by_cases hempty : name = ""
    · simp [hempty, Schema.compile?, propertyName_of_path hpath]
    · have hcompile : schema.compile? entry = (Property.named? schema name).bind fun property =>
          (property.follow below).1.rowClause?
            (name :: below.take (property.follow below).2) entry := by
        cases hnamed : Property.named? schema name <;>
          simp [Schema.compile?, propertyName_of_path hpath, hempty, hpath, Schema.resolve?,
            hnamed, Property.rowClause?]
      rw [hcompile]
      cases hnamed : Property.named? schema name with
      | none => simp
      | some property => simp [hempty, GameJam.holds_iff entry serve below property]

/-! ## What a filter keeps -/

theorem holds_compile_iff {α : Type u} (schema : Schema) (entries : List Entry)
    (serve : α → List String → FieldValue) (item : α) :
    (Query.compile schema entries).holds serve item = true ↔
      ∀ entry ∈ entries, schema.Holds entry (serve item) := by
  simp only [Query.holds, Query.compile_eq, List.all_eq_true, List.mem_filterMap, Schema.holds_iff]
  constructor
  · exact fun h entry hentry clause hclause => h clause ⟨entry, hentry, hclause⟩
  · rintro h clause ⟨entry, hentry, hclause⟩
    exact h entry hentry clause hclause

/-- What one row keeps. -/
theorem filter_compile_singleton {α : Type u} {serve : α → List String → FieldValue}
    (items : List α) (schema : Schema) (entry : Entry) :
    (Query.compile schema [entry]).filter serve items
      = (schema.compile? entry).elim items fun clause =>
          items.filter fun item => clause.holds (serve item) := by
  rw [Query.filter_eq]
  cases hclause : schema.compile? entry with
  | none => simp [Query.compile_eq, hclause, Query.holds]
  | some clause =>
    have hquery : Query.compile schema [entry] = ⟨[clause]⟩ := by
      simp [Query.compile_eq, hclause]
    rw [hquery]
    exact List.filter_congr fun item _ => Bool.and_true _

/-- **The games that a list of rows keeps** are those at the positions where every row holds on the
tree of properties, each position once and in the order of the list. -/
theorem filter_compile_eq_map_positions (games : List Game) (schema : Schema)
    (entries : List Entry) :
    ∃ positions : List (Fin games.length),
      positions.Pairwise (· < ·) ∧
      (∀ i, i ∈ positions ↔ ∀ entry ∈ entries, schema.Holds entry games[i].serve) ∧
      (Query.compile schema entries).filter Game.serve games = positions.map games.get := by
  let query := Query.compile schema entries
  refine ⟨(List.finRange games.length).filter fun i => query.holds Game.serve games[i], ?_, ?_, ?_⟩
  · exact (List.pairwise_lt_finRange _).filter _
  · intro i
    simp [query, holds_compile_iff]
  · rw [Query.filter_eq]
    conv_lhs => rw [← List.map_get_finRange games, List.filter_map]
    rfl

end GameJam
