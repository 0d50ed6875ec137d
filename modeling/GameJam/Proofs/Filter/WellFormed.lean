import GameJam.Filter.Query
import GameJam.Proofs.Filter.Descent
import Mathlib.Data.List.Forall2

/-!
# What is compiled is well formed

A test can be put together from any operator and any operand.  The functions that evaluate it have
an answer for each of them, so that an operator of another kind would go unnoticed: a text or a
label test lets all pass then, a comparison nothing.  Whether that ever happens is decided where
rows are compiled, by a single check of the operator and by the way in which each kind of property
reads the value.

Here a compiled clause is compared with its row.  Its field is a part of the path of the row and
leads to a testable property, and its test is of the kind of that property, with an operator and an
operand which that kind has.  So the answers to foreign operators are never given.

## What is here

* `Test.Fits` — what the test of a row is, by the kind of property.
* `Clause.WellFormed` — a clause and the row that it was made for.
* `wellFormed_of_compile?` — **a compiled clause is well formed**.
* `Test.answer?`, `Query.answer?` — evaluation that has no answer to a foreign operator.
* `compiled_wellFormed` — **the clauses of a query stand for rows one by one, are well formed, and
  always have an answer**.
-/

set_option autoImplicit false

universe u

namespace GameJam

/-! ## Where a clause looks -/

theorem follow_take (names : List String) : ∀ property : Property,
    property.follow (names.take (property.follow names).2) = property.follow names := by
  induction names with
  | nil => exact fun _ => rfl
  | cons name rest ih =>
    intro property
    rw [Property.follow]
    split_ifs with hempty
    · rfl
    · cases hchild : property.child? name with
      | none => rfl
      | some child =>
        dsimp only
        rw [List.take_succ_cons, Property.follow, if_neg hempty, hchild]
        dsimp only
        rw [ih child]

theorem follow_le_length (names : List String) : ∀ property : Property,
    (property.follow names).2 ≤ names.length := by
  induction names with
  | nil => exact fun _ => Nat.le_refl 0
  | cons name rest ih =>
    intro property
    rw [Property.follow]
    split_ifs
    · exact Nat.zero_le _
    · split
      · exact Nat.zero_le _
      · exact Nat.succ_le_succ (ih _)

/-- No name that was followed is empty. -/
theorem ne_empty_of_mem_take_follow (names : List String) : ∀ property : Property,
    ∀ name ∈ names.take (property.follow names).2, name ≠ "" := by
  induction names with
  | nil => simp
  | cons name rest ih =>
    intro property
    rw [Property.follow]
    split_ifs with hempty
    · simp
    · split
      · simp
      · exact List.forall_mem_cons.2 ⟨hempty, ih _⟩

/-- The names that a path was resolved by are resolved to the same property, to the last. -/
theorem resolve?_take {schema : Schema} {path : List String} {property : Property} {taken : Nat}
    (h : schema.resolve? path = some (property, taken)) :
    schema.resolve? (path.take taken) = some (property, (path.take taken).length) := by
  cases path with
  | nil => cases h
  | cons name rest =>
    obtain ⟨first, hfirst, hreached⟩ := Option.map_eq_some_iff.1 h
    cases hreached
    have hlength := follow_le_length rest first
    rw [List.take_succ_cons, Schema.resolve?, hfirst, Option.map_some, follow_take rest first,
      List.length_cons, List.length_take, min_eq_left hlength]

/-- None of them is empty, as long as the first is not. -/
theorem ne_empty_of_resolve? {schema : Schema} {entry : Entry} {name : String}
    (hname : entry.propertyName = some name) {property : Property} {taken : Nat}
    (h : schema.resolve? entry.path = some (property, taken)) :
    ∀ part ∈ entry.path.take taken, part ≠ "" := by
  cases hpath : entry.path with
  | nil =>
    rw [hpath] at h
    cases h
  | cons first rest =>
    rw [hpath] at h
    obtain ⟨top, -, hreached⟩ := Option.map_eq_some_iff.1 h
    cases hreached
    have hfirst : first ≠ "" := by
      rintro rfl
      rw [propertyName_of_path hpath, if_pos rfl] at hname
      cases hname
    exact List.forall_mem_cons.2 ⟨hfirst, ne_empty_of_mem_take_follow rest top⟩

/-! ## What a clause tests -/

/-- The test that an operator and a value make for a property. -/
inductive Test.Fits : Property → Operator → EntryValue → Test → Prop
  /-- The needle is the text of the value in lower case. -/
  | text {name label needle : String} {operator : Operator} {value : EntryValue} :
    operator ∈ [.contains, .notContains, .startsWith, .endsWith] →
      value.text? = some needle → needle ≠ "" →
      Fits (.text name label) operator value (.text operator (Unicode.lowerText needle.toList))
  | pattern {name label needle : String} {value : EntryValue} {pattern : Pattern} :
    value.text? = some needle → Pattern.compile? needle = some pattern →
      Fits (.text name label) .matchesPattern value (.pattern pattern)
  | numeric {name label : String} {input : InputRange} {operator : Operator} {value : EntryValue}
    {operand : Binary64} : operator ∈ Operator.numeric →
      value.finiteNumber? = some operand → operand.isFinite = true →
      Fits (.numeric name label input) operator value (.numeric operator (.real operand))
  /-- The absent label is that of the property. -/
  | labels {name label picked : String} {values : List String} {absentLabel : Option String}
    {operator : Operator} : operator ∈ Operator.enumerated → picked ≠ "" →
      Fits (.enumerated name label values absentLabel) operator (.text picked)
        (.labels operator picked absentLabel)

theorem Test.Fits.isNested_eq_false {property : Property} {operator : Operator} {value : EntryValue}
    {test : Test} (h : Fits property operator value test) : property.isNested = false := by
  cases h <;> rfl

theorem fits_of_text? {name label needle : String} {field : List String} {operator : Operator}
    {value : EntryValue} {clause : Clause} (hoperator : operator ∈ Operator.text)
    (hvalue : value.text? = some needle) (hneedle : needle ≠ "")
    (h : Clause.text? field operator needle = some clause) :
    Test.Fits (.text name label) operator value clause.test := by
  unfold Clause.text? at h
  split at h
  · obtain ⟨pattern, hpattern, rfl⟩ := Option.map_eq_some_iff.1 h
    exact .pattern hvalue hpattern
  · rename_i hother
    cases h
    refine .text ?_ hvalue hneedle
    have hne : operator ≠ .matchesPattern := hother
    revert hoperator hne
    cases operator <;> decide

/-- **The test of a property is of its kind**, with an operator and an operand of that kind. -/
theorem fits_of_leafClause? {property : Property} {field : List String} {operator : Operator}
    {value : EntryValue} {clause : Clause}
    (h : property.leafClause? field operator value = some clause) :
    Test.Fits property operator value clause.test := by
  unfold Property.leafClause? at h
  split at h
  · cases h
  · rename_i hoffered
    have hoperator : operator ∈ property.operators := by simpa using hoffered
    split at h
    · obtain ⟨needle, hvalue, hclause⟩ := Option.bind_eq_some_iff.1 h
      split_ifs at hclause with hneedle
      exact fits_of_text? hoperator hvalue hneedle hclause
    · obtain ⟨operand, hvalue, rfl⟩ := Option.map_eq_some_iff.1 h
      exact .numeric hoperator hvalue (isFinite_of_finiteNumber? hvalue)
    · split_ifs at h with hpicked
      cases h
      exact .labels hoperator hpicked
    · cases h

/-! ## Clauses and their rows -/

/-- What a clause is to the row that it was made for. -/
structure Clause.WellFormed (schema : Schema) (entry : Entry) (clause : Clause) : Prop where
  field_ne_nil : clause.field ≠ []
  field_prefix : clause.field <+: entry.path
  ne_empty : ∀ name ∈ clause.field, name ≠ ""
  leaf : ∃ property operator value,
    schema.resolve? clause.field = some (property, clause.field.length) ∧
    property.isNested = false ∧
    entry.operator = some operator.symbol ∧ entry.value = some value ∧
    Test.Fits property operator value clause.test

/-- **A compiled clause is well formed.** -/
theorem wellFormed_of_compile? {schema : Schema} {entry : Entry} {clause : Clause}
    (h : schema.compile? entry = some clause) : clause.WellFormed schema entry := by
  simp only [Schema.compile?, Option.bind_eq_bind, Option.bind_eq_some_iff] at h
  obtain ⟨name, hname, ⟨property, taken⟩, hresolve, operator, hoperator, value, hvalue,
    hclause⟩ := h
  obtain ⟨symbol, hsymbol, hoperator⟩ := hoperator
  obtain rfl := (Operator.ofSymbol?_eq_some_iff symbol operator).1 hoperator
  have hfits := fits_of_leafClause? hclause
  have hfield := field_of_leafClause? hclause
  have htaken := resolve?_take hresolve
  rw [← hfield] at htaken
  refine ⟨?_, ?_, ?_, property, operator, value, htaken,
    hfits.isNested_eq_false, hsymbol, hvalue, hfits⟩
  · intro hempty
    rw [hempty] at htaken
    cases htaken
  · rw [hfield]
    exact List.take_prefix taken entry.path
  · rw [hfield]
    exact ne_empty_of_resolve? hname hresolve

/-! ## Answers to the operators of a kind -/

namespace Test

/-- The answer for a text, if the operator is one of the four that look for a needle. -/
def textAnswer? (operator : Operator) (needle haystack : List Char) : Option Bool :=
  match operator with
  | .contains | .notContains | .startsWith | .endsWith => some (textPasses operator needle haystack)
  | _ => none

/-- The answer for the outcome of a comparison, if the operator is a comparison. -/
def orderAnswer? (operator : Operator) (order : Ordering) : Option Bool :=
  match operator with
  | .eq | .ne | .lt | .le | .gt | .ge => some (operator.accepts order)
  | _ => none

/-- The answer for labels, if the operator is one of the three for labels. -/
def labelAnswer? (operator : Operator) (label : String) (absentLabel : Option String)
    (served : FieldValue) : Option Bool :=
  match operator with
  | .contains | .notEmpty | .empty => some (labelPasses operator label absentLabel served)
  | _ => none

/-- Does a value pass the test?  There is no answer where `passes` has none but the one for foreign
operators. -/
def answer? (test : Test) (served : FieldValue) : Option Bool :=
  match test with
  | text operator needle =>
    textAnswer? operator needle (Unicode.lowerText (served.asText?.getD "").toList)
  | pattern p => some (served.asText?.any p.occursIn)
  | numeric operator operand =>
    match served.asNumber?.bind fun n => n.compare? operand with
    | none => some false
    | some order => orderAnswer? operator order
  | labels operator label absentLabel => labelAnswer? operator label absentLabel served

theorem orderAnswer?_of_mem {operator : Operator} (h : operator ∈ Operator.numeric)
    (order : Ordering) : orderAnswer? operator order = some (operator.accepts order) := by
  simp only [Operator.numeric, List.mem_cons, List.not_mem_nil, or_false] at h
  rcases h with rfl | rfl | rfl | rfl | rfl | rfl <;> rfl

/-- **A test that fits a property has an answer for every value.** -/
theorem answer?_eq_some_passes {property : Property} {operator : Operator} {value : EntryValue}
    {test : Test} (h : Fits property operator value test) (served : FieldValue) :
    test.answer? served = some (test.passes served) := by
  cases h with
  | text hoperator _ _ =>
    simp only [List.mem_cons, List.not_mem_nil, or_false] at hoperator
    rcases hoperator with rfl | rfl | rfl | rfl <;> rfl
  | pattern _ _ => rfl
  | @numeric _ _ _ _ _ operand hoperator _ _ =>
    cases hserved : served.asNumber? with
    | none => simp [answer?, passes, hserved]
    | some n =>
      cases horder : n.compare? (.real operand) with
      | none => simp [answer?, passes, hserved, horder]
      | some order =>
        simp [answer?, passes, hserved, horder, orderAnswer?_of_mem hoperator order]
  | labels hoperator _ =>
    simp only [Operator.enumerated, List.mem_cons, List.not_mem_nil, or_false] at hoperator
    rcases hoperator with rfl | rfl | rfl <;> rfl

end Test

/-- Does a record match?  The clauses are tried until one fails, and there is no answer if one of
those that are tried has none. -/
def Query.answer? {α : Type u} (query : Query) (serve : α → List String → FieldValue) (item : α) :
    Option Bool :=
  query.clauses.allM fun clause => clause.test.answer? (serve item clause.field)

theorem Query.answer?_eq_some_holds {α : Type u} {query : Query}
    (h : ∀ clause ∈ query.clauses, ∀ served,
      clause.test.answer? served = some (clause.test.passes served))
    (serve : α → List String → FieldValue) (item : α) :
    query.answer? serve item = some (query.holds serve item) := by
  obtain ⟨clauses⟩ := query
  induction clauses with
  | nil => rfl
  | cons clause rest ih =>
    obtain ⟨hclause, hrest⟩ := List.forall_mem_cons.1 h
    have hhead := hclause (serve item clause.field)
    have htail : rest.allM (fun clause => clause.test.answer? (serve item clause.field))
        = some (holds ⟨rest⟩ serve item) := ih hrest
    have hholds : holds ⟨clause :: rest⟩ serve item
        = (clause.test.passes (serve item clause.field) && holds ⟨rest⟩ serve item) := rfl
    rw [answer?, List.allM, hhead, hholds]
    cases clause.test.passes (serve item clause.field) with
    | false => rfl
    | true => simpa using htail

/-- The clauses of a query stand for the rows that have one, each for its own. -/
theorem forall₂_compile (schema : Schema) (entries : List Entry) :
    List.Forall₂ (fun entry clause => schema.compile? entry = some clause)
      (entries.filter fun entry => (schema.compile? entry).isSome)
      (Query.compile schema entries).clauses := by
  induction entries with
  | nil => exact .nil
  | cons entry rest ih =>
    cases h : schema.compile? entry with
    | none => simpa [Query.compile_eq, h] using ih
    | some clause => simpa [Query.compile_eq, h] using ih

/-- **Compiled queries are well formed.**  The clauses stand one by one for the rows that have one,
in their order, and each is well formed for its row.  So no operator is ever evaluated that the test
does not have, whatever a record serves. -/
theorem compiled_wellFormed (schema : Schema) (entries : List Entry) :
    List.Forall₂ (fun entry clause =>
        schema.compile? entry = some clause ∧ clause.WellFormed schema entry)
      (entries.filter fun entry => (schema.compile? entry).isSome)
      (Query.compile schema entries).clauses ∧
    (∀ clause ∈ (Query.compile schema entries).clauses, ∀ served,
      clause.test.answer? served = some (clause.test.passes served)) ∧
    ∀ {α : Type u} (serve : α → List String → FieldValue) (item : α),
      (Query.compile schema entries).answer? serve item
        = some ((Query.compile schema entries).holds serve item) := by
  have hanswer : ∀ clause ∈ (Query.compile schema entries).clauses, ∀ served,
      clause.test.answer? served = some (clause.test.passes served) := by
    intro clause hclause served
    rw [Query.compile_eq] at hclause
    obtain ⟨entry, -, hcompile⟩ := List.mem_filterMap.1 hclause
    obtain ⟨property, operator, value, -, -, -, -, hfits⟩ := (wellFormed_of_compile? hcompile).leaf
    exact Test.answer?_eq_some_passes hfits served
  refine ⟨?_, hanswer, fun serve item => Query.answer?_eq_some_holds hanswer serve item⟩
  exact (forall₂_compile schema entries).imp fun _ _ hcompile =>
    ⟨hcompile, wellFormed_of_compile? hcompile⟩

end GameJam
