import GameJam.Proofs.Filter.Conjunction
import GameJam.Proofs.Filter.Descent
import GameJam.Proofs.Number.Nearest
import Mathlib.Data.List.Count
import Mathlib.Data.List.Perm.Basic

/-!
# Operators that ask for opposite things

Some operators of a kind of property divide the values among them: a text contains the needle or it
does not, and a number is less than the operand, equal to it or greater.  Rows that differ in such
operators only should therefore divide the records, each record being kept by one of them.

Two things could go wrong.  One row may have a clause and another none, so that it keeps all the
records and not its share.  And a record may have no value, or one that the test cannot read; a text
test then reads the empty text and a label test no label, but a comparison lets nothing pass.

## What is here

* `Property.alternatives` — the operators of a property that divide the values among them.
* `Property.divides` — the values that they divide: all, but for a comparison only what compares.
* `leafClause?_alternatives` — they have clauses together, and **one of their tests passes**.
* `alternatives_divide` — **rows that differ in them divide the records**.
-/

set_option autoImplicit false

universe u

namespace GameJam

/-! ## Which operators, and which values -/

/-- Is it a number, and no NaN? -/
def FieldValue.isComparable : FieldValue → Bool
  | .number n => n ≠ .real .nan
  | _ => false

/-- Comparisons that divide the outcomes among them. -/
def Operator.comparisonFamilies : List (List Operator) :=
  [[.eq, .ne], [.lt, .ge], [.gt, .le], [.lt, .eq, .gt]]

namespace Property

/-- Operators that divide the values among them. -/
def alternatives : Property → List (List Operator)
  | text .. => [[.contains, .notContains]]
  | numeric .. => Operator.comparisonFamilies
  | enumerated .. => [[.empty, .notEmpty]]
  | nested .. => []

/-- The values that alternatives divide among them. -/
def divides : Property → FieldValue → Bool
  | numeric .., served => served.isComparable
  | _, _ => true

end Property

/-! ## Tests -/

section Tests

variable {family : List Operator} (served : FieldValue)

/-- **A number compares with a finite one unless it is a NaN.** -/
theorem isSome_compare?_real (n : Number) {x : Binary64} (hx : x.isFinite = true) :
    (n.compare? (.real x)).isSome = decide (n ≠ .real .nan) := by
  have hbinary : ∀ a : Binary64, (a.compare? x).isSome = decide (a ≠ .nan) := by
    intro a
    cases x with
    | finite negative m e canonical => cases a <;> rfl
    | nan => cases hx
    | infinite negative => cases hx
  have hwhole : ∀ k : Int, Binary64.ofInt k ≠ .nan := fun k => Binary64.nearest_ne_nan _ _ _
  cases n with
  | signed n => exact (hbinary _).trans (by simp [Number.toBinary64, hwhole])
  | unsigned n => exact (hbinary _).trans (by simp [Number.toBinary64, hwhole])
  | real a => exact (hbinary a).trans (by simp)

theorem mem_numeric_of_mem_family (h : family ∈ Operator.comparisonFamilies) {operator : Operator}
    (hmem : operator ∈ family) : operator ∈ Operator.numeric := by
  simp only [Operator.comparisonFamilies, List.mem_cons, List.not_mem_nil, or_false] at h
  rcases h with rfl | rfl | rfl | rfl <;> revert hmem <;> cases operator <;> decide

/-- Each outcome is accepted by one comparison of a family. -/
theorem countP_accepts (h : family ∈ Operator.comparisonFamilies) (order : Ordering) :
    family.countP (fun operator => operator.accepts order) = 1 := by
  simp only [Operator.comparisonFamilies, List.mem_cons, List.not_mem_nil, or_false] at h
  rcases h with rfl | rfl | rfl | rfl <;> cases order <;> rfl

/-- Each number passes one comparison of a family, and nothing else passes any. -/
theorem countP_numeric (h : family ∈ Operator.comparisonFamilies) {x : Binary64}
    (hx : x.isFinite = true) :
    (family.map fun operator => Test.numeric operator (.real x)).countP
        (fun test => test.passes served) = if served.isComparable then 1 else 0 := by
  rw [List.countP_map]
  cases served with
  | number n =>
    have hsome := isSome_compare?_real n hx
    have hcount : family.countP (fun operator => (n.compare? (.real x)).any operator.accepts)
        = if (n.compare? (.real x)).isSome then 1 else 0 := by
      cases n.compare? (.real x) with
      | none => simp
      | some order => exact countP_accepts h order
    rwa [hsome] at hcount
  | _ => simp [Function.comp_def, Test.passes, FieldValue.asNumber?, FieldValue.isComparable]

/-- Each value passes one of the two tests that look for a needle. -/
theorem countP_text (needle : List Char) :
    [Test.text .contains needle, .text .notContains needle].countP (fun test => test.passes served)
      = 1 := by
  have hopposite : (Test.text .notContains needle).passes served
      = !(Test.text .contains needle).passes served := rfl
  cases h : (Test.text .contains needle).passes served <;> simp [hopposite, h]

/-- Each value passes one of the two tests for any label. -/
theorem countP_labels (label : String) (absentLabel : Option String) :
    [Test.labels .empty label absentLabel, .labels .notEmpty label absentLabel].countP
      (fun test => test.passes served) = 1 := by
  have hempty : (Test.labels .empty label absentLabel).passes served = !served.hasLabels := rfl
  have hnotEmpty : (Test.labels .notEmpty label absentLabel).passes served = served.hasLabels := rfl
  cases h : served.hasLabels <;> simp [hempty, hnotEmpty, h]

end Tests

/-- **Alternatives have clauses together**, and each value that they divide passes one of the
tests. -/
theorem leafClause?_alternatives {property : Property} {family : List Operator}
    (h : family ∈ property.alternatives) (field : List String) (value : EntryValue) :
    (∀ operator ∈ family, property.leafClause? field operator value = none) ∨
    ∃ tests : List Test,
      family.map (fun operator => property.leafClause? field operator value)
        = tests.map (fun test => some ⟨field, test⟩) ∧
      ∀ served, tests.countP (fun test => test.passes served)
        = if property.divides served then 1 else 0 := by
  cases property with
  | text name label =>
    obtain rfl : family = [.contains, .notContains] := List.mem_singleton.1 h
    cases hvalue : value.text? with
    | none => exact Or.inl fun operator _ => by simp [Property.leafClause?, hvalue]
    | some needle =>
      by_cases hneedle : needle = ""
      · exact Or.inl fun operator _ => by simp [Property.leafClause?, hvalue, hneedle]
      · refine Or.inr ⟨_, ?_, fun served => countP_text served (Unicode.lowerText needle.toList)⟩
        simp [Property.leafClause?, Property.operators, Operator.text, hvalue, hneedle,
          Clause.text?]
  | numeric name label input =>
    cases hvalue : value.finiteNumber? with
    | none => exact Or.inl fun operator _ => by simp [Property.leafClause?, hvalue]
    | some x =>
      have hx : x.isFinite = true := isFinite_of_finiteNumber? hvalue
      refine Or.inr ⟨_, ?_, fun served => countP_numeric served h hx⟩
      rw [List.map_map]
      refine List.map_congr_left fun operator hmem => ?_
      have hoffered : operator ∈ Operator.numeric := mem_numeric_of_mem_family h hmem
      simp [Property.leafClause?, Property.operators, hoffered, hvalue, Clause.numeric]
  | enumerated name label values absentLabel =>
    obtain rfl : family = [.empty, .notEmpty] := List.mem_singleton.1 h
    cases value with
    | text picked =>
      by_cases hpicked : picked = ""
      · exact Or.inl fun operator _ => by simp [Property.leafClause?, hpicked]
      · refine Or.inr ⟨_, ?_, fun served => countP_labels served picked absentLabel⟩
        simp [Property.leafClause?, Property.operators, Operator.enumerated, hpicked,
          Clause.labels]
    | number x => exact Or.inl fun operator _ => by simp [Property.leafClause?]
    | list items => exact Or.inl fun operator _ => by simp [Property.leafClause?]
  | nested name label children => cases h

/-! ## Rows -/

/-- Rows for a property have the clauses of the property, or none of them has a clause. -/
theorem compile?_rows {schema : Schema} {path : List String} {property : Property} {taken : Nat}
    (hresolve : schema.resolve? path = some (property, taken)) (value : Option EntryValue) :
    (∀ operator : Operator, schema.compile? ⟨path, some operator.symbol, value⟩ = none) ∨
    ∃ v, ∀ operator : Operator, schema.compile? ⟨path, some operator.symbol, value⟩
      = property.leafClause? (path.take taken) operator v := by
  cases hname : (Entry.mk path none value).propertyName with
  | none =>
    refine Or.inl fun operator => ?_
    have hnone : (Entry.mk path (some operator.symbol) value).propertyName = none := hname
    simp [Schema.compile?, hnone]
  | some name =>
    have hnamed : ∀ operator : Operator,
        (Entry.mk path (some operator.symbol) value).propertyName = some name := fun _ => hname
    have hrow : ∀ operator : Operator, schema.compile? ⟨path, some operator.symbol, value⟩
        = property.rowClause? (path.take taken) ⟨path, some operator.symbol, value⟩ :=
      fun operator => compile?_of_resolve? (hnamed operator) hresolve
    cases value with
    | none => exact Or.inl fun operator => by simp [hrow, Property.rowClause?]
    | some v =>
      exact Or.inr ⟨v, fun operator => by
        simp [hrow, Property.rowClause?, Operator.ofSymbol?_symbol]⟩

/-- What rows keep, taken together, if each of them has a clause. -/
theorem flatMap_filter_rows {α : Type u} {schema : Schema} {rows : List Entry}
    {clauses : List Clause} (h : rows.map schema.compile? = clauses.map some)
    (serve : α → List String → FieldValue) (items : List α) :
    (rows.flatMap fun row => (Query.compile schema [row]).filter serve items)
      = clauses.flatMap fun clause => items.filter fun item => clause.holds (serve item) := by
  have hkept := congrArg (List.flatMap fun clause => clause.elim items fun clause =>
    items.filter fun item => clause.holds (serve item)) h
  simpa only [List.flatMap_map, filter_compile_singleton, Option.elim_some] using hkept

/-- Tests of which each item in a part passes one, and no other item any, divide that part. -/
theorem perm_flatMap_filter {α β : Type*} {tests : List β} {passes : β → α → Bool} {part : α → Bool}
    (h : ∀ a, tests.countP (fun test => passes test a) = if part a then 1 else 0)
    (items : List α) : (tests.flatMap fun test => items.filter (passes test)).Perm
      (items.filter part) := by
  classical
  rw [List.perm_iff_count]
  intro a
  have hfilter : ∀ p : α → Bool, (items.filter p).count a = if p a then items.count a else 0 := by
    intro p
    split_ifs with hp
    · exact List.count_filter hp
    · exact List.count_eq_zero.2 fun hmem => hp (List.mem_filter.1 hmem).2
  have hsum : (tests.flatMap fun test => items.filter (passes test)).count a
      = tests.countP (fun test => passes test a) * items.count a := by
    clear h
    induction tests with
    | nil => simp
    | cons test tests ih =>
      rw [List.flatMap_cons, List.count_append, ih, hfilter, List.countP_cons, Nat.add_mul,
        Nat.add_comm]
      split_ifs <;> simp
  rw [hsum, h, hfilter]
  split_ifs <;> simp

/-- **Rows that differ in alternatives divide the records.**  None of them has a clause, or each of
them has one and for the same field.  Then one of the clauses holds of a record if its value there
is divided, and else none; so the records that the rows keep are, taken together, all those with a
value that is divided, each of them kept by one row. -/
theorem alternatives_divide {schema : Schema} {path : List String} {property : Property}
    {taken : Nat} (hresolve : schema.resolve? path = some (property, taken))
    (value : Option EntryValue) {family : List Operator}
    (hfamily : family ∈ property.alternatives) :
    let rows := family.map fun operator => (⟨path, some operator.symbol, value⟩ : Entry)
    let field := path.take taken
    (∀ row ∈ rows, schema.compile? row = none) ∨
    ∃ clauses : List Clause,
      rows.map schema.compile? = clauses.map some ∧
      (∀ clause ∈ clauses, clause.field = field) ∧
      (∀ serve, clauses.countP (fun clause => clause.holds serve)
        = if property.divides (serve field) then 1 else 0) ∧
      ∀ {α : Type u} (serve : α → List String → FieldValue) (items : List α),
        (rows.flatMap fun row => (Query.compile schema [row]).filter serve items).Perm
          (items.filter fun item => property.divides (serve item field)) := by
  intro rows field
  rcases compile?_rows hresolve value with hnone | ⟨v, hrow⟩
  · exact Or.inl (List.forall_mem_map.2 fun operator _ => hnone operator)
  rcases leafClause?_alternatives hfamily field v with hnone | ⟨tests, htests, hcount⟩
  · exact Or.inl (List.forall_mem_map.2 fun operator hmem =>
      (hrow operator).trans (hnone operator hmem))
  have hclauses : rows.map schema.compile? = (tests.map (Clause.mk field)).map some := by
    simpa only [rows, field, hrow, List.map_map, Function.comp_def] using htests
  have hholds : ∀ serve, (tests.map (Clause.mk field)).countP (fun clause => clause.holds serve)
      = if property.divides (serve field) then 1 else 0 := by
    intro serve
    rw [List.countP_map]
    exact hcount (serve field)
  refine Or.inr ⟨_, hclauses, ?_, hholds, fun {α} serve items => ?_⟩
  · intro clause hclause
    obtain ⟨test, -, rfl⟩ := List.mem_map.1 hclause
    rfl
  · rw [flatMap_filter_rows hclauses]
    exact perm_flatMap_filter (fun item => hholds (serve item)) items

/-- The values less than five, equal to it and greater are all but the missing one, the text and the
NaN. -/
theorem alternatives_divide_numbers :
    let schema : Schema := [.nested "ranks" "Ranks" [.numeric "score" "Score" {}]]
    let values : List FieldValue :=
      [.number (.unsigned 7), .missing, .number (.real .nan), .number (.real (.ofInt 5)),
        .text "5", .number (.signed (-1))]
    let rows := [Operator.lt, .eq, .gt].map fun operator =>
      (⟨["ranks", "score", "more"], some operator.symbol, some (.text " 5.0 ")⟩ : Entry)
    (schema.resolve? ["ranks", "score", "more"] = some (.numeric "score" "Score" {}, 2) ∧
      [Operator.lt, .eq, .gt] ∈ (Property.numeric "score" "Score" {}).alternatives) ∧
    (rows.flatMap fun row => (Query.compile schema [row]).filter (fun value _ => value) values).Perm
      [.number (.unsigned 7), .number (.real (.ofInt 5)), .number (.signed (-1))] := by
  intro schema values rows
  have hresolve : schema.resolve? ["ranks", "score", "more"]
      = some (.numeric "score" "Score" {}, 2) := rfl
  have hfamily : [Operator.lt, .eq, .gt] ∈ (Property.numeric "score" "Score" {}).alternatives := by
    decide
  have hclause : schema.compile? ⟨["ranks", "score", "more"], some "<", some (.text " 5.0 ")⟩
      ≠ none := by
    decide +kernel
  have hdivided : values.filter (fun value => value.isComparable)
      = [.number (.unsigned 7), .number (.real (.ofInt 5)), .number (.signed (-1))] := by
    decide +kernel
  refine ⟨⟨hresolve, hfamily⟩, ?_⟩
  rcases alternatives_divide hresolve (some (.text " 5.0 ")) hfamily with
    hnone | ⟨_, -, -, -, hperm⟩
  · exact absurd (hnone _ (List.mem_cons_self ..)) hclause
  · rw [← hdivided]
    exact hperm (fun value _ => value) values

end GameJam
