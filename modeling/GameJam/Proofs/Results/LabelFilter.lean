import GameJam.Proofs.Filter.Conjunction
import GameJam.Proofs.Results.ServedFields

/-!
# Filtering by a label

The labels that a schema offers are collected from the games, list by list.  A row for a label goes
another way: by the name of the list to a property, and by that name again to what a game serves.
Both ways come to the same, so that every label that is offered finds a game and no other label
does.  A label that is not offered is no error, as the offer plays no part in the filter.

## What is here

* `Game.HasLabel` — the game has the list, and the label is in it.
* `mem_distinctLabels_iff` — the labels that are collected.
* `Schema.offered` — the labels that the property of a name offers.
* `compile?_of_enumerated`, `holds_labels_contains_iff` — the clause of a row for a label, and what
  it asks of a game.
* `kept_by_label` — **what a row for a label keeps, and which labels are offered**.
-/

set_option autoImplicit false

namespace GameJam

/-- The game has the list, and the label is in it. -/
def Game.HasLabel (game : Game) (field : LabelField) (label : String) : Prop :=
  ∃ labels, game.labels? field = some labels ∧ label ∈ labels

variable {games : List Game} {source : CategorySource} {field : LabelField} {label : String}

/-! ## Labels that are collected -/

/-- The labels that are collected are those that some game has. -/
theorem mem_distinctLabels_iff :
    label ∈ distinctLabels games field ↔ ∃ game ∈ games, game.HasLabel field label := by
  rw [distinctLabels, List.mem_mergeSort, List.mem_eraseDups, List.mem_flatMap]
  refine exists_congr fun game => and_congr_right fun _ => ?_
  rw [Game.HasLabel]
  cases game.labels? field <;> simp

/-- The name of a list selects the property with its labels. -/
theorem named?_labelField (games : List Game) (source : CategorySource) (field : LabelField) :
    Property.named? (jamSchema games source) field.name = some (labelProperty games field) := by
  cases field <;> rfl

/-- The labels that the property of a name offers. -/
def Schema.offered (schema : Schema) (name : String) : List String :=
  match Property.named? schema name with
  | some (.enumerated _ _ values _) => values
  | _ => []

theorem offered_labelField (games : List Game) (source : CategorySource) (field : LabelField) :
    (jamSchema games source).offered field.name = distinctLabels games field := by
  rw [Schema.offered, named?_labelField]
  rfl

/-! ## Rows for a label -/

/-- A row for a label of a property has a clause, whether the label is offered or not. -/
theorem compile?_of_enumerated {schema : Schema} {name title : String} {values : List String}
    {absentLabel : Option String} (hname : name ≠ "")
    (hnamed : Property.named? schema name = some (.enumerated name title values absentLabel))
    {operator : Operator} (hoperator : operator ∈ Operator.enumerated) (hlabel : label ≠ "") :
    schema.compile? ⟨[name], some operator.symbol, some (.text label)⟩
      = some (.labels [name] operator label absentLabel) := by
  rw [compile?_of_named? hname hnamed]
  simp [Property.leafClause?, Property.operators, hoperator, hlabel]

/-- A row that asks of a list for a label. -/
def labelEntry (field : LabelField) (operator : Operator) (label : String) : Entry :=
  ⟨[field.name], some operator.symbol, some (.text label)⟩

theorem compile?_labelEntry {operator : Operator} (hoperator : operator ∈ Operator.enumerated)
    (hlabel : label ≠ "") :
    (jamSchema games source).compile? (labelEntry field operator label)
      = some (.labels [field.name] operator label none) := by
  have hname : field.name ≠ "" := by cases field <;> decide
  exact compile?_of_enumerated hname (named?_labelField games source field) hoperator hlabel

/-- The clause holds of the games that have the label.  There is no label for the games without the
list, and an empty list has none. -/
theorem holds_labels_contains_iff (game : Game) (field : LabelField) (label : String) :
    (Clause.labels [field.name] .contains label none).holds game.serve = true ↔
      game.HasLabel field label := by
  obtain ⟨hpresent, habsent⟩ := game.servesList field
  rw [Clause.holds, Clause.labels, Game.HasLabel]
  cases hlabels : game.labels? field with
  | none => simp [habsent hlabels, Test.passes, Test.labelPasses, FieldValue.hasLabels]
  | some labels =>
    cases labels <;> simp [hpresent _ hlabels, Test.passes, Test.labelPasses,
      FieldValue.hasLabels, FieldValue.hasLabel]

instance (game : Game) (field : LabelField) (label : String) :
    Decidable (game.HasLabel field label) :=
  decidable_of_iff _ (holds_labels_contains_iff game field label)

/-- The schema may have been read from other games. -/
theorem kept_labelEntry (others : List Game) (hlabel : label ≠ "") :
    (jamSchema others source).kept [labelEntry field .contains label] games
      = games.filter fun game => decide (game.HasLabel field label) := by
  have hcontains : Operator.contains ∈ Operator.enumerated := by decide
  rw [Schema.kept, filter_compile_singleton, compile?_labelEntry hcontains hlabel]
  refine List.filter_congr fun game _ => ?_
  rw [Bool.eq_iff_iff, holds_labels_contains_iff, decide_eq_true_iff]

/-- **A row for a label** keeps the games that have the list with exactly this label in it, in their
order, and the labels that are offered are those for which it keeps a game. -/
theorem kept_by_label (games : List Game) (source : CategorySource) (field : LabelField)
    {label : String} (hlabel : label ≠ "") :
    let schema := jamSchema games source
    let kept := schema.kept [labelEntry field .contains label] games
    (label ∈ schema.offered field.name ↔ kept ≠ []) ∧
    kept = games.filter fun game => decide (game.HasLabel field label) := by
  intro schema kept
  have hkept : kept = games.filter fun game => decide (game.HasLabel field label) :=
    kept_labelEntry games hlabel
  refine ⟨?_, hkept⟩
  rw [offered_labelField, mem_distinctLabels_iff, hkept, Ne, List.filter_eq_nil_iff]
  simp

/-- One of two games is tagged.  Its tag is offered and finds that game, and the same word in lower
case is not offered and finds none. -/
theorem kept_by_label_lower_case :
    let untagged : Game := ⟨"", "", none, "", [], 0, [], none, none, none, none⟩
    let games := [untagged, { untagged with tags := some ["Jam", "Art"] }]
    let schema := jamSchema games .allRecords
    ("Jam" ≠ "" ∧ "Jam" ∈ schema.offered "tags" ∧
      schema.kept [labelEntry .tags .contains "Jam"] games = games.drop 1) ∧
    ("jam" ≠ "" ∧ "jam" ∉ schema.offered "tags" ∧
      schema.kept [labelEntry .tags .contains "jam"] games = []) := by
  intro untagged games schema
  have hjam : "Jam" ≠ "" := by decide
  have hlower : "jam" ≠ "" := by decide
  obtain ⟨hoffered, hkept⟩ := kept_by_label games .allRecords .tags hjam
  obtain ⟨hmissing, hnone⟩ := kept_by_label games .allRecords .tags hlower
  have hfound := hkept.trans (show _ = games.drop 1 by decide +kernel)
  have hnothing := hnone.trans (show _ = [] by decide +kernel)
  refine ⟨⟨hjam, hoffered.2 ?_, hfound⟩, hlower, fun hmem => hmissing.1 hmem hnothing, hnothing⟩
  rw [hfound]
  exact List.cons_ne_nil _ _

end GameJam
