import GameJam.Proofs.Text.Parts
import GameJam.Results.Dataset

/-!
# Labels in one text

A list of labels may be written as one text with commas, and then in many ways: blanks of any kind
around a label, blank parts between two of them or at either end.  `Renders` is this freedom as a
relation, and the labels of a text are the clean ones that its parts render.  Only a label that is
clean can be written so: one that has a comma, or a blank at an end, or no character at all would
come back as something else.

## What is here

* `CleanLabel` — a label that can stand in a text with commas.
* `Renders` — the parts of a text that are written for some labels.
* `labelParts_eq_iff` — **the labels of a text are those that its parts render**.
* `labelParts_intercalate` — the same for a text that is put together from its parts.
* `labelParts_join` — labels with `", "` between them.
-/

set_option autoImplicit false

namespace GameJam

/-! ## Labels and how they are written -/

/-- All characters are white space. -/
def IsBlankText (text : String) : Prop :=
  ∀ c ∈ text.toList, isBlank c = true

instance (text : String) : Decidable (IsBlankText text) :=
  inferInstanceAs (Decidable (∀ c ∈ text.toList, isBlank c = true))

/-- A label that is neither empty nor cut apart nor trimmed. -/
structure CleanLabel (label : String) : Prop where
  ne_empty : label ≠ ""
  comma_not_mem : ',' ∉ label.toList
  first_not_blank : ∀ c ∈ label.toList.head?, isBlank c = false
  last_not_blank : ∀ c ∈ label.toList.getLast?, isBlank c = false

/-- The parts of a text that are written for labels: each label in its turn with blanks around it,
and any number of blank parts. -/
inductive Renders : List String → List String → Prop
  | nil : Renders [] []
  | blank {part : String} {parts labels : List String} : IsBlankText part → Renders parts labels →
      Renders (part :: parts) labels
  | label {before label after : String} {parts labels : List String} : IsBlankText before →
      IsBlankText after → Renders parts labels →
      Renders ((before ++ label ++ after) :: parts) (label :: labels)

/-- The parts of a text between its commas. -/
def commaParts (text : String) : List String :=
  (text.toList.splitOn ',').map String.ofList

/-! ## One part -/

/-- The label in a part, unless the part is blank. -/
def labelOfPart? (part : String) : Option String :=
  if trim part.toList = [] then none else some (String.ofList (trim part.toList))

theorem labelParts_eq_filterMap (text : String) :
    labelParts text = (commaParts text).filterMap labelOfPart? := by
  rw [labelParts, fieldsBetween_eq_splitOn, commaParts, List.filter_map, List.map_map,
    ← List.filterMap_eq_map, List.filterMap_filter, List.filterMap_map]
  congr 1
  funext part
  simp only [Function.comp_apply, labelOfPart?, String.toList_ofList]
  cases trim part <;> rfl

theorem labelOfPart?_eq_none_iff {part : String} : labelOfPart? part = none ↔ IsBlankText part := by
  rw [labelOfPart?, IsBlankText, ← trim_eq_nil_iff]
  split_ifs with h <;> simp [h]

theorem labelOfPart?_append {before label after : String} (h : CleanLabel label)
    (hbefore : IsBlankText before) (hafter : IsBlankText after) :
    labelOfPart? (before ++ label ++ after) = some label := by
  have htrim : trim (before ++ label ++ after).toList = label.toList := by
    rw [String.toList_append, String.toList_append]
    exact trim_append_append hbefore hafter h.first_not_blank h.last_not_blank
  rw [labelOfPart?, htrim, if_neg (by simpa using h.ne_empty), String.ofList_toList]

/-- A part with a label is that label with blanks around it. -/
theorem exists_of_labelOfPart? {part label : String} (hcomma : ',' ∉ part.toList)
    (h : labelOfPart? part = some label) :
    CleanLabel label ∧ ∃ before after, part = before ++ label ++ after ∧ IsBlankText before ∧
      IsBlankText after := by
  rw [labelOfPart?] at h
  split_ifs at h with hne
  obtain rfl := Option.some.inj h
  obtain ⟨before, after, hpart, hbefore, hafter⟩ := exists_eq_append_trim part.toList
  refine ⟨⟨?_, ?_, ?_, ?_⟩, String.ofList before, String.ofList after, ?_, ?_, ?_⟩
  · simpa using hne
  · rw [String.toList_ofList]
    intro hmem
    rw [hpart] at hcomma
    simp [hmem] at hcomma
  · rw [String.toList_ofList]
    exact not_isBlank_of_mem_head?_trim _
  · rw [String.toList_ofList]
    exact not_isBlank_of_mem_getLast?_trim _
  · rw [← String.toList_inj]
    simpa using hpart
  · rwa [IsBlankText, String.toList_ofList]
  · rwa [IsBlankText, String.toList_ofList]

/-! ## Texts -/

theorem comma_not_mem_of_mem_commaParts {text part : String} (h : part ∈ commaParts text) :
    ',' ∉ part.toList := by
  rw [commaParts, ← fieldsBetween_eq_splitOn] at h
  obtain ⟨field, hfield, rfl⟩ := List.mem_map.1 h
  rw [String.toList_ofList]
  exact not_mem_of_mem_fieldsBetween field hfield

/-- What is written for labels is read as these labels. -/
theorem Renders.filterMap_eq {parts labels : List String} (h : Renders parts labels)
    (hclean : ∀ label ∈ labels, CleanLabel label) : parts.filterMap labelOfPart? = labels := by
  induction h with
  | nil => rfl
  | blank hpart _ ih =>
    rw [List.filterMap_cons_none (labelOfPart?_eq_none_iff.2 hpart), ih hclean]
  | label hbefore hafter _ ih =>
    obtain ⟨hlabel, hrest⟩ := List.forall_mem_cons.1 hclean
    rw [List.filterMap_cons_some (labelOfPart?_append hlabel hbefore hafter), ih hrest]

/-- Parts without commas are written for the labels that are read of them. -/
theorem renders_filterMap {parts : List String} (hcomma : ∀ part ∈ parts, ',' ∉ part.toList) :
    (∀ label ∈ parts.filterMap labelOfPart?, CleanLabel label) ∧
      Renders parts (parts.filterMap labelOfPart?) := by
  induction parts with
  | nil => exact ⟨List.forall_mem_nil _, .nil⟩
  | cons part parts ih =>
    obtain ⟨hpart, hparts⟩ := List.forall_mem_cons.1 hcomma
    obtain ⟨hclean, hrenders⟩ := ih hparts
    cases hlabel : labelOfPart? part with
    | none =>
      rw [List.filterMap_cons_none hlabel]
      exact ⟨hclean, .blank (labelOfPart?_eq_none_iff.1 hlabel) hrenders⟩
    | some label =>
      rw [List.filterMap_cons_some hlabel]
      obtain ⟨hfirst, before, after, rfl, hbefore, hafter⟩ := exists_of_labelOfPart? hpart hlabel
      exact ⟨List.forall_mem_cons.2 ⟨hfirst, hclean⟩, .label hbefore hafter hrenders⟩

/-- **The labels of a text are those that its parts render.** -/
theorem labelParts_eq_iff {text : String} {labels : List String} :
    labelParts text = labels ↔
      (∀ label ∈ labels, CleanLabel label) ∧ Renders (commaParts text) labels := by
  rw [labelParts_eq_filterMap]
  constructor
  · rintro rfl
    exact renders_filterMap fun part hpart => comma_not_mem_of_mem_commaParts hpart
  · rintro ⟨hclean, hrenders⟩
    exact hrenders.filterMap_eq hclean

/-! ## Texts put together -/

theorem comma_not_mem_of_isBlankText {text : String} (h : IsBlankText text) : ',' ∉ text.toList :=
  fun hmem => absurd (h ',' hmem) (by decide)

/-- There is no comma in a part that is written for clean labels. -/
theorem Renders.comma_not_mem {parts labels : List String} (h : Renders parts labels)
    (hclean : ∀ label ∈ labels, CleanLabel label) : ∀ part ∈ parts, ',' ∉ part.toList := by
  induction h with
  | nil => exact List.forall_mem_nil _
  | blank hpart _ ih =>
    exact List.forall_mem_cons.2 ⟨comma_not_mem_of_isBlankText hpart, ih hclean⟩
  | label hbefore hafter _ ih =>
    obtain ⟨hlabel, hrest⟩ := List.forall_mem_cons.1 hclean
    refine List.forall_mem_cons.2 ⟨?_, ih hrest⟩
    simp only [String.toList_append, List.mem_append, not_or]
    exact ⟨⟨comma_not_mem_of_isBlankText hbefore, hlabel.comma_not_mem⟩,
      comma_not_mem_of_isBlankText hafter⟩

/-- Parts without commas are cut apart as they were put together. -/
theorem commaParts_intercalate {parts : List String} (hne : parts ≠ [])
    (hcomma : ∀ part ∈ parts, ',' ∉ part.toList) : commaParts (",".intercalate parts) = parts := by
  have hchars : (",".intercalate parts).toList = [','].intercalate (parts.map String.toList) :=
    String.toList_intercalate
  rw [commaParts, hchars, List.splitOn_intercalate ',' (List.forall_mem_map.2 hcomma) (by simpa),
    List.map_map]
  simp [Function.comp_def]

/-- **A text that is put together for clean labels has these labels.** -/
theorem labelParts_intercalate {parts labels : List String} (h : Renders parts labels)
    (hclean : ∀ label ∈ labels, CleanLabel label) :
    labelParts (",".intercalate parts) = labels := by
  by_cases hne : parts = []
  · subst hne
    cases h
    rfl
  · rw [labelParts_eq_iff, commaParts_intercalate hne (h.comma_not_mem hclean)]
    exact ⟨hclean, h⟩

/-- Labels with a comma and a space between them, as parts. -/
def spacedParts : List String → List String
  | [] => []
  | label :: labels => label :: labels.map (" " ++ ·)

theorem intercalate_append_cons (before part : String) (parts : List String) :
    ",".intercalate ((before ++ part) :: parts) = before ++ ",".intercalate (part :: parts) := by
  cases parts with
  | nil => simp
  | cons next parts =>
    rw [String.intercalate_cons_cons, String.intercalate_cons_cons]
    simp only [String.append_assoc]

theorem intercalate_spacedParts (labels : List String) :
    ",".intercalate (spacedParts labels) = ", ".intercalate labels := by
  induction labels with
  | nil => rfl
  | cons label labels ih =>
    cases labels with
    | nil => rfl
    | cons second labels =>
      have hspace : ", " = "," ++ " " := rfl
      rw [spacedParts] at ih
      rw [spacedParts, List.map_cons, String.intercalate_cons_cons, String.intercalate_cons_cons,
        intercalate_append_cons, ih, hspace]
      simp only [String.append_assoc]

theorem renders_spacedParts (labels : List String) : Renders (spacedParts labels) labels := by
  have hempty : IsBlankText "" := List.forall_mem_nil _
  have hspace : IsBlankText " " := List.forall_mem_singleton.2 rfl
  have hrest : ∀ labels, Renders (labels.map (" " ++ ·)) labels := by
    intro labels
    induction labels with
    | nil => exact .nil
    | cons label labels ih => simpa using Renders.label hspace hempty ih
  cases labels with
  | nil => exact .nil
  | cons label labels => simpa [spacedParts] using Renders.label hempty hempty (hrest labels)

/-- **Labels that are joined by commas and spaces** are read as they were. -/
theorem labelParts_join {labels : List String} (hclean : ∀ label ∈ labels, CleanLabel label) :
    labelParts (", ".intercalate labels) = labels := by
  rw [← intercalate_spacedParts]
  exact labelParts_intercalate (renders_spacedParts labels) hclean

end GameJam
