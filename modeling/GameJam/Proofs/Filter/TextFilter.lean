import GameJam.Proofs.Filter.RowMeaning
import GameJam.Proofs.Text.LowerCase

/-!
# Where text filters differ from what they look like

A text filter looks for a needle in a text, both in lower case, and reads a missing text as the
empty one.  Two things that one would take for granted do not follow.

A needle that occurs in a text as it is need not be found there.  Field and needle are brought into
lower case apart from each other, and a capital sigma at the end of the needle becomes a final one,
which it is not in the text if the word goes on.  What follows is said here: needles that keep their
sigmas are found.

A pattern is not looked for in a missing text at all, so that one which occurs in the empty text
tells the two apart.  No other operator does.

## What is here

* `Clause.textOutcome?` — what the clause of a text operator says of a value.
* `outcome_of_verbatim` — **needles that occur as they are**, with `contains_misses_sigma` for one
  that is not found.
* `passes_missing_iff` — **when a missing text counts as the empty one**, with
  `pattern_misses_missing` for a pattern that tells them apart.
-/

set_option autoImplicit false

namespace GameJam

open Unicode (KeepsSigmas)

/-- What the clause of a text operator says of a value; nothing if the needle is refused. -/
def Clause.textOutcome? (field : List String) (operator : Operator) (needle : String)
    (value : FieldValue) : Option Bool :=
  (text? field operator needle).map fun clause => clause.test.passes value

variable {field : List String} {needle s : String}

/-! ## Needles that occur as they are -/

section Outcomes

open Clause (textOutcome?)

theorem textOutcome?_contains_iff : textOutcome? field .contains needle (.text s) = some true ↔
    Unicode.lowerText needle.toList <:+: Unicode.lowerText s.toList := by
  rw [← occurs_iff]
  exact Option.some_inj

theorem textOutcome?_notContains_iff :
    textOutcome? field .notContains needle (.text s) = some false ↔
      Unicode.lowerText needle.toList <:+: Unicode.lowerText s.toList := by
  rw [← occurs_iff, ← Bool.not_eq_false']
  exact Option.some_inj

theorem textOutcome?_startsWith_iff :
    textOutcome? field .startsWith needle (.text s) = some true ↔
      Unicode.lowerText needle.toList <+: Unicode.lowerText s.toList := by
  rw [← List.isPrefixOf_iff_prefix]
  exact Option.some_inj

theorem textOutcome?_endsWith_iff : textOutcome? field .endsWith needle (.text s) = some true ↔
    Unicode.lowerText needle.toList <:+ Unicode.lowerText s.toList := by
  rw [← List.isSuffixOf_iff_suffix]
  exact Option.some_inj

/-- **A needle that occurs in a text as it is** is found there if it keeps its sigmas, and at the
beginning or the end of the text only then.  A needle without a capital sigma keeps them
everywhere. -/
theorem outcome_of_verbatim (field : List String) (needle s : String) :
    (∀ before after, s.toList = before ++ needle.toList ++ after →
      KeepsSigmas before needle.toList after →
        textOutcome? field .contains needle (.text s) = some true ∧
        textOutcome? field .notContains needle (.text s) = some false) ∧
    (∀ after, s.toList = needle.toList ++ after →
      (textOutcome? field .startsWith needle (.text s) = some true ↔
        KeepsSigmas [] needle.toList after)) ∧
    (∀ before, s.toList = before ++ needle.toList →
      (textOutcome? field .endsWith needle (.text s) = some true ↔
        KeepsSigmas before needle.toList [])) ∧
    ('Σ' ∉ needle.toList → ∀ before after, KeepsSigmas before needle.toList after) := by
  refine ⟨fun before after hs hkeeps => ?_, fun after hs => ?_, fun before hs => ?_,
    fun hnone _ _ => Unicode.keepsSigmas_of_not_mem hnone⟩
  · have hfound := Unicode.infix_lowerText hkeeps
    rw [← hs] at hfound
    exact ⟨textOutcome?_contains_iff.2 hfound, textOutcome?_notContains_iff.2 hfound⟩
  · rw [textOutcome?_startsWith_iff, hs, Unicode.prefix_lowerText_iff]
  · rw [textOutcome?_endsWith_iff, hs, Unicode.suffix_lowerText_iff]

/-- A sigma that ends a word in the text and in the needle is kept. -/
theorem outcome_of_verbatim_word :
    ("XAΣ Y".toList = "X".toList ++ "AΣ".toList ++ " Y".toList ∧
      KeepsSigmas "X".toList "AΣ".toList " Y".toList) ∧
    textOutcome? ["name"] .contains "AΣ" (.text "XAΣ Y") = some true ∧
    textOutcome? ["name"] .notContains "AΣ" (.text "XAΣ Y") = some false := by
  have hs : "XAΣ Y".toList = "X".toList ++ "AΣ".toList ++ " Y".toList := by decide
  have hkeeps : KeepsSigmas "X".toList "AΣ".toList " Y".toList := by decide +kernel
  exact ⟨⟨hs, hkeeps⟩, (outcome_of_verbatim ["name"] "AΣ" "XAΣ Y").1 _ _ hs hkeeps⟩

/-- A needle that ends with a sigma is not found in a text that begins with it and goes on with a
letter, and a sigma alone is not found at the end of a word. -/
theorem contains_misses_sigma :
    ("AΣB".toList = [] ++ "AΣ".toList ++ "B".toList ∧
      textOutcome? ["name"] .contains "AΣ" (.text "AΣB") = some false ∧
      textOutcome? ["name"] .notContains "AΣ" (.text "AΣB") = some true ∧
      textOutcome? ["name"] .startsWith "AΣ" (.text "AΣB") = some false) ∧
    "AΣ".toList = "A".toList ++ "Σ".toList ∧
      textOutcome? ["name"] .endsWith "Σ" (.text "AΣ") = some false := by
  decide +kernel

end Outcomes

/-! ## Missing texts -/

/-- **A missing text counts as the empty one** for every clause of a text operator but a pattern
that occurs in the empty text, which is not looked for in a missing one. -/
theorem passes_missing_iff {operator : Operator} {clause : Clause}
    (h : Clause.text? field operator needle = some clause) :
    clause.test.passes .missing = clause.test.passes (.text "") ↔
      ∀ pattern, clause.test = .pattern pattern → pattern.occursIn "" = false := by
  unfold Clause.text? at h
  split at h
  · obtain ⟨pattern, -, rfl⟩ := Option.map_eq_some_iff.1 h
    have hmissing : (Test.pattern pattern).passes .missing = false := rfl
    have hempty : (Test.pattern pattern).passes (.text "") = pattern.occursIn "" := rfl
    rw [hmissing, hempty]
    constructor
    · rintro hsame _ ⟨⟩
      exact hsame.symm
    · exact fun hnone => (hnone pattern rfl).symm
  · -- the needle is looked for in the empty text in both cases
    obtain rfl := Option.some_inj.1 h
    exact iff_of_true rfl fun _ hpattern => nomatch hpattern

/-- A pattern that asks for a digit is found in neither. -/
theorem passes_missing_iff_digit :
    let clause : Clause := ⟨["name"], .pattern ⟨"1", .chars (.single '1')⟩⟩
    Clause.text? ["name"] .matchesPattern "1" = some clause ∧
      clause.test.passes .missing = clause.test.passes (.text "") := by
  intro clause
  have hclause : Clause.text? ["name"] .matchesPattern "1" = some clause := by decide +kernel
  refine ⟨hclause, (passes_missing_iff hclause).2 ?_⟩
  rintro _ ⟨⟩
  decide +kernel

/-- The pattern of a text in which there is nothing is found in the empty text and not in a missing
one. -/
theorem pattern_misses_missing :
    Clause.textOutcome? ["name"] .matchesPattern "^$" (.text "") = some true ∧
      Clause.textOutcome? ["name"] .matchesPattern "^$" .missing = some false := by
  decide +kernel

end GameJam
