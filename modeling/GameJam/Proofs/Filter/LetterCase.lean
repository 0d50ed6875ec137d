import GameJam.Filter.Clause
import Mathlib.Data.List.Forall2

/-!
# Text filters do not tell capital letters from small ones

A text and a needle are brought into lower case before the one is looked for in the other, so it
should not matter how either of them is written.  For the ASCII letters this is so wherever they
stand.  It does not follow from how a letter itself is lowered, since the lower case of a sigma
depends on what is around it: on whether the characters there are cased, and on which of them are
passed over.  A letter is cased in either form, and it is never passed over.

For other letters it would be wrong: a capital sigma becomes a small or a final one, while both of
these are left as they are.

## What is here

* `Unicode.of_isAlpha` — what holds of all ASCII characters holds of a letter.
* `SameLetters` — texts that differ in the case of ASCII letters only.
* `Unicode.lowerText_map_toLower` — **ASCII letters may be lowered before the rest**.
* `passes_of_sameLetters` — **the case of ASCII letters makes no difference**, in a needle or in a
  text.
-/

set_option autoImplicit false

namespace GameJam

/-! ## ASCII letters -/

namespace Unicode

theorem isAlpha_iff (c : Char) : c.isAlpha = true ↔ c.isUpper = true ∨ c.isLower = true :=
  Bool.or_eq_true_iff

theorem isUpper_iff (c : Char) : c.isUpper = true ↔ 'A' ≤ c ∧ c ≤ 'Z' :=
  decide_eq_true_iff

theorem isLower_iff (c : Char) : c.isLower = true ↔ 'a' ≤ c ∧ c ≤ 'z' :=
  Bool.and_eq_true_iff.trans (and_congr decide_eq_true_iff decide_eq_true_iff)

section Letters

variable {c : Char} (hc : c.isAlpha = true)
include hc

theorem toNat_lt_of_isAlpha : c.toNat < 0x80 := by
  rcases (isAlpha_iff c).1 hc with h | h
  · exact Nat.lt_of_le_of_lt ((isUpper_iff c).1 h).2 (by decide)
  · exact Nat.lt_of_le_of_lt ((isLower_iff c).1 h).2 (by decide)

/-- What holds of all ASCII characters holds of a letter.  They are few enough to be tried one by
one if the property is decidable. -/
theorem of_isAlpha {p : Char → Prop} (hall : ∀ n < 0x80, p (Char.ofNat n)) : p c := by
  have hn := hall c.toNat (toNat_lt_of_isAlpha hc)
  rwa [Char.ofNat_toNat] at hn

theorem isAlpha_toLower_of_isAlpha : c.toLower.isAlpha = true :=
  of_isAlpha (p := fun c => c.isAlpha = true → c.toLower.isAlpha = true) hc
    (by decide +kernel) hc

theorem toLower_toLower_of_isAlpha : c.toLower.toLower = c.toLower :=
  of_isAlpha (p := fun c => c.toLower.toLower = c.toLower) hc (by decide +kernel)

theorem toLower_toUpper_of_isAlpha : c.toUpper.toLower = c.toLower :=
  of_isAlpha (p := fun c => c.toUpper.toLower = c.toLower) hc (by decide +kernel)

end Letters

/-- Only letters are changed, and they become letters. -/
theorem toLower_eq_or (c : Char) :
    c.toLower = c ∨ c.isAlpha = true ∧ c.toLower.isAlpha = true := by
  by_cases h : c.isUpper = true
  · have hc := (isAlpha_iff c).2 (.inl h)
    exact .inr ⟨hc, isAlpha_toLower_of_isAlpha hc⟩
  · exact .inl (dif_neg (mt (isUpper_iff c).2 h))

end Unicode

/-! ## Texts that differ in case -/

/-- The same character, but for the case of an ASCII letter. -/
inductive SameLetter : Char → Char → Prop
  | same (c : Char) : SameLetter c c
  | lowered {c : Char} : c.isUpper = true → SameLetter c c.toLower
  | raised {c : Char} : c.isLower = true → SameLetter c c.toUpper

/-- The same text, but for the case of ASCII letters. -/
def SameLetters (s t : String) : Prop :=
  List.Forall₂ SameLetter s.toList t.toList

theorem SameLetter.toLower_eq {c d : Char} (h : SameLetter c d) : c.toLower = d.toLower := by
  cases h with
  | same => rfl
  | lowered h => rw [Unicode.toLower_toLower_of_isAlpha ((Unicode.isAlpha_iff _).2 (.inl h))]
  | raised h => rw [Unicode.toLower_toUpper_of_isAlpha ((Unicode.isAlpha_iff _).2 (.inr h))]

theorem SameLetters.map_toLower_eq {s t : String} (h : SameLetters s t) :
    s.toList.map Char.toLower = t.toList.map Char.toLower := by
  rw [← List.forall₂_eq_eq_eq, List.forall₂_map_left_iff, List.forall₂_map_right_iff]
  exact h.imp fun _ _ => SameLetter.toLower_eq

/-! ## Lower case -/

namespace Unicode

section Letters

variable {c : Char} (hc : c.isAlpha = true)
include hc

theorem lowerChar_of_isAlpha : lowerChar c = [c.toLower] :=
  if_pos (toNat_lt_of_isAlpha hc)

theorem isCased_of_isAlpha : isCased c = true :=
  (if_pos (toNat_lt_of_isAlpha hc)).trans hc

/-- A letter is not passed over. -/
theorem isCaseIgnorable_of_isAlpha : isCaseIgnorable c = false := by
  rw [isCaseIgnorable, if_pos (toNat_lt_of_isAlpha hc), List.contains_eq_mem,
    decide_eq_false_iff_not]
  simp only [List.mem_cons, List.not_mem_nil, or_false]
  rintro (rfl | rfl | rfl | rfl | rfl) <;> exact absurd hc (by decide)

theorem ne_sigma_of_isAlpha : c ≠ 'Σ' := by
  rintro rfl
  exact absurd hc (by decide)

end Letters

theorem lowerChar_toLower (c : Char) : lowerChar c.toLower = lowerChar c := by
  rcases toLower_eq_or c with h | ⟨hc, hlower⟩
  · rw [h]
  · rw [lowerChar_of_isAlpha hc, lowerChar_of_isAlpha hlower, toLower_toLower_of_isAlpha hc]

theorem isCased_toLower (c : Char) : isCased c.toLower = isCased c := by
  rcases toLower_eq_or c with h | ⟨hc, hlower⟩
  · rw [h]
  · rw [isCased_of_isAlpha hc, isCased_of_isAlpha hlower]

theorem isCaseIgnorable_toLower (c : Char) : isCaseIgnorable c.toLower = isCaseIgnorable c := by
  rcases toLower_eq_or c with h | ⟨hc, hlower⟩
  · rw [h]
  · rw [isCaseIgnorable_of_isAlpha hc, isCaseIgnorable_of_isAlpha hlower]

theorem toLower_eq_sigma_iff (c : Char) : c.toLower = 'Σ' ↔ c = 'Σ' := by
  rcases toLower_eq_or c with h | ⟨hc, hlower⟩
  · rw [h]
  · exact iff_of_false (ne_sigma_of_isAlpha hlower) (ne_sigma_of_isAlpha hc)

theorem casedFirst_map_toLower (s : List Char) :
    casedFirst (s.map Char.toLower) = casedFirst s := by
  induction s with
  | nil => rfl
  | cons c s ih =>
    rw [List.map_cons, casedFirst, casedFirst, isCaseIgnorable_toLower, isCased_toLower, ih]

theorem sigmaEndsWord_map_toLower (before after : List Char) :
    sigmaEndsWord (before.map Char.toLower) (after.map Char.toLower)
      = sigmaEndsWord before after := by
  rw [sigmaEndsWord, sigmaEndsWord, casedFirst_map_toLower, casedFirst_map_toLower]

/-- What follows a text is lowered in the same way if ASCII letters are lowered before, in both. -/
theorem lowerAfter_map_toLower (s : List Char) : ∀ before : List Char,
    lowerAfter (before.map Char.toLower) (s.map Char.toLower) = lowerAfter before s := by
  induction s with
  | nil => exact fun _ => rfl
  | cons c s ih =>
    intro before
    have hrest := ih (c :: before)
    rw [List.map_cons] at hrest
    simp only [List.map_cons, lowerAfter, hrest, toLower_eq_sigma_iff, sigmaEndsWord_map_toLower,
      lowerChar_toLower]

/-- **ASCII letters may be lowered before the rest.** -/
theorem lowerText_map_toLower (s : List Char) : lowerText (s.map Char.toLower) = lowerText s :=
  lowerAfter_map_toLower s []

end Unicode

theorem SameLetters.lowerText_eq {s t : String} (h : SameLetters s t) :
    Unicode.lowerText s.toList = Unicode.lowerText t.toList := by
  rw [← Unicode.lowerText_map_toLower, h.map_toLower_eq, Unicode.lowerText_map_toLower]

/-! ## Text filters -/

/-- **The case of ASCII letters makes no difference.**  Needles that differ in nothing else have the
same clause, except as patterns, and the clause says the same of texts that differ in nothing
else. -/
theorem passes_of_sameLetters (field : List String) {operator : Operator}
    (hoperator : operator ≠ .matchesPattern) {needle needle' s s' : String}
    (hneedle : SameLetters needle needle') (hs : SameLetters s s') :
    ∃ clause, Clause.text? field operator needle = some clause ∧
      Clause.text? field operator needle' = some clause ∧
      clause.test.passes (.text s) = clause.test.passes (.text s') := by
  have hclause : ∀ needle, Clause.text? field operator needle
      = some ⟨field, .text operator (Unicode.lowerText needle.toList)⟩ := by
    intro needle
    unfold Clause.text?
    split
    · exact absurd rfl hoperator
    · rfl
  refine ⟨_, hclause needle, (hclause needle').trans (by rw [hneedle.lowerText_eq]), ?_⟩
  exact congrArg (Test.textPasses operator _) hs.lowerText_eq

/-- The letters around a sigma are written in another case, so that it ends a word as before. -/
theorem passes_of_sameLetters_sigma :
    ((Operator.endsWith ≠ .matchesPattern) ∧ SameLetters "oΣ" "OΣ" ∧
      SameLetters "Λ LoΣ" "Λ lOΣ") ∧
    ∃ clause, Clause.text? ["name"] .endsWith "oΣ" = some clause ∧
      Clause.text? ["name"] .endsWith "OΣ" = some clause ∧
      clause.test.passes (.text "Λ LoΣ") = clause.test.passes (.text "Λ lOΣ") := by
  have hoperator : Operator.endsWith ≠ .matchesPattern := by decide
  have hneedle : SameLetters "oΣ" "OΣ" :=
    .cons (.raised (c := 'o') (by decide)) (.cons (.same 'Σ') .nil)
  have hs : SameLetters "Λ LoΣ" "Λ lOΣ" :=
    .cons (.same 'Λ') (.cons (.same ' ') (.cons (.lowered (c := 'L') (by decide))
      (.cons (.raised (c := 'o') (by decide)) (.cons (.same 'Σ') .nil))))
  exact ⟨⟨hoperator, hneedle, hs⟩, passes_of_sameLetters ["name"] hoperator hneedle hs⟩

end GameJam
