import GameJam.Text.Unicode.Case
import Mathlib.Data.List.Infix

/-!
# The lower case of a part of a text

A text is brought into lower case as a whole, since a capital sigma is written in another way at the
end of a word.  Everything else depends on the character alone.  So a part of a text has the same
lower case as on its own if its sigmas end words in both or in neither, and only then.

## What is here

* `lowerBetween` — the lower case of a part between what stands around it, with `lowerAfter_append`.
* `lowerBetween_eq_iff` — when it is the same in two places.
* `KeepsSigmas` — the sigmas of a part are what they are on their own.
* `infix_lowerText` — **the lower case of such a part stands in the lower case of the text**.
* `prefix_lowerText_iff`, `suffix_lowerText_iff` — what a text begins or ends with in lower case.
-/

set_option autoImplicit false

namespace GameJam
namespace Unicode

/-- The lower case of a character between two texts, the first one reversed. -/
def lowerAt (before : List Char) (c : Char) (after : List Char) : List Char :=
  if c = 'Σ' then [if sigmaEndsWord before after then 'ς' else 'σ'] else lowerChar c

/-- The lower case of a part between two texts, the first one reversed. -/
def lowerBetween (before part after : List Char) : List Char :=
  match part with
  | [] => []
  | c :: rest => lowerAt before c (rest ++ after) ++ lowerBetween (c :: before) rest after

/-- The lower case of what follows a text is found part by part. -/
theorem lowerAfter_append (part : List Char) : ∀ before after : List Char,
    lowerAfter before (part ++ after)
      = lowerBetween before part after ++ lowerAfter (part.reverse ++ before) after := by
  induction part with
  | nil => exact fun _ _ => rfl
  | cons c rest ih =>
    intro before after
    rw [List.cons_append, lowerAfter, ih, lowerBetween, lowerAt, List.append_assoc,
      List.reverse_cons, List.append_assoc, List.singleton_append]

theorem lowerText_eq (s : List Char) : lowerText s = lowerBetween [] s [] := by
  have h := lowerAfter_append s [] []
  rwa [lowerAfter, List.append_nil, List.append_nil] at h

/-! ## The same lower case in two places -/

theorem length_lowerAt (c : Char) (before after before' after' : List Char) :
    (lowerAt before c after).length = (lowerAt before' c after').length := by
  unfold lowerAt
  split <;> rfl

theorem length_lowerBetween (part : List Char) : ∀ before after before' after' : List Char,
    (lowerBetween before part after).length = (lowerBetween before' part after').length := by
  induction part with
  | nil => exact fun _ _ _ _ => rfl
  | cons c rest ih =>
    intro before after before' after'
    rw [lowerBetween, lowerBetween, List.length_append, List.length_append,
      length_lowerAt c _ _ before' (rest ++ after'), ih _ after _ after']

theorem lowerAt_eq_iff {c : Char} {before after before' after' : List Char} :
    lowerAt before c after = lowerAt before' c after' ↔
      (c = 'Σ' → sigmaEndsWord before after = sigmaEndsWord before' after') := by
  unfold lowerAt
  by_cases hc : c = 'Σ'
  · cases sigmaEndsWord before after <;> cases sigmaEndsWord before' after' <;> simp [hc]
  · simp [hc]

/-- **A part has the same lower case in two places** just if each of its sigmas ends a word in both
or in neither. -/
theorem lowerBetween_eq_iff (part : List Char) : ∀ {before after before' after' : List Char},
    lowerBetween before part after = lowerBetween before' part after' ↔
      ∀ left right, part = left ++ 'Σ' :: right →
        sigmaEndsWord (left.reverse ++ before) (right ++ after)
          = sigmaEndsWord (left.reverse ++ before') (right ++ after') := by
  induction part with
  | nil => simp [lowerBetween]
  | cons c rest ih =>
    intro before after before' after'
    have hsplit : lowerBetween before (c :: rest) after = lowerBetween before' (c :: rest) after' ↔
        lowerAt before c (rest ++ after) = lowerAt before' c (rest ++ after') ∧
          lowerBetween (c :: before) rest after = lowerBetween (c :: before') rest after' :=
      ⟨fun h => List.append_inj h (length_lowerAt c _ _ _ _),
        fun h => congrArg₂ (· ++ ·) h.1 h.2⟩
    rw [hsplit, lowerAt_eq_iff, ih]
    constructor
    · rintro ⟨hfirst, hrest⟩ (_ | ⟨d, left⟩) right h
      · obtain ⟨rfl, rfl⟩ := List.cons.inj h
        exact hfirst rfl
      · obtain ⟨rfl, rfl⟩ := List.cons.inj h
        simpa using hrest left right rfl
    · intro h
      refine ⟨?_, fun left right hrest => ?_⟩
      · rintro rfl
        exact h [] rest rfl
      · simpa using h (c :: left) right (by rw [hrest, List.cons_append])

/-! ## Parts that keep their sigmas -/

/-- The sigmas of a part that stands between two texts end words there just if they do so in the
part on its own. -/
def KeepsSigmas (before part after : List Char) : Prop :=
  ∀ left right, part = left ++ 'Σ' :: right →
    sigmaEndsWord (left.reverse ++ before.reverse) (right ++ after)
      = sigmaEndsWord left.reverse right

variable {before part after : List Char}

theorem keepsSigmas_iff :
    KeepsSigmas before part after ↔ lowerBetween before.reverse part after = lowerText part := by
  rw [lowerText_eq, lowerBetween_eq_iff, KeepsSigmas]
  simp only [List.append_nil]

instance : Decidable (KeepsSigmas before part after) :=
  decidable_of_iff _ keepsSigmas_iff.symm

/-- Without a capital sigma there is nothing to keep. -/
theorem keepsSigmas_of_not_mem (h : 'Σ' ∉ part) : KeepsSigmas before part after := by
  rintro left right rfl
  simp at h

/-- A text in lower case, part by part. -/
theorem lowerText_append_append (before part after : List Char) :
    lowerText (before ++ part ++ after)
      = lowerBetween [] before (part ++ after) ++ lowerBetween before.reverse part after
        ++ lowerAfter (part.reverse ++ before.reverse) after := by
  rw [lowerText, List.append_assoc before, lowerAfter_append, lowerAfter_append, List.append_nil,
    List.append_assoc]

/-- **The lower case of a part that keeps its sigmas stands in the lower case of the text.** -/
theorem infix_lowerText (h : KeepsSigmas before part after) :
    lowerText part <:+: lowerText (before ++ part ++ after) := by
  rw [lowerText_append_append, keepsSigmas_iff.1 h]
  exact ⟨_, _, rfl⟩

/-- A text begins in lower case with the lower case of its beginning just if that keeps its
sigmas. -/
theorem prefix_lowerText_iff :
    lowerText part <+: lowerText (part ++ after) ↔ KeepsSigmas [] part after := by
  have hparts : lowerText (part ++ after)
      = lowerBetween [] part after ++ lowerAfter part.reverse after := by
    rw [lowerText, lowerAfter_append, List.append_nil]
  rw [hparts, keepsSigmas_iff, List.reverse_nil]
  constructor
  · intro h
    have hlength : (lowerText part).length = (lowerBetween [] part after).length := by
      rw [lowerText_eq, length_lowerBetween part _ _ _ after]
    exact ((List.prefix_of_prefix_length_le h (List.prefix_append _ _) hlength.le).eq_of_length
      hlength).symm
  · intro h
    rw [h]
    exact List.prefix_append _ _

/-- A text ends in lower case with the lower case of its end just if that keeps its sigmas. -/
theorem suffix_lowerText_iff :
    lowerText part <:+ lowerText (before ++ part) ↔ KeepsSigmas before part [] := by
  have hparts : lowerText (before ++ part)
      = lowerBetween [] before part ++ lowerBetween before.reverse part [] := by
    have h := lowerText_append_append before part []
    rwa [lowerAfter, List.append_nil, List.append_nil, List.append_nil] at h
  rw [hparts, keepsSigmas_iff]
  constructor
  · intro h
    have hlength : (lowerText part).length = (lowerBetween before.reverse part []).length := by
      rw [lowerText_eq, length_lowerBetween part _ _ before.reverse]
    exact ((List.suffix_of_suffix_length_le h (List.suffix_append _ _) hlength.le).eq_of_length
      hlength).symm
  · intro h
    rw [h]
    exact List.suffix_append _ _

end Unicode
end GameJam
