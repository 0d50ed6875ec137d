import GameJam.Text.Blank
import GameJam.Text.Fields
import Mathlib.Data.List.DropRight
import Mathlib.Data.List.TakeWhile

/-!
# Parts of a text

What cutting and trimming leave alone.  Fields put together with a separator that is in none of them
are cut apart as they were, a list is cut at the first separator, and what is trimmed is the blanks
at both ends and nothing else.
-/

set_option autoImplicit false

universe u

namespace GameJam

section Fields

variable {α : Type u} [BEq α]

/-- The fields are those of the standard library. -/
theorem fieldsBetween_eq_splitOn (separator : α) (list : List α) :
    fieldsBetween separator list = list.splitOn separator := by
  induction list with
  | nil => rfl
  | cons c rest ih =>
    rw [fieldsBetween, List.splitOn_cons_eq_if_modifyHead, ih]
    cases hfields : rest.splitOn separator with
    | nil => exact absurd hfields (List.splitOn_ne_nil separator rest)
    | cons field fields => rfl

variable [LawfulBEq α]

/-- **Fields without the separator are cut apart as they were put together.** -/
theorem fieldsBetween_intercalate {separator : α} {fields : List (List α)} (hne : fields ≠ [])
    (h : ∀ field ∈ fields, separator ∉ field) :
    fieldsBetween separator ([separator].intercalate fields) = fields := by
  rw [fieldsBetween_eq_splitOn, List.splitOn_intercalate separator h hne]

/-- No field has the separator in it. -/
theorem not_mem_of_mem_fieldsBetween {separator : α} {list : List α} :
    ∀ field ∈ fieldsBetween separator list, separator ∉ field := by
  induction list with
  | nil => simp [fieldsBetween]
  | cons c rest ih =>
    rw [fieldsBetween]
    cases hfields : fieldsBetween separator rest with
    | nil => exact absurd hfields (fieldsBetween_ne_nil separator rest)
    | cons field fields =>
      rw [hfields, List.forall_mem_cons] at ih
      split_ifs with hc
      · exact List.forall_mem_cons.2 ⟨List.not_mem_nil, List.forall_mem_cons.2 ih⟩
      · refine List.forall_mem_cons.2 ⟨?_, ih.2⟩
        rw [List.mem_cons, not_or]
        exact ⟨fun heq => hc (beq_iff_eq.2 heq.symm), ih.1⟩

theorem cutAt_append_cons {separator : α} {before : List α} (h : separator ∉ before)
    (after : List α) : cutAt separator (before ++ separator :: after) = (before, after) := by
  have htake : (before ++ separator :: after).takeWhile (fun c => !(c == separator)) = before := by
    rw [List.takeWhile_append_of_pos]
    · simp
    · intro c hc
      have hother : c ≠ separator := fun heq => h (heq ▸ hc)
      simp [hother]
  simp only [cutAt, htake]
  simp

end Fields

/-! ## Blanks around a text -/

theorem dropWhile_isBlank_eq_self {s : List Char} (h : ∀ c ∈ s.head?, isBlank c = false) :
    s.dropWhile isBlank = s := by
  cases s with
  | nil => rfl
  | cons c s => rw [List.dropWhile_cons_of_neg (by simp [h c rfl])]

theorem not_isBlank_of_mem_head?_dropWhile (s : List Char) :
    ∀ c ∈ (s.dropWhile isBlank).head?, isBlank c = false := by
  intro c hc
  have hhead := List.head?_dropWhile_not isBlank s
  rwa [Option.mem_def.1 hc] at hhead

/-- **Blanks around a text are trimmed**, and nothing else is. -/
theorem trim_append_append {before s after : List Char} (hbefore : ∀ c ∈ before, isBlank c = true)
    (hafter : ∀ c ∈ after, isBlank c = true) (hfirst : ∀ c ∈ s.head?, isBlank c = false)
    (hlast : ∀ c ∈ s.getLast?, isBlank c = false) : trim (before ++ s ++ after) = s := by
  rw [trim, List.append_assoc, List.dropWhile_append_of_pos hbefore]
  cases s with
  | nil =>
    rw [List.nil_append, List.dropWhile_eq_nil_iff.2 hafter]
    rfl
  | cons c s =>
    have hkeep : (c :: s ++ after).dropWhile isBlank = c :: s ++ after :=
      dropWhile_isBlank_eq_self fun d hd => hfirst d hd
    rw [hkeep, List.reverse_append,
      List.dropWhile_append_of_pos fun d hd => hafter d (List.mem_reverse.1 hd),
      dropWhile_isBlank_eq_self (by rwa [List.head?_reverse]), List.reverse_reverse]

theorem exists_eq_append_trim (s : List Char) : ∃ before after, s = before ++ trim s ++ after ∧
    (∀ c ∈ before, isBlank c = true) ∧ ∀ c ∈ after, isBlank c = true := by
  have htrim : trim s = (s.dropWhile isBlank).rdropWhile isBlank := rfl
  refine ⟨s.takeWhile isBlank, (s.dropWhile isBlank).rtakeWhile isBlank, ?_, ?_, ?_⟩
  · rw [List.append_assoc, htrim, List.rdropWhile_append_rtakeWhile,
      List.takeWhile_append_dropWhile]
  · exact fun c hc => List.mem_takeWhile_imp hc
  · exact fun c hc => List.mem_rtakeWhile_imp hc

/-- What is left begins with no blank. -/
theorem not_isBlank_of_mem_head?_trim (s : List Char) :
    ∀ c ∈ (trim s).head?, isBlank c = false := by
  intro c hc
  obtain ⟨rest, hrest⟩ := List.head?_eq_some_iff.1 hc
  obtain ⟨after, hafter⟩ : trim s <+: s.dropWhile isBlank :=
    List.rdropWhile_prefix isBlank (s.dropWhile isBlank)
  refine not_isBlank_of_mem_head?_dropWhile s c ?_
  rw [← hafter, hrest]
  rfl

/-- What is left ends with no blank. -/
theorem not_isBlank_of_mem_getLast?_trim (s : List Char) :
    ∀ c ∈ (trim s).getLast?, isBlank c = false := by
  rw [trim, List.getLast?_reverse]
  exact not_isBlank_of_mem_head?_dropWhile _

theorem trim_eq_self {s : List Char} (h : ∀ c ∈ s, isBlank c = false) : trim s = s := by
  have htrim := trim_append_append (List.forall_mem_nil _) (List.forall_mem_nil _)
    (fun c hc => h c (List.mem_of_mem_head? hc)) fun c hc => h c (List.mem_of_mem_getLast? hc)
  rwa [List.nil_append, List.append_nil] at htrim

/-- A blank behind a text is trimmed. -/
theorem trim_append_of_isBlank {s : List Char} {c : Char} (h : ∀ d ∈ s, isBlank d = false)
    (hc : isBlank c = true) : trim (s ++ [c]) = s :=
  trim_append_append (List.forall_mem_nil _) (List.forall_mem_singleton.2 hc)
    (fun d hd => h d (List.mem_of_mem_head? hd)) fun d hd => h d (List.mem_of_mem_getLast? hd)

theorem trim_eq_nil_iff {s : List Char} : trim s = [] ↔ ∀ c ∈ s, isBlank c = true := by
  constructor
  · intro h
    obtain ⟨before, after, heq, hbefore, hafter⟩ := exists_eq_append_trim s
    rw [heq, h, List.append_nil]
    exact List.forall_mem_append.2 ⟨hbefore, hafter⟩
  · intro h
    rw [trim, List.dropWhile_eq_nil_iff.2 h]
    rfl

/-- A text in which not everything is a blank is not blank. -/
theorem trim_ne_nil {s : List Char} {c : Char} (hmem : c ∈ s) (h : isBlank c = false) :
    trim s ≠ [] := by
  intro hnil
  rw [trim_eq_nil_iff.1 hnil c hmem] at h
  cases h

end GameJam
