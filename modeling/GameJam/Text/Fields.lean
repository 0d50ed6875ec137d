/-!
# Fields between separators

A list cut at every occurrence of a separator.  There is always one field more than there are
separators, so that nothing is lost.
-/

set_option autoImplicit false

universe u

namespace GameJam

/-- The parts between separators. -/
def fieldsBetween {α : Type u} [BEq α] (separator : α) : List α → List (List α)
  | [] => [[]]
  | c :: rest =>
    if c == separator then [] :: fieldsBetween separator rest
    else match fieldsBetween separator rest with
      | [] => [[c]]
      | field :: fields => (c :: field) :: fields

theorem fieldsBetween_ne_nil {α : Type u} [BEq α] (separator : α) (list : List α) :
    fieldsBetween separator list ≠ [] := by
  cases list with
  | nil => simp [fieldsBetween]
  | cons c rest =>
    unfold fieldsBetween
    split
    · simp
    · split <;> simp

/-- Nothing is lost: the fields with separators between them are the list. -/
theorem intercalate_fieldsBetween {α : Type u} [BEq α] [LawfulBEq α] (separator : α)
    (list : List α) : [separator].intercalate (fieldsBetween separator list) = list := by
  induction list with
  | nil => rfl
  | cons c rest ih =>
    unfold fieldsBetween
    cases h : fieldsBetween separator rest with
    | nil => exact absurd h (fieldsBetween_ne_nil separator rest)
    | cons field fields =>
      rw [h] at ih
      split
      · rename_i hc
        rw [eq_of_beq hc]
        cases fields <;> simp_all [List.intercalate]
      · cases fields <;> simp_all [List.intercalate]

/-- What stands before the first separator, and what stands after it. -/
def cutAt {α : Type u} [BEq α] (separator : α) (list : List α) : List α × List α :=
  let before := list.takeWhile fun c => !(c == separator)
  (before, list.drop (before.length + 1))

end GameJam
