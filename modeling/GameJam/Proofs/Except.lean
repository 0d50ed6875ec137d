import Mathlib.Data.List.Forall2

/-!
# Results and errors

What is tried gives a result or an error.  This file takes results apart: where one comes from a
chain of attempts, each of them has had a result.

## What is here

* `bind_eq_ok_iff`, `map_eq_ok_iff` — a result of an attempt that others follow.
* `mapM_eq_ok_iff` — results for a list of attempts.
* `toOption_map_eq_some_iff` — a result of which something is known.
* `mapM_eq_some_iff`, `mapM_eq_none_of_mem` — lists made item by item, whatever the errors are.
* `toOption_mapM_bind`, `exists_mapM_eq_ok_iff` — lists made in two passes.
-/

set_option autoImplicit false

namespace GameJam

variable {ε α β γ : Type}

theorem bind_eq_ok_iff {x : Except ε α} {f : α → Except ε β} {b : β} :
    (x >>= f) = .ok b ↔ ∃ a, x = .ok a ∧ f a = .ok b := by
  cases x <;> simp [bind, Except.bind]

theorem map_eq_ok_iff {x : Except ε α} {f : α → β} {b : β} :
    x.map f = .ok b ↔ ∃ a, x = .ok a ∧ f a = b := by
  cases x <;> simp [Except.map]

/-- A list is made item by item. -/
theorem mapM_eq_ok_iff {f : α → Except ε β} {list : List α} {made : List β} :
    list.mapM f = .ok made ↔ List.Forall₂ (fun a b => f a = .ok b) list made := by
  induction list generalizing made with
  | nil => cases made <;> simp [pure, Except.pure]
  | cons a list ih =>
    rw [List.mapM_cons, bind_eq_ok_iff, List.forall₂_cons_left_iff]
    simp only [bind_eq_ok_iff, ih, pure, Except.pure, Except.ok.injEq]
    constructor
    · rintro ⟨b, hb, rest, hrest, rfl⟩
      exact ⟨b, rest, hb, hrest, rfl⟩
    · rintro ⟨b, rest, hb, hrest, rfl⟩
      exact ⟨b, hb, rest, hrest, rfl⟩

theorem toOption_eq_some_iff {x : Except ε α} {a : α} : x.toOption = some a ↔ x = .ok a := by
  cases x <;> simp [Except.toOption]

theorem toOption_map_eq_some_iff {x : Except ε α} {f : α → β} {b : β} :
    x.toOption.map f = some b ↔ ∃ a, x = .ok a ∧ f a = b := by
  cases x <;> simp [Except.toOption]

theorem mapM_eq_some_iff {f : α → Option β} {list : List α} {made : List β} :
    list.mapM f = some made ↔ List.Forall₂ (fun a b => f a = some b) list made := by
  induction list generalizing made with
  | nil => cases made <;> simp
  | cons a list ih =>
    simp only [List.mapM_cons, Option.bind_eq_bind, Option.bind_eq_some_iff, Option.pure_def,
      Option.some.injEq, ih, List.forall₂_cons_left_iff]
    constructor
    · rintro ⟨b, hb, rest, hrest, rfl⟩
      exact ⟨b, rest, hb, hrest, rfl⟩
    · rintro ⟨b, rest, hb, hrest, rfl⟩
      exact ⟨b, hb, rest, hrest, rfl⟩

/-- One item that makes nothing is enough. -/
theorem mapM_eq_none_of_mem {f : α → Option β} {list : List α} {a : α} (ha : a ∈ list)
    (h : f a = none) : list.mapM f = none := by
  induction list with
  | nil => cases ha
  | cons b list ih =>
    rw [List.mapM_cons]
    rcases List.mem_cons.1 ha with rfl | ha
    · rw [h]
      rfl
    · rw [ih ha]
      cases f b <;> rfl

/-- What is done to a list in two passes may be done to its items one by one. -/
theorem toOption_mapM_bind (f : α → Except ε β) (g : β → Except ε γ) (list : List α) :
    ((list.mapM f).toOption.bind fun made => (made.mapM g).toOption)
      = list.mapM fun a => (f a).toOption.bind fun b => (g b).toOption := by
  induction list with
  | nil => rfl
  | cons a list ih =>
    rw [List.mapM_cons, List.mapM_cons, ← ih]
    cases f a with
    | error e => rfl
    | ok b =>
      cases list.mapM f with
      | error e =>
        change none = (g b).toOption.bind fun _ => none
        cases g b <;> rfl
      | ok made =>
        have hstep : (b :: made).mapM g = g b >>= fun c => (made.mapM g).map (c :: ·) := by
          rw [List.mapM_cons]
          cases g b <;> cases made.mapM g <;> rfl
        change ((b :: made).mapM g).toOption = (g b).toOption.bind fun c =>
          (made.mapM g).toOption.bind fun rest => some (c :: rest)
        rw [hstep]
        cases g b <;> cases made.mapM g <;> rfl

theorem exists_mapM_eq_ok_iff {f : α → Except ε β} {g : β → Except ε γ} {list : List α}
    {last : List γ} :
    (∃ made, list.mapM f = .ok made ∧ made.mapM g = .ok last)
      ↔ List.Forall₂ (fun a c => ∃ b, f a = .ok b ∧ g b = .ok c) list last := by
  have hpasses := congrArg (· = some last) (toOption_mapM_bind f g list)
  simpa only [eq_iff_iff, mapM_eq_some_iff, Option.bind_eq_some_iff, toOption_eq_some_iff]
    using hpasses

end GameJam
