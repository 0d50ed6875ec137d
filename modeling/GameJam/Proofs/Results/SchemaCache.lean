import GameJam.Results.SchemaCache

/-!
# Which schema a cache gives

A cache is asked for the schemas of any number of datasets, and told in between where categories are
to be read from.  Two things can be said of a whole run of it.  Each schema is the one of its
dataset under the source that is in force at that moment, whatever was built before.  And two
answers are the same schema, not merely equal ones, exactly when nothing has happened in between
that would make a difference: no other dataset was asked for, and the source was not changed.  One
change is enough, even if it is taken back.

The datasets are given by their numbers, so that two of them may have the same games.

## What is here

* `SchemaCache.Request`, with `step`, `run` and `answers` — a run of a cache.
* `SchemaCache.inForce` — the source of categories after some requests.
* `SchemaCache.Sound`, `SchemaCache.Lost` — what is true of the schema that is held, and of a schema
  that is not held any more; neither ends with a request.
* `SchemaCache.answers_of_run` — **the two statements above**.
-/

set_option autoImplicit false

namespace GameJam
namespace SchemaCache

/-! ## Runs -/

/-- What a cache is asked for: to change the source of categories, or the schema of the dataset with
a number. -/
inductive Request where
  | setCategories (categories : CategorySource)
  | schemaFor (dataset : Nat)

namespace Request

/-- The source that a request asks for. -/
def categories? : Request → Option CategorySource
  | setCategories categories => some categories
  | schemaFor _ => none

/-- The request is about this dataset, or about the source that is in force anyway. -/
def Keeps (dataset : Nat) (categories : CategorySource) : Request → Prop
  | setCategories other => other = categories
  | schemaFor other => other = dataset

end Request

/-- The source of categories after some requests: the last one that was asked for. -/
def inForce (first : CategorySource) (requests : List Request) : CategorySource :=
  (requests.filterMap Request.categories?).getLastD first

section Run

variable (datasets : Nat → Dataset)

/-- The schema that a request is answered with, if it asks for one, and the cache after it. -/
def step (cache : SchemaCache) : Request → Option (Shared Schema) × SchemaCache
  | .setCategories categories => (none, cache.setCategories categories)
  | .schemaFor dataset =>
    let (schema, cache) := cache.schemaFor ⟨dataset, datasets dataset⟩
    (some schema, cache)

/-- The cache after some requests. -/
def run (cache : SchemaCache) (requests : List Request) : SchemaCache :=
  requests.foldl (fun cache request => (cache.step datasets request).2) cache

/-- What each of some requests is answered with. -/
def answers (cache : SchemaCache) : List Request → List (Option (Shared Schema))
  | [] => []
  | request :: rest =>
    let (answer, cache) := cache.step datasets request
    answer :: cache.answers rest

variable {datasets} {cache : SchemaCache} {requests : List Request}

/-- An answer is given by the cache that all requests before it have left. -/
theorem getElem?_answers (i : Nat) : (cache.answers datasets requests)[i]? =
    requests[i]?.map fun request =>
      ((cache.run datasets (requests.take i)).step datasets request).1 := by
  induction requests generalizing cache i with
  | nil => simp [answers]
  | cons request rest ih =>
    cases i with
    | zero => simp [answers, run]
    | succ i => simpa [answers, run] using ih i

theorem getElem?_answers_of_schemaFor {i dataset : Nat}
    (h : requests[i]? = some (.schemaFor dataset)) : (cache.answers datasets requests)[i]? =
      some (some ((cache.run datasets (requests.take i)).schemaFor
        ⟨dataset, datasets dataset⟩).1) := by
  rw [getElem?_answers, h]
  rfl

theorem run_take_succ {i : Nat} {request : Request} (h : requests[i]? = some request) :
    cache.run datasets (requests.take (i + 1)) =
      ((cache.run datasets (requests.take i)).step datasets request).2 := by
  rw [run, List.take_add_one, h, List.foldl_append]
  rfl

/-! ## One request -/

theorem schemaFor_of_held {dataset : Shared Dataset} {schema : Shared Schema}
    (h : cache.held = some (dataset.number, schema)) :
    cache.schemaFor dataset = (schema, cache) := by
  simp [schemaFor, h]

theorem schemaFor_of_not_held {dataset : Shared Dataset}
    (h : ∀ schema, cache.held ≠ some (dataset.number, schema)) :
    cache.schemaFor dataset = cache.build dataset := by
  rw [schemaFor]
  split
  · rename_i number schema hheld
    refine if_neg ?_
    rintro rfl
    exact h schema hheld
  · rfl

/-- A cache gives the schema that it holds for the dataset, or else a new one, which it then
holds. -/
theorem schemaFor_cases (cache : SchemaCache) (dataset : Shared Dataset) :
    (∃ schema, cache.held = some (dataset.number, schema) ∧
      cache.schemaFor dataset = (schema, cache)) ∨
    ((∀ schema, cache.held ≠ some (dataset.number, schema)) ∧
      cache.schemaFor dataset = cache.build dataset) := by
  by_cases h : ∃ schema, cache.held = some (dataset.number, schema)
  · obtain ⟨schema, hschema⟩ := h
    exact .inl ⟨schema, hschema, schemaFor_of_held hschema⟩
  · have hne := not_exists.1 h
    exact .inr ⟨hne, schemaFor_of_not_held hne⟩

theorem held_schemaFor (cache : SchemaCache) (dataset : Shared Dataset) :
    (cache.schemaFor dataset).2.held = some (dataset.number, (cache.schemaFor dataset).1) := by
  obtain ⟨schema, hheld, h⟩ | ⟨-, h⟩ := cache.schemaFor_cases dataset
  · rw [h, hheld]
  · rw [h]
    rfl

/-- A schema that is asked for again is the same one. -/
theorem schemaFor_schemaFor (cache : SchemaCache) (dataset : Shared Dataset) :
    (cache.schemaFor dataset).2.schemaFor dataset = cache.schemaFor dataset :=
  schemaFor_of_held (cache.held_schemaFor dataset)

@[simp]
theorem categories_schemaFor (cache : SchemaCache) (dataset : Shared Dataset) :
    (cache.schemaFor dataset).2.categories = cache.categories := by
  obtain ⟨schema, -, h⟩ | ⟨-, h⟩ := cache.schemaFor_cases dataset <;> rw [h]
  rfl

theorem categories_step (cache : SchemaCache) (request : Request) :
    (cache.step datasets request).2.categories = request.categories?.getD cache.categories := by
  cases request with
  | setCategories categories =>
    rw [step, setCategories]
    split
    · assumption
    · rfl
  | schemaFor dataset => exact cache.categories_schemaFor _

/-- The source that a cache uses is the one in force. -/
theorem categories_run (datasets : Nat → Dataset) (cache : SchemaCache) (requests : List Request) :
    (cache.run datasets requests).categories = inForce cache.categories requests := by
  induction requests generalizing cache with
  | nil => rfl
  | cons request rest ih =>
    have hrest := ih (cache.step datasets request).2
    rw [categories_step] at hrest
    refine hrest.trans ?_
    cases request <;> simp only [inForce, Request.categories?, List.filterMap_cons,
      List.getLastD_cons, Option.getD_some, Option.getD_none]

/-! ## What is true of the schema that is held -/

/-- The schema that is held is the one of its dataset under the source of the cache, and its number
has been given out. -/
structure Sound (datasets : Nat → Dataset) (cache : SchemaCache) : Prop where
  value : ∀ dataset schema, cache.held = some (dataset, schema) →
    schema.value = jamSchema (datasets dataset).games cache.categories
  number : ∀ dataset schema, cache.held = some (dataset, schema) → schema.number < cache.next

theorem sound_start (categories : CategorySource) : Sound datasets { categories } where
  value _ _ h := by simp at h
  number _ _ h := by simp at h

theorem Sound.step (h : cache.Sound datasets) (request : Request) :
    (cache.step datasets request).2.Sound datasets := by
  cases request with
  | setCategories categories =>
    rw [SchemaCache.step, setCategories]
    split
    · exact h
    · exact { value := by simp, number := by simp }
  | schemaFor dataset =>
    obtain ⟨schema, -, hsame⟩ | ⟨-, hnew⟩ := cache.schemaFor_cases ⟨dataset, datasets dataset⟩
    · rw [SchemaCache.step, hsame]
      exact h
    · rw [SchemaCache.step, hnew]
      constructor
      · rintro _ _ ⟨⟩
        rfl
      · rintro _ _ ⟨⟩
        exact Nat.lt_succ_self cache.next

theorem Sound.run (h : cache.Sound datasets) (requests : List Request) :
    (cache.run datasets requests).Sound datasets := by
  induction requests generalizing cache with
  | nil => exact h
  | cons request rest ih => exact ih (h.step request)

theorem Sound.value_schemaFor (h : cache.Sound datasets) (dataset : Nat) :
    (cache.schemaFor ⟨dataset, datasets dataset⟩).1.value
      = jamSchema (datasets dataset).games cache.categories := by
  obtain ⟨schema, hheld, hsame⟩ | ⟨-, hnew⟩ := cache.schemaFor_cases ⟨dataset, datasets dataset⟩
  · rw [hsame]
    exact h.value dataset schema hheld
  · rw [hnew]
    rfl

/-! ## When a schema is not held any more -/

/-- The schema with this number has been given out, and is not held any more. -/
structure Lost (number : Nat) (cache : SchemaCache) : Prop where
  given : number < cache.next
  held : ∀ dataset schema, cache.held = some (dataset, schema) → schema.number ≠ number

theorem lost_build {number : Nat} (h : number < cache.next) (dataset : Shared Dataset) :
    (cache.build dataset).2.Lost number where
  given := Nat.lt_succ_of_lt h
  held := by
    rintro _ _ ⟨⟩
    exact (Nat.ne_of_lt h).symm

/-- What is lost never comes back. -/
theorem Lost.step {number : Nat} (h : cache.Lost number) (request : Request) :
    (cache.step datasets request).2.Lost number := by
  cases request with
  | setCategories categories =>
    rw [SchemaCache.step, setCategories]
    split
    · exact h
    · exact ⟨h.given, by simp⟩
  | schemaFor dataset =>
    obtain ⟨schema, -, hsame⟩ | ⟨-, hnew⟩ := cache.schemaFor_cases ⟨dataset, datasets dataset⟩
    · rw [SchemaCache.step, hsame]
      exact h
    · rw [SchemaCache.step, hnew]
      exact lost_build h.given _

theorem Lost.number_schemaFor_ne {number : Nat} (h : cache.Lost number)
    (dataset : Shared Dataset) : (cache.schemaFor dataset).1.number ≠ number := by
  obtain ⟨schema, hheld, hsame⟩ | ⟨-, hnew⟩ := cache.schemaFor_cases dataset
  · rw [hsame]
    exact h.held _ schema hheld
  · rw [hnew]
    exact (Nat.ne_of_lt h.given).symm

variable {dataset : Nat} {schema : Shared Schema}

theorem step_of_keeps (hheld : cache.held = some (dataset, schema)) {request : Request}
    (h : request.Keeps dataset cache.categories) : (cache.step datasets request).2 = cache := by
  cases request with
  | setCategories categories => exact if_pos h.symm
  | schemaFor other =>
    obtain rfl : other = dataset := h
    rw [step, schemaFor_of_held hheld]

theorem lost_step_of_not_keeps (hheld : cache.held = some (dataset, schema))
    (hnumber : schema.number < cache.next) {request : Request}
    (h : ¬request.Keeps dataset cache.categories) :
    (cache.step datasets request).2.Lost schema.number := by
  cases request with
  | setCategories categories =>
    have hne : cache.categories ≠ categories := fun heq => h heq.symm
    rw [step, setCategories, if_neg hne]
    exact ⟨hnumber, by simp⟩
  | schemaFor other =>
    obtain ⟨_, hother, -⟩ | ⟨-, hnew⟩ := cache.schemaFor_cases ⟨other, datasets other⟩
    · rw [hheld, Option.some_inj, Prod.mk.injEq] at hother
      exact absurd hother.1.symm h
    · rw [step, hnew]
      exact lost_build hnumber _

theorem number_schemaFor_eq_iff (hheld : cache.held = some (dataset, schema))
    (hnumber : schema.number < cache.next) (other : Shared Dataset) :
    (cache.schemaFor other).1.number = schema.number ↔ other.number = dataset := by
  obtain ⟨given, hgiven, hsame⟩ | ⟨hne, hnew⟩ := cache.schemaFor_cases other
  · rw [hheld, Option.some_inj, Prod.mk.injEq] at hgiven
    simp [hsame, hgiven.1, hgiven.2]
  · rw [hnew]
    refine iff_of_false (Nat.ne_of_gt hnumber) ?_
    rintro rfl
    exact hne schema hheld

/-! ## Whole runs -/

/-- The requests from the `i`-th to before the `j`-th are all about one dataset, or about the source
that is in force anyway. -/
def KeptBetween (first : CategorySource) (requests : List Request) (dataset i j : Nat) : Prop :=
  ∀ k, i ≤ k → k < j → ∀ request ∈ requests[k]?,
    request.Keeps dataset (inForce first (requests.take k))

variable {first : CategorySource} {i j : Nat}

theorem keptBetween_succ (hij : i ≤ j) : KeptBetween first requests dataset i (j + 1) ↔
    KeptBetween first requests dataset i j ∧
      ∀ request ∈ requests[j]?, request.Keeps dataset (inForce first (requests.take j)) := by
  constructor
  · exact fun h => ⟨fun k hik hkj => h k hik (Nat.lt_succ_of_lt hkj), h j hij (Nat.lt_succ_self j)⟩
  · rintro ⟨hbefore, hlast⟩ k hik hkj
    obtain hlt | rfl := Nat.lt_or_eq_of_le (Nat.le_of_lt_succ hkj)
    · exact hbefore k hik hlt
    · exact hlast

/-- The request that a schema answers keeps to its dataset. -/
theorem keptBetween_of_schemaFor (hi : requests[i]? = some (.schemaFor dataset)) :
    KeptBetween first requests dataset i j ↔ KeptBetween first requests dataset (i + 1) j := by
  refine ⟨fun h k hik => h k (Nat.le_of_succ_le hik), fun h k hik hkj request hrequest => ?_⟩
  obtain hlt | rfl := Nat.lt_or_eq_of_le hik
  · exact h k hlt hkj request hrequest
  · obtain rfl : Request.schemaFor dataset = request := Option.some_inj.1 (hi.symm.trans hrequest)
    rfl

/-- **A schema that is held stays as long as all requests keep to it, and it is lost with the first
one that does not.**  The induction is on the number of requests since it was held. -/
theorem run_take_of_held
    (hheld : (run datasets { categories := first } (requests.take i)).held
      = some (dataset, schema)) (hij : i ≤ j) :
    (KeptBetween first requests dataset i j →
      run datasets { categories := first } (requests.take j)
        = run datasets { categories := first } (requests.take i)) ∧
    (¬KeptBetween first requests dataset i j →
      (run datasets { categories := first } (requests.take j)).Lost schema.number) := by
  have hnumber := ((sound_start first).run (requests.take i)).number dataset schema hheld
  induction hij with
  | refl => exact ⟨fun _ => rfl, fun h => (h fun k hik hki => absurd hki (Nat.not_lt.2 hik)).elim⟩
  | @step j hij ih =>
    rw [keptBetween_succ hij]
    cases hrequest : requests[j]? with
    | none =>
      rw [List.take_add_one, hrequest, Option.toList_none, List.append_nil]
      simpa using ih
    | some request =>
      rw [run_take_succ hrequest]
      by_cases hbefore : KeptBetween first requests dataset i j
      · have hcategories := categories_run datasets { categories := first } (requests.take j)
        rw [ih.1 hbefore] at hcategories ⊢
        simp only [hbefore, true_and, Option.mem_some_iff, forall_eq', ← hcategories]
        exact ⟨step_of_keeps hheld, lost_step_of_not_keeps hheld hnumber⟩
      · exact ⟨fun h => absurd h.1 hbefore, fun _ => (ih.2 hbefore).step request⟩

/-- **Every schema that a cache gives is the one of its dataset under the source in force, and two
of them are the same one exactly if every request from the first to the second keeps to the dataset
and to the source.** -/
theorem answers_of_run (datasets : Nat → Dataset) (first : CategorySource)
    (requests : List Request) :
    (∀ i dataset, requests[i]? = some (.schemaFor dataset) →
      ∃ schema, (answers datasets { categories := first } requests)[i]? = some (some schema) ∧
        schema.value = jamSchema (datasets dataset).games (inForce first (requests.take i))) ∧
    ∀ i j dataset other schema later, i < j →
      requests[i]? = some (.schemaFor dataset) → requests[j]? = some (.schemaFor other) →
      (answers datasets { categories := first } requests)[i]? = some (some schema) →
      (answers datasets { categories := first } requests)[j]? = some (some later) →
      (later.number = schema.number ↔ KeptBetween first requests dataset i (j + 1)) := by
  refine ⟨fun i dataset hi => ?_, fun i j dataset other schema later hij hi hj hschema hlater => ?_⟩
  · refine ⟨_, getElem?_answers_of_schemaFor hi, ?_⟩
    rw [((sound_start first).run (requests.take i)).value_schemaFor, categories_run]
  · rw [getElem?_answers_of_schemaFor hi, Option.some_inj, Option.some_inj] at hschema
    rw [getElem?_answers_of_schemaFor hj, Option.some_inj, Option.some_inj] at hlater
    have hheld : (run datasets { categories := first } (requests.take (i + 1))).held
        = some (dataset, schema) := by
      rw [run_take_succ hi, ← hschema]
      exact held_schemaFor _ _
    have hnumber := ((sound_start first).run (requests.take (i + 1))).number dataset schema hheld
    have hrun := run_take_of_held hheld (Nat.succ_le_of_lt hij)
    rw [keptBetween_of_schemaFor hi, keptBetween_succ (Nat.succ_le_of_lt hij), hj, ← hlater]
    by_cases hkept : KeptBetween first requests dataset (i + 1) j
    · rw [hrun.1 hkept, number_schemaFor_eq_iff hheld hnumber]
      simp [hkept, Request.Keeps]
    · exact iff_of_false ((hrun.2 hkept).number_schemaFor_ne _) fun h => hkept h.1

/-- The source set to what it is makes no difference, but another dataset with the same games does,
also when the first one is asked for again. -/
theorem answers_of_run_switched_back :
    ∃ schema again later : Shared Schema,
      answers (fun _ => ⟨[]⟩) { categories := .allRecords } [.schemaFor 0,
          .setCategories .allRecords, .schemaFor 0, .schemaFor 1, .schemaFor 0]
        = [some schema, none, some again, some ⟨1, schema.value⟩, some later] ∧
      again.number = schema.number ∧ later.number ≠ again.number := by
  have hrun := (answers_of_run (fun _ => ⟨[]⟩) .allRecords [.schemaFor 0,
    .setCategories .allRecords, .schemaFor 0, .schemaFor 1, .schemaFor 0]).2
  refine ⟨_, _, _, rfl, (hrun 0 2 0 0 _ _ (by decide) rfl rfl rfl rfl).2 ?_,
    fun h => ?_⟩
  · rintro (_ | _ | _ | k) - hk request hrequest
    · cases hrequest; rfl
    · cases hrequest; rfl
    · cases hrequest; rfl
    · omega
  · have hkept := (hrun 2 4 0 0 _ _ (by decide) rfl rfl rfl rfl).1 h
    exact absurd (hkept 3 (by decide) (by decide) _ rfl) (by decide : ¬(1 = 0))

end Run
end SchemaCache
end GameJam
