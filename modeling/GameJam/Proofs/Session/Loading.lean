import GameJam.Proofs.Except
import GameJam.Proofs.Results.SchemaCache
import GameJam.Session

/-!
# What a session holds

A session answers from a dataset that it may have loaded long ago, and from a schema that it may
have built for another dataset.  What it holds is right all the same: the schema that it gives for
the dataset of a command is the one that a new session would build.

## What is here

* `Session.dataset_cases` — a dataset is held already, or it is loaded and then held.
* `Session.consult` — the dataset and the schema that a command works on.
* `Session.listing` — the page that is listed; `Session.answer_list` says how it is shown.
* `Session.Reached` — the sessions that can come about under a configuration.
* `Session.Sound` — what is true of all of them, and `Session.Sound.schema_value`, **the schema of a
  dataset is that of its games**.
-/

set_option autoImplicit false

namespace GameJam

/-- The path of the dataset that is asked for: the one that is given, or else the one of the
configuration. -/
def Config.path? (config : Config) (given : Option String) : Option String :=
  given <|> config.dataset

namespace Session

variable {session after : Session} {files : Files} {given : Option String}
  {dataset : Shared Dataset}

/-! ## Datasets -/

theorem held?_eq_some_iff {path : String} : session.held? path = some dataset ↔
    ∃ other, session.held = some (other, dataset) ∧ Path.same other path = true := by
  rw [held?]
  split
  · rename_i other held hheld
    rw [hheld, Option.ite_none_right_eq_some, Option.some_inj]
    constructor
    · rintro ⟨hsame, rfl⟩
      exact ⟨other, rfl, hsame⟩
    · rintro ⟨_, ⟨⟩, hsame⟩
      exact ⟨hsame, rfl⟩
  · rename_i hheld
    simp [hheld]

theorem held?_hold (session : Session) (path : String) (dataset : Dataset) :
    (session.hold path dataset).2.held? path = some (session.hold path dataset).1 :=
  held?_eq_some_iff.2 ⟨path, rfl, Path.same_self path⟩

/-- A dataset that is held is given without a look at the files. -/
theorem dataset_of_held? {path : String} (hpath : session.config.path? given = some path)
    (hheld : session.held? path = some dataset) (files : Files) :
    session.dataset files given = .ok (dataset, session) := by
  rw [Session.dataset, show (given <|> session.config.dataset) = some path from hpath]
  simp only [hheld]

/-- A dataset that is not held is loaded. -/
theorem dataset_of_not_held {path : String} (hpath : session.config.path? given = some path)
    (hheld : session.held? path = none) (files : Files) :
    session.dataset files given = (Dataset.load files path).map (session.hold path) := by
  rw [Session.dataset, show (given <|> session.config.dataset) = some path from hpath]
  simp only [hheld]

theorem dataset_of_no_path (hpath : session.config.path? given = none) (files : Files) :
    session.dataset files given = .error .noDataset := by
  rw [Session.dataset, show (given <|> session.config.dataset) = none from hpath]

/-- **A dataset is held already, or it is loaded and then held.** -/
theorem dataset_cases (h : session.dataset files given = .ok (dataset, after)) :
    ∃ path, session.config.path? given = some path ∧
      ((session.held? path = some dataset ∧ after = session) ∨
        (session.held? path = none ∧ Dataset.load files path = .ok dataset.value ∧
          dataset.number = session.next ∧ after = (session.hold path dataset.value).2)) := by
  cases hpath : session.config.path? given with
  | none =>
    rw [dataset_of_no_path hpath] at h
    cases h
  | some path =>
    refine ⟨path, rfl, ?_⟩
    cases hheld : session.held? path with
    | some held =>
      rw [dataset_of_held? hpath hheld] at h
      cases h
      exact .inl ⟨rfl, rfl⟩
    | none =>
      rw [dataset_of_not_held hpath hheld] at h
      obtain ⟨loaded, hload, hhold⟩ := map_eq_ok_iff.1 h
      cases hhold
      exact .inr ⟨rfl, hload, rfl, rfl⟩

theorem config_of_dataset (h : session.dataset files given = .ok (dataset, after)) :
    after.config = session.config := by
  obtain ⟨path, -, ⟨-, rfl⟩ | ⟨-, -, -, rfl⟩⟩ := dataset_cases h <;> rfl

/-- A dataset that has been given is held. -/
theorem held?_of_dataset (h : session.dataset files given = .ok (dataset, after)) :
    ∃ path, after.config.path? given = some path ∧ after.held? path = some dataset := by
  rw [config_of_dataset h]
  obtain ⟨path, hpath, ⟨hheld, rfl⟩ | ⟨-, -, hnumber, rfl⟩⟩ := dataset_cases h
  · exact ⟨path, hpath, hheld⟩
  · refine ⟨path, hpath, (session.held?_hold path dataset.value).trans ?_⟩
    rw [hold, ← hnumber]

/-- The games that are asked for, whichever loading they are from. -/
def games (session : Session) (files : Files) (given : Option String) :
    Except CommandError Dataset :=
  (session.dataset files given).map fun (dataset, _) => dataset.value

/-! ## Commands -/

/-- The dataset that is asked for, its schema, and the session after both. -/
def consult (session : Session) (files : Files) (given : Option String) :
    Except CommandError (Dataset × Schema × Session) :=
  (session.dataset files given).map fun (dataset, loaded) =>
    (dataset.value, (loaded.schema dataset).1.value, (loaded.schema dataset).2)

theorem consult_eq_ok_iff {games : Dataset} {schema : Schema} :
    session.consult files given = .ok (games, schema, after) ↔
      ∃ dataset loaded, session.dataset files given = .ok (dataset, loaded) ∧
        dataset.value = games ∧ (loaded.schema dataset).1.value = schema ∧
        (loaded.schema dataset).2 = after := by
  simp [consult, map_eq_ok_iff, Prod.exists]

/-- What has been asked for once is given again, from what is held then. -/
theorem consult_again {games : Dataset} {schema : Schema}
    (h : session.consult files given = .ok (games, schema, after)) (later : Files) :
    after.consult later given = .ok (games, schema, after) := by
  obtain ⟨dataset, loaded, hdataset, rfl, rfl, rfl⟩ := consult_eq_ok_iff.1 h
  obtain ⟨path, hpath, hheld⟩ := held?_of_dataset hdataset
  have hagain : (loaded.schema dataset).2.dataset later given
      = .ok (dataset, (loaded.schema dataset).2) := by
    apply dataset_of_held?
    · exact hpath
    · exact hheld
  have hschema : (loaded.schema dataset).2.schema dataset = loaded.schema dataset := by
    rw [Session.schema, Session.schema, loaded.cache.schemaFor_schemaFor]
  rw [consult, hagain]
  simp only [Except.map, hschema]

/-- What is shown depends on settings which stay as they are. -/
theorem present_of_dataset (h : session.dataset files given = .ok (dataset, after)) :
    after.present = session.present := by
  obtain ⟨path, -, ⟨-, rfl⟩ | ⟨-, -, -, rfl⟩⟩ := dataset_cases h <;> rfl

theorem answer_schema (session : Session) (files : Files) (given : Option String) :
    session.answer files (.schema given) = (session.consult files given).map
      fun (_, schema, after) => (session.present schema.presentation, after) := by
  rw [answer, consult]
  cases h : session.dataset files given with
  | error cause => rfl
  | ok given =>
    rw [← present_of_dataset h]
    rfl

/-- The page that is listed, and the session after it. -/
def listing (session : Session) (files : Files) (request : ListRequest) :
    Except CommandError (Listing × Session) :=
  (session.consult files request.data).map fun (dataset, schema, after) =>
    (request.listing dataset schema session.config.perPage, after)

theorem listing_eq_ok_iff {request : ListRequest} {page : Listing} :
    session.listing files request = .ok (page, after) ↔
      ∃ dataset schema, session.consult files request.data = .ok (dataset, schema, after) ∧
        request.listing dataset schema session.config.perPage = page := by
  simp only [listing, map_eq_ok_iff, Prod.exists, Prod.mk.injEq]
  constructor
  · rintro ⟨dataset, schema, _, hconsult, hpage, rfl⟩
    exact ⟨dataset, schema, hconsult, hpage⟩
  · rintro ⟨dataset, schema, hconsult, hpage⟩
    exact ⟨dataset, schema, after, hconsult, hpage, rfl⟩

/-- What is shown of a list is the page. -/
theorem answer_list (session : Session) (files : Files) (request : ListRequest) :
    session.answer files (.list request) = (session.listing files request).map
      fun (listing, after) => (session.present listing.presentation, after) := by
  rw [answer, listing, consult]
  cases h : session.dataset files request.data with
  | error cause => rfl
  | ok given =>
    rw [← present_of_dataset h, ← config_of_dataset h]
    rfl

/-! ## Sessions that come about -/

/-- The sessions under a configuration: a new one, and what is left of one by a command or by the
loading of a dataset. -/
inductive Reached (config : Config) : Session → Prop
  | start (mode : Option OutputMode) (terminal : Bool) :
    Reached config (Session.start config mode terminal)
  | dataset {session after : Session} {files : Files} {given : Option String}
    {dataset : Shared Dataset} (before : Reached config session)
    (h : session.dataset files given = .ok (dataset, after)) : Reached config after
  | answer {session after : Session} {files : Files} {command : Command} {shown : String}
    (before : Reached config session)
    (h : session.answer files command = .ok (shown, after)) : Reached config after

/-- The dataset and the schema that are held have numbers which have been given out, and if they
belong together the schema is the one of the dataset under the source of the configuration. -/
structure Sound (config : Config) (session : Session) : Prop where
  config_eq : session.config = config
  categories_eq : session.cache.categories = config.categories
  dataset_lt : ∀ path dataset, session.held = some (path, dataset) → dataset.number < session.next
  schema_lt : ∀ number schema, session.cache.held = some (number, schema) → number < session.next
  schema_eq : ∀ path dataset schema, session.held = some (path, dataset) →
    session.cache.held = some (dataset.number, schema) →
    schema.value = jamSchema dataset.value.games config.categories

variable {config : Config}

theorem sound_start (config : Config) (mode : Option OutputMode) (terminal : Bool) :
    (Session.start config mode terminal).Sound config where
  config_eq := rfl
  categories_eq := rfl
  dataset_lt _ _ h := by simp [start] at h
  schema_lt _ _ h := by simp [start] at h
  schema_eq _ _ _ h := by simp [start] at h

namespace Sound

/-- Loading keeps a session sound: the new dataset has a number of its own, so that no schema that
is held belongs to it. -/
theorem hold (h : session.Sound config) (path : String) (dataset : Dataset) :
    (session.hold path dataset).2.Sound config where
  config_eq := h.config_eq
  categories_eq := h.categories_eq
  dataset_lt _ _ hheld := by
    cases hheld
    exact Nat.lt_succ_self session.next
  schema_lt number schema hheld := Nat.lt_succ_of_lt (h.schema_lt number schema hheld)
  schema_eq _ _ schema hheld hschema := by
    cases hheld
    exact absurd (h.schema_lt _ schema hschema) (Nat.lt_irrefl session.next)

theorem of_dataset (h : session.Sound config)
    (hdataset : session.dataset files given = .ok (dataset, after)) : after.Sound config := by
  obtain ⟨path, -, ⟨-, rfl⟩ | ⟨-, -, -, rfl⟩⟩ := dataset_cases hdataset
  · exact h
  · exact h.hold path dataset.value

/-- **The schema of the dataset that is held is that of its games.** -/
theorem schema_value (h : session.Sound config) {path : String}
    (hheld : session.held = some (path, dataset)) :
    (session.schema dataset).1.value = jamSchema dataset.value.games config.categories := by
  rw [Session.schema]
  obtain ⟨schema, hschema, hsame⟩ | ⟨-, hnew⟩ := session.cache.schemaFor_cases dataset
  · rw [hsame]
    exact h.schema_eq path dataset schema hheld hschema
  · rw [hnew, ← h.categories_eq]
    rfl

/-- Asking for the schema of the dataset that is held keeps a session sound. -/
theorem schema (h : session.Sound config) {path : String}
    (hheld : session.held = some (path, dataset)) : (session.schema dataset).2.Sound config where
  config_eq := h.config_eq
  categories_eq := (session.cache.categories_schemaFor dataset).trans h.categories_eq
  dataset_lt := h.dataset_lt
  schema_lt number schema hschema := by
    rw [Session.schema, session.cache.held_schemaFor dataset] at hschema
    cases hschema
    exact h.dataset_lt path dataset hheld
  schema_eq other held schema hother hschema := by
    obtain ⟨-, rfl⟩ := Prod.mk.inj (Option.some_inj.1 (hheld.symm.trans hother))
    rw [← h.schema_value hheld]
    rw [Session.schema, session.cache.held_schemaFor dataset] at hschema
    cases hschema
    rfl

/-- **A command works on the dataset and the schema of its games**, and it leaves a sound
session. -/
theorem of_consult (h : session.Sound config) {games : Dataset} {schema : Schema}
    (hconsult : session.consult files given = .ok (games, schema, after)) :
    schema = jamSchema games.games config.categories ∧ after.Sound config := by
  obtain ⟨dataset, loaded, hdataset, rfl, rfl, rfl⟩ := consult_eq_ok_iff.1 hconsult
  have hloaded := h.of_dataset hdataset
  obtain ⟨path, -, hheld⟩ := held?_of_dataset hdataset
  obtain ⟨other, hheld, -⟩ := held?_eq_some_iff.1 hheld
  exact ⟨hloaded.schema_value hheld, hloaded.schema hheld⟩

theorem consult_of_dataset (h : session.Sound config)
    (hdataset : session.dataset files given = .ok (dataset, after)) :
    session.consult files given = .ok (dataset.value,
      jamSchema dataset.value.games config.categories, (after.schema dataset).2) := by
  have hconsult : session.consult files given
      = .ok (dataset.value, (after.schema dataset).1.value, (after.schema dataset).2) :=
    consult_eq_ok_iff.2 ⟨dataset, after, hdataset, rfl, rfl, rfl⟩
  rw [hconsult, (h.of_consult hconsult).1]

/-- What is made of a dataset and its schema is made of the games. -/
theorem map_consult (h : session.Sound config) {β : Type} (f : Dataset → Schema → β) :
    ((session.consult files given).map fun (dataset, schema, _) => f dataset schema)
      = (session.games files given).map fun dataset =>
        f dataset (jamSchema dataset.games config.categories) := by
  cases hdataset : session.dataset files given with
  | error cause =>
    rw [consult, games, hdataset]
    rfl
  | ok pair =>
    rw [games, h.consult_of_dataset hdataset, hdataset]
    rfl

/-- Games that can be given are what a command works on, with their own schema. -/
theorem consult_of_games (h : session.Sound config) {dataset : Dataset}
    (hgames : session.games files given = .ok dataset) : ∃ after : Session,
      session.consult files given
        = .ok (dataset, jamSchema dataset.games config.categories, after) := by
  obtain ⟨⟨shared, loaded⟩, hdataset, rfl⟩ := map_eq_ok_iff.1 hgames
  exact ⟨_, h.consult_of_dataset hdataset⟩

theorem of_answer (h : session.Sound config) {command : Command} {shown : String}
    (hanswer : session.answer files command = .ok (shown, after)) : after.Sound config := by
  cases command with
  | schema data =>
    rw [answer_schema] at hanswer
    obtain ⟨_, hconsult, hafter⟩ := map_eq_ok_iff.1 hanswer
    cases hafter
    exact (h.of_consult hconsult).2
  | list request =>
    rw [answer_list, listing] at hanswer
    obtain ⟨_, hlisting, hafter⟩ := map_eq_ok_iff.1 hanswer
    obtain ⟨_, hconsult, hpage⟩ := map_eq_ok_iff.1 hlisting
    cases hpage
    cases hafter
    exact (h.of_consult hconsult).2
  | link request =>
    cases hanswer
    exact h

end Sound

theorem Reached.sound (h : Reached config session) : session.Sound config := by
  induction h with
  | start mode terminal => exact sound_start config mode terminal
  | dataset _ hdataset ih => exact ih.of_dataset hdataset
  | answer _ hanswer ih => exact ih.of_answer hanswer

end Session
end GameJam
