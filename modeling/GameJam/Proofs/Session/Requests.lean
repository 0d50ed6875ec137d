import GameJam.Proofs.Session.Loading

/-!
# Requests to a session

A session that is worked on in place does not take back what it has changed when something fails.
There is nothing to take back, though: what can fail comes before what is changed.  So a request
that fails leaves the session as it was, and the reply to one depends on the games that it asks for
and on nothing else that the session holds.

## What is here

* `Work` — steps on a session in place; `Work.run_dataset` and `Work.run_answer` say that they come
  to what a session gives.
* `Request`, `Reply` and `ask` — asking for the answer to a command, or for a dataset alone.
* `ask_snd_cases` — all that a request can leave; `ask_snd_of_error`, **one that fails leaves the
  session as it was**.
* `Request.reply` and `Sound.ask_fst` — **the reply depends on the games that are asked for**.
-/

set_option autoImplicit false

namespace GameJam
namespace Session

/-! ## Work in place -/

/-- Steps on a session.  What has been changed before an error stays changed. -/
abbrev Work (α : Type) : Type :=
  ExceptT CommandError (StateM Session) α

namespace Work

/-- Gives the dataset that is asked for. -/
def dataset (files : Files) (given : Option String) : Work (Shared Dataset) := do
  let session : Session ← get
  match session.config.path? given with
  | none => throw .noDataset
  | some path =>
    match session.held? path with
    | some dataset => return dataset
    | none =>
      let (dataset, after) := session.hold path (← Dataset.load files path)
      set after
      return dataset

/-- Gives the schema of a dataset. -/
def schema (dataset : Shared Dataset) : Work Schema := do
  let session : Session ← get
  let (schema, after) := session.schema dataset
  set after
  return schema.value

/-- Shows a result. -/
def present (shown : Presentation) : Work String := do
  let session : Session ← get
  return session.present shown

/-- Answers a command. -/
def answer (files : Files) : Command → Work String
  | .schema data => do
    let schema ← schema (← dataset files data)
    present schema.presentation
  | .list request => do
    let dataset ← dataset files request.data
    let schema ← schema dataset
    let session : Session ← get
    present (request.listing dataset.value schema session.config.perPage).presentation
  | .link request => present request.target.presentation

end Work

/-- What is given, and the session after it: the same one if nothing is given. -/
def settled {α : Type} (session : Session) :
    Except CommandError (α × Session) → Except CommandError α × Session
  | .ok (given, after) => (.ok given, after)
  | .error cause => (.error cause, session)

namespace Work

variable (session : Session) (files : Files)

theorem run_get_bind {α : Type} (f : Session → Work α) :
    (get >>= f).run session = (f session).run session :=
  rfl

/-- A dataset that cannot be given leaves nothing changed. -/
theorem run_dataset (given : Option String) :
    (dataset files given).run session = session.settled (session.dataset files given) := by
  rw [dataset, run_get_bind]
  cases hpath : session.config.path? given with
  | none =>
    rw [dataset_of_no_path hpath]
    rfl
  | some path =>
    cases hheld : session.held? path with
    | some held =>
      rw [dataset_of_held? hpath hheld]
      simp only [hheld]
      rfl
    | none =>
      rw [dataset_of_not_held hpath hheld]
      simp only [hheld]
      cases Dataset.load files path <;> rfl

theorem run_bind {α β : Type} (work : Work α) (f : α → Work β) :
    (work >>= f).run session = match work.run session with
      | (.ok a, after) => (f a).run after
      | (.error cause, after) => (.error cause, after) := by
  change (ExceptT.bindCont f (work.run session).1).run (work.run session).2 = _
  obtain ⟨_ | _, after⟩ := work.run session <;> rfl

/-- A command that fails leaves nothing changed. -/
theorem run_answer (command : Command) :
    (answer files command).run session = session.settled (session.answer files command) := by
  cases command with
  | schema data =>
    rw [answer, run_bind, run_dataset, Session.answer]
    cases session.dataset files data <;> rfl
  | list request =>
    rw [answer, run_bind, run_dataset, Session.answer]
    cases session.dataset files request.data <;> rfl
  | link request => rfl

end Work

/-! ## Requests -/

/-- What is asked for: the answer to a command, or a dataset alone. -/
inductive Request where
  | answer (command : Command)
  | dataset (given : Option String)

/-- What is given. -/
inductive Reply where
  | shown (text : String)
  | games (dataset : Dataset)

/-- What is done for a request. -/
def Request.work (files : Files) : Request → Work Reply
  | .answer command => return .shown (← Work.answer files command)
  | .dataset given => return .games (← Work.dataset files given).value

/-- What is given for a request, and the session after it. -/
def ask (session : Session) (files : Files) (request : Request) :
    Except CommandError Reply × Session :=
  (request.work files).run session

/-- What a request says of its dataset, if it needs one. -/
def Request.data? : Request → Option (Option String)
  | .answer (.schema data) => some data
  | .answer (.list request) => some request.data
  | .answer (.link _) => none
  | .dataset given => some given

/-- The path of the dataset that a request needs, if it needs one and there is one. -/
def Request.path? (config : Config) (request : Request) : Option String :=
  request.data?.bind config.path?

/-- What is given for a request, told from the games that are asked for and from settings which stay
as they are. -/
def Request.reply (config : Config) (present : Presentation → String)
    (games : Option String → Except CommandError Dataset) : Request → Except CommandError Reply
  | .answer (.schema data) => (games data).map fun dataset =>
    .shown (present (jamSchema dataset.games config.categories).presentation)
  | .answer (.list request) => (games request.data).map fun dataset =>
    .shown (present (request.listing dataset (jamSchema dataset.games config.categories)
      config.perPage).presentation)
  | .answer (.link request) => .ok (.shown (present request.target.presentation))
  | .dataset given => (games given).map .games

variable {config : Config} {session : Session} {files : Files}

/-- What is given for a request with the session after it, or why nothing is given. -/
def attempt (session : Session) (files : Files) :
    Request → Except CommandError (Reply × Session)
  | .answer command => (session.answer files command).map fun (text, after) =>
    (.shown text, after)
  | .dataset given => (session.dataset files given).map fun (dataset, after) =>
    (.games dataset.value, after)

theorem ask_eq (session : Session) (files : Files) (request : Request) :
    session.ask files request = session.settled (session.attempt files request) := by
  cases request with
  | answer command =>
    rw [ask, Request.work, Work.run_bind, Work.run_answer, attempt]
    cases session.answer files command <;> rfl
  | dataset given =>
    rw [ask, Request.work, Work.run_bind, Work.run_dataset, attempt]
    cases session.dataset files given <;> rfl

/-- What a request can leave: the session as it was, if no dataset is needed or none is given, or
else the session with the dataset, which may have been asked for its schema. -/
theorem ask_snd_cases (session : Session) (files : Files) (request : Request) :
    (request.data? = none ∧ (session.ask files request).2 = session) ∨
    (∃ given cause, request.data? = some given ∧ session.dataset files given = .error cause ∧
      (session.ask files request).2 = session) ∨
    ∃ given dataset loaded, request.data? = some given ∧
      session.dataset files given = .ok (dataset, loaded) ∧
      ((session.ask files request).2 = loaded ∨
        (session.ask files request).2 = (loaded.schema dataset).2) := by
  rw [ask_eq]
  match request with
  | .answer (.schema data) =>
    rw [attempt, answer]
    cases hdataset : session.dataset files data with
    | error cause => exact .inr (.inl ⟨data, cause, rfl, hdataset, rfl⟩)
    | ok pair => exact .inr (.inr ⟨data, pair.1, pair.2, rfl, hdataset, .inr rfl⟩)
  | .answer (.list request) =>
    rw [attempt, answer]
    cases hdataset : session.dataset files request.data with
    | error cause => exact .inr (.inl ⟨request.data, cause, rfl, hdataset, rfl⟩)
    | ok pair => exact .inr (.inr ⟨request.data, pair.1, pair.2, rfl, hdataset, .inr rfl⟩)
  | .answer (.link request) => exact .inl ⟨rfl, rfl⟩
  | .dataset given =>
    rw [attempt]
    cases hdataset : session.dataset files given with
    | error cause => exact .inr (.inl ⟨given, cause, rfl, hdataset, rfl⟩)
    | ok pair => exact .inr (.inr ⟨given, pair.1, pair.2, rfl, hdataset, .inl rfl⟩)

/-- **A request that fails leaves the session as it was.** -/
theorem ask_snd_of_error {request : Request} {cause : CommandError}
    (h : (session.ask files request).1 = .error cause) :
    (session.ask files request).2 = session := by
  rw [ask_eq] at h ⊢
  cases hattempt : session.attempt files request with
  | error _ => rfl
  | ok given =>
    rw [hattempt] at h
    cases h

/-- **The reply depends on the games that are asked for**, whichever schema and whichever other
dataset the session holds. -/
theorem Sound.ask_fst (h : session.Sound config) (request : Request) :
    (session.ask files request).1
      = request.reply config session.present (session.games files) := by
  have hfst : (session.ask files request).1 = (session.attempt files request).map Prod.fst := by
    rw [ask_eq]
    cases session.attempt files request <;> rfl
  rw [hfst]
  match request with
  | .answer (.schema data) =>
    rw [Request.reply, attempt, answer_schema,
      ← h.map_consult fun _ schema => Reply.shown (session.present schema.presentation)]
    cases session.consult files data <;> rfl
  | .answer (.list request) =>
    rw [Request.reply, attempt, answer_list, listing, h.config_eq,
      ← h.map_consult fun dataset schema => Reply.shown
        (session.present (request.listing dataset schema config.perPage).presentation)]
    cases session.consult files request.data <;> rfl
  | .answer (.link request) => rfl
  | .dataset given =>
    rw [Request.reply, attempt, games]
    cases session.dataset files given <;> rfl

end Session
end GameJam
