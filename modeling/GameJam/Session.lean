import GameJam.Command
import GameJam.Config
import GameJam.Results.SchemaCache

/-!
# Sessions

A session answers one command after the other under the same configuration.  It keeps the dataset
that it has loaded last, so that the file is not read again while the same path is asked for.

## What is here

* `CommandError` — why a command has no answer.
* `Session`, with `Session.dataset`, which loads a dataset unless it is held, and `Session.schema`.
* `Session.answer` — what a command shows, and the session after it.  A command that fails leaves
  the session as it was.
-/

set_option autoImplicit false

namespace GameJam

/-- Why a command has no answer. -/
inductive CommandError where
  | config (cause : ConfigError)
  /-- Neither the command nor the configuration names a dataset. -/
  | noDataset
  | unreadableDataset (path : String) (cause : FileError)
  | malformedDataset (cause : Json.ReadError)
deriving DecidableEq, Repr

namespace CommandError

/-- What is said about a command that has no answer. -/
def message : CommandError → String
  | .config cause => cause.message
  | .noDataset =>
    "no dataset given; pass --data, set JAMDEX_DATA, or set \x60dataset\x60 in jamdex.yaml"
  | .unreadableDataset path cause => "failed to read dataset " ++ path ++ ": " ++ cause.message
  | .malformedDataset cause => "JSON error: " ++ cause.message

/-- What is said about the causes of it. -/
def causes : CommandError → List String
  | .config (.unreadable _ cause) | .unreadableDataset _ cause => [cause.message]
  | .malformedDataset cause => [cause.message]
  | .config (.malformed _) | .config (.emptyPages _) | .noDataset => []

end CommandError

/-- Reads the dataset in a file. -/
def Dataset.load (files : Files) (path : String) : Except CommandError Dataset :=
  match files.text path with
  | .error cause => .error (.unreadableDataset path cause)
  | .ok text => (Dataset.ofJson text).mapError .malformedDataset

/-- Settings, and what has been loaded under them. -/
structure Session where
  config : Config
  mode : OutputMode
  /-- Is it a terminal that answers are shown on? -/
  terminal : Bool
  cache : SchemaCache
  /-- The dataset loaded last, and the path of its file. -/
  held : Option (String × Shared Dataset) := none
  /-- The number of the next dataset. -/
  next : Nat := 0

namespace Session

/-- A new session, with the output mode of the configuration unless another one is given. -/
def start (config : Config) (mode : Option OutputMode) (terminal : Bool) : Session where
  config := config
  mode := mode.getD config.output
  terminal := terminal
  cache := { categories := config.categories }

/-- The dataset at a path, if it is held. -/
def held? (session : Session) (path : String) : Option (Shared Dataset) :=
  match session.held with
  | some (other, dataset) => if Path.same other path then some dataset else none
  | none => none

/-- The session that holds another dataset. -/
def hold (session : Session) (path : String) (dataset : Dataset) : Shared Dataset × Session :=
  let shared : Shared Dataset := ⟨session.next, dataset⟩
  (shared, { session with held := some (path, shared), next := session.next + 1 })

/-- The dataset at the path that is given, or else at the one of the configuration. -/
def dataset (session : Session) (files : Files) (given : Option String) :
    Except CommandError (Shared Dataset × Session) :=
  match given <|> session.config.dataset with
  | none => .error .noDataset
  | some path =>
    match session.held? path with
    | some dataset => .ok (dataset, session)
    | none => (Dataset.load files path).map (session.hold path)

/-- The schema of a dataset. -/
def schema (session : Session) (dataset : Shared Dataset) : Shared Schema × Session :=
  let (schema, cache) := session.cache.schemaFor dataset
  (schema, { session with cache })

/-- A result as it is shown in this session. -/
def present (session : Session) (shown : Presentation) : String :=
  shown.write session.mode session.terminal

/-- What a command shows, and the session after it. -/
def answer (session : Session) (files : Files) :
    Command → Except CommandError (String × Session)
  | .schema data => do
    let (dataset, session) ← session.dataset files data
    let (schema, session) := session.schema dataset
    return (session.present schema.value.presentation, session)
  | .list request => do
    let (dataset, session) ← session.dataset files request.data
    let (schema, session) := session.schema dataset
    let listing := request.listing dataset.value schema.value session.config.perPage
    return (session.present listing.presentation, session)
  | .link request => return (session.present request.target.presentation, session)

end Session
end GameJam
