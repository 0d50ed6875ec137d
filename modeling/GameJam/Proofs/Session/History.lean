import GameJam.Files.Tree
import GameJam.Proofs.Session.Requests

/-!
# What has happened to a session

A session that has answered many requests, while files came and went and some requests failed, still
answers like a new one.  What it has loaded last it does not load again, so it answers from the
files as they were then; in all else it answers from the files as they are.

## What is here

* `Event` and `Moment` — requests, and changes of the files between them.
* `Load` and `Past` — what has been loaded, told from the events alone.
* `Follows` — the session holds the last load; `Follows.next` is the step and `Follows.after` the
  run.
* `Past.Agrees` — paths that are the same open the same file.
* `Follows.games_eq` — **the games that are given are those of the last load, or of the file**.
* `ask_after` — **a session replies like a new one that sees the files as they were at the last
  load**, or as they are if something else is asked for.
-/

set_option autoImplicit false

namespace GameJam
namespace Session

variable {config : Config} {session : Session} {files : Files}

/-! ## Events -/

/-- What happens: the files change, or something is asked for. -/
inductive Event where
  | change (files : Files)
  | ask (request : Request)

/-- A session, and the files as they are. -/
structure Moment where
  session : Session
  files : Files

/-- What is left of a moment by an event. -/
def Moment.next (moment : Moment) : Event → Moment
  | .change files => { moment with files }
  | .ask request => { moment with session := (moment.session.ask moment.files request).2 }

/-- What is left of a moment by one event after the other. -/
def Moment.after (moment : Moment) (events : List Event) : Moment :=
  events.foldl Moment.next moment

/-! ## Loads -/

/-- A dataset that has been loaded. -/
structure Load where
  path : String
  /-- The files as they were. -/
  files : Files
  dataset : Dataset
  /-- How many datasets have been loaded before. -/
  number : ℕ
  loaded : Dataset.load files path = .ok dataset

namespace Load

/-- The loading of a dataset, if it succeeds. -/
def of? (files : Files) (path : String) (number : ℕ) : Option Load :=
  match h : Dataset.load files path with
  | .ok dataset => some ⟨path, files, dataset, number, h⟩
  | .error _ => none

/-- What has been loaded, told from other loadings by its number. -/
def shared (load : Load) : Shared Dataset :=
  ⟨load.number, load.dataset⟩

variable {path : String} {number : ℕ} {dataset : Dataset}

theorem of?_of_ok (h : Dataset.load files path = .ok dataset) :
    of? files path number = some ⟨path, files, dataset, number, h⟩ := by
  rw [of?]
  split
  · rename_i other hother
    cases h.symm.trans hother
    rfl
  · rename_i hother
    cases h.symm.trans hother

theorem of?_of_error {cause : CommandError} (h : Dataset.load files path = .error cause) :
    of? files path number = none := by
  rw [of?]
  split
  · rename_i hother
    cases h.symm.trans hother
  · rfl

end Load

/-- What has come of some events, as far as it can be told without a session. -/
structure Past where
  /-- The files as they are. -/
  files : Files
  /-- The last load. -/
  last : Option Load := none
  /-- How many datasets have been loaded. -/
  loads : ℕ := 0

namespace Past

/-- The last load, if it was from the same path. -/
def last? (past : Past) (path : String) : Option Load :=
  past.last.filter fun load => Path.same load.path path

/-- The files as they were at the last load if it was from the same path, or else as they are. -/
def seen (past : Past) (path : String) : Files :=
  match past.last? path with
  | some load => load.files
  | none => past.files

/-- A dataset is asked for: it is loaded, unless the last load was from the same path. -/
def consult (past : Past) (path : String) : Past :=
  match past.last? path, Load.of? past.files path past.loads with
  | none, some load => { past with last := some load, loads := past.loads + 1 }
  | _, _ => past

variable {past : Past} {path : String}

theorem consult_of_last {load : Load} (hlast : past.last? path = some load) :
    past.consult path = past := by
  rw [consult, hlast]

theorem consult_of_ok {dataset : Dataset} (hlast : past.last? path = none)
    (hload : Dataset.load past.files path = .ok dataset) : past.consult path =
      { past with
        last := some ⟨path, past.files, dataset, past.loads, hload⟩
        loads := past.loads + 1 } := by
  rw [consult, hlast, Load.of?_of_ok hload]

theorem consult_of_error {cause : CommandError}
    (hload : Dataset.load past.files path = .error cause) : past.consult path = past := by
  rw [consult, Load.of?_of_error hload]
  cases past.last? path <;> rfl

theorem files_consult (past : Past) (path : String) :
    (past.consult path).files = past.files := by
  rw [consult]
  split <;> rfl

/-- What is left by an event. -/
def next (config : Config) (past : Past) : Event → Past
  | .change files => { past with files }
  | .ask request => match request.path? config with
    | some path => past.consult path
    | none => past

/-- What is left by one event after the other. -/
def after (config : Config) (past : Past) (events : List Event) : Past :=
  events.foldl (next config) past

end Past

/-! ## The session and the past -/

variable {present : Presentation → String} {past : Past} {path : String}

/-- A session holds the last load, and it has its settings. -/
structure Follows (config : Config) (present : Presentation → String) (session : Session)
    (past : Past) : Prop where
  sound : session.Sound config
  present_eq : session.present = present
  next_eq : session.next = past.loads
  held_eq : session.held = past.last.map fun load => (load.path, load.shared)

namespace Follows

theorem start (config : Config) (mode : Option OutputMode) (terminal : Bool) (files : Files) :
    Follows config (Session.start config mode terminal).present
      (Session.start config mode terminal) { files } where
  sound := sound_start config mode terminal
  present_eq := rfl
  next_eq := rfl
  held_eq := rfl

theorem held?_eq (h : Follows config present session past) (path : String) :
    session.held? path = (past.last? path).map Load.shared := by
  rw [held?, h.held_eq, Past.last?]
  cases past.last with
  | none => rfl
  | some load =>
    simp only [Option.map_some, Option.filter_some]
    cases Path.same load.path path <;> rfl

theorem held?_of_last (h : Follows config present session past) {load : Load}
    (hlast : past.last? path = some load) : session.held? path = some load.shared := by
  rw [h.held?_eq, hlast, Option.map_some]

theorem held?_of_no_last (h : Follows config present session past)
    (hlast : past.last? path = none) : session.held? path = none := by
  rw [h.held?_eq, hlast, Option.map_none]

theorem path?_eq (h : Follows config present session past) (given : Option String) :
    session.config.path? given = config.path? given := by
  rw [h.sound.config_eq]

/-- What is loaded is held, and it gets the next number. -/
theorem hold (h : Follows config present session past) {dataset : Dataset}
    (hload : Dataset.load past.files path = .ok dataset) :
    Follows config present (session.hold path dataset).2
      { past with
        last := some ⟨path, past.files, dataset, past.loads, hload⟩
        loads := past.loads + 1 } where
  sound := h.sound.hold path dataset
  present_eq := h.present_eq
  next_eq := congrArg (· + 1) h.next_eq
  held_eq := by
    rw [Session.hold, h.next_eq]
    rfl

/-- Asking for the schema of what is held loads nothing. -/
theorem schema (h : Follows config present session past) {dataset : Shared Dataset}
    (hheld : session.held = some (path, dataset)) :
    Follows config present (session.schema dataset).2 past where
  sound := h.sound.schema hheld
  present_eq := h.present_eq
  next_eq := h.next_eq
  held_eq := h.held_eq

variable {given : Option String}

/-- A dataset that is given is that of the last load then. -/
theorem of_dataset (h : Follows config present session past)
    (hpath : config.path? given = some path) {dataset : Shared Dataset} {loaded : Session}
    (hdataset : session.dataset past.files given = .ok (dataset, loaded)) :
    Follows config present loaded (past.consult path) := by
  rw [← h.path?_eq] at hpath
  cases hlast : past.last? path with
  | some load =>
    rw [dataset_of_held? hpath (h.held?_of_last hlast)] at hdataset
    cases hdataset
    rwa [Past.consult_of_last hlast]
  | none =>
    rw [dataset_of_not_held hpath (h.held?_of_no_last hlast)] at hdataset
    obtain ⟨games, hload, hhold⟩ := map_eq_ok_iff.1 hdataset
    cases hhold
    rw [Past.consult_of_ok hlast hload]
    exact h.hold hload

/-- Nothing is loaded if no dataset is given. -/
theorem consult_of_error (h : Follows config present session past)
    (hpath : config.path? given = some path) {cause : CommandError}
    (hdataset : session.dataset past.files given = .error cause) : past.consult path = past := by
  rw [← h.path?_eq] at hpath
  cases hlast : past.last? path with
  | some load => exact Past.consult_of_last hlast
  | none =>
    rw [dataset_of_not_held hpath (h.held?_of_no_last hlast)] at hdataset
    cases hload : Dataset.load past.files path with
    | error _ => exact Past.consult_of_error hload
    | ok games =>
      rw [hload] at hdataset
      cases hdataset

/-- What is left by a request holds the last load then. -/
theorem ask (h : Follows config present session past) (request : Request) :
    Follows config present (session.ask past.files request).2
      (past.next config (.ask request)) := by
  rw [Past.next, Request.path?]
  obtain ⟨hdata, hafter⟩ | ⟨given, cause, hdata, hdataset, hafter⟩ |
    ⟨given, dataset, loaded, hdata, hdataset, hafter⟩ := ask_snd_cases session past.files request
  · rw [hdata, hafter]
    exact h
  · rw [hdata, hafter, Option.bind_some]
    cases hpath : config.path? given with
    | none => exact h
    | some path =>
      simp only [h.consult_of_error hpath hdataset]
      exact h
  · obtain ⟨path, hpath, -⟩ := dataset_cases hdataset
    rw [h.path?_eq] at hpath
    have hloaded := h.of_dataset hpath hdataset
    obtain ⟨_, -, hheld⟩ := held?_of_dataset hdataset
    obtain ⟨other, hheld, -⟩ := held?_eq_some_iff.1 hheld
    simp only [hdata, Option.bind_some, hpath]
    rcases hafter with hafter | hafter
    · rw [hafter]
      exact hloaded
    · rw [hafter]
      exact hloaded.schema hheld

/-- What is left by an event holds the last load then. -/
theorem next {moment : Moment} (h : Follows config present moment.session past)
    (hfiles : moment.files = past.files) (event : Event) :
    Follows config present (moment.next event).session (past.next config event) ∧
      (moment.next event).files = (past.next config event).files := by
  cases event with
  | change files => exact ⟨⟨h.sound, h.present_eq, h.next_eq, h.held_eq⟩, rfl⟩
  | ask request =>
    refine ⟨?_, ?_⟩
    · rw [Moment.next, hfiles]
      exact h.ask request
    · rw [Moment.next, Past.next, hfiles]
      cases request.path? config with
      | none => rfl
      | some path => exact (past.files_consult path).symm

/-- **A session holds the last load**, whatever has happened. -/
theorem after {moment : Moment} (h : Follows config present moment.session past)
    (hfiles : moment.files = past.files) (events : List Event) :
    Follows config present (moment.after events).session (past.after config events) ∧
      (moment.after events).files = (past.after config events).files := by
  induction events generalizing moment past with
  | nil => exact ⟨h, hfiles⟩
  | cons event events ih =>
    obtain ⟨hnext, hnextFiles⟩ := h.next hfiles event
    exact ih hnext hnextFiles

end Follows

/-! ## Replies -/

/-- The same file is opened by those of some paths that are the same. -/
def PathsAgree (paths : List String) (files : Files) : Prop :=
  ∀ a ∈ paths, ∀ b ∈ paths, Path.same a b = true → files a = files b

/-- The files that an event brings about, if it changes them. -/
def Event.files? : Event → Option Files
  | .change files => some files
  | .ask _ => none

/-- The path of the dataset that is needed for an event. -/
def Event.path? (config : Config) : Event → Option String
  | .change _ => none
  | .ask request => request.path? config

/-- Paths that are the same open the same file, as the files are and as they were at the last
load. -/
structure Past.Agrees (paths : List String) (past : Past) : Prop where
  files : PathsAgree paths past.files
  path : ∀ load, past.last = some load → load.path ∈ paths
  last : ∀ load, past.last = some load → PathsAgree paths load.files

namespace Past.Agrees

variable {paths : List String}

theorem consult (h : past.Agrees paths) (hpath : path ∈ paths) :
    (past.consult path).Agrees paths := by
  cases hload : Dataset.load past.files path with
  | error cause => rwa [consult_of_error hload]
  | ok dataset =>
    cases hlast : past.last? path with
    | some load => rwa [consult_of_last hlast]
    | none =>
      rw [consult_of_ok hlast hload]
      refine ⟨h.files, ?_, ?_⟩
      · rintro _ ⟨⟩
        exact hpath
      · rintro _ ⟨⟩
        exact h.files

theorem next (h : past.Agrees paths) {event : Event}
    (hfiles : ∀ files, event.files? = some files → PathsAgree paths files)
    (hpath : ∀ path, event.path? config = some path → path ∈ paths) :
    (past.next config event).Agrees paths := by
  cases event with
  | change files => exact ⟨hfiles files rfl, h.path, h.last⟩
  | ask request =>
    rw [Past.next]
    cases hrequest : request.path? config with
    | none => exact h
    | some path => exact h.consult (hpath path hrequest)

theorem after (h : past.Agrees paths) {events : List Event}
    (hfiles : ∀ event ∈ events, ∀ files, event.files? = some files → PathsAgree paths files)
    (hpaths : ∀ event ∈ events, ∀ path, event.path? config = some path → path ∈ paths) :
    (past.after config events).Agrees paths := by
  induction events generalizing past with
  | nil => exact h
  | cons event events ih =>
    rw [List.forall_mem_cons] at hfiles hpaths
    exact ih (h.next hfiles.1 hpaths.1) hfiles.2 hpaths.2

end Past.Agrees

/-- A dataset that is loaded from a path is loaded from any path that opens the same file. -/
theorem load_of_eq {other : String} {dataset : Dataset} (h : files path = files other)
    (hload : Dataset.load files path = .ok dataset) : Dataset.load files other = .ok dataset := by
  have htext : files.text other = files.text path := by rw [Files.text, Files.text, h]
  rw [Dataset.load, htext]
  rw [Dataset.load] at hload
  cases hread : files.text path with
  | error cause =>
    rw [hread] at hload
    cases hload
  | ok text =>
    rw [hread] at hload
    exact hload

theorem games_of_no_path {given : Option String}
    (hpath : session.config.path? given = none) :
    session.games files given = .error .noDataset := by
  rw [games, dataset_of_no_path hpath]
  rfl

/-- The games of a dataset that is not held are those in its file. -/
theorem games_of_not_held {given : Option String}
    (hpath : session.config.path? given = some path) (hheld : session.held? path = none) :
    session.games files given = Dataset.load files path := by
  rw [games, dataset_of_not_held hpath hheld]
  cases Dataset.load files path <;> rfl

/-- **The games that are given are those in the file**, as it was at the last load if it was from
the same path, and else as it is. -/
theorem Follows.games_eq (h : Follows config present session past) {paths : List String}
    (hagrees : past.Agrees paths) (hmem : path ∈ paths) {given : Option String}
    (hpath : config.path? given = some path) :
    session.games past.files given = Dataset.load (past.seen path) path := by
  rw [← h.path?_eq] at hpath
  cases hlast : past.last? path with
  | none =>
    rw [games_of_not_held hpath (h.held?_of_no_last hlast), Past.seen, hlast]
  | some load =>
    obtain ⟨hload, hsame⟩ := Option.filter_eq_some_iff.1 hlast
    have hopens : load.files load.path = load.files path :=
      hagrees.last load hload load.path (hagrees.path load hload) path hmem hsame
    rw [games, dataset_of_held? hpath (h.held?_of_last hlast), Past.seen, hlast]
    exact (load_of_eq hopens load.loaded).symm

/-- The files that a request sees: those of the last load if it was from the path of the dataset
that is needed, and else the files as they are. -/
def Past.filesFor (config : Config) (past : Past) (request : Request) : Files :=
  match request.path? config with
  | some path => past.seen path
  | none => past.files

/-- The reply does not depend on other games than those of the dataset that is needed. -/
theorem Request.reply_congr {request : Request}
    {games others : Option String → Except CommandError Dataset}
    (h : ∀ given, request.data? = some given → games given = others given) :
    request.reply config present games = request.reply config present others := by
  match request with
  | .answer (.schema data) => rw [reply, reply, h data rfl]
  | .answer (.list request) => rw [reply, reply, h request.data rfl]
  | .answer (.link request) => rfl
  | .dataset given => rw [reply, reply, h given rfl]

/-- **A session replies like a new one**, whatever it has been asked for before and whatever has
become of the files.  The new one sees the files as they were at the last load, if that was from the
path of the dataset that is needed, and else the files as they are.  A request that fails leaves the
session as it was, and a path that the last load was from gives the very same dataset from then on,
whatever becomes of the files. -/
theorem ask_after (config : Config) (mode : Option OutputMode) (terminal : Bool) (files : Files)
    (events : List Event) (request : Request)
    (hpaths : ∀ seen ∈ files :: events.filterMap Event.files?,
      PathsAgree ((events ++ [Event.ask request]).filterMap (Event.path? config)) seen) :
    let first := Session.start config mode terminal
    let now := Moment.after ⟨first, files⟩ events
    let past := Past.after config { files } events
    (now.session.ask now.files request).1 = (first.ask (past.filesFor config request) request).1 ∧
    (∀ cause, (now.session.ask now.files request).1 = .error cause →
      (now.session.ask now.files request).2 = now.session) ∧
    ∀ load given path later, past.last = some load → config.path? given = some path →
      Path.same load.path path = true →
      now.session.dataset later given = .ok (load.shared, now.session) := by
  intro first now past
  set paths := (events ++ [Event.ask request]).filterMap (Event.path? config)
  obtain ⟨hnow, hfiles⟩ : Follows config first.present now.session past ∧ now.files = past.files :=
    (Follows.start config mode terminal files).after rfl events
  have hagrees : past.Agrees paths := by
    refine Past.Agrees.after ⟨hpaths files List.mem_cons_self, ?_, ?_⟩ ?_ ?_
    · rintro _ ⟨⟩
    · rintro _ ⟨⟩
    · intro event hevent seen hseen
      exact hpaths seen (List.mem_cons_of_mem _ (List.mem_filterMap.2 ⟨event, hevent, hseen⟩))
    · intro event hevent path hpath
      exact List.mem_filterMap.2 ⟨event, List.mem_append_left _ hevent, hpath⟩
  refine ⟨?_, fun cause => ask_snd_of_error, fun load given path later hload hpath hsame => ?_⟩
  · rw [hnow.sound.ask_fst, hnow.present_eq, (sound_start config mode terminal).ask_fst, hfiles]
    refine Request.reply_congr fun given hdata => ?_
    cases hpath : config.path? given with
    | none =>
      rw [games_of_no_path ((hnow.path?_eq given).trans hpath)]
      exact (games_of_no_path hpath).symm
    | some path =>
      have hrequest : request.path? config = some path := by rw [Request.path?, hdata]; exact hpath
      have hmem : path ∈ paths := List.mem_filterMap.2 ⟨Event.ask request, by simp, hrequest⟩
      rw [hnow.games_eq hagrees hmem hpath, Past.filesFor, hrequest]
      exact (games_of_not_held hpath rfl).symm
  · have hlast : past.last? path = some load := Option.filter_eq_some_iff.2 ⟨hload, hsame⟩
    rw [← hnow.path?_eq] at hpath
    exact dataset_of_held? hpath (hnow.held?_of_last hlast) later

/-- A dataset of no games in a directory. -/
def emptyDataset : FileTree :=
  FileTree.write {} ["in", "games.json"] [91, 93]

/-- The file of a dataset is removed after the loading, and a file that never was cannot be
loaded. -/
def removal : List Event :=
  [.ask (.dataset (some "in/games.json")),
    .change ((emptyDataset.remove ["in", "games.json"]).read []),
    .ask (.dataset (some "in/other.json"))]

/-- The dataset is still given as the same one, also by a path that is written differently, and its
schema is shown as if its file were there. -/
theorem ask_after_removal :
    let now := Moment.after ⟨start {} none false, emptyDataset.read []⟩ removal
    let request : Request := .answer (.schema (some "in//games.json"))
    now.files "in/games.json" = .error .notFound ∧
    (now.session.ask now.files request).1
      = ((start {} none false).ask (emptyDataset.read []) request).1 ∧
    now.session.dataset now.files (some "in//games.json") = .ok (⟨0, ⟨[]⟩⟩, now.session) := by
  intro now request
  have hpaths : ∀ seen ∈ emptyDataset.read [] :: removal.filterMap Event.files?,
      PathsAgree ((removal ++ [Event.ask request]).filterMap (Event.path? {})) seen := by
    change ∀ seen ∈ [emptyDataset.read [], (emptyDataset.remove ["in", "games.json"]).read []],
      PathsAgree ["in/games.json", "in/other.json", "in//games.json"] seen
    rw [List.forall_mem_cons, List.forall_mem_singleton]
    unfold PathsAgree
    constructor <;> decide +kernel
  have hlast : (Past.after {} ⟨emptyDataset.read [], none, 0⟩ removal).last
    = some ⟨"in/games.json", emptyDataset.read [], ⟨[]⟩, 0, rfl⟩ := rfl
  have hseen : (Past.after {} ⟨emptyDataset.read [], none, 0⟩ removal).filesFor {} request
    = emptyDataset.read [] := rfl
  obtain ⟨hreply, -, hheld⟩ :=
    ask_after {} none false (emptyDataset.read []) removal request hpaths
  rw [hseen] at hreply
  exact ⟨rfl, hreply, hheld _ (some "in//games.json") "in//games.json" _ hlast rfl rfl⟩

end Session
end GameJam
