import GameJam.Files.Basic
import GameJam.Files.Path
import GameJam.OutputMode
import GameJam.Paging
import GameJam.Results.Schema
import GameJam.Text.Blank
import GameJam.Yaml.Document
import GameJam.Yaml.Value

/-!
# The configuration

A YAML file may say which dataset is looked at, how many games a page holds, where the categories of
the rating are read from, and how results are shown.  What it does not say has a default.

## What is here

* `Config`, and `ConfigError` — why a configuration cannot be used.
* `Settings` — what a text sets, with `Settings.ofText?` and `Settings.config?`.
* `Config.load` — that of a file, whose directory relative paths in it start from.
* `Config.discover` — that of the file that is given, or of the usual one if there is one.
-/

set_option autoImplicit false

namespace GameJam

/-- What can be configured. -/
structure Config where
  /-- The file of the dataset. -/
  dataset : Option String := none
  /-- How many games a page holds. -/
  perPage : PageSize := ⟨20, by decide⟩
  categories : CategorySource := .allRecords
  output : OutputMode := .auto
deriving DecidableEq, Repr

/-- Why the file of a configuration cannot be used. -/
inductive ConfigError where
  | unreadable (path : String) (cause : FileError)
  | malformed (path : String)
  /-- Pages would hold no games. -/
  | emptyPages (path : String)
deriving DecidableEq, Repr

namespace ConfigError

/-- What is said about a configuration that cannot be used. -/
def message : ConfigError → String
  | .unreadable path cause => "failed to read config " ++ path ++ ": " ++ cause.message
  | .malformed path => "invalid config " ++ path ++ ": unknown, repeated or malformed settings"
  | .emptyPages path => "invalid config " ++ path ++ ": per_page must be at least 1"

end ConfigError

/-! ## Settings -/

/-- What has been set so far; a dataset may be set to none. -/
structure Settings where
  dataset : Option (Option String) := none
  perPage : Option UInt64 := none
  categories : Option CategorySource := none
  output : Option OutputMode := none

namespace Settings

/-- Sets what a pair of scalars says, if its key is known and has not been set before. -/
def set? (settings : Settings) (pair : Yaml.Scalar × Yaml.Scalar) : Option Settings :=
  let (key, value) := pair
  match String.ofList key.text with
  | "dataset" =>
    if settings.dataset.isSome then none
    else value.optionalText?.map fun dataset => { settings with dataset := some dataset }
  | "per_page" =>
    if settings.perPage.isSome then none
    else value.count?.map fun perPage => { settings with perPage := some perPage }
  | "categories" =>
    if settings.categories.isSome then none
    else (value.choice?.bind CategorySource.ofName?).map fun categories =>
      { settings with categories := some categories }
  | "output" =>
    if settings.output.isSome then none
    else (value.choice?.bind OutputMode.ofName?).map fun output =>
      { settings with output := some output }
  | _ => none

/-- What a text sets; a blank text sets nothing. -/
def ofText? (text : String) : Option Settings :=
  if (trim text.toList).isEmpty then some {}
  else do
    let document ← Yaml.Document.ofText? text.toList
    document.pairs.foldlM set? {}

/-- The configuration, with defaults for what has not been set; there is none if pages would hold
no games. -/
def config? (settings : Settings) : Option Config := do
  let usual : Config := {}
  let perPage ← match settings.perPage with
    | some count => PageSize.ofCount? count
    | none => some usual.perPage
  return {
    dataset := settings.dataset.getD usual.dataset
    perPage
    categories := settings.categories.getD usual.categories
    output := settings.output.getD usual.output }

end Settings

/-! ## Reading files -/

namespace Config

/-- The configuration of a file.  A relative path of a dataset starts from the directory of the
file. -/
def load (files : Files) (path : String) : Except ConfigError Config := do
  match files.text path with
  | .error cause => throw (.unreadable path cause)
  | .ok text =>
    match Settings.ofText? text with
    | none => throw (.malformed path)
    | some settings =>
      match settings.config? with
      | none => throw (.emptyPages path)
      | some config => return match Path.parent? path with
        | some directory => { config with dataset := config.dataset.map (Path.join directory) }
        | none => config

/-- The name of the file that is looked for if none is given. -/
def usualFile : String := "jamdex.yaml"

/-- The configuration of the file that is given.  If none is, it is that of the usual file in a
directory, or the default one. -/
def discover (files : Files) (given : Option String) (directory : String) :
    Except ConfigError Config :=
  match given with
  | some path => load files path
  | none =>
    let path := Path.join directory usualFile
    if files.holds path then load files path else .ok {}

end Config
end GameJam
