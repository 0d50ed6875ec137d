import GameJam.Command

/-!
# Switches

What may stand on the command line behind dashes.  Some switches are known everywhere, others only
before the name of a command or only after one.

## What is here

* `UsageError` — why a command line asks for nothing that could be done.
* `Setting`, a switch with a value, and `Switch`.
* `Switch.ofLong?`, `Switch.ofShort?` — the switches that are known at a level.
* `Given`, with `Given.set` — what has been given so far.
-/

set_option autoImplicit false

namespace GameJam
namespace CommandLine

/-- Why a command line is answered with a text about the command line. -/
inductive UsageError where
  /-- Help is asked for. -/
  | help
  /-- The version is asked for. -/
  | version
  | nothingGiven
  | missingCommand
  | unknownCommand
  | unknownArgument
  /-- A value is missing, or it is none of those that are allowed. -/
  | invalidValue
  /-- A value is no number, or no allowed one. -/
  | invalidNumber
  /-- A switch that may be given once is given twice. -/
  | repeatedSwitch
  /-- There is a value behind a switch that has none. -/
  | unexpectedValue
deriving DecidableEq, Repr

/-- The commands by their names. -/
inductive CommandName where
  | schema
  | list
  | link
deriving DecidableEq, Repr

/-- Where on the command line an argument stands: before the name of a command or after it. -/
abbrev Level := Option CommandName

/-- A switch that has a value. -/
inductive Setting where
  | config
  | output
  | data
  | filters
  | location
  | page
  | perPage
deriving DecidableEq, Repr

/-- What may stand behind dashes. -/
inductive Switch where
  | setting (setting : Setting)
  | verbose
  | help
  | version
deriving DecidableEq, Repr

namespace Setting

/-- The name of a setting behind two dashes. -/
def name : Setting → String
  | .config => "config"
  | .output => "output"
  | .data => "data"
  | .filters => "filters"
  | .location => "location"
  | .page => "page"
  | .perPage => "per-page"

/-- The settings of a level.  Those of the first level are known after the name of a command too. -/
def known : Level → List Setting
  | none => [.config, .output]
  | some .schema => [.config, .output, .data]
  | some .list => [.config, .output, .data, .filters, .location, .page, .perPage]
  | some .link => [.config, .output, .filters, .location, .page]

end Setting

namespace Switch

/-- The switch of a name behind two dashes.  The version is known only at the first level. -/
def ofLong? (level : Level) (name : String) : Option Switch :=
  if name == "verbose" then some .verbose
  else if name == "help" then some .help
  else if name == "version" && level.isNone then some .version
  else ((Setting.known level).find? fun setting => setting.name == name).map .setting

/-- The switch of a letter behind one dash. -/
def ofShort? (level : Level) (letter : Char) : Option Switch :=
  match letter with
  | 'o' => some (.setting .output)
  | 'v' => some .verbose
  | 'h' => some .help
  | 'V' => if level.isNone then some .version else none
  | _ => none

end Switch

/-! ## Values -/

/-- What has been given at a level. -/
structure Given where
  config : Option String := none
  output : Option OutputMode := none
  /-- How often more log messages are asked for. -/
  verbosity : Nat := 0
  data : Option String := none
  filters : Option String := none
  location : Option String := none
  page : Option UInt64 := none
  perPage : Option PageSize := none
deriving DecidableEq, Repr

/-- The path that a value gives. -/
def pathOf (value : String) : Except UsageError String :=
  if value == "" then .error .invalidValue else .ok value

/-- The number that a value gives. -/
def numberOf (value : String) : Except UsageError UInt64 :=
  match readCount? value.toList with
  | some n => .ok n
  | none => .error .invalidNumber

/-- The number that a value gives, which must not be 0. -/
def sizeOf (value : String) : Except UsageError PageSize := do
  match PageSize.ofCount? (← numberOf value) with
  | some size => return size
  | none => throw .invalidNumber

/-- The output mode that a value names. -/
def modeOf (value : String) : Except UsageError OutputMode :=
  match OutputMode.ofName? value with
  | some mode => .ok mode
  | none => .error .invalidValue

namespace Given

/-- Has nothing been given? -/
def isEmpty (given : Given) : Bool :=
  given == {}

/-- Has the setting been given? -/
def has (given : Given) : Setting → Bool
  | .config => given.config.isSome
  | .output => given.output.isSome
  | .data => given.data.isSome
  | .filters => given.filters.isSome
  | .location => given.location.isSome
  | .page => given.page.isSome
  | .perPage => given.perPage.isSome

/-- Takes the value of a setting that has not been given before. -/
def set (given : Given) (setting : Setting) (value : String) : Except UsageError Given := do
  if given.has setting then throw .repeatedSwitch
  match setting with
  | .config => return { given with config := some (← pathOf value) }
  | .output => return { given with output := some (← modeOf value) }
  | .data => return { given with data := some (← pathOf value) }
  | .filters => return { given with filters := some value }
  | .location => return { given with location := some value }
  | .page => return { given with page := some (← numberOf value) }
  | .perPage => return { given with perPage := some (← sizeOf value) }

end Given
end CommandLine
end GameJam
