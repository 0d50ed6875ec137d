import GameJam.CommandLine.Switch
import GameJam.Text.Fields

/-!
# Invocations

A command line consists of switches, the name of a command, and switches of that command.  The value
of a setting stands behind an equals sign, behind the letter of the setting, or in the next
argument.  In the last case it is looked at only when the next switch has been recognised, so that
an unknown argument is reported before a bad value.

## What is here

* `Word` — how an argument is written.
* `Reading` — a level of the command line as far as it has been read.
* `readLevel` — reads up to the name of a command or to the end.
* `Invocation.ofArgs` — what a command line asks for.
-/

set_option autoImplicit false

namespace GameJam
namespace CommandLine

/-! ## Arguments -/

/-- How an argument is written. -/
inductive Word where
  /-- Two dashes alone. -/
  | dashes
  /-- A name behind two dashes, and a value behind an equals sign. -/
  | long (name : String) (value : Option String)
  /-- Letters behind one dash. -/
  | short (letters : List Char)
  | plain
deriving DecidableEq, Repr

/-- How an argument is written; one dash alone is plain. -/
def Word.ofArg (arg : String) : Word :=
  match arg.toList with
  | ['-', '-'] => .dashes
  | '-' :: '-' :: text =>
    let (name, value) := cutAt '=' text
    .long (String.ofList name)
      (if name.length < text.length then some (String.ofList value) else none)
  | '-' :: c :: rest => .short (c :: rest)
  | _ => .plain

namespace CommandName

/-- The name of a command. -/
def name : CommandName → String
  | .schema => "schema"
  | .list => "list"
  | .link => "link"

/-- The command of a name. -/
def ofName? (s : String) : Option CommandName :=
  [schema, list, link].find? fun command => command.name == s

end CommandName

/-- Is it a command, or the word that asks for help with commands? -/
def isCommandWord (arg : String) : Bool :=
  arg == "help" || (CommandName.ofName? arg).isSome

/-- What is said when help is asked for with some words, which have to lead to a command. -/
def helpWith : List String → UsageError
  | [] => .help
  | [word] => if isCommandWord word then .help else .unknownCommand
  | _ => .unknownCommand

/-- What is said about an argument that is no switch and no value. -/
def strayError (level : Level) : UsageError :=
  if level.isNone then .unknownCommand else .unknownArgument

/-- What is said about an argument behind two dashes alone. -/
def strayAfterDashes (level : Level) (arg : String) : UsageError :=
  if level.isNone && !isCommandWord arg then .unknownCommand else .unknownArgument

/-! ## Levels -/

/-- A setting whose value is in another argument. -/
structure Pending where
  setting : Setting
  value : Option String := none
deriving DecidableEq, Repr

/-- A level as far as it has been read. -/
structure Reading where
  given : Given := {}
  /-- The setting that has been given last, if its value has not been looked at. -/
  pending : Option Pending := none
deriving DecidableEq, Repr

namespace Reading

/-- Is the next argument a value unless it is a switch? -/
def isWaiting (reading : Reading) : Bool :=
  reading.pending.any fun pending => pending.value.isNone

/-- Looks at the value of the last setting. -/
def settled (reading : Reading) : Except UsageError Given :=
  match reading.pending with
  | none => .ok reading.given
  | some ⟨_, none⟩ => .error .invalidValue
  | some ⟨setting, some value⟩ => reading.given.set setting value

/-- Takes a setting whose value is in the next argument. -/
def expect (reading : Reading) (setting : Setting) : Except UsageError Reading := do
  return ⟨← reading.settled, some ⟨setting, none⟩⟩

/-- Takes a setting with its value. -/
def give (reading : Reading) (setting : Setting) (value : String) : Except UsageError Reading := do
  return ⟨← (← reading.settled).set setting value, none⟩

/-- Takes the value that the last setting waits for. -/
def supply (reading : Reading) (value : String) : Reading :=
  { reading with
    pending := reading.pending.map fun pending => { pending with value := some value } }

/-- Takes a switch without a value. -/
def flag (reading : Reading) (switch : Switch) : Except UsageError Reading := do
  let given ← reading.settled
  match switch with
  | .help => throw .help
  | .version => throw .version
  | .verbose | .setting _ => return ⟨{ given with verbosity := given.verbosity + 1 }, none⟩

/-- Takes a name behind two dashes. -/
def long (reading : Reading) (level : Level) (name : String) (value : Option String) :
    Except UsageError Reading :=
  match Switch.ofLong? level name, value with
  | none, _ => .error .unknownArgument
  | some (.setting setting), some value => reading.give setting value
  | some (.setting setting), none => reading.expect setting
  | some _, some _ => .error .unexpectedValue
  | some switch, none => reading.flag switch

/-- Takes letters behind one dash.  All that follows the letter of a setting is its value, except
for an equals sign in between. -/
def short (reading : Reading) (level : Level) : List Char → Except UsageError Reading
  | [] => .ok reading
  | letter :: rest =>
    match Switch.ofShort? level letter with
    | none => .error .unknownArgument
    | some (.setting setting) =>
      match rest with
      | [] => reading.expect setting
      | '=' :: value => reading.give setting (String.ofList value)
      | value => reading.give setting (String.ofList value)
    | some switch => do (← reading.flag switch).short level rest

end Reading

/-- Reads a level up to the name of a command or to the end: what has been read, and the command
with the arguments behind it. -/
def readLevel (level : Level) (reading : Reading) :
    List String → Except UsageError (Reading × Option (CommandName × List String))
  | [] => .ok (reading, none)
  | arg :: rest =>
    if level.isNone && !reading.isWaiting && arg == "help" then .error (helpWith rest)
    else
      match if level.isNone && !reading.isWaiting then CommandName.ofName? arg else none with
      | some command => .ok (reading, some (command, rest))
      | none =>
        match Word.ofArg arg with
        | .dashes =>
          match rest with
          | [] => .ok (reading, none)
          | stray :: _ => .error (strayAfterDashes level stray)
        | .long name value => do readLevel level (← reading.long level name value) rest
        | .short letters => do readLevel level (← reading.short level letters) rest
        | .plain =>
          if reading.isWaiting then readLevel level (reading.supply arg) rest
          else .error (strayError level)

/-! ## The whole line -/

/-- What a command line asks for. -/
structure Invocation where
  /-- The file of the configuration. -/
  config : Option String := none
  output : Option OutputMode := none
  verbosity : Nat := 0
  command : Command
deriving DecidableEq, Repr

namespace Given

/-- With the dataset of the environment, if the command has one and none is given. -/
def orEnvironment (given : Given) (command : CommandName) (data : Option String) :
    Except UsageError Given :=
  match data with
  | some path =>
    if command = .link || given.data.isSome then .ok given else given.set .data path
  | none => .ok given

/-- The request for a location. -/
def linkRequest (given : Given) : LinkRequest where
  filters := given.filters
  location := given.location
  page := given.page

/-- The command with what is given for it. -/
def command (given : Given) : CommandName → Command
  | .schema => .schema given.data
  | .list => .list { given.linkRequest with data := given.data, perPage := given.perPage }
  | .link => .link given.linkRequest

end Given

/-- What a command line asks for, `data` being the dataset that the environment names.  What is
given behind the name of the command counts more than what is given before it. -/
def Invocation.ofArgs (args : List String) (data : Option String) :
    Except UsageError Invocation := do
  let (outer, command) ← readLevel none {} args
  match command with
  | none =>
    if (← outer.settled).isEmpty then throw .nothingGiven else throw .missingCommand
  | some (name, rest) =>
    let (inner, _) ← readLevel (some name) {} rest
    let inner ← (← inner.settled).orEnvironment name data
    let outer ← outer.settled
    return {
      config := inner.config <|> outer.config
      output := inner.output <|> outer.output
      verbosity := if inner.verbosity = 0 then outer.verbosity else inner.verbosity
      command := inner.command name }

end CommandLine
end GameJam
