import GameJam.CommandLine.Help
import GameJam.CommandLine.Invocation
import GameJam.Session

/-!
# The program

One command line, answered from the files that it names.

## What is here

* `Invocation.configPath` and `Invocation.dataPath?` — the only files that an answer depends on.
* `Failure` and `run` — the answer to a command line.
* `Outcome` and `Outcome.of` — what the program prints, and the code that it ends with.
-/

set_option autoImplicit false

namespace GameJam

/-- Why a command line has no answer. -/
inductive Failure where
  | usage (error : CommandLine.UsageError)
  | command (error : CommandError)
deriving DecidableEq, Repr

namespace CommandLine
namespace Invocation

/-- The file that the configuration is looked for in. -/
def configPath (invocation : Invocation) (directory : String) : String :=
  invocation.config.getD (Path.join directory Config.usualFile)

/-- The file of the dataset that the command is about, under a configuration. -/
def dataPath? (invocation : Invocation) (config : Config) : Option String :=
  match invocation.command with
  | .schema data => data <|> config.dataset
  | .list request => request.data <|> config.dataset
  | .link _ => none

/-- The answer to an invocation from a directory. -/
def answer (invocation : Invocation) (files : Files) (directory : String)
    (terminal : Bool) : Except CommandError String := do
  let config ← (Config.discover files invocation.config directory).mapError .config
  let session := Session.start config invocation.output terminal
  return (← session.answer files invocation.command).1

end Invocation
end CommandLine

/-- The answer to a command line that is given in a directory; `data` is the dataset that the
environment names. -/
def run (files : Files) (directory : String) (args : List String) (data : Option String)
    (terminal : Bool) : Except Failure String := do
  let invocation ← (CommandLine.Invocation.ofArgs args data).mapError .usage
  (invocation.answer files directory terminal).mapError .command

/-- What the program prints, and the code that it ends with. -/
structure Outcome where
  code : UInt32
  output : String := ""
  /-- What is printed about an error. -/
  diagnostic : String := ""
deriving DecidableEq, Repr

/-- A text whose last line has an end. -/
def endLine (text : String) : String :=
  if text == "" || text.toList.getLast? == some '\n' then text else text ++ "\n"

/-- The line about a command that has no answer, with the causes behind it. -/
def CommandError.line (error : CommandError) : String :=
  "error: " ++ ": ".intercalate (error.message :: error.causes)

/-- The outcome of an answer; asking for help is no error. -/
def Outcome.of : Except Failure String → Outcome
  | .ok output => { code := 0, output := endLine output }
  | .error (.command error) => { code := 1, diagnostic := error.line ++ "\n" }
  | .error (.usage error) =>
    if error = .help ∨ error = .version then { code := 0, output := error.message }
    else { code := 2, diagnostic := error.message }

end GameJam
