import GameJam.CommandLine.Switch

/-!
# Texts about the command line

What is shown when help or the version is asked for, and what is said about a command line that asks
for nothing that could be done.
-/

set_option autoImplicit false

namespace GameJam
namespace CommandLine

/-- What the program is, and which version of it. -/
def versionText : String :=
  "jamdex 0.3.0\n"

/-- How the program is used. -/
def helpText : String :=
  "Browse and filter game-jam results

Usage: jamdex [OPTIONS] <COMMAND>

Commands:
  schema  Print the filterable properties for a dataset
  list    Filter a dataset and print one page of results
  link    Print the shareable query string for a filter state
  help    Print this message

Options:
      --config <PATH>    Config file (default: ./jamdex.yaml when present)
  -v, --verbose...       More logging on stderr (-v info, -vv debug, -vvv trace)
  -o, --output <OUTPUT>  Output format: auto, term, text, json, yaml or csv
  -h, --help             Print help
  -V, --version          Print version

Options of schema and list:
      --data <PATH>       Dataset file (JSON array of games)

Options of list and link:
      --filters <TOKEN>   Filter token (JSON array of selections)
      --location <QUERY>  Query string to start from
      --page <PAGE>       Page number, starting at 1

Options of list:
      --per-page <N>      Results per page
"

/-- What is said about a command line. -/
def UsageError.message : UsageError → String
  | .help | .nothingGiven => helpText
  | .version => versionText
  | .missingCommand => "error: a command is missing\n"
  | .unknownCommand => "error: unknown command\n"
  | .unknownArgument => "error: unexpected argument\n"
  | .invalidValue => "error: a value is missing or not allowed\n"
  | .invalidNumber => "error: a value is not an allowed number\n"
  | .repeatedSwitch => "error: an option is given more than once\n"
  | .unexpectedValue => "error: a value is given for an option that has none\n"

end CommandLine
end GameJam
