/-!
# Output modes

A result is shown as styled text, as plain text, or as its data in one of three formats.  The mode
`auto` stands for styled text on a terminal and for plain text elsewhere.
-/

set_option autoImplicit false

namespace GameJam

/-- How a result is shown. -/
inductive OutputMode where
  | auto
  | term
  | text
  | json
  | yaml
  | csv
deriving DecidableEq, Repr

/-- Whether text carries terminal styles. -/
inductive TextStyle where
  | styled
  | plain
deriving DecidableEq, Repr

namespace OutputMode

/-- All modes, in the order in which they are offered. -/
def all : List OutputMode := [.auto, .term, .text, .json, .yaml, .csv]

/-- The name of a mode on the command line and in the configuration. -/
def name : OutputMode → String
  | .auto => "auto"
  | .term => "term"
  | .text => "text"
  | .json => "json"
  | .yaml => "yaml"
  | .csv => "csv"

/-- The mode with this name. -/
def ofName? (s : String) : Option OutputMode :=
  all.find? fun mode => mode.name == s

theorem ofName?_name (mode : OutputMode) : ofName? mode.name = some mode := by
  cases mode <;> decide

/-- Does the mode show data and not text? -/
def isStructured : OutputMode → Bool
  | .json | .yaml | .csv => true
  | _ => false

/-- The mode itself, `auto` being settled by whether the output is a terminal. -/
def resolve (terminal : Bool) : OutputMode → OutputMode
  | .auto => if terminal then .term else .text
  | mode => mode

/-- The style of the text shown, if text is shown. -/
def textStyle? (terminal : Bool) (mode : OutputMode) : Option TextStyle :=
  match mode.resolve terminal with
  | .term => some .styled
  | .text => some .plain
  | _ => none

theorem textStyle?_eq_none_iff (terminal : Bool) (mode : OutputMode) :
    mode.textStyle? terminal = none ↔ mode.isStructured = true := by
  cases mode <;> cases terminal <;> decide

end OutputMode

/-- The least level of log messages shown when more of them are asked for so many times. -/
def logLevel (verbosity : Nat) : String :=
  match verbosity with
  | 0 => "warn"
  | 1 => "info"
  | 2 => "debug"
  | _ => "trace"

end GameJam
