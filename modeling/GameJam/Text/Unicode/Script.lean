import GameJam.Text.Unicode.Runs
import GameJam.Text.Unicode.ScriptData

/-!
# Scripts

Every character belongs to one script and may be in use with several.  A script is named by its
four-letter code; `scriptNamed?` finds the code by any name of the script.
-/

set_option autoImplicit false

namespace GameJam
namespace Unicode

/-- The runs of equal script. -/
def scriptTable : Runs String :=
  ((wordsOf scriptRuns).map fun word =>
    (hexNumber (word.drop 4), String.ofList (word.take 4))).toArray

/-- The code of the script of a code point. -/
def script (c : Nat) : String :=
  (scriptTable.at? c).getD "Zzzz"

/-- The parts of a word between commas. -/
def commaParts (word : List Char) : List String :=
  (wordsOf [String.ofList (word.map fun c => if c = ',' then ' ' else c)]).map String.ofList

/-- The ranges of characters used with other scripts than their own, with those scripts. -/
def scriptExtensionTable : Array (Nat × Nat × List String) :=
  ((wordsOf scriptExtensionRuns).map fun word =>
    let (range, codes) := splitAt ':' word
    let (low, high) := Ranges.ofWord range
    (low, high, commaParts codes)).toArray

/-- The scripts with which a code point is in use. -/
def scriptsInUse (c : Nat) : List String :=
  match scriptExtensionTable.find? fun (low, high, _) => low ≤ c && c ≤ high with
  | some (_, _, codes) => codes
  | none => [script c]

/-- The names of every script, with its code. -/
def scriptNameTable : List (String × List String) :=
  (wordsOf scriptNames).map fun word =>
    let (code, names) := splitAt ':' word
    (String.ofList code, commaParts names)

/-- The code of the script with this name in lower case without separators. -/
def scriptNamed? (name : String) : Option String :=
  (scriptNameTable.find? fun entry => entry.2.contains name).map Prod.fst

end Unicode
end GameJam
