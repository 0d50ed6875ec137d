import GameJam.Output.Csv
import GameJam.OutputMode
import GameJam.Yaml.Write

/-!
# Data as output

Three of the output modes show the data of a result: as JSON over several lines, as a YAML document,
or as a table of comma-separated values.
-/

set_option autoImplicit false

namespace GameJam
namespace OutputMode

/-- What is said when data is asked for in a mode that shows text. -/
def notStructuredMessage : String :=
  "Not a structured output mode"

/-- The text of data in a mode, if the mode shows data. -/
def serialize? (mode : OutputMode) (j : Json) : Option String :=
  match mode with
  | .json => some j.prettyText
  | .yaml => some (Yaml.write j)
  | .csv => Csv.write? j.sorted.table
  | _ => none

theorem isSome_serialize? (mode : OutputMode) (j : Json) :
    (mode.serialize? j).isSome = mode.isStructured := by
  cases mode with
  | csv => rw [serialize?, Csv.write?_table]; rfl
  | _ => rfl

end OutputMode
end GameJam
