import GameJam.Output.Structured
import GameJam.Output.Styled

/-!
# Presenting results

A result comes in three forms: as text, as data, and as data for a table.  The output mode says
which of them is written, and how.
-/

set_option autoImplicit false

namespace GameJam

/-- A result in the forms in which it can be shown. -/
structure Presentation where
  text : StyledText
  /-- The result as data. -/
  view : Json
  /-- What a table shows of it. -/
  rows : Json

/-- A result in an output mode. -/
def Presentation.write (shown : Presentation) (mode : OutputMode) (terminal : Bool) : String :=
  match mode.textStyle? terminal with
  | some style => shown.text.write style
  | none => (mode.serialize? (if mode = .csv then shown.rows else shown.view)).getD ""

end GameJam
