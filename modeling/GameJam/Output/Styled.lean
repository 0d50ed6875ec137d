import GameJam.OutputMode

/-!
# Styled text

A text for the terminal is a list of spans, each with an emphasis or without one.  On a terminal an
emphasis is written as style sequences around its span; elsewhere only the characters are written.

## What is here

* `Emphasis`, with the numbers of its style sequences.
* `Span` and `StyledText`.
* `StyledText.write` — the text in one of the two styles.
-/

set_option autoImplicit false

namespace GameJam

/-- Why a span stands out. -/
inductive Emphasis where
  | title
  | accent
  | muted
  | current
deriving DecidableEq, Repr

namespace Emphasis

/-- The attributes and colours that an emphasis turns on: bold, cyan, dim, or bold and reverse. -/
def codes : Emphasis → List String
  | .title => ["1"]
  | .accent => ["36"]
  | .muted => ["2"]
  | .current => ["1", "7"]

end Emphasis

/-- The sequence that turns an attribute on; `0` turns all of them off. -/
def styleSequence (code : String) : List Char :=
  '\x1b' :: '[' :: (code.toList ++ ['m'])

/-- A piece of text, and why it stands out if it does. -/
structure Span where
  emphasis : Option Emphasis
  text : String
deriving DecidableEq

namespace Span

/-- A piece of text that does not stand out. -/
def plain (text : String) : Span := ⟨none, text⟩

/-- A piece of text that stands out. -/
def marked (emphasis : Emphasis) (text : String) : Span := ⟨some emphasis, text⟩

/-- The characters of a span in a style. -/
def write (style : TextStyle) (span : Span) : List Char :=
  match style, span.emphasis with
  | .styled, some emphasis =>
    emphasis.codes.flatMap styleSequence ++ span.text.toList ++ styleSequence "0"
  | _, _ => span.text.toList

end Span

/-- A text for the terminal. -/
abbrev StyledText := List Span

namespace StyledText

/-- The text in a style. -/
def write (style : TextStyle) (text : StyledText) : String :=
  String.ofList (text.flatMap (Span.write style))

/-- Texts with a separator between them. -/
def join (separator : String) (texts : List StyledText) : StyledText :=
  (texts.intersperse [.plain separator]).flatten

end StyledText
end GameJam
