import GameJam.Output.Styled

/-!
# Styled text as it is written

A styled text is written span by span, so a text that is put together from others is written as what
they are, one after the other.  Separators never stand out.

## What is here

* `write_append`, `write_join` — **texts that are put together**, in either style.
-/

set_option autoImplicit false

namespace GameJam

/-- A span that does not stand out is written as it is. -/
@[simp] theorem Span.write_plain (style : TextStyle) (text : String) :
    (plain text).write style = text.toList := by
  cases style <;> rfl

/-- Without styles no span stands out. -/
@[simp] theorem Span.write_of_plain (span : Span) : span.write .plain = span.text.toList :=
  rfl

namespace StyledText

variable (style : TextStyle)

theorem toList_write (text : StyledText) :
    (text.write style).toList = text.flatMap (Span.write style) :=
  String.toList_ofList

@[simp] theorem write_nil : write style [] = "" :=
  rfl

@[simp] theorem write_append (first second : StyledText) :
    write style (first ++ second) = write style first ++ write style second := by
  rw [← String.toList_inj, String.toList_append]
  simp only [toList_write, List.flatMap_append]

theorem write_cons (span : Span) (rest : StyledText) :
    write style (span :: rest) = write style [span] ++ write style rest :=
  write_append style [span] rest

@[simp] theorem write_plain (text : String) : write style [.plain text] = text := by
  rw [← String.toList_inj, toList_write]
  simp

theorem write_of_plain (span : Span) : write .plain [span] = span.text := by
  rw [← String.toList_inj, toList_write]
  simp

/-- **A separator stands between the texts** that are joined, and nowhere else. -/
theorem write_join (separator : String) (texts : List StyledText) :
    write style (join separator texts) = separator.intercalate (texts.map (write style)) := by
  rw [← String.toList_inj, String.toList_intercalate, List.map_map]
  induction texts with
  | nil => rfl
  | cons first rest ih =>
    cases rest with
    | nil => simp [join, toList_write]
    | cons second rest =>
      have hcons : join separator (first :: second :: rest)
          = first ++ .plain separator :: join separator (second :: rest) := rfl
      rw [hcons, write_append, write_cons, write_plain, String.toList_append, String.toList_append,
        ih]
      rfl

end StyledText
end GameJam
