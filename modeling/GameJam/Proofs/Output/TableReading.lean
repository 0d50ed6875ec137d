import GameJam.Output.Csv
import Mathlib.Tactic.SplitIfs

/-!
# Written tables are read as they were

A reader of comma-separated values goes through a text character by character.  A field may stand
between quotes, where commas and line ends are part of it and a quote is written twice; outside of
quotes no quote and no carriage return may stand but the one before a line feed.  All lines have as
many fields as the first.  Readers differ in what they make of an empty line: for some it is a line
with one empty field, others pass over it.

One field is read back before whatever ends it, then one line before any text, then the table.

## What is here

* `Csv.Place` and `Csv.step` — where a reader stands, and what one character does.
* `Csv.read` — the table in a text, if it is the text of one.
* `Csv.readFrom_writeLine` — one line is read before any text.
* `Csv.read_write` — **a written table is read as it was**.
-/

set_option autoImplicit false

namespace GameJam
namespace Csv

/-! ## The reader -/

/-- The fields of a line. -/
abbrev Line :=
  List (List Char)

/-- Where a reader stands in a line, with the fields before and what it has of its field. -/
inductive Place where
  /-- At the beginning of a line. -/
  | start
  /-- In a field without quotes, or at the beginning of a field. -/
  | bare (line : Line) (field : List Char)
  /-- Between the quotes of a field. -/
  | quoted (line : Line) (field : List Char)
  /-- Behind a quote that ends a field, if no other quote follows. -/
  | closed (line : Line) (field : List Char)
  /-- Behind a carriage return that should end these lines. -/
  | carriage (ended : List Line)
deriving DecidableEq

/-- What an empty line stands for. -/
def emptyLine (skipsEmpty : Bool) : List Line :=
  if skipsEmpty then [] else [[[]]]

/-- What a character does behind a field: it ends the field or the line. -/
def afterField (line : Line) (c : Char) : Option (List Line × Place) :=
  if c = ',' then some ([], .bare line [])
  else if c = '\n' then some ([line], .start)
  else if c = '\r' then some ([], .carriage [line])
  else none

/-- What a character does in a field without quotes. -/
def inBare (line : Line) (field : List Char) (c : Char) : Option (List Line × Place) :=
  if c = '"' then if field = [] then some ([], .quoted line []) else none
  else (afterField (line ++ [field]) c).or (some ([], .bare line (field ++ [c])))

/-- The lines that a character ends, and where the reader stands behind it. -/
def step (skipsEmpty : Bool) : Place → Char → Option (List Line × Place)
  | .start, c =>
    if c = '\n' then some (emptyLine skipsEmpty, .start)
    else if c = '\r' then some ([], .carriage (emptyLine skipsEmpty))
    else inBare [] [] c
  | .bare line field, c => inBare line field c
  | .quoted line field, c =>
    if c = '"' then some ([], .closed line field) else some ([], .quoted line (field ++ [c]))
  | .closed line field, c =>
    if c = '"' then some ([], .quoted line (field ++ [c])) else afterField (line ++ [field]) c
  | .carriage ended, c => if c = '\n' then some (ended, .start) else none

/-- The line that the end of the text ends. -/
def Place.finish : Place → Option (List Line)
  | .start => some []
  | .bare line field | .closed line field => some [line ++ [field]]
  | .quoted _ _ | .carriage _ => none

/-- The lines in a text from a place on. -/
def readFrom (skipsEmpty : Bool) : Place → List Char → Option (List Line)
  | place, [] => place.finish
  | place, c :: text =>
    (step skipsEmpty place c).bind fun (ended, next) =>
      (readFrom skipsEmpty next text).map (ended ++ ·)

/-- The table in a text; its lines must be of one length. -/
def read (skipsEmpty : Bool) (text : String) : Option (List (List String)) :=
  ((readFrom skipsEmpty .start text.toList).map fun lines =>
    lines.map fun line => line.map String.ofList).filter isEven

/-! ## One field -/

section Field

variable {skipsEmpty : Bool} {line : Line} {field text : List Char}

/-- A character that ends nothing. -/
theorem readFrom_cons {place next : Place} {c : Char}
    (h : step skipsEmpty place c = some ([], next)) :
    readFrom skipsEmpty place (c :: text) = readFrom skipsEmpty next text := by
  rw [readFrom, h]
  exact Option.map_id'

/-- A character that ends a line. -/
theorem readFrom_cons_of_ends {place : Place} {c : Char}
    (h : step skipsEmpty place c = some ([line], .start)) :
    readFrom skipsEmpty place (c :: text)
      = (readFrom skipsEmpty .start text).map (line :: ·) := by
  rw [readFrom, h]
  rfl

theorem not_needsQuotes_iff :
    needsQuotes field = false ↔ ∀ c ∈ field, c ≠ ',' ∧ c ≠ '"' ∧ c ≠ '\r' ∧ c ≠ '\n' := by
  simp [needsQuotes, and_assoc]

/-- Characters that need no quotes are read one by one. -/
theorem readFrom_bare (h : needsQuotes field = false) (got : List Char) :
    readFrom skipsEmpty (.bare line got) (field ++ text)
      = readFrom skipsEmpty (.bare line (got ++ field)) text := by
  induction field generalizing got with
  | nil => rw [List.nil_append, List.append_nil]
  | cons c field ih =>
    obtain ⟨⟨hcomma, hquote, hreturn, hfeed⟩, hrest⟩ := List.forall_mem_cons.1
      (not_needsQuotes_iff.1 h)
    have hstep : step skipsEmpty (.bare line got) c = some ([], .bare line (got ++ [c])) := by
      simp [step, inBare, afterField, hcomma, hquote, hreturn, hfeed]
    rw [List.cons_append, readFrom_cons hstep, ih (not_needsQuotes_iff.2 hrest), List.append_assoc,
      List.singleton_append]

/-- What stands between the quotes of a field is read up to the last of them. -/
theorem readFrom_quoted (got : List Char) :
    readFrom skipsEmpty (.quoted line got)
        ((field.flatMap fun c => if c = '"' then ['"', '"'] else [c]) ++ '"' :: text)
      = readFrom skipsEmpty (.closed line (got ++ field)) text := by
  induction field generalizing got with
  | nil => rw [List.append_nil]; exact readFrom_cons rfl
  | cons c field ih =>
    rw [List.flatMap_cons, List.append_assoc]
    by_cases hc : c = '"'
    · subst hc
      rw [if_pos rfl, List.cons_append, readFrom_cons rfl, List.singleton_append, readFrom_cons rfl,
        ih, List.append_assoc, List.singleton_append]
    · have hstep : step skipsEmpty (.quoted line got) c = some ([], .quoted line (got ++ [c])) :=
        if_neg hc
      rw [if_neg hc, List.singleton_append, readFrom_cons hstep, ih, List.append_assoc,
        List.singleton_append]

/-- A written field is read up to what follows it, from a place where the field is complete. -/
theorem exists_readFrom_writeField (line : Line) (field : List Char) :
    ∃ place, (∀ c, c = ',' ∨ c = '\n' →
        step skipsEmpty place c = afterField (line ++ [field]) c) ∧
      readFrom skipsEmpty (.bare line []) (writeField field ++ text)
        = readFrom skipsEmpty place text := by
  rw [writeField]
  split_ifs with hquotes
  · refine ⟨.closed line field, ?_, ?_⟩
    · rintro c (rfl | rfl) <;> rfl
    · rw [quoted, List.append_assoc, List.cons_append, List.singleton_append, readFrom_cons rfl,
        readFrom_quoted, List.nil_append]
  · refine ⟨.bare line field, ?_, readFrom_bare (Bool.eq_false_iff.2 hquotes) []⟩
    rintro c (rfl | rfl) <;> rfl

theorem readFrom_writeField_comma (field : List Char) :
    readFrom skipsEmpty (.bare line []) (writeField field ++ ',' :: text)
      = readFrom skipsEmpty (.bare (line ++ [field]) []) text := by
  obtain ⟨place, hstep, hread⟩ := exists_readFrom_writeField line field
  rw [hread, readFrom_cons (hstep ',' (Or.inl rfl))]

theorem readFrom_writeField_lineFeed (field : List Char) :
    readFrom skipsEmpty (.bare line []) (writeField field ++ '\n' :: text)
      = (readFrom skipsEmpty .start text).map ((line ++ [field]) :: ·) := by
  obtain ⟨place, hstep, hread⟩ := exists_readFrom_writeField line field
  rw [hread, readFrom_cons_of_ends (hstep '\n' (Or.inr rfl))]

end Field

/-! ## One line -/

section Line

variable {skipsEmpty : Bool} {text : List Char}

/-- Fields with commas between them are read one by one. -/
theorem readFrom_fields (first : List Char) (rest line : Line) :
    readFrom skipsEmpty (.bare line [])
        ([','].intercalate ((first :: rest).map writeField) ++ '\n' :: text)
      = (readFrom skipsEmpty .start text).map ((line ++ first :: rest) :: ·) := by
  induction rest generalizing first line with
  | nil =>
    rw [List.map_singleton, List.intercalate_singleton]
    exact readFrom_writeField_lineFeed first
  | cons second rest ih =>
    rw [List.map_cons, List.map_cons, List.intercalate_cons_cons, List.append_assoc,
      List.append_assoc, List.singleton_append, readFrom_writeField_comma, ← List.map_cons, ih,
      List.append_assoc, List.singleton_append]

/-- A line with fields is written field by field, unless it is a single empty one. -/
theorem writeLine_eq {fields : Line} (hne : fields ≠ []) (hempty : fields ≠ [[]]) :
    writeLine fields = [','].intercalate (fields.map writeField) ++ ['\n'] := by
  unfold writeLine
  split
  · exact absurd rfl hne
  · exact absurd rfl hempty
  · rfl

/-- A written field with characters does not begin as an empty line does. -/
theorem exists_writeField_cons (c : Char) (field : List Char) :
    ∃ d rest, writeField (c :: field) = d :: rest ∧ d ≠ '\n' ∧ d ≠ '\r' := by
  rw [writeField]
  split_ifs with hquotes
  · exact ⟨'"', _, rfl, by decide, by decide⟩
  · obtain ⟨-, -, hreturn, hfeed⟩ := not_needsQuotes_iff.1 (Bool.eq_false_iff.2 hquotes) c
      List.mem_cons_self
    exact ⟨c, field, rfl, hfeed, hreturn⟩

/-- Nor does a written line. -/
theorem exists_writeLine_eq_cons (fields : Line) :
    ∃ d rest, writeLine fields = d :: rest ∧ d ≠ '\n' ∧ d ≠ '\r' := by
  match fields with
  | [] | [[]] => exact ⟨'"', _, rfl, by decide, by decide⟩
  | [] :: second :: rest => exact ⟨',', _, rfl, by decide, by decide⟩
  | (c :: field) :: rest =>
    obtain ⟨d, more, hfield, hends⟩ := exists_writeField_cons c field
    have hempty : (c :: field) :: rest ≠ [[]] := by simp
    rw [writeLine_eq (List.cons_ne_nil _ _) hempty, List.map_cons, hfield]
    cases rest with
    | nil => exact ⟨d, _, rfl, hends⟩
    | cons second rest => exact ⟨d, _, rfl, hends⟩

/-- **A written line is read before any text.** -/
theorem readFrom_writeLine {fields : Line} (hne : fields ≠ []) :
    readFrom skipsEmpty .start (writeLine fields ++ text)
      = (readFrom skipsEmpty .start text).map (fields :: ·) := by
  -- The reader is at the beginning of a field.
  have hstart : readFrom skipsEmpty .start (writeLine fields ++ text)
      = readFrom skipsEmpty (.bare [] []) (writeLine fields ++ text) := by
    obtain ⟨d, more, hline, hfeed, hreturn⟩ := exists_writeLine_eq_cons fields
    rw [hline, List.cons_append, readFrom, readFrom, step, if_neg hfeed, if_neg hreturn, step]
  rw [hstart]
  by_cases hempty : fields = [[]]
  · subst hempty
    exact (readFrom_cons rfl).trans ((readFrom_cons rfl).trans (readFrom_cons_of_ends rfl))
  · obtain ⟨first, rest, rfl⟩ := List.exists_cons_of_ne_nil hne
    rw [writeLine_eq hne hempty, List.append_assoc, List.singleton_append, readFrom_fields,
      List.nil_append]

end Line

/-! ## The table -/

theorem readFrom_writeLines {skipsEmpty : Bool} {lines : List Line}
    (h : ∀ line ∈ lines, line ≠ []) :
    readFrom skipsEmpty .start (lines.flatMap writeLine) = some lines := by
  induction lines with
  | nil => rfl
  | cons line lines ih =>
    obtain ⟨hline, hlines⟩ := List.forall_mem_cons.1 h
    rw [List.flatMap_cons, readFrom_writeLine hline, ih hlines, Option.map_some]

/-- **A written table is read as it was**, by readers of either kind. -/
theorem read_write {table : List (List String)} (hne : ∀ line ∈ table, line ≠ [])
    (heven : isEven table = true) (skipsEmpty : Bool) :
    read skipsEmpty (write table) = some table := by
  have hlines : readFrom skipsEmpty .start (write table).toList
      = some (table.map fun line => line.map String.toList) := by
    rw [write, String.toList_ofList, ← List.flatMap_map]
    refine readFrom_writeLines (List.forall_mem_map.2 fun line hline => ?_)
    exact fun hnil => hne line hline (List.map_eq_nil_iff.1 hnil)
  have htexts : (table.map fun line => line.map String.toList).map
      (fun line => line.map String.ofList) = table := by
    simp only [List.map_map, Function.comp_def, String.ofList_toList, List.map_id']
  rw [read, hlines, Option.map_some, htexts, Option.filter_some_pos heven]

end Csv
end GameJam
