import GameJam.Proofs.Json.TreeReading

/-!
# JSON texts as they may be spelled

The grammar of JSON leaves a text many freedoms: blanks between the parts, escapes that stand for a
character which could have been written as it is, exponents in several notations.  A `Spelling` is a
text with all of its choices, as a tree, and so the texts of spellings are the texts of the grammar.
The draft of a spelling is what it means, leaf by leaf; that the reader of texts makes just this
draft of the text is the theorem of this file.

A leaf may be spelled as the grammar has it and still have no value: a number that is out of range,
and half a surrogate pair.  The draft says so.

## What is here

* `Gap`, `Digits`, `HexDigit` — runs of blanks and of digits, and hexadecimal digits.
* `Piece` — what a string is made of; `Piece.addTo` is what it adds.
* `NumberSpelling` — a numeral, and an exponent in any notation.
* `Spelling`, with `Spelling.text` and `Spelling.draft`.
* `behind_text` — **a spelled value is read whole**, on any stack, and `ofText_text` for a text.
-/

set_option autoImplicit false

namespace GameJam
namespace Json

/-! ## The grammar -/

/-- Blanks, which may be none. -/
abbrev Gap := { chars : List Char // ∀ c ∈ chars, isBlank c = true }

/-- Decimal digits, at least one. -/
abbrev Digits := { chars : List Char // chars ≠ [] ∧ ∀ c ∈ chars, c.isDigit = true }

/-- A hexadecimal digit in either case. -/
abbrev HexDigit := { c : Char // (hexValue? c).isSome = true }

/-- What the digit is worth. -/
def HexDigit.value (digit : HexDigit) : Nat :=
  (hexValue? digit.1).get digit.2

/-- The letters that may follow a backslash, each with the character it stands for. -/
def letterEscapes : List (Char × Char) := [
  ('"', '"'), ('\\', '\\'), ('/', '/'), ('b', '\x08'), ('f', '\x0c'), ('n', '\n'), ('r', '\r'),
  ('t', '\t')]

/-- A part of a string that stands for a character, or for half of one. -/
inductive Piece where
  /-- A character that stands for itself. -/
  | plain (c : Char) (stands : c ≠ '"' ∧ c ≠ '\\' ∧ 0x20 ≤ c.toNat)
  | short (letter c : Char) (stands : (letter, c) ∈ letterEscapes)
  /-- A code unit of UTF-16 in hexadecimal digits. -/
  | unit (a b c d : HexDigit)

namespace Piece

/-- The piece as it is written. -/
def text : Piece → List Char
  | .plain c _ => [c]
  | .short letter _ _ => ['\\', letter]
  | .unit a b c d => ['\\', 'u', a.1, b.1, c.1, d.1]

/-- A string with the piece added. -/
def addTo (s : StringText) : Piece → StringText
  | .plain c _ => s.add c
  | .short _ c _ => s.add c
  | .unit a b c d => s.addUnit (16 * (16 * (16 * a.value + b.value) + c.value) + d.value)

end Piece

/-- A string between its quotes. -/
def quotedPieces (pieces : List Piece) : List Char :=
  '"' :: (pieces.flatMap Piece.text ++ ['"'])

/-- The string that the pieces mean; there is none if half a surrogate pair is among them. -/
def piecesLeaf (pieces : List Piece) : Leaf String :=
  (pieces.foldl Piece.addTo {}).settle.leaf

/-- A string in which every character stands for itself. -/
def plainPieces (chars : List Char) (h : ∀ c ∈ chars, c ≠ '"' ∧ c ≠ '\\' ∧ 0x20 ≤ c.toNat) :
    List Piece :=
  chars.attach.map fun c => .plain c.1 (h c.1 c.2)

/-- The sign of an exponent, as it is written. -/
inductive ExponentSign where
  | absent
  | plus
  | minus
deriving DecidableEq

/-- The characters of the sign. -/
def ExponentSign.text : ExponentSign → List Char
  | .absent => []
  | .plus => ['+']
  | .minus => ['-']

/-- An exponent in any notation. -/
structure ExponentSpelling where
  mark : Char
  isMark : mark = 'e' ∨ mark = 'E'
  sign : ExponentSign
  digits : Digits

/-- A number in any notation: a regular numeral without an exponent, and the exponent, if there is
one. -/
structure NumberSpelling where
  numeral : Numeral
  regular : numeral.Regular
  bare : numeral.exponent = 0
  exponent : Option ExponentSpelling

namespace NumberSpelling

/-- The exponent as it is written. -/
def exponentText (n : NumberSpelling) : List Char :=
  match n.exponent with
  | none => []
  | some exponent => exponent.mark :: (exponent.sign.text ++ exponent.digits.1)

/-- The number as it is written. -/
def text (n : NumberSpelling) : List Char :=
  n.numeral.text ++ n.exponentText

/-- What the reader holds after it. -/
def numberText (n : NumberSpelling) : NumberText :=
  match n.exponent with
  | none => n.numeral.numberText
  | some exponent =>
    { n.numeral.numberText with
      phase := .exponent
      exponentNegative := exponent.sign = .minus
      exponent := exponent.digits.1.reverse }

end NumberSpelling

/-- A key with the blanks around it. -/
structure KeySpelling where
  before : Gap
  pieces : List Piece
  after : Gap

/-- A JSON text of one value. -/
inductive Spelling where
  | null
  | bool (b : Bool)
  | number (n : NumberSpelling)
  | string (pieces : List Piece)
  /-- The items of an array behind its bracket; blanks stand there if it is empty. -/
  | array (gap : Gap) (items : List Spelling)
  | object (gap : Gap) (fields : List (KeySpelling × Spelling))
  /-- A value with blanks around it. -/
  | spaced (before : Gap) (value : Spelling) (after : Gap)

/-- The key as it is written, with the colon. -/
def KeySpelling.text (key : KeySpelling) : List Char :=
  key.before.1 ++ (quotedPieces key.pieces ++ (key.after.1 ++ [':']))

namespace Spelling

mutual

/-- The characters of the text. -/
def text : Spelling → List Char
  | .null => ['n', 'u', 'l', 'l']
  | .bool true => ['t', 'r', 'u', 'e']
  | .bool false => ['f', 'a', 'l', 's', 'e']
  | .number n => n.text
  | .string pieces => quotedPieces pieces
  | .array gap [] => '[' :: (gap.1 ++ [']'])
  | .array gap (item :: rest) => '[' :: (gap.1 ++ (item.text ++ itemsText rest))
  | .object gap [] => '{' :: (gap.1 ++ ['}'])
  | .object gap ((key, value) :: rest) =>
    '{' :: (gap.1 ++ (key.text ++ (value.text ++ fieldsText rest)))
  | .spaced before value after => before.1 ++ (value.text ++ after.1)

/-- The items behind a first one, and the closing bracket. -/
def itemsText : List Spelling → List Char
  | [] => [']']
  | item :: rest => ',' :: (item.text ++ itemsText rest)

/-- The fields behind a first one, and the closing brace. -/
def fieldsText : List (KeySpelling × Spelling) → List Char
  | [] => ['}']
  | (key, value) :: rest => ',' :: (key.text ++ (value.text ++ fieldsText rest))

end

mutual

/-- What the text means. -/
def draft : Spelling → Draft
  | .null => .null
  | .bool b => .bool b
  | .number n => n.numberText.draft
  | .string pieces => .string (piecesLeaf pieces)
  | .array _ items => .array (drafts items) none
  | .object _ fields => .object (fieldDrafts fields) none
  | .spaced _ value _ => value.draft

/-- What the items mean. -/
def drafts : List Spelling → List Draft
  | [] => []
  | item :: rest => item.draft :: drafts rest

/-- What the fields mean. -/
def fieldDrafts : List (KeySpelling × Spelling) → List (Leaf String × Draft)
  | [] => []
  | (key, value) :: rest => (piecesLeaf key.pieces, value.draft) :: fieldDrafts rest

end

end Spelling

/-! ## Strings -/

section Strings

theorem utf8Size_of_hexValue? {c : Char} (h : (hexValue? c).isSome = true) : c.utf8Size = 1 := by
  rw [Char.utf8Size_eq_one_iff]
  unfold hexValue? at h
  split_ifs at h with hdigit hlower hupper
  · have hrange : '0'.val ≤ c.val ∧ c.val ≤ '9'.val := by
      simpa only [Char.isDigit, Bool.and_eq_true, decide_eq_true_eq] using hdigit
    exact UInt32.le_trans hrange.2 (by decide)
  · exact UInt32.le_trans hlower.2 (by decide)
  · exact UInt32.le_trans hupper.2 (by decide)
  · cases h

theorem HexDigit.hexValue?_eq (digit : HexDigit) : hexValue? digit.1 = some digit.value :=
  (Option.some_get digit.2).symm

@[simp] theorem StringText.phase_add (s : StringText) (c : Char) : (s.add c).phase = .plain :=
  rfl

@[simp] theorem StringText.phase_addUnit (s : StringText) (unit : Nat) :
    (s.addUnit unit).phase = .plain := by
  unfold StringText.addUnit
  split_ifs
  · split <;> rfl
  · rfl
  · rfl

theorem Piece.phase_addTo (s : StringText) (piece : Piece) :
    (piece.addTo s).phase = .plain := by
  cases piece <;> simp [Piece.addTo]

/-- What is added does not depend on how the escape was entered. -/
theorem StringText.add_phase (s : StringText) (phase : StringPhase) (c : Char) :
    StringText.add { s with phase } c = s.add c := by
  simp only [StringText.add, StringText.settle]
  split_ifs <;> rfl

theorem StringText.addUnit_phase (s : StringText) (phase : StringPhase) (unit : Nat) :
    StringText.addUnit { s with phase } unit = s.addUnit unit := by
  have hadd := StringText.add_phase s phase (Char.ofNat unit)
  simp only [StringText.addUnit]
  split_ifs
  · rfl
  · simp only [StringText.settle]
    split_ifs <;> rfl
  · exact hadd

/-- Behind a backslash and the letter `u`, a digit is taken up. -/
theorem StringText.push_hex (s : StringText) (bytes value : Nat) (digit : HexDigit) :
    StringText.push { s with phase := .hex bytes value true } digit.1 =
      if bytes + 1 < 4 then
        .more { s with phase := .hex (bytes + 1) (16 * value + digit.value) true }
      else .more (s.addUnit (16 * value + digit.value)) := by
  simp only [StringText.push, utf8Size_of_hexValue? digit.2, digit.hexValue?_eq, if_true]
  split_ifs
  · rfl
  · rw [StringText.addUnit_phase]

/-- A letter behind a backslash adds its character. -/
theorem StringText.push_letter (s : StringText) : ∀ escape ∈ letterEscapes,
    StringText.push { s with phase := .escape } escape.1 = .more (s.add escape.2) := by
  simp only [letterEscapes, List.forall_mem_cons, List.not_mem_nil, false_implies, implies_true,
    and_true, StringText.push, StringText.add_phase]

/-- **A piece is taken whole** and adds what it means. -/
theorem takes_piece {s : StringText} (h : s.phase = .plain) (piece : Piece) :
    s.takes piece.text = some (piece.addTo s) := by
  have hslash : s.push '\\' = .more { s with phase := .escape } := by
    simp [StringText.push, h]
  cases piece with
  | plain c stands =>
    obtain ⟨hquote, hbackslash, hcontrol⟩ := stands
    simp [Piece.text, Piece.addTo, StringText.takes, StringText.push, h, hquote, hbackslash,
      Nat.not_lt.2 hcontrol]
  | short letter c stands =>
    have hletter := s.push_letter (letter, c) stands
    simp only [Piece.text, Piece.addTo, StringText.takes, hslash, hletter]
  | unit a b c d =>
    have hunit : StringText.push { s with phase := .escape } 'u'
        = .more { s with phase := .hex 0 0 true } := rfl
    simp [Piece.text, Piece.addTo, StringText.takes, hslash, hunit, StringText.push_hex]

theorem takes_pieces (pieces : List Piece) : ∀ {s : StringText}, s.phase = .plain →
    s.takes (pieces.flatMap Piece.text) = some (pieces.foldl Piece.addTo s) ∧
      (pieces.foldl Piece.addTo s).phase = .plain := by
  induction pieces with
  | nil => exact fun h => ⟨rfl, h⟩
  | cons piece pieces ih =>
    intro s h
    rw [List.flatMap_cons, List.foldl_cons, StringText.takes_append (takes_piece h piece)]
    exact ih (piece.phase_addTo s)

variable {stack : List Frame}

/-- A string where a value may stand. -/
theorem foldl_quotedPieces (pieces : List Piece) :
    (quotedPieces pieces).foldl State.step ⟨stack, .value⟩
      = State.complete (.string (piecesLeaf pieces)) stack :=
  foldl_string (takes_pieces pieces rfl).1 (takes_pieces pieces rfl).2

/-- A string where a key may stand. -/
theorem foldl_quotedPieces_key (fields : List (Leaf String × Draft)) (pieces : List Piece) :
    (quotedPieces pieces).foldl State.step ⟨stack, .key fields⟩
      = ⟨stack, .colon fields (piecesLeaf pieces)⟩ :=
  foldl_keyString fields (takes_pieces pieces rfl).1 (takes_pieces pieces rfl).2

end Strings

/-! ## Numbers -/

section Numbers

variable {stack : List Frame}

theorem phase_numberText_of_bare {n : Numeral} (h : n.exponent = 0) :
    n.numberText.phase = .zero ∨ n.numberText.phase = .whole ∨ n.numberText.phase = .fraction := by
  simp only [Numeral.numberText, h, ne_eq, not_true_eq_false, if_false]
  split_ifs <;> simp

/-- An exponent behind a number that has none. -/
theorem foldl_exponentSpelling (exponent : ExponentSpelling) {n : NumberText}
    (hphase : n.phase = .zero ∨ n.phase = .whole ∨ n.phase = .fraction)
    (hbare : n.exponentNegative = false) :
    (exponent.mark :: (exponent.sign.text ++ exponent.digits.1)).foldl State.step
        ⟨stack, .number n⟩
      = ⟨stack, .number { n with
          phase := .exponent
          exponentNegative := exponent.sign = .minus
          exponent := exponent.digits.1.reverse }⟩ := by
  obtain ⟨mark, isMark, sign, digits, hne, hdigits⟩ := exponent
  obtain ⟨d, rest, rfl⟩ := List.exists_cons_of_ne_nil hne
  rw [List.forall_mem_cons] at hdigits
  have hletter : mark.isDigit = false ∧ mark ≠ '.' := by rcases isMark with rfl | rfl <;> decide
  have hmark : n.push mark = .more { n with phase := .exponentMark } := by
    rcases hphase with h | h | h <;>
      simp [NumberText.push, NumberText.afterWhole, h, hletter, isMark]
  have hplain : d ≠ '+' ∧ d ≠ '-' := by
    constructor <;> (rintro rfl; exact absurd hdigits.1 (by decide))
  -- The sign may be absent, and then the first digit comes right behind the mark.
  have hfirst : (sign.text ++ [d]).foldl State.step
        ⟨stack, .number { n with phase := .exponentMark }⟩
      = ⟨stack, .number { n with
          phase := .exponent, exponentNegative := sign = .minus, exponent := [d] }⟩ := by
    cases sign <;>
      simp [ExponentSign.text, State.step, NumberText.push, hplain, hdigits.1, hbare]
  have hrest : rest.foldl State.step ⟨stack, .number { n with
        phase := .exponent, exponentNegative := sign = .minus, exponent := [d] }⟩ = _ :=
    foldl_digits (fun collected => { n with
      phase := .exponent, exponentNegative := sign = .minus, exponent := collected })
      (by intro d' _ hd'; simp [NumberText.push, hd']) rest [d] hdigits.2
  have hsplit : sign.text ++ d :: rest = (sign.text ++ [d]) ++ rest := by simp
  rw [List.foldl_cons, step_number hmark]
  dsimp only
  rw [hsplit, List.foldl_append, hfirst, hrest, List.reverse_cons]

/-- The reader takes a number in any notation. -/
theorem foldl_numberSpelling (n : NumberSpelling) :
    n.text.foldl State.step ⟨stack, .value⟩ = ⟨stack, .number n.numberText⟩ := by
  obtain ⟨numeral, regular, bare, exponent⟩ := n
  rw [NumberSpelling.text, List.foldl_append, foldl_text regular]
  cases exponent with
  | none => rfl
  | some exponent =>
    have hpositive : numeral.numberText.exponentNegative = false := by
      simp [Numeral.numberText, bare]
    exact foldl_exponentSpelling exponent (phase_numberText_of_bare bare) hpositive

theorem isComplete_numberSpelling (n : NumberSpelling) : n.numberText.isComplete = true := by
  obtain ⟨numeral, regular, bare, _ | exponent⟩ := n
  · exact isComplete_numberText numeral
  · rfl

end Numbers

/-! ## Blanks -/

section Blanks

theorem not_goesOn_of_isBlank {c : Char} (h : isBlank c = true) : ¬goesOn c := by
  simp only [isBlank, Bool.or_eq_true, decide_eq_true_eq] at h
  rcases h with ((rfl | rfl) | rfl) | rfl <;> (unfold goesOn; decide)

/-- Blanks are passed over wherever no number, word or string is being read. -/
theorem foldl_gap {s : State} (h : ∀ c, s.step c = s.structural c) (gap : Gap) :
    gap.1.foldl State.step s = s := by
  obtain ⟨chars, hblank⟩ := gap
  induction chars with
  | nil => rfl
  | cons c chars ih =>
    obtain ⟨hc, hrest⟩ := List.forall_mem_cons.1 hblank
    have hstep : s.step c = s := by rw [h, State.structural, if_pos hc]
    rw [List.foldl_cons, hstep]
    exact ih hrest

/-- Blanks behind a value change nothing. -/
theorem behind_gap {s : State} {value : Draft} {stack : List Frame} (h : Behind s value stack)
    (gap : Gap) : Behind (gap.1.foldl State.step s) value stack := by
  obtain ⟨chars, hblank⟩ := gap
  cases chars with
  | nil => exact h
  | cons c chars =>
    obtain ⟨hc, hrest⟩ := List.forall_mem_cons.1 hblank
    have hstep : s.step c = State.complete value stack := by
      rw [h.step c (not_goesOn_of_isBlank hc), step_complete, State.structural, if_pos hc]
    have hpass := foldl_gap (step_complete value stack) ⟨chars, hrest⟩
    rw [List.foldl_cons, hstep, hpass]
    exact behind_complete value stack

end Blanks

/-! ## Values -/

section Values

/-- A key behind an opening brace or a comma, with the colon behind it. -/
theorem foldl_keySpelling {stack : List Frame} (fields : List (Leaf String × Draft))
    (key : KeySpelling) :
    key.text.foldl State.step ⟨stack, .key fields⟩
      = ⟨.member fields (piecesLeaf key.pieces) :: stack, .value⟩ := by
  have hcolon : State.step ⟨stack, .colon fields (piecesLeaf key.pieces)⟩ ':'
      = ⟨.member fields (piecesLeaf key.pieces) :: stack, .value⟩ := rfl
  rw [KeySpelling.text, List.foldl_append, foldl_gap (fun _ => rfl), List.foldl_append,
    foldl_quotedPieces_key, List.foldl_append, foldl_gap (fun _ => rfl), List.foldl_cons, hcolon,
    List.foldl_nil]

/-- Behind its blanks a value begins with a character that is no closing bracket. -/
theorem Spelling.exists_text_eq : (s : Spelling) → ∃ (gap : Gap) (c : Char) (rest : List Char),
    s.text = gap.1 ++ c :: rest ∧ isBlank c = false ∧ c ≠ ']'
  | .spaced before value after => by
    obtain ⟨gap, c, rest, htext, hc⟩ := exists_text_eq value
    refine ⟨⟨before.1 ++ gap.1, List.forall_mem_append.2 ⟨before.2, gap.2⟩⟩, c, rest ++ after.1,
      ?_, hc⟩
    simp [Spelling.text, htext]
  | .number n => by
    obtain ⟨c, rest, hcons, hc⟩ := exists_cons_text n.regular
    refine ⟨⟨[], List.forall_mem_nil _⟩, c, rest ++ n.exponentText, ?_, ?_⟩
    · rw [text, NumberSpelling.text, hcons]
      rfl
    rcases hc with rfl | hdigit
    · decide
    · exact ⟨not_isBlank_of_isDigit hdigit, by rintro rfl; exact absurd hdigit (by decide)⟩
  | .null => ⟨⟨[], List.forall_mem_nil _⟩, 'n', _, rfl, by decide⟩
  | .bool true => ⟨⟨[], List.forall_mem_nil _⟩, 't', _, rfl, by decide⟩
  | .bool false => ⟨⟨[], List.forall_mem_nil _⟩, 'f', _, rfl, by decide⟩
  | .string _ => ⟨⟨[], List.forall_mem_nil _⟩, '"', _, by rw [text]; rfl, by decide⟩
  | .array _ [] => ⟨⟨[], List.forall_mem_nil _⟩, '[', _, by rw [text]; rfl, by decide⟩
  | .array _ (_ :: _) => ⟨⟨[], List.forall_mem_nil _⟩, '[', _, by rw [text]; rfl, by decide⟩
  | .object _ [] => ⟨⟨[], List.forall_mem_nil _⟩, '{', _, by rw [text]; rfl, by decide⟩
  | .object _ (_ :: _) => ⟨⟨[], List.forall_mem_nil _⟩, '{', _, by rw [text]; rfl, by decide⟩

/-- The first item of an array is read as one behind a comma is. -/
theorem foldl_firstSpelling (stack : List Frame) (s : Spelling) :
    s.text.foldl State.step ⟨stack, .firstItem⟩
      = s.text.foldl State.step ⟨.array [] :: stack, .value⟩ := by
  obtain ⟨gap, c, rest, htext, hblank, hbracket⟩ := s.exists_text_eq
  have hfirst : State.step ⟨stack, .firstItem⟩ c = State.step ⟨.array [] :: stack, .value⟩ c := by
    simp [State.step, State.structural, hblank, hbracket]
  rw [htext, List.foldl_append, List.foldl_append, foldl_gap (fun _ => rfl),
    foldl_gap (fun _ => rfl), List.foldl_cons, List.foldl_cons, hfirst]

mutual

/-- **A spelled value is read whole.** -/
theorem behind_text : (s : Spelling) → ∀ stack : List Frame,
    Behind (s.text.foldl State.step ⟨stack, .value⟩) s.draft stack
  | .null, stack => by
    rw [Spelling.text, Spelling.draft]
    exact behind_complete _ _
  | .bool true, stack => by
    rw [Spelling.text, Spelling.draft]
    exact behind_complete _ _
  | .bool false, stack => by
    rw [Spelling.text, Spelling.draft]
    exact behind_complete _ _
  | .number n, stack => by
    rw [Spelling.text, Spelling.draft, foldl_numberSpelling]
    exact behind_numberText stack (isComplete_numberSpelling n)
  | .string pieces, stack => by
    rw [Spelling.text, Spelling.draft, foldl_quotedPieces]
    exact behind_complete _ _
  | .spaced before value after, stack => by
    rw [Spelling.text, Spelling.draft, List.foldl_append, foldl_gap (fun _ => rfl),
      List.foldl_append]
    exact behind_gap (behind_text value stack) after
  | .array gap [], stack => by
    have hopen : State.step ⟨stack, .value⟩ '[' = ⟨stack, .firstItem⟩ := rfl
    rw [Spelling.text, List.foldl_cons, hopen, List.foldl_append, foldl_gap (fun _ => rfl),
      Spelling.draft, Spelling.drafts]
    exact behind_complete _ _
  | .array gap (item :: rest), stack => by
    have hopen : State.step ⟨stack, .value⟩ '[' = ⟨stack, .firstItem⟩ := rfl
    have hitem := behind_text item (.array [] :: stack)
    rw [Spelling.text, List.foldl_cons, hopen, List.foldl_append, foldl_gap (fun _ => rfl),
      List.foldl_append, foldl_firstSpelling, foldl_itemsText rest hitem]
    exact behind_complete _ _
  | .object gap [], stack => by
    have hopen : State.step ⟨stack, .value⟩ '{' = ⟨stack, .key []⟩ := rfl
    rw [Spelling.text, List.foldl_cons, hopen, List.foldl_append, foldl_gap (fun _ => rfl),
      Spelling.draft, Spelling.fieldDrafts]
    exact behind_complete _ _
  | .object gap ((key, value) :: rest), stack => by
    have hopen : State.step ⟨stack, .value⟩ '{' = ⟨stack, .key []⟩ := rfl
    have hvalue := behind_text value (.member [] (piecesLeaf key.pieces) :: stack)
    rw [Spelling.text, List.foldl_cons, hopen, List.foldl_append, foldl_gap (fun _ => rfl),
      List.foldl_append, foldl_keySpelling, List.foldl_append, foldl_fieldsText rest hvalue]
    exact behind_complete _ _

/-- The items behind one that has been read, up to the closing bracket. -/
theorem foldl_itemsText : (rest : List Spelling) → ∀ {s : State} {item : Draft}
    {before : List Draft} {stack : List Frame}, Behind s item (.array before :: stack) →
      (Spelling.itemsText rest).foldl State.step s
        = State.complete
            (.array ((item :: before).reverse ++ Spelling.drafts rest) none) stack
  | [], s, item, before, stack, h => by
    have hclose := h.step ']' (not_goesOn_between (Or.inr (Or.inl rfl)))
    rw [Spelling.itemsText, List.foldl_cons, hclose, Spelling.drafts, List.append_nil]
    rfl
  | next :: rest, s, item, before, stack, h => by
    have hcomma : s.step ',' = ⟨.array (item :: before) :: stack, .value⟩ :=
      h.step ',' (not_goesOn_between (Or.inl rfl))
    have hnext := behind_text next (.array (item :: before) :: stack)
    rw [Spelling.itemsText, List.foldl_cons, hcomma, List.foldl_append, foldl_itemsText rest hnext,
      Spelling.drafts, List.reverse_cons, List.append_assoc, List.singleton_append]

/-- The fields behind one that has been read, up to the closing brace. -/
theorem foldl_fieldsText : (rest : List (KeySpelling × Spelling)) → ∀ {s : State} {value : Draft}
    {before : List (Leaf String × Draft)} {key : Leaf String} {stack : List Frame},
    Behind s value (.member before key :: stack) →
      (Spelling.fieldsText rest).foldl State.step s
        = State.complete (.object
            (((key, value) :: before).reverse ++ Spelling.fieldDrafts rest) none) stack
  | [], s, value, before, key, stack, h => by
    have hclose := h.step '}' (not_goesOn_between (Or.inr (Or.inr rfl)))
    rw [Spelling.fieldsText, List.foldl_cons, hclose, Spelling.fieldDrafts, List.append_nil]
    rfl
  | (nextKey, next) :: rest, s, value, before, key, stack, h => by
    have hcomma : s.step ',' = ⟨stack, .key ((key, value) :: before)⟩ :=
      h.step ',' (not_goesOn_between (Or.inl rfl))
    have hnext := behind_text next (.member ((key, value) :: before) (piecesLeaf nextKey.pieces)
      :: stack)
    rw [Spelling.fieldsText, List.foldl_cons, hcomma, List.foldl_append, foldl_keySpelling,
      List.foldl_append, foldl_fieldsText rest hnext, Spelling.fieldDrafts, List.reverse_cons,
      List.append_assoc, List.singleton_append]

end

/-- **A spelled text is read as what it means**, and nothing follows it. -/
theorem ofText_text (s : Spelling) : Document.ofText s.text = ⟨s.draft, false⟩ := by
  rw [Document.ofText, State.initial, (behind_text s []).finish]
  rfl

end Values

/-! ## Arrays -/

/-- A text of an array, in any spelling; the drafts are what its items mean. -/
def ArrayText (items : List Draft) (text : String) : Prop :=
  ∃ s : Spelling, text.toList = s.text ∧ s.draft = .array items none

theorem Spelling.drafts_eq_map (items : List Spelling) :
    Spelling.drafts items = items.map Spelling.draft := by
  induction items with
  | nil => rfl
  | cons item items ih => rw [drafts, ih, List.map_cons]

theorem Spelling.fieldDrafts_eq_map (fields : List (KeySpelling × Spelling)) :
    Spelling.fieldDrafts fields
      = fields.map fun field => (piecesLeaf field.1.pieces, field.2.draft) := by
  induction fields with
  | nil => rfl
  | cons field fields ih =>
    obtain ⟨key, value⟩ := field
    rw [fieldDrafts, ih, List.map_cons]

/-- Blanks aside, an array is spelled item by item. -/
theorem Spelling.exists_of_draft_eq_array {items : List Draft} : (s : Spelling) →
    s.draft = .array items none →
      ∃ spelled : List Spelling, items = spelled.map Spelling.draft ∧ '[' ∈ s.text
  | .spaced before value after, h => by
    rw [draft] at h
    obtain ⟨spelled, hspelled, hmem⟩ := exists_of_draft_eq_array value h
    exact ⟨spelled, hspelled, by simp [text, hmem]⟩
  | .array gap [], h => by
    rw [draft, Draft.array.injEq] at h
    exact ⟨[], by rw [← h.1, drafts_eq_map], by simp [text]⟩
  | .array gap (item :: rest), h => by
    rw [draft, Draft.array.injEq] at h
    exact ⟨item :: rest, by rw [← h.1, drafts_eq_map], by simp [text]⟩
  | .null, h => by simp [draft] at h
  | .bool _, h => by simp [draft] at h
  | .number _, h => by simp [draft, NumberText.draft] at h
  | .string _, h => by simp [draft] at h
  | .object _ _, h => by simp [draft] at h

/-- Each item of an array is the only one of some array. -/
theorem ArrayText.exists_singleton {items : List Draft} {text : String} (h : ArrayText items text)
    {item : Draft} (hitem : item ∈ items) : ∃ single, ArrayText [item] single := by
  obtain ⟨s, -, hdraft⟩ := h
  obtain ⟨spelled, rfl, -⟩ := s.exists_of_draft_eq_array hdraft
  obtain ⟨value, -, rfl⟩ := List.mem_map.1 hitem
  refine ⟨String.ofList (Spelling.array ⟨[], List.forall_mem_nil _⟩ [value]).text, _,
    String.toList_ofList .., ?_⟩
  rw [Spelling.draft, Spelling.drafts, Spelling.drafts]

end Json
end GameJam
