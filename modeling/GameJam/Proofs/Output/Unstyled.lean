import GameJam.Listing
import GameJam.Output.Outline
import GameJam.Proofs.Number.Written
import GameJam.Proofs.Output.Styled

/-!
# Styled text without its styles

What is shown on a terminal is what is shown elsewhere with style sequences around some of it, and
nothing but these sequences.  So a reader who takes them out of a styled text should be left with
the plain one, and the plain text should have none.

Both depend on the texts that are shown.  One that has an escape character itself is written as it
is, in either style, and what follows the character may look like a sequence.  Without such a text
there are no sequences but those of the styles, since an escape character is none of the characters
that are written around the texts.

## What is here

* `withoutSequences`, `unstyled` — a text without the style sequences in it.
* `StyledText.unstyled_write` — a styled text without its sequences.
* `TreeRow.texts`, `Listing.texts` — what is shown in a tree and in a listing;
  `TreeRow.escapeFree_text_iff` and `Listing.escapeFree_text_iff` say that these are all the texts
  that matter.
* `unstyled_renderings` — **the two styles differ in style sequences only**.
-/

set_option autoImplicit false

namespace GameJam

/-! ## Taking sequences out -/

/-- What follows the style sequence that a text begins with, if it begins with one: an escape
character, a bracket, digits and an `m`. -/
def afterSequence? : List Char → Option (List Char)
  | '\x1b' :: '[' :: rest =>
    if rest.takeWhile Char.isDigit = [] then none
    else match rest.dropWhile Char.isDigit with
      | 'm' :: after => some after
      | _ => none
  | _ => none

theorem length_afterSequence?_lt {text after : List Char} (h : afterSequence? text = some after) :
    after.length < text.length := by
  unfold afterSequence? at h
  split at h
  · next rest =>
    split_ifs at h
    have hlength := (List.dropWhile_suffix (l := rest) Char.isDigit).length_le
    split at h
    · next hrest =>
      obtain rfl := Option.some.inj h
      rw [hrest] at hlength
      simp only [List.length_cons] at hlength ⊢
      omega
    · cases h
  · cases h

/-- The characters that are left when the style sequences are taken out. -/
def withoutSequences (text : List Char) : List Char :=
  match _ : afterSequence? text with
  | some after => withoutSequences after
  | none =>
    match text with
    | [] => []
    | c :: rest => c :: withoutSequences rest
termination_by text.length
decreasing_by
  · exact length_afterSequence?_lt ‹_›
  · exact Nat.lt_add_one _

/-- A text without the style sequences in it. -/
def unstyled (text : String) : String :=
  String.ofList (withoutSequences text.toList)

theorem withoutSequences_nil : withoutSequences [] = [] := by
  rw [withoutSequences]
  rfl

theorem withoutSequences_of_after {text after : List Char} (h : afterSequence? text = some after) :
    withoutSequences text = withoutSequences after := by
  rw [withoutSequences]
  split <;> simp_all

theorem withoutSequences_cons {c : Char} {rest : List Char}
    (h : afterSequence? (c :: rest) = none) :
    withoutSequences (c :: rest) = c :: withoutSequences rest := by
  rw [withoutSequences]
  split <;> simp_all

/-- Nothing is taken out where there is no escape character. -/
theorem withoutSequences_append {text : List Char} (h : '\x1b' ∉ text) (rest : List Char) :
    withoutSequences (text ++ rest) = text ++ withoutSequences rest := by
  induction text with
  | nil => rfl
  | cons c text ih =>
    rw [List.mem_cons, not_or] at h
    have hnone : afterSequence? (c :: (text ++ rest)) = none := by
      unfold afterSequence?
      split
      · next heq => exact absurd (List.cons.inj heq).1.symm h.1
      · rfl
    rw [List.cons_append, withoutSequences_cons hnone, ih h.2, List.cons_append]

/-- A sequence is taken out. -/
theorem withoutSequences_styleSequence {code : String} (hcode : code.toList ≠ [])
    (hdigits : code.toList.all Char.isDigit = true) (rest : List Char) :
    withoutSequences (styleSequence code ++ rest) = withoutSequences rest := by
  rw [List.all_eq_true] at hdigits
  refine withoutSequences_of_after ?_
  have htake : (code.toList ++ 'm' :: rest).takeWhile Char.isDigit = code.toList := by
    rw [List.takeWhile_append_of_pos hdigits]
    simp
  have hdrop : (code.toList ++ 'm' :: rest).dropWhile Char.isDigit = 'm' :: rest := by
    rw [List.dropWhile_append_of_pos hdigits]
    simp
  rw [styleSequence, List.cons_append, List.cons_append, List.append_assoc, List.singleton_append,
    afterSequence?, htake, hdrop, if_neg hcode]
  rfl

example : unstyled "\x1b[1m\x1b[7m[2]\x1b[0m \x1b[m 3" = "[2] \x1b[m 3" := by
  decide +kernel

/-! ## Texts without an escape character -/

/-- There is no escape character in the text. -/
def EscapeFree (text : String) : Prop :=
  '\x1b' ∉ text.toList

instance (text : String) : Decidable (EscapeFree text) :=
  inferInstanceAs (Decidable ('\x1b' ∉ text.toList))

@[simp] theorem escapeFree_append_iff {a b : String} :
    EscapeFree (a ++ b) ↔ EscapeFree a ∧ EscapeFree b := by
  simp [EscapeFree]

theorem escapeFree_intercalate_iff {separator : String} (h : EscapeFree separator)
    (parts : List String) :
    EscapeFree (separator.intercalate parts) ↔ ∀ part ∈ parts, EscapeFree part := by
  induction parts with
  | nil => simp [EscapeFree]
  | cons first rest ih =>
    cases rest with
    | nil => simp
    | cons second rest =>
      rw [String.intercalate_cons_cons, escapeFree_append_iff, escapeFree_append_iff, ih,
        List.forall_mem_cons (l := second :: rest)]
      simp [h]

@[simp] theorem escapeFree_countText (n : Nat) : EscapeFree (countText n) := by
  intro hmem
  rw [countText, String.toList_ofList] at hmem
  exact absurd (isDigit_of_mem_decimalText hmem) (by decide)

@[simp] theorem escapeFree_spaces (n : Nat) :
    EscapeFree (String.ofList (List.replicate n ' ')) := by
  simp [EscapeFree]

/-- What is put around a text is left out with an empty one. -/
theorem escapeFree_unless_empty_iff {text shown : String}
    (h : EscapeFree shown ↔ EscapeFree text) :
    EscapeFree (if text = "" then "" else shown) ↔ EscapeFree text := by
  split_ifs with hempty
  · rw [hempty]
  · exact h

/-! ## Styled texts -/

/-- The sequences that turn an emphasis on are taken out. -/
theorem Emphasis.withoutSequences_codes (emphasis : Emphasis) (rest : List Char) :
    withoutSequences (emphasis.codes.flatMap styleSequence ++ rest) = withoutSequences rest := by
  have hcodes : ∀ code ∈ emphasis.codes,
      code.toList ≠ [] ∧ code.toList.all Char.isDigit = true := by
    cases emphasis <;> decide
  generalize emphasis.codes = codes at hcodes
  induction codes with
  | nil => rfl
  | cons code codes ih =>
    obtain ⟨⟨hcode, hdigits⟩, hothers⟩ := List.forall_mem_cons.1 hcodes
    rw [List.flatMap_cons, List.append_assoc, withoutSequences_styleSequence hcode hdigits,
      ih hothers]

/-- The sequences around a span are taken out. -/
theorem Span.withoutSequences_write {span : Span} (h : EscapeFree span.text) (rest : List Char) :
    withoutSequences (span.write .styled ++ rest) = span.text.toList ++ withoutSequences rest := by
  obtain ⟨_ | emphasis, text⟩ := span
  · exact withoutSequences_append h rest
  · have hwrite : write .styled ⟨some emphasis, text⟩
        = emphasis.codes.flatMap styleSequence ++ text.toList ++ styleSequence "0" := rfl
    have hreset : withoutSequences (styleSequence "0" ++ rest) = withoutSequences rest :=
      withoutSequences_styleSequence (by decide) (by decide) rest
    rw [hwrite, List.append_assoc, List.append_assoc, emphasis.withoutSequences_codes,
      withoutSequences_append h, hreset]

namespace StyledText

theorem escapeFree_write_iff {text : StyledText} :
    EscapeFree (text.write .plain) ↔ ∀ span ∈ text, EscapeFree span.text := by
  simp [EscapeFree, toList_write]

/-- **A styled text without its sequences** is the plain one, if that has no escape character. -/
theorem unstyled_write {text : StyledText} (h : EscapeFree (text.write .plain)) :
    unstyled (text.write .styled) = text.write .plain := by
  rw [escapeFree_write_iff] at h
  rw [unstyled, ← String.toList_inj, String.toList_ofList, toList_write, toList_write]
  induction text with
  | nil => exact withoutSequences_nil
  | cons span text ih =>
    rw [List.forall_mem_cons] at h
    rw [List.flatMap_cons, List.flatMap_cons, Span.withoutSequences_write h.1, ih h.2,
      Span.write_of_plain]

theorem forall_mem_join_iff {separator : String} (hseparator : EscapeFree separator)
    (texts : List StyledText) :
    (∀ span ∈ join separator texts, EscapeFree span.text) ↔
      ∀ text ∈ texts, ∀ span ∈ text, EscapeFree span.text := by
  simp only [← escapeFree_write_iff]
  rw [write_join, escapeFree_intercalate_iff hseparator, List.forall_mem_map]

end StyledText

/-! ## What is shown -/

namespace TreeRow

/-- The texts that the tree shows of a property. -/
def texts (row : TreeRow) : List String :=
  [row.name, row.kind, row.label, row.input] ++ row.operators ++ row.values

theorem escapeFree_detail_iff {depth : Nat} {title separator : String}
    (htitle : EscapeFree title) (hseparator : EscapeFree separator) (parts : List String) :
    (∀ span ∈ detail depth title separator parts, EscapeFree span.text) ↔
      ∀ part ∈ parts, EscapeFree part := by
  unfold detail
  split_ifs with h
  · simp [List.isEmpty_iff.1 h]
  · simp +decide [indentation, Span.plain, Span.marked, htitle,
      escapeFree_intercalate_iff hseparator]

theorem escapeFree_text_iff (row : TreeRow) :
    (∀ span ∈ row.text, EscapeFree span.text) ↔ ∀ text ∈ row.texts, EscapeFree text := by
  have hinput : EscapeFree (if row.input = "" then "" else " (" ++ row.input ++ ")") ↔
      EscapeFree row.input :=
    escapeFree_unless_empty_iff (by simp +decide)
  rw [text, texts, List.forall_mem_append, List.forall_mem_append, List.forall_mem_append,
    List.forall_mem_append, escapeFree_detail_iff (by decide) (by decide),
    escapeFree_detail_iff (by decide) (by decide)]
  refine and_congr_left fun _ => and_congr_left fun _ => ?_
  simp +decide [indentation, Span.plain, Span.marked, hinput]

end TreeRow

namespace GameRow

/-- The texts that a listing shows of a game. -/
def texts (row : GameRow) : List String :=
  [row.name, row.authors, row.ranks] ++ row.genres ++ [row.url]

theorem escapeFree_facts_iff (row : GameRow) :
    (∀ fact ∈ row.facts, ∀ span ∈ fact, EscapeFree span.text) ↔
      EscapeFree row.ranks ∧ ∀ genre ∈ row.genres, EscapeFree genre := by
  have hseparator : EscapeFree ", " := by decide
  rw [facts, List.forall_mem_append, List.forall_mem_append]
  refine and_congr ((and_iff_right ?_).trans ?_) ?_
  · simp +decide [Span.plain]
  · split_ifs with h
    · simp +decide [h]
    · simp [Span.marked]
  · split_ifs with h
    · simp [List.isEmpty_iff.1 h]
    · simp [Span.plain, escapeFree_intercalate_iff hseparator]

theorem escapeFree_text_iff (row : GameRow) :
    (∀ span ∈ row.text, EscapeFree span.text) ↔ ∀ text ∈ row.texts, EscapeFree text := by
  have hauthors : EscapeFree (if row.authors = "" then "" else " by " ++ row.authors) ↔
      EscapeFree row.authors :=
    escapeFree_unless_empty_iff (by simp +decide)
  simp only [text, texts, List.forall_mem_append, StyledText.forall_mem_join_iff
    (show EscapeFree " · " by decide), escapeFree_facts_iff]
  simp +decide [padded, Span.plain, Span.marked, hauthors, and_assoc]

end GameRow

theorem PagerSlot.escapeFree_text (current : UInt64) (slot : PagerSlot) :
    EscapeFree (slot.text current).text := by
  cases slot with
  | page n =>
    rw [text]
    split_ifs
    · simp +decide [Span.marked]
    · exact escapeFree_countText _
  | gap => exact show EscapeFree "…" by decide

namespace Listing

/-- The texts that a listing shows. -/
def texts (listing : Listing) : List String :=
  listing.filterSummary.toList ++ listing.items.flatMap GameRow.texts

variable (listing : Listing)

/-- The headline is made of numbers and fixed words. -/
theorem escapeFree_headline : EscapeFree listing.headline := by
  rw [headline, escapeFree_append_iff]
  constructor
  · split
    · simp +decide
    · split_ifs <;> simp +decide
  · split_ifs <;> simp +decide

theorem escapeFree_filterLine_iff : (∀ span ∈ listing.filterLine, EscapeFree span.text) ↔
    ∀ summary ∈ listing.filterSummary.toList, EscapeFree summary := by
  unfold filterLine
  cases listing.filterSummary <;> simp +decide [Span.plain, Span.marked]

theorem escapeFree_pagerLine : ∀ span ∈ listing.pagerLine, EscapeFree span.text := by
  have hslots : ∀ span ∈ StyledText.join " " (listing.pages.map fun slot =>
      [slot.text listing.page]), EscapeFree span.text := by
    rw [StyledText.forall_mem_join_iff (by decide), List.forall_mem_map]
    intro slot _
    exact List.forall_mem_singleton.2 (slot.escapeFree_text listing.page)
  rw [pagerLine]
  split_ifs
  · exact List.forall_mem_nil _
  · rw [List.forall_mem_cons, List.forall_mem_append, List.forall_mem_singleton]
    exact ⟨by decide, hslots, by decide⟩

theorem escapeFree_text_iff :
    (∀ span ∈ listing.text, EscapeFree span.text) ↔ ∀ text ∈ listing.texts, EscapeFree text := by
  have hheadline : EscapeFree (Span.plain (listing.headline ++ "\n")).text :=
    escapeFree_append_iff.2 ⟨listing.escapeFree_headline, by decide⟩
  rw [text, List.forall_mem_append, List.forall_mem_append, List.forall_mem_append,
    List.forall_mem_singleton, escapeFree_filterLine_iff, List.forall_mem_flatMap,
    and_iff_left listing.escapeFree_pagerLine, and_iff_right hheadline, texts,
    List.forall_mem_append, List.forall_mem_flatMap]
  exact and_congr_right fun _ => forall₂_congr fun row _ => row.escapeFree_text_iff

end Listing

/-- **The two styles differ in style sequences only.**  A tree and a listing are left as they are
written plainly when the sequences are taken out of what is written with styles, and there is no
escape character in that, just if there is none in the texts that are shown. -/
theorem unstyled_renderings :
    (∀ rows : List TreeRow,
      unstyled ((treeText rows).write .styled) = (treeText rows).write .plain ∧
          EscapeFree ((treeText rows).write .plain) ↔
        ∀ row ∈ rows, ∀ text ∈ row.texts, EscapeFree text) ∧
    (∀ listing : Listing,
      unstyled (listing.text.write .styled) = listing.text.write .plain ∧
          EscapeFree (listing.text.write .plain) ↔
        ∀ text ∈ listing.texts, EscapeFree text) := by
  have hboth : ∀ text : StyledText, unstyled (text.write .styled) = text.write .plain ∧
      EscapeFree (text.write .plain) ↔ ∀ span ∈ text, EscapeFree span.text := by
    intro text
    rw [and_iff_right_of_imp StyledText.unstyled_write, StyledText.escapeFree_write_iff]
  refine ⟨fun rows => ?_, fun listing => ?_⟩
  · rw [hboth, treeText, List.forall_mem_flatMap]
    exact forall₂_congr fun row _ => row.escapeFree_text_iff
  · rw [hboth, listing.escapeFree_text_iff]

end GameJam
