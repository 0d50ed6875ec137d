import GameJam.Proofs.Json.Places
import GameJam.Proofs.Results.DatasetReading
import GameJam.Proofs.Results.LabelText

/-!
# Two forms of a list of labels

In a dataset a list of labels is a list of texts, or one text with commas.  Both forms are put into
the same place of a dataset's text, whatever stands around it: the game may be an object or an
array, and its other fields may even make it unreadable.  What is loaded is then the same, and the
labels of a text are again labels that can be written in one.

## What is here

* `LabelPlace` — the text of a dataset without one list of labels.
* `Json.Spelling.HasLabels` — the labels that are read of a value.
* `Dataset.ofJson_fill_congr`, `Dataset.labels?_of_ofJson_fill` — a list of labels in its place.
* `Dataset.label_forms_agree` — **both forms are loaded alike**.
-/

set_option autoImplicit false

namespace GameJam

open Json (Reader Spelling FieldPlace ItemPlace depthLimit)

/-! ## Places of lists of labels -/

/-- A text of a dataset without one list of labels of one of its games. -/
structure LabelPlace (field : LabelField) where
  game : ItemPlace
  value : FieldPlace Game.slots field.name

namespace LabelPlace

variable {field : LabelField}

/-- The text of the dataset with a value in the place. -/
def fill (place : LabelPlace field) (value : Spelling) : String :=
  String.ofList (place.game.fill (place.value.fill value)).text

/-- How many games come before the one with the place. -/
def index (place : LabelPlace field) : Nat :=
  place.game.before.length

end LabelPlace

/-! ## Labels of a value -/

/-- Wherever the value stands, these labels are read of it. -/
def Json.Spelling.HasLabels (s : Spelling) (labels : List String) : Prop :=
  ∀ depth, Reader.optional labelsReader (depth + 1) s.draft = .ok (some labels)

theorem hasLabels_of_labelsReader {s : Spelling} {labels : List String} (hnull : s.draft ≠ .null)
    (h : ∀ depth, labelsReader (depth + 1) s.draft = .ok labels) : s.HasLabels labels := by
  intro depth
  rw [Reader.optional, h depth]
  · rfl
  · exact hnull

theorem hasLabels_of_means_string {s : Spelling} {text : String} (h : s.Means (.string text)) :
    s.HasLabels (labelParts text) := by
  obtain ⟨tree, htree, hsorted⟩ := Spelling.exists_tree_of_means h
  cases tree with
  | string _ =>
    obtain rfl := Json.string.inj hsorted
    obtain ⟨leaf, hdraft, hleaf⟩ := Json.tree_eq_ok_string_iff.1 htree
    refine hasLabels_of_labelsReader (by simp [hdraft]) fun depth => ?_
    rw [labelsReader, Json.tree_eq_ok_string_iff.2 ⟨leaf, hdraft, hleaf⟩]
    rfl
  | _ => cases hsorted

theorem hasLabels_of_means_ofStrings {s : Spelling} {labels : List String}
    (h : s.Means (.ofStrings labels)) : s.HasLabels labels := by
  obtain ⟨tree, htree, hsorted⟩ := Spelling.exists_tree_of_means h
  obtain rfl := Json.sorted_eq_ofStrings_iff.1 hsorted
  refine hasLabels_of_labelsReader (fun hnull => ?_) fun depth => ?_
  · rw [hnull] at htree
    cases htree
  · rw [labelsReader, Json.tree_eq_ok_ofStrings htree]
    simp [bind, Except.bind, Json.ofStrings, Json.strings?_map_string, pure, Except.pure]

/-! ## Labels in their place -/

/-- A list of labels as far as it has been read. -/
def Game.Form.labels? (form : Game.Form) : LabelField → Option (List String)
  | .genres => form.genres
  | .tags => form.tags
  | .platforms => form.platforms
  | .madeWith => form.madeWith

/-- The slot of a list of labels sets it, and no other slot does. -/
theorem Game.sets_labelField (field : LabelField) :
    Reader.Slot.Sets Game.slots field.name (Reader.optional labelsReader)
      fun form => form.labels? field := by
  refine ⟨⟨_, find?_slots_labelField field, fun _ _ => by cases field <;> rfl⟩, ?_⟩
  simp only [slots, List.forall_mem_cons, List.not_mem_nil, false_implies, implies_true, and_true]
  refine ⟨?_, ?_, ?_, ?_, ?_, ?_, ?_, ?_, ?_, ?_, ?_⟩
  all_goals
    intro hname s depth d s' hput
    obtain ⟨b, -, rfl⟩ := map_eq_ok_iff.1 hput
    cases field
  all_goals
    first
    | rfl
    | exact absurd rfl hname

/-- What has been read of a list of labels is what the game has. -/
theorem Game.labels?_of_reader {field : LabelField} {depth : Nat}
    {place : FieldPlace slots field.name} {value : Spelling} {labels : List String}
    (hlabels : value.HasLabels labels) {game : Game}
    (h : Game.reader (depth + 2) (place.fill value).draft = .ok game) :
    game.labels? field = some labels := by
  obtain ⟨missing, form, hfinish, hread⟩ :=
    Reader.get_of_record_fill (sets_labelField field) (by decide) h
  rw [hlabels depth] at hread
  rw [Except.ok.inj hread]
  simp only [bind_eq_ok_iff] at hfinish
  obtain ⟨gameUrl, -, name, -, hgame⟩ := hfinish
  rw [← Except.ok.inj hgame]
  cases field <;> rfl

/-- A game is read alike with values that have the same labels. -/
theorem Game.reader_fill_congr {field : LabelField} {depth : Nat}
    (place : FieldPlace slots field.name) {value value' : Spelling} {labels : List String}
    (h : value.HasLabels labels) (h' : value'.HasLabels labels) :
    Game.reader (depth + 2) (place.fill value).draft
      = Game.reader (depth + 2) (place.fill value').draft := by
  refine Reader.record_fill_congr (find?_slots_labelField field) place fun form => ?_
  exact congrArg (Except.map fun labels => form.withLabels labels field)
    ((h depth).trans (h' depth).symm)

namespace Dataset

variable {field : LabelField} {place : LabelPlace field} {labels : List String}

theorem ofJson_fill (place : LabelPlace field) (value : Spelling) :
    Dataset.ofJson (place.fill value)
      = (Reader.list Game.reader depthLimit
          (place.game.fill (place.value.fill value)).draft).map fun games => ⟨games⟩ := by
  rw [ofJson, Json.read, LabelPlace.fill, String.toList_ofList, Json.ofText_text]
  cases Reader.list Game.reader depthLimit (place.game.fill (place.value.fill value)).draft <;> rfl

/-- **Values with the same labels are loaded alike.** -/
theorem ofJson_fill_congr (place : LabelPlace field) {value value' : Spelling}
    (h : value.HasLabels labels) (h' : value'.HasLabels labels) :
    Dataset.ofJson (place.fill value) = Dataset.ofJson (place.fill value') := by
  have hdepth : depthLimit = 124 + 2 + 1 := rfl
  rw [ofJson_fill, ofJson_fill, hdepth,
    Reader.list_fill_congr place.game (Game.reader_fill_congr place.value h h')]

/-- **The labels of a value are those of its game.** -/
theorem labels?_of_ofJson_fill {value : Spelling} (hlabels : value.HasLabels labels)
    {dataset : Dataset} (h : Dataset.ofJson (place.fill value) = .ok dataset) :
    ∃ game, dataset.games[place.index]? = some game ∧ game.labels? field = some labels := by
  rw [ofJson_fill, map_eq_ok_iff] at h
  obtain ⟨games, hgames, rfl⟩ := h
  obtain ⟨game, hgame, hread⟩ := Reader.getElem?_of_list_fill hgames
  exact ⟨game, hgame, Game.labels?_of_reader hlabels hread⟩

/-- **Both forms of a list of labels are loaded alike.**  A text that is put together for clean
labels, in any of the ways there are, stands for the list of these labels; and the labels of any
text are the clean ones that its parts are written for, so that they can be joined and loaded
again. -/
theorem label_forms_agree (field : LabelField) (place : LabelPlace field) :
    (∀ (parts labels : List String) (text list : Spelling), (∀ label ∈ labels, CleanLabel label) →
      Renders parts labels → text.Means (.string (",".intercalate parts)) →
      list.Means (.ofStrings labels) →
      Dataset.ofJson (place.fill text) = Dataset.ofJson (place.fill list)) ∧
    ∀ (value : Spelling) (text : String), value.Means (.string text) →
      ∃ labels, (∀ label ∈ labels, CleanLabel label) ∧ Renders (commaParts text) labels ∧
        (∀ dataset, Dataset.ofJson (place.fill value) = .ok dataset →
          ∃ game, dataset.games[place.index]? = some game ∧ game.labels? field = some labels) ∧
        ∀ joined : Spelling, joined.Means (.string (", ".intercalate labels)) →
          Dataset.ofJson (place.fill joined) = Dataset.ofJson (place.fill value) := by
  constructor
  · intro parts labels text list hclean hrenders htext hlist
    have hlabels := hasLabels_of_means_string htext
    rw [labelParts_intercalate hrenders hclean] at hlabels
    exact ofJson_fill_congr place hlabels (hasLabels_of_means_ofStrings hlist)
  · intro value text hvalue
    have hlabels := hasLabels_of_means_string hvalue
    obtain ⟨hclean, hrenders⟩ := labelParts_eq_iff.1 (Eq.refl (labelParts text))
    refine ⟨labelParts text, hclean, hrenders, fun dataset => labels?_of_ofJson_fill hlabels, ?_⟩
    intro joined hjoined
    have hagain := hasLabels_of_means_string hjoined
    rw [labelParts_join hclean] at hagain
    exact ofJson_fill_congr place hagain hlabels

/-- Blanks of more than one kind stand around a label, and blank parts on both sides of it. -/
theorem label_forms_agree_platforms :
    let game : Game := ⟨"u", "", none, "n", [], 0, [], some ["Web", "VR"], none, none, none⟩
    Dataset.ofJson "[\x7b\"gameUrl\":\"u\",\"name\":\"n\",\"platforms\":\",\u00a0Web ,,VR\"\x7d]"
        = .ok ⟨[game]⟩ ∧
      Dataset.ofJson "[\x7b\"gameUrl\":\"u\",\"name\":\"n\",\"platforms\":[\"Web\",\"VR\"]\x7d]"
        = .ok ⟨[game]⟩ := by
  intro game
  let gap : Json.Gap := ⟨[], List.forall_mem_nil _⟩
  let key (chars : List Char) (h) : Json.KeySpelling := ⟨gap, Json.plainPieces chars h, gap⟩
  let place : LabelPlace .platforms := ⟨⟨gap, gap, [], [], gap⟩, .keyed gap gap
    [(key ['g', 'a', 'm', 'e', 'U', 'r', 'l'] (by simp),
        .string (Json.plainPieces ['u'] (by simp))),
      (key ['n', 'a', 'm', 'e'] (by simp), .string (Json.plainPieces ['n'] (by simp)))]
    (key ['p', 'l', 'a', 't', 'f', 'o', 'r', 'm', 's'] (by simp)) rfl [] gap⟩
  let text : Spelling :=
    .string (Json.plainPieces [',', '\u00a0', 'W', 'e', 'b', ' ', ',', ',', 'V', 'R'] (by simp))
  let list : Spelling := .array gap [.string (Json.plainPieces ['W', 'e', 'b'] (by simp)),
    .string (Json.plainPieces ['V', 'R'] (by simp))]
  have hclean : ∀ label ∈ ["Web", "VR"], CleanLabel label := by
    rw [List.forall_mem_cons, List.forall_mem_singleton]
    constructor <;> constructor <;> simp [isBlank]
  have hnone : IsBlankText "" := by simp [IsBlankText]
  have hspace : IsBlankText " " := by simp [IsBlankText, isBlank]
  have hfixed : IsBlankText "\u00a0" := by simp [IsBlankText, isBlank]
  have hrenders : Renders ["", "\u00a0" ++ "Web" ++ " ", "", "" ++ "VR" ++ ""] ["Web", "VR"] :=
    .blank hnone (.label hfixed hspace (.blank hnone (.label hnone hnone .nil)))
  have hagree := (label_forms_agree .platforms place).1 _ _ text list hclean hrenders
    (Spelling.means_iff.2 rfl) (Spelling.means_iff.2 rfl)
  have hlist : Dataset.ofJson (place.fill list) = .ok ⟨[game]⟩ := by
    rw [ofJson_fill]
    decide +kernel
  exact ⟨hagree.trans hlist, hlist⟩

end Dataset
end GameJam
