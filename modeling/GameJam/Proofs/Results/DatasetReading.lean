import GameJam.Proofs.Json.RecordReading
import GameJam.Results.Dataset

/-!
# Datasets are read back

What is written of a game and what is read are not alike: a list of labels that is absent is left
out, an address of a cover that is absent is written `null`, and where a list of labels is read a
text with commas may stand as well.  Still a game comes back as it was, so that a list that is
absent is not taken for one that is empty; only the scores have to be finite, since nothing else has
a JSON text as a number.

## What is here

* `Author.reads_toJson`, `Rank.reads_toJson`, `Game.reads_toJson` — a record through its reader.
* `Game.fills_labelFields` — a list of labels, present or absent.
* `Dataset.ofJson_toJson` — **a dataset is read from the JSON text of its games**.
-/

set_option autoImplicit false

namespace GameJam

open Json (Reader)
open Json.Reader (Reads Fills)

/-! ## Authors and ranks -/

theorem Author.reads_toJson (author : Author) : Author.reader.Reads 1 author.toJson author := by
  refine Reader.reads_record (s := ⟨some author.url, some author.name⟩) (fun depth hdepth => ?_)
    (by decide : ["url", "name"].Nodup) rfl
  refine .field rfl (Reader.reads_text author.url) hdepth ?_
  exact .field rfl (Reader.reads_text author.name) hdepth (.nil _)

/-- Both scores of the rank are finite. -/
def Rank.IsFinite (rank : Rank) : Prop :=
  rank.score.isFinite = true ∧ rank.rawScore.isFinite = true

instance (rank : Rank) : Decidable rank.IsFinite :=
  inferInstanceAs (Decidable (_ ∧ _))

theorem Rank.reads_toJson {rank : Rank} (h : rank.IsFinite) :
    Rank.reader.Reads 1 rank.toJson rank := by
  have hplace : rank.place.toUInt64.toNat < UInt32.size := by
    rw [UInt32.toNat_toUInt64]
    exact UInt32.toNat_lt_size _
  have hread : (Reader.natural UInt32.size "u32").Reads 0 (.ofUInt64 rank.place.toUInt64)
      rank.place.toNat := by
    rw [← UInt32.toNat_toUInt64]
    exact Reader.reads_natural "u32" hplace
  refine Reader.reads_record (s := ⟨some rank.category, some (UInt32.ofNat rank.place.toNat),
    some rank.score, some rank.rawScore⟩) (fun depth hdepth => ?_)
    (by decide : ["category", "place", "score", "rawScore"].Nodup) ?_
  · refine .field rfl (Reader.reads_text rank.category) hdepth ?_
    refine .field rfl hread hdepth ?_
    refine .field rfl (Reader.reads_real h.1) hdepth ?_
    exact .field rfl (Reader.reads_real h.2) hdepth (.nil _)
  · rw [UInt32.ofNat_toNat]
    rfl

/-! ## Lists of labels -/

theorem reads_labels (labels : List String) :
    labelsReader.Reads 1 (.ofStrings labels) labels := by
  intro depth hdepth
  have htree : Reader.tree depth (Json.ofStrings labels).asRead.toDraft
      = .ok (.array (labels.map .string)) := by
    rw [Json.asRead_ofStrings]
    exact Json.tree_toDraft _ ((Json.depth_ofStrings_le labels).trans hdepth)
  rw [labelsReader, htree]
  simp [bind, Except.bind, Json.strings?_map_string, pure, Except.pure]

/-- What has been read of a game, with another list of labels. -/
def Game.Form.withLabels (form : Game.Form) (labels : Option (List String)) :
    LabelField → Game.Form
  | .genres => { form with genres := labels }
  | .tags => { form with tags := labels }
  | .platforms => { form with platforms := labels }
  | .madeWith => { form with madeWith := labels }

/-- Where a list of labels is read. -/
theorem Game.find?_slots_labelField (field : LabelField) :
    Game.slots.find? (fun slot => slot.name == field.name)
      = some (.of field.name (Reader.optional labelsReader) fun form labels =>
        form.withLabels labels field) := by
  cases field <;> rfl

/-- A list that is left out stays absent. -/
theorem Game.fills_labelFields (game : Game) (field : LabelField) {depth : Nat} (hdepth : 1 ≤ depth)
    {form : Game.Form} (hform : form.withLabels none field = form) :
    Fills Game.slots depth (game.labelFields field) form
      (form.withLabels (game.labels? field) field) := by
  rw [Game.labelFields]
  cases game.labels? field with
  | none =>
    rw [hform]
    exact .nil form
  | some labels =>
    have hread : (Reader.optional labelsReader).Reads 1 (.ofStrings labels) (some labels) := by
      refine Reader.reads_optional ?_ (reads_labels labels)
      rw [Json.asRead_ofStrings]
      exact Json.Draft.noConfusion
    exact .field (Game.find?_slots_labelField field) hread hdepth (.nil _)

/-! ## Games -/

namespace Game

/-- The scores of all ranks are finite. -/
def IsFinite (game : Game) : Prop :=
  ∀ rank ∈ game.ranks, rank.IsFinite

instance (game : Game) : Decidable game.IsFinite :=
  inferInstanceAs (Decidable (∀ rank ∈ game.ranks, rank.IsFinite))

theorem reads_coverUrl (coverUrl : Option String) :
    (Reader.optional Reader.text).Reads 0 ((coverUrl.map Json.string).getD .null) coverUrl := by
  cases coverUrl with
  | none => exact Reader.reads_optional_null _
  | some url => exact Reader.reads_optional Json.Draft.noConfusion (Reader.reads_text url)

/-- The names under which a game is written are names of its slots, in their order. -/
theorem keys_sublist (game : Game) : List.Sublist
    (["gameUrl", "submissionUrl", "coverUrl", "name", "authors", "ratingsCount", "ranks"]
      ++ (game.labelFields .platforms).map Prod.fst ++ (game.labelFields .genres).map Prod.fst
      ++ (game.labelFields .madeWith).map Prod.fst ++ (game.labelFields .tags).map Prod.fst)
    (Game.slots.map Reader.Slot.name) := by
  have hfield : ∀ field, List.Sublist ((game.labelFields field).map Prod.fst) [field.name] := by
    intro field
    rw [labelFields]
    cases game.labels? field with
    | none => exact List.nil_sublist _
    | some labels => exact List.Sublist.refl _
  exact ((((List.Sublist.refl _).append (hfield .platforms)).append (hfield .genres)).append
    (hfield .madeWith)).append (hfield .tags)

/-- What has been read of a game when all of its fields have been. -/
def form (game : Game) : Game.Form where
  gameUrl := some game.gameUrl
  submissionUrl := game.submissionUrl
  coverUrl := game.coverUrl
  name := some game.name
  authors := game.authors
  ratingsCount := UInt64.ofNat game.ratingsCount.toNat
  ranks := game.ranks
  platforms := game.platforms
  genres := game.genres
  madeWith := game.madeWith
  tags := game.tags

/-- **A game is read as it was written.** -/
theorem reads_toJson {game : Game} (h : game.IsFinite) :
    Game.reader.Reads 3 game.toJson game := by
  have hauthors : (Reader.list Author.reader).Reads 2 (.array (game.authors.map Author.toJson))
      game.authors :=
    Reader.reads_list fun author _ => author.reads_toJson
  have hranks : (Reader.list Rank.reader).Reads 2 (.array (game.ranks.map Rank.toJson))
      game.ranks :=
    Reader.reads_list fun rank hrank => Rank.reads_toJson (h rank hrank)
  have hcount : game.ratingsCount.toNat < UInt64.size := UInt64.toNat_lt_size _
  have hnames : (Game.slots.map Reader.Slot.name).Nodup := by decide
  refine Reader.reads_record (s := game.form) (fun depth hdepth => ?_)
    (by simpa using game.keys_sublist.nodup hnames) ?_
  · have hflat : 0 ≤ depth := Nat.zero_le depth
    have hlabels : 1 ≤ depth := Nat.le_of_succ_le hdepth
    -- The lists of labels come last, each where none has been read yet.
    refine ((((?_ : Fills Game.slots depth _ {} { game.form with
      platforms := none, genres := none, madeWith := none, tags := none }).append
        (game.fills_labelFields .platforms hlabels rfl)).append
        (game.fills_labelFields .genres hlabels rfl)).append
        (game.fills_labelFields .madeWith hlabels rfl)).append
        (game.fills_labelFields .tags hlabels rfl)
    refine .field rfl (Reader.reads_text game.gameUrl) hflat ?_
    refine .field rfl (Reader.reads_text game.submissionUrl) hflat ?_
    refine .field rfl (reads_coverUrl game.coverUrl) hflat ?_
    refine .field rfl (Reader.reads_text game.name) hflat ?_
    refine .field rfl hauthors hdepth ?_
    refine .field rfl (Reader.reads_natural "u64" hcount) hflat ?_
    refine .field rfl hranks hdepth ?_
    exact .nil _
  · rw [form, UInt64.ofNat_toNat]
    rfl

end Game

/-! ## Datasets -/

/-- **A dataset is read from the JSON text of its games**: the games come back in their order, each
as it was. -/
theorem Dataset.ofJson_toJson {games : List Game} (h : ∀ game ∈ games, game.IsFinite) :
    Dataset.ofJson (Json.array (games.map Game.toJson)).compactText = .ok ⟨games⟩ := by
  have hlist : (Reader.list Game.reader).Reads 4 (.array (games.map Game.toJson)) games :=
    Reader.reads_list fun game hgame => Game.reads_toJson (h game hgame)
  rw [Dataset.ofJson, Reader.read_compactText hlist (by decide)]
  rfl

/-- Two games that only an empty list of labels tells apart. -/
theorem Dataset.ofJson_toJson_empty_list :
    let ranks : List Rank := [⟨"Fun", 1, .ofInt 4, .ofInt (-4)⟩]
    let absent : Game := ⟨"a", "", none, "A", [⟨"u", "U"⟩], 3, ranks, none, none, none, none⟩
    let games := [absent, { absent with genres := some [] }]
    (∀ game ∈ games, game.IsFinite) ∧
      Dataset.ofJson (Json.array (games.map Game.toJson)).compactText = .ok ⟨games⟩ := by
  intro ranks absent games
  have hfinite : ∀ game ∈ games, game.IsFinite := by decide +kernel
  exact ⟨hfinite, Dataset.ofJson_toJson hfinite⟩

end GameJam
