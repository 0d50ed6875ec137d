import GameJam.Proofs.Filter.Alternatives
import GameJam.Proofs.Results.LabelFilter

/-!
# Filtering by the kind of cover

A selector offers three kinds of cover, and each game has one of them.  But a game whose cover is
missing does not say so: it serves nothing at all for its cover.  The schema puts that right with
the label that such a game holds, which is the last of the three, and the test for a label takes
the label from there.  So the kinds of cover that rows can ask for are told from the address of the
cover, from what the game serves, and from the schema, and the three of them have to agree if every
game is to be found under one kind.

The games that the schema was read from have no part in this.

## What is here

* `Cover.Of`, `Game.HasCover` — the kinds of cover, by what their addresses look like.
* `Divides` — lists that share out the items of a list; `divides_filter` for those of each class.
* `kept_coverEntry` — what a row for a cover keeps, by what its clause asks of a game.
* `kept_by_cover` — **each game is found under one kind of cover**, and what else rows keep.
-/

set_option autoImplicit false

universe u v

namespace GameJam

/-! ## Kinds of cover -/

/-- The kind of cover at an address. -/
inductive Cover.Of : Option String → Cover → Prop
  | absent : Of none .missing
  | empty : Of (some "") .missing
  | gif (stem : String) : Of (some (stem ++ ".gif")) .gif
  | image {url : String} : url ≠ "" → (∀ stem, url ≠ stem ++ ".gif") → Of (some url) .image

/-- The kind of the game's cover. -/
def Game.HasCover (game : Game) (cover : Cover) : Prop :=
  Cover.Of game.coverUrl cover

theorem isSuffixOf_gif_iff {url : String} :
    ".gif".toList.isSuffixOf url.toList = true ↔ ∃ stem, url = stem ++ ".gif" := by
  rw [List.isSuffixOf_iff_suffix]
  constructor
  · rintro ⟨stem, hstem⟩
    refine ⟨String.ofList stem, ?_⟩
    rw [← String.toList_inj, String.toList_append, String.toList_ofList (l := stem), hstem]
  · rintro ⟨stem, rfl⟩
    exact ⟨stem.toList, by rw [String.toList_append]⟩

/-- The kind of a cover is the one that is told from its address. -/
theorem Cover.of_iff {url : Option String} {cover : Cover} : Of url cover ↔ ofUrl? url = cover := by
  constructor
  · rintro (_ | _ | stem | ⟨hne, hgif⟩)
    · rfl
    · rfl
    · have hne : stem ++ ".gif" ≠ "" := by simp
      have hsuffix := isSuffixOf_gif_iff.2 ⟨stem, rfl⟩
      rw [ofUrl?, if_neg hne, if_pos hsuffix]
    · rw [ofUrl?, if_neg hne, if_neg]
      rw [isSuffixOf_gif_iff, not_exists]
      exact hgif
  · rintro rfl
    cases url with
    | none => exact .absent
    | some url =>
      rw [ofUrl?]
      split_ifs with hempty hsuffix
      · exact hempty ▸ .empty
      · obtain ⟨stem, rfl⟩ := isSuffixOf_gif_iff.1 hsuffix
        exact .gif stem
      · rw [isSuffixOf_gif_iff, not_exists] at hsuffix
        exact .image hempty hsuffix

theorem Game.hasCover_iff {game : Game} {cover : Cover} :
    game.HasCover cover ↔ game.cover = cover :=
  Cover.of_iff

instance (game : Game) (cover : Cover) : Decidable (game.HasCover cover) :=
  decidable_of_iff _ Game.hasCover_iff.symm

/-! ## Sharing out a list -/

/-- Lists that share out the items of a list: taken together they are its items, each of them is in
the order of the list, and no two have an item in common. -/
structure Divides {α : Type u} (parts : List (List α)) (items : List α) : Prop where
  perm : parts.flatten.Perm items
  sublist : ∀ part ∈ parts, part.Sublist items
  disjoint : parts.Pairwise List.Disjoint

/-- Classes share out the items of a list if each item is in one of them. -/
theorem divides_filter {α : Type u} {κ : Type v} [DecidableEq κ] (classOf : α → κ)
    {classes : List κ} (hnodup : classes.Nodup) (hclasses : ∀ a, classOf a ∈ classes)
    (items : List α) :
    Divides (classes.map fun k => items.filter fun a => decide (classOf a = k)) items where
  perm := by
    have hone (a : α) : classes.countP (fun k => decide (classOf a = k)) = 1 := by
      rw [← List.count_eq_one_of_mem hnodup (hclasses a), List.count_eq_countP]
      exact List.countP_congr fun k _ => by rw [decide_eq_true_iff, beq_iff_eq, eq_comm]
    have hperm : (classes.flatMap fun k => items.filter fun a => decide (classOf a = k)).Perm
        (items.filter fun _ => true) := perm_flatMap_filter hone items
    rwa [List.filter_true] at hperm
  sublist := by
    rw [List.forall_mem_map]
    exact fun k _ => List.filter_sublist
  disjoint := by
    refine List.pairwise_map.2 (hnodup.imp fun hne a hfirst hsecond => hne ?_)
    exact (of_decide_eq_true (List.mem_filter.1 hfirst).2).symm.trans
      (of_decide_eq_true (List.mem_filter.1 hsecond).2)

/-! ## Rows for a cover -/

/-- A row that asks for a kind of cover, or whether there is one. -/
def coverEntry (operator : Operator) (label : String) : Entry :=
  ⟨["coverUrl"], some operator.symbol, some (.text label)⟩

/-- The clause of such a row knows how a missing cover is called. -/
theorem compile?_coverEntry (others : List Game) (source : CategorySource) {operator : Operator}
    (hoperator : operator ∈ Operator.enumerated) {label : String} (hlabel : label ≠ "") :
    (jamSchema others source).compile? (coverEntry operator label)
      = some (.labels ["coverUrl"] operator label (some Cover.missing.name)) :=
  compile?_of_enumerated (by decide) rfl hoperator hlabel

theorem holds_cover_contains_iff (game : Game) (label : String) :
    (Clause.labels ["coverUrl"] .contains label (some Cover.missing.name)).holds game.serve = true ↔
      game.cover.name = label := by
  have hserve : game.serve ["coverUrl"] = game.cover.serve := rfl
  rw [Clause.holds, Clause.labels, hserve]
  cases game.cover <;> simp [Test.passes, Test.labelPasses, Cover.serve, Cover.name,
    FieldValue.hasLabels, FieldValue.hasLabel]

theorem holds_cover_notEmpty_iff (game : Game) (label : String) (absentLabel : Option String) :
    (Clause.labels ["coverUrl"] .notEmpty label absentLabel).holds game.serve = true ↔
      game.cover ≠ .missing := by
  have hserve : game.serve ["coverUrl"] = game.cover.serve := rfl
  rw [Clause.holds, Clause.labels, hserve]
  cases game.cover <;> simp [Test.passes, Test.labelPasses, Cover.serve, Cover.name,
    FieldValue.hasLabels]

theorem holds_cover_empty_iff (game : Game) (label : String) (absentLabel : Option String) :
    (Clause.labels ["coverUrl"] .empty label absentLabel).holds game.serve = true ↔
      game.cover = .missing := by
  have hopposite : (Clause.labels ["coverUrl"] .empty label absentLabel).holds game.serve
      = !(Clause.labels ["coverUrl"] .notEmpty label absentLabel).holds game.serve := rfl
  rw [hopposite, Bool.not_eq_true', ← Bool.not_eq_true, holds_cover_notEmpty_iff, not_not]

theorem Cover.mem_all (cover : Cover) : cover ∈ all := by
  cases cover <;> decide

theorem Cover.name_injective {a b : Cover} (h : a.name = b.name) : a = b := by
  revert h
  cases a <;> cases b <;> decide

/-- What a row keeps whose clause asks for something. -/
theorem kept_coverEntry (others games : List Game) (source : CategorySource) {operator : Operator}
    (hoperator : operator ∈ Operator.enumerated) {label : String} (hlabel : label ≠ "")
    {asked : Game → Prop} [DecidablePred asked]
    (hasked : ∀ game, (Clause.labels ["coverUrl"] operator label
      (some Cover.missing.name)).holds game.serve = true ↔ asked game) :
    (jamSchema others source).kept [coverEntry operator label] games
      = games.filter fun game => decide (asked game) := by
  rw [Schema.kept, filter_compile_singleton, compile?_coverEntry others source hoperator hlabel]
  refine List.filter_congr fun game _ => ?_
  rw [Bool.eq_iff_iff, hasked, decide_eq_true_iff]

/-- **Each game is found under one kind of cover.**  Rows for the three kinds share out the games,
and a row for any other label keeps none.  The games without a cover are those that an `empty` row
keeps, whatever its label, and a `not empty` row keeps the others. -/
theorem kept_by_cover (others games : List Game) (source : CategorySource) :
    let schema := jamSchema others source
    (∀ cover : Cover, schema.kept [coverEntry .contains cover.name] games
      = games.filter fun game => decide (game.HasCover cover)) ∧
    Divides (Cover.all.map fun cover => schema.kept [coverEntry .contains cover.name] games) games ∧
    (∀ label, label ≠ "" →
      schema.kept [coverEntry .empty label] games
        = games.filter (fun game => decide (game.HasCover .missing)) ∧
      schema.kept [coverEntry .notEmpty label] games
        = games.filter (fun game => decide (game.HasCover .image ∨ game.HasCover .gif))) ∧
    ∀ label, label ≠ "" → label ∉ Cover.all.map Cover.name →
      schema.kept [coverEntry .contains label] games = [] := by
  intro schema
  have hcontains : Operator.contains ∈ Operator.enumerated := by decide
  have hkept (cover : Cover) : schema.kept [coverEntry .contains cover.name] games
      = games.filter fun game => decide (game.cover = cover) := by
    refine kept_coverEntry others games source hcontains (by cases cover <;> decide) fun game => ?_
    rw [holds_cover_contains_iff]
    exact ⟨Cover.name_injective, congrArg Cover.name⟩
  refine ⟨fun cover => ?_, ?_, fun label hlabel => ⟨?_, ?_⟩, fun label hlabel hother => ?_⟩
  · simp only [hkept, Game.hasCover_iff]
  · simp only [hkept]
    exact divides_filter Game.cover (by decide) (fun game => game.cover.mem_all) games
  · refine kept_coverEntry others games source (by decide) hlabel fun game => ?_
    rw [holds_cover_empty_iff, Game.hasCover_iff]
  · refine kept_coverEntry others games source (by decide) hlabel fun game => ?_
    rw [holds_cover_notEmpty_iff, Game.hasCover_iff, Game.hasCover_iff]
    cases game.cover <;> decide
  · rw [kept_coverEntry others games source hcontains hlabel
      fun game => holds_cover_contains_iff game label, List.filter_eq_nil_iff]
    intro game _ hname
    exact hother (List.mem_map.2 ⟨game.cover, game.cover.mem_all, of_decide_eq_true hname⟩)

/-- Two of four games have no cover, and the address of another one ends in capitals, so that its
cover is no animation.  The label of an `empty` row has no say, and one in capitals finds
nothing. -/
theorem kept_by_cover_capitals :
    let games := [none, some "", some "a.gif", some "a.GIF"].map fun url =>
      (⟨"", "", url, "", [], 0, [], none, none, none, none⟩ : Game)
    let schema := jamSchema [] .firstRecord
    ("gif" ≠ "" ∧ schema.kept [coverEntry .empty "gif"] games = games.take 2 ∧
      schema.kept [coverEntry .notEmpty "gif"] games = games.drop 2) ∧
    ("GIF" ≠ "" ∧ "GIF" ∉ Cover.all.map Cover.name ∧
      schema.kept [coverEntry .contains "GIF"] games = []) := by
  intro games schema
  have hgif : "gif" ≠ "" := by decide
  have hcapitals : "GIF" ≠ "" := by decide
  have hother : "GIF" ∉ Cover.all.map Cover.name := by decide
  obtain ⟨-, -, habsent, hnone⟩ := kept_by_cover [] games .firstRecord
  obtain ⟨hempty, hnotEmpty⟩ := habsent "gif" hgif
  refine ⟨⟨hgif, hempty.trans ?_, hnotEmpty.trans ?_⟩, hcapitals, hother,
    hnone "GIF" hcapitals hother⟩
  · decide +kernel
  · decide +kernel

end GameJam
