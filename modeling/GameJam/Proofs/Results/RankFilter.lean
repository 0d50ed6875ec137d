import GameJam.Proofs.Filter.RowMeaning
import GameJam.Proofs.Number.Comparison
import GameJam.Results.Schema

/-!
# Filtering by a place or a score

The categories of the rating are read from the games, and a category that is not among them is no
property of the schema, so a row for it constrains nothing.  A category that is among them may still
be missing from a game, and such a game does not pass, whatever the row asks.  Which of the two
happens is decided by the schema alone; the game looks its category up on its own.

## What is here

* `RankField` — the numbers of a rank, with their exact values.
* `Rank.Meets`, `Game.MeetsIn` — what a comparison asks of a rank, and of a game: its first rank in
  the category decides.
* `Game.serve_rank` — what stands where such a comparison looks.
* `holds_numeric_iff` — the clause of a comparison tests the same.
* `mem_rankCategories_iff`, `compile?_rankEntry` — the categories, and when a row has a clause.
* `filter_by_rank` — **what a row for a number of a rank keeps**.
-/

set_option autoImplicit false

namespace GameJam

/-! ## Numbers of a rank -/

/-- The numbers of a rank that can be filtered by. -/
inductive RankField where
  | place
  | score
  | rawScore
deriving DecidableEq, Repr

namespace RankField

/-- The name of a number in data and in filters. -/
def name : RankField → String
  | .place => "place"
  | .score => "score"
  | .rawScore => "rawScore"

/-- The property that tests a number. -/
def property : RankField → Property
  | .place => .numeric "place" "Place" (wholeFrom 1)
  | .score => .numeric "score" "Score" {}
  | .rawScore => .numeric "rawScore" "Raw Score" {}

/-- The number that a rank serves. -/
def number (rank : Rank) : RankField → Number
  | .place => .unsigned rank.place.toUInt64
  | .score => .real rank.score
  | .rawScore => .real rank.rawScore

/-- The exact value of a number of a rank; a score that is a NaN has none. -/
def extended? (rank : Rank) : RankField → Option Extended
  | .place => some (.ofInt (rank.place.toNat * Binary64.unitsOfOne))
  | .score => rank.score.extended?
  | .rawScore => rank.rawScore.extended?

theorem serve_name (field : RankField) (rank : Rank) :
    rank.serve field.name = .number (field.number rank) := by
  cases field <;> rfl

end RankField

/-! ## What a comparison asks -/

/-- The number of the rank stands in the relation to the operand. -/
def Rank.Meets (rank : Rank) (field : RankField) (operator : Operator) (operand : Binary64) :
    Prop :=
  ∃ x y, field.extended? rank = some x ∧ operand.extended? = some y ∧ operator.Relates x y

/-- The game has a rank in the category, and the first of them stands in the relation. -/
def Game.MeetsIn (game : Game) (category : String) (field : RankField) (operator : Operator)
    (operand : Binary64) : Prop :=
  ∃ before rank after, game.ranks = before ++ rank :: after ∧
    (∀ other ∈ before, other.category ≠ category) ∧ rank.category = category ∧
    rank.Meets field operator operand

theorem extended?_place (rank : Rank) :
    (Number.unsigned rank.place.toUInt64).toBinary64.extended?
      = RankField.place.extended? rank := by
  have hplace : rank.place.toUInt64.toNat = rank.place.toNat := UInt32.toNat_toUInt64 _
  have hlt : rank.place.toNat < 2 ^ 32 := UInt32.toNat_lt _
  rw [Number.toBinary64, hplace, Binary64.extended?_ofInt (by omega)]
  rfl

/-- **The test of a comparison passes when the relation holds.** -/
theorem passes_numeric_iff (rank : Rank) (field : RankField) (operator : Operator)
    (operand : Binary64) :
    (Test.numeric operator (.real operand)).passes (.number (field.number rank)) = true ↔
      rank.Meets field operator operand := by
  have hcompare : (field.number rank).compare? (.real operand)
      = (field.number rank).toBinary64.compare? operand := by
    cases field <;> rfl
  have hexact : (field.number rank).toBinary64.extended? = field.extended? rank := by
    cases field with
    | place => exact extended?_place rank
    | score => rfl
    | rawScore => rfl
  rw [Test.passes, FieldValue.asNumber?, Option.any_some, hcompare, Binary64.any_accepts_iff,
    hexact]
  rfl

namespace Game

variable {game : Game} {category : String}

theorem rank?_eq_none_iff :
    game.rank? category = none ↔ ∀ rank ∈ game.ranks, rank.category ≠ category := by
  simp [rank?]

theorem rank?_eq_some_iff {rank : Rank} :
    game.rank? category = some rank ↔ ∃ before after, game.ranks = before ++ rank :: after ∧
      (∀ other ∈ before, other.category ≠ category) ∧ rank.category = category := by
  rw [rank?, List.find?_eq_some_iff_append]
  constructor
  · rintro ⟨hcategory, before, after, hranks, hbefore⟩
    exact ⟨before, after, hranks, by simpa using hbefore, beq_iff_eq.1 hcategory⟩
  · rintro ⟨before, after, hranks, hbefore, hcategory⟩
    exact ⟨beq_iff_eq.2 hcategory, before, after, hranks, by simpa using hbefore⟩

/-- What a game serves for a number of a rank is that of its first rank in the category. -/
theorem serve_rank (game : Game) (category : String) (field : RankField) :
    game.serve ["ranks", category, field.name]
      = (game.rank? category).elim .missing fun rank => .number (field.number rank) := by
  simp only [serve]
  cases game.rank? category with
  | none => rfl
  | some rank => exact field.serve_name rank

theorem meetsIn_iff {field : RankField} {operator : Operator} {operand : Binary64} :
    game.MeetsIn category field operator operand ↔
      ∃ rank, game.rank? category = some rank ∧ rank.Meets field operator operand := by
  constructor
  · rintro ⟨before, rank, after, hranks, hbefore, hcategory, hmeets⟩
    exact ⟨rank, rank?_eq_some_iff.2 ⟨before, after, hranks, hbefore, hcategory⟩, hmeets⟩
  · rintro ⟨rank, hrank, hmeets⟩
    obtain ⟨before, after, hranks, hbefore, hcategory⟩ := rank?_eq_some_iff.1 hrank
    exact ⟨before, rank, after, hranks, hbefore, hcategory, hmeets⟩

end Game

/-- **The clause of a comparison holds of the games that meet it.** -/
theorem holds_numeric_iff (game : Game) (category : String) (field : RankField)
    (operator : Operator) (operand : Binary64) :
    (Clause.numeric ["ranks", category, field.name] operator (.real operand)).holds game.serve
        = true ↔
      game.MeetsIn category field operator operand := by
  rw [Clause.holds, Clause.numeric, Game.serve_rank, Game.meetsIn_iff]
  cases game.rank? category with
  | none => simp [Test.passes, FieldValue.asNumber?]
  | some rank => simpa using passes_numeric_iff rank field operator operand

instance (game : Game) (category : String) (field : RankField) (operator : Operator)
    (operand : Binary64) : Decidable (game.MeetsIn category field operator operand) :=
  decidable_of_iff _ (holds_numeric_iff game category field operator operand)

/-! ## When a row has a clause -/

theorem mem_rankCategories_iff {games : List Game} {source : CategorySource} {category : String} :
    category ∈ rankCategories games source ↔
      ∃ game ∈ source.games games, ∃ rank ∈ game.ranks, rank.category = category := by
  simp [rankCategories, List.mem_eraseDups]

/-- The property of a category. -/
def categoryProperty (category : String) : Property :=
  .nested category category rankProperties

/-- The property of all categories that are read from games. -/
def ranksProperty (games : List Game) (source : CategorySource) : Property :=
  .nested "ranks" "Ranks" ((rankCategories games source).map categoryProperty)

/-- The property of a category is found if it is one of them. -/
theorem named?_categories (categories : List String) (category : String) :
    Property.named? (categories.map categoryProperty) category
      = if category ∈ categories then some (categoryProperty category) else none := by
  induction categories with
  | nil => rfl
  | cons first rest ih =>
    have hname : ∀ category, (categoryProperty category).name = category := fun _ => rfl
    by_cases hfirst : first = category
    · simp [Property.named?, hname, hfirst]
    · rw [List.map_cons, Property.named?, List.find?_cons_of_neg (by simpa [hname]),
        ← Property.named?, ih]
      simp [Ne.symm hfirst]

/-- A row that compares a number of the ranks in a category. -/
def rankEntry (category : String) (field : RankField) (operator : Operator) (value : EntryValue) :
    Entry :=
  ⟨["ranks", category, field.name], some operator.symbol, some value⟩

section Compiled

variable (games : List Game) (source : CategorySource) (category : String) (field : RankField)

/-- The way behind the name of the ranks ends there, or goes to a number of a rank. -/
theorem resolve?_rank :
    (jamSchema games source).resolve? ["ranks", category, field.name]
      = if category ≠ "" ∧ category ∈ rankCategories games source then
          some (field.property, 3)
        else some (ranksProperty games source, 1) := by
  have hranks : Property.named? (jamSchema games source) "ranks"
      = some (ranksProperty games source) := rfl
  have hbelow : (ranksProperty games source).follow [category, field.name]
      = if category ≠ "" ∧ category ∈ rankCategories games source then (field.property, 2)
        else (ranksProperty games source, 0) := by
    have hchild : (ranksProperty games source).child? category
        = if category ∈ rankCategories games source then some (categoryProperty category)
          else none := named?_categories _ _
    have hfield : (categoryProperty category).follow [field.name] = (field.property, 1) := by
      cases field <;> rfl
    rw [Property.follow, hchild]
    split_ifs <;> simp_all
  rw [Schema.resolve?, hranks, Option.map_some, hbelow]
  split_ifs <;> rfl

/-- **A row for a number of a rank has a clause if its category is one of those that were read.** -/
theorem compile?_rankEntry {operator : Operator} (hoperator : operator ∈ Operator.numeric)
    {value : EntryValue} {operand : Binary64} (hvalue : value.finiteNumber? = some operand) :
    (jamSchema games source).compile? (rankEntry category field operator value)
      = if category ≠ "" ∧ category ∈ rankCategories games source then
          some (.numeric ["ranks", category, field.name] operator (.real operand))
        else none := by
  have hname : (rankEntry category field operator value).propertyName = some "ranks" := rfl
  have hpath : (rankEntry category field operator value).path = ["ranks", category, field.name] :=
    rfl
  have hrow : (rankEntry category field operator value).operator = some operator.symbol ∧
      (rankEntry category field operator value).value = some value := ⟨rfl, rfl⟩
  have hsymbol : Operator.ofSymbol? operator.symbol = some operator :=
    Operator.ofSymbol?_symbol operator
  have hleaf : ∀ path, field.property.leafClause? path operator value
      = some (.numeric path operator (.real operand)) := by
    intro path
    cases field <;> simp [RankField.property, Property.leafClause?, Property.operators, hoperator,
      hvalue]
  have hnested : ∀ path, (ranksProperty games source).leafClause? path operator value = none := by
    intro path
    simp [ranksProperty, Property.leafClause?]
  by_cases hread : category ≠ "" ∧ category ∈ rankCategories games source
  · simp [Schema.compile?, hname, hpath, hrow, resolve?_rank, hread, hsymbol, hleaf]
  · simp [Schema.compile?, hname, hpath, hrow, resolve?_rank, hread, hsymbol, hnested]

end Compiled

/-! ## What is kept -/

/-- **A row for a number of a rank** keeps, if its category is one of those that were read, the
games whose first rank in the category stands in the relation, and no game without one; otherwise
all games, also when other games than those that were looked at have the category. -/
theorem filter_by_rank (games : List Game) (source : CategorySource) (category : String)
    (field : RankField) {operator : Operator} (hoperator : operator ∈ Operator.numeric)
    {value : EntryValue} {operand : Binary64} (hvalue : value.finiteNumber? = some operand) :
    let kept := (Query.compile (jamSchema games source)
      [rankEntry category field operator value]).filter Game.serve games
    (category ≠ "" → category ∈ rankCategories games source →
      kept = games.filter fun game => decide (game.MeetsIn category field operator operand)) ∧
    (category = "" ∨ category ∉ rankCategories games source → kept = games) ∧
    (source = .firstRecord →
      (∀ first, games.head? = some first → ∀ rank ∈ first.ranks, rank.category ≠ category) →
        kept = games) := by
  intro kept
  have hkept : kept = ((jamSchema games source).compile?
      (rankEntry category field operator value)).elim games fun clause =>
        games.filter fun game => clause.holds game.serve :=
    filter_compile_singleton games _ _
  rw [compile?_rankEntry games source category field hoperator hvalue] at hkept
  have hall : category = "" ∨ category ∉ rankCategories games source → kept = games := by
    intro hunread
    rwa [if_neg (by tauto)] at hkept
  refine ⟨?_, hall, ?_⟩
  · intro hempty hmem
    rw [if_pos ⟨hempty, hmem⟩] at hkept
    rw [hkept]
    refine List.filter_congr fun game _ => ?_
    rw [Bool.eq_iff_iff, holds_numeric_iff, decide_eq_true_iff]
  · rintro rfl habsent
    refine hall (Or.inr ?_)
    rw [mem_rankCategories_iff]
    rintro ⟨game, hgame, rank, hrank, hcategory⟩
    cases games with
    | nil => cases hgame
    | cons first rest =>
      obtain rfl : game = first := List.mem_singleton.1 hgame
      exact habsent game rfl rank hrank hcategory

/-- A game with nothing but ranks. -/
def Game.ofRanks (ranks : List Rank) : Game :=
  ⟨"", "", none, "", [], 0, ranks, none, none, none, none⟩

/-- A game without a place does not have another place than the second one; but if the categories
are read from that game, both games are kept. -/
theorem filter_by_rank_without_place :
    let placed := Game.ofRanks [⟨"Fun", 1, .ofInt 4, .ofInt 4⟩]
    let unplaced := Game.ofRanks []
    let row := rankEntry "Fun" .place .ne (.text "2")
    (Query.compile (jamSchema [unplaced, placed] .allRecords) [row]).filter Game.serve
        [unplaced, placed] = [placed] ∧
    (Query.compile (jamSchema [unplaced, placed] .firstRecord) [row]).filter Game.serve
        [unplaced, placed] = [unplaced, placed] := by
  intro placed unplaced row
  have hnumber : (EntryValue.text "2").finiteNumber? = some (.ofInt 2) := by decide +kernel
  have hall := filter_by_rank [unplaced, placed] .allRecords "Fun" .place
    (show Operator.ne ∈ Operator.numeric by decide) hnumber
  have hfirst := filter_by_rank [unplaced, placed] .firstRecord "Fun" .place
    (show Operator.ne ∈ Operator.numeric by decide) hnumber
  refine ⟨(hall.1 (by decide) (by decide +kernel)).trans (by decide +kernel),
    hfirst.2.2 rfl ?_⟩
  rintro first ⟨⟩ rank ⟨⟩

end GameJam
