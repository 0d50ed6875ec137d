import GameJam.Filter.Schema
import GameJam.Results.Dataset

/-!
# The schema of a dataset

What games can be filtered by is partly the same for all jams, the name, the cover and the counts,
and partly read from the games: the categories of the rating, and the labels that occur.

## What is here

* `CategorySource` — the games whose ranks are looked at.
* `rankCategories`, `distinctLabels` — what is read from the games.
* `jamSchema` — the schema.
-/

set_option autoImplicit false

namespace GameJam

/-- Where the categories of the rating are read from. -/
inductive CategorySource where
  | firstRecord
  | allRecords
deriving DecidableEq, Repr

namespace CategorySource

/-- The name of a source in the configuration. -/
def name : CategorySource → String
  | .firstRecord => "first-record"
  | .allRecords => "all-records"

/-- The source of this name. -/
def ofName? (s : String) : Option CategorySource :=
  [firstRecord, allRecords].find? fun source => source.name == s

theorem ofName?_name (source : CategorySource) : ofName? source.name = some source := by
  cases source <;> decide

/-- The games that a source looks at. -/
def games (source : CategorySource) (games : List Game) : List Game :=
  match source with
  | .firstRecord => games.take 1
  | .allRecords => games

end CategorySource

/-- The categories of the rating, each where it is first seen. -/
def rankCategories (games : List Game) (source : CategorySource) : List String :=
  ((source.games games).flatMap fun game => game.ranks.map Rank.category).eraseDups

/-- The labels that occur in a list of the games, sorted. -/
def distinctLabels (games : List Game) (field : LabelField) : List String :=
  ((games.flatMap fun game => (game.labels? field).getD []).eraseDups).mergeSort
    fun a b => !(b < a)

/-- A whole number that is not below the first one. -/
def wholeFrom (least : Nat) : InputRange where
  min := some (.ofInt least)
  step := some (.ofInt 1)

/-- The properties of a rank in one category. -/
def rankProperties : List Property := [
  .numeric "place" "Place" (wholeFrom 1),
  .numeric "score" "Score" {},
  .numeric "rawScore" "Raw Score" {}]

/-- The property of a list of labels, with the labels that occur. -/
def labelProperty (games : List Game) (field : LabelField) : Property :=
  .enumerated field.name field.title (distinctLabels games field) none

/-- What games can be filtered by. -/
def jamSchema (games : List Game) (source : CategorySource) : Schema :=
  [.text "name" "Name",
    .nested "ranks" "Ranks" ((rankCategories games source).map fun category =>
      .nested category category rankProperties),
    .enumerated "coverUrl" "Cover" (Cover.all.map Cover.name) (some Cover.missing.name),
    .numeric "authorsCount" "Authors count" (wholeFrom 0),
    .numeric "votesCount" "Votes count" {}]
  ++ LabelField.all.map (labelProperty games)

end GameJam
