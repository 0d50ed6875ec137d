import GameJam.Json.Read
import GameJam.Results.Game
import GameJam.Text.Blank
import GameJam.Text.Fields

/-!
# Datasets

The games of a jam, read from a JSON array.  A list of labels may also be written as one text with
commas between the labels; blanks around a label do not count, and neither does a label that is
blank.

## What is here

* `Author.reader`, `Rank.reader`, `Game.reader` — the records and which of their fields may be
  absent.
* `labelParts` — the labels of a text with commas.
* `Dataset` and `Dataset.ofJson`.
-/

set_option autoImplicit false

namespace GameJam

open Json (Reader)

/-! ## Lists of labels -/

/-- The labels of a text with commas. -/
def labelParts (text : String) : List String :=
  (((fieldsBetween ',' text.toList).map trim).filter fun part => !part.isEmpty).map String.ofList

/-- A list of labels: a list of texts, or one text with commas. -/
def labelsReader : Reader (List String) := fun depth d => do
  match ← Reader.tree depth d with
  | .string text => return labelParts text
  | .array items =>
    match Json.strings? items with
    | some labels => return labels
    | none => .error (.noShape "Labels")
  | _ => .error (.noShape "Labels")

/-! ## Records -/

/-- An author as far as it has been read. -/
structure Author.Form where
  url : Option String := none
  name : Option String := none

/-- An author. -/
def Author.reader : Reader Author :=
  Reader.record "Author" [
    .of "url" Reader.text fun (form : Author.Form) url => { form with url := some url },
    .of "name" Reader.text fun form name => { form with name := some name }]
    {} fun missing form => do
      let url ← Reader.require missing "url" form.url
      let name ← Reader.require missing "name" form.name
      return { url, name }

/-- A rank as far as it has been read. -/
structure Rank.Form where
  category : Option String := none
  place : Option UInt32 := none
  score : Option Binary64 := none
  rawScore : Option Binary64 := none

/-- A rank. -/
def Rank.reader : Reader Rank :=
  Reader.record "Rank" [
    .of "category" Reader.text fun (form : Rank.Form) category =>
      { form with category := some category },
    .of "place" (Reader.natural UInt32.size "u32") fun form place =>
      { form with place := some (UInt32.ofNat place) },
    .of "score" Reader.real fun form score => { form with score := some score },
    .of "rawScore" Reader.real fun form rawScore => { form with rawScore := some rawScore }]
    {} fun missing form => do
      let category ← Reader.require missing "category" form.category
      let place ← Reader.require missing "place" form.place
      let score ← Reader.require missing "score" form.score
      let rawScore ← Reader.require missing "rawScore" form.rawScore
      return { category, place, score, rawScore }

/-- A game as far as it has been read; a field that may be absent has its value for that case. -/
structure Game.Form where
  gameUrl : Option String := none
  submissionUrl : String := ""
  coverUrl : Option String := none
  name : Option String := none
  authors : List Author := []
  ratingsCount : UInt64 := 0
  ranks : List Rank := []
  platforms : Option (List String) := none
  genres : Option (List String) := none
  madeWith : Option (List String) := none
  tags : Option (List String) := none

/-- The fields of a game, in the order in which an array gives them. -/
def Game.slots : List (Reader.Slot Game.Form) := [
  .of "gameUrl" Reader.text fun form gameUrl => { form with gameUrl := some gameUrl },
  .of "submissionUrl" Reader.text fun form submissionUrl => { form with submissionUrl },
  .of "coverUrl" (Reader.optional Reader.text) fun form coverUrl => { form with coverUrl },
  .of "name" Reader.text fun form name => { form with name := some name },
  .of "authors" (Reader.list Author.reader) fun form authors => { form with authors },
  .of "ratingsCount" (Reader.natural UInt64.size "u64") fun form count =>
    { form with ratingsCount := UInt64.ofNat count },
  .of "ranks" (Reader.list Rank.reader) fun form ranks => { form with ranks },
  .of "platforms" (Reader.optional labelsReader) fun form platforms => { form with platforms },
  .of "genres" (Reader.optional labelsReader) fun form genres => { form with genres },
  .of "madeWith" (Reader.optional labelsReader) fun form madeWith => { form with madeWith },
  .of "tags" (Reader.optional labelsReader) fun form tags => { form with tags }]

/-- A game; only its address and its name have to be there. -/
def Game.reader : Reader Game :=
  Reader.record "Game" Game.slots {} fun missing form => do
    let gameUrl ← Reader.require missing "gameUrl" form.gameUrl
    let name ← Reader.require missing "name" form.name
    return {
      gameUrl, name
      submissionUrl := form.submissionUrl
      coverUrl := form.coverUrl
      authors := form.authors
      ratingsCount := form.ratingsCount
      ranks := form.ranks
      platforms := form.platforms
      genres := form.genres
      madeWith := form.madeWith
      tags := form.tags }

/-- The games that are filtered, in their order. -/
structure Dataset where
  games : List Game
deriving DecidableEq

/-- Reads a dataset from its JSON text. -/
def Dataset.ofJson (text : String) : Except Json.ReadError Dataset :=
  (Json.read (Reader.list Game.reader) text).map fun games => ⟨games⟩

end GameJam
