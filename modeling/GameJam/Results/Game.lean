import GameJam.Filter.FieldValue
import GameJam.Json.Basic

/-!
# Games

A game of a jam with its authors, the votes it got, its place in each category of the rating, and
four lists of labels, each of which may be absent.

## What is here

* `Game`, `Author`, `Rank`, and their JSON.
* `Cover` — is the cover of a game a still image, an animation, or missing?
* `LabelField` — the four lists of labels.
* `Game.serve` — what a game serves at a path of a filter.
-/

set_option autoImplicit false

namespace GameJam

/-- Someone who made a game. -/
structure Author where
  url : String
  name : String
deriving DecidableEq

/-- The place of a game in one category of the rating. -/
structure Rank where
  category : String
  place : UInt32
  score : Binary64
  rawScore : Binary64
deriving DecidableEq

/-- A game of a jam. -/
structure Game where
  gameUrl : String
  submissionUrl : String
  coverUrl : Option String
  name : String
  authors : List Author
  ratingsCount : UInt64
  ranks : List Rank
  platforms : Option (List String)
  genres : Option (List String)
  madeWith : Option (List String)
  tags : Option (List String)
deriving DecidableEq

/-! ## Covers -/

/-- What the cover of a game is. -/
inductive Cover where
  | image
  | gif
  | missing
deriving DecidableEq, Repr

namespace Cover

/-- Every kind of cover, in the order in which a selector offers them. -/
def all : List Cover := [.image, .gif, .missing]

/-- The label of a kind of cover. -/
def name : Cover → String
  | .image => "image"
  | .gif => "gif"
  | .missing => "missing"

/-- The kind of a cover, told from how its address ends. -/
def ofUrl? : Option String → Cover
  | none => .missing
  | some url =>
    if url = "" then .missing
    else if ".gif".toList.isSuffixOf url.toList then .gif
    else .image

end Cover

/-! ## Lists of labels -/

/-- The lists of labels that a game may have. -/
inductive LabelField where
  | genres
  | tags
  | platforms
  | madeWith
deriving DecidableEq, Repr

namespace LabelField

/-- The lists, in the order in which a selector shows them. -/
def all : List LabelField := [.genres, .tags, .platforms, .madeWith]

/-- The name of a list in data and in filters. -/
def name : LabelField → String
  | .genres => "genres"
  | .tags => "tags"
  | .platforms => "platforms"
  | .madeWith => "madeWith"

/-- How a list is called on screens. -/
def title : LabelField → String
  | .genres => "Genres"
  | .tags => "Tags"
  | .platforms => "Platforms"
  | .madeWith => "Made with"

end LabelField

namespace Game

/-- A list of labels of a game. -/
def labels? (game : Game) : LabelField → Option (List String)
  | .genres => game.genres
  | .tags => game.tags
  | .platforms => game.platforms
  | .madeWith => game.madeWith

/-- The kind of the game's cover. -/
def cover (game : Game) : Cover :=
  .ofUrl? game.coverUrl

/-- The first rank in a category. -/
def rank? (game : Game) (category : String) : Option Rank :=
  game.ranks.find? fun rank => rank.category == category

/-- The names of the authors in one line. -/
def authorNames (game : Game) : String :=
  String.intercalate ", " (game.authors.map Author.name)

end Game

/-! ## What a filter sees -/

/-- What a rank serves under a name. -/
def Rank.serve (rank : Rank) (field : String) : FieldValue :=
  match field with
  | "place" => .number (.unsigned rank.place.toUInt64)
  | "score" => .number (.real rank.score)
  | "rawScore" => .number (.real rank.rawScore)
  | _ => .missing

/-- What a kind of cover serves: its label, but nothing for a missing cover. -/
def Cover.serve : Cover → FieldValue
  | .missing => .missing
  | cover => .label cover.name

namespace Game

/-- What a game serves for one of its lists of labels. -/
def serveLabels (game : Game) (field : LabelField) : FieldValue :=
  match game.labels? field with
  | some labels => .labels labels
  | none => .missing

/-- What a game serves under a name of its own. -/
def serveField (game : Game) (field : String) : FieldValue :=
  match field with
  | "name" => .text game.name
  | "coverUrl" => game.cover.serve
  | "authorsCount" => .number (.unsigned (saturate game.authors.length))
  | "votesCount" => .number (.unsigned game.ratingsCount)
  | "platforms" => game.serveLabels .platforms
  | "genres" => game.serveLabels .genres
  | "madeWith" => game.serveLabels .madeWith
  | "tags" => game.serveLabels .tags
  | _ => .missing

/-- What a game serves at a path: a field of its own, or a number of its rank in a category. -/
def serve (game : Game) : List String → FieldValue
  | [field] => game.serveField field
  | ["ranks", category, field] =>
    match game.rank? category with
    | some rank => rank.serve field
    | none => .missing
  | _ => .missing

end Game

/-! ## JSON -/

/-- The JSON of an author. -/
def Author.toJson (author : Author) : Json :=
  .object [("url", .string author.url), ("name", .string author.name)]

/-- The JSON of a rank. -/
def Rank.toJson (rank : Rank) : Json :=
  .object [
    ("category", .string rank.category),
    ("place", .ofUInt64 rank.place.toUInt64),
    ("score", .ofBinary64 rank.score),
    ("rawScore", .ofBinary64 rank.rawScore)]

/-- The field of a list of labels, unless the list is absent. -/
def Game.labelFields (game : Game) (field : LabelField) : List (String × Json) :=
  match game.labels? field with
  | some labels => [(field.name, .ofStrings labels)]
  | none => []

/-- The JSON of a game. -/
def Game.toJson (game : Game) : Json :=
  .object ([
    ("gameUrl", .string game.gameUrl),
    ("submissionUrl", .string game.submissionUrl),
    ("coverUrl", (game.coverUrl.map Json.string).getD .null),
    ("name", .string game.name),
    ("authors", .array (game.authors.map Author.toJson)),
    ("ratingsCount", .ofUInt64 game.ratingsCount),
    ("ranks", .array (game.ranks.map Rank.toJson))]
    ++ game.labelFields .platforms ++ game.labelFields .genres
    ++ game.labelFields .madeWith ++ game.labelFields .tags)

end GameJam
