import GameJam.Json.Write
import GameJam.Output.Styled
import GameJam.Paging
import GameJam.Results.Game

/-!
# Listings

One page of the games that match a filter, with what is needed to go on to another page.

## What is here

* `GameRow` — a game as a line of a listing.
* `Listing`, with its JSON and its text.
-/

set_option autoImplicit false

namespace GameJam

/-- A natural number as a text. -/
def countText (n : Nat) : String :=
  String.ofList (decimalText n)

/-- A game in a listing. -/
structure GameRow where
  /-- Where the game stands among all that match, counted from 1. -/
  position : UInt64
  name : String
  url : String
  authors : String
  votes : UInt64
  cover : String
  /-- The places of the game, such as `Overall #2, Fun #14`. -/
  ranks : String
  genres : List String
  tags : List String
deriving DecidableEq

namespace GameRow

/-- A place of a game, in short. -/
def rankText (rank : Rank) : String :=
  rank.category ++ " #" ++ countText rank.place.toNat

/-- The row of a game. -/
def ofGame (position : UInt64) (game : Game) : GameRow where
  position := position
  name := game.name
  url := game.gameUrl
  authors := game.authorNames
  votes := game.ratingsCount
  cover := game.cover.name
  ranks := String.intercalate ", " (game.ranks.map rankText)
  genres := game.genres.getD []
  tags := game.tags.getD []

/-- The JSON of a row. -/
def toJson (row : GameRow) : Json :=
  .object [
    ("position", .ofUInt64 row.position),
    ("name", .string row.name),
    ("url", .string row.url),
    ("authors", .string row.authors),
    ("votes", .ofUInt64 row.votes),
    ("cover", .string row.cover),
    ("ranks", .string row.ranks),
    ("genres", .ofStrings row.genres),
    ("tags", .ofStrings row.tags)]

end GameRow

/-- The JSON of a slot of the pager. -/
def PagerSlot.toJson : PagerSlot → Json
  | .page n => .ofUInt64 n
  | .gap => .string "..."

/-- One page of the games that match. -/
structure Listing where
  items : List GameRow
  /-- How many games match, on all pages together. -/
  totalCount : UInt64
  /-- How many games there are. -/
  datasetCount : UInt64
  /-- The rows of the filter that constrain the result, if any does. -/
  filterSummary : Option String
  page : UInt64
  totalPages : UInt64
  pages : List PagerSlot
  /-- The query string of this page. -/
  link : String
deriving DecidableEq

namespace Listing

/-- Is there no game on the page? -/
def isEmpty (listing : Listing) : Bool :=
  listing.items.isEmpty

/-- The positions of the first and the last game on the page. -/
def range? (listing : Listing) : Option (UInt64 × UInt64) := do
  return ((← listing.items.head?).position, (← listing.items.getLast?).position)

/-- The JSON of the games on the page. -/
def rowsJson (listing : Listing) : Json :=
  .array (listing.items.map GameRow.toJson)

/-- The JSON of a listing. -/
def toJson (listing : Listing) : Json :=
  .object ([
    ("items", listing.rowsJson),
    ("total_count", .ofUInt64 listing.totalCount),
    ("dataset_count", .ofUInt64 listing.datasetCount)]
    ++ (listing.filterSummary.map fun summary => ("filter_summary", Json.string summary)).toList
    ++ [
    ("page", .ofUInt64 listing.page),
    ("total_pages", .ofUInt64 listing.totalPages),
    ("pages", .array (listing.pages.map PagerSlot.toJson)),
    ("link", .string listing.link)])

end Listing

/-! ## The text of a listing -/

/-- A text with spaces before it, so that it takes at least so many characters. -/
def padded (width : Nat) (text : String) : String :=
  String.ofList (List.replicate (width - text.length) ' ') ++ text

namespace GameRow

/-- What is known of a game besides its name: the votes, the places and the genres. -/
def facts (row : GameRow) : List StyledText :=
  [[.plain (countText row.votes.toNat ++ " votes")]]
    ++ (if row.ranks = "" then [] else [[.marked .accent row.ranks]])
    ++ (if row.genres.isEmpty then [] else [[.plain (String.intercalate ", " row.genres)]])

/-- The lines of a game. -/
def text (row : GameRow) : StyledText :=
  [.plain ("\n" ++ padded 4 (countText row.position.toNat) ++ ". "),
    .marked .title row.name,
    .plain ((if row.authors = "" then "" else " by " ++ row.authors) ++ "\n      ")]
  ++ StyledText.join " · " row.facts
  ++ [.plain "\n      ", .marked .muted row.url, .plain "\n"]

end GameRow

/-- A slot of the pager; the current page stands out. -/
def PagerSlot.text (current : UInt64) : PagerSlot → Span
  | .page n =>
    if n = current then .marked .current ("[" ++ countText n.toNat ++ "]")
    else .plain (countText n.toNat)
  | .gap => .plain "…"

namespace Listing

/-- What is shown, in one line. -/
def headline (listing : Listing) : String :=
  (match listing.range? with
    | some (first, last) =>
      "Showing " ++ countText first.toNat ++ "-" ++ countText last.toNat ++ " of "
        ++ countText listing.totalCount.toNat ++ " games"
    | none =>
      if listing.totalCount = 0 then "No games match"
      else "Page " ++ countText listing.page.toNat ++ " is empty")
  ++ (if listing.totalCount = listing.datasetCount then ""
    else " (" ++ countText listing.datasetCount.toNat ++ " in dataset)")

/-- The line about the filter, if it constrains the result. -/
def filterLine (listing : Listing) : StyledText :=
  match listing.filterSummary with
  | some summary => [.marked .muted "filtered by:", .plain (" " ++ summary ++ "\n")]
  | none => []

/-- The line of pages, if there is any. -/
def pagerLine (listing : Listing) : StyledText :=
  if listing.pages.isEmpty then []
  else .plain "\nPage: "
    :: (StyledText.join " " (listing.pages.map fun slot => [slot.text listing.page])
      ++ [.plain "\n"])

/-- The text of a listing. -/
def text (listing : Listing) : StyledText :=
  [.plain (listing.headline ++ "\n")] ++ listing.filterLine
    ++ listing.items.flatMap GameRow.text ++ listing.pagerLine

end Listing
end GameJam
