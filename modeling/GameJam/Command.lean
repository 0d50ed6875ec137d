import GameJam.Filter.Query
import GameJam.Listing
import GameJam.Location
import GameJam.Output.Outline
import GameJam.Output.Presentation
import GameJam.Results.Schema

/-!
# Commands

What can be asked of a dataset, and what is shown in answer: what its games can be filtered by, one
page of the games that match a filter, and a link to a page.

## What is here

* `LinkRequest`, `ListRequest` and `Command`.
* `LinkRequest.target` — the location that is asked for.
* `ListRequest.listing` — the page that is asked for, or the one closest to it.
* `Schema.presentation`, `Listing.presentation`, `Location.presentation` — what is shown.
-/

set_option autoImplicit false

namespace GameJam

/-- Asks for a location: that of a query string, with other filters or another page. -/
structure LinkRequest where
  /-- The token of the filters. -/
  filters : Option String := none
  /-- The query string. -/
  location : Option String := none
  page : Option UInt64 := none
deriving DecidableEq, Repr

/-- Asks for a page of a dataset. -/
structure ListRequest extends LinkRequest where
  /-- The file of the dataset. -/
  data : Option String := none
  perPage : Option PageSize := none
deriving DecidableEq, Repr

/-- What is to be done. -/
inductive Command where
  /-- Show what games can be filtered by. -/
  | schema (data : Option String)
  /-- Show a page of the games that match. -/
  | list (request : ListRequest)
  /-- Show the query string of a location. -/
  | link (request : LinkRequest)
deriving DecidableEq, Repr

/-! ## Answers -/

/-- The location that is asked for. -/
def LinkRequest.target (request : LinkRequest) : Location :=
  .ofParts request.location request.filters request.page

/-- The page that is asked for, or the one closest to it. -/
def ListRequest.listing (request : ListRequest) (dataset : Dataset) (schema : Schema)
    (usual : PageSize) : Listing :=
  let target := request.target
  let found := (Query.compile schema target.filters).filter Game.serve dataset.games
  let size := (request.perPage.getD usual).count
  let totalPages := pageCount found.length.toUInt64 size
  let page := clampPage target.page totalPages
  let before := (page - 1) * size
  { items := (pageSlice found page size).mapIdx fun i game =>
      .ofGame (before + i.toUInt64 + 1) game
    totalCount := found.length.toUInt64
    datasetCount := dataset.games.length.toUInt64
    filterSummary := schema.summary? target.filters
    page
    totalPages
    pages := pagerWindow page totalPages
    link := { target with page }.toQuery }

/-- What is shown of a schema; its table is the outline. -/
def Schema.presentation (schema : Schema) : Presentation where
  text := schema.text
  view := schema.toJson
  rows := .array (schema.outline.map OutlineRow.toJson)

/-- What is shown of a page; its table are the games on it. -/
def Listing.presentation (listing : Listing) : Presentation where
  text := listing.text
  view := listing.toJson
  rows := listing.rowsJson

/-- What is shown of a location. -/
def Location.presentation (location : Location) : Presentation where
  text := [.plain ("?" ++ location.toQuery ++ "\n")]
  view := location.toJson
  rows := location.toJson

end GameJam
