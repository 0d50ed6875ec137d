import GameJam.Filter.Token
import GameJam.Text.UrlForm

/-!
# Locations

A location is the part of a link that says what is looked at: the rows of a filter, the page, and
whatever else the query string carries.

## What is here

* `Location`, with `toQuery` and `ofQuery`.  Reading never fails: a page that is no number or is 0
  is page 1, and a filter that cannot be read is no filter.  Of several filters or pages the last
  one counts, and every other pair is kept.
* `Location.withFilters`, `Location.withPage` — going somewhere else.
* `Location.ofParts` — a location from a query string and what is to be changed in it.
-/

set_option autoImplicit false

namespace GameJam

/-- The number below `2 ^ 64` that decimal digits write, a plus before them being allowed. -/
def readCount? (text : List Char) : Option UInt64 :=
  let digits := match text with
    | '+' :: digits => digits
    | digits => digits
  if digits.isEmpty || !digits.all Char.isDigit then none
  else
    let n := digitsValue digits
    if n < UInt64.size then some (UInt64.ofNat n) else none

/-- What is looked at. -/
structure Location where
  filters : List Entry := []
  page : UInt64 := 1
  /-- The other pairs of the query string. -/
  extra : List (String × String) := []
deriving DecidableEq

namespace Location

/-- The pairs of the query string: the other ones first, no filters if there are none, the page
last. -/
def toPairs (location : Location) : List (String × String) :=
  location.extra
    ++ (if location.filters.isEmpty then [] else [("filters", Token.write location.filters)])
    ++ [("page", String.ofList (decimalText location.page.toNat))]

/-- The query string. -/
def toQuery (location : Location) : String :=
  String.ofList (UrlForm.writePairs location.toPairs)

/-- The last value under a key. -/
def lastValue? (pairs : List (String × String)) (key : String) : Option String :=
  ((pairs.filter fun pair => pair.1 == key).getLast?).map Prod.snd

/-- The page that a text writes, between blanks; page 1 if it writes none. -/
def pageOf (text : Option String) : UInt64 :=
  match text.bind fun s => readCount? (trim s.toList) with
  | some page => max page 1
  | none => 1

/-- The location of a list of pairs. -/
def ofPairs (pairs : List (String × String)) : Location where
  filters := Token.read (lastValue? pairs "filters")
  page := pageOf (lastValue? pairs "page")
  extra := pairs.filter fun pair => pair.1 != "filters" && pair.1 != "page"

/-- The location of a query string, which may begin with a question mark. -/
def ofQuery (query : String) : Location :=
  ofPairs (UrlForm.readPairs (match query.toList with
    | '?' :: rest => rest
    | text => text))

/-- Other filters, from the first page on. -/
def withFilters (location : Location) (filters : List Entry) : Location :=
  { location with filters, page := 1 }

/-- Another page, page 0 counting as page 1. -/
def withPage (location : Location) (page : UInt64) : Location :=
  { location with page := max page 1 }

/-- The location of a query string, with the filters of a token and a page put in if they are
given. -/
def ofParts (query token : Option String) (page : Option UInt64) : Location :=
  let location := (query.map ofQuery).getD {}
  let location := match token with
    | some token => location.withFilters (Token.read (some token))
    | none => location
  match page with
  | some page => location.withPage page
  | none => location

/-- The JSON of a location: its query string, its filters and its page. -/
def toJson (location : Location) : Json :=
  .object [
    ("query", .string location.toQuery),
    ("filters", .array (location.filters.map Entry.toJson)),
    ("page", .ofUInt64 location.page)]

end Location
end GameJam
