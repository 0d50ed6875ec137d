import GameJam.Text.Unicode.CategoryData
import GameJam.Text.Unicode.PropertyData
import GameJam.Text.Unicode.Runs

/-!
# General categories and binary properties

Every code point has one general category; a binary property is the union of some categories with
a few characters added and a few left out.

## What is here

* `Category`, `category` — the category of a code point.
* `Category.named?` — the categories meant by a name in lower case without separators.
* `Property`, `Property.named?`, `Property.holds` — the binary properties.
* `isCased`, `isCaseIgnorable`, `isGraphemeExtend`, `isPrintable` — the properties the program
  itself asks for.  ASCII characters are settled without a table.
-/

set_option autoImplicit false

namespace GameJam
namespace Unicode

/-- The general categories, by their two-letter codes. -/
inductive Category where
  | Lu | Ll | Lt | Lm | Lo
  | Mn | Mc | Me
  | Nd | Nl | No
  | Pc | Pd | Ps | Pe | Pi | Pf | Po
  | Sm | Sc | Sk | So
  | Zs | Zl | Zp
  | Cc | Cf | Cs | Co | Cn
deriving DecidableEq, Repr

namespace Category

/-- All categories with the names they are asked for by. -/
def all : List (Category × List String) := [
  (.Lu, ["lu", "uppercaseletter"]), (.Ll, ["ll", "lowercaseletter"]),
  (.Lt, ["lt", "titlecaseletter"]), (.Lm, ["lm", "modifierletter"]),
  (.Lo, ["lo", "otherletter"]), (.Mn, ["mn", "nonspacingmark"]), (.Mc, ["mc", "spacingmark"]),
  (.Me, ["me", "enclosingmark"]), (.Nd, ["nd", "decimalnumber", "digit"]),
  (.Nl, ["nl", "letternumber"]), (.No, ["no", "othernumber"]),
  (.Pc, ["pc", "connectorpunctuation"]), (.Pd, ["pd", "dashpunctuation"]),
  (.Ps, ["ps", "openpunctuation"]), (.Pe, ["pe", "closepunctuation"]),
  (.Pi, ["pi", "initialpunctuation"]), (.Pf, ["pf", "finalpunctuation"]),
  (.Po, ["po", "otherpunctuation"]), (.Sm, ["sm", "mathsymbol"]),
  (.Sc, ["sc", "currencysymbol"]), (.Sk, ["sk", "modifiersymbol"]),
  (.So, ["so", "othersymbol"]), (.Zs, ["zs", "spaceseparator"]),
  (.Zl, ["zl", "lineseparator"]), (.Zp, ["zp", "paragraphseparator"]),
  (.Cc, ["cc", "control", "cntrl"]), (.Cf, ["cf", "format"]), (.Cs, []),
  (.Co, ["co", "privateuse"]), (.Cn, ["cn", "unassigned"])]

/-- The groups of categories with the names they are asked for by. -/
def groups : List (List Category × List String) := [
  ([.Lu, .Ll, .Lt, .Lm, .Lo], ["l", "letter"]),
  ([.Lu, .Ll, .Lt], ["lc", "casedletter"]),
  ([.Mn, .Mc, .Me], ["m", "mark", "combiningmark"]),
  ([.Nd, .Nl, .No], ["n", "number"]),
  ([.Pc, .Pd, .Ps, .Pe, .Pi, .Pf, .Po], ["p", "punctuation", "punct"]),
  ([.Sm, .Sc, .Sk, .So], ["s", "symbol"]),
  ([.Zs, .Zl, .Zp], ["z", "separator"]),
  ([.Cc, .Cf, .Cs, .Co, .Cn], ["c", "other"])]

/-- The categories meant by a name. -/
def named? (name : String) : Option (List Category) :=
  match all.find? fun entry => entry.2.contains name with
  | some (category, _) => some [category]
  | none => (groups.find? fun entry => entry.2.contains name).map Prod.fst

/-- The category with this two-letter code. -/
def ofCode (code : String) : Category :=
  ((all.find? fun entry => entry.2.contains code.toLower).map Prod.fst).getD .Cs

end Category

/-- The runs of equal category. -/
def categoryTable : Runs Category :=
  ((wordsOf categoryRuns).map fun word =>
    (hexNumber (word.drop 2), Category.ofCode (String.ofList (word.take 2)))).toArray

/-- The general category of a code point. -/
def category (c : Nat) : Category :=
  (categoryTable.at? c).getD .Cn

/-! ## Binary properties -/

/-- A binary property: categories, what it has besides, and what it leaves out. -/
structure Property where
  names : List String
  categories : List Category
  added : Ranges
  removed : Ranges

namespace Property

/-- The property that a rule writes. -/
def ofRule (names categories : String) (exceptions : List String) : Property :=
  let words := (wordsOf exceptions).filter (! ·.isEmpty)
  let added := words.takeWhile (· ≠ ['/'])
  let removed := (words.dropWhile (· ≠ ['/'])).drop 1
  { names := (wordsOf [names]).map String.ofList
    categories :=
      ((wordsOf [categories]).filter (! ·.isEmpty)).map fun code =>
        Category.ofCode (String.ofList code)
    added := (added.map Ranges.ofWord).toArray
    removed := (removed.map Ranges.ofWord).toArray }

/-- All binary properties. -/
def all : List Property :=
  propertyRules.map fun (names, categories, exceptions) => ofRule names categories exceptions

/-- The property meant by a name. -/
def named? (name : String) : Option Property :=
  all.find? fun property => property.names.contains name

/-- Does a code point have the property? -/
def holds (property : Property) (c : Nat) : Bool :=
  property.added.contains c
    || property.categories.contains (category c) && !property.removed.contains c

end Property

/-! ## The properties in use -/

/-- The property with a name that is known to be there. -/
def propertyNamed (name : String) : Property :=
  (Property.named? name).getD ⟨[], [], #[], #[]⟩

/-- Has the property `Cased`. -/
def casedTable : Property := propertyNamed "cased"

/-- Has the property `Case_Ignorable`. -/
def caseIgnorableTable : Property := propertyNamed "caseignorable"

/-- Has the property `Grapheme_Extend`. -/
def graphemeExtendTable : Property := propertyNamed "graphemeextend"

/-- Is it a letter with case, or one that looks like such a letter? -/
def isCased (c : Char) : Bool :=
  if c.toNat < 0x80 then c.isAlpha else casedTable.holds c.toNat

/-- Is it passed over when the case of the letters around it is looked at? -/
def isCaseIgnorable (c : Char) : Bool :=
  if c.toNat < 0x80 then ['\'', '.', ':', '^', '\x60'].contains c
  else caseIgnorableTable.holds c.toNat

/-- Does it attach to the character before it? -/
def isGraphemeExtend (c : Char) : Bool :=
  if c.toNat < 0x80 then false else graphemeExtendTable.holds c.toNat

/-- Is it shown as itself: neither a control or a format character, nor a separator other than
the space, nor unassigned? -/
def isPrintable (c : Char) : Bool :=
  if c.toNat < 0x80 then 0x20 ≤ c.toNat && c.toNat < 0x7F
  else match category c.toNat with
    | .Cc | .Cf | .Cs | .Co | .Cn | .Zl | .Zp | .Zs => false
    | _ => true

end Unicode
end GameJam
