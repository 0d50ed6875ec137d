import GameJam.Proofs.Filter.Descent
import GameJam.Proofs.Results.RankFilter

/-!
# Fields that are served

The schema names the fields of a game, and a game serves them under their names; nothing but the
spelling ties the two together.  A name that only one of them has would not fail: a test of a text
or of labels would read a missing value, and a comparison would let nothing pass.  This file says
that there is no such name.  Every property that the schema leads to is served, with a value of the
kind that its tests read, and the values that are missing are missing in the game.

## What is here

* `Game.ServesText`, `Game.ServesNumber`, `Game.ServesLabels` — what stands at a path in a game, for
  each kind of test.
* `Property.ServedBy`, `Clause.ServedBy` — the same for a property at a path, and for a clause.
* `servedBy_of_leads` — **what the schema leads to is served**, by any game.
* `servedBy_of_compiled` — **and so is what a clause reads**, whichever row it is compiled from.
-/

set_option autoImplicit false

namespace GameJam

open Property (Leads)

/-! ## What stands at a path -/

namespace Game

variable (game : Game) (path : List String)

/-- The game serves a text. -/
def ServesText : Prop :=
  ∃ s, game.serve path = .text s

/-- The game serves a number, or nothing; and nothing just for the numbers of a rank in a category
in which it has none. -/
def ServesNumber : Prop :=
  ((∃ n, game.serve path = .number n) ∨ game.serve path = .missing) ∧
  (game.serve path = .missing ↔ ∃ category, ∃ field : RankField,
    path = ["ranks", category, field.name] ∧ ∀ rank ∈ game.ranks, rank.category ≠ category)

/-- The game serves the label of its cover, and nothing just without a cover. -/
def ServesCover : Prop :=
  (game.serve path = .label "image" ∨ game.serve path = .label "gif" ∨
    game.serve path = .missing) ∧
  (game.serve path = .missing ↔ game.coverUrl = none ∨ game.coverUrl = some "")

/-- The game serves a list of its labels, and nothing just if the list is absent. -/
def ServesList (field : LabelField) : Prop :=
  (∀ labels, game.labels? field = some labels → game.serve path = .labels labels) ∧
  (game.labels? field = none → game.serve path = .missing)

/-- The game serves the label of its cover under that name, or the labels of a list under the name
of the list. -/
def ServesLabels : Prop :=
  (path = ["coverUrl"] ∧ game.ServesCover path) ∨
  ∃ field : LabelField, path = [field.name] ∧ game.ServesList path field

end Game

/-- What stands at the path in the game is what the tests of the property read. -/
def Property.ServedBy (game : Game) (path : List String) : Property → Prop
  | .text .. => game.ServesText path
  | .numeric .. => game.ServesNumber path
  | .enumerated .. => game.ServesLabels path
  | .nested .. => True

/-- What stands at the field of the clause in the game is what the test of the clause reads. -/
def Clause.ServedBy (game : Game) (clause : Clause) : Prop :=
  match clause.test with
  | .text .. | .pattern .. => game.ServesText clause.field
  | .numeric .. => game.ServesNumber clause.field
  | .labels .. => game.ServesLabels clause.field

/-- A property makes clauses with tests of its own kind only. -/
theorem servedBy_of_leafClause? {property : Property} {path : List String} {operator : Operator}
    {value : EntryValue} {clause : Clause} {game : Game}
    (hclause : property.leafClause? path operator value = some clause)
    (hserved : property.ServedBy game path) : clause.ServedBy game := by
  unfold Property.leafClause? at hclause
  split at hclause
  · cases hclause
  · cases property with
    | text name label =>
      simp only [Option.bind_eq_bind, Option.bind_eq_some_iff] at hclause
      obtain ⟨needle, -, hclause⟩ := hclause
      split at hclause
      · cases hclause
      · unfold Clause.text? at hclause
        split at hclause
        · obtain ⟨p, -, rfl⟩ := Option.map_eq_some_iff.1 hclause
          exact hserved
        · cases hclause
          exact hserved
    | numeric name label input =>
      obtain ⟨x, -, rfl⟩ := Option.map_eq_some_iff.1 hclause
      exact hserved
    | enumerated name label values absentLabel =>
      cases value with
      | text s =>
        simp only [Option.ite_none_left_eq_some, Option.some.injEq] at hclause
        obtain ⟨-, rfl⟩ := hclause
        exact hserved
      | number x => cases hclause
      | list items => cases hclause
    | nested name label children => cases hclause

/-! ## The fields of a game -/

/-- Only a cover without an address is missing. -/
theorem Cover.ofUrl?_eq_missing_iff (url : Option String) :
    ofUrl? url = .missing ↔ url = none ∨ url = some "" := by
  cases url with
  | none => simp [ofUrl?]
  | some url =>
    simp only [ofUrl?]
    split_ifs <;> simp_all

namespace Game

variable (game : Game)

/-- A number that is served under a name of its own is never missing. -/
theorem servesNumber_of_serveField {name : String} {n : Number}
    (h : game.serveField name = .number n) : game.ServesNumber [name] := by
  have hserve : game.serve [name] = .number n := h
  refine ⟨.inl ⟨n, hserve⟩, iff_of_false ?_ ?_⟩
  · simp [hserve]
  · rintro ⟨category, field, hpath, -⟩
    cases hpath

theorem servesNumber_rank (category : String) (field : RankField) :
    game.ServesNumber ["ranks", category, field.name] := by
  rw [ServesNumber, game.serve_rank]
  cases hrank : game.rank? category with
  | none =>
    exact ⟨.inr rfl, iff_of_true rfl ⟨category, field, rfl, rank?_eq_none_iff.1 hrank⟩⟩
  | some rank =>
    refine ⟨.inl ⟨_, rfl⟩, iff_of_false FieldValue.noConfusion ?_⟩
    rintro ⟨other, _, hpath, hother⟩
    obtain rfl : category = other := by
      simp only [List.cons.injEq] at hpath
      exact hpath.2.1
    rw [rank?_eq_none_iff.2 hother] at hrank
    cases hrank

theorem servesCover : game.ServesCover ["coverUrl"] := by
  have hserve : game.serve ["coverUrl"] = (Cover.ofUrl? game.coverUrl).serve := rfl
  have hmissing := Cover.ofUrl?_eq_missing_iff game.coverUrl
  rw [ServesCover, hserve]
  cases hcover : Cover.ofUrl? game.coverUrl <;>
    simp_all [Cover.serve, Cover.name]

theorem servesList (field : LabelField) : game.ServesList [field.name] field := by
  have hserve : game.serve [field.name] = game.serveLabels field := by
    cases field <;> rfl
  rw [ServesList, hserve, serveLabels]
  cases game.labels? field <;> simp

end Game

/-! ## What the schema leads to -/

section Leads

variable {games : List Game} {source : CategorySource} {names : List String}
  {property : Property}

/-- A property of a rank has the name under which a rank serves its number. -/
theorem exists_of_leads_rankProperties (h : Leads rankProperties names property) :
    ∃ field : RankField, names = [field.name] ∧ property = field.property := by
  have hfields : ∀ {property : Property}, property ∈ rankProperties →
      ∃ field : RankField, property = field.property := by
    intro property hmem
    simp only [rankProperties, List.mem_cons, List.not_mem_nil, or_false] at hmem
    rcases hmem with rfl | rfl | rfl
    · exact ⟨.place, rfl⟩
    · exact ⟨.score, rfl⟩
    · exact ⟨.rawScore, rfl⟩
  cases h with
  | here hmem =>
    obtain ⟨field, rfl⟩ := hfields hmem
    exact ⟨field, by cases field <;> rfl, rfl⟩
  | inside hmem hbelow =>
    obtain ⟨field, rfl⟩ := hfields hmem
    have hchildren : field.property.children = [] := by cases field <;> rfl
    rw [hchildren] at hbelow
    obtain ⟨first, hfirst, -⟩ := hbelow.exists_cons
    cases hfirst

/-- Among the ranks, the names are a category and a number of a rank, or a category only. -/
theorem servedBy_of_leads_ranks {categories : List String} (game : Game)
    (h : Leads (categories.map categoryProperty) names property) :
    property.ServedBy game ("ranks" :: names) := by
  cases h with
  | here hmem =>
    obtain ⟨category, -, rfl⟩ := List.mem_map.1 hmem
    exact trivial
  | inside hmem hbelow =>
    obtain ⟨category, -, rfl⟩ := List.mem_map.1 hmem
    obtain ⟨field, rfl, rfl⟩ := exists_of_leads_rankProperties hbelow
    have hnumber := game.servesNumber_rank category field
    cases field <;> exact hnumber

/-- **What the schema leads to is served** by every game, also one that the schema was not read
from. -/
theorem servedBy_of_leads (game : Game) (h : Leads (jamSchema games source) names property) :
    property.ServedBy game names := by
  have hproperties : ∀ {property : Property}, property ∈ jamSchema games source →
      (property.ServedBy game [property.name] ∧ property.children = []) ∨
        property = ranksProperty games source := by
    intro property hmem
    rcases List.mem_append.1 hmem with hown | hlabels
    · simp only [List.mem_cons, List.not_mem_nil, or_false] at hown
      rcases hown with rfl | rfl | rfl | rfl | rfl
      · exact .inl ⟨⟨game.name, rfl⟩, rfl⟩
      · exact .inr rfl
      · exact .inl ⟨.inl ⟨rfl, game.servesCover⟩, rfl⟩
      · exact .inl ⟨game.servesNumber_of_serveField rfl, rfl⟩
      · exact .inl ⟨game.servesNumber_of_serveField rfl, rfl⟩
    · obtain ⟨field, -, rfl⟩ := List.mem_map.1 hlabels
      exact .inl ⟨.inr ⟨field, rfl, game.servesList field⟩, rfl⟩
  cases h with
  | here hmem =>
    obtain ⟨hserved, -⟩ | rfl := hproperties hmem
    · exact hserved
    · exact trivial
  | inside hmem hbelow =>
    obtain ⟨-, hchildren⟩ | rfl := hproperties hmem
    · rw [hchildren] at hbelow
      obtain ⟨first, hfirst, -⟩ := hbelow.exists_cons
      cases hfirst
    · exact servedBy_of_leads_ranks game hbelow

end Leads

/-! ## What a clause reads -/

/-- **Every clause reads what games serve**: whatever row it is compiled from, and whichever games
the schema was read from, any game serves at its field what its test reads. -/
theorem servedBy_of_compiled (games : List Game) (source : CategorySource) {entry : Entry}
    {clause : Clause} (h : (jamSchema games source).compile? entry = some clause) (game : Game) :
    clause.ServedBy game := by
  obtain ⟨property, operator, value, hleads, hclause⟩ := leads_of_compile? h
  exact servedBy_of_leafClause? hclause (servedBy_of_leads game hleads)

/-- A game without ranks serves nothing for the place that another game has. -/
theorem servedBy_of_compiled_without_place :
    let placed := Game.ofRanks [⟨"Fun", 1, .ofInt 4, .ofInt 4⟩]
    ∃ clause, (jamSchema [placed] .firstRecord).compile?
        (rankEntry "Fun" .place .ne (.number (.ofInt 2))) = some clause ∧
      clause.ServedBy (Game.ofRanks []) := by
  intro placed
  have hclause : (jamSchema [placed] .firstRecord).compile?
      (rankEntry "Fun" .place .ne (.number (.ofInt 2)))
        = some (.numeric ["ranks", "Fun", "place"] .ne (.real (.ofInt 2))) := by
    decide +kernel
  exact ⟨_, hclause, servedBy_of_compiled [placed] .firstRecord hclause (Game.ofRanks [])⟩

end GameJam
