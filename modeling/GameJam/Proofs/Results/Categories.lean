import GameJam.Proofs.Filter.Extension
import GameJam.Proofs.Results.RankFilter

/-!
# Which categories are known

The schema of one list of games may be used on other games, and the same games have a larger or a
smaller schema if their categories are read from all of them or from the first one.  Two schemas
differ in their categories and in the labels that they offer, and no clause depends on those labels.
So a schema that knows all categories of another one extends it, and knowing more categories only
adds constraints.

## What is here

* `jamSchema_extendedBy` — a schema extends another one if it knows its categories.
* `rankCategories_prefix_allRecords`, `rankCategories_prefix_of_source` — further games add
  categories behind those that are known.
* `kept_of_more_categories` — **more categories only add constraints**.
-/

set_option autoImplicit false

namespace GameJam

open Property (ListExtendedBy)

/-! ## Schemas of games -/

theorem categoryProperty_extendedBy (category : String) :
    (categoryProperty category).ExtendedBy (categoryProperty category) :=
  show ListExtendedBy rankProperties rankProperties from
    ⟨⟨_, rfl, trivial⟩, ⟨_, rfl, trivial⟩, ⟨_, rfl, trivial⟩, trivial⟩

theorem categories_extendedBy {categories others : List String} (h : categories ⊆ others) :
    ListExtendedBy (categories.map categoryProperty) (others.map categoryProperty) := by
  rw [Property.listExtendedBy_iff, List.forall_mem_map]
  intro category hcategory
  refine ⟨categoryProperty category, ?_, categoryProperty_extendedBy category⟩
  exact (named?_categories others category).trans (if_pos (h hcategory))

/-- **A schema extends another one if it knows its categories**, whatever labels they offer. -/
theorem jamSchema_extendedBy {games others : List Game} {source target : CategorySource}
    (h : rankCategories games source ⊆ rankCategories others target) :
    ListExtendedBy (jamSchema games source) (jamSchema others target) := by
  have hranks : (ranksProperty games source).ExtendedBy (ranksProperty others target) :=
    categories_extendedBy h
  rw [Property.listExtendedBy_iff]
  intro property hmem
  rcases List.mem_append.1 hmem with hown | hlabels
  · simp only [List.mem_cons, List.not_mem_nil, or_false] at hown
    rcases hown with rfl | rfl | rfl | rfl | rfl
    · exact ⟨_, rfl, trivial⟩
    · exact ⟨ranksProperty others target, rfl, hranks⟩
    · exact ⟨_, rfl, rfl⟩
    · exact ⟨_, rfl, trivial⟩
    · exact ⟨_, rfl, trivial⟩
  · obtain ⟨field, -, rfl⟩ := List.mem_map.1 hlabels
    exact ⟨labelProperty others field, by cases field <;> rfl, rfl⟩

/-! ## Categories of games -/

/-- Further games add categories behind those that are known. -/
theorem rankCategories_prefix_append (games further : List Game) :
    rankCategories games .allRecords <+: rankCategories (games ++ further) .allRecords := by
  simp only [rankCategories, CategorySource.games, List.flatMap_append, List.eraseDups_append]
  exact List.prefix_append _ _

/-- The categories of the first game are the first ones of all games. -/
theorem rankCategories_prefix_allRecords (games : List Game) :
    rankCategories games .firstRecord <+: rankCategories games .allRecords := by
  have hfirst := rankCategories_prefix_append (games.take 1) (games.drop 1)
  rwa [List.take_append_drop] at hfirst

/-- All games and further ones have the categories that are read from the games in either way. -/
theorem rankCategories_prefix_of_source (games further : List Game) (source : CategorySource) :
    rankCategories games source <+: rankCategories (games ++ further) .allRecords := by
  cases source with
  | firstRecord =>
    exact (rankCategories_prefix_allRecords games).trans
      (rankCategories_prefix_append games further)
  | allRecords => exact rankCategories_prefix_append games further

/-- **More categories only add constraints.**  A schema that knows the categories of another one has
every clause of it, and keeps no game that the other one does not keep, whichever games they are
read from and applied to.  The categories of all games begin with those of the first one, and those
of more games with those of fewer. -/
theorem kept_of_more_categories :
    (∀ (games others : List Game) (source target : CategorySource),
      rankCategories games source ⊆ rankCategories others target →
        (∀ entry clause, (jamSchema games source).compile? entry = some clause →
          (jamSchema others target).compile? entry = some clause) ∧
        (∀ entries any, ((jamSchema others target).kept entries any).Sublist
          ((jamSchema games source).kept entries any))) ∧
    (∀ games, rankCategories games .firstRecord <+: rankCategories games .allRecords) ∧
    (∀ games further source,
      rankCategories games source <+: rankCategories (games ++ further) .allRecords) := by
  refine ⟨?_, rankCategories_prefix_allRecords, rankCategories_prefix_of_source⟩
  intro games others source target hcategories
  have hextended := jamSchema_extendedBy hcategories
  exact ⟨fun _ _ => Schema.compile?_of_extendedBy hextended,
    Schema.kept_sublist_of_extendedBy hextended⟩

/-- Where the second game alone has a category, a row for it keeps both games if categories are read
from the first one, and one of them if they are read from both. -/
theorem kept_of_more_categories_second_game :
    let games := [Game.ofRanks [⟨"Fun", 2, .ofInt 4, .ofInt 4⟩],
      Game.ofRanks [⟨"Art", 1, .ofInt 4, .ofInt 4⟩]]
    let row := rankEntry "Art" .place .eq (.text "1")
    (jamSchema games .firstRecord).kept [row] games = games ∧
    (jamSchema games .allRecords).kept [row] games = games.drop 1 ∧
    ((jamSchema games .allRecords).kept [row] games).Sublist
      ((jamSchema games .firstRecord).kept [row] games) := by
  intro games row
  obtain ⟨hadded, hfirst, -⟩ := kept_of_more_categories
  exact ⟨by decide +kernel, by decide +kernel,
    (hadded games games .firstRecord .allRecords (hfirst games).subset).2 [row] games⟩

end GameJam
