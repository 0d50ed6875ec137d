import GameJam.Proofs.Filter.RowMeaning

/-!
# Where a path leads

A path is followed name by name, and each name selects the first property that has it.  This file
says where a path may lead without following it: `Leads` holds of the names on any way down the
tree, whichever of several siblings of one name it takes.  What is resolved always lies on such a
way; and where no two siblings share a name, and none is without one, every way is the one that is
resolved.

## What is here

* `Property.Leads` — the names on the way from some properties to one of those in their trees.
* `leads_of_resolve?`, `leads_of_compile?` — **what a path resolves to lies on a way of that
  name**, and so does what a row is compiled for.
* `Property.Selectable` — names that tell siblings apart, at every level.
* `resolve?_of_leads`, `compile?_of_leads` — **there every way is resolved**, and names that are
  left over at its end change nothing.
-/

set_option autoImplicit false

namespace GameJam

/-- Names lead from some properties to one of them, or to one inside of them: each is the name of
the next property on the way. -/
inductive Property.Leads : List Property → List String → Property → Prop
  | here {siblings : List Property} {property : Property} :
    property ∈ siblings → Leads siblings [property.name] property
  | inside {siblings : List Property} {parent property : Property} {names : List String} :
    parent ∈ siblings → Leads parent.children names property →
      Leads siblings (parent.name :: names) property

open Property (Leads)

theorem Property.Leads.exists_cons {siblings : List Property} {names : List String}
    {property : Property} (h : Leads siblings names property) :
    ∃ first ∈ siblings, ∃ below, names = first.name :: below := by
  cases h with
  | here hmem => exact ⟨property, hmem, [], rfl⟩
  | inside hmem _ => exact ⟨_, hmem, _, rfl⟩

theorem mem_of_named? {properties : List Property} {name : String} {property : Property}
    (h : Property.named? properties name = some property) :
    property ∈ properties ∧ property.name = name :=
  ⟨List.mem_of_find?_eq_some h, by simpa using List.find?_some h⟩

/-! ## What is resolved lies on a way -/

/-- The names that were followed lead to the property that was reached. -/
theorem leads_follow (names : List String) :
    ∀ {siblings : List Property} {property : Property}, property ∈ siblings →
      Leads siblings (property.name :: names.take (property.follow names).2)
        (property.follow names).1 := by
  induction names with
  | nil => exact fun hmem => .here hmem
  | cons name rest ih =>
    intro siblings property hmem
    rw [Property.follow]
    split
    · exact .here hmem
    · split
      · exact .here hmem
      · rename_i child hchild
        obtain ⟨hinside, rfl⟩ := mem_of_named? hchild
        exact .inside hmem (ih hinside)

/-- **What a path resolves to lies on a way of the names that were taken.** -/
theorem leads_of_resolve? {schema : Schema} {path : List String} {property : Property}
    {taken : Nat} (h : schema.resolve? path = some (property, taken)) :
    Leads schema (path.take taken) property := by
  cases path with
  | nil => cases h
  | cons name rest =>
    obtain ⟨first, hfirst, hreached⟩ := Option.map_eq_some_iff.1 h
    obtain ⟨hmem, rfl⟩ := mem_of_named? hfirst
    cases hreached
    exact leads_follow rest hmem

/-- A clause is that of a testable property, for the names that lead there. -/
theorem leads_of_compile? {schema : Schema} {entry : Entry} {clause : Clause}
    (h : schema.compile? entry = some clause) :
    ∃ property operator value, Leads schema clause.field property ∧
      property.leafClause? clause.field operator value = some clause := by
  simp only [Schema.compile?, Option.bind_eq_bind, Option.bind_eq_some_iff] at h
  obtain ⟨-, -, ⟨property, taken⟩, hresolve, operator, -, value, -, hclause⟩ := h
  have hfield := field_of_leafClause? hclause
  refine ⟨property, operator, value, ?_, ?_⟩
  · rw [hfield]
    exact leads_of_resolve? hresolve
  · rwa [hfield]

/-- A row has the clause of the property that its path resolves to. -/
theorem compile?_of_resolve? {schema : Schema} {entry : Entry} {name : String}
    (hname : entry.propertyName = some name) {property : Property} {taken : Nat}
    (hresolve : schema.resolve? entry.path = some (property, taken)) :
    schema.compile? entry = property.rowClause? (entry.path.take taken) entry := by
  simp [Schema.compile?, hname, hresolve, Property.rowClause?]

/-- A row whose path is a single name has the clause of the property that the name selects. -/
theorem compile?_of_named? {schema : Schema} {name : String} (hname : name ≠ "")
    {property : Property} (hnamed : Property.named? schema name = some property)
    (operator : Operator) (value : EntryValue) :
    schema.compile? ⟨[name], some operator.symbol, some value⟩
      = property.leafClause? [name] operator value := by
  have hresolve : schema.resolve? [name] = some (property, 1) := by
    rw [Schema.resolve?, hnamed]
    rfl
  rw [compile?_of_resolve? ((propertyName_of_path rfl).trans (if_neg hname)) hresolve]
  simp [Property.rowClause?, Operator.ofSymbol?_symbol]

/-! ## Names that tell siblings apart -/

/-- At every level no property is without a name and no two siblings share one. -/
inductive Property.Selectable : List Property → Prop
  | level {siblings : List Property} :
    (∀ property ∈ siblings, property.name ≠ "") → (siblings.map Property.name).Nodup →
      (∀ property ∈ siblings, Selectable property.children) → Selectable siblings

open Property (Selectable)

namespace Property.Selectable

variable {siblings : List Property}

theorem name_ne_empty (h : Selectable siblings) {property : Property}
    (hmem : property ∈ siblings) : property.name ≠ "" := by
  obtain ⟨hnames, -, -⟩ := h
  exact hnames property hmem

theorem nodup (h : Selectable siblings) : (siblings.map Property.name).Nodup := by
  obtain ⟨-, hnodup, -⟩ := h
  exact hnodup

theorem children (h : Selectable siblings) {property : Property} (hmem : property ∈ siblings) :
    Selectable property.children := by
  obtain ⟨-, -, hchildren⟩ := h
  exact hchildren property hmem

/-- The name of a sibling selects that sibling. -/
theorem named?_name (h : Selectable siblings) {property : Property} (hmem : property ∈ siblings) :
    Property.named? siblings property.name = some property := by
  have hnodup := h.nodup
  clear h
  induction siblings with
  | nil => cases hmem
  | cons first rest ih =>
    rw [List.map_cons, List.nodup_cons] at hnodup
    rcases List.mem_cons.1 hmem with rfl | hrest
    · simp [Property.named?]
    · have hname : first.name ≠ property.name := by
        intro heq
        exact hnodup.1 (heq ▸ List.mem_map_of_mem hrest)
      rw [← ih hrest hnodup.2]
      simp [Property.named?, hname]

end Property.Selectable

/-! ## Every way is resolved -/

/-- Below a property the names are followed as they are resolved among its children. -/
theorem follow_cons {name : String} (hname : name ≠ "") (property : Property)
    (rest : List String) : property.follow (name :: rest)
      = (Schema.resolve? property.children (name :: rest)).getD (property, 0) := by
  rw [Property.follow, if_neg hname, Schema.resolve?, Property.child?]
  cases Property.named? property.children name <;> rfl

/-- **A way is resolved to the property at its end**, and all of its names are taken.  Names that
follow them are not, unless the property holds further ones. -/
theorem resolve?_of_leads {siblings : List Property} {names : List String} {property : Property}
    (h : Leads siblings names property) (hselectable : Selectable siblings) {below : List String}
    (hbelow : property.isNested = true → below = []) :
    Schema.resolve? siblings (names ++ below) = some (property, names.length) := by
  induction h with
  | @here siblings property hmem =>
    have hend : property.follow below = (property, 0) := by
      cases hnested : property.isNested with
      | false => exact follow_of_not_nested hnested below
      | true =>
        rw [hbelow hnested]
        rfl
    show Schema.resolve? siblings (property.name :: below) = some (property, 1)
    rw [Schema.resolve?, hselectable.named?_name hmem, Option.map_some, hend]
  | @inside siblings parent property names hmem hleads ih =>
    have hchildren := hselectable.children hmem
    obtain ⟨first, hfirst, rest, rfl⟩ := hleads.exists_cons
    have hfollow : parent.follow (first.name :: rest ++ below)
        = (property, (first.name :: rest).length) := by
      rw [List.cons_append, follow_cons (hchildren.name_ne_empty hfirst), ← List.cons_append,
        ih hchildren hbelow]
      rfl
    show Schema.resolve? siblings (parent.name :: (first.name :: rest ++ below)) = _
    rw [Schema.resolve?, hselectable.named?_name hmem, Option.map_some, hfollow]
    rfl

/-- A row whose path is a way is compiled for the property at its end. -/
theorem compile?_of_leads {schema : Schema} {names : List String} {property : Property}
    (h : Leads schema names property) (hselectable : Selectable schema) {entry : Entry}
    {below : List String} (hpath : entry.path = names ++ below)
    (hbelow : property.isNested = true → below = []) :
    schema.compile? entry = property.rowClause? names entry := by
  have hresolve : schema.resolve? entry.path = some (property, names.length) := by
    rw [hpath]
    exact resolve?_of_leads h hselectable hbelow
  have htaken : entry.path.take names.length = names := by
    rw [hpath, List.take_left]
  have hname : ∃ name, entry.propertyName = some name := by
    obtain ⟨first, hfirst, rest, rfl⟩ := h.exists_cons
    exact ⟨first.name, by
      rw [propertyName_of_path hpath, if_neg (hselectable.name_ne_empty hfirst)]⟩
  obtain ⟨name, hname⟩ := hname
  rw [compile?_of_resolve? hname hresolve, htaken]

end GameJam
