import GameJam.Filter.Outline
import GameJam.Proofs.Filter.Descent
import Mathlib.Data.List.Forall2

/-!
# The outline of a schema selects its properties

A selector shows the outline of a schema, and what is picked there becomes the path and the operator
of a row.  Three things then have to agree that do not know of each other: the outline, which goes
through the whole tree; the way along a path, which looks for one name at each level; and the
operators that a property offers.

A property is known by its place in the tree and not by what it holds, since equal properties stand
at several places.  A place is an *address*, the positions on the way down.  The order of addresses
is that of lists, in which the place of a property comes right before those inside of it, and so
the outline goes through the addresses from the least to the greatest.

## What is here

* `Property.forestInduction` — induction on a list of properties, into each and along the list.
* `Property.lineage?` — the properties on the way to an address.
* `Property.listAddresses`, with `mem_listAddresses_zero_iff` and `pairwise_listAddresses` — every
  address, in increasing order; `Schema.Preorder` says that a list of addresses is that.
* `forall₂_listOutline` — **the outline has one row for each address**, with the names on the way.
* `OutlineRow.Selects` — the path of a row and its operators are what a row of a filter needs;
  `selects_of_leads` shows it for a property that names lead to.
* `outline_selects` — both put together.
-/

set_option autoImplicit false

namespace GameJam

open Property (Leads Selectable)

/-! ## Places in a tree -/

namespace Property

/-- What holds of a list of properties if it holds of the children of its first one and of the
others holds of every list. -/
@[elab_as_elim]
theorem forestInduction {motive : List Property → Prop} (nil : motive [])
    (cons : ∀ property rest, motive property.children → motive rest → motive (property :: rest)) :
    (properties : List Property) → motive properties
  | [] => nil
  | .nested _ _ children :: rest =>
    cons _ rest (forestInduction nil cons children) (forestInduction nil cons rest)
  | .text .. :: rest => cons _ rest nil (forestInduction nil cons rest)
  | .numeric .. :: rest => cons _ rest nil (forestInduction nil cons rest)
  | .enumerated .. :: rest => cons _ rest nil (forestInduction nil cons rest)

/-- The properties on the way to an address: each position counts among the children of the
property before it. -/
def lineage? (properties : List Property) : List Nat → Option (List Property)
  | [] => some []
  | position :: below => do
    let property ← properties[position]?
    let descendants ← lineage? property.children below
    return property :: descendants

mutual

/-- The addresses at and inside of a property, seen from it. -/
def addresses : Property → List (List Nat)
  | .nested _ _ children => [] :: listAddresses 0 children
  | .text .. => [[]]
  | .numeric .. => [[]]
  | .enumerated .. => [[]]

/-- The addresses of properties the first of which stands at a position. -/
def listAddresses (position : Nat) : List Property → List (List Nat)
  | [] => []
  | property :: rest =>
    property.addresses.map (position :: ·) ++ listAddresses (position + 1) rest

end

theorem addresses_eq (property : Property) :
    property.addresses = [] :: listAddresses 0 property.children := by
  cases property <;> simp [addresses, children, listAddresses]

theorem outline_eq (parents : List String) (property : Property) :
    property.outline parents = ⟨parents ++ [property.name], property⟩
      :: listOutline (parents ++ [property.name]) property.children := by
  cases property <;> simp [outline, children, listOutline, name]

theorem lineage?_cons_eq_some_iff {properties line : List Property} {position : Nat}
    {below : List Nat} :
    lineage? properties (position :: below) = some line ↔
      ∃ property descendants, properties[position]? = some property ∧
        lineage? property.children below = some descendants ∧ line = property :: descendants := by
  simp only [lineage?, Option.bind_eq_bind, Option.bind_eq_some_iff, Option.pure_def,
    Option.some.injEq]
  constructor
  · rintro ⟨property, hproperty, descendants, hbelow, rfl⟩
    exact ⟨property, descendants, hproperty, hbelow, rfl⟩
  · rintro ⟨property, descendants, hproperty, hbelow, rfl⟩
    exact ⟨property, hproperty, descendants, hbelow, rfl⟩

/-- The names on the way to an address lead to the property there. -/
theorem leads_of_lineage? {address : List Nat} : ∀ {siblings line : List Property}
    {property : Property}, lineage? siblings address = some line →
      line.getLast? = some property → Leads siblings (line.map name) property := by
  induction address with
  | nil =>
    intro siblings line property hline hlast
    obtain rfl := Option.some.inj hline
    cases hlast
  | cons position below ih =>
    intro siblings line property hline hlast
    obtain ⟨first, descendants, hfirst, hbelow, rfl⟩ := lineage?_cons_eq_some_iff.1 hline
    have hmem := List.mem_of_getElem? hfirst
    cases descendants with
    | nil =>
      obtain rfl : first = property := by simpa using hlast
      exact .here hmem
    | cons next others =>
      rw [List.getLast?_cons_cons] at hlast
      exact .inside hmem (ih hbelow hlast)

/-- Where names tell siblings apart, the names on the way tell addresses apart. -/
theorem address_eq_of_names_eq {address : List Nat} : ∀ {other : List Nat}
    {siblings line otherLine : List Property}, Selectable siblings →
      lineage? siblings address = some line → lineage? siblings other = some otherLine →
      otherLine.map name = line.map name → other = address := by
  induction address with
  | nil =>
    intro other siblings line otherLine _ hline hother hnames
    obtain rfl := Option.some.inj hline
    cases other with
    | nil => rfl
    | cons position below =>
      obtain ⟨_, _, -, -, rfl⟩ := lineage?_cons_eq_some_iff.1 hother
      cases hnames
  | cons position below ih =>
    intro other siblings line otherLine hselectable hline hother hnames
    obtain ⟨property, descendants, hproperty, hbelow, rfl⟩ := lineage?_cons_eq_some_iff.1 hline
    cases other with
    | nil =>
      obtain rfl := Option.some.inj hother
      cases hnames
    | cons otherPosition otherBelow =>
      obtain ⟨otherProperty, others, hotherProperty, hotherBelow, rfl⟩ :=
        lineage?_cons_eq_some_iff.1 hother
      rw [List.map_cons, List.map_cons, List.cons.injEq] at hnames
      have hsame : otherProperty = property := by
        have hnamed := hselectable.named?_name (List.mem_of_getElem? hotherProperty)
        rw [hnames.1, hselectable.named?_name (List.mem_of_getElem? hproperty)] at hnamed
        exact (Option.some.inj hnamed).symm
      have hposition : otherPosition = position := by
        have hlt := (List.getElem?_eq_some_iff.1 hotherProperty).1
        rw [hsame, ← hproperty] at hotherProperty
        exact (List.getElem?_inj hlt hselectable.nodup.of_map).1 hotherProperty
      rw [hsame] at hotherBelow
      rw [hposition, ih (hselectable.children (List.mem_of_getElem? hproperty)) hbelow hotherBelow
        hnames.2]

/-! ## Every address, in order -/

theorem mem_listAddresses_iff {properties : List Property} {address : List Nat} :
    ∀ {start : Nat}, address ∈ listAddresses start properties ↔
      ∃ position below property, address = (start + position) :: below ∧
        properties[position]? = some property ∧ below ∈ property.addresses := by
  induction properties with
  | nil => simp [listAddresses]
  | cons first rest ih =>
    intro start
    rw [listAddresses, List.mem_append, List.mem_map, ih]
    constructor
    · rintro (⟨below, hbelow, rfl⟩ | ⟨position, below, property, rfl, hproperty, hbelow⟩)
      · exact ⟨0, below, first, rfl, rfl, hbelow⟩
      · exact ⟨position + 1, below, property, by rw [Nat.add_right_comm, Nat.add_assoc], hproperty,
          hbelow⟩
    · rintro ⟨_ | position, below, property, rfl, hproperty, hbelow⟩
      · obtain rfl := Option.some.inj hproperty
        exact Or.inl ⟨below, hbelow, rfl⟩
      · exact Or.inr ⟨position, below, property, by rw [Nat.add_right_comm, Nat.add_assoc],
          hproperty, hbelow⟩

/-- **The addresses are those that have a property.** -/
theorem mem_listAddresses_zero_iff {address : List Nat} : ∀ {properties : List Property},
    address ∈ listAddresses 0 properties ↔
      address ≠ [] ∧ (lineage? properties address).isSome = true := by
  induction address with
  | nil => simp [mem_listAddresses_iff]
  | cons position below ih =>
    intro properties
    have hbelow : ∀ property : Property, below ∈ property.addresses ↔
        (lineage? property.children below).isSome = true := by
      intro property
      rw [addresses_eq, List.mem_cons, ih]
      rcases below with _ | ⟨next, others⟩
      · simp [lineage?]
      · simp
    simp only [mem_listAddresses_iff, Nat.zero_add, List.cons.injEq,
      Option.isSome_iff_exists, lineage?_cons_eq_some_iff]
    constructor
    · rintro ⟨_, _, property, ⟨rfl, rfl⟩, hproperty, hmem⟩
      obtain ⟨descendants, hdescendants⟩ := Option.isSome_iff_exists.1 ((hbelow property).1 hmem)
      exact ⟨by simp, _, property, descendants, hproperty, hdescendants, rfl⟩
    · rintro ⟨-, _, property, descendants, hproperty, hdescendants, rfl⟩
      have hmem := (hbelow property).2 (Option.isSome_iff_exists.2 ⟨descendants, hdescendants⟩)
      exact ⟨position, below, property, ⟨rfl, rfl⟩, hproperty, hmem⟩

/-- **The addresses increase**: what is inside of a property comes right behind it, and what stands
behind it comes later. -/
theorem pairwise_listAddresses (properties : List Property) :
    ∀ start, (listAddresses start properties).Pairwise (· < ·) := by
  induction properties using forestInduction with
  | nil => exact fun _ => List.Pairwise.nil
  | cons property rest hchildren hrest =>
    intro start
    rw [listAddresses, List.pairwise_append]
    refine ⟨?_, hrest (start + 1), ?_⟩
    · rw [List.pairwise_map, addresses_eq, List.pairwise_cons]
      refine ⟨fun below hbelow => ?_, (hchildren 0).imp fun hlt => ?_⟩
      · obtain ⟨position, others, -, rfl, -⟩ := mem_listAddresses_iff.1 hbelow
        exact List.cons_lt_cons_iff.2 (Or.inr ⟨rfl, List.nil_lt_cons _ _⟩)
      · exact List.cons_lt_cons_iff.2 (Or.inr ⟨rfl, hlt⟩)
    · intro a ha b hb
      obtain ⟨below, -, rfl⟩ := List.mem_map.1 ha
      obtain ⟨position, others, -, rfl, -⟩ := mem_listAddresses_iff.1 hb
      exact List.cons_lt_cons_iff.2 (Or.inl (by omega))

end Property

/-- These are the addresses of all properties of a schema, in increasing order. -/
structure Schema.Preorder (schema : Schema) (addresses : List (List Nat)) : Prop where
  increasing : addresses.Pairwise (· < ·)
  complete : ∀ address, address ∈ addresses ↔
    address ≠ [] ∧ (Property.lineage? schema address).isSome = true

theorem preorder_listAddresses (schema : Schema) :
    schema.Preorder (Property.listAddresses 0 schema) :=
  ⟨Property.pairwise_listAddresses schema 0, fun _ => Property.mem_listAddresses_zero_iff⟩

/-! ## The rows of the outline -/

namespace OutlineRow

/-- The row shows the last one of these properties, under the names of all of them. -/
structure Shows (row : OutlineRow) (line : List Property) : Prop where
  path : row.path = line.map Property.name
  property : line.getLast? = some row.property

/-- The row shows the property at an address, and its path is that of no other one. -/
structure StandsAt (row : OutlineRow) (schema : Schema) (address : List Nat) : Prop where
  /-- It is as deep as the property has ancestors, and its path is their names and its own. -/
  lineage : ∃ ancestors, Property.lineage? schema address = some (ancestors ++ [row.property]) ∧
    row.depth = ancestors.length ∧
    row.path = ancestors.map Property.name ++ [row.property.name]
  unique : ∀ other line, Property.lineage? schema other = some line →
    line.map Property.name = row.path → other = address

theorem Shows.standsAt {row : OutlineRow} {line : List Property} (h : row.Shows line)
    {schema : Schema} (hselectable : Selectable schema) {address : List Nat}
    (hline : Property.lineage? schema address = some line) : row.StandsAt schema address := by
  constructor
  · obtain ⟨ancestors, rfl⟩ := List.getLast?_eq_some_iff.1 h.property
    refine ⟨ancestors, hline, ?_, ?_⟩
    · rw [depth, h.path, List.length_map, List.length_append, List.length_singleton,
        Nat.add_sub_cancel]
    · rw [h.path, List.map_append, List.map_singleton]
  · intro other otherLine hother hnames
    rw [h.path] at hnames
    exact Property.address_eq_of_names_eq hselectable hline hother hnames

end OutlineRow

open OutlineRow (Shows)

/-- The rows of the properties from a position on, `before` being their elder siblings and
`ancestors` the properties that they are inside of. -/
theorem forall₂_listOutline (properties : List Property) : ∀ before ancestors : List Property,
    List.Forall₂
      (fun address row => ∃ line, Property.lineage? (before ++ properties) address = some line ∧
        row.Shows (ancestors ++ line))
      (Property.listAddresses before.length properties)
      (Property.listOutline (ancestors.map Property.name) properties) := by
  induction properties using Property.forestInduction with
  | nil => exact fun _ _ => List.Forall₂.nil
  | cons property rest hchildren hrest =>
    intro before ancestors
    have hhere : (before ++ property :: rest)[before.length]? = some property := by
      simp
    rw [Property.listAddresses, Property.listOutline, Property.addresses_eq, Property.outline_eq,
      List.map_cons]
    refine List.rel_append (List.Forall₂.cons ?_ ?_) ?_
    · refine ⟨[property], Property.lineage?_cons_eq_some_iff.2 ⟨property, [], hhere, rfl, rfl⟩,
        by simp, by simp⟩
    · -- The children have no elder siblings, and one ancestor more.
      have hbelow := hchildren [] (ancestors ++ [property])
      rw [List.map_append, List.map_singleton] at hbelow
      refine List.forall₂_map_left_iff.2 (hbelow.imp ?_)
      rintro below row ⟨line, hline, hshows⟩
      refine ⟨property :: line,
        Property.lineage?_cons_eq_some_iff.2 ⟨property, line, hhere, hline, rfl⟩, ?_⟩
      rwa [List.append_assoc, List.singleton_append] at hshows
    · have hothers := hrest (before ++ [property]) ancestors
      rwa [List.append_assoc, List.singleton_append, List.length_append,
        List.length_singleton] at hothers

/-! ## What a row selects -/

/-- The text that is a value for every operator of every property that can be tested. -/
def anyValue : EntryValue := .text "1"

/-- **With that value every operator that is offered is compiled**, and no other. -/
theorem isSome_leafClause?_anyValue (property : Property) (field : List String)
    (operator : Operator) :
    (property.leafClause? field operator anyValue).isSome = true ↔
      operator ∈ property.operators := by
  have hpattern : (Pattern.compile? "1").isSome = true := by decide +kernel
  have hnumber : anyValue.finiteNumber?.isSome = true := by decide +kernel
  have htext : ∀ operator, (Clause.text? field operator "1").isSome = true := by
    intro operator
    unfold Clause.text?
    split
    · rw [Option.isSome_map, hpattern]
    · rfl
  have hone : ("1" : String) ≠ "" := by decide
  by_cases hoffered : operator ∈ property.operators
  · refine iff_of_true ?_ hoffered
    cases property with
    | text name label =>
      simp [Property.leafClause?, hoffered, anyValue, EntryValue.text?, hone, htext]
    | numeric name label input => simp [Property.leafClause?, hoffered, hnumber]
    | enumerated name label values absentLabel =>
      simp [Property.leafClause?, hoffered, anyValue, hone]
    | nested name label children => simp [Property.operators] at hoffered
  · refine iff_of_false ?_ hoffered
    simp [Property.leafClause?, hoffered]

/-- A row of a filter on a path, with an operator and the value above. -/
def selection (path : List String) (symbol : String) : Entry :=
  ⟨path, some symbol, some anyValue⟩

/-- Picking a row of the outline, and one of its operators, selects its property. -/
structure OutlineRow.Selects (row : OutlineRow) (schema : Schema) : Prop where
  /-- The path of the row leads to its property, and all of its names are taken. -/
  resolves : schema.resolve? row.path = some (row.property, row.path.length)
  /-- The operators of the row are those that are compiled.  Names that follow the path of a
  property that holds no further ones do not matter. -/
  compiles_iff : ∀ below symbol, (row.property.isNested = true → below = []) →
    ((schema.compile? (selection (row.path ++ below) symbol)).isSome = true ↔
      symbol ∈ row.property.operators.map Operator.symbol)
  /-- The clause reads the field at the path of the row. -/
  field : ∀ below symbol clause, (row.property.isNested = true → below = []) →
    schema.compile? (selection (row.path ++ below) symbol) = some clause → clause.field = row.path
  /-- A property that holds further ones is never tested itself. -/
  nested : row.property.isNested = true →
    ∀ symbol, schema.compile? (selection row.path symbol) = none

theorem rowClause?_selection (property : Property) (field path : List String) (symbol : String) :
    property.rowClause? field (selection path symbol)
      = (Operator.ofSymbol? symbol).bind fun operator =>
          property.leafClause? field operator anyValue :=
  rfl

theorem selects_of_leads {schema : Schema} (hselectable : Selectable schema) {row : OutlineRow}
    (h : Leads schema row.path row.property) : row.Selects schema := by
  have hcompile : ∀ below symbol, (row.property.isNested = true → below = []) →
      schema.compile? (selection (row.path ++ below) symbol)
        = (Operator.ofSymbol? symbol).bind fun operator =>
            row.property.leafClause? row.path operator anyValue := by
    intro below symbol hbelow
    rw [compile?_of_leads h hselectable rfl hbelow, rowClause?_selection]
  have hiff : ∀ below symbol, (row.property.isNested = true → below = []) →
      ((schema.compile? (selection (row.path ++ below) symbol)).isSome = true ↔
        symbol ∈ row.property.operators.map Operator.symbol) := by
    intro below symbol hbelow
    rw [hcompile below symbol hbelow, Option.isSome_bind, Option.any_eq_true, List.mem_map]
    simp only [Operator.ofSymbol?_eq_some_iff, isSome_leafClause?_anyValue]
    constructor
    · rintro ⟨operator, rfl, hoffered⟩
      exact ⟨operator, hoffered, rfl⟩
    · rintro ⟨operator, hoffered, rfl⟩
      exact ⟨operator, rfl, hoffered⟩
  refine ⟨?_, hiff, ?_, ?_⟩
  · have hresolve : schema.resolve? (row.path ++ []) = some (row.property, row.path.length) :=
      resolve?_of_leads h hselectable fun _ => rfl
    rwa [List.append_nil] at hresolve
  · intro below symbol clause hbelow hclause
    rw [hcompile below symbol hbelow, Option.bind_eq_some_iff] at hclause
    obtain ⟨operator, -, hclause⟩ := hclause
    exact field_of_leafClause? hclause
  · intro hnested symbol
    have hnone : row.property.operators = [] := by
      cases hproperty : row.property <;> simp_all [Property.isNested, Property.operators]
    have hcompiles := hiff [] symbol fun _ => rfl
    rw [List.append_nil, hnone, List.map_nil] at hcompiles
    simpa using hcompiles

/-! ## The outline -/

/-- **The outline has one row for each address**, parents before their children, and each row
selects the property that it shows: its path leads there, and its operators are those that are
compiled for it. -/
theorem outline_selects {schema : Schema} (h : Selectable schema) :
    ∃ addresses, schema.Preorder addresses ∧
      List.Forall₂ (fun address row => row.StandsAt schema address ∧ row.Selects schema)
        addresses schema.outline := by
  refine ⟨Property.listAddresses 0 schema, preorder_listAddresses schema, ?_⟩
  refine (forall₂_listOutline schema [] []).imp ?_
  rintro address row ⟨line, hline, hshows⟩
  have hleads : Leads schema row.path row.property := by
    rw [hshows.path]
    exact Property.leads_of_lineage? hline hshows.property
  exact ⟨hshows.standsAt h hline, selects_of_leads h hleads⟩

/-- Two categories with a property of the same name in each. -/
def twoCategories : Schema := [
  .text "name" "Name",
  .nested "ranks" "Ranks" [
    .nested "Overall" "Overall" [.numeric "place" "Place" {}],
    .nested "Fun" "Fun" [.numeric "place" "Place" {}]]]

theorem selectable_twoCategories : Selectable twoCategories := by
  have hnone : Selectable [] := .level (by simp) (by simp) (by simp)
  have hplace : Selectable [.numeric "place" "Place" {}] :=
    .level (by decide) (by decide) (by simpa [Property.children] using hnone)
  have hcategories : Selectable [
      .nested "Overall" "Overall" [.numeric "place" "Place" {}],
      .nested "Fun" "Fun" [.numeric "place" "Place" {}]] :=
    .level (by simp [Property.name]) (by decide) (by simpa [Property.children] using hplace)
  refine .level (by simp [Property.name, twoCategories]) (by decide) ?_
  simpa [Property.children, twoCategories] using ⟨hnone, hcategories⟩

/-- The two places are told apart by the categories that they are in. -/
theorem outline_selects_twoCategories : Selectable twoCategories ∧
    ∃ addresses, Schema.Preorder twoCategories addresses ∧
      List.Forall₂ (fun address row => row.StandsAt twoCategories address ∧
        row.Selects twoCategories) addresses (Schema.outline twoCategories) :=
  ⟨selectable_twoCategories, outline_selects selectable_twoCategories⟩

end GameJam
