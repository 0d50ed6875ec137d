import GameJam.Proofs.Filter.Conjunction

/-!
# Schemas that extend another

A schema extends another one if it has all its properties, at every level, and tests them in the
same way.  It may have more of them, and what it shows of them and which labels it offers does not
count.  A row that constrains nothing may constrain something in the larger schema, where its path
leads further, but a row that has a clause keeps it.  So the larger schema never keeps more.

## What is here

* `Property.ExtendedBy`, `Property.ListExtendedBy` — a property is extended by another one, and a
  list of properties by another list.
* `Property.follow_of_extendedBy` — a testable property that names lead to is found on the same way.
* `Schema.compile?_of_extendedBy` — **a row keeps its clause**.
* `Schema.kept_sublist_of_extendedBy` — **the larger schema keeps less**.
-/

set_option autoImplicit false

namespace GameJam

namespace Property

mutual

/-- The other property tests the same, or it holds what extends the properties inside. -/
def ExtendedBy : Property → Property → Prop
  | .text .., .text .. => True
  | .numeric .., .numeric .. => True
  | .enumerated _ _ _ absentLabel, .enumerated _ _ _ other => absentLabel = other
  | .nested _ _ children, .nested _ _ others => ListExtendedBy children others
  | _, _ => False

/-- The name of each property selects one among the others that extends it. -/
def ListExtendedBy : List Property → List Property → Prop
  | [], _ => True
  | property :: rest, others =>
    (∃ other, named? others property.name = some other ∧ property.ExtendedBy other) ∧
      ListExtendedBy rest others

end

variable {property other : Property} {properties others : List Property}

theorem listExtendedBy_iff : ListExtendedBy properties others ↔
    ∀ property ∈ properties, ∃ other,
      named? others property.name = some other ∧ property.ExtendedBy other := by
  induction properties with
  | nil => simp [ListExtendedBy]
  | cons property rest ih => rw [ListExtendedBy, ih, List.forall_mem_cons]

/-! ## The same way down -/

/-- A name that selects a property selects one that extends it. -/
theorem named?_of_extendedBy (h : ListExtendedBy properties others) {name : String}
    (hname : named? properties name = some property) :
    ∃ other, named? others name = some other ∧ property.ExtendedBy other := by
  have hmem := List.mem_of_find?_eq_some hname
  obtain rfl : property.name = name := by simpa using List.find?_some hname
  exact listExtendedBy_iff.1 h property hmem

theorem isNested_of_extendedBy (h : property.ExtendedBy other) :
    other.isNested = property.isNested := by
  cases property <;> cases other <;> first | rfl | simp [ExtendedBy] at h

theorem children_of_extendedBy (h : property.ExtendedBy other) :
    ListExtendedBy property.children other.children := by
  cases property <;> cases other <;> simp_all [ExtendedBy, children, ListExtendedBy]

/-- **A testable property that names lead to is found on the same way.**  The induction is on the
names; where they end at a nested property, the other way may go on. -/
theorem follow_of_extendedBy (names : List String) : ∀ {property other : Property},
    property.ExtendedBy other → (property.follow names).1.isNested = false →
      (property.follow names).1.ExtendedBy (other.follow names).1 ∧
        (other.follow names).2 = (property.follow names).2 := by
  induction names with
  | nil => exact fun h _ => ⟨h, rfl⟩
  | cons name rest ih =>
    intro property other h hleaf
    by_cases hempty : name = ""
    · simpa [follow, hempty] using h
    · cases hchild : property.child? name with
      | none =>
        have hstay : property.follow (name :: rest) = (property, 0) := by
          simp [follow, hchild]
        rw [hstay] at hleaf ⊢
        rw [follow_of_not_nested ((isNested_of_extendedBy h).trans hleaf)]
        exact ⟨h, rfl⟩
      | some child =>
        obtain ⟨next, hnext, hextended⟩ :=
          named?_of_extendedBy (children_of_extendedBy h) hchild
        have hother : other.child? name = some next := hnext
        rw [follow, if_neg hempty, hchild] at hleaf
        obtain ⟨hreached, htaken⟩ := ih hextended hleaf
        simp only [follow, if_neg hempty, hchild, hother]
        exact ⟨hreached, congrArg (· + 1) htaken⟩

/-- A testable property has the same clauses. -/
theorem leafClause?_of_extendedBy (h : property.ExtendedBy other)
    (hleaf : property.isNested = false) (field : List String) (operator : Operator)
    (value : EntryValue) :
    other.leafClause? field operator value = property.leafClause? field operator value := by
  cases property with
  | enumerated name label values absentLabel =>
    cases other with
    | enumerated _ _ _ otherLabel =>
      obtain rfl : absentLabel = otherLabel := by simpa [ExtendedBy] using h
      cases value <;> rfl
    | _ => simp [ExtendedBy] at h
  | nested name label children => cases hleaf
  | _ => cases other <;> first | rfl | simp [ExtendedBy] at h

end Property

/-! ## The same clauses -/

namespace Schema

variable {schema other : Schema}

/-- What a path leads to is found on the same way, if it is testable. -/
theorem resolve?_of_extendedBy (h : Property.ListExtendedBy schema other) {path : List String}
    {property : Property} {taken : ℕ} (hresolve : schema.resolve? path = some (property, taken))
    (hleaf : property.isNested = false) :
    ∃ found, other.resolve? path = some (found, taken) ∧ property.ExtendedBy found := by
  cases path with
  | nil => cases hresolve
  | cons name rest =>
    obtain ⟨first, hfirst, hreached⟩ := Option.map_eq_some_iff.1 hresolve
    obtain ⟨second, hsecond, hextended⟩ := Property.named?_of_extendedBy h hfirst
    cases hreached
    obtain ⟨hfound, htaken⟩ := Property.follow_of_extendedBy rest hextended hleaf
    exact ⟨(second.follow rest).1, by rw [resolve?, hsecond, ← htaken]; rfl, hfound⟩

/-- **A row keeps its clause in a schema that extends another one.** -/
theorem compile?_of_extendedBy (h : Property.ListExtendedBy schema other) {entry : Entry}
    {clause : Clause} (hclause : schema.compile? entry = some clause) :
    other.compile? entry = some clause := by
  simp only [compile?, Option.bind_eq_bind, Option.bind_eq_some_iff] at hclause ⊢
  obtain ⟨name, hname, ⟨property, taken⟩, hresolve, operator, hoperator, value, hvalue, hleaf⟩ :=
    hclause
  have htestable : property.isNested = false := by
    cases property <;> first | rfl | simp [Property.leafClause?] at hleaf
  obtain ⟨found, hfound, hextended⟩ := resolve?_of_extendedBy h hresolve htestable
  refine ⟨name, hname, (found, taken), hfound, operator, hoperator, value, hvalue, ?_⟩
  rw [Property.leafClause?_of_extendedBy hextended htestable, hleaf]

/-- **A schema that extends another one never keeps more.** -/
theorem kept_sublist_of_extendedBy (h : Property.ListExtendedBy schema other)
    (entries : List Entry) (games : List Game) :
    (other.kept entries games).Sublist (schema.kept entries games) := by
  refine Query.filter_sublist_filter (fun clause hclause => ?_) games
  rw [Query.mem_clauses_compile] at hclause ⊢
  obtain ⟨entry, hentry, hcompile⟩ := hclause
  exact ⟨entry, hentry, compile?_of_extendedBy h hcompile⟩

end Schema
end GameJam
