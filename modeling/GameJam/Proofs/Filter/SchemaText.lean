import GameJam.Filter.Schema
import GameJam.Proofs.Filter.Outline
import GameJam.Proofs.Json.RecordReading

/-!
# What the text of a schema says

A schema is sent to selectors as JSON, and each property is written by its kind: with operators
where it has some, a range where one is suggested, labels, or the properties inside.  What is left
out differs from kind to kind, so it is not plain that the text still tells all schemas apart.  It
does, but for the labels of records without the field, which are never written.

Numbers that are not finite have no text of their own, so the ranges are asked to be finite.

## What is here

* `InputRange.IsFinite`, `Property.ListFiniteRanges` — ranges that are written as numbers.
* `Property.withoutAbsentLabels` — a property with its absent labels taken away, at every level.
* `itemsAsRead_listToJson` — the JSON of properties is read as it was written.
* `withoutAbsentLabels_of_toJson` — equal JSON comes from properties that are equal but for their
  absent labels.
* `Schema.compactText_eq_iff` — **schemas have the same text just when they are the same without
  absent labels**.
-/

set_option autoImplicit false

namespace GameJam

/-! ## Suggested ranges -/

namespace InputRange

/-- No bound is infinite or a NaN. -/
structure IsFinite (input : InputRange) : Prop where
  min : input.min.all Binary64.isFinite = true
  max : input.max.all Binary64.isFinite = true
  step : input.step.all Binary64.isFinite = true

theorem fieldsAsRead_fields {input : InputRange} (h : input.IsFinite) :
    Json.fieldsAsRead input.fields = input.fields := by
  obtain ⟨min, max, step⟩ := input
  obtain ⟨hmin, hmax, hstep⟩ := h
  cases min <;> cases max <;> cases step <;>
    simp_all [fields, Json.fieldsAsRead, Json.asRead_ofBinary64]

/-- A bound is found under its own name, and one that is not there is not found. -/
theorem lookup_fields (input : InputRange) :
    input.fields.lookup "min" = input.min.map .ofBinary64 ∧
      input.fields.lookup "max" = input.max.map .ofBinary64 ∧
      input.fields.lookup "step" = input.step.map .ofBinary64 := by
  obtain ⟨min, max, step⟩ := input
  cases min <;> cases max <;> cases step <;> simp [fields, List.lookup_cons]

theorem fields_injective : Function.Injective fields := by
  intro a b h
  have hbound : Function.Injective (Option.map Json.ofBinary64) :=
    Option.map_injective fun x y hxy => by simpa [Json.ofBinary64] using hxy
  obtain ⟨hmin, hmax, hstep⟩ := lookup_fields a
  obtain ⟨hmin', hmax', hstep'⟩ := lookup_fields b
  rw [h] at hmin hmax hstep
  have hsame : a.min = b.min ∧ a.max = b.max ∧ a.step = b.step :=
    ⟨hbound (hmin.symm.trans hmin'), hbound (hmax.symm.trans hmax'),
      hbound (hstep.symm.trans hstep')⟩
  cases a
  cases b
  simpa using hsame

/-- A range without bounds is left out, which no other one is. -/
theorem eq_of_written_eq {input other : InputRange}
    (h : (if input.fields.isEmpty then [] else [("input", Json.object input.fields)])
      = if other.fields.isEmpty then [] else [("input", Json.object other.fields)]) :
    input = other := by
  refine fields_injective ?_
  by_cases hinput : input.fields.isEmpty = true
  · by_cases hother : other.fields.isEmpty = true
    · rw [List.isEmpty_iff.1 hinput, List.isEmpty_iff.1 hother]
    · simp [hinput, hother] at h
  · by_cases hother : other.fields.isEmpty = true
    · simp [hinput, hother] at h
    · simpa [hinput, hother] using h

end InputRange

/-! ## Properties and their JSON -/

namespace Property

mutual

/-- The property without absent labels. -/
def withoutAbsentLabels : Property → Property
  | text name label => text name label
  | numeric name label input => numeric name label input
  | enumerated name label values _ => enumerated name label values none
  | nested name label children => nested name label (listWithoutAbsentLabels children)

/-- Each of some properties without absent labels. -/
def listWithoutAbsentLabels : List Property → List Property
  | [] => []
  | property :: rest => property.withoutAbsentLabels :: listWithoutAbsentLabels rest

end

mutual

/-- The ranges that are suggested, here or inside, are finite. -/
def FiniteRanges : Property → Prop
  | text .. => True
  | numeric _ _ input => input.IsFinite
  | enumerated .. => True
  | nested _ _ children => ListFiniteRanges children

/-- The same of each of some properties. -/
def ListFiniteRanges : List Property → Prop
  | [] => True
  | property :: rest => property.FiniteRanges ∧ ListFiniteRanges rest

end

/-- No absent label is written. -/
theorem listToJson_listWithoutAbsentLabels (properties : List Property) :
    listToJson (listWithoutAbsentLabels properties) = listToJson properties := by
  induction properties using forestInduction with
  | nil => rfl
  | cons property rest hchildren hrest =>
    have hproperty : property.withoutAbsentLabels.toJson = property.toJson := by
      cases property with
      | nested name label inside =>
        have hinside : listToJson (listWithoutAbsentLabels inside) = listToJson inside := hchildren
        rw [withoutAbsentLabels, toJson, toJson, hinside]
      | _ => rfl
    rw [listWithoutAbsentLabels, listToJson, listToJson, hproperty, hrest]

/-- **The JSON of properties is read as it was written**, every number in it being finite. -/
theorem itemsAsRead_listToJson (properties : List Property) (h : ListFiniteRanges properties) :
    Json.itemsAsRead (listToJson properties) = listToJson properties := by
  induction properties using forestInduction with
  | nil => rfl
  | cons property rest hchildren hrest =>
    obtain ⟨hproperty, hothers⟩ := h
    have hread : property.toJson.asRead = property.toJson := by
      cases property with
      | text name label =>
        simp only [toJson, Json.asRead, Json.fieldsAsRead, Json.asRead_ofStrings]
      | numeric name label input =>
        have hinput := InputRange.fieldsAsRead_fields hproperty
        by_cases hempty : input.fields.isEmpty = true <;>
          simp [toJson, Json.asRead, Json.fieldsAsRead, Json.asRead_ofStrings, hempty, hinput]
      | enumerated name label values absentLabel =>
        simp only [toJson, Json.asRead, Json.fieldsAsRead, Json.asRead_ofStrings]
      | nested name label inside =>
        have hinside : Json.itemsAsRead (listToJson inside) = listToJson inside :=
          hchildren hproperty
        simp only [toJson, Json.asRead, Json.fieldsAsRead, hinside]
    rw [listToJson, Json.itemsAsRead, hread, hrest hothers]

/-- Of two properties with the same JSON, if this goes for the properties inside, both are the same
without absent labels.  The kind is written, so that they are of one kind. -/
theorem withoutAbsentLabels_of_toJson {property other : Property}
    (hinside : ∀ others, listToJson property.children = listToJson others →
      listWithoutAbsentLabels property.children = listWithoutAbsentLabels others)
    (h : property.toJson = other.toJson) :
    property.withoutAbsentLabels = other.withoutAbsentLabels := by
  cases property with
  | text name label =>
    cases other with
    | text => simpa [toJson, withoutAbsentLabels] using h
    | _ => simp [toJson] at h
  | numeric name label input =>
    cases other with
    | numeric otherName otherLabel otherInput =>
      simp only [toJson, Json.object.injEq, List.cons_append, List.nil_append, List.cons.injEq,
        Prod.mk.injEq, Json.string.injEq, true_and] at h
      obtain ⟨rfl, rfl, hinput⟩ := h
      rw [InputRange.eq_of_written_eq hinput]
    | _ => simp [toJson] at h
  | enumerated name label values absentLabel =>
    cases other with
    | enumerated =>
      simpa [toJson, withoutAbsentLabels, Json.ofStrings_injective.eq_iff] using h
    | _ => simp [toJson] at h
  | nested name label inside =>
    cases other with
    | nested otherName otherLabel others =>
      simp only [toJson, Json.object.injEq, List.cons.injEq, Prod.mk.injEq, Json.string.injEq,
        Json.array.injEq, true_and, and_true] at h
      obtain ⟨rfl, rfl, hothers⟩ := h
      have hsame : listWithoutAbsentLabels inside = listWithoutAbsentLabels others :=
        hinside others hothers
      rw [withoutAbsentLabels, withoutAbsentLabels, hsame]
    | _ => simp [toJson] at h

/-- **Properties with the same JSON are the same without absent labels.** -/
theorem listWithoutAbsentLabels_of_listToJson (properties : List Property) :
    ∀ others, listToJson properties = listToJson others →
      listWithoutAbsentLabels properties = listWithoutAbsentLabels others := by
  induction properties using forestInduction with
  | nil =>
    rintro (_ | ⟨other, others⟩) h
    · rfl
    · cases h
  | cons property rest hchildren hrest =>
    rintro (_ | ⟨other, others⟩) h
    · cases h
    · rw [listToJson, listToJson, List.cons.injEq] at h
      rw [listWithoutAbsentLabels, listWithoutAbsentLabels,
        withoutAbsentLabels_of_toJson hchildren h.1, hrest others h.2]

end Property

/-! ## The text of a schema -/

/-- **Two schemas with finite ranges have the same text just when they are the same without absent
labels**, whatever they hold and however deep they are. -/
theorem Schema.compactText_eq_iff {schema other : Schema}
    (hschema : Property.ListFiniteRanges schema) (hother : Property.ListFiniteRanges other) :
    schema.toJson.compactText = other.toJson.compactText ↔
      Property.listWithoutAbsentLabels schema = Property.listWithoutAbsentLabels other := by
  constructor
  · intro h
    have hread := Json.asRead_eq_of_compactText_eq h
    rw [toJson, toJson, Json.asRead, Json.asRead, Property.itemsAsRead_listToJson schema hschema,
      Property.itemsAsRead_listToJson other hother] at hread
    exact Property.listWithoutAbsentLabels_of_listToJson schema other (Json.array.inj hread)
  · intro h
    have hjson := congrArg Property.listToJson h
    rw [Property.listToJson_listWithoutAbsentLabels,
      Property.listToJson_listWithoutAbsentLabels] at hjson
    rw [toJson, toJson, hjson]

/-- Inside of a property with a quote in its name, the label of games without a cover is not told
from none, and the sign of a zero is. -/
theorem Schema.compactText_eq_iff_cover :
    let schema (absentLabel : Option String) (negative : Bool) : Schema := [
      .nested "a\"b" "" [
        .enumerated "cover" "Cover" ["gif"] absentLabel,
        .numeric "step" "Step" { min := some (.zero negative) }]]
    (∀ absentLabel negative, Property.ListFiniteRanges (schema absentLabel negative)) ∧
    (schema (some "missing") true).toJson.compactText = (schema none true).toJson.compactText ∧
    (schema none true).toJson.compactText ≠ (schema none false).toJson.compactText := by
  intro schema
  have hfinite : ∀ absentLabel negative,
      Property.ListFiniteRanges (schema absentLabel negative) :=
    fun _ _ => ⟨⟨trivial, ⟨rfl, rfl, rfl⟩, trivial⟩, trivial⟩
  refine ⟨hfinite, (compactText_eq_iff (hfinite _ _) (hfinite _ _)).2 rfl, ?_⟩
  rw [Ne, compactText_eq_iff (hfinite _ _) (hfinite _ _)]
  simp [schema, Property.listWithoutAbsentLabels, Property.withoutAbsentLabels, Binary64.zero]

end GameJam
