import GameJam.Results.Schema

/-!
# Keeping the schema of a dataset

As long as the same dataset is filtered, its schema is built only once.  The same dataset means
the same loading of one, not one with the same games: what is loaded or built gets a number, and
two values are the same one when their numbers are.

## What is here

* `Shared` — a value with the number it got.
* `SchemaCache`, with `setCategories`, which forgets the schema if the source changes, and
  `schemaFor`.
-/

set_option autoImplicit false

namespace GameJam

/-- A value that can be told from an equal one by its number. -/
structure Shared (α : Type) where
  number : Nat
  value : α
deriving BEq

/-- The schema built last, and the dataset it belongs to. -/
structure SchemaCache where
  categories : CategorySource
  /-- The number of the dataset, and its schema. -/
  held : Option (Nat × Shared Schema) := none
  /-- The number of the next schema. -/
  next : Nat := 0

namespace SchemaCache

/-- Changes where categories are read from. -/
def setCategories (cache : SchemaCache) (categories : CategorySource) : SchemaCache :=
  if cache.categories = categories then cache
  else { cache with categories, held := none }

/-- Builds the schema of a dataset and keeps it. -/
def build (cache : SchemaCache) (dataset : Shared Dataset) : Shared Schema × SchemaCache :=
  let schema : Shared Schema := ⟨cache.next, jamSchema dataset.value.games cache.categories⟩
  (schema, { cache with held := some (dataset.number, schema), next := cache.next + 1 })

/-- The schema of a dataset: the one that is held if it belongs to this dataset. -/
def schemaFor (cache : SchemaCache) (dataset : Shared Dataset) : Shared Schema × SchemaCache :=
  match cache.held with
  | some (number, schema) =>
    if number = dataset.number then (schema, cache) else cache.build dataset
  | none => cache.build dataset

end SchemaCache
end GameJam
