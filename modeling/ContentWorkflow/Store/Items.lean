import ContentWorkflow.Store.Basic

/-!
# Kept content items

Saving an item writes its fields over those that are kept. A field is never forgotten.
-/

namespace ContentWorkflow

/-- The item of a row. -/
def ItemRow.toItem (row : ItemRow) : Item :=
  ⟨row.target, row.owner, row.changed, row.fields, false⟩

/-- The row after the item was saved over it. -/
def ItemRow.update (row : ItemRow) (item : Item) : ItemRow :=
  ⟨row.target, item.owner, item.changed, row.fields.union item.fields⟩

/-- The row of an item that was not kept. -/
def ItemRow.of (item : Item) : ItemRow :=
  ⟨item.target, item.owner, item.changed, item.fields⟩

namespace Store

/-- The kept item that the target names. -/
def item? (store : Store) (target : Target) : Option Item :=
  (store.items.find? (·.target = target)).map (·.toItem)

/-- The item is kept. -/
def saveItem (store : Store) (item : Item) : Store :=
  { store with
    items :=
      if (store.item? item.target).isSome then
        store.items.map fun row => if row.target = item.target then row.update item else row
      else store.items ++ [.of item] }

/-- The numbers of the kept items of the type that hold the state in the field, in
ascending order. -/
def itemsInState (store : Store) (entityType fieldName sid : String) : List Int :=
  ((store.items.filter fun row =>
      row.target.entityType = entityType ∧ row.fields.get? fieldName = some sid).map
    (·.target.entityId)).mergeSort fun first second => decide (first ≤ second)

end Store

end ContentWorkflow
