import ContentWorkflow.Text.Dictionary

/-!
# Content items

The engine knows a content item by the type and number of the entity, by its owner, by the time it
was last changed and by its fields. A field that holds the empty text counts as unset.
-/

namespace ContentWorkflow

/-- What names a content item. -/
structure Target where
  entityType : String
  entityId : Int
  deriving DecidableEq

/-- The type and the number with a colon between them. -/
def Target.toText (target : Target) : String :=
  s!"{target.entityType}:{target.entityId}"

/-- A content item as somebody holds it. -/
structure Item where
  target : Target
  owner : Option Int
  changed : Int
  fields : Dictionary
  /-- The item was never saved. -/
  isNew : Bool
  deriving DecidableEq

namespace Item

/-- The state in the field, none where the field is absent or empty. -/
def fieldValue? (item : Item) (fieldName : String) : Option String :=
  (item.fields.get? fieldName).filter (· ≠ "")

/-- The item with the state in the field. -/
def setField (item : Item) (fieldName sid : String) : Item :=
  { item with fields := item.fields.insert fieldName sid }

/-- The target and every field with its text. -/
def toText (item : Item) : String :=
  item.target.toText ++
    String.join (item.fields.entries.map fun entry => s!" {entry.1}={entry.2}")

@[simp] theorem field_value_set_field (item : Item) (fieldName sid wanted : String) :
    (item.setField fieldName sid).fieldValue? wanted =
      if wanted = fieldName then (some sid).filter (· ≠ "") else item.fieldValue? wanted := by
  simp only [setField, fieldValue?, Dictionary.get_insert]
  split <;> rfl

end Item

end ContentWorkflow
