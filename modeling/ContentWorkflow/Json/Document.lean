import ContentWorkflow.Json.Form
import ContentWorkflow.Json.RoundTrip

/-!
# Documents

A document is a JSON text that is known to read as a value of its type. `value_of` says that the
document written for a value reads as that value.
-/

namespace ContentWorkflow

/-- A text that reads as a value of the type. -/
structure Document (α : Type) [JsonForm α] where
  text : String
  readable : (JsonForm.ofText? text : Option α).isSome

namespace Document

variable {α : Type} [JsonForm α]

/-- The value that the document stands for. -/
def value (document : Document α) : α :=
  (JsonForm.ofText? document.text).get document.readable

theorem of_text_to_text [LawfulJsonForm α] (value : α) :
    JsonForm.ofText? (JsonForm.toText value) = some value := by
  simp [JsonForm.ofText?, JsonForm.toText, Json.parse_render]

/-- The document of a value. -/
def of [LawfulJsonForm α] (value : α) : Document α :=
  ⟨JsonForm.toText value, by rw [of_text_to_text]; rfl⟩

@[simp] theorem value_of [LawfulJsonForm α] (value : α) : (of value).value = value := by
  simp [Document.value, of, of_text_to_text]

end Document

end ContentWorkflow
