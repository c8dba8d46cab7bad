import ContentWorkflow.Json.Document
import ContentWorkflow.Transition.Form
import ContentWorkflow.Workflow.Form

/-!
# What is written as JSON reads back

A value is read back from its JSON text, whatever stands in its texts, when the numbers in it are
signed 64-bit words. Two things are not written: whether an item is new, and the status of a
transition. Each record is read back field by field (`read_record_of_fields`), an optional field
from its value or from null. The main theorem, `values_read_back`, says so of every kind of value.
-/

namespace ContentWorkflow

open Numeral (FitsWord)
open Json.SlotReader

/-- Every number is a signed 64-bit word. -/
def Numeral.AllWords (numbers : List Int) : Prop :=
  ∀ number ∈ numbers, FitsWord number

instance (numbers : List Int) : Decidable (Numeral.AllWords numbers) :=
  inferInstanceAs (Decidable (∀ _ ∈ _, _))

/-! ## The numbers of a value -/

/-- The numbers in the name of an item. -/
def Target.numbers (target : Target) : List Int :=
  [target.entityId]

/-- The numbers in an item. -/
def Item.numbers (item : Item) : List Int :=
  item.target.entityId :: item.changed :: item.owner.toList

/-- The numbers in a state. -/
def State.numbers (state : State) : List Int :=
  [state.weight]

/-- The numbers in a record. -/
def HistoryRecord.numbers (record : HistoryRecord) : List Int :=
  record.hid :: record.target.entityId :: record.timestamp :: record.agent.uid?.toList

/-- The numbers in a transition. -/
def Transition.numbers (transition : Transition) : List Int :=
  transition.id :: transition.target.entityId :: transition.timestamp ::
    transition.agent.uid?.toList

/-! ## Fields read one after another -/

namespace Json.SlotReader

variable {α β : Type} [JsonForm α] {json : Json} {rest : List Slot}

theorem run_required_bind {value : α} (h : ofJson? json = some value) (next : α → SlotReader β) :
    (required >>= next).run (.given json :: rest) = (next value).run rest := by
  rw [StateT.run_bind, run_required_given, h]
  rfl

theorem run_optional_bind {value : Option α} (h : ofJson? json = some value)
    (next : Option α → SlotReader β) :
    (optional >>= next).run (.given json :: rest) = (next value).run rest := by
  rw [StateT.run_bind, run_optional_given, h]
  rfl

theorem run_required_bind_to_json [LawfulJsonForm α] (value : α) (next : α → SlotReader β) :
    (required >>= next).run (.given (toJson value) :: rest) = (next value).run rest :=
  run_required_bind (of_json_to_json value) next

theorem run_optional_bind_to_json [LawfulJsonForm (Option α)] (value : Option α)
    (next : Option α → SlotReader β) :
    (optional >>= next).run (.given (toJson value) :: rest) = (next value).run rest :=
  run_optional_bind (of_json_to_json value) next

end Json.SlotReader

/-! ## Values read back from their forms -/

/-- An optional text is read back, because no text is written as null. -/
instance : LawfulJsonForm (Option String) :=
  ⟨fun text => by cases text <;> rfl⟩

theorem of_json_to_json_word {word : Option Int} (h : Numeral.AllWords word.toList) :
    ofJson? (toJson word) = some word := by
  cases word with
  | none => rfl
  | some number =>
      have hread := of_json_to_json_int (h number (List.mem_singleton_self number))
      change (ofJson? (toJson number)).map some = some (some number)
      rw [hread, Option.map_some]

theorem Target.of_json_to_json {target : Target} (h : Numeral.AllWords target.numbers) :
    ofJson? (toJson target) = some target := by
  simp only [Numeral.AllWords, numbers, List.forall_mem_singleton] at h
  refine (read_record_of_fields rfl (by simp) _).trans ?_
  simp [of_json_to_json_int h]

theorem State.of_json_to_json {state : State} (h : Numeral.AllWords state.numbers) :
    ofJson? (toJson state) = some state := by
  simp only [Numeral.AllWords, numbers, List.forall_mem_singleton] at h
  refine (read_record_of_fields rfl (by simp) _).trans ?_
  simp only [List.map_cons, run_required_bind_to_json, run_required_bind (of_json_to_json_int h)]
  simp

instance : LawfulJsonForm Rule := by
  refine ⟨fun rule => (read_record_of_fields rfl (by simp) _).trans ?_⟩
  simp only [List.map_cons, run_required_bind_to_json]
  simp

/-- An item that is read is not new. -/
theorem Item.of_json_to_json {item : Item} (h : Numeral.AllWords item.numbers) :
    ofJson? (toJson item) = some { item with isNew := false } := by
  simp only [Numeral.AllWords, numbers, List.forall_mem_cons] at h
  obtain ⟨hid, hchanged, howner⟩ := h
  refine (read_record_of_fields rfl (by simp) _).trans ?_
  simp only [List.map_cons, run_required_bind_to_json, run_required_bind (of_json_to_json_int hid),
    run_required_bind (of_json_to_json_int hchanged),
    run_optional_bind (of_json_to_json_word howner)]
  simp

theorem HistoryRecord.of_json_to_json {record : HistoryRecord}
    (h : Numeral.AllWords record.numbers) : ofJson? (toJson record) = some record := by
  simp only [Numeral.AllWords, numbers, List.forall_mem_cons] at h
  obtain ⟨hhid, hid, htimestamp, huid⟩ := h
  refine (read_record_of_fields rfl (by simp) _).trans ?_
  simp only [List.map_cons, run_required_bind_to_json, run_optional_bind_to_json,
    run_required_bind (of_json_to_json_int hhid), run_required_bind (of_json_to_json_int hid),
    run_required_bind (of_json_to_json_int htimestamp),
    run_optional_bind (of_json_to_json_word huid)]
  simp

/-- A transition that is read has the status new. -/
theorem Transition.of_json_to_json {transition : Transition}
    (h : Numeral.AllWords transition.numbers) :
    ofJson? (toJson transition) = some { transition with status := .new } := by
  simp only [Numeral.AllWords, numbers, List.forall_mem_cons] at h
  obtain ⟨hid, htarget, htimestamp, huid⟩ := h
  have htarget := Target.of_json_to_json (List.forall_mem_singleton.2 htarget)
  refine (read_record_of_fields rfl (by simp) _).trans ?_
  simp only [List.map_cons, run_required_bind_to_json, run_optional_bind_to_json,
    run_required_bind (of_json_to_json_int hid), run_required_bind htarget,
    run_required_bind (of_json_to_json_int htimestamp),
    run_optional_bind (of_json_to_json_word huid)]
  simp

/-! ## Values read back from their texts -/

/-- What is read from the form of a value is read from its text. -/
theorem JsonForm.of_text_to_text {α : Type} [JsonForm α] {value read : α}
    (h : ofJson? (toJson value) = some read) : ofText? (toText value) = some read := by
  rw [ofText?, toText, Json.parse_render, Option.bind_some, h]

/-- Every kind of value is read back from its JSON text, when its numbers are signed 64-bit words. A
status is read back with its reason, a transition with the status new, and an item as one that is
not new. -/
theorem values_read_back :
    (∀ state : State, Numeral.AllWords state.numbers →
      JsonForm.ofText? (JsonForm.toText state) = some state) ∧
    (∀ rule : Rule, JsonForm.ofText? (JsonForm.toText rule) = some rule) ∧
    (∀ roles : RoleSet, JsonForm.ofText? (JsonForm.toText roles) = some roles) ∧
    (∀ workflow : Workflow, JsonForm.ofText? (JsonForm.toText workflow) = some workflow) ∧
    (∀ settings : Settings, JsonForm.ofText? (JsonForm.toText settings) = some settings) ∧
    (∀ binding : FieldBinding, JsonForm.ofText? (JsonForm.toText binding) = some binding) ∧
    (∀ record : HistoryRecord, Numeral.AllWords record.numbers →
      JsonForm.ofText? (JsonForm.toText record) = some record) ∧
    (∀ target : Target, Numeral.AllWords target.numbers →
      JsonForm.ofText? (JsonForm.toText target) = some target) ∧
    (∀ reason : Rejection, JsonForm.ofText? (JsonForm.toText reason) = some reason) ∧
    (∀ status : Status, JsonForm.ofText? (JsonForm.toText status) = some status) ∧
    (∀ transition : Transition, Numeral.AllWords transition.numbers →
      JsonForm.ofText? (JsonForm.toText transition) = some { transition with status := .new }) ∧
    ∀ item : Item, Numeral.AllWords item.numbers →
      JsonForm.ofText? (JsonForm.toText item) = some { item with isNew := false } :=
  ⟨fun _ h => JsonForm.of_text_to_text (State.of_json_to_json h), Document.of_text_to_text,
    Document.of_text_to_text, Document.of_text_to_text, Document.of_text_to_text,
    Document.of_text_to_text, fun _ h => JsonForm.of_text_to_text (HistoryRecord.of_json_to_json h),
    fun _ h => JsonForm.of_text_to_text (Target.of_json_to_json h), Document.of_text_to_text,
    Document.of_text_to_text, fun _ h => JsonForm.of_text_to_text (Transition.of_json_to_json h),
    fun _ h => JsonForm.of_text_to_text (Item.of_json_to_json h)⟩

/-- The least word and texts that need escapes are read back in every kind of value with numbers. A
vetoed transition is read with the status new, and a new item as one that is not. -/
theorem values_read_back_extreme :
    (∃ state : State, state.weight = -9223372036854775808 ∧ state.label = "\"\\\n\u0001é😀" ∧
      JsonForm.ofText? (JsonForm.toText state) = some state) ∧
    (∃ record : HistoryRecord, record.timestamp = -9223372036854775808 ∧
      record.agent = .user 9223372036854775807 ∧ record.comment = some "" ∧
      JsonForm.ofText? (JsonForm.toText record) = some record) ∧
    (∃ target : Target, target.entityId = -9223372036854775808 ∧
      JsonForm.ofText? (JsonForm.toText target) = some target) ∧
    (∃ transition : Transition, transition.status = .rejected (.drifted "\"" "\\") ∧
      transition.attached.get? "\u0000" = some "😀" ∧
      JsonForm.ofText? (JsonForm.toText transition) = some { transition with status := .new }) ∧
    ∃ item : Item, item.isNew = true ∧ item.fields.get? "\t" = some "" ∧
      JsonForm.ofText? (JsonForm.toText item) = some { item with isNew := false } := by
  obtain ⟨hstate, -, -, -, -, -, hrecord, htarget, -, -, htransition, hitem⟩ := values_read_back
  refine ⟨?_, ?_, ?_, ?_, ?_⟩
  · exact ⟨⟨"wf_a", "wf", "\"\\\n\u0001é😀", -9223372036854775808, true, false⟩, rfl, rfl,
      hstate _ (by decide)⟩
  · exact ⟨⟨1, "wf", ⟨"node", 1⟩, "field_state", "wf_a", "wf_b", .user 9223372036854775807,
      -9223372036854775808, some ""⟩, rfl, rfl, rfl, hrecord _ (by decide)⟩
  · exact ⟨⟨"node", -9223372036854775808⟩, rfl, htarget _ (by decide)⟩
  · exact ⟨⟨1, "wf", "wf_a", "wf_b", ⟨"node", 1⟩, "field_state", .anonymous, 10, none,
      Dictionary.ofList [("\u0000", "😀")], false, false, false, .rejected (.drifted "\"" "\\")⟩,
      rfl, by decide, htransition _ (by decide)⟩
  · exact ⟨⟨⟨"node", 1⟩, some 9223372036854775807, 10, Dictionary.ofList [("\t", "")], true⟩, rfl,
      by decide, hitem _ (by decide)⟩

end ContentWorkflow
