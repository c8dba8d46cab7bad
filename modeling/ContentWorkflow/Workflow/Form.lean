import ContentWorkflow.Access.Form
import ContentWorkflow.Workflow.Definition
import ContentWorkflow.Workflow.RuleTable

/-!
# JSON forms of workflows, states and rules

Settings may leave out any field, which then has its standard value, and a workflow may leave out
its settings. A list of states keeps the order of its text.
-/

namespace ContentWorkflow

open Json Json.SlotReader

instance : JsonForm ActionStyle where
  toJson style := Json.ofString style.name
  ofJson? json := do
    let name ← json.bareVariant?
    ActionStyle.all.find? fun style => style.name = name

instance : LawfulJsonForm ActionStyle :=
  ⟨fun style => by cases style <;> rfl⟩

instance : JsonForm Settings where
  toJson settings := Json.ofFields [
    ("fieldset", toJson settings.fieldset),
    ("options", toJson settings.options),
    ("schedule_enable", toJson settings.scheduleEnable),
    ("comment_required", toJson settings.commentRequired),
    ("always_update_entity", toJson settings.alwaysUpdateEntity),
    ("watchdog_log", toJson settings.watchdogLog)]
  ofJson? := readRecord?
    ["fieldset", "options", "schedule_enable", "comment_required", "always_update_entity",
      "watchdog_log"]
    do return {
      fieldset := ← withDefault Settings.standard.fieldset
      options := ← withDefault Settings.standard.options
      scheduleEnable := ← withDefault Settings.standard.scheduleEnable
      commentRequired := ← withDefault Settings.standard.commentRequired
      alwaysUpdateEntity := ← withDefault Settings.standard.alwaysUpdateEntity
      watchdogLog := ← withDefault Settings.standard.watchdogLog }

instance : LawfulJsonForm Settings :=
  ⟨fun settings => (read_record_of_fields rfl (by simp) _).trans (by simp)⟩

instance : JsonForm Workflow where
  toJson workflow := Json.ofFields [
    ("id", toJson workflow.id),
    ("label", toJson workflow.label),
    ("settings", toJson workflow.settings)]
  ofJson? := readRecord? ["id", "label", "settings"]
    do return {
      id := ← required
      label := ← required
      settings := ← withDefault Settings.standard }

instance : LawfulJsonForm Workflow :=
  ⟨fun workflow => (read_record_of_fields rfl (by simp) _).trans (by simp)⟩

instance : JsonForm FieldBinding where
  toJson binding := Json.ofFields [
    ("entity_type", toJson binding.entityType),
    ("field_name", toJson binding.fieldName),
    ("workflow_id", toJson binding.workflowId)]
  ofJson? := readRecord? ["entity_type", "field_name", "workflow_id"]
    do return {
      entityType := ← required
      fieldName := ← required
      workflowId := ← required }

instance : LawfulJsonForm FieldBinding :=
  ⟨fun binding => (read_record_of_fields rfl (by simp) _).trans (by simp)⟩

instance : JsonForm State where
  toJson state := Json.ofFields [
    ("id", toJson state.id),
    ("workflow_id", toJson state.workflowId),
    ("label", toJson state.label),
    ("weight", toJson state.weight),
    ("active", toJson state.active),
    ("creation", toJson state.creation)]
  ofJson? := readRecord? ["id", "workflow_id", "label", "weight", "active", "creation"]
    do return {
      id := ← required
      workflowId := ← required
      label := ← required
      weight := ← required
      active := ← required
      creation := ← required }

instance : JsonForm States where
  toJson states := toJson states.toList
  ofJson? json := (ofJson? json).map States.mk

instance : JsonForm StateFilter where
  toJson
    | .all => Json.ofString "all"
    | .active => Json.ofString "active"
    | .activeCreation => Json.ofString "active_creation"
  ofJson? json :=
    match json.bareVariant? with
    | some "all" => some .all
    | some "active" => some .active
    | some "active_creation" => some .activeCreation
    | _ => none

instance : JsonForm Rule where
  toJson rule := Json.ofFields [
    ("id", toJson rule.id),
    ("workflow_id", toJson rule.workflowId),
    ("from_sid", toJson rule.fromSid),
    ("to_sid", toJson rule.toSid),
    ("label", toJson rule.label),
    ("roles", toJson rule.roles)]
  ofJson? := readRecord? ["id", "workflow_id", "from_sid", "to_sid", "label", "roles"]
    do return {
      id := ← required
      workflowId := ← required
      fromSid := ← required
      toSid := ← required
      label := ← optional
      roles := ← required }

instance : JsonForm Rules where
  toJson rules := toJson rules.toList
  ofJson? json := (ofJson? json).map Rules.mk

instance : JsonForm Choice where
  toJson choice := Json.ofFields [
    ("sid", toJson choice.sid),
    ("label", toJson choice.label)]
  ofJson? := readRecord? ["sid", "label"]
    do return {
      sid := ← required
      label := ← required }

end ContentWorkflow
