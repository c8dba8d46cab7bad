import ContentWorkflow.Access.Form
import ContentWorkflow.Json.Definite
import ContentWorkflow.Text.DictionaryForm
import ContentWorkflow.Transition.Basic

/-!
# JSON forms of items, transitions and their history

The form of an item does not tell whether the item is new, and the form of a transition does not
tell its status: an item that is read is not new, and a transition that is read has the status
new. A status is an object with a tag and, where it is a rejection, the reason.
-/

namespace ContentWorkflow

open Json Json.SlotReader

instance : JsonForm Target where
  toJson target := Json.ofFields [
    ("entity_type", toJson target.entityType),
    ("entity_id", toJson target.entityId)]
  ofJson? := readRecord? ["entity_type", "entity_id"]
    do return {
      entityType := ← required
      entityId := ← required }

instance : JsonForm Item where
  toJson item := Json.ofFields [
    ("entity_type", toJson item.target.entityType),
    ("entity_id", toJson item.target.entityId),
    ("owner_id", toJson item.owner),
    ("changed", toJson item.changed),
    ("fields", toJson item.fields)]
  ofJson? := readRecord? ["entity_type", "entity_id", "owner_id", "changed", "fields"]
    do return {
      target := { entityType := ← required, entityId := ← required }
      owner := ← optional
      changed := ← required
      fields := ← required
      isNew := false }

instance : JsonForm HistoryRecord where
  toJson record := Json.ofFields [
    ("hid", toJson record.hid),
    ("workflow_id", toJson record.workflowId),
    ("entity_type", toJson record.target.entityType),
    ("entity_id", toJson record.target.entityId),
    ("field_name", toJson record.fieldName),
    ("from_sid", toJson record.fromSid),
    ("to_sid", toJson record.toSid),
    ("uid", toJson record.agent.uid?),
    ("timestamp", toJson record.timestamp),
    ("comment", toJson record.comment)]
  ofJson? := readRecord?
    ["hid", "workflow_id", "entity_type", "entity_id", "field_name", "from_sid", "to_sid", "uid",
      "timestamp", "comment"]
    do return {
      hid := ← required
      workflowId := ← required
      target := { entityType := ← required, entityId := ← required }
      fieldName := ← required
      fromSid := ← required
      toSid := ← required
      agent := Agent.ofUid? (← optional)
      timestamp := ← required
      comment := ← optional }

instance : JsonForm HistoryOrder where
  toJson
    | .ascending => Json.ofString "Asc"
    | .descending => Json.ofString "Desc"
  ofJson? json :=
    match json.bareVariant? with
    | some "Asc" => some .ascending
    | some "Desc" => some .descending
    | _ => none

namespace Rejection

/-- The form of the reason that carries one text. -/
def ofName? (name text : String) : Option Rejection :=
  match name with
  | "MissingEntity" => some (.missingEntity text)
  | "InvalidFromState" => some (.invalidFromState text)
  | "InvalidToState" => some (.invalidToState text)
  | "Vetoed" => some (.vetoed text)
  | "AlreadyExecuted" => some (.alreadyExecuted text)
  | "SaveFailed" => some (.saveFailed text)
  | _ => none

/-- What a refused authorization carries. -/
def readUnauthorized? : Json → Option Rejection :=
  readRecord? ["user", "from_sid", "to_sid"]
    do return .unauthorized (← required) (← required) (← required)

/-- What a drifted transition carries. -/
def readDrifted? : Json → Option Rejection :=
  readRecord? ["current", "expected"]
    do return .drifted (← required) (← required)

end Rejection

instance : JsonForm Rejection where
  toJson
    | .missingEntity target => Json.ofFields [("MissingEntity", toJson target)]
    | .invalidFromState sid => Json.ofFields [("InvalidFromState", toJson sid)]
    | .invalidToState sid => Json.ofFields [("InvalidToState", toJson sid)]
    | .unauthorized user fromSid toSid =>
        Json.ofFields [("Unauthorized", Json.ofFields [
          ("user", toJson user),
          ("from_sid", toJson fromSid),
          ("to_sid", toJson toSid)])]
    | .vetoed reason => Json.ofFields [("Vetoed", toJson reason)]
    | .drifted current expected =>
        Json.ofFields [("Drifted", Json.ofFields [
          ("current", toJson current),
          ("expected", toJson expected)])]
    | .alreadyExecuted label => Json.ofFields [("AlreadyExecuted", toJson label)]
    | .saveFailed target => Json.ofFields [("SaveFailed", toJson target)]
  ofJson? json :=
    match json.variant? with
    | some ("Unauthorized", some carried) => Rejection.readUnauthorized? carried
    | some ("Drifted", some carried) => Rejection.readDrifted? carried
    | some (name, some carried) => (ofJson? carried).bind (Rejection.ofName? name)
    | _ => none

instance : LawfulJsonForm Rejection where
  of_json_to_json
    | .missingEntity _ => rfl
    | .invalidFromState _ => rfl
    | .invalidToState _ => rfl
    | .unauthorized user fromSid toSid =>
        show Rejection.readUnauthorized? (Json.ofFields [
            ("user", toJson user),
            ("from_sid", toJson fromSid),
            ("to_sid", toJson toSid)]) = some (.unauthorized user fromSid toSid) from
          (read_record_of_fields rfl (by simp) _).trans (by simp)
    | .vetoed _ => rfl
    | .drifted current expected =>
        show Rejection.readDrifted? (Json.ofFields [
            ("current", toJson current),
            ("expected", toJson expected)]) = some (.drifted current expected) from
          (read_record_of_fields rfl (by simp) _).trans (by simp)
    | .alreadyExecuted _ => rfl
    | .saveFailed _ => rfl

namespace Status

/-- The status with the tag and what it carries. Only a rejection carries anything. -/
def ofTag? (tag : String) (carried : Option Json) : Option Status :=
  match tag, carried with
  | "rejected", some reason => (ofJson? reason).map .rejected
  | "new", none | "new", some .null => some .new
  | "validated", none | "validated", some .null => some .validated
  | "scheduled", none | "scheduled", some .null => some .scheduled
  | "executed", none | "executed", some .null => some .executed
  | "discarded", none | "discarded", some .null => some .discarded
  | _, _ => none

/-- The status of an object of which only the tag and the reason are left. A reason that stands
before its tag has to be kept until the tag is known. -/
def ofFields? : List (String × Json) → Option Status
  | [("status", tag)] => do ofTag? (← tag.bareVariant?) none
  | [("status", tag), ("reason", reason)] => do ofTag? (← tag.bareVariant?) (some reason)
  | [("reason", reason), ("status", tag)] =>
      if reason.isDefinite depthLimit then do ofTag? (← tag.bareVariant?) (some reason) else none
  | _ => none

end Status

instance : JsonForm Status where
  toJson
    | .rejected reason => Json.ofFields [
        ("status", Json.ofString "rejected"),
        ("reason", toJson reason)]
    | status => Json.ofFields [("status", Json.ofString status.toText)]
  ofJson?
    | .array [tag, reason] => do Status.ofTag? (← tag.bareVariant?) (some reason)
    | .object fields => do
        let fields ← namedFields? fields
        Status.ofFields? (fields.filter fun field => field.1 = "status" ∨ field.1 = "reason")
    | _ => none

instance : LawfulJsonForm Status where
  of_json_to_json
    | .new => rfl
    | .validated => rfl
    | .scheduled => rfl
    | .executed => rfl
    | .rejected reason => by
        change (ofJson? (toJson reason)).map Status.rejected = some (.rejected reason)
        rw [of_json_to_json, Option.map_some]
    | .discarded => rfl

instance : JsonForm Transition where
  toJson transition := Json.ofFields [
    ("id", toJson transition.id),
    ("workflow_id", toJson transition.workflowId),
    ("from_sid", toJson transition.fromSid),
    ("to_sid", toJson transition.toSid),
    ("target", toJson transition.target),
    ("field_name", toJson transition.fieldName),
    ("uid", toJson transition.agent.uid?),
    ("timestamp", toJson transition.timestamp),
    ("comment", toJson transition.comment),
    ("attached", toJson transition.attached),
    ("scheduled", toJson transition.scheduled),
    ("executed", toJson transition.executed),
    ("forced", toJson transition.forced)]
  ofJson? := readRecord?
    ["id", "workflow_id", "from_sid", "to_sid", "target", "field_name", "uid", "timestamp",
      "comment", "attached", "scheduled", "executed", "forced"]
    do return {
      id := ← required
      workflowId := ← required
      fromSid := ← required
      toSid := ← required
      target := ← required
      fieldName := ← required
      agent := Agent.ofUid? (← optional)
      timestamp := ← required
      comment := ← optional
      attached := ← required
      scheduled := ← required
      executed := ← required
      forced := ← required
      status := .new }

end ContentWorkflow
