import ContentWorkflow.Store.Items
import ContentWorkflow.Store.Pending
import ContentWorkflow.Store.Rules
import ContentWorkflow.Transition.Form

/-!
# The form of a store

A site that is kept in a file is written there as one JSON document.
-/

namespace ContentWorkflow

instance : JsonForm Store where
  toJson store := Json.ofFields [
    ("workflows", toJson (store.workflows.map (·.toWorkflow))),
    ("states", toJson store.states),
    ("rules", toJson (store.rules.map (·.toRule))),
    ("bindings", toJson store.bindings),
    ("items", toJson (store.items.map (·.toItem))),
    ("history", toJson store.history),
    ("last_hid", toJson store.lastHid),
    ("pending", toJson (store.pending.map (·.toTransition))),
    ("last_tid", toJson store.lastTid)]
  ofJson? := Json.SlotReader.readRecord?
    ["workflows", "states", "rules", "bindings", "items", "history", "last_hid", "pending",
      "last_tid"]
    do return {
      workflows := List.map WorkflowRow.of (← Json.SlotReader.required)
      states := ← Json.SlotReader.required
      rules := List.map RuleRow.of (← Json.SlotReader.required)
      bindings := ← Json.SlotReader.required
      items := List.map ItemRow.of (← Json.SlotReader.required)
      history := ← Json.SlotReader.required
      lastHid := ← Json.SlotReader.required
      pending := List.map (fun transition : Transition => PendingRow.of transition.id transition)
        (← Json.SlotReader.required)
      lastTid := ← Json.SlotReader.required }

end ContentWorkflow
