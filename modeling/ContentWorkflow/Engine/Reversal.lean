import ContentWorkflow.Engine.Execution

/-!
# Reverting a transition

A record that changed the state of an item can be reverted as long as the state it left is active.
The item then moves back by force, provided that it still is where the record left it.
-/

namespace ContentWorkflow

namespace Store

/-- The record can be reverted. -/
def Revertible (store : Store) (record : HistoryRecord) : Prop :=
  record.ChangesState ∧
    ∃ state ∈ store.state? record.fromSid, state.active = true ∧ state.creation = false

instance (store : Store) (record : HistoryRecord) : Decidable (store.Revertible record) :=
  match h : store.state? record.fromSid with
  | none => isFalse (by simp [Revertible, h])
  | some state =>
      if holds : record.ChangesState ∧ state.active = true ∧ state.creation = false then
        isTrue ⟨holds.1, state, h, holds.2⟩
      else isFalse (by
        rintro ⟨hchange, other, hother, hactive⟩
        rw [h] at hother
        exact holds ⟨hchange, Option.some.inj hother ▸ hactive⟩)

end Store

namespace Transition

/-- The transition that takes back what the record did. -/
def reverting (record : HistoryRecord) (agent : Agent) (timestamp : Int) : Transition where
  id := 0
  workflowId := record.workflowId
  fromSid := record.toSid
  toSid := record.fromSid
  target := record.target
  fieldName := record.fieldName
  agent := agent
  timestamp := timestamp
  comment := some "State reverted."
  attached := Dictionary.empty
  scheduled := false
  executed := false
  forced := true
  status := .new

end Transition

namespace Platform

variable (platform : Platform)

/-- The record with the number. -/
def historyRecord (hid : Int) : Action HistoryRecord := do
  Action.demand ((← Action.store).record? hid) (.unknownHistory hid)

/-- What the record did is taken back. -/
def revert (hid : Int) (agent : Agent) : Action String := do
  let record ← historyRecord hid
  if ¬ (← Action.store).Revertible record then
    Action.refuse (.notRevertible hid)
  let (sid, transition) ←
    Action.ofStep (platform.update true (.reverting record agent platform.clock))
  if transition.status = .executed then
    Action.log .info s!"reverted history record {hid}: {transition.toText}"
  return sid

end Platform

end ContentWorkflow
