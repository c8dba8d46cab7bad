import ContentWorkflow.Administration.Rules
import ContentWorkflow.Engine.Execution

/-!
# Administering states

Creating and changing the states of a workflow. A state that is no longer wanted is first
deactivated, which moves its items elsewhere and drops its rules, and may then be purged together
with its history.
-/

namespace ContentWorkflow

/-- How many rules and history records went with a state that was purged. -/
structure PurgeReport where
  rules : Nat
  history : Nat
  deriving DecidableEq

instance : JsonForm PurgeReport where
  toJson report := Json.ofFields [
    ("rules", toJson report.rules),
    ("history", toJson report.history)]
  ofJson? := Json.SlotReader.readRecord? ["rules", "history"]
    do return {
      rules := ← Json.SlotReader.required
      history := ← Json.SlotReader.required }

namespace Transition

/-- The transition that moves an item out of a state that is deactivated. -/
def reassigning (workflowId : String) (target : Target) (fieldName fromSid toSid : String)
    (agent : Agent) (timestamp : Int) : Transition where
  id := 0
  workflowId := workflowId
  fromSid := fromSid
  toSid := toSid
  target := target
  fieldName := fieldName
  agent := agent
  timestamp := timestamp
  comment := some "Previous state deleted"
  attached := Dictionary.empty
  scheduled := false
  executed := false
  forced := true
  status := .new

end Transition

namespace Workflow

variable (workflow : Workflow)

/-- The creation state of the workflow. -/
def creationState? : Action (Option State) := do
  return ((← Action.store).statesOf workflow.id).creation?

/-- The states that the filter asks for, in their order. -/
def states (filter : StateFilter) : Action States := do
  return ((← Action.store).statesOf workflow.id).filter filter

/-- The state of the workflow with the id. -/
def state (sid : String) : Action State := do
  Action.demand (((← Action.store).statesOf workflow.id).get? sid) (.unknownState sid)

/-- The state that the label names, which is created where it is not kept. -/
def createState (label : String) (weight : Int) : Action State := do
  let sid := MachineName.stateIdOfLabel workflow.id label
  -- the name of the creation state is taken, whether the state is there or not
  if sid = MachineName.creationStateId workflow.id then
    Action.refuse (.creationState sid)
  match (← Action.store).state? sid with
  | some state => return state
  | none =>
      let state := State.ofLabel workflow.id sid label weight
      Action.attempt (·.addState state)
      Action.log .info s!"created state {state.id} for workflow {workflow.id}"
      return state

/-- The state gets another label or another weight. The weight of the creation state is fixed. -/
def updateState (sid : String) (label : Option String) (weight : Option Int) : Action State := do
  let state ← workflow.state sid
  if weight.isSome ∧ state.creation then
    Action.refuse (.creationState state.id)
  let state :=
    { state with label := label.getD state.label, weight := weight.getD state.weight }
  Action.change (·.setState state)
  return state

/-- The bindings of the workflow. -/
def bindings : Action (List FieldBinding) := do
  return (← Action.store).bindingList (some workflow.id)

/-- The state that items are to be moved to: an active one other than the state they leave, and not
the creation state. -/
def reassignmentTarget (states : States) (state : State) (sid : String) : Action State := do
  let target ← Action.demand
    ((states.get? sid).filter fun target => target.active ∧ target.id ≠ state.id)
    (.unknownState sid)
  if target.creation then
    Action.refuse (.creationState target.id)
  return target

/-- The items that hold the state in the bound field are moved by force, and those are counted that
arrive. -/
def reassignField (platform : Platform) (state target : State) (agent : Agent)
    (binding : FieldBinding) (moved : Nat) : Action Nat := do
  let ids := (← Action.store).itemsInState binding.entityType binding.fieldName state.id
  ids.foldlM
    (fun moved id => do
      let transition := Transition.reassigning workflow.id ⟨binding.entityType, id⟩
        binding.fieldName state.id target.id agent platform.clock
      -- an item that cannot be moved stays, and is not counted
      let (sid, _) ← Action.ofStep (platform.update true transition)
      return if sid = target.id then moved + 1 else moved)
    moved

/-- The items that hold the state in any field bound to the workflow are moved by force. -/
def reassign (platform : Platform) (state : State) (agent : Agent) (sid : String) :
    Action Nat := do
  let states := (← Action.store).statesOf workflow.id
  let target ← reassignmentTarget states state sid
  (← workflow.bindings).foldlM
    (fun moved binding => workflow.reassignField platform state target agent binding moved) 0

/-- The rules are no longer kept, and those that were are counted. -/
def dropRules (rules : List Rule) : Action Nat :=
  rules.foldlM
    (fun dropped rule => do
      let kept := ((← Action.store).rule? rule.id).isSome
      Action.change (·.dropRule rule.id)
      return if kept then dropped + 1 else dropped)
    0

/-- The state is taken out of use: its items are moved to another state where one is given, and its
rules are dropped. The answer is how many items arrived. -/
def deactivateState (platform : Platform) (sid : String) (reassignTo : Option String)
    (agent : Agent) : Action Nat := do
  let state ← workflow.state sid
  if state.creation then
    Action.refuse (.creationState state.id)
  let moved ← match reassignTo with
    | some sid => workflow.reassign platform state agent sid
    | none => pure 0
  let _ ← dropRules (← workflow.rulesTouching state.id)
  Action.change (·.setState { state with active := false })
  Action.log .info
    s!"deactivated state {state.id} of workflow {workflow.id}; {moved} item(s) moved"
  return moved

/-- A state that is out of use is removed with the rules and the history that it is part of. -/
def purgeState (sid : String) : Action PurgeReport := do
  let state ← workflow.state sid
  if state.active then
    Action.refuse (.stateActive state.id)
  let rules ← dropRules (← workflow.rulesTouching state.id)
  let history := ((← Action.store).historyTouching state.id).length
  Action.change (·.purgeHistory state.id)
  Action.change (·.dropState state.id)
  Action.log .info
    s!"purged state {state.id}: {rules} rule(s), {history} history record(s)"
  return ⟨rules, history⟩

/-- The workflow can be used: it has an active state, and rules out of the creation state. -/
def isValid : Action Bool := do
  let active := (← workflow.states .active).toList
  if active.isEmpty then
    Action.log .warn s!"workflow {workflow.id} has no active states"
  let leaving ← workflow.rules ⟨some (MachineName.creationStateId workflow.id), none⟩
  if leaving.toList.isEmpty then
    Action.log .warn
      s!"workflow {workflow.id} has no transitions out of the creation state"
  return ¬ active.isEmpty && ¬ leaving.toList.isEmpty

end Workflow

end ContentWorkflow
