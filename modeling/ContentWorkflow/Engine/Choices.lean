import ContentWorkflow.Engine.Examination

/-!
# Choices

Which states an agent may choose for an item. What was worked out is remembered for the length of a
request. `nextSid` is for those who advance items one state at a time.
-/

namespace ContentWorkflow

namespace Store

/-- The workflow that the field is bound to, or a fault. -/
def boundWorkflow (store : Store) (entityType fieldName : String) : Except Fault Workflow :=
  match store.workflowForField? entityType fieldName with
  | some workflow => .ok workflow
  | none => .error (.misuse (.unboundField entityType fieldName))

end Store

namespace Platform

variable (platform : Platform)

/-- The states that the agent may choose for the item in the order of the rules, or every usable
state of the workflow where no state is given to leave. -/
def choicesOf (store : Store) (workflow : Workflow) (item : Item) (agent : Agent)
    (fromSid : String) (force : Bool) : List Choice :=
  let states := store.statesOf workflow.id
  if fromSid = "" then
    (states.filter .activeCreation).toList.map fun state => ⟨state.id, state.label⟩
  else
    let bypass := force || platform.mayBypass agent workflow.id
    let roles := platform.rolesOn agent item
    let rules := ((store.rulesOf workflow.id).applying states fromSid).toList
    (rules.filter fun rule => rule.Allows roles bypass force).filterMap fun rule =>
      (states.get? rule.toSid).map fun state => ⟨state.id, rule.label.getD state.label⟩

/-- The choices of the agent, remembered by the request. -/
def choices (item : Item) (fieldName : String) (agent : Agent) (fromSid : String) (force : Bool) :
    Action (List Choice) := do
  let key : ChoicesKey := ⟨item.target, fieldName, fromSid, agent, force⟩
  match (← get).context.choices? key with
  | some known =>
      Action.log .debug
        s!"reusing options for {item.target.toText} [{fieldName}] from `{fromSid}`"
      return known
  | none =>
      let store ← Action.store
      let workflow ← store.boundWorkflow item.target.entityType fieldName
      let found := platform.choicesOf store workflow item agent fromSid force
      modify fun session => { session with context := session.context.setChoices key found }
      return found

/-- The first of the choices that follows the current state: any other state for an item in the
creation state, and what stands behind the current state. The flag tells that the current state was
the choice before. -/
def followingFrom (current : String) (created found : Bool) : List Choice → Option Choice
  | [] => none
  | choice :: rest =>
      if created ∧ choice.sid ≠ current ∨ found then some choice
      else followingFrom current created (decide (choice.sid = current)) rest

/-- The choice that follows the current state. -/
def following? (choices : List Choice) (current : String) (created : Bool) : Option Choice :=
  followingFrom current created false choices

/-- The state that follows the current one among the choices of the agent, or the current one. -/
def nextSid (item : Item) (fieldName : String) (agent : Agent) (force : Bool) : Action String := do
  let store ← Action.store
  let workflow ← store.boundWorkflow item.target.entityType fieldName
  let current := store.currentSid workflow.id item fieldName
  let choices ← platform.choices item fieldName agent current force
  let created := decide (current = MachineName.creationStateId workflow.id)
  return ((following? choices current created).map (·.sid)).getD current

/-- The first state that the agent may choose for a new item. -/
def firstSid (item : Item) (fieldName : String) (agent : Agent) (force : Bool) :
    Action (Option String) := do
  let workflow ← (← Action.store).boundWorkflow item.target.entityType fieldName
  let choices ←
    platform.choices item fieldName agent (MachineName.creationStateId workflow.id) force
  if choices.isEmpty then
    Action.log .error
      s!"no states available from the creation state of workflow {workflow.id}"
  return choices.head?.map (·.sid)

end Platform

end ContentWorkflow
