import ContentWorkflow.Administration.Workflows

/-!
# Administering rules

A rule is created for two states of the workflow, or for every state and one state. It never leads
to the creation state.
-/

namespace ContentWorkflow

/-- Why the workflow with these states cannot have a rule for the two states, where it cannot. -/
def States.ruleObjection? (states : States) (fromSid toSid : String) : Option String :=
  match states.get? toSid with
  | none => some s!"unknown to state `{toSid}`"
  | some state =>
      if state.creation then some s!"to state `{toSid}` is the creation state"
      else if fromSid ≠ "" ∧ ¬ states.Known fromSid then
        some s!"unknown from state `{fromSid}`"
      else none

namespace Workflow

variable (workflow : Workflow)

/-- The rule for the two states, which is created where there is none. -/
def createRule (fromSid toSid : String) : Action Rule := do
  let store ← Action.store
  match (store.statesOf workflow.id).ruleObjection? fromSid toSid with
  | some reason => Action.refuse (.invalidRule reason)
  | none =>
      match (store.rulesOf workflow.id).find? fromSid toSid with
      | some rule => return rule
      | none =>
          let rule := Rule.between workflow.id fromSid toSid
          Action.attempt (·.addRule rule)
          Action.log .info s!"created rule {rule.id} for workflow {workflow.id}"
          return rule

/-- The rules that the filter asks for, in their order. -/
def rules (filter : RuleFilter) : Action Rules := do
  let store ← Action.store
  return (store.rulesOf workflow.id).select (store.statesOf workflow.id) filter

/-- The rule with the id, which has to be one of the workflow. -/
def rule (id : String) : Action Rule := do
  Action.demand
    (((← Action.store).rule? id).filter fun rule => rule.workflowId = workflow.id)
    (.unknownRule id)

/-- The rule is for the roles. -/
def setRuleRoles (id : String) (roles : RoleSet) : Action Rule := do
  let rule := { ← workflow.rule id with roles := roles }
  Action.change (·.setRule rule)
  return rule

/-- The rule is shown under the label. -/
def setRuleLabel (id : String) (label : Option String) : Action Rule := do
  let rule := { ← workflow.rule id with label := label }
  Action.change (·.setRule rule)
  return rule

/-- The rules that have the state at one of their ends. -/
def rulesTouching (sid : String) : Action (List Rule) := do
  return ((← Action.store).rulesOf workflow.id).toList.filter fun rule => rule.Touches sid

end Workflow

end ContentWorkflow
