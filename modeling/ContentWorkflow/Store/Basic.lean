import ContentWorkflow.Access.Form
import ContentWorkflow.Json.Document
import ContentWorkflow.Text.DictionaryForm
import ContentWorkflow.Transition.Basic
import ContentWorkflow.Workflow.Form

/-!
# The store

What is kept of a site: its workflows with their states and rules, the fields bound to them, the
content items, the history and the pending transitions. Rows stand in the order in which they were
stored. Settings, roles and attached data are kept as documents. A write that breaks a key of a
table is refused and leaves the store as it was, and so is a query with too many variables.
-/

namespace ContentWorkflow

/-- A workflow as it is kept. -/
structure WorkflowRow where
  id : String
  label : String
  settings : Document Settings

/-- A rule as it is kept. -/
structure RuleRow where
  id : String
  workflowId : String
  fromSid : String
  toSid : String
  label : Option String
  roles : Document RoleSet

/-- A pending transition as it is kept. -/
structure PendingRow where
  tid : Int
  workflowId : String
  target : Target
  fieldName : String
  fromSid : String
  toSid : String
  agent : Agent
  timestamp : Int
  comment : Option String
  attached : Document Dictionary
  forced : Bool

/-- A content item as it is kept. -/
structure ItemRow where
  target : Target
  owner : Option Int
  changed : Int
  fields : Dictionary
  deriving DecidableEq

/-- The tables, and the greatest numbers ever given to a history record and to a pending
transition. -/
structure Store where
  workflows : List WorkflowRow
  states : List State
  rules : List RuleRow
  bindings : List FieldBinding
  items : List ItemRow
  history : List HistoryRecord
  lastHid : Int
  pending : List PendingRow
  lastTid : Int

/-- The store of a new site. -/
def Store.empty : Store where
  workflows := []
  states := []
  rules := []
  bindings := []
  items := []
  history := []
  lastHid := 0
  pending := []
  lastTid := 0

/-- What a refused write or query would have broken. -/
inductive Constraint where
  | workflowId
  | stateId
  | ruleId
  /-- A workflow has at most one creation state. -/
  | creationState
  /-- A workflow has at most one rule for two states. -/
  | rulePair
  /-- States, rules and bindings belong to a workflow that is kept. -/
  | reference
  /-- A query binds no more variables than the database allows. -/
  | variableLimit
  deriving DecidableEq

namespace Constraint

/-- The number by which the constraint is reported. -/
def code : Constraint → Nat
  | .workflowId | .stateId | .ruleId => 1555
  | .creationState | .rulePair => 2067
  | .reference => 787
  | .variableLimit => 1

/-- What is reported to have failed. -/
def description : Constraint → String
  | .workflowId => "UNIQUE constraint failed: workflow.id"
  | .stateId => "UNIQUE constraint failed: workflow_state.id"
  | .ruleId => "UNIQUE constraint failed: workflow_rule.id"
  | .creationState => "UNIQUE constraint failed: workflow_state.workflow_id"
  | .rulePair =>
      "UNIQUE constraint failed: workflow_rule.workflow_id, workflow_rule.from_sid, " ++
        "workflow_rule.to_sid"
  | .reference => "FOREIGN KEY constraint failed"
  | .variableLimit => "too many SQL variables"

/-- What is said of a write or query that would break the constraint. -/
def message (constraint : Constraint) : String :=
  s!"error returned from database: (code: {constraint.code}) {constraint.description}"

end Constraint

end ContentWorkflow
