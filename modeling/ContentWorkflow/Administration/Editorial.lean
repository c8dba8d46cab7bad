import ContentWorkflow.Administration.States

/-!
# The editorial workflow

A small site to start from: nodes are drafted, reviewed and published. Authors hand their drafts in,
and editors decide.
-/

namespace ContentWorkflow.Editorial

/-- The id of the workflow. -/
def workflowId : String :=
  "editorial"

/-- The field that holds the state of a node. -/
def fieldName : String :=
  "field_state"

/-- The grants of the site: one editor, and one administrator who may pass over the rules. -/
def grants : String :=
  "u:1, editor\nu:3, admin\nadmin, bypass editorial workflow_transition access\n"

/-- The labels and weights of the states. -/
def states : List (String × Int) :=
  [("Draft", 1), ("Review", 2), ("Published", 3)]

/-- The names of the states of each rule, its roles and its label. -/
def rules : List (String × String × List String × Option String) :=
  [("creation", "draft", [Role.authenticated], none),
    ("draft", "draft", [Role.authenticated], none),
    ("draft", "review", [Role.author, "editor"], none),
    ("review", "draft", ["editor"], some "Back to draft"),
    ("review", "review", [Role.authenticated], none),
    ("review", "published", ["editor"], none),
    ("published", "draft", ["editor"], none),
    ("published", "published", [Role.authenticated], none)]

/-- The nodes by number, owner and the name of the state they are in. -/
def nodes : List (Int × Int × Option String) :=
  [(1, 2, some "draft"), (2, 2, some "review"), (3, 1, some "published"), (4, 2, none)]

/-- A node of the site. -/
def node (id owner : Int) (name : Option String) : Item where
  target := ⟨"node", id⟩
  owner := some owner
  changed := 0
  fields := Dictionary.ofList <|
    (name.map fun name => (fieldName, MachineName.stateId workflowId name)).toList
  isNew := true

/-- The rule is created with its roles and its label. -/
def createRule (workflow : Workflow) (fromName toName : String) (roles : List String)
    (label : Option String) : Action Unit := do
  let rule ← workflow.createRule (MachineName.stateId workflowId fromName)
    (MachineName.stateId workflowId toName)
  let _ ← workflow.setRuleRoles rule.id (RoleSet.ofList roles)
  if label.isSome then
    let _ ← workflow.setRuleLabel rule.id label

/-- The workflow is created with its states and rules, its field is bound and its nodes
are saved. -/
def seed : Action Unit := do
  let workflow ← Workflow.create workflowId "Editorial" .standard false
  for (label, weight) in states do
    let _ ← workflow.createState label weight
  for (fromName, toName, roles, label) in rules do
    createRule workflow fromName toName roles label
  let _ ← FieldBinding.create "node" fieldName workflowId
  for (id, owner, name) in nodes do
    Action.change (·.saveItem (node id owner name))

end ContentWorkflow.Editorial
