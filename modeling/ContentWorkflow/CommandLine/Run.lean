import ContentWorkflow.Administration.States
import ContentWorkflow.CommandLine.Command
import ContentWorkflow.Engine.Reversal
import ContentWorkflow.Engine.Sweep
import ContentWorkflow.Transition.Form

/-!
# Running a command

What each command does to a session, and the lines it prints.
-/

namespace ContentWorkflow.CommandLine

/-- Why a command printed nothing. -/
inductive CommandFault where
  | operation (fault : Fault)
  /-- The settings are no settings. -/
  | malformedSettings
  | noContent (target : Target)
  deriving DecidableEq

/-- What is said of the fault. -/
def CommandFault.message : CommandFault → String
  | .operation fault => fault.message
  | .malformedSettings => "malformed settings"
  | .noContent target => s!"no content {target.toText}"

/-- A command on a session. -/
abbrev CommandAction (α : Type) : Type :=
  ExceptT CommandFault (StateM Session) α

instance : MonadLift Action CommandAction :=
  ⟨fun action => ExceptT.adapt .operation action⟩

/-- The item that is kept for the target. -/
def loadItem (target : Target) : CommandAction Item := do
  match (← Action.store).item? target with
  | some item => return item
  | none => throw (.noContent target)

/-- The rule in a line. -/
def ruleLine (rule : Rule) : String :=
  s!"{rule.id}: {rule.fromSid} -> {rule.toSid} [{rule.roles.toText}]"

/-- The state in a line, crossed out where it is not active. -/
def stateLine (state : State) : String :=
  let mark := if state.active then " " else "x"
  s!"[{mark}] {state.id} ({state.label}, weight {state.weight})"

/-- The owner of an item. -/
def ownerText : Option Int → String
  | some owner => s!"Some({owner})"
  | none => "None"

/-- The transition of the item to the state, at the current time. -/
def transitionTo (platform : Platform) (workflow : Workflow) (target : Target)
    (fieldName toSid : String) (agent : Agent) (comment : Option String)
    (scheduleAt : Option Int) : Transition where
  id := 0
  workflowId := workflow.id
  fromSid := ""
  toSid := toSid
  target := target
  fieldName := fieldName
  agent := agent
  timestamp := scheduleAt.getD platform.clock
  comment := comment
  attached := Dictionary.empty
  scheduled := scheduleAt.isSome
  executed := false
  forced := false
  status := .new

/-- The item is moved, and the line tells where it is. -/
def moveLine (platform : Platform) (force : Bool) (transition : Transition) : Action String := do
  let (sid, transition) ← Action.ofStep (platform.update force transition)
  return s!"{transition.target.toText} is now in state {sid} ({transition.status.toText})"

/-- The item is added, unless it is kept already. -/
def addContent (platform : Platform) (target : Target) (owner : Option Int) :
    Action String := do
  let store ← Action.store
  if (store.item? target).isSome then
    return s!"content {target.toText} already exists"
  let item : Item := ⟨target, owner, platform.clock, Dictionary.empty, true⟩
  match platform.saving store item with
  | .saved => Action.change (·.saveItem item)
  | .refused => pure ()
  | .failed failure => throw (.save failure)
  return s!"added content {target.toText}"

/-- The workflow with its states and rules. -/
def showWorkflow (id : String) : Action (List String) := do
  let workflow ← Workflow.load id
  let states ← workflow.states .all
  let rules ← workflow.rules .every
  let remark :=
    if ← workflow.isValid then []
    else [s!"workflow {id} is not valid; see the log for details"]
  return [(toJson workflow).renderIndented, "states:"] ++ states.toList.map stateLine ++
    ["rules:"] ++ rules.toList.map (fun rule => "- " ++ ruleLine rule) ++ remark

/-- The item with its fields. -/
def itemLines (item : Item) : List String :=
  s!"{item.target.toText} owned by {ownerText item.owner}, changed at {item.changed}" ::
    item.fields.keys.map fun name =>
      let value := (item.fieldValue? name).getD ""
      s!"- {name}: {value}"

/-- The lines that the command prints. -/
def Command.run (platform : Platform) : Command → CommandAction (List String)
  | .addWorkflow id label bulkImport => do
      let workflow ← Workflow.create id label .standard bulkImport
      return [s!"created workflow {workflow.id}"]
  | .listWorkflows => do
      return (← Action.store).workflowList.map fun workflow =>
        s!"{workflow.id}: {workflow.label}"
  | .showWorkflow id => CommandLine.showWorkflow id
  | .setSettings id settings => do
      match (JsonForm.ofText? settings : Option Settings) with
      | none => throw .malformedSettings
      | some settings =>
          let _ ← (← Workflow.load id).updateSettings settings
          return [s!"updated settings of workflow {id}"]
  | .addState workflowId label weight => do
      let state ← (← Workflow.load workflowId).createState label weight
      return [s!"state {state.id} in workflow {workflowId}"]
  | .listStates workflowId filter => do
      return (← (← Workflow.load workflowId).states filter).toList.map fun state =>
        s!"{state.id} ({state.label})"
  | .deactivateState workflowId sid reassignTo agent => do
      let moved ← (← Workflow.load workflowId).deactivateState platform sid reassignTo agent
      return [s!"deactivated state {sid}; {moved} item(s) reassigned"]
  | .purgeState workflowId sid => do
      let report ← (← Workflow.load workflowId).purgeState sid
      return [s!"purged state {sid} along with {report.rules} rule(s) and " ++
        s!"{report.history} history record(s)"]
  | .addRule workflowId fromSid toSid roles label => do
      let workflow ← Workflow.load workflowId
      let rule ← workflow.createRule fromSid toSid
      let rule ← workflow.setRuleRoles rule.id (RoleSet.ofList roles)
      let rule ← match label with
        | some label => workflow.setRuleLabel rule.id (some label)
        | none => pure rule
      return ["rule " ++ ruleLine rule]
  | .listRules workflowId filter => do
      return [(toJson (← (← Workflow.load workflowId).rules filter)).renderIndented]
  | .bindField entityType fieldName workflowId => do
      let _ ← FieldBinding.create entityType fieldName workflowId
      return [s!"bound {entityType}.{fieldName} to workflow {workflowId}"]
  | .listFields workflowId => do
      return ((← Action.store).bindingList workflowId).map fun binding =>
        s!"{binding.entityType}.{binding.fieldName}: {binding.workflowId}"
  | .addContent target owner => do return [← CommandLine.addContent platform target owner]
  | .showContent target => do
      match (← Action.store).item? target with
      | some item => return itemLines item
      | none => return [s!"no content {target.toText}"]
  | .execute target fieldName toSid agent comment force scheduleAt => do
      let workflow ← Workflow.loadBound target.entityType fieldName
      return [← moveLine platform force <|
        transitionTo platform workflow target fieldName toSid agent comment scheduleAt]
  | .showOptions target fieldName agent => do
      let workflow ← Workflow.loadBound target.entityType fieldName
      let item ← loadItem target
      let current := (← Action.store).currentSid workflow.id item fieldName
      let choices ← platform.choices item fieldName agent current false
      return s!"{target.toText} is in state {current}; options:" ::
        choices.map fun choice => s!"- {choice.toText}"
  | .advance target fieldName agent => do
      let workflow ← Workflow.loadBound target.entityType fieldName
      let item ← loadItem target
      let next ← platform.nextSid item fieldName agent false
      return [← moveLine platform false <|
        transitionTo platform workflow target fieldName next agent none none]
  | .showPending target fieldName => do
      match (← Action.store).pendingFor? target fieldName with
      | some transition => return [(toJson transition).renderIndented]
      | none => return [s!"nothing pending for {target.toText} [{fieldName}]"]
  | .listHistory query => do
      return (← Action.ask (·.queryHistory query)).map (·.toText)
  | .revert hid agent => do
      let sid ← platform.revert hid agent
      return [s!"reverted history record {hid}; item is now in state {sid}"]
  | .sweep _ => do
      let report ← platform.sweep platform.clock
      Action.log .info s!"sweep: {report.toText}"
      return []

/-- The lines as one text, each with its end. -/
def printed (lines : List String) : String :=
  String.join (lines.map (· ++ "\n"))

end ContentWorkflow.CommandLine
