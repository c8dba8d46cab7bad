import ContentWorkflow.Engine.Choices

/-!
# Administering workflows

Creating workflows, looking them up, and binding fields to them. A workflow starts with its creation
state, unless it is imported together with states of its own.
-/

namespace ContentWorkflow

namespace Workflow

/-- The workflow with the id. -/
def load (id : String) : Action Workflow := do
  Action.demand ((← Action.store).workflow? id) (.unknownWorkflow id)

/-- The workflow that the field is bound to. -/
def loadBound (entityType fieldName : String) : Action Workflow := do
  (← Action.store).boundWorkflow entityType fieldName

/-- The creation state of the workflow, which is created where there is none. A workflow that is
imported brings its own. -/
def createCreationState (workflow : Workflow) (bulkImport : Bool) : Action (Option State) := do
  if bulkImport then
    Action.log .debug
      s!"bulk import of workflow {workflow.id}; no creation state created"
    return none
  match ((← Action.store).statesOf workflow.id).creation? with
  | some state => return some state
  | none =>
      let state := State.creationOf workflow.id
      Action.attempt (·.addState state)
      Action.log .info s!"created creation state {state.id} for workflow {workflow.id}"
      return some state

/-- A workflow is created, with its creation state unless it is imported. -/
def create (id label : String) (settings : Settings) (bulkImport : Bool) : Action Workflow := do
  if (← Action.store).HasWorkflow id then
    Action.refuse (.workflowExists id)
  let workflow : Workflow := ⟨id, label, settings⟩
  Action.attempt (·.addWorkflow workflow)
  Action.log .info s!"created workflow {id}"
  let _ ← workflow.createCreationState bulkImport
  return workflow

/-- The workflow gets other settings. -/
def updateSettings (workflow : Workflow) (settings : Settings) : Action Workflow := do
  if ¬ (← Action.store).HasWorkflow workflow.id then
    Action.refuse (.unknownWorkflow workflow.id)
  Action.change (·.setSettings workflow.id settings)
  return { workflow with settings := settings }

end Workflow

/-- The field is bound to the workflow. -/
def FieldBinding.create (entityType fieldName workflowId : String) : Action FieldBinding := do
  if ¬ (← Action.store).HasWorkflow workflowId then
    Action.refuse (.unknownWorkflow workflowId)
  let binding : FieldBinding := ⟨entityType, fieldName, workflowId⟩
  Action.attempt (·.bind binding)
  Action.log .info s!"bound field {fieldName} of {entityType} to workflow {workflowId}"
  return binding

end ContentWorkflow
