import ContentWorkflow.Store.Basic

/-!
# Kept workflows and field bindings
-/

namespace ContentWorkflow

/-- The workflow of a row. -/
def WorkflowRow.toWorkflow (row : WorkflowRow) : Workflow :=
  ⟨row.id, row.label, row.settings.value⟩

/-- The row of a workflow. -/
def WorkflowRow.of (workflow : Workflow) : WorkflowRow :=
  ⟨workflow.id, workflow.label, Document.of workflow.settings⟩

@[simp] theorem WorkflowRow.to_workflow_of (workflow : Workflow) :
    (of workflow).toWorkflow = workflow := by
  simp [toWorkflow, of]

namespace Store

/-- The workflow with the id. -/
def workflow? (store : Store) (id : String) : Option Workflow :=
  (store.workflows.find? (·.id = id)).map (·.toWorkflow)

/-- Every workflow, by id. -/
def workflowList (store : Store) : List Workflow :=
  (store.workflows.map (·.toWorkflow)).mergeSort fun first second => decide (first.id ≤ second.id)

/-- The id belongs to a workflow that is kept. -/
def HasWorkflow (store : Store) (id : String) : Prop :=
  (store.workflow? id).isSome

instance (store : Store) (id : String) : Decidable (store.HasWorkflow id) :=
  inferInstanceAs (Decidable (_ = true))

/-- A further workflow is kept. -/
def addWorkflow (store : Store) (workflow : Workflow) : Except Constraint Store :=
  if store.HasWorkflow workflow.id then .error .workflowId
  else .ok { store with workflows := store.workflows ++ [.of workflow] }

/-- The workflow gets other settings. -/
def setSettings (store : Store) (id : String) (settings : Settings) : Store :=
  { store with
    workflows := store.workflows.map fun row =>
      if row.id = id then { row with settings := Document.of settings } else row }

/-- The binding of the field. -/
def binding? (store : Store) (entityType fieldName : String) : Option FieldBinding :=
  store.bindings.find? fun binding =>
    binding.entityType = entityType ∧ binding.fieldName = fieldName

/-- The workflow that the field is bound to. -/
def workflowForField? (store : Store) (entityType fieldName : String) : Option Workflow :=
  (store.binding? entityType fieldName).bind fun binding => store.workflow? binding.workflowId

/-- The bindings, all of them or those to one workflow, by entity type and field. -/
def bindingList (store : Store) (workflowId : Option String) : List FieldBinding :=
  (store.bindings.filter fun binding => ∀ id ∈ workflowId, binding.workflowId = id).mergeSort
    fun first second =>
      decide (first.entityType < second.entityType ∨
        first.entityType = second.entityType ∧ first.fieldName ≤ second.fieldName)

/-- The field is bound to the workflow, in place of the workflow it was bound to. -/
def bind (store : Store) (binding : FieldBinding) : Except Constraint Store :=
  if store.HasWorkflow binding.workflowId then
    .ok { store with
      bindings :=
        if (store.binding? binding.entityType binding.fieldName).isSome then
          store.bindings.map fun other =>
            if other.entityType = binding.entityType ∧ other.fieldName = binding.fieldName
            then binding else other
        else store.bindings ++ [binding] }
  else .error .reference

end Store

end ContentWorkflow
