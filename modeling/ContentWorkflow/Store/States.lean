import ContentWorkflow.Store.Workflows

/-!
# Kept states
-/

namespace ContentWorkflow.Store

/-- The state with the id. -/
def state? (store : Store) (sid : String) : Option State :=
  store.states.find? (·.id = sid)

/-- The states of a workflow in their order. -/
def statesOf (store : Store) (workflowId : String) : States :=
  States.ofList (store.states.filter (·.workflowId = workflowId))

/-- A further state is kept. -/
def addState (store : Store) (state : State) : Except Constraint Store :=
  -- of several broken constraints that of the newest index is reported, and the reference last
  if state.creation ∧
      ∃ other ∈ store.states, other.creation ∧ other.workflowId = state.workflowId
  then .error .creationState
  else if (store.state? state.id).isSome then .error .stateId
  else if store.HasWorkflow state.workflowId then
    .ok { store with states := store.states ++ [state] }
  else .error .reference

/-- The state with the id of the given one gets its label, its weight and its activity. -/
def setState (store : Store) (state : State) : Store :=
  { store with
    states := store.states.map fun other =>
      if other.id = state.id then
        { other with label := state.label, weight := state.weight, active := state.active }
      else other }

/-- The state is no longer kept. -/
def dropState (store : Store) (sid : String) : Store :=
  { store with states := store.states.filter (·.id ≠ sid) }

end ContentWorkflow.Store
