import ContentWorkflow.Proofs.Administration.Founding
import ContentWorkflow.Proofs.Runs.Confinement

/-!
# What becomes of states

Six operations write states. `after_registers` says what each of them may do to the table, whether
it gives an answer or ends in a fault, and that no other operation does anything to it. For a single
state this comes to two things: a state that is kept after a call was kept before it, up to what one
call may change of it, or it is new (`Registers.origin`), and a state that was kept before a call is
kept after it, or it was out of use and is purged (`Registers.fate`).
-/

namespace ContentWorkflow

/-- What the operation does to the table of states: nothing, or it adds the first creation state of
a workflow or a state under a label, or it changes, retires or purges one kept state. -/
inductive Store.Registers (store : Store) (operation : Operation) (store' : Store) : Prop where
  | same (hstates : store'.states = store.states)
  | founded (workflowId : String)
      (hfirst : ∀ state ∈ store.states, state.creation = true → state.workflowId ≠ workflowId)
      (hstates : store'.states = store.states ++ [.creationOf workflowId])
  | added {workflow : Workflow} {label : String} {weight : Int}
      (hop : operation = .createState workflow label weight)
      (hid : MachineName.stateIdOfLabel workflow.id label ≠ MachineName.creationStateId workflow.id)
      (hstates : store'.states = store.states ++
        [.ofLabel workflow.id (MachineName.stateIdOfLabel workflow.id label) label weight])
  | changed {workflow : Workflow} {label : Option String} {weight : Option Int} {state : State}
      (hop : operation = .updateState workflow state.id label weight)
      (hstate : state ∈ store.states) (hworkflow : state.workflowId = workflow.id)
      (hfixed : weight = none ∨ state.creation = false)
      (hstates : store'.states = (store.setState { state with
        label := label.getD state.label, weight := weight.getD state.weight }).states)
  | retired {workflow : Workflow} {reassignTo : Option String} {agent : Agent} {state : State}
      (hop : operation = .deactivateState workflow state.id reassignTo agent)
      (hstate : state ∈ store.states) (hworkflow : state.workflowId = workflow.id)
      (hcreation : state.creation = false)
      (hstates : store'.states = (store.setState { state with active := false }).states)
  | purged {workflow : Workflow} {sid : String} (hop : operation = .purgeState workflow sid)
      (hpurged : store.Purged workflow.id sid store')

/-- The state that a workflow finds is kept, belongs to the workflow and has the id. -/
theorem Store.state_kept {store : Store} {workflowId sid : String} {state : State}
    (h : (store.statesOf workflowId).get? sid = some state) :
    state ∈ store.states ∧ state.workflowId = workflowId ∧ state.id = sid := by
  obtain ⟨hkept, hworkflow⟩ :=
    List.mem_filter.1 (States.mem_of_list.1 (List.mem_of_find?_eq_some h))
  exact ⟨hkept, by simpa using hworkflow, by simpa using List.find?_some h⟩

/-! ## The operations that write states -/

namespace Workflow

open ContentWorkflow.Action

/-- Creating the creation state leaves the states as they were, or adds it where the workflow has
none. -/
theorem create_creation_state_states (workflow : Workflow) (bulkImport : Bool)
    (session : Session) :
    ((workflow.createCreationState bulkImport).run session).2.store.states =
        session.store.states ∨
      (∀ state ∈ session.store.states, state.creation = true → state.workflowId ≠ workflow.id) ∧
        ((workflow.createCreationState bulkImport).run session).2.store.states =
          session.store.states ++ [.creationOf workflow.id] := by
  rw [createCreationState]
  split
  · exact Or.inl rfl
  · rw [run_bind, run_store]
    dsimp only
    split
    · exact Or.inl rfl
    · rw [run_bind, run_attempt]
      cases hadd : session.store.addState (.creationOf workflow.id) with
      | error constraint => exact Or.inl rfl
      | ok store =>
          obtain ⟨-, hfirst, -, rfl⟩ := Store.add_state_ok hadd
          exact Or.inr ⟨hfirst rfl, rfl⟩

/-- Creating a workflow leaves the states as they were, or adds the creation state. -/
theorem create_registers (id label : String) (settings : Settings) (bulkImport : Bool)
    (operation : Operation) (session : Session) :
    session.store.Registers operation
      ((create id label settings bulkImport).run session).2.store := by
  by_cases htaken : session.store.HasWorkflow id
  · rw [create_taken label settings bulkImport htaken]
    exact .same rfl
  · obtain ⟨middle, hstore, -, hrun⟩ := create_new label settings bulkImport htaken
    have hstates : middle.store.states = session.store.states := by
      rw [hstore]
      rfl
    -- the answer is the workflow and not its creation state, which leaves the session as it is
    have hlast : ((create id label settings bulkImport).run session).2 =
        ((createCreationState ⟨id, label, settings⟩ bulkImport).run middle).2 := by
      rw [hrun, run_bind]
      split
      · next hcreated => rw [hcreated]; rfl
      · next hfault => rw [hfault]
    rw [hlast]
    obtain hsame | ⟨hfirst, hadded⟩ :=
      create_creation_state_states ⟨id, label, settings⟩ bulkImport middle
    · exact .same (hsame.trans hstates)
    · rw [hstates] at hfirst hadded
      exact .founded id hfirst hadded

/-- Creating a state adds it under its label, or leaves the states as they were. -/
theorem create_state_registers (workflow : Workflow) (label : String) (weight : Int)
    (session : Session) :
    session.store.Registers (.createState workflow label weight)
      ((workflow.createState label weight).run session).2.store := by
  rw [createState]
  dsimp only
  split
  · exact .same rfl
  · next hid =>
      rw [run_bind, run_store]
      dsimp only
      split
      · exact .same rfl
      · rw [run_bind, run_attempt]
        cases hadd : session.store.addState (.ofLabel workflow.id
            (MachineName.stateIdOfLabel workflow.id label) label weight) with
        | error constraint => exact .same rfl
        | ok store =>
            obtain ⟨-, -, -, rfl⟩ := Store.add_state_ok hadd
            exact .added rfl hid rfl

/-- Updating a state changes the kept state, but not the weight of a creation state. -/
theorem update_state_registers (workflow : Workflow) (sid : String) (label : Option String)
    (weight : Option Int) (session : Session) :
    session.store.Registers (.updateState workflow sid label weight)
      ((workflow.updateState sid label weight).run session).2.store := by
  rw [updateState, run_bind, state_run]
  cases hfound : (session.store.statesOf workflow.id).get? sid with
  | none => exact .same rfl
  | some state =>
      obtain ⟨hstate, hworkflow, rfl⟩ := Store.state_kept hfound
      dsimp only
      split
      · exact .same rfl
      · next hfixed =>
          refine .changed rfl hstate hworkflow ?_ rfl
          cases weight with
          | none => exact Or.inl rfl
          | some weight => exact Or.inr (by simpa using hfixed)

/-- Moving the items that hold a state leaves the states as they were, also where it ends in
a fault. -/
theorem reassign_states (workflow : Workflow) (platform : Platform) (state : State) (agent : Agent)
    (sid : String) (session : Session) :
    ((workflow.reassign platform state agent sid).run session).2.store.states =
      session.store.states := by
  refine @Makes.keeps _ _ _ (fun session => session.store.states) ?_ session
  refine .bind .store fun _ _ => .bind (reassignment_target_steps _) fun target _ => ?_
  refine .bind (.bind .store fun _ _ => .pure _) fun bindings _ => ?_
  refine .fold (fun moved binding _ => ?_) 0
  refine .bind .store fun _ _ => .fold (fun moved id _ => ?_) moved
  refine .bind (.of_step fun _ _ _ h => .single ?_) fun _ _ => .pure _
  exact (Platform.update_confined h).states

/-- Deactivating a state leaves the states as they were, or it comes to withdrawing a state of the
workflow that is not its creation state while the states are as they were. -/
theorem deactivate_state_cases (workflow : Workflow) (platform : Platform) (sid : String)
    (reassignTo : Option String) (agent : Agent) (session : Session) :
    ((workflow.deactivateState platform sid reassignTo agent).run session).2.store.states =
        session.store.states ∨
      ∃ state moved middle, (session.store.statesOf workflow.id).get? sid = some state ∧
        state.creation = false ∧ middle.store.states = session.store.states ∧
        (workflow.deactivateState platform sid reassignTo agent).run session =
          (workflow.withdraw state moved).run middle := by
  rw [deactivateState, run_bind, state_run]
  cases hfound : (session.store.statesOf workflow.id).get? sid with
  | none => exact Or.inl rfl
  | some state =>
      dsimp only
      split
      · exact Or.inl rfl
      · next hcreation =>
          have hcreation : state.creation = false := by simpa using hcreation
          cases reassignTo with
          | none => exact Or.inr ⟨state, 0, session, rfl, hcreation, rfl, rfl⟩
          | some toSid =>
              dsimp only
              have hsame := reassign_states workflow platform state agent toSid session
              rw [run_bind]
              split
              · next moved middle hmoved =>
                  rw [hmoved] at hsame
                  exact Or.inr ⟨state, moved, middle, rfl, hcreation, hsame, rfl⟩
              · next fault middle hfault =>
                  rw [hfault] at hsame
                  exact Or.inl hsame

/-- Deactivating a state leaves the states as they were, or takes a kept state out of use that is
not a creation state. -/
theorem deactivate_state_registers (workflow : Workflow) (platform : Platform) (sid : String)
    (reassignTo : Option String) (agent : Agent) (session : Session) :
    session.store.Registers (.deactivateState workflow sid reassignTo agent)
      ((workflow.deactivateState platform sid reassignTo agent).run session).2.store := by
  obtain hsame | ⟨state, moved, middle, hfound, hcreation, hstates, hrun⟩ :=
    deactivate_state_cases workflow platform sid reassignTo agent session
  · exact .same hsame
  · obtain ⟨hstate, hworkflow, rfl⟩ := Store.state_kept hfound
    obtain ⟨last, hwithdrawn, hlast⟩ := withdraw_run workflow state moved middle
    rw [hrun, hwithdrawn]
    refine .retired rfl hstate hworkflow hcreation ?_
    rw [hlast, Store.setState, Store.setState, hstates]

end Workflow

namespace Call

/-- Every call does to the table of states what its operation may do. -/
theorem after_registers (call : Call) (session : Session) :
    session.store.Registers call.operation (call.after session).store := by
  by_cases hon : call.operation.OnStates
  · unfold after
    cases hop : call.operation with
    | createWorkflow id label settings bulkImport =>
        rw [Operation.perform, Action.run_forget]
        exact Workflow.create_registers id label settings bulkImport _ (call.before session)
    | createCreationState workflow bulkImport =>
        rw [Operation.perform, Action.run_forget]
        obtain hsame | ⟨hfirst, hadded⟩ :=
          Workflow.create_creation_state_states workflow bulkImport (call.before session)
        · exact .same hsame
        · exact .founded workflow.id hfirst hadded
    | createState workflow label weight =>
        rw [Operation.perform, Action.run_forget]
        exact Workflow.create_state_registers workflow label weight (call.before session)
    | updateState workflow sid label weight =>
        rw [Operation.perform, Action.run_forget]
        exact Workflow.update_state_registers workflow sid label weight (call.before session)
    | deactivateState workflow sid reassignTo agent =>
        rw [Operation.perform, Action.run_forget]
        exact Workflow.deactivate_state_registers workflow call.platform sid reassignTo agent
          (call.before session)
    | purgeState workflow sid =>
        rw [Operation.perform, Action.run_forget]
        obtain ⟨-, hsame⟩ | hpurged :=
          Workflow.purge_state_run workflow sid (call.before session)
        · exact .same (congrArg Store.states hsame)
        · exact .purged rfl hpurged
    | _ => simp [Operation.OnStates, hop] at hon
  · refine .same (after_flow (motive := fun store => store.states = session.store.states) rfl
      (fun hflow hsame => hflow.states.trans hsame) (fun hwrite hsame => ?_)
      (fun hop _ => absurd (hop ▸ trivial) hon))
    exact (hwrite.tables.1.resolve_right hon).trans hsame

end Call

/-! ## Single states -/

/-- What a call of the operation may make of a kept state. Its weight is set by an update and its
activity is taken by a deactivation, and only where it is not a creation state. -/
structure State.Became (operation : Operation) (state state' : State) : Prop where
  id : state'.id = state.id
  workflow : state'.workflowId = state.workflowId
  creation : state'.creation = state.creation
  weight : state'.weight = state.weight ∨ state.creation = false ∧ ∃ workflow label,
    operation = .updateState workflow state.id label (some state'.weight)
  active : state'.active = state.active ∨ state.creation = false ∧ state'.active = false ∧
    ∃ workflow reassignTo agent, workflow.id = state.workflowId ∧
      operation = .deactivateState workflow state.id reassignTo agent

/-- The state is new to the store: it is the first creation state of its workflow, or it is added
under a label that does not name a creation state. -/
inductive State.New (operation : Operation) (store : Store) (state : State) : Prop where
  | founded (hstate : state = .creationOf state.workflowId)
      (hfirst : ∀ other ∈ store.states, other.creation = true → other.workflowId ≠ state.workflowId)
  | added {workflow : Workflow} {label : String} {weight : Int}
      (hop : operation = .createState workflow label weight)
      (hid : MachineName.stateIdOfLabel workflow.id label ≠ MachineName.creationStateId workflow.id)
      (hstate : state = .ofLabel workflow.id (MachineName.stateIdOfLabel workflow.id label) label
        weight)

namespace State.Became

variable {state : State} {workflow : Workflow}

/-- A state may stay as it is. -/
theorem refl (operation : Operation) (state : State) : state.Became operation state where
  id := rfl
  workflow := rfl
  creation := rfl
  weight := Or.inl rfl
  active := Or.inl rfl

/-- An update gives a state a label and a weight. -/
theorem updated (label : Option String) {weight : Option Int}
    (hfixed : weight = none ∨ state.creation = false) :
    state.Became (.updateState workflow state.id label weight)
      { state with label := label.getD state.label, weight := weight.getD state.weight } where
  id := rfl
  workflow := rfl
  creation := rfl
  weight := by
    cases weight with
    | none => exact Or.inl rfl
    | some weight =>
        exact Or.inr ⟨hfixed.resolve_left (Option.some_ne_none _), workflow, label, rfl⟩
  active := Or.inl rfl

/-- A deactivation takes a state out of use. -/
theorem retired (reassignTo : Option String) (agent : Agent)
    (hworkflow : state.workflowId = workflow.id) (hcreation : state.creation = false) :
    state.Became (.deactivateState workflow state.id reassignTo agent)
      { state with active := false } where
  id := rfl
  workflow := rfl
  creation := rfl
  weight := Or.inl rfl
  active := Or.inr ⟨hcreation, rfl, workflow, reassignTo, agent, hworkflow.symm, rfl⟩

end State.Became

namespace Store

variable {store store' : Store} {operation : Operation} {state state' : State}

/-- Where a kept state is changed as the operation may change it, every state becomes what it may.
-/
theorem Keyed.set_state_became (hkeys : store.Keyed) (hstate : state ∈ store.states)
    (hbecame : state.Became operation state') :
    ∃ change : State → State, (store.setState state').states = store.states.map change ∧
      ∀ other ∈ store.states, other.Became operation (change other) := by
  refine ⟨_, rfl, fun other hother => ?_⟩
  split
  · next hsame =>
      obtain rfl := List.inj_on_of_nodup_map hkeys.states hother hstate (hsame.trans hbecame.id)
      exact ⟨rfl, rfl, rfl, hbecame.weight, hbecame.active⟩
  · exact .refl operation other

namespace Registers

/-- A call makes of every kept state what it may, or it keeps them all and a new one, or it purges
one. -/
theorem rows (hkeys : store.Keyed) (h : store.Registers operation store') :
    (∃ change : State → State, store'.states = store.states.map change ∧
        ∀ state ∈ store.states, state.Became operation (change state)) ∨
      (∃ state, store'.states = store.states ++ [state] ∧ state.New operation store) ∨
      ∃ workflow sid, operation = .purgeState workflow sid ∧
        store.Purged workflow.id sid store' := by
  cases h with
  | same hstates =>
      refine Or.inl ⟨id, by simpa using hstates, fun state _ => .refl operation state⟩
  | founded workflowId hfirst hstates => exact Or.inr (Or.inl ⟨_, hstates, .founded rfl hfirst⟩)
  | added hop hid hstates => exact Or.inr (Or.inl ⟨_, hstates, .added hop hid rfl⟩)
  | changed hop hstate hworkflow hfixed hstates =>
      rw [hop, hstates]
      exact Or.inl (hkeys.set_state_became hstate (.updated _ hfixed))
  | retired hop hstate hworkflow hcreation hstates =>
      rw [hop, hstates]
      exact Or.inl (hkeys.set_state_became hstate (.retired _ _ hworkflow hcreation))
  | purged hop hpurged => exact Or.inr (Or.inr ⟨_, _, hop, hpurged⟩)

/-- A state that is kept after a call was kept before it, as what the call made it from, or is new.
-/
theorem origin (hkeys : store.Keyed) (h : store.Registers operation store')
    (hstate : state ∈ store'.states) :
    (∃ before ∈ store.states, before.Became operation state) ∨ state.New operation store := by
  obtain ⟨change, hstates, hbecame⟩ | ⟨added, hstates, hnew⟩ | ⟨workflow, sid, -, hpurged⟩ :=
    h.rows hkeys
  · rw [hstates] at hstate
    obtain ⟨before, hbefore, rfl⟩ := List.mem_map.1 hstate
    exact Or.inl ⟨before, hbefore, hbecame before hbefore⟩
  · rw [hstates] at hstate
    obtain hkept | hadded := List.mem_append.1 hstate
    · exact Or.inl ⟨state, hkept, .refl operation state⟩
    · rw [List.mem_singleton.1 hadded]
      exact Or.inr hnew
  · rw [hpurged.rest] at hstate
    exact Or.inl ⟨state, (List.mem_filter.1 hstate).1, .refl operation state⟩

/-- A state that was kept before a call is kept after it, as what the call made of it, or it was out
of use and the call purged it. -/
theorem fate (hkeys : store.Keyed) (h : store.Registers operation store')
    (hstate : state ∈ store.states) :
    (∃ after ∈ store'.states, state.Became operation after) ∨
      state.active = false ∧ ∃ workflow, operation = .purgeState workflow state.id := by
  obtain ⟨change, hstates, hbecame⟩ | ⟨added, hstates, -⟩ | ⟨workflow, sid, hop, hpurged⟩ :=
    h.rows hkeys
  · rw [hstates]
    exact Or.inl ⟨_, List.mem_map_of_mem hstate, hbecame state hstate⟩
  · rw [hstates]
    exact Or.inl ⟨state, List.mem_append_left _ hstate, .refl operation state⟩
  · by_cases hsid : state.id = sid
    · obtain ⟨found, hfound, -, rfl, hactive⟩ := hpurged.found
      obtain rfl := List.inj_on_of_nodup_map hkeys.states hstate hfound hsid
      exact Or.inr ⟨hactive, workflow, hop⟩
    · exact Or.inl ⟨state, hpurged.keeps hstate hsid, .refl operation state⟩

end Registers

end Store

end ContentWorkflow
