import ContentWorkflow.Proofs.Administration.Creation

/-!
# New workflows

A workflow and its creation state are kept by two writes in a row. States are kept under their ids
alone, so the second write is refused where a state of another workflow has the id of the creation
state, and then the first one stays done. The main theorem, `create_founded`, says that this is the
only way for a refused workflow to leave anything behind, and that it takes a workflow whose id goes
on from the id of the other one.
-/

namespace ContentWorkflow

/-- Where a state of another workflow has the id of a creation state, the workflow of the creation
state is called like a state of the other one, and the name of the state ends like the id. -/
theorem MachineName.creation_state_id_shared {workflowId other name : String}
    (h : stateId other name = creationStateId workflowId) :
    other = workflowId ∨
      ∃ rest, workflowId = stateId other rest ∧ name = stateId rest "creation" := by
  have hjoined := congrArg String.toList h
  rw [creationStateId, state_id_chars, state_id_chars] at hjoined
  obtain ⟨between, hworkflow, hname⟩ | ⟨between, hother, hname⟩ :=
    List.append_eq_append_iff.1 hjoined
  · cases between with
    | nil => exact Or.inl (String.toList_inj.1 (by simpa using hworkflow.symm))
    | cons char between =>
        rw [List.cons_append] at hname
        obtain ⟨rfl, hrest⟩ := List.cons.inj hname
        refine Or.inr ⟨String.ofList between, String.toList_inj.1 ?_, String.toList_inj.1 ?_⟩
        · rw [state_id_chars, hworkflow, String.toList_ofList]
        · rw [state_id_chars, hrest, @String.toList_ofList between]
  · cases between with
    | nil => exact Or.inl (String.toList_inj.1 (by simpa using hother))
    | cons char between =>
        -- the other id would have to end within the name of the creation state
        obtain ⟨-, hrest⟩ := List.cons.inj hname
        have hmark : '_' ∈ "creation".toList := by simp [hrest]
        exact absurd hmark (by decide)

namespace Store

/-- The store with a further workflow that has no states yet. -/
def withWorkflow (store : Store) (workflow : Workflow) : Store :=
  { store with workflows := store.workflows ++ [.of workflow] }

variable {store : Store} {workflow : Workflow}

/-- A workflow is added under an id that no other one has. -/
theorem add_workflow_new (h : ¬ store.HasWorkflow workflow.id) :
    store.addWorkflow workflow = .ok (store.withWorkflow workflow) :=
  if_neg h

/-- A workflow that was added is kept. -/
theorem has_workflow_added : (store.withWorkflow workflow).HasWorkflow workflow.id := by
  rw [has_workflow_iff, withWorkflow, List.map_append]
  exact List.mem_append_right _ (List.mem_singleton_self _)

/-- A workflow that is not kept has no states. -/
theorem Keyed.no_states (hkeys : store.Keyed) {workflowId : String}
    (h : ¬ store.HasWorkflow workflowId) :
    ∀ state ∈ store.states, state.workflowId ≠ workflowId := by
  rintro state hstate rfl
  exact h (hkeys.state_workflows state hstate)

/-- A state of another workflow has the id of a creation state only where the id of the workflow
goes on from the id of the other one. -/
theorem Composed.creation_elsewhere (hcomposed : store.Composed) {workflowId : String}
    (h : store.Elsewhere workflowId (MachineName.creationStateId workflowId)) :
    ∃ state ∈ store.states, state.id = MachineName.creationStateId workflowId ∧
      ∃ rest, workflowId = MachineName.stateId state.workflowId rest := by
  obtain ⟨state, hstate, hid, hforeign⟩ := h
  obtain ⟨name, hname⟩ := hcomposed.states state hstate
  obtain hsame | ⟨rest, hlong, -⟩ := MachineName.creation_state_id_shared (hname.symm.trans hid)
  · exact absurd hsame hforeign
  · exact ⟨state, hstate, hid, rest, hlong⟩

end Store

namespace Workflow

open ContentWorkflow.Action

variable {workflow : Workflow} {session : Session}

/-- The creation state of a workflow without states is added, or it is refused because a state of
another workflow has its id. -/
theorem create_creation_state_run
    (hnone : ∀ state ∈ session.store.states, state.workflowId ≠ workflow.id)
    (hworkflow : session.store.HasWorkflow workflow.id) :
    (session.store.Elsewhere workflow.id (MachineName.creationStateId workflow.id) ∧
        (workflow.createCreationState false).run session =
          (.error (.constraint .stateId), session)) ∨
      ¬ session.store.Elsewhere workflow.id (MachineName.creationStateId workflow.id) ∧
        ∃ session', (workflow.createCreationState false).run session =
            (.ok (some (.creationOf workflow.id)), session') ∧
          session'.context = session.context ∧
          session'.store = { session.store with
            states := session.store.states ++ [.creationOf workflow.id] } := by
  have hcreation : (session.store.statesOf workflow.id).creation? = none := by
    refine List.find?_eq_none.2 fun state hstate => ?_
    obtain ⟨hkept, hown⟩ := List.mem_filter.1 (States.mem_of_list.1 hstate)
    exact absurd (of_decide_eq_true hown) (hnone state hkept)
  rw [createCreationState, if_neg Bool.false_ne_true, run_bind, run_store]
  dsimp only
  rw [hcreation]
  dsimp only
  rw [run_bind, run_attempt]
  have hfirst : ¬ ∃ other ∈ session.store.states,
      other.creation ∧ other.workflowId = workflow.id := by
    rintro ⟨other, hother, -, hown⟩
    exact hnone other hother hown
  by_cases htaken : (session.store.state? (MachineName.creationStateId workflow.id)).isSome
  · left
    constructor
    · obtain ⟨state, hstate, hid⟩ : ∃ state ∈ session.store.states,
          state.id = MachineName.creationStateId workflow.id := by
        simpa [Store.state?] using htaken
      exact ⟨state, hstate, hid, hnone state hstate⟩
    · simp [Store.addState, State.creationOf, htaken, hfirst]
  · right
    constructor
    · rintro ⟨state, hstate, hid, -⟩
      refine htaken ?_
      simpa [Store.state?] using ⟨state, hstate, hid⟩
    · have hadd : session.store.addState (.creationOf workflow.id) = .ok { session.store with
          states := session.store.states ++ [.creationOf workflow.id] } := by
        simp [Store.addState, State.creationOf, htaken, hfirst, hworkflow]
      rw [hadd]
      exact ⟨_, rfl, rfl, rfl⟩

/-- Creating a workflow under an id that is taken is refused and changes nothing. -/
theorem create_taken {id : String} (label : String) (settings : Settings) (bulkImport : Bool)
    (h : session.store.HasWorkflow id) :
    (create id label settings bulkImport).run session =
      (.error (.misuse (.workflowExists id)), session) := by
  rw [create, run_bind, run_store]
  dsimp only
  rw [if_pos h]
  rfl

/-- A workflow under a new id is kept, and what follows is the creation of its creation state. -/
theorem create_new {id : String} (label : String) (settings : Settings) (bulkImport : Bool)
    (h : ¬ session.store.HasWorkflow id) :
    ∃ middle, middle.store = session.store.withWorkflow ⟨id, label, settings⟩ ∧
      middle.context = session.context ∧
      (create id label settings bulkImport).run session =
        (do let _ ← createCreationState ⟨id, label, settings⟩ bulkImport
            return ⟨id, label, settings⟩ : Action Workflow).run middle := by
  refine ⟨{ session with store := session.store.withWorkflow ⟨id, label, settings⟩ }.note .info
    s!"created workflow {id}", rfl, rfl, ?_⟩
  rw [create, run_bind, run_store]
  dsimp only
  rw [if_neg h, run_bind, run_attempt, Store.add_workflow_new h]
  rfl

/-- A workflow under a new id is kept with its creation state, or without one for a bulk import,
where no state of another workflow has the id of the creation state. -/
theorem create_kept {id : String} (label : String) (settings : Settings) {bulkImport : Bool}
    (hkeys : session.store.Keyed) (hnew : ¬ session.store.HasWorkflow id)
    (hfree : bulkImport = true ∨ ¬ session.store.Elsewhere id (MachineName.creationStateId id)) :
    ∃ session', (create id label settings bulkImport).run session =
        (.ok ⟨id, label, settings⟩, session') ∧
      session'.context = session.context ∧
      session'.store = { session.store with
        workflows := session.store.workflows ++ [.of ⟨id, label, settings⟩]
        states := session.store.states ++ if bulkImport then [] else [.creationOf id] } := by
  obtain ⟨middle, hstore, hcontext, hrun⟩ := create_new label settings bulkImport hnew
  cases bulkImport with
  | true =>
      refine ⟨middle.note .debug s!"bulk import of workflow {id}; no creation state created",
        ?_, hcontext, ?_⟩
      · rw [hrun, createCreationState, if_pos rfl]
        rfl
      · rw [if_pos rfl, List.append_nil]
        exact hstore
  | false =>
      obtain ⟨helsewhere, -⟩ | ⟨-, session', hcreated, hcontext', hstore'⟩ :=
        @create_creation_state_run ⟨id, label, settings⟩ middle
          (by rw [hstore]; exact hkeys.no_states hnew)
          (by rw [hstore]; exact Store.has_workflow_added)
      · rw [hstore] at helsewhere
        exact absurd helsewhere (hfree.resolve_left Bool.false_ne_true)
      · refine ⟨session', ?_, hcontext'.trans hcontext, ?_⟩
        · rw [hrun, run_bind, hcreated]
          rfl
        · rw [hstore', hstore]
          rfl

/-- A workflow under a new id is kept without a creation state, and the caller is told of the state,
where a state of another workflow has the id of the creation state. -/
theorem create_halfway {id : String} (label : String) (settings : Settings)
    (hkeys : session.store.Keyed) (hnew : ¬ session.store.HasWorkflow id)
    (helsewhere : session.store.Elsewhere id (MachineName.creationStateId id)) :
    ∃ session', (create id label settings false).run session =
        (.error (.constraint .stateId), session') ∧
      session'.context = session.context ∧
      session'.store = { session.store with
        workflows := session.store.workflows ++ [.of ⟨id, label, settings⟩] } := by
  obtain ⟨middle, hstore, hcontext, hrun⟩ := create_new label settings false hnew
  obtain ⟨-, hrefused⟩ | ⟨hfree, -⟩ :=
    @create_creation_state_run ⟨id, label, settings⟩ middle
      (by rw [hstore]; exact hkeys.no_states hnew)
      (by rw [hstore]; exact Store.has_workflow_added)
  · refine ⟨middle, ?_, hcontext, hstore⟩
    rw [hrun, run_bind, hrefused]
  · rw [hstore] at hfree
    exact absurd helsewhere hfree

/-- Creating a workflow keeps it with its creation state, or without one for a bulk import, unless
its id is taken or a state of another workflow has the id of the creation state. Under a taken id
nothing changes. Where a state is in the way the caller is told of the state, the workflow stays
kept without a creation state, and the new id goes on from the id of the other workflow. -/
theorem create_founded (hreach : session.store.Reachable) (id label : String) (settings : Settings)
    (bulkImport : Bool) :
    (session.store.HasWorkflow id →
        (create id label settings bulkImport).run session =
          (.error (.misuse (.workflowExists id)), session)) ∧
      (¬ session.store.HasWorkflow id →
        bulkImport = true ∨ ¬ session.store.Elsewhere id (MachineName.creationStateId id) →
          ∃ session', (create id label settings bulkImport).run session =
              (.ok ⟨id, label, settings⟩, session') ∧
            session'.context = session.context ∧
            session'.store = { session.store with
              workflows := session.store.workflows ++ [.of ⟨id, label, settings⟩]
              states := session.store.states ++ if bulkImport then [] else [.creationOf id] }) ∧
      (¬ session.store.HasWorkflow id → bulkImport = false →
        session.store.Elsewhere id (MachineName.creationStateId id) →
          (∃ session', (create id label settings bulkImport).run session =
              (.error (.constraint .stateId), session') ∧
            session'.context = session.context ∧
            session'.store = { session.store with
              workflows := session.store.workflows ++ [.of ⟨id, label, settings⟩] }) ∧
          ∃ state ∈ session.store.states, state.id = MachineName.creationStateId id ∧
            ∃ rest, id = MachineName.stateId state.workflowId rest) := by
  refine ⟨create_taken label settings bulkImport, create_kept label settings hreach.keyed, ?_⟩
  rintro hnew rfl helsewhere
  exact ⟨create_halfway label settings hreach.keyed hnew helsewhere,
    hreach.composed.creation_elsewhere helsewhere⟩

/-- A second workflow is kept on the small site together with its creation state. -/
theorem create_founded_sports :
    Store.small.Reachable ∧ ¬ Store.small.HasWorkflow "sports" ∧
      ∃ session', (create "sports" "Sports" .standard false).run ⟨.small, .empty, []⟩ =
          (.ok ⟨"sports", "Sports", .standard⟩, session') ∧
        session'.store.HasWorkflow "sports" ∧ .creationOf "sports" ∈ session'.store.states := by
  have hnew : ¬ Store.small.HasWorkflow "sports" := by decide
  have hids : ∀ state ∈ Store.small.states, state.id ≠ MachineName.creationStateId "sports" := by
    decide +kernel
  have hfree : ¬ Store.small.Elsewhere "sports" (MachineName.creationStateId "sports") := by
    rintro ⟨state, hstate, hid, -⟩
    exact hids state hstate hid
  obtain ⟨session', hrun, -, hstore⟩ := (@create_founded ⟨.small, .empty, []⟩
    Session.reachable_small "sports" "Sports" .standard false).2.1 hnew (Or.inr hfree)
  refine ⟨Session.reachable_small, hnew, session', hrun, ?_, ?_⟩
  · rw [hstore]
    decide
  · rw [hstore]
    exact List.mem_append_right _ (List.mem_singleton_self _)

/-- The small site with a third state, whose id is the one of a creation state. -/
def anticipated : Store :=
  { Store.small with
    states := Store.small.states ++
      [.ofLabel "news" "news_draft_creation" "Draft creation" 3] }

/-- A workflow that is called like a state of the small site is refused for the sake of the third
state, and is kept all the same, without any state. -/
theorem founded_halfway :
    anticipated.Reachable ∧ ∃ fault session',
      (create "news_draft" "Drafts" .standard false).run ⟨anticipated, .empty, []⟩ =
          (.error fault, session') ∧
        ¬ anticipated.HasWorkflow "news_draft" ∧ session'.store.HasWorkflow "news_draft" ∧
        ∀ state ∈ session'.store.states, state.workflowId ≠ "news_draft" := by
  have hreach : anticipated.Reachable := by
    obtain ⟨⟨_, context, log⟩, rfl, hreach⟩ :=
      Session.reachable_small.after ⟨.small, none, .createState small "Draft creation" 3⟩
    exact hreach
  have hrefused : ((create "news_draft" "Drafts" .standard false).run
      ⟨anticipated, .empty, []⟩).1 = .error (.constraint .stateId) := by decide +kernel
  refine ⟨hreach, _, _, Prod.ext hrefused rfl, ?_⟩
  decide +kernel

end Workflow

end ContentWorkflow
