import ContentWorkflow.Proofs.Runs.Registry

/-!
# Creation states

A workflow gets its creation state when it is created, or later where it was imported without one.
From then on no call drops the state, takes it out of use or gives it another weight
(`Became.relabelled`), so it is always as it was made, except for its label. The first main theorem,
`creation_state_fixed`, says so of every run on a new site. Its weight is meant to put it in front
of all other states. The second, `creation_state_first_iff`, says that the weights of the others
decide about that, which are not bounded: `listed_behind` has a state in front of it.
-/

namespace ContentWorkflow

namespace State

variable {state state' : State} {operation : Operation}

/-- The state has the id, the weight and the activity that every creation state is made with. -/
structure AsMade (state : State) : Prop where
  id : state.id = MachineName.creationStateId state.workflowId
  weight : state.weight = creationWeight
  active : state.active = true

/-- A call changes nothing but the label of a creation state. -/
theorem Became.relabelled (h : state.Became operation state') (hcreation : state.creation = true) :
    ∃ label, state' = { state with label := label } := by
  have hother : ∀ {p : Prop}, ¬ (state.creation = false ∧ p) := by
    rintro p ⟨hfalse, -⟩
    cases hcreation.symm.trans hfalse
  obtain ⟨hid, hworkflow, hmark, hweight, hactive⟩ := h
  refine ⟨state'.label, ?_⟩
  rw [← hid, ← hworkflow, ← hmark, ← hweight.resolve_right hother, ← hactive.resolve_right hother]

/-- States that stand before each other have the same id. -/
theorem Before.id_eq (h : state.Before state') (h' : state'.Before state) :
    state.id = state'.id := by
  rcases h with h | ⟨hweight, hid⟩ <;> rcases h' with h' | ⟨hweight', hid'⟩
  · omega
  · omega
  · omega
  · exact String.le_antisymm hid hid'

/-- A state with the id and the weight of a creation state stands before the states that are
heavier, or as heavy with a greater id. -/
theorem AsMade.before_iff (h : state.AsMade) (other : State) :
    state.Before other ↔ -50 < other.weight ∨
      other.weight = -50 ∧ MachineName.creationStateId state.workflowId ≤ other.id := by
  rw [Before, h.weight, h.id, @eq_comm _ other.weight]
  rfl

/-- A creation state is selected by every filter that does not leave creation states out. -/
theorem matches_of_creation (hcreation : state.creation = true)
    {filter : StateFilter} (hfilter : filter ≠ .active) : state.Matches filter := by
  cases filter with
  | all => trivial
  | active => exact absurd rfl hfilter
  | activeCreation => exact Or.inr hcreation

end State

namespace Store

/-- Every creation state is as it was made. -/
def Founded (store : Store) : Prop :=
  ∀ state ∈ store.states, state.creation = true → state.AsMade

variable {store store' : Store} {operation : Operation} {state : State}

/-- A call keeps every creation state as it was made. -/
theorem Founded.registers (hfounded : store.Founded) (hkeys : store.Keyed)
    (h : store.Registers operation store') : store'.Founded := by
  intro state hstate hcreation
  obtain ⟨before, hbefore, hbecame⟩ | hnew := h.origin hkeys hstate
  · have hmarked := hbecame.creation.symm.trans hcreation
    obtain ⟨label, rfl⟩ := hbecame.relabelled hmarked
    have hmade := hfounded before hbefore hmarked
    exact ⟨hmade.id, hmade.weight, hmade.active⟩
  · cases hnew with
    | founded hmade =>
        rw [hmade]
        exact ⟨rfl, rfl, rfl⟩
    | added _ _ hmade =>
        rw [hmade] at hcreation
        cases hcreation

/-- A call keeps every creation state that is as it was made. -/
theorem Founded.keeps (hfounded : store.Founded) (hkeys : store.Keyed)
    (h : store.Registers operation store') (hstate : state ∈ store.states)
    (hcreation : state.creation = true) :
    ∃ label, { state with label := label } ∈ store'.states := by
  obtain ⟨after, hafter, hbecame⟩ | ⟨hinactive, -⟩ := h.fate hkeys hstate
  · obtain ⟨label, rfl⟩ := hbecame.relabelled hcreation
    exact ⟨label, hafter⟩
  · cases (hfounded state hstate hcreation).active.symm.trans hinactive

/-- A workflow has one creation state. -/
theorem Keyed.creation_unique (hkeys : store.Keyed) (hstate : state ∈ store.states)
    (hcreation : state.creation = true) {other : State} (hother : other ∈ store.states)
    (hmarked : other.creation = true) (hworkflow : other.workflowId = state.workflowId) :
    other = state :=
  List.inj_on_of_nodup_map hkeys.creation (List.mem_filter.2 ⟨hother, hmarked⟩)
    (List.mem_filter.2 ⟨hstate, hcreation⟩) hworkflow

/-- The creation state of a workflow is found. -/
theorem Keyed.creation_found (hkeys : store.Keyed) (hstate : state ∈ store.states)
    (hcreation : state.creation = true) :
    (store.statesOf state.workflowId).creation? = some state := by
  refine find_only (States.mem_of_list.2 (List.mem_filter.2 ⟨hstate, by simp⟩)) hcreation ?_
  intro other hother hmarked
  obtain ⟨hkept, hworkflow⟩ := List.mem_filter.1 (States.mem_of_list.1 hother)
  exact hkeys.creation_unique hstate hcreation hkept hmarked (of_decide_eq_true hworkflow)

end Store

namespace Session

variable {session : Session}

/-- After every run the creation states are as they were made, where they were before. -/
theorem serve_founded (hkeys : session.store.Keyed) (hfounded : session.store.Founded)
    (calls : List Call) : (session.serve calls).store.Founded := by
  refine (serve_induction (motive := fun reached =>
    reached.store.Keyed ∧ reached.store.Founded) ⟨hkeys, hfounded⟩ ?_).2
  rintro call - reached ⟨hkeys, hfounded⟩
  exact ⟨serve_keyed hkeys [call], hfounded.registers hkeys (call.after_registers reached)⟩

/-- After every run a creation state is kept, perhaps under another label. -/
theorem serve_creation_state (hkeys : session.store.Keyed) (hfounded : session.store.Founded)
    {state : State} (hstate : state ∈ session.store.states) (hcreation : state.creation = true)
    (calls : List Call) :
    ∃ label, { state with label := label } ∈ (session.serve calls).store.states := by
  refine (serve_induction (motive := fun reached =>
    reached.store.Keyed ∧ reached.store.Founded ∧
      ∃ label, { state with label := label } ∈ reached.store.states)
    ⟨hkeys, hfounded, state.label, hstate⟩ ?_).2.2
  rintro call - reached ⟨hkeys, hfounded, label, hkept⟩
  have hregisters := call.after_registers reached
  obtain ⟨relabelled, hafter⟩ := hfounded.keeps hkeys hregisters hkept hcreation
  exact ⟨serve_keyed hkeys [call], hfounded.registers hkeys hregisters, relabelled, hafter⟩

end Session

/-- The creation states of what is reachable are as they were made. -/
theorem Store.Reachable.founded {store : Store} (h : store.Reachable) : store.Founded := by
  obtain ⟨context, log, calls, rfl⟩ := h
  exact Session.serve_founded keyed_empty (fun _ hstate => absurd hstate List.not_mem_nil) calls

namespace Workflow

open ContentWorkflow.Action

variable {workflow : Workflow} {session : Session}

/-- A creation state that is kept is answered, and nothing is created. -/
theorem create_creation_state_kept {state : State}
    (h : (session.store.statesOf workflow.id).creation? = some state) :
    (workflow.createCreationState false).run session = (.ok (some state), session) := by
  rw [createCreationState, if_neg Bool.false_ne_true, run_bind, run_store]
  dsimp only
  rw [h]
  rfl

/-- In a store that some calls leave behind on a new site, a workflow has at most one creation
state. Whenever it has one, the state has the id and the weight of a creation state and is active,
it is kept like that by every further call, and creating it again changes nothing: it is answered
or, for a bulk import, nothing is. -/
theorem creation_state_fixed (hreach : session.store.Reachable) (workflow : Workflow) :
    (∀ state ∈ session.store.states, ∀ other ∈ session.store.states,
      state.creation = true → other.creation = true →
        state.workflowId = workflow.id → other.workflowId = workflow.id → other = state) ∧
      ∀ state ∈ session.store.states, state.creation = true → state.workflowId = workflow.id →
        state.id = MachineName.creationStateId workflow.id ∧ state.weight = -50 ∧
          state.active = true ∧
          (∀ calls, ∃ label, { state with label := label } ∈ (session.serve calls).store.states) ∧
          (workflow.createCreationState false).run session = (.ok (some state), session) ∧
          ∃ session', (workflow.createCreationState true).run session = (.ok none, session') ∧
            session'.store = session.store ∧ session'.context = session.context := by
  have hkeys := hreach.keyed
  have hfounded := hreach.founded
  constructor
  · intro state hstate other hother hcreation hmarked hworkflow hworkflow'
    exact hkeys.creation_unique hstate hcreation hother hmarked (hworkflow'.trans hworkflow.symm)
  · intro state hstate hcreation hworkflow
    obtain ⟨hid, hweight, hactive⟩ := hfounded state hstate hcreation
    rw [hworkflow] at hid
    refine ⟨hid, hweight, hactive, ?_, ?_, ?_⟩
    · exact Session.serve_creation_state hkeys hfounded hstate hcreation
    · exact create_creation_state_kept (hworkflow ▸ hkeys.creation_found hstate hcreation)
    · exact ⟨_, rfl, rfl, rfl⟩

/-- The small site answers the creation state that it was opened with. -/
theorem creation_state_fixed_small :
    Store.small.Reachable ∧ .creationOf "news" ∈ Store.small.states ∧
      (small.createCreationState false).run ⟨.small, .empty, []⟩ =
        (.ok (some (.creationOf "news")), ⟨.small, .empty, []⟩) := by
  have hstate : .creationOf "news" ∈ Store.small.states := by decide
  obtain ⟨-, -, -, -, hanswer, -⟩ := (@creation_state_fixed ⟨.small, .empty, []⟩
    Session.reachable_small small).2 (.creationOf "news") hstate rfl rfl
  exact ⟨Session.reachable_small, hstate, hanswer⟩

end Workflow

/-! ## The first state of a workflow -/

/-- The states of a list are put in order behind one of them exactly where it stands before all
others. -/
theorem States.head_iff {states : List State} {state : State} (hstate : state ∈ states)
    (hunique : ∀ other ∈ states, other.id = state.id → other = state) :
    (ofList states).toList.head? = some state ↔
      ∀ other ∈ states, other ≠ state → state.Before other := by
  have hsorted := pairwise_of_list states
  have hmem : ∀ {other}, other ∈ (ofList states).toList ↔ other ∈ states := mem_of_list
  generalize (ofList states).toList = sorted at *
  cases sorted with
  | nil => exact absurd (hmem.2 hstate) List.not_mem_nil
  | cons first rest =>
      obtain ⟨hfirst, -⟩ := List.pairwise_cons.1 hsorted
      rw [List.head?_cons, Option.some_inj]
      constructor
      · rintro rfl other hother hne
        exact hfirst other ((List.mem_cons.1 (hmem.2 hother)).resolve_left hne)
      · intro hbefore
        by_contra hne
        have hkept : first ∈ states := hmem.1 List.mem_cons_self
        have hrest : state ∈ rest := (List.mem_cons.1 (hmem.2 hstate)).resolve_left (Ne.symm hne)
        exact hne (hunique first hkept ((hfirst state hrest).id_eq (hbefore first hkept hne)))

/-- The weight that the operation gives to a state. -/
def Operation.weight? : Operation → Option Int
  | .createState _ _ weight => some weight
  | .updateState _ _ _ weight => weight
  | _ => none

namespace Store

/-- The states other than the creation states are heavier than those. -/
def Ranked (store : Store) : Prop :=
  ∀ state ∈ store.states, state.creation = false → State.creationWeight < state.weight

variable {store store' : Store} {operation : Operation} {state : State}

/-- A call that gives a state no less weight keeps the states heavier than creation states. -/
theorem Ranked.registers (hranked : store.Ranked) (hkeys : store.Keyed)
    (hheavy : ∀ weight ∈ operation.weight?, State.creationWeight < weight)
    (h : store.Registers operation store') : store'.Ranked := by
  intro state hstate hcreation
  obtain ⟨before, hbefore, hbecame⟩ | hnew := h.origin hkeys hstate
  · obtain hweight | ⟨-, workflow, label, hop⟩ := hbecame.weight
    · rw [hweight]
      exact hranked before hbefore (hbecame.creation.symm.trans hcreation)
    · exact hheavy state.weight (by rw [hop]; rfl)
  · cases hnew with
    | founded hmade =>
        rw [hmade] at hcreation
        cases hcreation
    | added hop _ hmade =>
        rw [hmade]
        exact hheavy _ (by rw [hop]; rfl)

/-- Of the states that a filter selects, one comes first exactly where it stands before the others.
-/
theorem Keyed.first_iff (hkeys : store.Keyed) (hstate : state ∈ store.states)
    {filter : StateFilter} (hmatches : state.Matches filter) :
    ((store.statesOf state.workflowId).filter filter).toList.head? = some state ↔
      ∀ other ∈ store.states, other.workflowId = state.workflowId → other ≠ state →
        other.Matches filter → state.Before other := by
  have hmem : ∀ {other}, other ∈ (store.statesOf state.workflowId).toList.filter
      (fun other => other.Matches filter) ↔
        (other ∈ store.states ∧ other.workflowId = state.workflowId) ∧ other.Matches filter := by
    simp [statesOf, States.mem_of_list]
  rw [States.filter, States.head_iff (hmem.2 ⟨⟨hstate, rfl⟩, hmatches⟩)]
  · constructor
    · intro h other hother hworkflow hne hselected
      exact h other (hmem.2 ⟨⟨hother, hworkflow⟩, hselected⟩) hne
    · intro h other hother hne
      obtain ⟨⟨hkept, hworkflow⟩, hselected⟩ := hmem.1 hother
      exact h other hkept hworkflow hne hselected
  · intro other hother hsame
    exact List.inj_on_of_nodup_map hkeys.states (hmem.1 hother).1.1 hstate hsame

end Store

/-- Where no call of a run gives a state a weight that is not above the one of creation states, the
states that it leaves behind are heavier than those. -/
theorem Session.serve_ranked {session : Session} {calls : List Call} (hkeys : session.store.Keyed)
    (hranked : session.store.Ranked)
    (hheavy : ∀ call ∈ calls, ∀ weight ∈ call.operation.weight?,
      State.creationWeight < weight) : (session.serve calls).store.Ranked := by
  refine (serve_induction (motive := fun reached =>
    reached.store.Keyed ∧ reached.store.Ranked) ⟨hkeys, hranked⟩ ?_).2
  rintro call hcall reached ⟨hkeys, hranked⟩
  exact ⟨serve_keyed hkeys [call],
    hranked.registers hkeys (hheavy call hcall) (call.after_registers reached)⟩

namespace Workflow

variable {workflow : Workflow}

/-- After every run on a new site, a creation state is the first of the states of its workflow, and
of those that are active, exactly where the other ones among them are heavier than it, or as heavy
with a greater id. Where every weight that a call of the run gives to a state is above -50, it is.
-/
theorem creation_state_first_iff (context : RequestContext) (log : List LogLine)
    (calls : List Call) {state : State}
    (hstate : state ∈ (Session.serve ⟨.empty, context, log⟩ calls).store.states)
    (hcreation : state.creation = true) (hworkflow : state.workflowId = workflow.id)
    {filter : StateFilter} (hfilter : filter ≠ .active) :
    ∃ states, (workflow.states filter).run (Session.serve ⟨.empty, context, log⟩ calls) =
        (.ok states, Session.serve ⟨.empty, context, log⟩ calls) ∧
      (states.toList.head? = some state ↔
        ∀ other ∈ (Session.serve ⟨.empty, context, log⟩ calls).store.states,
          other.workflowId = workflow.id → other ≠ state → other.Matches filter →
            -50 < other.weight ∨
              other.weight = -50 ∧ MachineName.creationStateId workflow.id ≤ other.id) ∧
      ((∀ call ∈ calls, ∀ weight ∈ call.operation.weight?, -50 < weight) →
        states.toList.head? = some state) := by
  have hreach : (Session.serve ⟨.empty, context, log⟩ calls).store.Reachable := ⟨_, _, _, rfl⟩
  have hfirst := hreach.keyed.first_iff hstate (State.matches_of_creation hcreation hfilter)
  simp only [(hreach.founded state hstate hcreation).before_iff, hworkflow] at hfirst
  refine ⟨_, rfl, hfirst, fun hheavy => hfirst.2 ?_⟩
  have hranked : (Session.serve ⟨.empty, context, log⟩ calls).store.Ranked :=
    Session.serve_ranked Store.keyed_empty (fun _ hkept => absurd hkept List.not_mem_nil) hheavy
  intro other hother hsame hne _
  cases hmarked : other.creation with
  | false => exact Or.inl (hranked other hother hmarked)
  | true =>
      -- there is no other creation state of the workflow
      exact absurd (hreach.keyed.creation_unique hstate hcreation hother hmarked
        (hsame.trans hworkflow.symm)) hne

/-- The creation state comes first where one state has been created behind it. -/
theorem creation_state_first_opened :
    ∃ states, (small.states .all).run (Session.serve ⟨.empty, .empty, []⟩ Session.opening) =
        (.ok states, Session.serve ⟨.empty, .empty, []⟩ Session.opening) ∧
      states.toList.head? = some (.creationOf "news") := by
  have hstate : .creationOf "news" ∈
      (Session.serve ⟨.empty, .empty, []⟩ Session.opening).store.states := by
    rw [Session.opened_store]
    decide
  have hheavy : ∀ call ∈ Session.opening, ∀ weight ∈ call.operation.weight?, -50 < weight := by
    decide
  obtain ⟨states, hrun, -, hfirst⟩ := @creation_state_first_iff small .empty [] Session.opening
    (.creationOf "news") hstate rfl rfl .all (by decide)
  exact ⟨states, hrun, hfirst hheavy⟩

/-- The small site with a third state, which is lighter than its creation state. -/
def fronted : Store :=
  { Store.small with
    states := Store.small.states ++ [.ofLabel "news" "news_early" "Early" (-100)] }

/-- A state that was created with a weight of -100 comes before the creation state, also among the
active ones. -/
theorem listed_behind :
    fronted.Reachable ∧ .creationOf "news" ∈ fronted.states ∧
      ∀ filter ∈ [StateFilter.all, .activeCreation],
        ∃ states, (small.states filter).run ⟨fronted, .empty, []⟩ =
            (.ok states, ⟨fronted, .empty, []⟩) ∧
          states.toList.head? = some (.ofLabel "news" "news_early" "Early" (-100)) := by
  have hreach : fronted.Reachable := by
    obtain ⟨⟨_, context, log⟩, rfl, hreach⟩ :=
      Session.reachable_small.after ⟨.small, none, .createState small "Early" (-100)⟩
    exact hreach
  refine ⟨hreach, by decide, ?_⟩
  intro filter hfilter
  have hfirst : State.ofLabel "news" "news_early" "Early" (-100) ∈ fronted.states := by decide
  refine ⟨_, rfl, (hreach.keyed.first_iff hfirst ?_).2 ?_⟩
  · revert filter
    decide
  · revert filter
    decide

end Workflow

end ContentWorkflow
