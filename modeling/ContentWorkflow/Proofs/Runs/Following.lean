import ContentWorkflow.Proofs.Runs.CreationStates
import ContentWorkflow.Proofs.Runs.Memory
import ContentWorkflow.Proofs.Workflow.RuleTable

/-!
# The state that follows

Where a state to leave is given, the choices of an agent stand in the order of the states that they
name, no two of them name one state (`choices_ascend`), and none of them is the creation state
(`offered_not_creation`). The state that follows on the current one is the next in that order, so
it is the current one or stands behind it (`may_follow`). From the creation state it is the first
choice (`next_sid_of_creation`).
-/

namespace ContentWorkflow

/-! ## Where rules lead -/

namespace Store

variable {store : Store}

/-- A workflow has at most one rule for every two states. -/
theorem Keyed.rules_single (hkeys : store.Keyed) (workflowId : String) :
    (store.rulesOf workflowId).Single := by
  rw [Rules.Single, rulesOf, ((List.mergeSort_perm _ _).map _).nodup_iff, List.map_map]
  refine List.Nodup.map_on ?_ ((hkeys.rules.of_map _).filter _)
  intro row hrow other hother hpair
  obtain ⟨hrow, hworkflow⟩ := List.mem_filter.1 hrow
  obtain ⟨hother, hworkflow'⟩ := List.mem_filter.1 hother
  refine List.inj_on_of_nodup_map hkeys.rule_pairs hrow hother (Prod.ext ?_ hpair)
  exact (of_decide_eq_true hworkflow).trans (of_decide_eq_true hworkflow').symm

/-- The id of a creation state is left to creation states. -/
def Reserved (store : Store) : Prop :=
  ∀ state ∈ store.states, state.creation = false →
    state.id ≠ MachineName.creationStateId state.workflowId

/-- A call leaves the ids of creation states to them. -/
theorem Reserved.registers {store' : Store} {operation : Operation} (hreserved : store.Reserved)
    (hkeys : store.Keyed) (h : store.Registers operation store') : store'.Reserved := by
  intro state hstate hcreation
  obtain ⟨before, hbefore, hbecame⟩ | hnew := h.origin hkeys hstate
  · rw [hbecame.id, hbecame.workflow]
    exact hreserved before hbefore (hbecame.creation.symm.trans hcreation)
  · cases hnew with
    | founded hmade =>
        rw [hmade] at hcreation
        cases hcreation
    | added _ hid hmade =>
        rw [hmade]
        exact hid

/-- What the states that follow depend on: the keys hold, states have ids, what is named is kept,
and the ids of creation states are left to them. -/
structure Consistent (store : Store) : Prop where
  keyed : store.Keyed
  named : store.Named
  referenced : store.Referenced
  reserved : store.Reserved

/-- The store of a new site is consistent. -/
theorem consistent_empty : empty.Consistent where
  keyed := keyed_empty
  named := fun _ hstate => absurd hstate List.not_mem_nil
  referenced := by constructor <;> simp [empty]
  reserved := fun _ hstate => absurd hstate List.not_mem_nil

end Store

/-- A call keeps the store consistent. -/
theorem Call.after_consistent {call : Call} {session : Session}
    (h : session.store.Consistent) : (call.after session).store.Consistent where
  keyed := Session.serve_keyed h.keyed [call]
  named := Session.serve_named h.named [call]
  referenced := Call.after_referenced h.keyed h.referenced
  reserved := h.reserved.registers h.keyed (call.after_registers session)

namespace Store

variable {store : Store}

/-- What is reachable is consistent. -/
theorem Reachable.consistent (h : store.Reachable) : store.Consistent := by
  obtain ⟨context, log, calls, rfl⟩ := h
  exact Session.serve_induction (motive := fun reached => reached.store.Consistent)
    consistent_empty fun _ _ _ => Call.after_consistent

namespace Consistent

variable {workflowId fieldName sid : String} {item : Item}

/-- A known state has an id. -/
theorem known_named (h : store.Consistent) (hknown : (store.statesOf workflowId).Known sid) :
    sid ≠ "" := by
  obtain ⟨state, hstate, -, rfl⟩ := known_states_of.1 hknown
  exact h.named state hstate

/-- The state that an item is in has an id. -/
theorem current_named (h : store.Consistent) (workflowId : String) (item : Item)
    (fieldName : String) : store.currentSid workflowId item fieldName ≠ "" := by
  rw [currentSid]
  cases hfield : item.fieldValue? fieldName with
  | some sid => simpa using (Option.filter_eq_some_iff.1 hfield).2
  | none =>
      rw [Option.getD_none, previousSid]
      split
      · exact MachineName.state_id_named
      · split
        · next record hlatest =>
            exact h.known_named (h.referenced.record_to record (latest_found hlatest).1)
        · exact MachineName.state_id_named

/-- A rule of a workflow leads to a state other than its creation state. -/
theorem rule_not_creation (h : store.Consistent) {rule : Rule}
    (hkept : store.KeepsRule workflowId rule) :
    rule.toSid ≠ MachineName.creationStateId workflowId := by
  obtain ⟨row, hrow, rfl, rfl⟩ := hkept
  obtain ⟨state, hstate, hworkflow, hid, hcreation⟩ := h.referenced.rule_to row hrow
  have hother := h.reserved state hstate hcreation
  rwa [hworkflow, hid] at hother

end Consistent

end Store

/-! ## Choices -/

namespace Platform

open ContentWorkflow.Action

variable {platform : Platform} {store : Store} {workflow : Workflow} {item : Item}
  {fieldName fromSid toSid current : String} {agent : Agent} {force created : Bool}
  {session : Session} {choices : List Choice} {choice : Choice}

/-- Where a state to leave is given, the choices stand in the order of the states that they name,
and no state is named twice. -/
theorem choices_ascend (hkeys : store.Keyed) (hfrom : fromSid ≠ "") :
    (platform.choicesOf store workflow item agent fromSid force).Pairwise fun first second =>
      (store.statesOf workflow.id).Ascends first.sid second.sid := by
  rw [choicesOf, if_neg hfrom, List.pairwise_filterMap]
  refine (((hkeys.rules_single workflow.id).applying_ascends _ fromSid).filter _).imp ?_
  intro first second hascends _ hchoice _ hchoice'
  obtain ⟨low, hlow, rfl⟩ := Option.map_eq_some_iff.1 hchoice
  obtain ⟨high, hhigh, rfl⟩ := Option.map_eq_some_iff.1 hchoice'
  have hlowId : low.id = first.toSid := by simpa using List.find?_some hlow
  have hhighId : high.id = second.toSid := by simpa using List.find?_some hhigh
  rwa [hlowId, hhighId]

/-- A change that some rule lets an agent make does not lead to the creation state. -/
theorem Leads.not_creation {bypass : Bool} (hconsistent : store.Consistent)
    (h : platform.Leads store workflow item agent fromSid toSid bypass force) :
    toSid ≠ MachineName.creationStateId workflow.id := by
  obtain ⟨rule, ⟨-, -, hgoverns⟩, -⟩ := h
  obtain ⟨hkept, rfl⟩ := hgoverns.kept
  exact hconsistent.rule_not_creation hkept

/-- Where a state to leave is given, the creation state is no choice. -/
theorem offered_not_creation (hconsistent : store.Consistent) (hfrom : fromSid ≠ "")
    (hchoice : choice ∈ platform.choicesOf store workflow item agent fromSid force) :
    choice.sid ≠ MachineName.creationStateId workflow.id :=
  ((offered_iff hfrom).1 ⟨choice, hchoice, rfl⟩).not_creation hconsistent

/-- Behind the current state the next choice follows. -/
theorem following_found : followingFrom current created true choices = choices.head? := by
  cases choices with
  | nil => rfl
  | cons first rest => simp [followingFrom]

/-- For an item that is not in the creation state the scan goes on up to the current state. -/
theorem following_cons {first : Choice} {rest : List Choice} :
    following? (first :: rest) current false =
      if first.sid = current then rest.head? else following? rest current false := by
  simp only [following?, followingFrom]
  by_cases hcurrent : first.sid = current
  · simp [hcurrent, following_found]
  · simp [hcurrent]

/-- What follows on the current state is a choice. -/
theorem following_mem (h : following? choices current created = some choice) :
    choice ∈ choices := by
  have hscan : ∀ found, followingFrom current created found choices = some choice →
      choice ∈ choices := by
    clear h
    induction choices with
    | nil => simp [followingFrom]
    | cons first rest ih =>
        intro found hfollowing
        rw [followingFrom] at hfollowing
        split at hfollowing
        · cases hfollowing
          exact List.mem_cons_self
        · exact List.mem_cons_of_mem _ (ih _ hfollowing)
  exact hscan false h

/-- Among choices in an ascending order, what follows on the current state stands behind it, unless
that is the creation state. -/
theorem following_ascends {below : String → String → Prop}
    (hsorted : choices.Pairwise fun first second => below first.sid second.sid)
    (h : following? choices current false = some choice) : below current choice.sid := by
  induction choices with
  | nil => cases h
  | cons first rest ih =>
      obtain ⟨hfirst, hrest⟩ := List.pairwise_cons.1 hsorted
      rw [following_cons] at h
      split at h
      · -- the scan stops at the current state, and the next choice follows
        next hcurrent => exact hcurrent ▸ hfirst choice (List.mem_of_mem_head? h)
      · exact ih hrest h

/-- Among choices in an ascending order that name the current state and one above it, some choice
follows. -/
theorem following_some {states : States}
    (hsorted : choices.Pairwise fun first second => states.Ascends first.sid second.sid)
    (hcurrent : ∃ choice ∈ choices, choice.sid = current)
    (habove : ∃ choice ∈ choices, states.Ascends current choice.sid) :
    ∃ choice, following? choices current false = some choice := by
  induction choices with
  | nil => simp at hcurrent
  | cons first rest ih =>
      obtain ⟨hfirst, hrest⟩ := List.pairwise_cons.1 hsorted
      obtain ⟨high, hhigh, habove⟩ := habove
      by_cases hsame : first.sid = current
      · -- the higher state is another one, so the scan does not end with the current one
        rw [following_cons, if_pos hsame]
        obtain rfl | hhigh := List.mem_cons.1 hhigh
        · exact absurd hsame.symm habove.ne
        · exact Option.isSome_iff_exists.1 (List.isSome_head?.2 (List.ne_nil_of_mem hhigh))
      · rw [following_cons, if_neg hsame]
        obtain ⟨choice, hchoice, rfl⟩ := hcurrent
        have hbehind := (List.mem_cons.1 hchoice).resolve_left fun h => hsame (h ▸ rfl)
        refine ih hrest ⟨choice, hbehind, rfl⟩ ⟨high, ?_, habove⟩
        refine (List.mem_cons.1 hhigh).resolve_left ?_
        rintro rfl
        exact ((hfirst choice hbehind).trans habove).ne rfl

/-- The state that is answered as the next one among the choices. -/
def followingSid (choices : List Choice) (current : String) (created : Bool) : String :=
  ((following? choices current created).map (·.sid)).getD current

/-- What may follow on the current state for an agent without force: that state itself, or one that
some rule lets the agent take the item to, which is above the current one unless that is the
creation state. -/
def MayFollow (platform : Platform) (store : Store) (workflowId : String) (item : Item)
    (agent : Agent) (current next : String) : Prop :=
  next = current ∨ ∃ workflow, workflow.id = workflowId ∧
    platform.Leads store workflow item agent current next
      (platform.mayBypass agent workflow.id) false ∧
    (current ≠ MachineName.creationStateId workflowId →
      (store.statesOf workflowId).Ascends current next)

/-- What follows on the current state among the choices of an agent may follow on it. -/
theorem may_follow (hconsistent : store.Consistent) (hnamed : current ≠ "") :
    platform.MayFollow store workflow.id item agent current
      (followingSid (platform.choicesOf store workflow item agent current false) current
        (decide (current = MachineName.creationStateId workflow.id))) := by
  rw [followingSid]
  cases hfollowing : following? (platform.choicesOf store workflow item agent current false) current
      (decide (current = MachineName.creationStateId workflow.id)) with
  | none => exact Or.inl rfl
  | some choice =>
      refine Or.inr ⟨workflow, rfl, ?_, ?_⟩
      · have hleads := (offered_iff hnamed).1 ⟨choice, following_mem hfollowing, rfl⟩
        rwa [Bool.false_or] at hleads
      · intro hleft
        rw [decide_eq_false hleft] at hfollowing
        exact following_ascends (choices_ascend hconsistent.keyed hnamed) hfollowing

/-- Another state that may follow is known and is not the creation state, and it is above the
current one unless that is the creation state. -/
theorem MayFollow.other (hconsistent : store.Consistent) {workflowId next : String}
    (h : platform.MayFollow store workflowId item agent current next) (hother : next ≠ current) :
    next ≠ MachineName.creationStateId workflowId ∧ (store.statesOf workflowId).Known next ∧
      (current ≠ MachineName.creationStateId workflowId →
        (store.statesOf workflowId).Ascends current next) := by
  obtain ⟨workflow, rfl, hleads, hascends⟩ := h.resolve_left hother
  obtain ⟨rule, ⟨-, hknown, -⟩, -⟩ := id hleads
  exact ⟨hleads.not_creation hconsistent, hknown, hascends⟩

/-- Asking for the next state, where the request does not remember the choices, answers the one that
follows among those that are worked out. -/
theorem next_sid_run
    (hbound : session.store.workflowForField? item.target.entityType fieldName = some workflow)
    (hcurrent : session.store.currentSid workflow.id item fieldName = current)
    (hfresh : session.context.choices? ⟨item.target, fieldName, current, agent, force⟩ = none) :
    (platform.nextSid item fieldName agent force).run session =
      (.ok (followingSid (platform.choicesOf session.store workflow item agent current force)
          current (decide (current = MachineName.creationStateId workflow.id))),
        session.remember ⟨item.target, fieldName, current, agent, force⟩
          (platform.choicesOf session.store workflow item agent current force)) := by
  have hworkflow := bound_workflow_ok.2 hbound
  have hlift : (liftM (Except.ok workflow : Except Fault Workflow) : Action Workflow).run session =
      (.ok workflow, session) := rfl
  simp only [nextSid, run_bind, run_store, hworkflow, hlift, hcurrent, choices_run_eq, hfresh]
  rfl

/-- Asking for the next state without force, where the request does not remember the choices,
answers one that may follow. -/
theorem next_sid_answers (platform : Platform) (agent : Agent)
    (hconsistent : session.store.Consistent) {workflowId : String}
    (hbound : session.store.Binds item.target.entityType fieldName workflowId)
    (hcurrent : session.store.currentSid workflowId item fieldName = current)
    (hfresh : session.context.choices? ⟨item.target, fieldName, current, agent, false⟩ = none) :
    ∃ next session', (platform.nextSid item fieldName agent false).run session =
        (.ok next, session') ∧ session'.store = session.store ∧
      platform.MayFollow session.store workflowId item agent current next := by
  obtain ⟨workflow, hfound, rfl⟩ := hconsistent.keyed.workflow_for_binds hbound
  have hnamed : current ≠ "" := hcurrent ▸ hconsistent.current_named workflow.id item fieldName
  exact ⟨_, _, next_sid_run hfound hcurrent hfresh, rfl, may_follow hconsistent hnamed⟩

/-- Asking for the first state, where the request does not remember the choices, answers the first
one among those that are worked out. -/
theorem first_sid_run (platform : Platform)
    (hbound : session.store.workflowForField? item.target.entityType fieldName = some workflow)
    (hfresh : session.context.choices? ⟨item.target, fieldName,
      MachineName.creationStateId workflow.id, agent, force⟩ = none) :
    ∃ session', (platform.firstSid item fieldName agent force).run session =
      (.ok ((platform.choicesOf session.store workflow item agent
        (MachineName.creationStateId workflow.id) force).head?.map (·.sid)), session') := by
  have hworkflow := bound_workflow_ok.2 hbound
  have hlift : (liftM (Except.ok workflow : Except Fault Workflow) : Action Workflow).run session =
      (.ok workflow, session) := rfl
  simp only [firstSid, run_bind, run_store, hworkflow, hlift, choices_run_eq, hfresh]
  split
  · exact ⟨_, rfl⟩
  · exact ⟨_, rfl⟩

/-- From a state that is no choice the first choice follows, where the item is in the creation
state. -/
theorem following_first (hother : ∀ choice ∈ choices, choice.sid ≠ current) :
    following? choices current true = choices.head? := by
  cases choices with
  | nil => rfl
  | cons first rest =>
      have hfirst : first.sid ≠ current := hother first List.mem_cons_self
      simp [following?, followingFrom, hfirst]

/-- On an item in the creation state, a request that does not remember the choices answers the first
state as the next one, and the creation state where there is no first one. -/
theorem next_sid_of_creation (platform : Platform) (hconsistent : session.store.Consistent)
    {workflowId : String} (hbound : session.store.Binds item.target.entityType fieldName workflowId)
    (hcreation : session.store.currentSid workflowId item fieldName =
      MachineName.creationStateId workflowId)
    (hfresh : session.context.choices? ⟨item.target, fieldName,
      MachineName.creationStateId workflowId, agent, force⟩ = none) :
    ∃ first session' session'',
      (platform.firstSid item fieldName agent force).run session = (.ok first, session') ∧
        (platform.nextSid item fieldName agent force).run session =
          (.ok (first.getD (MachineName.creationStateId workflowId)), session'') := by
  obtain ⟨workflow, hfound, rfl⟩ := hconsistent.keyed.workflow_for_binds hbound
  have hother : ∀ choice ∈ platform.choicesOf session.store workflow item agent
      (MachineName.creationStateId workflow.id) force,
      choice.sid ≠ MachineName.creationStateId workflow.id :=
    fun choice hchoice => offered_not_creation hconsistent MachineName.state_id_named hchoice
  obtain ⟨session', hfirst⟩ := platform.first_sid_run hfound hfresh
  have hnext := @next_sid_run platform _ _ _ _ _ _ _ hfound hcreation hfresh
  rw [decide_eq_true rfl, followingSid, following_first hother] at hnext
  exact ⟨_, session', _, hfirst, hnext⟩

end Platform

end ContentWorkflow
