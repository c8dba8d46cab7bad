import ContentWorkflow.Proofs.Engine.Execution
import ContentWorkflow.Proofs.Runs.Administration

/-!
# The steps of a call

Whatever a call does to a session is a chain of effects: steps of the administration, courses of
the engine for transitions that the call submits, and single writes to the items and the pending
transitions. `Effect` lists them with the operation that has them, and the main theorem,
`call_effects`, says that a call has no others, so that an invariant of a run has to be checked once
for each of them. `Step` tells only the engine from everything else, which is enough for many
invariants (`Effect.step`).
-/

namespace ContentWorkflow

open Relation (ReflTransGen)

/-- A transition that is submitted to the engine for an item, by force or without. -/
structure Submission where
  item : Item
  force : Bool
  transition : Transition

/-- The transition, which names the state it leaves, is made by an update: the item moves unless the
transition is scheduled or was executed before, the state to reach belongs to the workflow, and the
transition leaves the state that the item is in, unless it was executed before or the request has
met it before. -/
structure Session.Updates (session : Session) (item : Item) (transition : Transition)
    (moving : Bool) : Prop where
  moving : moving = (!transition.scheduled && !transition.executed)
  named : transition.toSid ≠ ""
  known : (session.store.statesOf transition.workflowId).Known transition.toSid
  stays : transition.executed = true ∨
    (∃ remembered, session.context.marker? transition.markerKey = some remembered) ∨
    transition.fromSid =
      session.store.currentSid transition.workflowId item transition.fieldName

namespace Call

/-- The call submits the transition to the engine, when it finds the store. -/
inductive Submits (call : Call) (store : Store) : Submission → Prop where
  | execute {force : Bool} {transition : Transition} {item : Item}
      (hop : call.operation = .execute force transition)
      (hitem : store.item? transition.target = some item) :
      Submits call store ⟨item, force, transition⟩
  | update {force : Bool} {transition : Transition} {item : Item}
      (hop : call.operation = .update force transition)
      (hitem : store.item? transition.target = some item) :
      Submits call store ⟨item, force, transition⟩
  | updateContent {force : Bool} {transition : Transition} {item : Item}
      (hop : call.operation = .updateContent force transition item) :
      Submits call store ⟨item, force, transition⟩
  | reassigning {workflow : Workflow} {sid toSid : String} {agent : Agent} {target : Target}
      {fieldName : String} {item : Item}
      (hop : call.operation = .deactivateState workflow sid (some toSid) agent) :
      Submits call store ⟨item, true,
        .reassigning workflow.id target fieldName sid toSid agent call.platform.clock⟩
  | reverting {hid : Int} {agent : Agent} {record : HistoryRecord} {item : Item}
      (hop : call.operation = .revert hid agent) (hrecord : store.record? hid = some record) :
      Submits call store ⟨item, true, .reverting record agent call.platform.clock⟩
  | due {now : Int} {row : PendingRow} {item : Item} (hop : call.operation = .sweep now)
      (hrow : row ∈ store.pending) (hdue : row.timestamp ≤ now) :
      Submits call store ⟨item, true, row.toTransition.asDue⟩

/-- One step of the call, when it found the store. What is submitted is submitted while the store is
as the call found it, unless it is submitted by force and takes effect at once. -/
inductive Step (call : Call) (store : Store) (session session' : Session) : Prop where
  | administered (h : session.Administered session')
  | engaged {submission : Submission} {moving : Bool} {outcome : Outcome}
      (hsubmits : call.Submits store submission)
      (hmoment : session.store = store ∨
        submission.force = true ∧ submission.transition.scheduled = false)
      (hcourse : call.platform.Course submission.item submission.force
        (session.store.fill submission.item submission.transition) session moving outcome session')
  | scheduled {transition : Transition} (hop : call.operation = .schedule transition)
      (hstore : session'.store =
        (session.store.dropPendingFor transition.target transition.fieldName).addPending transition)
      (hcontext : session'.context = session.context)

/-- The call takes a state out of use. -/
def IsDeactivation (call : Call) : Prop :=
  ∃ workflow sid reassignTo agent, call.operation = .deactivateState workflow sid reassignTo agent

/-- One effect of the call, when it found the store. An item that is submitted is the kept one,
unless the caller holds it, and it is submitted to an update, unless the call executes a transition.
Where a state is taken out of use, the fields that are moved are bound to the workflow. -/
inductive Effect (call : Call) (store : Store) (session session' : Session) : Prop where
  | managed (h : session.Managed call.operation session')
  | purged {workflow : Workflow} {sid : String} (hop : call.operation = .purgeState workflow sid)
      (h : session.Purged call.operation sid session')
  | saved {item : Item} (hop : call.operation = .saveContent item) (hmoment : session.store = store)
      (hstore : session'.store = session.store.saveItem item)
      (hcontext : session'.context = session.context)
  | dismissed {now tid : Int} (hop : call.operation = .sweep now)
      (hstore : session'.store = session.store.dropPending tid)
      (hcontext : session'.context = session.context)
  | engaged {submission : Submission} {moving : Bool} {outcome : Outcome}
      (hsubmits : call.Submits store submission)
      (hmoment : session.store = store ∨
        submission.force = true ∧ submission.transition.scheduled = false)
      (hkept : session.store.item? submission.transition.target = some submission.item ∨
        ∃ force transition item, call.operation = .updateContent force transition item)
      (hupdates : session.Updates submission.item
          (session.store.fill submission.item submission.transition) moving ∨
        ∃ force transition, call.operation = .execute force transition)
      (hbound : ¬ call.IsDeactivation ∨ store.Binds submission.transition.target.entityType
        submission.transition.fieldName submission.transition.workflowId)
      (hcourse : call.platform.Course submission.item submission.force
        (session.store.fill submission.item submission.transition) session moving outcome session')
  | scheduled {transition : Transition} (hop : call.operation = .schedule transition)
      (hstore : session'.store =
        (session.store.dropPendingFor transition.target transition.fieldName).addPending transition)
      (hcontext : session'.context = session.context)

variable {call : Call} {store : Store} {session session' : Session} {item : Item} {force : Bool}
  {transition : Transition}

/-- An effect is a step. -/
theorem Effect.step (h : call.Effect store session session') :
    call.Step store session session' := by
  cases h with
  | managed h => exact .administered h.administered
  | purged _ h => exact .administered h.administered
  | saved _ _ hstore hcontext =>
      exact .administered
        ⟨Or.inr (hstore ▸ .saveItem _), congrArg RequestContext.markers hcontext⟩
  | dismissed _ hstore hcontext =>
      exact .administered
        ⟨Or.inr (hstore ▸ .dropPending _), congrArg RequestContext.markers hcontext⟩
  | engaged hsubmits hmoment _ _ _ hcourse => exact .engaged hsubmits hmoment hcourse
  | scheduled hop hstore hcontext => exact .scheduled hop hstore hcontext

/-- What leaves the store and the request as they were is a step of the administration. -/
theorem Effect.still (hstore : session'.store = session.store)
    (hcontext : session'.context = session.context) : call.Effect store session session' :=
  .managed ⟨Or.inl hstore, congrArg RequestContext.markers hcontext,
    Or.inl (congrArg RequestContext.choices hcontext)⟩

/-- Any call may have the effects of the administration. -/
theorem managed_effects {α : Type} {action : Action α}
    (h : action.Makes (Session.Managed call.operation)) : action.Makes (call.Effect store) :=
  h.mono fun _ _ => .managed

/-! ## Courses of the engine -/

/-- Executing a transition on its item has one effect. -/
theorem execute_on_effects {outcome : Outcome}
    (hsubmits : call.Submits store ⟨item, force, transition⟩)
    (hmoment : session.store = store ∨ force = true ∧ transition.scheduled = false)
    (hkept : session.store.item? transition.target = some item)
    (hexecutes : ∃ force transition, call.operation = .execute force transition)
    (h : call.platform.executeOn item force transition session = .ok (outcome, session')) :
    ReflTransGen (call.Effect store) session session' := by
  have hother : ¬ call.IsDeactivation := by
    rintro ⟨_, _, _, _, hop⟩
    obtain ⟨_, _, hexecutes⟩ := hexecutes
    cases hop.symm.trans hexecutes
  exact .single (.engaged hsubmits hmoment (Or.inl hkept) (Or.inr hexecutes) (Or.inl hother)
    (Platform.execute_on_course h))

/-- An update of an item has one effect. -/
theorem update_on_effects {outcome : Outcome}
    (hsubmits : call.Submits store ⟨item, force, transition⟩)
    (hmoment : session.store = store ∨ force = true ∧ transition.scheduled = false)
    (hkept : session.store.item? transition.target = some item ∨
      ∃ force transition item, call.operation = .updateContent force transition item)
    (hbound : ¬ call.IsDeactivation ∨
      store.Binds transition.target.entityType transition.fieldName transition.workflowId)
    (h : call.platform.updateOn item force transition session = .ok (outcome, session')) :
    ReflTransGen (call.Effect store) session session' := by
  cases Platform.update_on_cases h with
  | unreachable _ hstore hcontext => exact .single (.still hstore hcontext)
  | drifted _ _ _ _ hstore hcontext => exact .single (.still hstore hcontext)
  | carried hnamed hknown hstays hcourse =>
      exact .single (.engaged hsubmits hmoment hkept (Or.inl ⟨rfl, hnamed, hknown, hstays⟩) hbound
        hcourse)

/-- Executing a transition on its kept item has one effect. -/
theorem execute_effects {answer : String × Transition}
    (hsubmits : ∀ item, session.store.item? transition.target = some item →
      call.Submits store ⟨item, force, transition⟩)
    (hmoment : session.store = store ∨ force = true ∧ transition.scheduled = false)
    (hexecutes : ∃ force transition, call.operation = .execute force transition)
    (h : call.platform.execute force transition session = .ok (answer, session')) :
    ReflTransGen (call.Effect store) session session' := by
  obtain ⟨-, hstore, hcontext, -⟩ | ⟨item, outcome, hitem, hexecute, -⟩ :=
    Platform.execute_cases h
  · exact .single (.still hstore hcontext)
  · exact execute_on_effects (hsubmits item hitem) hmoment hitem hexecutes hexecute

/-- An update of a kept item has one effect. -/
theorem update_effects {answer : String × Transition}
    (hsubmits : ∀ item, session.store.item? transition.target = some item →
      call.Submits store ⟨item, force, transition⟩)
    (hmoment : session.store = store ∨ force = true ∧ transition.scheduled = false)
    (hbound : ¬ call.IsDeactivation ∨
      store.Binds transition.target.entityType transition.fieldName transition.workflowId)
    (h : call.platform.update force transition session = .ok (answer, session')) :
    ReflTransGen (call.Effect store) session session' := by
  obtain ⟨-, hstore, hcontext, -⟩ | ⟨item, outcome, hitem, hupdate, -⟩ :=
    Platform.update_cases h
  · exact .single (.still hstore hcontext)
  · exact update_on_effects (hsubmits item hitem) hmoment (Or.inl hitem) hbound hupdate

/-! ## Sweeps, reverts and states that are deactivated -/

/-- Taking up a transition that is due has one effect. -/
theorem take_up_effects {fate : Fate}
    (hsubmits : ∀ item, call.Submits store ⟨item, true, transition.asDue⟩)
    (hother : ¬ call.IsDeactivation)
    (h : call.platform.takeUp transition session = .ok (fate, session')) :
    ReflTransGen (call.Effect store) session session' := by
  rw [Platform.takeUp] at h
  split at h
  · cases h
    exact .single (.still rfl rfl)
  · next item hitem =>
      dsimp only at h
      split at h
      · cases h
        exact .single (.still rfl rfl)
      · obtain ⟨⟨outcome, after⟩, hupdate, h⟩ := Fault.bind_eq_ok.1 h
        cases h
        exact update_on_effects (hsubmits item) (Or.inr ⟨rfl, rfl⟩) (Or.inl hitem)
          (Or.inl hother) hupdate

/-- Taking up the transitions that are due takes them up one by one and drops each. -/
theorem take_up_all_effects {now : Int} {due : List Transition}
    (hop : call.operation = .sweep now)
    (hsubmits : ∀ transition ∈ due, ∀ item, call.Submits store ⟨item, true, transition.asDue⟩)
    (report : SweepReport) :
    Action.Makes (call.Effect store) (call.platform.takeUpAll due report) := by
  induction due generalizing report with
  | nil => exact .pure report
  | cons transition rest ih =>
      have hother : ¬ call.IsDeactivation := by simp [IsDeactivation, hop]
      rw [Platform.takeUpAll]
      refine .bind (.of_step fun session fate session' h => ?_) fun fate _ => ?_
      · exact take_up_effects (hsubmits transition List.mem_cons_self) hother h
      · refine .bind (.change fun session => .dismissed hop rfl rfl) fun _ _ => ?_
        exact ih (fun other hother => hsubmits other (List.mem_cons_of_mem transition hother)) _

/-- A sweep takes up what is pending and due when it begins. -/
theorem sweep_effects {now : Int} (hop : call.operation = .sweep now) (session : Session) :
    ReflTransGen (call.Effect session.store) session ((call.platform.sweep now).run session).2 := by
  -- what is due is listed once, when the sweep begins, and so was pending when the call came
  have hdue : ∀ transition ∈ session.store.due now, ∀ item,
      call.Submits session.store ⟨item, true, transition.asDue⟩ := by
    intro transition htransition item
    obtain ⟨row, hrow, rfl⟩ := List.mem_map.1 htransition
    obtain ⟨hrow, hdue⟩ := List.mem_filter.1 (List.mem_mergeSort.1 hrow)
    exact .due hop hrow (of_decide_eq_true hdue)
  rw [Platform.sweep, Action.run_bind, Action.run_store]
  refine Action.Makes.bind (managed_effects Action.managed_log) (fun _ _ => ?_) session
  refine .bind (take_up_all_effects hop hdue _) fun report _ => ?_
  exact .bind (managed_effects Action.managed_log) fun _ _ => .pure report

/-- Reverting a record submits one transition by force. -/
theorem revert_effects {hid : Int} {agent : Agent} (hop : call.operation = .revert hid agent)
    (session : Session) :
    ReflTransGen (call.Effect session.store) session
      ((call.platform.revert hid agent).run session).2 := by
  rw [Platform.revert, Platform.historyRecord, Action.run_bind, Action.run_bind, Action.run_store]
  dsimp only
  cases hrecord : session.store.record? hid with
  | none => exact .refl
  | some record =>
      refine (?_ : Action.Makes (call.Effect session.store) _) session
      refine .bind .store fun found _ => ?_
      split
      · exact .refuse_bind _
      · -- the transition back is forced and takes effect at once
        refine .bind (.of_step fun _ _ _ h => ?_) fun answer _ => ?_
        · exact update_effects (fun item _ => .reverting hop hrecord) (Or.inr ⟨rfl, rfl⟩)
            (Or.inl (by simp [IsDeactivation, hop])) h
        · split
          · exact .bind (managed_effects Action.managed_log) fun _ _ => .pure _
          · exact .pure _

/-- The items of a bound field are moved by force, one by one. -/
theorem reassign_field_effects {workflow : Workflow} {state target : State} {agent : Agent}
    (hop : call.operation = .deactivateState workflow state.id (some target.id) agent)
    {binding : FieldBinding}
    (hbound : store.Binds binding.entityType binding.fieldName workflow.id) (moved : Nat) :
    Action.Makes (call.Effect store)
      (workflow.reassignField call.platform state target agent binding moved) := by
  refine .bind .store fun found _ => .fold (fun moved id _ => ?_) moved
  refine .bind (.of_step fun session answer session' h => ?_) fun answer _ => .pure _
  refine update_effects (fun item _ => .reassigning hop) (Or.inr ⟨rfl, rfl⟩) (Or.inr ?_) h
  exact hbound

/-- The items that hold a state are moved to the other state by force. -/
theorem reassign_effects {workflow : Workflow} {state : State} {agent : Agent} {toSid : String}
    (hop : call.operation = .deactivateState workflow state.id (some toSid) agent)
    (session : Session) :
    ReflTransGen (call.Effect session.store) session
      ((workflow.reassign call.platform state agent toSid).run session).2 := by
  refine Action.steps_after .store fun found _ => ?_
  refine Action.steps_after (Workflow.reassignment_target_steps _) fun target htarget => ?_
  rw [← Workflow.reassignment_target_answers ⟨_, _, htarget⟩] at hop
  refine Action.steps_after (.bind .store fun _ _ => .pure _) fun bindings hbindings => ?_
  cases hbindings
  refine Action.Makes.fold (fun moved binding hbinding => ?_) 0 session
  obtain ⟨hmem, hworkflow⟩ := List.mem_filter.1 (List.mem_mergeSort.1 hbinding)
  have hworkflow : binding.workflowId = workflow.id := by simpa using hworkflow
  exact reassign_field_effects hop (hworkflow ▸ hmem) moved

/-- Deactivating a state moves its items by force, drops its rules and changes the state. -/
theorem deactivate_state_effects {workflow : Workflow} {sid : String} {reassignTo : Option String}
    {agent : Agent} (hop : call.operation = .deactivateState workflow sid reassignTo agent)
    (session : Session) :
    ReflTransGen (call.Effect session.store) session
      ((workflow.deactivateState call.platform sid reassignTo agent).run session).2 := by
  refine Action.steps_after (Workflow.state_steps sid) fun state hstate => ?_
  obtain rfl := Workflow.state_answers ⟨_, _, hstate⟩
  dsimp only
  split
  · exact .refl
  · -- what follows is the same whether items were moved or not
    have hrest : ∀ moved : Nat, Action.Makes (call.Effect session.store) do
        let _ ← Workflow.dropRules (← workflow.rulesTouching state.id)
        Action.change (·.setState { state with active := false })
        Action.log .info
          s!"deactivated state {state.id} of workflow {workflow.id}; {moved} item(s) moved"
        return moved := by
      intro moved
      refine .bind (Workflow.rules_touching_steps state.id) fun rules _ => ?_
      refine .bind (managed_effects (Workflow.drop_rules_steps (hop ▸ trivial) rules)) fun _ _ => ?_
      refine .bind (managed_effects (Action.managed_change fun _ => .setState _ (hop ▸ trivial)))
        fun _ _ => ?_
      exact .bind (managed_effects Action.managed_log) fun _ _ => .pure moved
    split
    · exact Action.steps_bind (reassign_effects hop session) fun moved middle _ =>
        hrest moved middle
    · exact Action.Makes.bind (.pure 0) (fun moved _ => hrest moved) session

/-! ## Calls -/

/-- What a call does is a chain of its effects. -/
theorem call_effects (call : Call) (session : Session) :
    ReflTransGen (call.Effect session.store) (call.before session) (call.after session) := by
  have hforget : ∀ {α : Type} {action : Action α},
      ReflTransGen (call.Effect session.store) (call.before session)
        (action.run (call.before session)).2 →
      ReflTransGen (call.Effect session.store) (call.before session)
        ((do let _ ← action : Action Unit).run (call.before session)).2 := by
    intro α action h
    rwa [Action.run_forget]
  have hquiet : ∀ {α : Type} {action : Action α}, action.Makes (Session.Managed call.operation) →
      ReflTransGen (call.Effect session.store) (call.before session)
        ((do let _ ← action : Action Unit).run (call.before session)).2 :=
    fun h => hforget (managed_effects h _)
  unfold after
  cases hop : call.operation with
  | createWorkflow id label settings bulkImport =>
      exact hquiet (Workflow.create_steps (hop ▸ trivial) id label settings bulkImport)
  | updateSettings workflow settings => exact hquiet (Workflow.update_settings_steps settings)
  | createCreationState workflow bulkImport =>
      exact hquiet (Workflow.create_creation_state_steps (hop ▸ trivial) bulkImport)
  | createState workflow label weight =>
      exact hquiet (Workflow.create_state_steps (hop ▸ trivial) label weight)
  | updateState workflow sid label weight =>
      exact hquiet (Workflow.update_state_steps (hop ▸ trivial) sid label weight)
  | purgeState workflow sid =>
      exact hforget
        ((Workflow.purge_state_steps (hop ▸ trivial) sid).mono (fun _ _ => .purged hop) _)
  | createRule workflow fromSid toSid => exact hquiet (Workflow.create_rule_steps hop)
  | setRuleRoles workflow id roles =>
      exact hquiet (Workflow.set_rule_roles_steps (hop ▸ trivial) id roles)
  | setRuleLabel workflow id label =>
      exact hquiet (Workflow.set_rule_label_steps (hop ▸ trivial) id label)
  | bindField entityType fieldName workflowId =>
      exact hquiet (FieldBinding.create_steps hop)
  | choices item fieldName agent fromSid force =>
      exact hquiet (Platform.choices_steps (hop ▸ trivial))
  | nextSid item fieldName agent force =>
      exact hquiet (Platform.next_sid_steps (hop ▸ trivial))
  | firstSid item fieldName agent force =>
      exact hquiet (Platform.first_sid_steps (hop ▸ trivial))
  | saveContent item =>
      rw [Operation.perform, Action.run_bind, Action.run_store]
      dsimp only
      split
      · exact .single (.saved hop rfl rfl rfl)
      · exact .refl
      · exact .refl
  | deactivateState workflow sid reassignTo agent =>
      exact hforget (deactivate_state_effects hop (call.before session))
  | execute force transition =>
      refine hforget (Action.steps_of_step fun answer session' h => ?_)
      exact execute_effects (fun item hitem => .execute hop hitem) (Or.inl rfl) ⟨_, _, hop⟩ h
  | update force transition =>
      refine hforget (Action.steps_of_step fun answer session' h => ?_)
      exact update_effects (fun item hitem => .update hop hitem) (Or.inl rfl)
        (Or.inl (by simp [IsDeactivation, hop])) h
  | updateContent force transition item =>
      refine hforget (Action.steps_of_step fun answer session' h => ?_)
      exact update_on_effects (.updateContent hop) (Or.inl rfl) (Or.inr ⟨_, _, _, hop⟩)
        (Or.inl (by simp [IsDeactivation, hop])) h
  | schedule transition =>
      exact .single (.scheduled hop Platform.schedule_store Platform.schedule_context)
  | sweep now => exact hforget (sweep_effects hop (call.before session))
  | revert hid agent => exact hforget (revert_effects hop (call.before session))

end Call

end ContentWorkflow
