import ContentWorkflow.Proofs.Engine.Update

/-!
# Executing and updating agree

An update looks at the state to reach and at the state that the item is in before it has the
transition examined, and it moves and saves the item before the transition is recorded. The main
theorem, `execute_update_agree`, says that this makes no difference to the transition, the history,
what is pending, the request and the log, for a transition that was not executed before and leads
from the state that the item is in to a state of its workflow, where items are saved. Only the item
tells the two apart, and what the caller of an update is told while the transition waits.
-/

namespace ContentWorkflow

/-- The session with other items kept. -/
def Session.withItems (session : Session) (items : List ItemRow) : Session :=
  { session with store := { session.store with items := items } }

/-- Keeping the items that are kept changes nothing. -/
theorem Session.with_own_items (session : Session) :
    session.withItems session.store.items = session :=
  rfl

namespace Platform

variable {platform : Platform} {item : Item} {force moving : Bool} {transition : Transition}
  {session session' : Session} {outcome : Outcome} {workflow : Workflow}

/-! ## The two ways on from an examination -/

/-- Filling in the state that is left before the examination makes no difference to it. -/
theorem examine_fill :
    platform.examine item force (session.store.fill item transition) session =
      platform.examine item force transition session := by
  rw [examine, examine, Store.fill_workflow]
  cases hworkflow : session.store.workflow? transition.workflowId with
  | none => rfl
  | some workflow =>
      dsimp only
      rw [Store.workflow_id hworkflow, Store.fill_field, Store.fill, Transition.leaving_leaving]

/-- Recording does not depend on the items, and leaves them alone. -/
theorem record_with_items (items : List ItemRow) :
    platform.record workflow transition (session.withItems items) =
      ((platform.record workflow transition session).1,
        (platform.record workflow transition session).2.withItems items) := by
  unfold record
  dsimp only
  split <;> rfl

/-- An item that can be saved is. -/
theorem save_saved {target : Target} (h : platform.saving session.store item = .saved) :
    platform.save target item session =
      (true, session.withItems (session.store.saveItem item).items) := by
  rw [save, h]
  rfl

/-- The examination leaves the store alone, and the transition scheduled as it was. -/
theorem Examined.still {verdict : Verdict} {examined : Transition}
    (h : platform.Examined item force transition session verdict examined session') :
    session'.store = session.store ∧ examined.scheduled = transition.scheduled := by
  cases h with
  | repeated _ _ hstore => exact ⟨hstore, rfl⟩
  | objected _ _ hstore => exact ⟨hstore, rfl⟩
  | empty _ hstore => exact ⟨hstore, rfl⟩
  | ready _ _ hstore => exact ⟨hstore, rfl⟩

/-- A call that moves the item of a transition that is not scheduled ends as one that leaves the
item alone does, but for the item. -/
theorem move_item_of_execute_on (hscheduled : transition.scheduled = false)
    (hsaving : ∀ item, platform.saving session.store item = .saved)
    (h : platform.executeOn item force transition session = .ok (outcome, session')) :
    ∃ movedItem items, platform.moveItem item force transition session =
      .ok ({ outcome with item := movedItem }, session'.withItems items) := by
  obtain ⟨⟨verdict, examined, middle⟩, hexamine, h⟩ := Fault.bind_eq_ok.1 h
  obtain ⟨hstore, hwaits⟩ := (examine_cases hexamine).still
  simp only [moveItem, hexamine, bind, Except.bind, pure, Except.pure]
  cases verdict with
  | settled sid =>
      cases h
      exact ⟨item, session'.store.items, rfl⟩
  | ready workflow =>
      have hnow : ¬ examined.scheduled = true := by simp [hwaits, hscheduled]
      dsimp only at h ⊢
      rw [if_neg hnow] at h
      cases h
      rw [save_saved (hstore ▸ hsaving _)]
      dsimp only
      rw [record_with_items]
      exact ⟨_, _, rfl⟩

/-! ## What a course does to the items -/

/-- A course that leaves the item alone, or does not execute the transition, leaves the items as
they were. -/
theorem Course.items_alone
    (h : platform.Course item force transition session moving outcome session')
    (halone : moving = false ∨ outcome.transition.status ≠ .executed) :
    session'.store.items = session.store.items := by
  cases h with
  | repeated _ _ hstore => rw [hstore]
  | objected _ _ hstore => rw [hstore]
  | empty _ hstore => rw [hstore]
  | unsaved _ _ _ hstore => rw [hstore]
  | scheduled _ _ _ hstore =>
      rw [hstore]
      rfl
  | recorded _ _ _ hstore => rw [hstore, Store.enter_items]
  | moved =>
      obtain hmoving | hstatus := halone
      · cases hmoving
      · exact absurd rfl hstatus

/-- A course that leaves the item alone executes no scheduled transition. -/
theorem Course.not_executed (hscheduled : transition.scheduled = true)
    (h : platform.Course item force transition session false outcome session') :
    outcome.transition.status ≠ .executed := by
  cases h with
  | repeated => simp [Transition.reject]
  | objected => simp [Transition.reject]
  | empty => simp [Transition.validated]
  | scheduled => simp
  | recorded hnow =>
      rw [hscheduled] at hnow
      cases hnow

/-! ## Agreement -/

/-- Executing a transition on a kept item answers what leaving the item alone ends with. -/
theorem execute_kept (hitem : session.store.item? transition.target = some item) :
    platform.execute force transition session = do
      let (outcome, session') ← platform.executeOn item force transition session
      return ((outcome.sid, outcome.transition), session') := by
  rw [execute, hitem]

/-- Updating a kept item answers what the update of the item ends with. -/
theorem update_kept (hitem : session.store.item? transition.target = some item) :
    platform.update force transition session = do
      let (outcome, session') ← platform.updateOn item force transition session
      return ((outcome.sid, outcome.transition), session') := by
  rw [update, hitem]

/-- Filling in the state that is left before a call that leaves the item alone makes no difference
to it. -/
theorem execute_on_fill :
    platform.executeOn item force (session.store.fill item transition) session =
      platform.executeOn item force transition session := by
  rw [executeOn, examine_fill, executeOn]

/-- An update of a transition that leads from the state that the item is in to a state of the
workflow is turned away by nothing but the examination. -/
theorem update_on_of_current (hexecuted : transition.executed = false)
    (hfrom : transition.fromSid = "" ∨ transition.fromSid =
      session.store.currentSid transition.workflowId item transition.fieldName)
    (hnamed : transition.toSid ≠ "")
    (hknown : (session.store.statesOf transition.workflowId).Known transition.toSid) :
    platform.updateOn item force transition session =
      if transition.scheduled then do
        let (outcome, session') ← platform.executeOn item force transition session
        return ({ outcome with
          sid := session.store.currentSid transition.workflowId item transition.fieldName },
          session')
      else platform.moveItem item force (session.store.fill item transition) session := by
  have hcurrent : (session.store.fill item transition).fromSid =
      session.store.currentSid transition.workflowId item transition.fieldName := by
    by_cases hunnamed : transition.fromSid = ""
    · rw [Store.fill_of_unnamed hunnamed]
    · rw [Store.fill_of_named hunnamed]
      exact hfrom.resolve_left hunnamed
  have hdrift : ¬ (¬ (session.store.fill item transition).executed ∧
      session.context.marker? (session.store.fill item transition).markerKey = none ∧
      (session.store.fill item transition).fromSid ≠
        session.store.currentSid transition.workflowId item transition.fieldName) :=
    fun h => h.2.2 hcurrent
  rw [updateOn, ← Store.fill, if_neg (by simpa using ⟨hnamed, hknown⟩), if_neg hdrift,
    execute_on_fill, Store.fill_scheduled, Store.fill_executed, hexecuted]
  rfl

/-- Executing a transition and updating its item end in the same fault, or with the same transition
and the same session but for the items. This holds of a transition that was not executed before and
leads from the state that the kept item is in to a state of its workflow, where items are saved.
Executing leaves the items alone, and so does updating unless the transition was executed; then the
item has arrived. What the caller of an update is told differs only while the transition waits, and
then is the state that the item is in. -/
theorem execute_update_agree (hitem : session.store.item? transition.target = some item)
    (hexecuted : transition.executed = false)
    (hfrom : transition.fromSid = "" ∨ transition.fromSid =
      session.store.currentSid transition.workflowId item transition.fieldName)
    (hnamed : transition.toSid ≠ "")
    (hknown : (session.store.statesOf transition.workflowId).Known transition.toSid)
    (hsaving : ∀ item, platform.saving session.store item = .saved) (force : Bool) :
    (session.store.workflow? transition.workflowId = none ∧
        platform.execute force transition session =
          .error (.misuse (.unknownWorkflow transition.workflowId)) ∧
        platform.update force transition session =
          .error (.misuse (.unknownWorkflow transition.workflowId))) ∨
      ∃ sid reached session' items,
        platform.execute force transition session = .ok ((sid, reached), session') ∧
        platform.update force transition session =
          .ok ((if transition.scheduled then
              session.store.currentSid transition.workflowId item transition.fieldName
            else sid, reached), session'.withItems items) ∧
        session'.store.items = session.store.items ∧
        (reached.status ≠ .executed → items = session.store.items) ∧
        (reached.status = .executed → platform.Arrived session item force
          (session.store.fill item transition) reached (session'.withItems items)) := by
  rw [execute_kept hitem, update_kept hitem,
    update_on_of_current hexecuted hfrom hnamed hknown]
  cases hworkflow : session.store.workflow? transition.workflowId with
  | none =>
      -- the examination ends in the fault, and both calls come to it
      left
      refine ⟨rfl, ?_, ?_⟩
      · rw [executeOn, examine_fault hworkflow]
        rfl
      · split
        · rw [executeOn, examine_fault hworkflow]
          rfl
        · rw [moveItem, examine_fill, examine_fault hworkflow]
          rfl
  | some workflow =>
      right
      obtain ⟨⟨outcome, session'⟩, hexecute⟩ :=
        execute_on_answers platform item force hworkflow
      have hcourse := execute_on_course hexecute
      have halone := hcourse.items_alone (Or.inl rfl)
      rw [hexecute]
      cases hscheduled : transition.scheduled with
      | true =>
          have hstatus := hcourse.not_executed (by simpa using hscheduled)
          refine ⟨outcome.sid, outcome.transition, session', session.store.items, rfl, ?_,
            halone, fun _ => rfl, fun hdone => absurd hdone hstatus⟩
          rw [if_pos rfl, ← halone, Session.with_own_items]
          rfl
      | false =>
          rw [← execute_on_fill] at hexecute
          obtain ⟨movedItem, items, hmove⟩ :=
            move_item_of_execute_on (by simpa using hscheduled) hsaving hexecute
          have hmoved := move_item_course hmove
          rw [Store.fill_fill] at hmoved
          refine ⟨outcome.sid, outcome.transition, session', items, rfl, ?_, halone, ?_, ?_⟩
          · rw [if_neg Bool.false_ne_true, hmove]
            rfl
          · exact fun hstatus => hmoved.items_alone (Or.inr hstatus)
          · intro hdone
            obtain ⟨workflow, -, hready, -, -, hreached, hstore, hcontext⟩ :=
              of_executed_course hmoved hdone
            rw [← Store.fill_target] at hitem
            rw [← Store.fill_to] at hnamed
            have harrived := arrived_of_moved hitem hnamed hready hstore hcontext
            rwa [← hreached] at harrived

/-- On the small site an editor takes the node live either way, and only an update moves the
node. -/
theorem execute_update_agree_small :
    ∃ reached session' items,
      small.execute false .small ⟨.small, .empty, []⟩ = .ok (("news_live", reached), session') ∧
        small.update false .small ⟨.small, .empty, []⟩ =
          .ok (("news_live", reached), session'.withItems items) ∧
        session'.store.items = Store.small.items ∧ items ≠ Store.small.items := by
  obtain ⟨reached, updated, hanswer, hstatus, -⟩ :=
    @update_of_admitted small .small false .small ⟨.small, .empty, []⟩ Store.keyed_small rfl rfl rfl
      (admitted_small rfl)
  obtain ⟨hunknown, -⟩ | ⟨sid, other, session', items, hexecute, hupdate, halone, -, harrived⟩ :=
    @execute_update_agree small .small .small ⟨.small, .empty, []⟩ rfl rfl (Or.inl rfl) (by decide)
      (Store.known_of_small rfl).2 (fun _ => rfl) false
  · cases hunknown
  · cases hanswer.symm.trans hupdate
    refine ⟨reached, session', items, hexecute, hupdate, halone, ?_⟩
    rintro rfl
    obtain ⟨stored, hstored, hfield, -⟩ := (harrived hstatus).field
    cases hstored
    exact absurd hfield (by decide)

end Platform

end ContentWorkflow
