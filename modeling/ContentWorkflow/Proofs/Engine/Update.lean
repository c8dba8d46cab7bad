import ContentWorkflow.Proofs.Engine.Execution

/-!
# When an update executes its transition

`Admitted` lists what an update asks for before it executes a transition, and `Arrived` what it
leaves behind once it did. The main theorem, `update_executed_iff`, says that an update of a
transition that is neither scheduled nor executed gives an answer, and that the answer is an
executed transition exactly when the transition is admitted.
-/

namespace ContentWorkflow

namespace Platform

/-- What an update asks for before it saves the item of a transition that names the state it
leaves. -/
structure Cleared (platform : Platform) (session : Session) (item : Item) (force : Bool)
    (transition : Transition) : Prop where
  named : transition.toSid ≠ ""
  known : (session.store.statesOf transition.workflowId).Known transition.toSid
  current : transition.fromSid =
    session.store.currentSid transition.workflowId item transition.fieldName
  from_known : (session.store.statesOf transition.workflowId).Known transition.fromSid
  fresh : session.context.marker? transition.markerKey = none
  nonempty : ¬ transition.IsEmpty
  authorized :
    transition.ChangesState → platform.Authorized session.store item force transition
  unvetoed : transition.ChangesState →
    platform.hooks.veto? (transition.validated force) transition.agent = none

/-- What an update asks for before it executes a transition that names the state it leaves. -/
structure Admitted (platform : Platform) (session : Session) (item : Item) (force : Bool)
    (transition : Transition) : Prop
    extends Cleared platform session item force transition where
  saved : ∃ workflow, session.store.workflow? transition.workflowId = some workflow ∧
    platform.saving session.store (moved workflow item transition) = .saved

/-- What an executed update leaves behind: the item is kept in the state that the transition
reached, one record is added to the history and nothing of the field is pending, unless the hooks
left nothing to record, and everything else is as it was. -/
structure Arrived (platform : Platform) (session : Session) (item : Item) (force : Bool)
    (transition reached : Transition) (session' : Session) : Prop where
  executed : reached = platform.hooks.executed (transition.validated force)
  field : ∃ stored, session'.store.item? transition.target = some stored ∧
    stored.fieldValue? transition.fieldName = some transition.toSid ∧
    stored.owner = item.owner ∧
    (∀ fieldName ≠ transition.fieldName,
      stored.fieldValue? fieldName = item.fieldValue? fieldName) ∧
    ∃ workflow, session.store.workflow? transition.workflowId = some workflow ∧
      stored.changed =
        if workflow.settings.alwaysUpdateEntity then transition.timestamp else item.changed
  other_items : ∀ target ≠ transition.target,
    session'.store.item? target = session.store.item? target
  history : session'.store.history = session.store.history ++
    if reached.IsEmpty then []
    else [{ reached.toRecord with hid := session.store.lastHid + 1 }]
  pending : session'.store.pending =
    if reached.IsEmpty then session.store.pending
    else session.store.pending.filter fun row =>
      ¬ row.IsFor transition.target transition.fieldName
  workflows : session'.store.workflows = session.store.workflows
  states : session'.store.states = session.store.states
  rules : session'.store.rules = session.store.rules
  bindings : session'.store.bindings = session.store.bindings
  remembered : ∀ key, session'.context.marker? key =
    if key = transition.markerKey then some transition.toSid else session.context.marker? key

variable {platform : Platform} {store : Store} {item : Item} {force : Bool}
  {transition : Transition} {session session' : Session} {outcome : Outcome} {workflow : Workflow}

/-- A transition to a known state is ready exactly when the state it leaves is known, there is
something to record, and a change of state is authorized and not vetoed. -/
theorem ready_iff (hkeys : store.Keyed) (hnamed : transition.toSid ≠ "")
    (hknown : (store.statesOf transition.workflowId).Known transition.toSid) :
    platform.Ready store item workflow (transition.validated force) ↔
      store.workflow? transition.workflowId = some workflow ∧
        (store.statesOf transition.workflowId).Known transition.fromSid ∧
        ¬ transition.IsEmpty ∧
        (transition.ChangesState → platform.Authorized store item force transition ∧
          platform.hooks.veto? (transition.validated force) transition.agent = none) := by
  have hpermits : transition.ChangesState →
      (platform.permits store item (transition.validated force) = true ↔
        platform.Authorized store item force transition) := by
    intro hchanges
    rw [permits_iff hkeys (Transition.validated_changes.2 hchanges) hnamed hknown]
    exact authorized_validated
  constructor
  · intro h
    refine ⟨h.workflow, (state_objection_eq_none.1 h.states).1, h.nonempty, ?_⟩
    intro hchanges
    obtain ⟨hpermitted, hveto⟩ := access_objection_eq_none.1 h.access hchanges
    exact ⟨(hpermits hchanges).1 hpermitted, hveto⟩
  · rintro ⟨hworkflow, hfrom, hnonempty, haccess⟩
    refine ⟨hworkflow, state_objection_eq_none.2 ⟨hfrom, fun _ => hknown⟩, ?_, hnonempty⟩
    rw [access_objection_eq_none]
    intro hchanges
    obtain ⟨hauthorized, hveto⟩ := haccess hchanges
    exact ⟨(hpermits hchanges).2 hauthorized, hveto⟩

@[simp] theorem moved_target : (moved workflow item transition).target = item.target := by
  unfold moved
  split <;> rfl

@[simp] theorem moved_owner : (moved workflow item transition).owner = item.owner := by
  unfold moved
  split <;> rfl

@[simp] theorem moved_fields : (moved workflow item transition).fields =
    item.fields.insert transition.fieldName transition.toSid := by
  unfold moved
  split <;> rfl

/-- Only where the workflow says so does a move set the changed time of its item. -/
theorem moved_changed : (moved workflow item transition).changed =
    if workflow.settings.alwaysUpdateEntity then transition.timestamp else item.changed := by
  unfold moved
  split <;> rfl

/-- The field that a transition moved holds the state it reached, once the item was saved over the
kept one, and the other fields hold what they held. -/
theorem field_saved_moved (hitem : store.item? item.target = some item)
    (hnamed : transition.toSid ≠ "") (fieldName : String) :
    (store.saved (moved workflow item transition)).fieldValue? fieldName =
      if fieldName = transition.fieldName then some transition.toSid
      else item.fieldValue? fieldName := by
  simp only [Store.saved, Item.fieldValue?, moved_target, moved_fields, hitem,
    Dictionary.get_union, Dictionary.get_insert]
  by_cases hfield : fieldName = transition.fieldName
  · simp [hfield, hnamed]
  · -- the item is the kept one, so for any other field both texts are the same
    simp only [hfield, if_false]
    cases item.fields.get? fieldName <;> rfl

/-- The course that moves the item leaves behind what an executed update does. -/
theorem arrived_of_moved (hitem : session.store.item? transition.target = some item)
    (hnamed : transition.toSid ≠ "")
    (hready : platform.Ready session.store item workflow (transition.validated force))
    (hstore : session'.store =
      (session.store.saveItem (moved workflow item transition)).enter
        (platform.hooks.executed (transition.validated force)))
    (hcontext : session'.context =
      (session.context.setMarker transition.markerKey transition.fromSid).setMarker
        transition.markerKey transition.toSid) :
    platform.Arrived session item force transition
      (platform.hooks.executed (transition.validated force)) session' := by
  have htarget : (moved workflow item transition).target = transition.target := by
    rw [moved_target, (Store.item_found hitem).1]
  have hitems : session'.store.items =
      (session.store.saveItem (moved workflow item transition)).items := by
    rw [hstore, Store.enter_items]
  have hfields : ∀ fieldName,
      (session.store.saved (moved workflow item transition)).fieldValue? fieldName =
        if fieldName = transition.fieldName then some transition.toSid
        else item.fieldValue? fieldName :=
    field_saved_moved ((Store.item_found hitem).1 ▸ hitem) hnamed
  constructor
  case executed => rfl
  case field =>
      refine ⟨session.store.saved (moved workflow item transition), ?_, ?_, ?_, ?_, workflow,
        hready.workflow, ?_⟩
      · rw [Store.item_congr hitems, ← htarget, Store.item_save_item]
      · rw [hfields, if_pos rfl]
      · exact moved_owner
      · intro fieldName hother
        rw [hfields, if_neg hother]
      · exact moved_changed
  case other_items =>
      intro target hother
      rw [Store.item_congr hitems, Store.item_save_item_of_ne (htarget ▸ hother)]
  case history =>
      rw [hstore, Store.enter_history]
      rfl
  case pending =>
      rw [hstore, Store.enter_pending]
      rfl
  case workflows =>
      rw [hstore, Store.enter_workflows]
      rfl
  case states =>
      rw [hstore, Store.enter_states]
      rfl
  case rules =>
      rw [hstore, Store.enter_rules]
      rfl
  case bindings =>
      rw [hstore, Store.enter_bindings]
      rfl
  case remembered =>
      intro key
      rw [hcontext, RequestContext.marker_set_marker, RequestContext.marker_set_marker]
      split <;> rfl

/-- Of the courses of a call that moves the item, only the last one executes the transition. -/
theorem of_executed_course
    (h : platform.Course item force transition session true outcome session')
    (hstatus : outcome.transition.status = .executed) :
    ∃ workflow, session.context.marker? transition.markerKey = none ∧
      platform.Ready session.store item workflow (transition.validated force) ∧
      platform.saving session.store (moved workflow item transition) = .saved ∧
      outcome.sid = transition.toSid ∧
      outcome.transition = platform.hooks.executed (transition.validated force) ∧
      session'.store = (session.store.saveItem (moved workflow item transition)).enter
        (platform.hooks.executed (transition.validated force)) ∧
      session'.context =
        (session.context.setMarker transition.markerKey transition.fromSid).setMarker
          transition.markerKey transition.toSid := by
  cases h with
  | repeated => simp [Transition.reject] at hstatus
  | objected => simp [Transition.reject] at hstatus
  | empty => simp [Transition.validated] at hstatus
  | unsaved => simp [Transition.reject] at hstatus
  | moved hfresh hready hsaving hstore hcontext =>
      exact ⟨_, hfresh, hready, hsaving, rfl, rfl, hstore, hcontext⟩

/-- By force a transition is cleared that leaves the state of its item, between known states, if it
is new to the request, there is something to record and nobody vetoes. -/
theorem cleared_of_forced (hnamed : transition.toSid ≠ "")
    (hfrom : (session.store.statesOf transition.workflowId).Known transition.fromSid)
    (hto : (session.store.statesOf transition.workflowId).Known transition.toSid)
    (hcurrent : transition.fromSid =
      session.store.currentSid transition.workflowId item transition.fieldName)
    (hfresh : session.context.marker? transition.markerKey = none)
    (hnonempty : ¬ transition.IsEmpty)
    (hunvetoed : ∀ transition agent, platform.hooks.veto? transition agent = none) :
    platform.Cleared session item true transition where
  named := hnamed
  known := hto
  current := hcurrent
  from_known := hfrom
  fresh := hfresh
  nonempty := hnonempty
  authorized := fun _ => .forced (Or.inl rfl)
  unvetoed := fun _ => hunvetoed _ _

/-- A cleared transition is admitted where every item is saved. -/
theorem Cleared.admitted (hkeys : session.store.Keyed)
    (hcleared : platform.Cleared session item force transition)
    (hsaving : ∀ store item, platform.saving store item = .saved) :
    platform.Admitted session item force transition := by
  obtain ⟨workflow, hworkflow⟩ := hkeys.workflow_of_known hcleared.known
  exact ⟨hcleared, workflow, hworkflow, hsaving _ _⟩

/-- A cleared transition of a kept workflow is ready. -/
theorem Cleared.ready (hkeys : session.store.Keyed)
    (hcleared : platform.Cleared session item force transition)
    (hworkflow : session.store.workflow? transition.workflowId = some workflow) :
    platform.Ready session.store item workflow (transition.validated force) :=
  (ready_iff hkeys hcleared.named hcleared.known).2
    ⟨hworkflow, hcleared.from_known, hcleared.nonempty, fun hchanges =>
      ⟨hcleared.authorized hchanges, hcleared.unvetoed hchanges⟩⟩

/-- A call that moves the item of a cleared transition executes it or could not save the item. -/
theorem course_of_cleared (hkeys : session.store.Keyed)
    (hcleared : platform.Cleared session item force transition)
    (hworkflow : session.store.workflow? transition.workflowId = some workflow)
    (h : platform.Course item force transition session true outcome session') :
    platform.saving session.store (moved workflow item transition) = .saved ∧
        outcome.transition.status = .executed ∨
      platform.saving session.store (moved workflow item transition) ≠ .saved ∧
        outcome.transition.status = .rejected (.saveFailed transition.target.toText) := by
  have hready := hcleared.ready hkeys hworkflow
  cases h with
  | repeated hmarker =>
      rw [hcleared.fresh] at hmarker
      cases hmarker
  | objected _ hreason => exact absurd hreason hready.unobjected
  | empty hempty => exact absurd hempty hcleared.nonempty
  | unsaved _ hready' hunsaved =>
      -- the course moved the item by the settings of the kept workflow
      cases hready'.workflow.symm.trans hworkflow
      exact Or.inr ⟨hunsaved, rfl⟩
  | moved _ hready' hsaving =>
      cases hready'.workflow.symm.trans hworkflow
      exact Or.inl ⟨hsaving, rfl⟩

/-- An update turns a transition away before the examination, and then it is not cleared, or it
moves the item. -/
theorem Updated.carries (hscheduled : transition.scheduled = false)
    (hexecuted : transition.executed = false)
    (h : platform.Updated item force transition session outcome session') :
    outcome.transition.status.IsRejected ∧ ¬ platform.Cleared session item force transition ∨
      transition.toSid ≠ "" ∧
        (session.store.statesOf transition.workflowId).Known transition.toSid ∧
        (session.context.marker? transition.markerKey = none → transition.fromSid =
          session.store.currentSid transition.workflowId item transition.fieldName) ∧
        platform.Course item force transition session true outcome session' := by
  cases h with
  | unreachable hreach =>
      refine Or.inl ⟨⟨_, rfl⟩, ?_⟩
      intro hcleared
      exact hreach.elim hcleared.named fun hunknown => hunknown hcleared.known
  | drifted hcurrent _ _ hdrift =>
      refine Or.inl ⟨⟨_, rfl⟩, ?_⟩
      intro hcleared
      exact hdrift (hcleared.current.trans hcurrent.symm)
  | carried hnamed hknown hstays hcourse =>
      refine Or.inr ⟨hnamed, hknown, ?_, ?_⟩
      · intro hfresh
        simpa [hexecuted, hfresh] using hstays
      · simpa [hscheduled, hexecuted] using hcourse

/-- An update of a cleared transition executes it or could not save the item. -/
theorem Updated.of_cleared (hkeys : session.store.Keyed) (hscheduled : transition.scheduled = false)
    (hexecuted : transition.executed = false)
    (hcleared : platform.Cleared session item force transition)
    (hworkflow : session.store.workflow? transition.workflowId = some workflow)
    (h : platform.Updated item force transition session outcome session') :
    platform.saving session.store (moved workflow item transition) = .saved ∧
        outcome.transition.status = .executed ∨
      platform.saving session.store (moved workflow item transition) ≠ .saved ∧
        outcome.transition.status = .rejected (.saveFailed transition.target.toText) := by
  obtain ⟨-, huncleared⟩ | ⟨-, -, -, hcourse⟩ := h.carries hscheduled hexecuted
  · exact absurd hcleared huncleared
  · exact course_of_cleared hkeys hcleared hworkflow hcourse

/-- An update of a cleared transition that is scheduled stores it as pending, in place of what was
pending for its field. -/
theorem Updated.scheduled_of_cleared (hkeys : session.store.Keyed)
    (hscheduled : transition.scheduled = true)
    (hcleared : platform.Cleared session item force transition)
    (hworkflow : session.store.workflow? transition.workflowId = some workflow)
    (h : platform.Updated item force transition session outcome session') :
    session'.store =
      (session.store.dropPendingFor transition.target transition.fieldName).addPending
        (transition.validated force) := by
  have hready := hcleared.ready hkeys hworkflow
  cases h with
  | unreachable hreach =>
      exact (hreach.elim hcleared.named fun hunknown => hunknown hcleared.known).elim
  | drifted hcurrent _ _ hdrift => exact absurd (hcleared.current.trans hcurrent.symm) hdrift
  | carried _ _ _ hcourse =>
      rw [hscheduled] at hcourse
      cases hcourse with
      | repeated hmarker =>
          rw [hcleared.fresh] at hmarker
          cases hmarker
      | objected _ hreason => exact absurd hreason hready.unobjected
      | empty hempty => exact absurd hempty hcleared.nonempty
      | scheduled _ _ _ hstore => exact hstore
      | recorded hunscheduled =>
          rw [hscheduled] at hunscheduled
          cases hunscheduled

/-- An update of a transition that was executed before and is ready records it. -/
theorem Updated.recorded_of_ready (hexecuted : transition.executed = true)
    (hscheduled : transition.scheduled = false) (hnamed : transition.toSid ≠ "")
    (hfresh : session.context.marker? transition.markerKey = none)
    (hready : platform.Ready session.store item workflow (transition.validated force))
    (h : platform.Updated item force transition session outcome session') :
    session'.store =
      session.store.enter (platform.hooks.executed (transition.validated force)) := by
  cases h with
  | unreachable hreach =>
      exact (hreach.elim hnamed fun hunknown => hunknown hready.known.2).elim
  | drifted _ hunexecuted =>
      rw [hexecuted] at hunexecuted
      cases hunexecuted
  | carried _ _ _ hcourse =>
      rw [hscheduled, hexecuted] at hcourse
      cases hcourse with
      | repeated hmarker =>
          rw [hfresh] at hmarker
          cases hmarker
      | objected _ hreason => exact absurd hreason hready.unobjected
      | empty hempty => exact absurd hempty hready.nonempty
      | scheduled hwaits =>
          rw [hscheduled] at hwaits
          cases hwaits
      | recorded _ _ _ hstore => exact hstore

/-- A transition that an update executed was admitted, and its item has arrived at the state to
reach, which is what the caller is told. -/
theorem Updated.of_executed (hkeys : session.store.Keyed)
    (hitem : session.store.item? transition.target = some item)
    (hscheduled : transition.scheduled = false) (hexecuted : transition.executed = false)
    (h : platform.Updated item force transition session outcome session')
    (hstatus : outcome.transition.status = .executed) :
    platform.Admitted session item force transition ∧ outcome.sid = transition.toSid ∧
      platform.Arrived session item force transition outcome.transition session' := by
  obtain ⟨⟨reason, hrejected⟩, -⟩ | ⟨hnamed, hknown, hcurrent, hcourse⟩ :=
    h.carries hscheduled hexecuted
  · rw [hstatus] at hrejected
    cases hrejected
  · obtain ⟨workflow, hfresh, hready, hsaving, hsid, hreached, hstore, hcontext⟩ :=
      of_executed_course hcourse hstatus
    obtain ⟨hworkflow, hfrom, hnonempty, haccess⟩ := (ready_iff hkeys hnamed hknown).1 hready
    have hcleared : platform.Cleared session item force transition :=
      ⟨hnamed, hknown, hcurrent hfresh, hfrom, hfresh, hnonempty,
        fun hchanges => (haccess hchanges).1, fun hchanges => (haccess hchanges).2⟩
    have harrived := arrived_of_moved hitem hnamed hready hstore hcontext
    rw [← hreached] at harrived
    exact ⟨⟨hcleared, workflow, hworkflow, hsaving⟩, hsid, harrived⟩

/-- An update of an admitted transition executes it, and its item arrives at the state to reach. -/
theorem update_of_admitted (hkeys : session.store.Keyed)
    (hitem : session.store.item? transition.target = some item)
    (hscheduled : transition.scheduled = false) (hexecuted : transition.executed = false)
    (hadmitted : platform.Admitted session item force (session.store.fill item transition)) :
    ∃ reached session',
      platform.update force transition session = .ok ((transition.toSid, reached), session') ∧
        reached.status = .executed ∧
        platform.Arrived session item force (session.store.fill item transition) reached
          session' := by
  obtain ⟨sid, reached, session', hanswer⟩ := update_answers platform force transition hkeys
  obtain ⟨hmissing, -⟩ | ⟨other, outcome, hother, hupdate, rfl, rfl⟩ := update_cases hanswer
  · rw [hitem] at hmissing
    cases hmissing
  · cases hitem.symm.trans hother
    have hcase := update_on_cases hupdate
    rw [← Store.fill_target] at hitem
    rw [← Store.fill_scheduled] at hscheduled
    rw [← Store.fill_executed] at hexecuted
    obtain ⟨workflow, hworkflow, hsaving⟩ := hadmitted.saved
    obtain ⟨-, hstatus⟩ | ⟨hunsaved, -⟩ :=
      hcase.of_cleared hkeys hscheduled hexecuted hadmitted.toCleared hworkflow
    · obtain ⟨-, hsid, harrived⟩ := hcase.of_executed hkeys hitem hscheduled hexecuted hstatus
      rw [hsid, Store.fill_to] at hanswer
      exact ⟨outcome.transition, session', hanswer, hstatus, harrived⟩
    · exact absurd hsaving hunsaved

/-- An update of a transition that is neither scheduled nor executed gives an answer. The answer is
an executed transition exactly when the transition is admitted for its item, and then the caller is
told the state to reach and the item has arrived there. -/
theorem update_executed_iff (hkeys : session.store.Keyed)
    (hscheduled : transition.scheduled = false) (hexecuted : transition.executed = false) :
    ∃ sid reached session',
      platform.update force transition session = .ok ((sid, reached), session') ∧
        (reached.status = .executed ↔
          ∃ item, session.store.item? transition.target = some item ∧
            platform.Admitted session item force (session.store.fill item transition)) ∧
        (reached.status = .executed →
          sid = transition.toSid ∧
            ∃ item, session.store.item? transition.target = some item ∧
              platform.Arrived session item force (session.store.fill item transition) reached
                session') := by
  obtain ⟨sid, reached, session', hanswer⟩ := update_answers platform force transition hkeys
  refine ⟨sid, reached, session', hanswer, ?_⟩
  have hdone : reached.status = .executed → ∃ item,
      session.store.item? transition.target = some item ∧ sid = transition.toSid ∧
        platform.Admitted session item force (session.store.fill item transition) ∧
        platform.Arrived session item force (session.store.fill item transition) reached
          session' := by
    intro hstatus
    obtain ⟨-, -, -, rfl⟩ | ⟨item, outcome, hitem, hupdate, rfl, rfl⟩ := update_cases hanswer
    · cases hstatus
    · have hcase := update_on_cases hupdate
      have hkept := hitem
      rw [← Store.fill_target] at hkept
      rw [← Store.fill_scheduled] at hscheduled
      rw [← Store.fill_executed] at hexecuted
      obtain ⟨hadmitted, hsid, harrived⟩ :=
        hcase.of_executed hkeys hkept hscheduled hexecuted hstatus
      exact ⟨item, hitem, hsid.trans Store.fill_to, hadmitted, harrived⟩
  refine ⟨⟨?_, ?_⟩, ?_⟩
  · intro hstatus
    obtain ⟨item, hitem, -, hadmitted, -⟩ := hdone hstatus
    exact ⟨item, hitem, hadmitted⟩
  · rintro ⟨item, hitem, hadmitted⟩
    -- an admitted transition is executed by some answer, and there is one answer only
    obtain ⟨_, _, hexecutes, hstatus, -⟩ :=
      update_of_admitted hkeys hitem hscheduled hexecuted hadmitted
    rw [hanswer] at hexecutes
    cases hexecutes
    exact hstatus
  · intro hstatus
    obtain ⟨item, hitem, hsid, -, harrived⟩ := hdone hstatus
    exact ⟨hsid, item, hitem, harrived⟩

/-- What an update asks for holds where an editor of the small site takes its node live. -/
theorem admitted_small {item : Item} {force : Bool}
    (hitem : Store.small.item? ⟨"node", 1⟩ = some item) :
    small.Admitted ⟨.small, .empty, []⟩ item force (Store.small.fill item .small) := by
  cases hitem
  refine ⟨?_, ⟨_, rfl, rfl⟩⟩
  constructor
  case named => decide
  case known => exact (Store.known_of_small rfl).2
  case current => decide
  case from_known => exact (Store.known_of_small rfl).1
  case fresh => rfl
  case nonempty => decide
  case authorized => exact fun _ => authorized_small
  case unvetoed => exact fun _ => rfl

/-- An editor of the small site takes its node live. -/
theorem update_small_executed :
    Store.small.Keyed ∧ Transition.small.scheduled = false ∧ Transition.small.executed = false ∧
      ∃ sid reached session',
        small.update false .small ⟨.small, .empty, []⟩ = .ok ((sid, reached), session') ∧
          reached.status = .executed ∧ sid = "news_live" := by
  obtain ⟨sid, reached, session', hanswer, hiff, hthen⟩ :=
    @update_executed_iff small false .small ⟨.small, .empty, []⟩ Store.keyed_small rfl rfl
  have hstatus : reached.status = .executed := hiff.2 ⟨_, rfl, admitted_small rfl⟩
  exact ⟨Store.keyed_small, rfl, rfl, sid, reached, session', hanswer, hstatus, (hthen hstatus).1⟩

end Platform

end ContentWorkflow
