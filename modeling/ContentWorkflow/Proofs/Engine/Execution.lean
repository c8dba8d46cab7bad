import ContentWorkflow.Engine.Execution
import ContentWorkflow.Proofs.Engine.Examination

/-!
# The course of a call

Every call of the engine that gives an answer takes one of seven courses: the transition is a
repeat, or is objected to, or has nothing to record; it is scheduled, or recorded; its item is
moved, or could not be saved. `Course` lists them with what each leaves behind,
`execute_on_course` and `move_item_course` say which of them a call can take, and
`update_on_cases` adds what an update looks at first.
-/

namespace ContentWorkflow

/-- A step that consists of two answers when both do. -/
theorem Fault.bind_eq_ok {α β : Type} {step : Except Fault α} {next : α → Except Fault β}
    {result : β} : (step >>= next) = .ok result ↔ ∃ a, step = .ok a ∧ next a = .ok result := by
  cases step with
  | error fault => simp [bind, Except.bind]
  | ok a => simp [bind, Except.bind]

/-- The transition as it is once it was executed. -/
def Hooks.executed (hooks : Hooks) (transition : Transition) : Transition :=
  { hooks.alterComment transition with executed := true, status := .executed }

/-- The store after an executed transition was recorded, if there was something to record. -/
def Store.enter (store : Store) (transition : Transition) : Store :=
  if transition.IsEmpty then store
  else (store.appendHistory transition.toRecord).dropPendingFor transition.target
    transition.fieldName

namespace Store

variable {store : Store} {transition : Transition}

/-- Entering an executed transition adds its record, if there is something to record. -/
theorem enter_history :
    (store.enter transition).history =
      store.history ++
        if transition.IsEmpty then []
        else [{ transition.toRecord with hid := store.lastHid + 1 }] := by
  unfold enter
  split
  · simp
  · rfl

/-- Entering an executed transition drops what is pending for its field, if there is something to
record. -/
theorem enter_pending :
    (store.enter transition).pending =
      if transition.IsEmpty then store.pending
      else (store.dropPendingFor transition.target transition.fieldName).pending := by
  unfold enter
  split <;> rfl

/-- Entering an executed transition leaves what is pending as it is, or drops some. -/
theorem enter_pending_sublist : (store.enter transition).pending.Sublist store.pending := by
  rw [enter_pending]
  split
  · exact List.Sublist.refl _
  · exact List.filter_sublist

/-- Entering an executed transition keeps the keys. -/
theorem Keyed.enter (hkeys : store.Keyed) (transition : Transition) :
    (store.enter transition).Keyed := by
  unfold Store.enter
  split
  · exact hkeys
  · exact (hkeys.append_history _).drop_pending_for _ _

@[simp] theorem enter_items : (store.enter transition).items = store.items := by
  unfold enter
  split <;> rfl

@[simp] theorem enter_workflows : (store.enter transition).workflows = store.workflows := by
  unfold enter
  split <;> rfl

@[simp] theorem enter_states : (store.enter transition).states = store.states := by
  unfold enter
  split <;> rfl

@[simp] theorem enter_rules : (store.enter transition).rules = store.rules := by
  unfold enter
  split <;> rfl

@[simp] theorem enter_bindings : (store.enter transition).bindings = store.bindings := by
  unfold enter
  split <;> rfl

end Store

namespace Platform

variable {platform : Platform} {item : Item} {force : Bool} {transition : Transition}
  {session session' : Session} {outcome : Outcome} {workflow : Workflow}

/-! ## Scheduling, recording and saving -/

/-- A scheduled transition has the next number. -/
theorem schedule_fst :
    (session.schedule transition).1 =
      { transition with
        id := session.store.lastTid + 1
        scheduled := true
        status := .scheduled } :=
  rfl

/-- Scheduling drops what was pending for the field and adds the transition. -/
theorem schedule_store :
    (session.schedule transition).2.store =
      (session.store.dropPendingFor transition.target transition.fieldName).addPending
        transition := by
  simp only [Session.schedule]
  split <;> rfl

/-- Scheduling by itself is not remembered by the request. -/
theorem schedule_context : (session.schedule transition).2.context = session.context := by
  simp only [Session.schedule]
  split <;> rfl

/-- Recording enters the executed transition into the history. -/
theorem record_store :
    (platform.record workflow transition session).2.store =
      session.store.enter (platform.hooks.executed transition) := by
  show (ite (platform.hooks.executed transition).IsEmpty session _).store = _
  by_cases h : (platform.hooks.executed transition).IsEmpty
  · rw [if_pos h, Store.enter, if_pos h]
  · rw [if_neg h, Store.enter, if_neg h]
    rfl

/-- The request remembers the state that a recorded transition reached. -/
theorem record_context :
    (platform.record workflow transition session).2.context =
      session.context.setMarker transition.markerKey transition.toSid := by
  show (ite (platform.hooks.executed transition).IsEmpty session _).context.setMarker _ _ = _
  split <;> rfl

/-- What a save leaves behind: a saved item is kept, and any other leaves the store as it was. -/
theorem save_cases {target : Target} {kept : Bool}
    (h : platform.save target item session = (kept, session')) :
    session'.context = session.context ∧
      (kept = true ∧ platform.saving session.store item = .saved ∧
          session'.store = session.store.saveItem item ∨
        kept = false ∧ platform.saving session.store item ≠ .saved ∧
          session'.store = session.store) := by
  rw [save] at h
  split at h
  · next hsaving =>
      cases h
      exact ⟨rfl, Or.inl ⟨rfl, hsaving, rfl⟩⟩
  · next hsaving =>
      cases h
      exact ⟨rfl, Or.inr ⟨rfl, by simp [hsaving], rfl⟩⟩
  · next hsaving =>
      cases h
      exact ⟨rfl, Or.inr ⟨rfl, by simp [hsaving], rfl⟩⟩

/-! ## Courses -/

/-- The course of a call on an item, for a transition that names the state it leaves. The flag
tells whether the call moves the item, or records or schedules the transition and leaves the item
alone. -/
inductive Course (platform : Platform) (item : Item) (force : Bool) (transition : Transition)
    (session : Session) : Bool → Outcome → Session → Prop where
  | repeated {moving : Bool} {remembered : String} {session' : Session}
      (hmarker : session.context.marker? transition.markerKey = some remembered)
      (hnonempty : ¬ transition.IsEmpty)
      (hstore : session'.store = session.store) (hcontext : session'.context = session.context) :
      Course platform item force transition session moving
        ⟨remembered, transition.reject (.alreadyExecuted transition.markerLabel), item⟩ session'
  | objected {moving : Bool} {reason : Rejection} {session' : Session}
      (hfresh : session.context.marker? transition.markerKey = none ∨ transition.IsEmpty)
      (hreason :
        stateObjection? (session.store.statesOf transition.workflowId) transition = some reason ∨
          platform.accessObjection? session.store item (transition.validated force) = some reason)
      (hstore : session'.store = session.store)
      (hcontext : session'.context =
        session.context.setMarker transition.markerKey transition.fromSid)
      (hfirst : ∀ other, stateObjection? (session.store.statesOf transition.workflowId) transition =
        some other → reason = other) :
      Course platform item force transition session moving
        ⟨transition.fromSid, (transition.validated force).reject reason, item⟩ session'
  | empty {moving : Bool} {session' : Session} (hempty : transition.IsEmpty)
      (hstore : session'.store = session.store)
      (hcontext : session'.context =
        session.context.setMarker transition.markerKey transition.fromSid)
      (hstates : stateObjection? (session.store.statesOf transition.workflowId) transition =
        none) :
      Course platform item force transition session moving
        ⟨transition.toSid, transition.validated force, item⟩ session'
  | scheduled {workflow : Workflow} {session' : Session}
      (hscheduled : transition.scheduled = true)
      (hfresh : session.context.marker? transition.markerKey = none)
      (hready : platform.Ready session.store item workflow (transition.validated force))
      (hstore : session'.store =
        (session.store.dropPendingFor transition.target transition.fieldName).addPending
          (transition.validated force))
      (hcontext : session'.context =
        (session.context.setMarker transition.markerKey transition.fromSid).setMarker
          transition.markerKey transition.toSid) :
      Course platform item force transition session false
        ⟨transition.toSid, { transition.validated force with
          id := session.store.lastTid + 1, scheduled := true, status := .scheduled }, item⟩ session'
  | recorded {workflow : Workflow} {session' : Session}
      (hscheduled : transition.scheduled = false)
      (hfresh : session.context.marker? transition.markerKey = none)
      (hready : platform.Ready session.store item workflow (transition.validated force))
      (hstore : session'.store =
        session.store.enter (platform.hooks.executed (transition.validated force)))
      (hcontext : session'.context =
        (session.context.setMarker transition.markerKey transition.fromSid).setMarker
          transition.markerKey transition.toSid) :
      Course platform item force transition session false
        ⟨transition.toSid, platform.hooks.executed (transition.validated force), item⟩ session'
  | unsaved {workflow : Workflow} {session' : Session}
      (hfresh : session.context.marker? transition.markerKey = none)
      (hready : platform.Ready session.store item workflow (transition.validated force))
      (hsaving : platform.saving session.store (moved workflow item transition) ≠ .saved)
      (hstore : session'.store = session.store)
      (hcontext : session'.context =
        session.context.setMarker transition.markerKey transition.fromSid) :
      Course platform item force transition session true
        ⟨transition.fromSid,
          (transition.validated force).reject (.saveFailed transition.target.toText),
          restored item transition⟩ session'
  | moved {workflow : Workflow} {session' : Session}
      (hfresh : session.context.marker? transition.markerKey = none)
      (hready : platform.Ready session.store item workflow (transition.validated force))
      (hsaving : platform.saving session.store (moved workflow item transition) = .saved)
      (hstore : session'.store =
        (session.store.saveItem (moved workflow item transition)).enter
          (platform.hooks.executed (transition.validated force)))
      (hcontext : session'.context =
        (session.context.setMarker transition.markerKey transition.fromSid).setMarker
          transition.markerKey transition.toSid) :
      Course platform item force transition session true
        ⟨transition.toSid, platform.hooks.executed (transition.validated force),
          moved workflow item transition⟩ session'

/-- What the request remembers after a course: what it did before, and perhaps the state that the
transition leaves, which may be followed by the state that it reaches. -/
theorem Course.context_cases {moving : Bool}
    (h : platform.Course item force transition session moving outcome session') :
    session'.context = session.context ∨
      session'.context = session.context.setMarker transition.markerKey transition.fromSid ∨
      session'.context =
        (session.context.setMarker transition.markerKey transition.fromSid).setMarker
          transition.markerKey transition.toSid := by
  cases h with
  | repeated _ _ _ hcontext => exact Or.inl hcontext
  | objected _ _ _ hcontext => exact Or.inr (Or.inl hcontext)
  | empty _ _ hcontext => exact Or.inr (Or.inl hcontext)
  | unsaved _ _ _ _ hcontext => exact Or.inr (Or.inl hcontext)
  | scheduled _ _ _ _ hcontext => exact Or.inr (Or.inr hcontext)
  | recorded _ _ _ _ hcontext => exact Or.inr (Or.inr hcontext)
  | moved _ _ _ _ hcontext => exact Or.inr (Or.inr hcontext)

/-- A course leaves alone what the request remembers of other transitions. -/
theorem Course.marker_of_ne {moving : Bool} {key : MarkerKey}
    (h : platform.Course item force transition session moving outcome session')
    (hkey : key ≠ transition.markerKey) :
    session'.context.marker? key = session.context.marker? key := by
  obtain hcontext | hcontext | hcontext := h.context_cases <;> simp [hcontext, hkey]

/-- An examination that settles the transition settles the call, whatever it was to do. -/
theorem Examined.course {moving : Bool} {sid : String} {examined : Transition}
    (h : platform.Examined item force transition session (.settled sid) examined session') :
    platform.Course item force transition session moving ⟨sid, examined, item⟩ session' := by
  cases h with
  | repeated hmarker hnonempty hstore hcontext =>
      exact .repeated hmarker hnonempty hstore hcontext
  | objected hfresh hreason hstore hcontext hfirst =>
      exact .objected hfresh hreason hstore hcontext hfirst
  | empty hempty hstore hcontext hstates => exact .empty hempty hstore hcontext hstates

/-- A call that leaves the item alone records or schedules a transition that is ready. -/
theorem execute_on_course
    (h : platform.executeOn item force transition session = .ok (outcome, session')) :
    platform.Course item force (session.store.fill item transition) session false outcome
      session' := by
  obtain ⟨⟨verdict, examined, middle⟩, hexamine, h⟩ := Fault.bind_eq_ok.1 h
  -- the examination keeps the store, so what follows on it acts on the store of the call
  have hcase := examine_cases hexamine
  generalize session.store.fill item transition = left at hcase ⊢
  cases verdict with
  | settled sid =>
      cases h
      exact hcase.course
  | ready workflow =>
      obtain _ | _ | _ | ⟨hfresh, hready, hstore, hcontext⟩ := hcase
      dsimp only at h
      split at h
      · next hscheduled =>
          cases h
          rw [schedule_fst, hstore]
          refine .scheduled hscheduled hfresh hready ?_ ?_
          · rw [Session.mark, schedule_store, hstore]
            rfl
          · rw [Session.mark, schedule_context, hcontext]
            rfl
      · next hscheduled =>
          cases h
          refine .recorded (Bool.eq_false_iff.2 hscheduled) hfresh hready ?_ ?_
          · rw [record_store, hstore]
          · rw [record_context, hcontext]
            rfl

/-- A call that moves the item saves the item of a transition that is ready. -/
theorem move_item_course
    (h : platform.moveItem item force transition session = .ok (outcome, session')) :
    platform.Course item force (session.store.fill item transition) session true outcome
      session' := by
  obtain ⟨⟨verdict, examined, middle⟩, hexamine, h⟩ := Fault.bind_eq_ok.1 h
  have hcase := examine_cases hexamine
  generalize session.store.fill item transition = left at hcase ⊢
  cases verdict with
  | settled sid =>
      cases h
      exact hcase.course
  | ready workflow =>
      obtain _ | _ | _ | ⟨hfresh, hready, hstore, hcontext⟩ := hcase
      dsimp only at h
      split at h
      · next after hsave =>
          cases h
          obtain ⟨hkept, ⟨-, hsaving, hsaved⟩ | ⟨hflag, -, -⟩⟩ := save_cases hsave
          · rw [hstore] at hsaving hsaved
            refine .moved hfresh hready hsaving ?_ ?_
            · rw [record_store, hsaved]
              rfl
            · rw [record_context, hkept, hcontext]
              rfl
          · cases hflag
      · next after hsave =>
          cases h
          obtain ⟨hkept, ⟨hflag, -, -⟩ | ⟨-, hsaving, hsaved⟩⟩ := save_cases hsave
          · cases hflag
          · rw [hstore] at hsaving hsaved
            exact .unsaved hfresh hready hsaving hsaved (hkept.trans hcontext)

/-! ## Updates -/

/-- The course of an update, for a transition that names the state it leaves. An update looks first
at the state to reach and then at the state the item is in; a repeat may come late. The item stays
where it is while its transition waits, and that is what the caller is told. -/
inductive Updated (platform : Platform) (item : Item) (force : Bool) (transition : Transition)
    (session : Session) : Outcome → Session → Prop where
  | unreachable {session' : Session}
      (hreach : transition.toSid = "" ∨
        ¬ (session.store.statesOf transition.workflowId).Known transition.toSid)
      (hstore : session'.store = session.store) (hcontext : session'.context = session.context) :
      Updated platform item force transition session
        ⟨transition.fromSid, transition.reject (.invalidToState transition.toSid), item⟩ session'
  | drifted {current : String} {session' : Session}
      (hcurrent :
        current = session.store.currentSid transition.workflowId item transition.fieldName)
      (hexecuted : transition.executed = false)
      (hfresh : session.context.marker? transition.markerKey = none)
      (hdrift : transition.fromSid ≠ current)
      (hstore : session'.store = session.store) (hcontext : session'.context = session.context) :
      Updated platform item force transition session
        ⟨current, transition.reject (.drifted current transition.fromSid), item⟩ session'
  | carried {outcome : Outcome} {session' : Session}
      (hnamed : transition.toSid ≠ "")
      (hknown : (session.store.statesOf transition.workflowId).Known transition.toSid)
      (hstays : transition.executed = true ∨
        (∃ remembered, session.context.marker? transition.markerKey = some remembered) ∨
        transition.fromSid =
          session.store.currentSid transition.workflowId item transition.fieldName)
      (hcourse : platform.Course item force transition session
        (!transition.scheduled && !transition.executed) outcome session') :
      Updated platform item force transition session
        { outcome with sid :=
            if transition.scheduled then
              session.store.currentSid transition.workflowId item transition.fieldName
            else outcome.sid } session'

/-- A transition that an update does not turn away as drifted was executed, or was met before by the
request, or leaves the state that the item is in. -/
theorem stays_of_not_drifted {current : String}
    (h : ¬ (¬ transition.executed ∧ session.context.marker? transition.markerKey = none ∧
      transition.fromSid ≠ current)) :
    transition.executed = true ∨
      (∃ remembered, session.context.marker? transition.markerKey = some remembered) ∨
      transition.fromSid = current := by
  rw [← Option.ne_none_iff_exists']
  simpa only [not_and_or, not_not] using h

/-- Every update that gives an answer takes one of the courses of an update. -/
theorem update_on_cases
    (h : platform.updateOn item force transition session = .ok (outcome, session')) :
    platform.Updated item force (session.store.fill item transition) session outcome session' := by
  have hcurrent : session.store.currentSid (session.store.fill item transition).workflowId item
      (session.store.fill item transition).fieldName =
        session.store.currentSid transition.workflowId item transition.fieldName := by
    rw [Store.fill_workflow, Store.fill_field]
  -- the update filled in the state that is left, so the examination fills in nothing more
  have hfilled : session.store.fill item (session.store.fill item transition) =
      session.store.fill item transition := Store.fill_fill
  rw [updateOn, ← Store.fill, ← hcurrent] at h
  generalize session.store.fill item transition = left at h hfilled ⊢
  split at h
  · next hreach =>
      cases h
      exact .unreachable (by simpa using hreach) rfl rfl
  · next hreach =>
      obtain ⟨hnamed, hknown⟩ := not_or.1 hreach
      have hknown := not_not.1 hknown
      split at h
      · next hdrift =>
          cases h
          obtain ⟨hexecuted, hfresh, hdrift⟩ := hdrift
          exact .drifted rfl (by simpa using hexecuted) hfresh hdrift rfl rfl
      · next hstays =>
          have hstays := stays_of_not_drifted hstays
          split at h
          · next hscheduled =>
              obtain ⟨⟨outcome, session'⟩, hexecute, h⟩ := Fault.bind_eq_ok.1 h
              cases h
              have hcourse := execute_on_course hexecute
              rw [hfilled] at hcourse
              simpa [hscheduled] using
                Updated.carried hnamed hknown hstays (by simpa [hscheduled] using hcourse)
          · next hscheduled =>
              split at h
              · next hexecuted =>
                  have hcourse := execute_on_course h
                  rw [hfilled] at hcourse
                  simpa [hscheduled] using
                    Updated.carried hnamed hknown hstays (by simpa [hexecuted] using hcourse)
              · next hexecuted =>
                  have hcourse := move_item_course h
                  rw [hfilled] at hcourse
                  simpa [hscheduled] using
                    Updated.carried hnamed hknown hstays
                      (by simpa [hscheduled, hexecuted] using hcourse)

/-! ## Answers -/

/-- A call on a transition of a kept workflow that leaves the item alone gives an answer. -/
theorem execute_on_answers (platform : Platform) (item : Item) (force : Bool)
    (hworkflow : session.store.workflow? transition.workflowId = some workflow) :
    ∃ answer, platform.executeOn item force transition session = .ok answer := by
  obtain ⟨verdict, examined, middle, hexamine, -⟩ := examine_answers platform item force hworkflow
  simp only [executeOn, hexamine, bind, Except.bind, pure, Except.pure]
  cases verdict with
  | settled sid => exact ⟨_, rfl⟩
  | ready workflow =>
      by_cases hscheduled : examined.scheduled = true
      · exact ⟨_, if_pos hscheduled⟩
      · exact ⟨_, if_neg hscheduled⟩

/-- A call on a transition of a kept workflow that moves the item gives an answer. -/
theorem move_item_answers (platform : Platform) (item : Item) (force : Bool)
    (hworkflow : session.store.workflow? transition.workflowId = some workflow) :
    ∃ answer, platform.moveItem item force transition session = .ok answer := by
  obtain ⟨verdict, examined, middle, hexamine, -⟩ := examine_answers platform item force hworkflow
  simp only [moveItem, hexamine, bind, Except.bind, pure, Except.pure]
  cases verdict with
  | settled sid => exact ⟨_, rfl⟩
  | ready workflow =>
      obtain ⟨kept, after, hsave⟩ :
          ∃ kept after, platform.save examined.target (moved workflow item examined) middle =
            (kept, after) := ⟨_, _, rfl⟩
      simp only [hsave]
      cases kept with
      | true => exact ⟨_, rfl⟩
      | false => exact ⟨_, rfl⟩

/-- An update gives an answer where every known state has a kept workflow. -/
theorem update_on_answers (platform : Platform) (item : Item) (force : Bool)
    (transition : Transition) (hkeys : session.store.Keyed) :
    ∃ answer, platform.updateOn item force transition session = .ok answer := by
  rw [updateOn]
  generalize transition.leaving
    (session.store.currentSid transition.workflowId item transition.fieldName) = left
  split
  · exact ⟨_, rfl⟩
  · next hreach =>
      -- the only fault of the engine is an unknown workflow, and a known state has a kept one
      obtain ⟨workflow, hworkflow⟩ := hkeys.workflow_of_known (not_not.1 (not_or.1 hreach).2)
      split
      · exact ⟨_, rfl⟩
      · split
        · obtain ⟨answer, hanswer⟩ := execute_on_answers platform item force hworkflow
          exact ⟨_, by rw [hanswer]; rfl⟩
        · split
          · exact execute_on_answers platform item force hworkflow
          · exact move_item_answers platform item force hworkflow

/-! ## Calls on kept items -/

variable {sid : String} {reached : Transition}

/-- A call that leaves the item alone and gives an answer has no item, and then is rejected, or
answers as it does on the kept item. -/
theorem execute_cases
    (h : platform.execute force transition session = .ok ((sid, reached), session')) :
    (session.store.item? transition.target = none ∧ session'.store = session.store ∧
        session'.context = session.context ∧
        reached = transition.reject (.missingEntity transition.target.toText)) ∨
      ∃ item outcome, session.store.item? transition.target = some item ∧
        platform.executeOn item force transition session = .ok (outcome, session') ∧
        sid = outcome.sid ∧ reached = outcome.transition := by
  rw [execute] at h
  split at h
  · next hitem =>
      cases h
      exact Or.inl ⟨hitem, rfl, rfl, rfl⟩
  · next item hitem =>
      obtain ⟨⟨outcome, after⟩, hexecute, h⟩ := Fault.bind_eq_ok.1 h
      cases h
      exact Or.inr ⟨item, outcome, hitem, hexecute, rfl, rfl⟩

/-- An update that gives an answer has no item, and then is rejected, or answers as it does on the
kept item. -/
theorem update_cases
    (h : platform.update force transition session = .ok ((sid, reached), session')) :
    (session.store.item? transition.target = none ∧ session'.store = session.store ∧
        session'.context = session.context ∧
        reached = transition.reject (.missingEntity transition.target.toText)) ∨
      ∃ item outcome, session.store.item? transition.target = some item ∧
        platform.updateOn item force transition session = .ok (outcome, session') ∧
        sid = outcome.sid ∧ reached = outcome.transition := by
  rw [update] at h
  split at h
  · next hitem =>
      cases h
      exact Or.inl ⟨hitem, rfl, rfl, rfl⟩
  · next item hitem =>
      obtain ⟨⟨outcome, after⟩, hupdate, h⟩ := Fault.bind_eq_ok.1 h
      cases h
      exact Or.inr ⟨item, outcome, hitem, hupdate, rfl, rfl⟩

/-- An update gives an answer where every known state has a kept workflow. -/
theorem update_answers (platform : Platform) (force : Bool) (transition : Transition)
    (hkeys : session.store.Keyed) :
    ∃ sid reached session',
      platform.update force transition session = .ok ((sid, reached), session') := by
  rw [update]
  split
  · exact ⟨_, _, _, rfl⟩
  · next item hitem =>
      obtain ⟨⟨outcome, after⟩, hanswer⟩ := update_on_answers platform item force transition hkeys
      exact ⟨_, _, _, by rw [hanswer]; rfl⟩

end Platform

end ContentWorkflow
