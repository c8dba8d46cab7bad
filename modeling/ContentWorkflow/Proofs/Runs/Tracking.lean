import ContentWorkflow.Proofs.Engine.Due
import ContentWorkflow.Proofs.Runs.Invariants

/-!
# Runs that keep track of the fields

A run is tracked when the engine alone moves kept items, by updates, and no state is purged: the
site saves only items that are new to it. Every step of such a run is one of a few (`Progress`), and
each of them leaves a field alone, or moves it from the state that it is in and records the move
(`Progress.spares_or_moved`).
-/

namespace ContentWorkflow

namespace Store

variable {operation : Operation} {store store' : Store}

/-- The administration leaves the items, the history and the pending transitions alone. -/
theorem Managed.frame (h : store.Managed operation store') :
    store'.items = store.items ∧ store'.history = store.history ∧
      store'.pending = store.pending := by
  cases h with
  | addWorkflow hwrite =>
      obtain ⟨-, rfl⟩ := add_workflow_ok hwrite
      exact ⟨rfl, rfl, rfl⟩
  | addState _ hwrite =>
      obtain ⟨-, -, -, rfl⟩ := add_state_ok hwrite
      exact ⟨rfl, rfl, rfl⟩
  | addRule _ _ hwrite =>
      obtain ⟨-, -, -, rfl⟩ := add_rule_ok hwrite
      exact ⟨rfl, rfl, rfl⟩
  | bind _ hwrite =>
      obtain ⟨-, rfl⟩ := bind_ok hwrite
      exact ⟨rfl, rfl, rfl⟩
  | setSettings => exact ⟨rfl, rfl, rfl⟩
  | setState => exact ⟨rfl, rfl, rfl⟩
  | setRule => exact ⟨rfl, rfl, rfl⟩
  | dropRule => exact ⟨rfl, rfl, rfl⟩

/-- The administration drops no state, so every known state stays known. -/
theorem Managed.known (h : store.Managed operation store') {workflowId sid : String}
    (hknown : (store.statesOf workflowId).Known sid) :
    (store'.statesOf workflowId).Known sid := by
  rw [known_states_of] at hknown ⊢
  obtain ⟨state, hstate, hworkflow, hid⟩ := hknown
  cases h with
  | addState _ hwrite =>
      obtain ⟨-, -, -, rfl⟩ := add_state_ok hwrite
      exact ⟨state, List.mem_append_left _ hstate, hworkflow, hid⟩
  | setState changed =>
      refine ⟨_, List.mem_map.2 ⟨state, hstate, rfl⟩, ?_⟩
      split <;> exact ⟨hworkflow, hid⟩
  | addWorkflow hwrite =>
      obtain ⟨-, rfl⟩ := add_workflow_ok hwrite
      exact ⟨state, hstate, hworkflow, hid⟩
  | addRule _ _ hwrite =>
      obtain ⟨-, -, -, rfl⟩ := add_rule_ok hwrite
      exact ⟨state, hstate, hworkflow, hid⟩
  | bind _ hwrite =>
      obtain ⟨-, rfl⟩ := bind_ok hwrite
      exact ⟨state, hstate, hworkflow, hid⟩
  | setSettings => exact ⟨state, hstate, hworkflow, hid⟩
  | setRule => exact ⟨state, hstate, hworkflow, hid⟩
  | dropRule => exact ⟨state, hstate, hworkflow, hid⟩

end Store

namespace Platform.Arrived

variable {platform : Platform} {item : Item} {force : Bool} {transition reached : Transition}
  {session session' : Session} {target : Target} {fieldName : String}

/-- The field of an executed transition holds the state that was reached. -/
theorem field_value (h : platform.Arrived session item force transition reached session') :
    session'.store.fieldValue? transition.target transition.fieldName = some transition.toSid := by
  obtain ⟨stored, hstored, hfield, -⟩ := h.field
  exact Option.bind_eq_some_iff.2 ⟨stored, hstored, hfield⟩

/-- An executed transition is of the same field and between the same states. -/
theorem same_move (h : platform.Arrived session item force transition reached session') :
    (reached.target = transition.target ∧ reached.fieldName = transition.fieldName) ∧
      reached.fromSid = transition.fromSid ∧ reached.toSid = transition.toSid := by
  rw [h.executed]
  exact ⟨⟨rfl, rfl⟩, rfl, rfl⟩

/-- The trail of the field ends with the record of the executed transition, if there is one. -/
theorem trail_eq (h : platform.Arrived session item force transition reached session') :
    session'.store.trail transition.target transition.fieldName =
      session.store.trail transition.target transition.fieldName ++
        if reached.IsEmpty then []
        else [{ reached.toRecord with hid := session.store.lastHid + 1 }] := by
  obtain ⟨⟨htarget, hfield⟩, -⟩ := h.same_move
  rw [Store.trail, h.history, List.filter_append, Store.trail]
  split
  · rfl
  · simp [Transition.toRecord, htarget, hfield]

/-- An executed transition leaves every other field alone. -/
theorem spares (h : platform.Arrived session item force transition reached session')
    (hitem : session.store.item? transition.target = some item)
    (hother : ¬ (transition.target = target ∧ transition.fieldName = fieldName)) :
    session.store.Spares session'.store target fieldName := by
  obtain ⟨⟨htarget, hfield⟩, -⟩ := h.same_move
  constructor
  · intro found hfound
    by_cases hsame : target = transition.target
    · rw [hsame, hitem] at hfound
      cases hfound
      obtain ⟨stored, hstored, -, -, hfields, -⟩ := h.field
      refine ⟨stored, hsame ▸ hstored, hfields fieldName ?_⟩
      exact fun hname => hother ⟨hsame.symm, hname.symm⟩
    · exact ⟨found, (h.other_items target hsame).trans hfound, rfl⟩
  · rw [Store.trail, h.history, List.filter_append, Store.trail]
    split
    · simp
    · simp [Transition.toRecord, htarget, hfield, hother]

/-- What an executed transition leaves of every other field was there before. -/
theorem spares_back (h : platform.Arrived session item force transition reached session')
    (hitem : session.store.item? transition.target = some item)
    (hother : ¬ (transition.target = target ∧ transition.fieldName = fieldName)) :
    session'.store.Spares session.store target fieldName where
  kept := by
    intro found hfound
    by_cases hsame : target = transition.target
    · obtain ⟨stored, hstored, -, -, hfields, -⟩ := h.field
      rw [hsame, hstored] at hfound
      cases hfound
      refine ⟨item, hsame ▸ hitem, (hfields fieldName ?_).symm⟩
      exact fun hname => hother ⟨hsame.symm, hname.symm⟩
    · exact ⟨found, (h.other_items target hsame).symm.trans hfound, rfl⟩
  trail := (h.spares hitem hother).trail.symm

end Platform.Arrived

namespace Call

variable {call : Call} {store : Store} {session session' : Session} {submission : Submission}

/-- The call leaves kept items to the updates of the engine: it purges no state, it records and
schedules nothing but by an update of a kept item, and of no transition that was executed before,
and the site saves only items that are not kept yet. -/
def Tracked (call : Call) (store : Store) : Prop :=
  match call.operation with
  | .purgeState .. | .execute .. | .updateContent .. | .schedule .. => False
  | .update _ transition => transition.executed = false
  | .saveContent item => store.item? item.target = none
  | _ => True

/-- One step of a call that is tracked. -/
inductive Progress (call : Call) (session session' : Session) : Prop where
  | still (hstore : session'.store = session.store)
  | managed (h : session.store.Managed call.operation session'.store)
  | added {item : Item} (hnew : session.store.item? item.target = none)
      (hstore : session'.store = session.store.saveItem item)
  | dismissed {tid : Int} (hstore : session'.store = session.store.dropPending tid)
  | scheduled {item : Item} {transition : Transition}
      (hfollows : session.store.Follows transition item) (hnamed : transition.toSid ≠ "")
      (hfrom : (session.store.statesOf transition.workflowId).Known transition.fromSid)
      (hto : (session.store.statesOf transition.workflowId).Known transition.toSid)
      (hstore : session'.store =
        (session.store.dropPendingFor transition.target transition.fieldName).addPending transition)
  | moved {item : Item} {force : Bool} {transition reached : Transition}
      (hfollows : session.store.Follows transition item) (hnonempty : ¬ transition.IsEmpty)
      (harrived : call.platform.Arrived session item force transition reached session')

/-- A tracked call submits nothing that was executed before. -/
theorem Submits.executed_eq (htracked : call.Tracked store) (h : call.Submits store submission) :
    submission.transition.executed = false := by
  cases h with
  | execute hop => simp [Tracked, hop] at htracked
  | updateContent hop => simp [Tracked, hop] at htracked
  | update hop => simpa [Tracked, hop] using htracked
  | reassigning => rfl
  | reverting => rfl
  | due => rfl

/-- A course on a transition that an update carries on with is progress, unless the transition was
executed before. -/
theorem course_progress {item : Item} {force moving : Bool} {transition : Transition}
    {outcome : Outcome} (hitem : session.store.item? transition.target = some item)
    (hexecuted : transition.executed = false)
    (hupdates : session.Updates item transition moving)
    (hcourse : call.platform.Course item force transition session moving outcome session') :
    call.Progress session session' := by
  have hmoving : moving = !transition.scheduled := by simp [hupdates.moving, hexecuted]
  -- only a transition that is new to the request takes effect, and that has not drifted
  have hcurrent : session.context.marker? transition.markerKey = none →
      session.store.Follows transition item := by
    intro hfresh
    have hstays := hupdates.stays
    simp only [hexecuted, hfresh, reduceCtorEq, exists_false, false_or] at hstays
    exact ⟨hitem, hstays⟩
  cases hcourse with
  | repeated _ _ hstore => exact .still hstore
  | objected _ _ hstore => exact .still hstore
  | empty _ hstore => exact .still hstore
  | unsaved _ _ _ hstore => exact .still hstore
  | recorded hscheduled => simp [hscheduled] at hmoving
  | scheduled _ hfresh hready hstore =>
      have hfollows : session.store.Follows (transition.validated force) item :=
        ⟨hitem, (hcurrent hfresh).current⟩
      exact .scheduled hfollows hupdates.named
        (Platform.state_objection_eq_none.1 hready.states).1 hupdates.known hstore
  | moved hfresh hready _ hstore hcontext =>
      exact .moved (hcurrent hfresh) hready.nonempty
        (Platform.arrived_of_moved hitem hupdates.named hready hstore hcontext)

/-- Every effect of a tracked call is progress. -/
theorem Effect.progress (htracked : call.Tracked store)
    (h : call.Effect store session session') : call.Progress session session' := by
  cases h with
  | managed h =>
      rcases h.store with hstore | hmanaged
      · exact .still hstore
      · exact .managed hmanaged
  | purged hop => simp [Tracked, hop] at htracked
  | saved hop hmoment hstore =>
      rw [Tracked, hop] at htracked
      exact .added (hmoment ▸ htracked) hstore
  | dismissed _ hstore => exact .dismissed hstore
  | engaged hsubmits _ hkept hupdates _ hcourse =>
      have hexecuted := hsubmits.executed_eq htracked
      obtain hitem | ⟨_, _, _, hop⟩ := hkept
      · obtain hupdates | ⟨_, _, hop⟩ := hupdates
        · rw [← Store.fill_target] at hitem
          rw [← Store.fill_executed] at hexecuted
          exact course_progress hitem hexecuted hupdates hcourse
        · simp [Tracked, hop] at htracked
      · simp [Tracked, hop] at htracked
  | scheduled hop => simp [Tracked, hop] at htracked

/-- What every step of progress preserves of the store, a tracked call preserves. -/
theorem after_tracked {motive : Store → Prop} (htracked : call.Tracked session.store)
    (hprogress : ∀ first second, call.Progress first second → motive first.store →
      motive second.store) (hbefore : motive session.store) : motive (call.after session).store :=
  after_effects (motive := fun reached => motive reached.store) hbefore
    fun first second heffect => hprogress first second (heffect.progress htracked)

/-- A step of progress leaves a field alone, or it moves the field from the state that it is in. -/
theorem Progress.spares_or_moved (h : call.Progress session session') (target : Target)
    (fieldName : String) :
    session.store.Spares session'.store target fieldName ∨
      ∃ item force transition reached,
        transition.target = target ∧ transition.fieldName = fieldName ∧
          session.store.Follows transition item ∧
          call.platform.Arrived session item force transition reached session' := by
  cases h with
  | still hstore => exact Or.inl (hstore ▸ .of_same rfl rfl)
  | managed h =>
      obtain ⟨hitems, hhistory, -⟩ := h.frame
      exact Or.inl (.of_same hitems hhistory)
  | added hnew hstore => exact Or.inl (hstore ▸ .of_added hnew)
  | dismissed hstore => exact Or.inl (hstore ▸ .of_same rfl rfl)
  | scheduled _ _ _ _ hstore => exact Or.inl (hstore ▸ .of_same rfl rfl)
  | @moved item force transition reached hfollows _ harrived =>
      by_cases hown : transition.target = target ∧ transition.fieldName = fieldName
      · exact Or.inr ⟨item, force, transition, reached, hown.1, hown.2, hfollows, harrived⟩
      · exact Or.inl (harrived.spares hfollows.kept hown)

end Call

namespace Session

/-- Every call of the run is tracked where it is served. -/
def Tracked : Session → List Call → Prop
  | _, [] => True
  | session, call :: calls => call.Tracked session.store ∧ (call.after session).Tracked calls

/-- What every step of progress preserves of the store holds after every tracked run where it held
before. -/
theorem tracked_invariant {motive : Store → Prop} {session : Session} {calls : List Call}
    (htracked : session.Tracked calls)
    (hprogress : ∀ call ∈ calls, ∀ first second, call.Progress first second →
      motive first.store → motive second.store)
    (hstart : motive session.store) : motive (session.serve calls).store := by
  induction calls generalizing session with
  | nil => exact hstart
  | cons call calls ih =>
      obtain ⟨hcall, hcalls⟩ := htracked
      refine ih hcalls (fun other hother => hprogress other (List.mem_cons_of_mem call hother)) ?_
      exact Call.after_tracked hcall (hprogress call List.mem_cons_self) hstart

end Session

end ContentWorkflow
