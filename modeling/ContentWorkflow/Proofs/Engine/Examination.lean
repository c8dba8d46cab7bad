import ContentWorkflow.Proofs.Engine.Permission

/-!
# What an examination finds

An examination fills in the state that is left and ends in one of four ways: the request has met the
transition before, something stands against it, there is nothing to record, or it is ready.
`examine_cases` lists the four with what holds in each and with what the request remembers.
-/

namespace ContentWorkflow

namespace Transition

/-- The transition once it was found valid, by force or without. -/
def validated (transition : Transition) (force : Bool) : Transition :=
  { transition with forced := transition.forced || force, status := .validated }

variable {transition : Transition} {current : String} {force : Bool}

/-- Filling in the state that is left changes nothing else. -/
theorem leaving_eq (transition : Transition) (current : String) :
    transition.leaving current =
      { transition with
        fromSid := if transition.fromSid = "" then current else transition.fromSid } := by
  unfold leaving
  split <;> rfl

/-- Filling in the same state twice is filling it in once. -/
@[simp] theorem leaving_leaving (transition : Transition) (current : String) :
    (transition.leaving current).leaving current = transition.leaving current := by
  by_cases h : transition.fromSid = ""
  · by_cases hcurrent : current = "" <;> simp [leaving, h, hcurrent]
  · simp [leaving, h]

@[simp] theorem validated_changes :
    (transition.validated force).ChangesState ↔ transition.ChangesState :=
  Iff.rfl

end Transition

/-- The transition of the item, with the state that it leaves filled in. -/
def Store.fill (store : Store) (item : Item) (transition : Transition) : Transition :=
  transition.leaving (store.currentSid transition.workflowId item transition.fieldName)

namespace Store

variable {store : Store} {item : Item} {transition : Transition}

@[simp] theorem fill_workflow :
    (store.fill item transition).workflowId = transition.workflowId := by
  rw [fill, Transition.leaving_eq]

@[simp] theorem fill_field : (store.fill item transition).fieldName = transition.fieldName := by
  rw [fill, Transition.leaving_eq]

@[simp] theorem fill_target : (store.fill item transition).target = transition.target := by
  rw [fill, Transition.leaving_eq]

@[simp] theorem fill_to : (store.fill item transition).toSid = transition.toSid := by
  rw [fill, Transition.leaving_eq]

@[simp] theorem fill_scheduled : (store.fill item transition).scheduled = transition.scheduled := by
  rw [fill, Transition.leaving_eq]

@[simp] theorem fill_executed : (store.fill item transition).executed = transition.executed := by
  rw [fill, Transition.leaving_eq]

@[simp] theorem fill_forced : (store.fill item transition).forced = transition.forced := by
  rw [fill, Transition.leaving_eq]

@[simp] theorem fill_agent : (store.fill item transition).agent = transition.agent := by
  rw [fill, Transition.leaving_eq]

@[simp] theorem fill_timestamp : (store.fill item transition).timestamp = transition.timestamp := by
  rw [fill, Transition.leaving_eq]

/-- A transition that names the state it leaves is filled in already. -/
theorem fill_of_named (h : transition.fromSid ≠ "") : store.fill item transition = transition :=
  if_neg h

/-- A transition that names no state to leave leaves the one that the item is in. -/
theorem fill_of_unnamed (h : transition.fromSid = "") :
    store.fill item transition =
      { transition with
        fromSid := store.currentSid transition.workflowId item transition.fieldName } := by
  rw [fill, Transition.leaving, if_pos h]

/-- A transition that names no state to leave leaves the one that the field of the item holds. -/
theorem fill_of_field {sid : String} (h : transition.fromSid = "")
    (hfield : item.fieldValue? transition.fieldName = some sid) :
    store.fill item transition = { transition with fromSid := sid } := by
  rw [fill_of_unnamed h, current_sid_of_field hfield]

/-- Leaving the state that was filled in is filling it in. -/
theorem leaving_fill :
    transition.leaving (store.fill item transition).fromSid = store.fill item transition := by
  by_cases h : transition.fromSid = "" <;> simp [fill, Transition.leaving, h]

/-- Filling in a second time fills in nothing. -/
@[simp] theorem fill_fill :
    store.fill item (store.fill item transition) = store.fill item transition := by
  rw [fill, fill_workflow, fill_field, fill, Transition.leaving_leaving]

end Store

namespace Platform

variable {platform : Platform} {store : Store} {item : Item} {force : Bool}
  {transition : Transition} {session : Session}

/-- Validating a transition by force authorizes what the force does. -/
theorem authorized_validated :
    platform.Authorized store item false (transition.validated force) ↔
      platform.Authorized store item force transition := by
  constructor
  · intro h
    cases h with
    | forced h =>
        have hforced : transition.forced = true ∨ force = true := by
          simpa [Transition.validated] using h
        exact .forced hforced.symm
    | bypass h => exact .bypass h
    | role rule husable hgoverns hroles => exact .role rule husable hgoverns hroles
  · intro h
    cases h with
    | forced h => exact .forced (Or.inr (by simpa [Transition.validated] using h.symm))
    | bypass h => exact .bypass h
    | role rule husable hgoverns hroles => exact .role rule husable hgoverns hroles

/-- Nothing is wrong with the states when the state that is left is known, and the other one where
there is another one. -/
theorem state_objection_eq_none {states : States} :
    stateObjection? states transition = none ↔
      states.Known transition.fromSid ∧
        (transition.ChangesState → states.Known transition.toSid) := by
  simp only [stateObjection?]
  split
  · next h => simp [h]
  · next h =>
      split
      · next h' => simp [h'.1, h'.2]
      · next h' =>
          refine iff_of_true rfl ⟨not_not.1 h, ?_⟩
          intro hchanges
          exact not_not.1 fun hunknown => h' ⟨hchanges, hunknown⟩

/-- Nobody objects when the change, if there is one, is permitted and not vetoed. -/
theorem access_objection_eq_none :
    platform.accessObjection? store item transition = none ↔
      (transition.ChangesState → platform.permits store item transition = true ∧
        platform.hooks.veto? transition transition.agent = none) := by
  simp only [accessObjection?]
  split
  · next h => exact iff_of_true rfl fun hc => absurd hc h
  · next h =>
      have hchanges : transition.ChangesState := not_not.1 h
      split
      · next h' => simp [hchanges, h']
      · next h' => simp [hchanges, not_not.1 h']

/-- Nothing stands against the transition, and there is something to record. -/
structure Ready (platform : Platform) (store : Store) (item : Item) (workflow : Workflow)
    (transition : Transition) : Prop where
  workflow : store.workflow? transition.workflowId = some workflow
  states : stateObjection? (store.statesOf transition.workflowId) transition = none
  access : platform.accessObjection? store item transition = none
  nonempty : ¬ transition.IsEmpty

/-- Nothing is objected to a transition that is ready. -/
theorem Ready.unobjected {workflow : Workflow} {reason : Rejection}
    (hready : platform.Ready store item workflow (transition.validated force)) :
    ¬ (stateObjection? (store.statesOf transition.workflowId) transition = some reason ∨
      platform.accessObjection? store item (transition.validated force) = some reason) := by
  have hstates : stateObjection? (store.statesOf transition.workflowId) transition = none :=
    hready.states
  simp [hstates, hready.access]

/-- A ready transition is between known states. -/
theorem Ready.known {workflow : Workflow} (hready : platform.Ready store item workflow transition) :
    (store.statesOf transition.workflowId).Known transition.fromSid ∧
      (store.statesOf transition.workflowId).Known transition.toSid := by
  obtain ⟨hfrom, hto⟩ := state_objection_eq_none.1 hready.states
  refine ⟨hfrom, ?_⟩
  by_cases hchanges : transition.ChangesState
  · exact hto hchanges
  · exact not_not.1 hchanges ▸ hfrom

/-- What an examination ends with, for a transition that names the state it leaves. The request
remembers the state that is left, unless it remembers the transition already. What is wrong with the
states is found first. -/
inductive Examined (platform : Platform) (item : Item) (force : Bool) (transition : Transition)
    (session : Session) : Verdict → Transition → Session → Prop where
  | repeated {remembered : String} {session' : Session}
      (hmarker : session.context.marker? transition.markerKey = some remembered)
      (hnonempty : ¬ transition.IsEmpty)
      (hstore : session'.store = session.store) (hcontext : session'.context = session.context) :
      Examined platform item force transition session (.settled remembered)
        (transition.reject (.alreadyExecuted transition.markerLabel)) session'
  | objected {reason : Rejection} {session' : Session}
      (hfresh : session.context.marker? transition.markerKey = none ∨ transition.IsEmpty)
      (hreason :
        stateObjection? (session.store.statesOf transition.workflowId) transition = some reason ∨
          platform.accessObjection? session.store item (transition.validated force) = some reason)
      (hstore : session'.store = session.store)
      (hcontext : session'.context =
        session.context.setMarker transition.markerKey transition.fromSid)
      (hfirst : ∀ other, stateObjection? (session.store.statesOf transition.workflowId) transition =
        some other → reason = other) :
      Examined platform item force transition session (.settled transition.fromSid)
        ((transition.validated force).reject reason) session'
  | empty {session' : Session} (hempty : transition.IsEmpty)
      (hstore : session'.store = session.store)
      (hcontext : session'.context =
        session.context.setMarker transition.markerKey transition.fromSid)
      (hstates : stateObjection? (session.store.statesOf transition.workflowId) transition =
        none) :
      Examined platform item force transition session (.settled transition.toSid)
        (transition.validated force) session'
  | ready {workflow : Workflow} {session' : Session}
      (hfresh : session.context.marker? transition.markerKey = none)
      (hready : platform.Ready session.store item workflow (transition.validated force))
      (hstore : session'.store = session.store)
      (hcontext : session'.context =
        session.context.setMarker transition.markerKey transition.fromSid) :
      Examined platform item force transition session (.ready workflow)
        (transition.validated force) session'

/-- An examination of a transition of a kept workflow gives an answer, and ends in one of the four
ways. -/
theorem examine_answers (platform : Platform) (item : Item) (force : Bool) {workflow : Workflow}
    (hworkflow : session.store.workflow? transition.workflowId = some workflow) :
    ∃ verdict examined session',
      platform.examine item force transition session = .ok (verdict, examined, session') ∧
        platform.Examined item force (session.store.fill item transition) session verdict
          examined session' := by
  have hid := Store.workflow_id hworkflow
  simp only [examine, hworkflow, hid, Store.fill]
  generalize hleft : transition.leaving
    (session.store.currentSid transition.workflowId item transition.fieldName) = left
  have hleftId : left.workflowId = transition.workflowId := by
    rw [← hleft, Transition.leaving_eq]
  rw [← hleftId]
  split
  · next remembered hmarker =>
      obtain ⟨hmarker, hnonempty⟩ := Option.filter_eq_some_iff.1 hmarker
      exact ⟨_, _, _, rfl, .repeated hmarker (by simpa using hnonempty) rfl rfl⟩
  · next hmarker =>
      have hfresh : session.context.marker? left.markerKey = none ∨ left.IsEmpty := by
        cases hseen : session.context.marker? left.markerKey with
        | none => exact Or.inl rfl
        | some remembered => exact Or.inr (by simpa [hseen] using hmarker)
      split
      · next reason hreason =>
          refine ⟨_, _, _, rfl, .objected hfresh (Or.inl hreason) rfl rfl fun other hother => ?_⟩
          exact Option.some.inj (hreason.symm.trans hother)
      · next hstates =>
          split
          · next reason hreason =>
              refine ⟨_, _, _, rfl, .objected hfresh (Or.inr hreason) rfl rfl ?_⟩
              intro other hother
              cases hstates.symm.trans hother
          · next haccess =>
              split
              · next hempty => exact ⟨_, _, _, rfl, .empty hempty rfl rfl hstates⟩
              · next hnonempty =>
                  refine ⟨_, _, _, rfl, .ready (hfresh.resolve_right hnonempty) ?_ rfl rfl⟩
                  exact ⟨(congrArg _ hleftId).trans hworkflow, hstates, haccess, hnonempty⟩

/-- Only a transition of an unknown workflow is not examined. -/
theorem examine_fault
    (hworkflow : session.store.workflow? transition.workflowId = none) :
    platform.examine item force transition session =
      .error (.misuse (.unknownWorkflow transition.workflowId)) := by
  simp [examine, hworkflow]

/-- Every examination that gives an answer ends in one of the four ways. -/
theorem examine_cases {verdict : Verdict} {examined : Transition} {session' : Session}
    (h : platform.examine item force transition session = .ok (verdict, examined, session')) :
    platform.Examined item force (session.store.fill item transition) session verdict examined
      session' := by
  cases hworkflow : session.store.workflow? transition.workflowId with
  | none =>
      rw [examine_fault hworkflow] at h
      cases h
  | some workflow =>
      obtain ⟨_, _, _, hanswer, hcase⟩ := examine_answers platform item force hworkflow
      rw [hanswer] at h
      cases h
      exact hcase

end Platform

end ContentWorkflow
