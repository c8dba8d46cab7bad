import ContentWorkflow.Engine.Examination
import ContentWorkflow.Store.Pending

/-!
# Executing transitions

`execute` examines a transition and then records or schedules it, and leaves the item alone.
`update` also moves the item and saves it. A transition that is rejected leaves the store as it
was. The caller is told a state, which for a repeated transition is the one that the request
remembers.
-/

namespace ContentWorkflow

/-- What a call of the engine ends with. -/
structure Outcome where
  /-- The state that the caller is told. -/
  sid : String
  transition : Transition
  item : Item

namespace Session

/-- The transition is pending from now on, in place of any other of its field. -/
def schedule (session : Session) (transition : Transition) : Transition × Session :=
  let store := session.store
  let session :=
    if 0 < store.pendingCount transition.target transition.fieldName then
      session.note .debug
        s!"superseded pending transition for {transition.target.toText} [{transition.fieldName}]"
    else session
  let store := (store.dropPendingFor transition.target transition.fieldName).addPending transition
  let transition :=
    { transition with id := store.lastTid, scheduled := true, status := .scheduled }
  (transition,
    { session with store := store }.note .info
      s!"scheduled transition {transition.id} at {transition.timestamp}: {transition.toText}")

end Session

namespace Platform

variable (platform : Platform)

/-- The transition is executed: it enters the history, unless there is nothing to record, and no
other transition of its field is pending any longer. -/
def record (workflow : Workflow) (transition : Transition) (session : Session) :
    Transition × Session :=
  let transition :=
    { platform.hooks.alterComment transition with executed := true, status := .executed }
  -- the hooks may have taken away the comment that there was to record
  let session :=
    if transition.IsEmpty then session
    else
      let store := session.store.appendHistory transition.toRecord
      { session with
        store := store.dropPendingFor transition.target transition.fieldName }.note .trace
          s!"appended history record {store.lastHid}"
  (transition,
    (session.mark transition transition.toSid).note
      (if workflow.settings.watchdogLog then .info else .debug)
      s!"executed transition {transition.toText}")

/-- The transition is examined, and recorded or scheduled if nothing stands against it. -/
def executeOn (item : Item) (force : Bool) (transition : Transition) (session : Session) :
    Except Fault (Outcome × Session) := do
  let (verdict, transition, session) ← platform.examine item force transition session
  match verdict with
  | .settled sid => return (⟨sid, transition, item⟩, session)
  | .ready workflow =>
      if transition.scheduled then
        let (transition, session) := session.schedule transition
        return (⟨transition.toSid, transition, item⟩, session.mark transition transition.toSid)
      else
        let (transition, session) := platform.record workflow transition session
        return (⟨transition.toSid, transition, item⟩, session)

/-- The item after the transition, before it is saved. -/
def moved (workflow : Workflow) (item : Item) (transition : Transition) : Item :=
  let item := item.setField transition.fieldName transition.toSid
  if workflow.settings.alwaysUpdateEntity then { item with changed := transition.timestamp }
  else item

/-- The item after a move that was not saved: the field has the state it had, or none. -/
def restored (item : Item) (transition : Transition) : Item :=
  item.setField transition.fieldName ((item.fieldValue? transition.fieldName).getD "")

/-- The item is saved for the target of a transition, and the flag tells whether it was. A failure
is logged. -/
def save (target : Target) (item : Item) (session : Session) : Bool × Session :=
  match platform.saving session.store item with
  | .saved => (true, { session with store := session.store.saveItem item })
  | .refused => (false, session)
  | .failed failure =>
      (false, session.note .error s!"failed to save {target.toText}: {failure.message}")

/-- The transition is examined, and the item moved, saved and the move recorded if nothing stands
against it. -/
def moveItem (item : Item) (force : Bool) (transition : Transition) (session : Session) :
    Except Fault (Outcome × Session) := do
  let (verdict, transition, session) ← platform.examine item force transition session
  match verdict with
  | .settled sid => return (⟨sid, transition, item⟩, session)
  | .ready workflow =>
      let movedItem := moved workflow item transition
      match platform.save transition.target movedItem session with
      | (true, session) =>
          let (transition, session) := platform.record workflow transition session
          return (⟨transition.toSid, transition, movedItem⟩, session)
      | (false, session) =>
          let (transition, session) :=
            session.reject transition (.saveFailed transition.target.toText)
          return (⟨transition.fromSid, transition, restored item transition⟩, session)

/-- The transition takes effect on the item. A scheduled transition waits, and one that was executed
before is only recorded. -/
def updateOn (item : Item) (force : Bool) (transition : Transition) (session : Session) :
    Except Fault (Outcome × Session) :=
  let current := session.store.currentSid transition.workflowId item transition.fieldName
  let transition := transition.leaving current
  -- the state to reach is looked at first, also where the workflow is unknown
  if transition.toSid = "" ∨
      ¬ (session.store.statesOf transition.workflowId).Known transition.toSid then
    let (transition, session) :=
      session.reject transition (.invalidToState transition.toSid)
    .ok (⟨transition.fromSid, transition, item⟩, session)
  -- a transition that the request has met before is left to the examination
  else if ¬ transition.executed ∧ session.context.marker? transition.markerKey = none ∧
      transition.fromSid ≠ current then
    let (transition, session) :=
      session.reject transition (.drifted current transition.fromSid)
    .ok (⟨current, transition, item⟩, session)
  -- an item whose transition waits stays where it is
  else if transition.scheduled then do
    let (outcome, session) ← platform.executeOn item force transition session
    return ({ outcome with sid := current }, session)
  else if transition.executed then platform.executeOn item force transition session
  else platform.moveItem item force transition session

/-- What a call ends with whose item is not kept. -/
def withoutItem (transition : Transition) (session : Session) :
    Transition × Session :=
  session.reject transition (.missingEntity transition.target.toText)

/-- The transition is recorded or scheduled for its kept item, which is left alone. -/
def execute (force : Bool) (transition : Transition) (session : Session) :
    Except Fault ((String × Transition) × Session) :=
  match session.store.item? transition.target with
  | none =>
      let (transition, session) := withoutItem transition session
      .ok ((transition.fromSid, transition), session)
  | some item => do
      let (outcome, session) ← platform.executeOn item force transition session
      return ((outcome.sid, outcome.transition), session)

/-- The transition takes effect on its kept item. -/
def update (force : Bool) (transition : Transition) (session : Session) :
    Except Fault ((String × Transition) × Session) :=
  match session.store.item? transition.target with
  | none =>
      let (transition, session) := withoutItem transition session
      .ok ((transition.fromSid, transition), session)
  | some item => do
      let (outcome, session) ← platform.updateOn item force transition session
      return ((outcome.sid, outcome.transition), session)

end Platform

end ContentWorkflow
