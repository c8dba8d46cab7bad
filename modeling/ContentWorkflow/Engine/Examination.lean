import ContentWorkflow.Engine.Platform
import ContentWorkflow.Engine.Session
import ContentWorkflow.Store.Rules
import ContentWorkflow.Store.States

/-!
# Examining a transition

Before a transition takes effect it is examined: it must be new to the request, its states must
belong to the workflow, and a change of state needs a rule for the agent and the consent of the
site. The examination either finds the transition ready or settles it on the state that the item
stays in.
-/

namespace ContentWorkflow

/-- What an examination ends with. -/
inductive Verdict where
  /-- The transition may take effect in the workflow. -/
  | ready (workflow : Workflow)
  /-- Nothing is left to do, and the caller is told the state. -/
  | settled (sid : String)

namespace Rejection

/-- How much the rejection matters to those who run the site. -/
def level : Rejection → LogLevel
  | .vetoed _ => .warn
  | _ => .error

end Rejection

namespace Session

/-- The transition is rejected, and the log tells so. -/
def reject (session : Session) (transition : Transition) (reason : Rejection) :
    Transition × Session :=
  (transition.reject reason,
    session.note reason.level s!"{transition.toText}: {reason.message}")

end Session

namespace Transition

/-- The transition leaves the state, unless it names the state it leaves. -/
def leaving (transition : Transition) (sid : String) : Transition :=
  if transition.fromSid = "" then { transition with fromSid := sid } else transition

end Transition

namespace Platform

variable (platform : Platform)

/-- The agent of the transition may make the change of state. Where a rule applies it decides, and
where none does the agent has to bypass the rules. -/
def permits (store : Store) (item : Item) (transition : Transition) : Bool :=
  transition.forced ||
    let bypass := platform.mayBypass transition.agent transition.workflowId
    let rules :=
      (store.rulesOf transition.workflowId).applying (store.statesOf transition.workflowId)
        transition.fromSid
    match rules.toList.find? (·.toSid = transition.toSid) with
    | some rule =>
        decide (rule.Allows (platform.rolesOn transition.agent item) bypass transition.forced)
    | none => bypass

/-- What is wrong with the states of the transition. -/
def stateObjection? (states : States) (transition : Transition) : Option Rejection :=
  if ¬ states.Known transition.fromSid then some (.invalidFromState transition.fromSid)
  else if transition.ChangesState ∧ ¬ states.Known transition.toSid then
    some (.invalidToState transition.toSid)
  else none

/-- Who objects to the transition. Nobody objects to a transition that stays in its state. -/
def accessObjection? (store : Store) (item : Item) (transition : Transition) : Option Rejection :=
  if ¬ transition.ChangesState then none
  else if ¬ platform.permits store item transition then
    some (.unauthorized transition.agent.toText transition.fromSid transition.toSid)
  else (platform.hooks.veto? transition transition.agent).map .vetoed

/-- The transition is examined on behalf of the item. -/
def examine (item : Item) (force : Bool) (transition : Transition) (session : Session) :
    Except Fault (Verdict × Transition × Session) :=
  match session.store.workflow? transition.workflowId with
  | none => .error (.misuse (.unknownWorkflow transition.workflowId))
  | some workflow =>
      let store := session.store
      let transition :=
        transition.leaving (store.currentSid workflow.id item transition.fieldName)
      -- a transition with nothing to record may be repeated
      match (session.context.marker? transition.markerKey).filter fun _ =>
          ¬ transition.IsEmpty with
      | some sid =>
          .ok (.settled sid,
            session.reject transition (.alreadyExecuted transition.markerLabel))
      | none =>
          -- from here on the request remembers the transition, whatever becomes of it
          let session := session.mark transition transition.fromSid
          let transition := { transition with forced := transition.forced || force }
          match stateObjection? (store.statesOf workflow.id) transition with
          | some reason => .ok (.settled transition.fromSid, session.reject transition reason)
          | none =>
              let transition := { transition with status := .validated }
              match platform.accessObjection? store item transition with
              | some reason => .ok (.settled transition.fromSid, session.reject transition reason)
              | none =>
                  .ok (if transition.IsEmpty then .settled transition.toSid else .ready workflow,
                    transition, session)

/-- The transition has an item, and the state it leaves belongs to its workflow. -/
def isValid (store : Store) (transition : Transition) : Bool :=
  match store.item? transition.target with
  | none => false
  | some item =>
      let fromSid :=
        (transition.leaving
          (store.currentSid transition.workflowId item transition.fieldName)).fromSid
      decide ((store.statesOf transition.workflowId).Known fromSid)

end Platform

end ContentWorkflow
