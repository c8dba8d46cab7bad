import ContentWorkflow.Engine.Execution

/-!
# Sweeping the pending transitions

A sweep takes up every transition that is due. One whose item is gone or has moved on is discarded;
any other takes effect by force, because it was examined when it was scheduled. Whatever becomes of
it, it is no longer pending afterwards.
-/

namespace ContentWorkflow

/-- How many transitions a sweep executed, discarded and saw rejected. -/
structure SweepReport where
  executed : Nat
  discarded : Nat
  rejected : Nat
  deriving DecidableEq

/-- What became of a transition that was due. -/
inductive Fate where
  | executed
  | discarded
  | rejected
  deriving DecidableEq

namespace SweepReport

/-- Nothing was due. -/
def nothing : SweepReport :=
  ⟨0, 0, 0⟩

/-- The report with one more transition. -/
def add (report : SweepReport) : Fate → SweepReport
  | .executed => { report with executed := report.executed + 1 }
  | .discarded => { report with discarded := report.discarded + 1 }
  | .rejected => { report with rejected := report.rejected + 1 }

/-- The report in a line. -/
def toText (report : SweepReport) : String :=
  s!"{report.executed} executed, {report.discarded} discarded, {report.rejected} rejected"

end SweepReport

instance : JsonForm SweepReport where
  toJson report := Json.ofFields [
    ("executed", toJson report.executed),
    ("discarded", toJson report.discarded),
    ("rejected", toJson report.rejected)]
  ofJson? := Json.SlotReader.readRecord? ["executed", "discarded", "rejected"]
    do return {
      executed := ← Json.SlotReader.required
      discarded := ← Json.SlotReader.required
      rejected := ← Json.SlotReader.required }

namespace Transition

/-- The transition as it is executed when it is due: by force, and with a comment that names who
scheduled it where nobody commented. -/
def asDue (transition : Transition) : Transition :=
  { transition with
    comment :=
      if transition.HasComment then transition.comment
      else some <| match transition.agent with
        | .user id => s!"Scheduled by user {id}."
        | .anonymous => "Scheduled by user anonymous."
    scheduled := false
    forced := true }

end Transition

namespace Platform

variable (platform : Platform)

/-- The log tells why the pending transition is discarded. -/
def noteDiscard (transition : Transition) (reason : Rejection) (session : Session) : Session :=
  session.note (match reason with
    | .missingEntity _ => .warn
    | _ => .error)
    s!"discarding scheduled transition {transition.id}: {reason.message}"

/-- The transition that is due takes effect, or is discarded. -/
def takeUp (transition : Transition) (session : Session) : Except Fault (Fate × Session) :=
  match session.store.item? transition.target with
  | none =>
      .ok (.discarded,
        noteDiscard transition (.missingEntity transition.target.toText) session)
  | some item =>
      let current := session.store.currentSid transition.workflowId item transition.fieldName
      -- the item has moved on since the transition was scheduled
      if current ≠ transition.fromSid then
        .ok (.discarded, noteDiscard transition (.drifted current transition.fromSid) session)
      else do
        let (outcome, session) ← platform.updateOn item true transition.asDue session
        return (if outcome.transition.status = .executed then .executed else .rejected, session)

/-- The transitions are taken up one after another, and none of them is pending any longer. -/
def takeUpAll : List Transition → SweepReport → Action SweepReport
  | [], report => return report
  | transition :: rest, report => do
      let fate ← Action.ofStep (platform.takeUp transition)
      Action.change (·.dropPending transition.id)
      takeUpAll rest (report.add fate)

/-- Every pending transition that is due at the time is taken up. -/
def sweep (now : Int) : Action SweepReport := do
  let due := (← Action.store).due now
  Action.log .debug s!"{due.length} scheduled transition(s) due at {now}"
  let report ← platform.takeUpAll due .nothing
  Action.log .debug s!"sweep done: {report.toText}"
  return report

end Platform

end ContentWorkflow
