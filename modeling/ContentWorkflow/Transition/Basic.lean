import ContentWorkflow.Transition.History

/-!
# Transitions

A transition moves one field of one content item from a state to a state. Its status tells how far
it came. A transition that is refused is not a fault: the reason stays in its status.
-/

namespace ContentWorkflow

/-- Why a transition did not take effect. -/
inductive Rejection where
  | missingEntity (target : String)
  | invalidFromState (sid : String)
  | invalidToState (sid : String)
  | unauthorized (user fromSid toSid : String)
  | vetoed (reason : String)
  | drifted (current expected : String)
  | alreadyExecuted (label : String)
  | saveFailed (target : String)
  deriving DecidableEq

/-- The reason in a sentence. -/
def Rejection.message : Rejection → String
  | .missingEntity target => s!"no content item found for {target}"
  | .invalidFromState sid => s!"from state `{sid}` is not a state of this workflow"
  | .invalidToState sid => s!"to state `{sid}` is not a state of this workflow"
  | .unauthorized user fromSid toSid =>
      s!"user {user} not allowed to go from state {fromSid} to {toSid}"
  | .vetoed reason => s!"transition vetoed: {reason}"
  | .drifted current expected =>
      s!"entity has state `{current}` instead of expected `{expected}`"
  | .alreadyExecuted label => s!"transition {label} already executed in this request"
  | .saveFailed target => s!"content item {target} could not be saved"

/-- How far a transition came. -/
inductive Status where
  | new
  | validated
  | scheduled
  | executed
  | rejected (reason : Rejection)
  | discarded
  deriving DecidableEq

namespace Status

/-- The status as it is shown. -/
def toText : Status → String
  | .new => "new"
  | .validated => "validated"
  | .scheduled => "scheduled"
  | .executed => "executed"
  | .rejected reason => s!"rejected: {reason.message}"
  | .discarded => "discarded"

/-- The transition was refused. -/
def IsRejected (status : Status) : Prop :=
  ∃ reason, status = .rejected reason

instance (status : Status) : Decidable status.IsRejected :=
  match status with
  | .rejected reason => isTrue ⟨reason, rfl⟩
  | .new | .validated | .scheduled | .executed | .discarded => isFalse (by simp [IsRejected])

end Status

/-- A change of the state in one field of one content item. -/
structure Transition where
  /-- The number of the pending transition, zero for a transition that was not stored. -/
  id : Int
  workflowId : String
  /-- The state that is left. The empty text stands for the state the item is in. -/
  fromSid : String
  toSid : String
  target : Target
  fieldName : String
  agent : Agent
  timestamp : Int
  comment : Option String
  attached : Dictionary
  scheduled : Bool
  executed : Bool
  forced : Bool
  status : Status
  deriving DecidableEq

namespace Transition

/-- The transition was refused for the reason. -/
def reject (transition : Transition) (reason : Rejection) : Transition :=
  { transition with status := .rejected reason }

/-- The transition leads to another state. -/
def ChangesState (transition : Transition) : Prop :=
  transition.fromSid ≠ transition.toSid

instance (transition : Transition) : Decidable transition.ChangesState :=
  inferInstanceAs (Decidable (_ ≠ _))

/-- The transition carries a comment that is not empty. -/
def HasComment (transition : Transition) : Prop :=
  ∃ comment ∈ transition.comment, comment ≠ ""

instance (transition : Transition) : Decidable transition.HasComment :=
  match h : transition.comment with
  | none => isFalse (by simp [HasComment, h])
  | some comment =>
      if empty : comment = "" then isFalse (by simp [HasComment, h, empty])
      else isTrue ⟨comment, h, empty⟩

/-- There is nothing to record: the state stays, nobody commented and nothing is attached. -/
def IsEmpty (transition : Transition) : Prop :=
  ¬ transition.ChangesState ∧ ¬ transition.HasComment ∧ transition.attached.isEmpty

instance (transition : Transition) : Decidable transition.IsEmpty :=
  inferInstanceAs (Decidable (_ ∧ _))

/-- What tells the transition from others of the same field within a request. -/
def markerLabel (transition : Transition) : String :=
  s!"{transition.fromSid}-{transition.toSid}"

/-- The transition in one line. -/
def toText (transition : Transition) : String :=
  s!"{transition.workflowId} {transition.target.toText} [{transition.fieldName}] " ++
    s!"{transition.fromSid} -> {transition.toSid} ({transition.status.toText})"

/-- What the history keeps of the transition, without a number yet. -/
def toRecord (transition : Transition) : HistoryRecord where
  hid := 0
  workflowId := transition.workflowId
  target := transition.target
  fieldName := transition.fieldName
  fromSid := transition.fromSid
  toSid := transition.toSid
  agent := transition.agent
  timestamp := transition.timestamp
  comment := transition.comment

end Transition

end ContentWorkflow
