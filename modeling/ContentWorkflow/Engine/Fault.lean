import ContentWorkflow.Store.Basic

/-!
# Faults

Why an operation gave no answer. A transition that is refused is an answer and no fault.
-/

namespace ContentWorkflow

/-- A call that makes no sense for what is kept. -/
inductive Misuse where
  | unknownWorkflow (id : String)
  | unknownState (sid : String)
  | unknownRule (id : String)
  | unknownHistory (hid : Int)
  | unboundField (entityType fieldName : String)
  | invalidRule (reason : String)
  | workflowExists (id : String)
  /-- The creation state has a fixed place in its workflow. -/
  | creationState (sid : String)
  | stateActive (sid : String)
  | notRevertible (hid : Int)
  deriving DecidableEq

/-- The name of the kind of misuse. -/
def Misuse.name : Misuse → String
  | .unknownWorkflow _ => "UnknownWorkflow"
  | .unknownState _ => "UnknownState"
  | .unknownRule _ => "UnknownRule"
  | .unknownHistory _ => "UnknownHistory"
  | .unboundField _ _ => "UnboundField"
  | .invalidRule _ => "InvalidRule"
  | .workflowExists _ => "WorkflowExists"
  | .creationState _ => "CreationState"
  | .stateActive _ => "StateActive"
  | .notRevertible _ => "NotRevertible"

/-- What is said of the call. -/
def Misuse.message : Misuse → String
  | .unknownWorkflow id => s!"unknown workflow: {id}"
  | .unknownState sid => s!"unknown state: {sid}"
  | .unknownRule id => s!"unknown transition rule: {id}"
  | .unknownHistory hid => s!"unknown history record: {hid}"
  | .unboundField entityType fieldName => s!"no workflow bound to field {fieldName} of {entityType}"
  | .invalidRule reason => s!"invalid transition rule: {reason}"
  | .workflowExists id => s!"workflow already exists: {id}"
  | .creationState sid => s!"creation state cannot be changed: {sid}"
  | .stateActive sid => s!"state is still active: {sid}"
  | .notRevertible hid => s!"history record {hid} cannot be reverted"

/-- Why a content item could not be saved. -/
inductive SaveFailure where
  | unknown
  | invariantViolated (invariant : String)
  deriving DecidableEq

/-- What is said of the failure. -/
def SaveFailure.message : SaveFailure → String
  | .unknown => "unknown error"
  | .invariantViolated invariant => s!"application invariant violated: {invariant}"

/-- Why an operation gave no answer. -/
inductive Fault where
  | misuse (call : Misuse)
  | constraint (broken : Constraint)
  | save (failure : SaveFailure)
  deriving DecidableEq

/-- What is said of the fault. -/
def Fault.message : Fault → String
  | .misuse call => call.message
  | .constraint broken => broken.message
  | .save failure => failure.message

end ContentWorkflow
