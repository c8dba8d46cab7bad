import ContentWorkflow.Administration.States
import ContentWorkflow.Engine.Reversal
import ContentWorkflow.Engine.Sweep
import ContentWorkflow.Proofs.Runs.Action
import Mathlib.Data.List.Induction

/-!
# Operations and runs

A run serves calls one after another. A call names the operation with its arguments, the
surroundings that the engine consults, and the request that it belongs to. What an operation did
before a fault stays done, so a call always leaves a session behind. Operations that only read are
left out.
-/

namespace ContentWorkflow

/-- An operation that may change what is kept, with its arguments. -/
inductive Operation where
  | createWorkflow (id label : String) (settings : Settings) (bulkImport : Bool)
  | updateSettings (workflow : Workflow) (settings : Settings)
  | createCreationState (workflow : Workflow) (bulkImport : Bool)
  | createState (workflow : Workflow) (label : String) (weight : Int)
  | updateState (workflow : Workflow) (sid : String) (label : Option String) (weight : Option Int)
  | deactivateState (workflow : Workflow) (sid : String) (reassignTo : Option String)
      (agent : Agent)
  | purgeState (workflow : Workflow) (sid : String)
  | createRule (workflow : Workflow) (fromSid toSid : String)
  | setRuleRoles (workflow : Workflow) (id : String) (roles : RoleSet)
  | setRuleLabel (workflow : Workflow) (id : String) (label : Option String)
  | bindField (entityType fieldName workflowId : String)
  /-- The site saves an item by itself. -/
  | saveContent (item : Item)
  | execute (force : Bool) (transition : Transition)
  | update (force : Bool) (transition : Transition)
  /-- The transition takes effect on an item that the caller holds. -/
  | updateContent (force : Bool) (transition : Transition) (item : Item)
  /-- The transition is stored as pending and not examined. -/
  | schedule (transition : Transition)
  | sweep (now : Int)
  | revert (hid : Int) (agent : Agent)
  | choices (item : Item) (fieldName : String) (agent : Agent) (fromSid : String) (force : Bool)
  | nextSid (item : Item) (fieldName : String) (agent : Agent) (force : Bool)
  | firstSid (item : Item) (fieldName : String) (agent : Agent) (force : Bool)

namespace Operation

/-- What the operation does, without its answer. -/
def perform (platform : Platform) : Operation → Action Unit
  | .createWorkflow id label settings bulkImport => do
      let _ ← Workflow.create id label settings bulkImport
  | .updateSettings workflow settings => do let _ ← workflow.updateSettings settings
  | .createCreationState workflow bulkImport => do let _ ← workflow.createCreationState bulkImport
  | .createState workflow label weight => do let _ ← workflow.createState label weight
  | .updateState workflow sid label weight => do let _ ← workflow.updateState sid label weight
  | .deactivateState workflow sid reassignTo agent => do
      let _ ← workflow.deactivateState platform sid reassignTo agent
  | .purgeState workflow sid => do let _ ← workflow.purgeState sid
  | .createRule workflow fromSid toSid => do let _ ← workflow.createRule fromSid toSid
  | .setRuleRoles workflow id roles => do let _ ← workflow.setRuleRoles id roles
  | .setRuleLabel workflow id label => do let _ ← workflow.setRuleLabel id label
  | .bindField entityType fieldName workflowId => do
      let _ ← FieldBinding.create entityType fieldName workflowId
  | .saveContent item => do
      match platform.saving (← Action.store) item with
      | .saved => Action.change (·.saveItem item)
      | .refused => pure ()
      | .failed failure => throw (.save failure)
  | .execute force transition => do
      let _ ← Action.ofStep (platform.execute force transition)
  | .update force transition => do
      let _ ← Action.ofStep (platform.update force transition)
  | .updateContent force transition item => do
      let _ ← Action.ofStep (platform.updateOn item force transition)
  | .schedule transition => do
      let _ ← Action.ofStep fun session => .ok (session.schedule transition)
  | .sweep now => do let _ ← platform.sweep now
  | .revert hid agent => do let _ ← platform.revert hid agent
  | .choices item fieldName agent fromSid force => do
      let _ ← platform.choices item fieldName agent fromSid force
  | .nextSid item fieldName agent force => do let _ ← platform.nextSid item fieldName agent force
  | .firstSid item fieldName agent force => do let _ ← platform.firstSid item fieldName agent force

end Operation

/-- A call of an operation. -/
structure Call where
  platform : Platform
  /-- The request that the call belongs to, none where it is the one that was served last. -/
  request : Option RequestContext
  operation : Operation

namespace Call

/-- The session as the call finds it. -/
def before (call : Call) (session : Session) : Session :=
  { session with context := call.request.getD session.context }

/-- The session as the call leaves it, with an answer or with a fault. -/
def after (call : Call) (session : Session) : Session :=
  ((call.operation.perform call.platform).run (call.before session)).2

/-- A call of an update leaves behind the session of the answer. -/
theorem after_update {call : Call} {force : Bool} {transition : Transition}
    {session session' : Session} {answer : String × Transition}
    (hop : call.operation = .update force transition)
    (h : call.platform.update force transition (call.before session) = .ok (answer, session')) :
    call.after session = session' := by
  rw [after, hop, Operation.perform, Action.run_forget, Action.run_of_step, h]

/-- A call that deactivates a state leaves behind the session of the answer. -/
theorem after_deactivation {call : Call} {workflow : Workflow} {sid : String}
    {reassignTo : Option String} {agent : Agent} {session session' : Session}
    {answer : Except Fault Nat}
    (hop : call.operation = .deactivateState workflow sid reassignTo agent)
    (h : (workflow.deactivateState call.platform sid reassignTo agent).run (call.before session) =
      (answer, session')) : call.after session = session' := by
  rw [after, hop, Operation.perform, Action.run_forget, h]

/-- A call of a sweep leaves behind the session of the answer. -/
theorem after_sweep {call : Call} {now : Int} {session session' : Session}
    {answer : Except Fault SweepReport} (hop : call.operation = .sweep now)
    (h : (call.platform.sweep now).run (call.before session) = (answer, session')) :
    call.after session = session' := by
  rw [after, hop, Operation.perform, Action.run_forget, h]

end Call

namespace Session

/-- The session after the calls. -/
def serve (session : Session) (calls : List Call) : Session :=
  calls.foldl (fun session call => call.after session) session

variable {session : Session} {calls : List Call} {call : Call}

@[simp] theorem serve_append_singleton :
    session.serve (calls ++ [call]) = call.after (session.serve calls) := by
  simp [serve]

/-- What every call preserves holds after any calls where it held before them. -/
theorem serve_induction {motive : Session → Prop} (hstart : motive session)
    (hcall : ∀ call ∈ calls, ∀ session, motive session → motive (call.after session)) :
    motive (session.serve calls) := by
  induction calls generalizing session with
  | nil => exact hstart
  | cons call calls ih =>
      refine ih (hcall call List.mem_cons_self session hstart) ?_
      intro other hother
      exact hcall other (List.mem_cons_of_mem call hother)

/-- What holds after a run and not before it was brought about by one of its calls. -/
theorem serve_origin (holds : Session → Prop) (brings : Call → Session → Prop)
    (hstart : ¬ holds session)
    (hcall : ∀ earlier call later, calls = earlier ++ call :: later →
      holds (call.after (session.serve earlier)) →
        holds (session.serve earlier) ∨ brings call (session.serve earlier))
    (h : holds (session.serve calls)) :
    ∃ earlier origin between, calls = earlier ++ origin :: between ∧
      brings origin (session.serve earlier) := by
  -- from the last call backwards: the origin is the first call before which it does not hold
  induction calls using List.reverseRecOn with
  | nil => exact absurd h hstart
  | append_singleton calls call ih =>
      rw [serve_append_singleton] at h
      obtain hbefore | hbrings := hcall calls call [] rfl h
      · have hearlier : ∀ earlier other later, calls = earlier ++ other :: later →
            holds (other.after (session.serve earlier)) →
              holds (session.serve earlier) ∨ brings other (session.serve earlier) := by
          intro earlier other later hsplit
          exact hcall earlier other (later ++ [call]) (by simp [hsplit])
        obtain ⟨earlier, origin, between, rfl, hbrings⟩ := ih hearlier hbefore
        exact ⟨earlier, origin, between ++ [call], by simp, hbrings⟩
      · exact ⟨calls, call, [], rfl, hbrings⟩

end Session

end ContentWorkflow
