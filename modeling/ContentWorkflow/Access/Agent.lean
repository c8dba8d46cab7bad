import ContentWorkflow.Access.RoleSet

/-!
# Agents

Who acts on a content item: a user with a number, or somebody who is not logged in. The roles that
an agent holds without any grant have fixed names.
-/

namespace ContentWorkflow

/-- The actor behind a transition. -/
inductive Agent where
  | anonymous
  | user (id : Int)
  deriving DecidableEq

namespace Agent

/-- The agent with the user number, anonymous without one. -/
def ofUid? : Option Int → Agent
  | none => .anonymous
  | some id => .user id

/-- The user number, which an anonymous agent does not have. -/
def uid? : Agent → Option Int
  | .anonymous => none
  | .user id => some id

/-- The agent owns what belongs to the owner. Nobody anonymous owns anything. -/
def Owns (agent : Agent) (owner : Option Int) : Prop :=
  agent.uid?.isSome ∧ agent.uid? = owner

instance (agent : Agent) (owner : Option Int) : Decidable (agent.Owns owner) :=
  inferInstanceAs (Decidable (_ ∧ _))

/-- The agent in a sentence. -/
def toText : Agent → String
  | .anonymous => "anonymous"
  | .user id => s!"user {id}"

@[simp] theorem of_uid_uid (agent : Agent) : ofUid? agent.uid? = agent := by
  cases agent <;> rfl

@[simp] theorem uid_of_uid (uid : Option Int) : (ofUid? uid).uid? = uid := by
  cases uid <;> rfl

end Agent

namespace Role

/-- The role that an owner has on the items that belong to it. -/
def author : String :=
  "workflow_author"

/-- The role of an agent that is not logged in. -/
def anonymous : String :=
  "anonymous"

/-- The role of every user. -/
def authenticated : String :=
  "authenticated"

end Role

/-- The capability that lets an agent pass over the rules of the workflow. -/
def bypassCapability (workflowId : String) : String :=
  s!"bypass {workflowId} workflow_transition access"

end ContentWorkflow
