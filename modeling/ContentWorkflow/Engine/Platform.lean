import ContentWorkflow.Access.Resolver
import ContentWorkflow.Engine.Fault
import ContentWorkflow.Engine.Hooks
import ContentWorkflow.Store.History
import ContentWorkflow.Store.Items
import ContentWorkflow.Workflow.MachineName

/-!
# Platforms

What the engine consults besides the store: who may do what, what the site has a say in, how content
items are saved, and the time.
-/

namespace ContentWorkflow

/-- What became of an item that was to be saved. -/
inductive SaveOutcome where
  | saved
  | refused
  | failed (failure : SaveFailure)
  deriving DecidableEq

/-- What the engine consults besides the store. -/
structure Platform where
  resolver : Resolver
  hooks : Hooks
  /-- What becomes of an item that is to be saved into the store. -/
  saving : Store → Item → SaveOutcome
  clock : Int

/-- Every item is saved. -/
def SaveOutcome.always : Store → Item → SaveOutcome :=
  fun _ _ => .saved

namespace Store

/-- The state that the field of the item was last moved to, or the creation state where it never
was. -/
def previousSid (store : Store) (workflowId : String) (item : Item) (fieldName : String) :
    String :=
  if item.isNew then MachineName.creationStateId workflowId
  else match store.latest? item.target fieldName with
    | some record => record.toSid
    | none => MachineName.creationStateId workflowId

/-- The state in the field of the item, or the one it was last moved to where the field is unset. -/
def currentSid (store : Store) (workflowId : String) (item : Item) (fieldName : String) : String :=
  (item.fieldValue? fieldName).getD (store.previousSid workflowId item fieldName)

end Store

namespace Platform

/-- The roles that the agent holds on the item. Its owner has a role of its own. -/
def rolesOn (platform : Platform) (agent : Agent) (item : Item) : RoleSet :=
  if agent.Owns item.owner then (platform.resolver.roles agent).insert Role.author
  else platform.resolver.roles agent

/-- The agent may pass over the rules of the workflow. -/
def mayBypass (platform : Platform) (agent : Agent) (workflowId : String) : Bool :=
  platform.resolver.hasCapability agent (bypassCapability workflowId)

end Platform

end ContentWorkflow
