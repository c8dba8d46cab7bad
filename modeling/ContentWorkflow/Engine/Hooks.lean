import ContentWorkflow.Transition.Basic

/-!
# Hooks

A site may veto state changes and alter comments. The vetoes are asked in their order until one
gives a reason. The alterations are applied in their order, each to the comment that the one
before it left, and are shown the transition without its comment.
-/

namespace ContentWorkflow

/-- What a site has a say in. -/
structure Hooks where
  /-- The reason not to let the agent make the change, where there is one. -/
  vetoes : List (Transition → Agent → Option String)
  /-- The comment to record in place of the one given. -/
  alterations : List (Option String → Transition → Option String)

namespace Hooks

/-- A site without a say in anything. -/
def none : Hooks :=
  ⟨[], []⟩

/-- The reason of the first veto. -/
def veto? (hooks : Hooks) (transition : Transition) (agent : Agent) : Option String :=
  hooks.vetoes.findSome? fun veto => veto transition agent

/-- The transition with its comment altered. -/
def alterComment (hooks : Hooks) (transition : Transition) : Transition :=
  let shown := { transition with comment := Option.none }
  { transition with
    comment := hooks.alterations.foldl (fun comment alter => alter comment shown)
      transition.comment }

/-- How many hooks there are of either kind. -/
def toText (hooks : Hooks) : String :=
  s!"HookRegistry \x7b pre_transition: {hooks.vetoes.length}, " ++
    s!"comment_alter: {hooks.alterations.length} \x7d"

end Hooks

end ContentWorkflow
