import ContentWorkflow.Access.Resolver
import ContentWorkflow.Log

/-!
# Resolving through an enforcer

The richer way to resolve roles leaves the decisions to an enforcer. A role given to a user is a
link from the subject of the user to the role, and a capability given to a role is a policy. The
enforcer keeps links and policies and says where links lead and who is allowed what. How it does
that is its own affair: everything here is for any enforcer.
-/

namespace ContentWorkflow

namespace Agent

/-- The agent as the subject of a link. -/
def subject : Agent → String
  | .anonymous => "-"
  | .user id => s!"u:{id}"

end Agent

/-- What decides over links and policies, where `Held` is what it keeps. A flag tells whether what
was added was new. -/
structure Enforcer (Held Failure : Type) where
  /-- An enforcer that keeps nothing. -/
  start : Except Failure Held
  addLink : Held → String × String → Except Failure (Held × Bool)
  addLinks : Held → List (String × String) → Except Failure (Held × Bool)
  addPolicy : Held → String × String → Except Failure (Held × Bool)
  addPolicies : Held → List (String × String) → Except Failure (Held × Bool)
  /-- The roles that links lead to from a name. -/
  rolesOf : Held → String → List String
  /-- A role is allowed to do something. -/
  enforce : Held → String → String → Except Failure Bool
  /-- What is said of a failure. -/
  message : Failure → String

namespace Enforcer

variable {Held Failure : Type} (enforcer : Enforcer Held Failure)

/-! ## Setting up -/

/-- The links from users to the roles that they are given. -/
def linksOf (grants : List Grant) : List (String × String) :=
  grants.filterMap fun grant =>
    match Grant.subject? grant.subject with
    | some (.user uid) => some ((Agent.user uid).subject, grant.object)
    | _ => none

/-- The roles with the capabilities that they are given. -/
def policiesOf (grants : List Grant) : List (String × String) :=
  grants.filterMap fun grant =>
    match Grant.subject? grant.subject with
    | some (.role name) => some (name, grant.object)
    | _ => none

/-- What is logged of the grants whose subjects are malformed. They are passed over. -/
def warningsOf (grants : List Grant) : List LogLine :=
  grants.filterMap fun grant =>
    match Grant.subject? grant.subject with
    | none => some ⟨.warn, s!"skipping malformed grant for {grant.subject}"⟩
    | some _ => none

/-- The links are added, if there are any. -/
def withLinks (held : Held) (links : List (String × String)) : Except Failure Held :=
  if links.isEmpty then .ok held else (enforcer.addLinks held links).map (·.1)

/-- The policies are added, if there are any. -/
def withPolicies (held : Held) (policies : List (String × String)) : Except Failure Held :=
  if policies.isEmpty then .ok held else (enforcer.addPolicies held policies).map (·.1)

/-- What the enforcer keeps of the grants, and what is logged of them. The anonymous agent has its
role before anything is granted. -/
def setUp (grants : List Grant) : Except Failure (Held × List LogLine) := do
  let started ← enforcer.start
  let (held, _) ← enforcer.addLink started (Agent.anonymous.subject, Role.anonymous)
  let held ← enforcer.withLinks held (linksOf grants)
  let held ← enforcer.withPolicies held (policiesOf grants)
  let count := (linksOf grants).length + (policiesOf grants).length
  return (held, warningsOf grants ++ [⟨.debug, s!"new CasbinResolver set up with {count} grants"⟩])

/-- The user is given the role. -/
def grantRole (held : Held) (uid : Int) (role : String) : Except Failure (Held × Bool) :=
  enforcer.addLink held ((Agent.user uid).subject, role)

/-- The role is given the capability. -/
def grantCapability (held : Held) (role capability : String) : Except Failure (Held × Bool) :=
  enforcer.addPolicy held (role, capability)

/-! ## Answering -/

/-- The roles of an agent. Every user is authenticated besides. -/
def roles (held : Held) (agent : Agent) : RoleSet :=
  let found := RoleSet.ofList (enforcer.rolesOf held agent.subject)
  match agent with
  | .anonymous => found
  | .user _ => found.insert Role.authenticated

/-- Whether one of the roles is allowed the capability, and what is logged of the roles before it
for which the enforcer fails. -/
def allowed (held : Held) (capability : String) : List String → Bool × List LogLine
  | [] => (false, [])
  | role :: rest =>
      match enforcer.enforce held role capability with
      | .ok true => (true, [])
      | .ok false => allowed held capability rest
      | .error failure =>
          let (answer, lines) := allowed held capability rest
          (answer, ⟨.error, s!"casbin enforce failed: {enforcer.message failure}"⟩ :: lines)

/-- One of the roles of the agent is allowed the capability. -/
def hasCapability (held : Held) (agent : Agent) (capability : String) : Bool :=
  (enforcer.allowed held capability (enforcer.roles held agent).toList).1

/-- The resolver that asks the enforcer. -/
def resolver (held : Held) : Resolver :=
  ⟨enforcer.roles held, enforcer.hasCapability held⟩

end Enforcer

end ContentWorkflow
