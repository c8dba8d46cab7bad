import ContentWorkflow.Access.Agent
import ContentWorkflow.Access.Grant

/-!
# Resolving roles and capabilities

A resolver answers which roles an agent holds and which capabilities they bring. `DirectGrants` is
the plain one: a user holds the roles given to it, and a role has the capabilities given to it.
`mem_roles_user` and `has_capability_iff` say what it answers.
-/

namespace ContentWorkflow

/-- What is known of the roles and capabilities of agents. -/
structure Resolver where
  roles : Agent → RoleSet
  hasCapability : Agent → String → Bool

/-- Roles given to users and capabilities given to roles, each pair once. -/
structure DirectGrants where
  userRoles : List (Int × String)
  roleCapabilities : List (String × String)

namespace DirectGrants

/-- Nothing is given to anybody. -/
def empty : DirectGrants :=
  ⟨[], []⟩

/-- The user is given the role. The flag tells whether that is new. -/
def grantRole (grants : DirectGrants) (uid : Int) (role : String) : DirectGrants × Bool :=
  if (uid, role) ∈ grants.userRoles then (grants, false)
  else ({ grants with userRoles := grants.userRoles ++ [(uid, role)] }, true)

/-- The role is taken from the user. The flag tells whether the user had it. -/
def revokeRole (grants : DirectGrants) (uid : Int) (role : String) : DirectGrants × Bool :=
  ({ grants with userRoles := grants.userRoles.filter (· ≠ (uid, role)) },
    decide ((uid, role) ∈ grants.userRoles))

/-- The role is given the capability. The flag tells whether that is new. -/
def grantCapability (grants : DirectGrants) (role capability : String) : DirectGrants × Bool :=
  if (role, capability) ∈ grants.roleCapabilities then (grants, false)
  else ({ grants with roleCapabilities := grants.roleCapabilities ++ [(role, capability)] }, true)

/-- What the grant says is given. -/
def give (grants : DirectGrants) (grant : Grant) : Except MalformedGrant DirectGrants :=
  match Grant.subject? grant.subject with
  | none => .error ⟨grant.subject⟩
  | some (.user uid) => .ok (grants.grantRole uid grant.object).1
  | some (.role name) => .ok (grants.grantCapability name grant.object).1

/-- The grants taken together, unless the subject of one is malformed. -/
def ofGrants (grants : List Grant) : Except MalformedGrant DirectGrants :=
  grants.foldlM give empty

/-- The roles of an agent. Every user is authenticated, and anonymous agents hold one fixed role. -/
def roles (grants : DirectGrants) : Agent → RoleSet
  | .anonymous => RoleSet.ofList [Role.anonymous]
  | .user id =>
      (RoleSet.ofList ((grants.userRoles.filter (·.1 = id)).map (·.2))).insert Role.authenticated

/-- One of the roles of the agent is given the capability. -/
def hasCapability (grants : DirectGrants) (agent : Agent) (capability : String) : Bool :=
  (grants.roles agent).toList.any fun role =>
    decide ((role, capability) ∈ grants.roleCapabilities)

/-- The resolver that answers from the grants. -/
def resolver (grants : DirectGrants) : Resolver :=
  ⟨grants.roles, grants.hasCapability⟩

theorem mem_roles_user {grants : DirectGrants} {id : Int} {role : String} :
    role ∈ grants.roles (.user id) ↔
      role = Role.authenticated ∨ (id, role) ∈ grants.userRoles := by
  simp [roles]

theorem mem_roles_anonymous {grants : DirectGrants} {role : String} :
    role ∈ grants.roles .anonymous ↔ role = Role.anonymous := by
  simp [roles]

theorem has_capability_iff {grants : DirectGrants} {agent : Agent} {capability : String} :
    grants.hasCapability agent capability = true ↔
      ∃ role ∈ grants.roles agent, (role, capability) ∈ grants.roleCapabilities := by
  simp [hasCapability, RoleSet.mem_def]

end DirectGrants

end ContentWorkflow
