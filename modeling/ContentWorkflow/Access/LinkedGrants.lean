import ContentWorkflow.Access.Enforcer

/-!
# Grants as links

The enforcer that sites run with. It keeps links and policies in plain tables and follows the links
itself. A capability of a policy may end in a star, which stands for any rest.
-/

namespace ContentWorkflow

/-- Links from subjects to roles, and the capabilities given to roles, each pair once. -/
structure LinkedGrants where
  links : List (String × String)
  policies : List (String × String)

namespace LinkedGrants

/-- Nothing is kept. -/
def empty : LinkedGrants :=
  ⟨[], []⟩

/-- The rows with further ones, unless one of those is there already. -/
def added (rows further : List (String × String)) : List (String × String) × Bool :=
  if further.any rows.contains then (rows, false) else (rows ++ further.eraseDups, true)

/-- The links are kept besides. -/
def addLinks (grants : LinkedGrants) (links : List (String × String)) : LinkedGrants × Bool :=
  let (links, new) := added grants.links links
  ({ grants with links := links }, new)

/-- The policies are kept besides. -/
def addPolicies (grants : LinkedGrants) (policies : List (String × String)) :
    LinkedGrants × Bool :=
  let (policies, new) := added grants.policies policies
  ({ grants with policies := policies }, new)

/-- The first link of the list that leads on from the subject or from a known role. -/
def next? (subject : String) (known : RoleSet) (links : List (String × String)) :
    Option (String × String) :=
  links.find? fun link => link.1 = subject ∨ link.1 ∈ known

/-- The known roles with every role that the links lead to, from the subject or from known roles. -/
def reach (subject : String) (known : RoleSet) (links : List (String × String)) : RoleSet :=
  match _found : next? subject known links with
  | none => known
  | some link => reach subject (known.insert link.2) (links.erase link)
termination_by links.length
decreasing_by
  have hmem := List.mem_of_find?_eq_some _found
  have hlength := List.length_erase_of_mem hmem
  have hpos := List.length_pos_of_mem hmem
  omega

/-- The roles that links lead to from the subject. A link from a subject to itself leads nowhere. -/
def rolesOf (grants : LinkedGrants) (subject : String) : RoleSet :=
  reach subject RoleSet.empty (grants.links.filter fun link => link.1 ≠ link.2)

/-- The name is the other one, or links lead from it to the other one. -/
def Linked (grants : LinkedGrants) (name other : String) : Prop :=
  other = name ∨ other ∈ grants.rolesOf name

instance (grants : LinkedGrants) (name other : String) : Decidable (grants.Linked name other) :=
  inferInstanceAs (Decidable (_ ∨ _))

/-- What is given covers the capability: it is the capability, or the capability begins with what
stands before its first star. -/
def Covers (given capability : String) : Prop :=
  if '*' ∈ given.toList then
    (given.toList.takeWhile (· ≠ '*')).isPrefixOf capability.toList = true
  else given = capability

instance (given capability : String) : Decidable (Covers given capability) :=
  inferInstanceAs <| Decidable <|
    if '*' ∈ given.toList then
      (given.toList.takeWhile (· ≠ '*')).isPrefixOf capability.toList = true
    else given = capability

/-- The policies that are tried in turn. Where none is kept the empty one is. -/
def tried (grants : LinkedGrants) : List (String × String) :=
  if grants.policies = [] then [("", "")] else grants.policies

/-- The role or one that it is linked to is given the capability. -/
def enforce (grants : LinkedGrants) (role capability : String) : Bool :=
  grants.tried.any fun policy =>
    decide (grants.Linked role policy.1 ∧ Covers policy.2 capability)

/-- The enforcer over the tables, which never fails. -/
def enforcer : Enforcer LinkedGrants Empty where
  start := .ok empty
  addLink grants link := .ok (grants.addLinks [link])
  addLinks grants links := .ok (grants.addLinks links)
  addPolicy grants policy := .ok (grants.addPolicies [policy])
  addPolicies grants policies := .ok (grants.addPolicies policies)
  rolesOf grants subject := (grants.rolesOf subject).toList
  enforce grants role capability := .ok (grants.enforce role capability)
  message failure := nomatch failure

/-- The answer of what cannot fail. -/
def answer {α : Type} : Except Empty α → α
  | .ok value => value

/-- The grants taken together, and what is logged of them. -/
def ofGrants (grants : List Grant) : LinkedGrants × List LogLine :=
  answer (enforcer.setUp grants)

/-- The user is given the role. The flag tells whether that is new. -/
def grantRole (grants : LinkedGrants) (uid : Int) (role : String) : LinkedGrants × Bool :=
  answer (enforcer.grantRole grants uid role)

/-- The role is given the capability. The flag tells whether that is new. -/
def grantCapability (grants : LinkedGrants) (role capability : String) : LinkedGrants × Bool :=
  answer (enforcer.grantCapability grants role capability)

/-- The resolver that answers from the grants. -/
def resolver (grants : LinkedGrants) : Resolver :=
  enforcer.resolver grants

end LinkedGrants

end ContentWorkflow
