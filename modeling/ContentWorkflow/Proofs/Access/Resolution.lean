import ContentWorkflow.Proofs.Access.Enforcement
import ContentWorkflow.Setup
import Mathlib.Data.List.Nodup

/-!
# Both ways to resolve roles agree

Roles can be resolved from plain tables or by asking an enforcer, which follows links from the
subjects of agents. No enforcer is fixed: whatever is asked of it is stated by
`Enforcer.Documented`, and `LinkedGrants.enforcer` is one example. As long as no role has the name
of an agent, links are followed for one step only; `builds_agree_but_for_empty` says that both
resolvers then give the same roles, and the same capabilities if none holds a star. Its one
exception is the enforcer without policies, which answers as if there were an empty one.
`mem_user_roles_of_grants` and `mem_role_capabilities_of_grants` say what the plain tables keep of
a list of grants: the order, repetitions and the spelling of the number of a user are lost.
-/

namespace ContentWorkflow

/-- Sets with the same roles are the same. -/
theorem RoleSet.eq_of_mem_iff {first second : RoleSet}
    (h : ∀ role, role ∈ first ↔ role ∈ second) : first = second := by
  obtain ⟨names, hnames⟩ := first
  obtain ⟨others, hothers⟩ := second
  have hperm : names.Perm others :=
    (List.perm_ext_iff_of_nodup (hnames.imp Std.ne_of_lt) (hothers.imp Std.ne_of_lt)).2 h
  have hsame : names = others :=
    hperm.eq_of_pairwise (fun _ _ _ _ hlt hgt => absurd hgt (String.lt_asymm hlt)) hnames hothers
  subst hsame
  rfl

/-! ## The subjects of agents -/

namespace Agent

/-- The name could be the subject of an agent. -/
def MayName (name : String) : Prop :=
  name = "-" ∨ ['u', ':'] <+: name.toList

/-- The subject of an agent could be one. -/
theorem may_name_subject (agent : Agent) : MayName agent.subject := by
  cases agent with
  | anonymous => exact Or.inl rfl
  | user id => exact Or.inr (by simp [subject, toString])

/-- The role of anonymous agents is no subject. -/
theorem not_may_name_anonymous : ¬ MayName Role.anonymous := by
  simp [MayName, Role.anonymous]

/-- The role of all users is no subject. -/
theorem not_may_name_authenticated : ¬ MayName Role.authenticated := by
  simp [MayName, Role.authenticated]

end Agent

/-! ## What a list of grants gives -/

namespace Grant

/-- No role that the grant gives to a user could be the subject of an agent. -/
def NamesNoAgent (grant : Grant) : Prop :=
  ∀ uid role, grant.GivesRole uid role → ¬ Agent.MayName role

/-- No capability that the grant gives holds a star. -/
def NamesNoPattern (grant : Grant) : Prop :=
  ∀ role capability, grant.GivesCapability role capability → '*' ∉ capability.toList

end Grant

/-! ## What either resolver keeps of it -/

/-- A row that is added where it is new stands beside the rows that there were. -/
theorem mem_added {Row : Type} {rows : List Row} {row other : Row} [Decidable (row ∈ rows)] :
    other ∈ (if row ∈ rows then rows else rows ++ [row]) ↔ other ∈ rows ∨ row = other := by
  split
  · next hmem =>
      refine ⟨Or.inl, fun h => ?_⟩
      rcases h with hold | rfl
      · exact hold
      · exact hmem
  · simp [eq_comm]

namespace DirectGrants

variable {given next : DirectGrants} {grant : Grant} {uid id : Int} {role name capability : String}

/-- Granting a role adds it to the roles of users unless it is there. -/
theorem user_roles_grant_role : (given.grantRole id name).1.userRoles =
    if (id, name) ∈ given.userRoles then given.userRoles
    else given.userRoles ++ [(id, name)] := by
  unfold grantRole
  split <;> rfl

/-- Granting a role leaves the capabilities as they are. -/
@[simp] theorem role_capabilities_grant_role :
    (given.grantRole id name).1.roleCapabilities = given.roleCapabilities := by
  unfold grantRole
  split <;> rfl

/-- Granting a capability adds it to the capabilities of roles unless it is there. -/
theorem role_capabilities_grant_capability :
    (given.grantCapability role capability).1.roleCapabilities =
      if (role, capability) ∈ given.roleCapabilities then given.roleCapabilities
      else given.roleCapabilities ++ [(role, capability)] := by
  unfold grantCapability
  split <;> rfl

/-- Granting a capability leaves the roles of users as they are. -/
@[simp] theorem user_roles_grant_capability :
    (given.grantCapability role capability).1.userRoles = given.userRoles := by
  unfold grantCapability
  split <;> rfl

/-- A grant adds the role that it gives to a user, and no other. -/
theorem mem_user_roles_give (h : given.give grant = .ok next) :
    (uid, role) ∈ next.userRoles ↔ (uid, role) ∈ given.userRoles ∨ grant.GivesRole uid role := by
  unfold give at h
  split at h
  · cases h
  · next id hsubject =>
      cases h
      rw [user_roles_grant_role, mem_added]
      simp [Grant.GivesRole, hsubject]
  · next name hsubject =>
      cases h
      simp [Grant.GivesRole, hsubject]

/-- A grant adds the capability that it gives to a role, and no other. -/
theorem mem_role_capabilities_give (h : given.give grant = .ok next) :
    (role, capability) ∈ next.roleCapabilities ↔
      (role, capability) ∈ given.roleCapabilities ∨ grant.GivesCapability role capability := by
  unfold give at h
  split at h
  · cases h
  · next id hsubject =>
      cases h
      simp [Grant.GivesCapability, hsubject]
  · next name hsubject =>
      cases h
      rw [role_capabilities_grant_capability, mem_added]
      simp [Grant.GivesCapability, hsubject]

/-- A user has the roles that it had and those that some grant gives to it, and a role has the
capabilities that it had and those that some grant gives to it. -/
theorem mem_give_all {grants : List Grant} (h : grants.foldlM give given = .ok next) :
    (∀ uid role, (uid, role) ∈ next.userRoles ↔
        (uid, role) ∈ given.userRoles ∨ ∃ grant ∈ grants, grant.GivesRole uid role) ∧
      ∀ role capability, (role, capability) ∈ next.roleCapabilities ↔
        (role, capability) ∈ given.roleCapabilities ∨
          ∃ grant ∈ grants, grant.GivesCapability role capability := by
  induction grants generalizing given with
  | nil =>
      obtain rfl : given = next := by simpa [pure, Except.pure] using h
      simp
  | cons first rest ih =>
      rw [List.foldlM_cons] at h
      cases hfirst : given.give first with
      | error malformed => simp [hfirst, bind, Except.bind] at h
      | ok between =>
          have hrest : rest.foldlM give between = .ok next := by
            simpa [hfirst, bind, Except.bind] using h
          obtain ⟨hroles, hcapabilities⟩ := ih hrest
          refine ⟨fun uid role => ?_, fun role capability => ?_⟩
          · rw [hroles, mem_user_roles_give hfirst]
            simp [or_assoc]
          · rw [hcapabilities, mem_role_capabilities_give hfirst]
            simp [or_assoc]

/-- Users have the roles that the grants give to them. -/
theorem mem_user_roles_of_grants {grants : List Grant} (h : ofGrants grants = .ok given) :
    (uid, role) ∈ given.userRoles ↔ ∃ grant ∈ grants, grant.GivesRole uid role := by
  have hrow := (mem_give_all h).1 uid role
  simpa [empty] using hrow

/-- Roles have the capabilities that the grants give to them. -/
theorem mem_role_capabilities_of_grants {grants : List Grant} (h : ofGrants grants = .ok given) :
    (role, capability) ∈ given.roleCapabilities ↔
      ∃ grant ∈ grants, grant.GivesCapability role capability := by
  have hrow := (mem_give_all h).2 role capability
  simpa [empty] using hrow

end DirectGrants

/-! ## Agreement -/

section Agreement

variable {Held Failure : Type} {enforcer : Enforcer Held Failure} {view : Enforcer.View Held}
  {held : Held} {grants : List Grant} {direct : DirectGrants} {agent : Agent}
  {name next role capability : String}

/-- Links start at subjects of agents. -/
theorem Enforcer.View.Keeps.may_name (h : view.Keeps held grants)
    (hlink : (name, role) ∈ view.links held) : Agent.MayName name := by
  obtain ⟨rfl, -⟩ | ⟨_, _, uid, -, rfl⟩ := (h.links _ _).1 hlink
  · exact Agent.may_name_subject .anonymous
  · exact Agent.may_name_subject (.user uid)

/-- No role that a link leads to is the subject of an agent. -/
theorem Enforcer.View.Keeps.not_may_name (h : view.Keeps held grants)
    (hnames : ∀ grant ∈ grants, grant.NamesNoAgent)
    (hlink : (name, role) ∈ view.links held) : ¬ Agent.MayName role := by
  obtain ⟨-, rfl⟩ | ⟨grant, hgrant, uid, hgives, -⟩ := (h.links _ _).1 hlink
  · exact Agent.not_may_name_anonymous
  · exact hnames grant hgrant uid role hgives

/-- Links lead for one step and no further. -/
theorem Enforcer.View.Keeps.leads_iff (h : view.Keeps held grants)
    (hnames : ∀ grant ∈ grants, grant.NamesNoAgent) :
    Relation.TransGen (view.Link held) name role ↔ (name, role) ∈ view.links held := by
  constructor
  · intro hleads
    cases hleads with
    | single hlink => exact hlink.1
    | tail hbefore hlink =>
        obtain ⟨middle, -, hbetween⟩ := Relation.TransGen.tail'_iff.1 hbefore
        exact absurd (h.may_name hlink.1) (h.not_may_name hnames hbetween.1)
  · intro hlink
    refine .single ⟨hlink, ?_⟩
    rintro rfl
    exact h.not_may_name hnames hlink (h.may_name hlink)

/-- No role of an agent is the subject of one. -/
theorem DirectGrants.not_may_name_of_mem_roles (hdirect : DirectGrants.ofGrants grants = .ok direct)
    (hnames : ∀ grant ∈ grants, grant.NamesNoAgent) (hrole : role ∈ direct.roles agent) :
    ¬ Agent.MayName role := by
  cases agent with
  | anonymous =>
      obtain rfl := mem_roles_anonymous.1 hrole
      exact Agent.not_may_name_anonymous
  | user id =>
      obtain rfl | hgiven := mem_roles_user.1 hrole
      · exact Agent.not_may_name_authenticated
      · obtain ⟨grant, hgrant, hgives⟩ := (mem_user_roles_of_grants hdirect).1 hgiven
        exact hnames grant hgrant id role hgives

/-- An agent has the same roles either way. -/
theorem roles_agree (hdocumented : enforcer.Documented view) (hkeeps : view.Keeps held grants)
    (hdirect : DirectGrants.ofGrants grants = .ok direct)
    (hnames : ∀ grant ∈ grants, grant.NamesNoAgent) (agent : Agent) :
    enforcer.roles held agent = direct.roles agent := by
  refine RoleSet.eq_of_mem_iff fun role => ?_
  have hlinked : role ∈ RoleSet.ofList (enforcer.rolesOf held agent.subject) ↔
      (agent.subject, role) ∈ view.links held := by
    rw [RoleSet.mem_of_list, hdocumented.roles_of, hkeeps.leads_iff hnames]
  cases agent with
  | anonymous =>
      rw [Enforcer.roles, hlinked, hkeeps.links, DirectGrants.mem_roles_anonymous]
      simp [Agent.subject_user_ne_anonymous]
  | user id =>
      have hsame (uid : Int) : (Agent.user uid).subject = (Agent.user id).subject ↔ uid = id :=
        Agent.subject_user_injective.eq_iff
      rw [Enforcer.roles, RoleSet.mem_insert, hlinked, hkeeps.links, DirectGrants.mem_roles_user,
        DirectGrants.mem_user_roles_of_grants hdirect]
      simp [hsame, Agent.subject_user_ne_anonymous id]

/-- A role of an agent is linked to itself alone. -/
theorem linked_iff_eq (hdocumented : enforcer.Documented view) (hkeeps : view.Keeps held grants)
    (hnames : ∀ grant ∈ grants, grant.NamesNoAgent) (hrole : ¬ Agent.MayName role) :
    view.Linked held role name ↔ role = name := by
  constructor
  · intro hlinked
    by_contra hne
    have hleads := hdocumented.linked_leads held role name hlinked hne
    exact hrole (hkeeps.may_name ((hkeeps.leads_iff hnames).1 hleads))
  · rintro rfl
    exact hdocumented.linked_self held role

/-- An agent is answered a capability exactly if a policy that is tried gives it to one of its
roles. -/
theorem has_capability_tried (hdocumented : enforcer.Documented view)
    (hkeeps : view.Keeps held grants) (hdirect : DirectGrants.ofGrants grants = .ok direct)
    (hnames : ∀ grant ∈ grants, grant.NamesNoAgent)
    (hpatterns : ∀ grant ∈ grants, grant.NamesNoPattern) :
    enforcer.hasCapability held agent capability = true ↔
      ∃ role ∈ direct.roles agent, (role, capability) ∈ view.tried held := by
  have hplain : ∀ policy ∈ view.policies held, '*' ∉ policy.2.toList := by
    rintro ⟨name, given⟩ hpolicy
    obtain ⟨grant, hgrant, hgives⟩ := (hkeeps.policies _ _).1 hpolicy
    exact hpatterns grant hgrant _ _ hgives
  rw [Enforcer.hasCapability, Enforcer.allowed_iff,
    roles_agree hdocumented hkeeps hdirect hnames]
  refine exists_congr fun role => and_congr_right fun hrole => ?_
  obtain ⟨answer, hanswer, hallowed⟩ := hdocumented.enforce held role capability hplain
  have hown := DirectGrants.not_may_name_of_mem_roles hdirect hnames hrole
  rw [hanswer, Except.ok.injEq, hallowed]
  constructor
  · rintro ⟨⟨name, given⟩, hpolicy, hlinked, rfl⟩
    obtain rfl := (linked_iff_eq hdocumented hkeeps hnames hown).1 hlinked
    exact hpolicy
  · intro hpolicy
    exact ⟨_, hpolicy, hdocumented.linked_self held role, rfl⟩

/-- No grant gives a capability. -/
def Grant.NoneCapable (grants : List Grant) : Prop :=
  ∀ grant ∈ grants, ∀ role capability, ¬ grant.GivesCapability role capability

/-- A capability comes with the roles of an agent either way, but where no grant gives any the
enforcer holds the empty role to have the empty capability. -/
theorem capabilities_agree (hdocumented : enforcer.Documented view)
    (hkeeps : view.Keeps held grants) (hdirect : DirectGrants.ofGrants grants = .ok direct)
    (hnames : ∀ grant ∈ grants, grant.NamesNoAgent)
    (hpatterns : ∀ grant ∈ grants, grant.NamesNoPattern) :
    enforcer.hasCapability held agent capability = true ↔
      direct.hasCapability agent capability = true ∨
        Grant.NoneCapable grants ∧ capability = "" ∧ "" ∈ direct.roles agent := by
  rw [has_capability_tried hdocumented hkeeps hdirect hnames hpatterns,
    DirectGrants.has_capability_iff]
  simp only [DirectGrants.mem_role_capabilities_of_grants hdirect, ← hkeeps.policies]
  by_cases hnone : view.policies held = []
  · have hincapable : Grant.NoneCapable grants := by
      intro grant hgrant role capability hgives
      have hpolicy := (hkeeps.policies role capability).2 ⟨grant, hgrant, hgives⟩
      simp [hnone] at hpolicy
    simp [Enforcer.View.tried, hnone, hincapable, and_comm]
  · have hcapable : ¬ Grant.NoneCapable grants := by
      obtain ⟨⟨role, capability⟩, hpolicy⟩ := List.exists_mem_of_ne_nil _ hnone
      obtain ⟨grant, hgrant, hgives⟩ := (hkeeps.policies role capability).1 hpolicy
      exact fun h => h grant hgrant role capability hgives
    simp [Enforcer.View.tried, hnone, hcapable]

end Agreement

variable {grants : List Grant}

namespace ResolverKind

variable {Held Failure : Type} {enforcer : Enforcer Held Failure} {view : Enforcer.View Held}

/-- What the plain resolver of the grants is built from. -/
theorem direct_built {plain : Resolver} {lines : List LogLine}
    (h : direct.buildWith enforcer grants = .ok (plain, lines)) :
    ∃ given, DirectGrants.ofGrants grants = .ok given ∧ given.resolver = plain := by
  rw [buildWith] at h
  cases hdirect : DirectGrants.ofGrants grants with
  | error malformed => simp [hdirect] at h
  | ok given =>
      simp only [hdirect, Except.ok.injEq, Prod.mk.injEq] at h
      exact ⟨given, rfl, h.1⟩

/-- What the resolver that asks the enforcer is built from. -/
theorem linked_built {held : Held} {logged : List LogLine}
    (h : enforcer.setUp grants = .ok (held, logged)) :
    ∃ lines, linked.buildWith enforcer grants = .ok (enforcer.resolver held, lines) := by
  simp only [buildWith, h]
  exact ⟨_, rfl⟩

/-- Grants that give no user a role with the name of an agent, and no role a capability with a
star, resolve to the same roles whichever resolver is built from them, and to the same capabilities
but for one: where no grant gives a capability at all, an agent with the empty role has the empty
capability by the enforcer and not by the plain tables. -/
theorem builds_agree_but_for_empty (hdocumented : enforcer.Documented view) {plain : Resolver}
    {lines : List LogLine} (hbuilt : direct.buildWith enforcer grants = .ok (plain, lines))
    (hnames : ∀ grant ∈ grants, grant.NamesNoAgent)
    (hpatterns : ∀ grant ∈ grants, grant.NamesNoPattern) :
    ∃ following logged, linked.buildWith enforcer grants = .ok (following, logged) ∧
      (∀ agent, following.roles agent = plain.roles agent) ∧
      ∀ agent capability, following.hasCapability agent capability = true ↔
        plain.hasCapability agent capability = true ∨
          Grant.NoneCapable grants ∧ capability = "" ∧ "" ∈ plain.roles agent := by
  obtain ⟨given, hdirect, rfl⟩ := direct_built hbuilt
  obtain ⟨held, logged, hset, hkeeps⟩ := hdocumented.set_up grants
  obtain ⟨lines, hlinked⟩ := linked_built hset
  refine ⟨enforcer.resolver held, lines, hlinked, ?_, ?_⟩
  · exact roles_agree hdocumented hkeeps hdirect hnames
  · intro agent capability
    exact capabilities_agree hdocumented hkeeps hdirect hnames hpatterns

end ResolverKind

/-- The objects of grants tell whether the grants name agents. -/
theorem Grant.names_no_agent (h : ∀ grant ∈ grants, ¬ Agent.MayName grant.object) :
    ∀ grant ∈ grants, grant.NamesNoAgent := by
  rintro grant hgrant uid role ⟨-, rfl⟩
  exact h grant hgrant

/-- The objects of grants tell whether the grants name patterns. -/
theorem Grant.names_no_pattern (h : ∀ grant ∈ grants, '*' ∉ grant.object.toList) :
    ∀ grant ∈ grants, grant.NamesNoPattern := by
  rintro grant hgrant role capability ⟨-, rfl⟩
  exact h grant hgrant

/-- Grants that repeat one another under two spellings of a user, with a capability for a role. -/
def Grant.spelledTwice : List Grant :=
  [⟨"u:7", "editor"⟩, ⟨"editor", "publish article"⟩, ⟨"u:+7", "editor"⟩, ⟨"u:-2", "editor"⟩]

/-- Both resolvers know the editor under either spelling. -/
theorem ResolverKind.builds_agree_spelled_twice :
    ∃ plain lines following logged,
      direct.buildWith LinkedGrants.enforcer Grant.spelledTwice = .ok (plain, lines) ∧
      linked.buildWith LinkedGrants.enforcer Grant.spelledTwice = .ok (following, logged) ∧
      (plain.roles (.user 7)).toList = ["authenticated", "editor"] ∧
      following.roles (.user 7) = plain.roles (.user 7) ∧
      plain.hasCapability (.user 7) "publish article" = true ∧
      following.hasCapability (.user 7) "publish article" = true ∧
      ¬ following.hasCapability (.user 7) "" = true := by
  have hnames : ∀ grant ∈ Grant.spelledTwice, grant.NamesNoAgent :=
    Grant.names_no_agent (by simp [Grant.spelledTwice, Agent.MayName])
  have hpatterns : ∀ grant ∈ Grant.spelledTwice, grant.NamesNoPattern :=
    Grant.names_no_pattern (by simp [Grant.spelledTwice])
  have hbuilt : direct.buildWith LinkedGrants.enforcer Grant.spelledTwice = .ok (_, _) := rfl
  obtain ⟨following, logged, hlinked, hroles, hcapabilities⟩ :=
    ResolverKind.builds_agree_but_for_empty LinkedGrants.documented hbuilt hnames hpatterns
  have hcapable : ¬ Grant.NoneCapable Grant.spelledTwice := fun h =>
    h ⟨"editor", "publish article"⟩ (by decide) "editor" "publish article" ⟨rfl, rfl⟩
  refine ⟨_, _, following, logged, hbuilt, hlinked, by decide, hroles _, by decide, ?_, ?_⟩
  · exact (hcapabilities _ _).2 (Or.inl (by decide))
  · rw [hcapabilities]
    rintro (hplain | ⟨hnone, -⟩)
    · exact absurd hplain (by decide)
    · exact hcapable hnone

/-- A single grant, which gives a user the empty role. -/
def Grant.nameless : List Grant :=
  [⟨"u:1", ""⟩]

/-- Where no grant gives a capability, the resolvers answer differently for the empty one. -/
theorem ResolverKind.builds_differ :
    (∀ grant ∈ Grant.nameless, grant.NamesNoAgent) ∧
      (∀ grant ∈ Grant.nameless, grant.NamesNoPattern) ∧
      ∃ plain lines following logged,
        direct.buildWith LinkedGrants.enforcer Grant.nameless = .ok (plain, lines) ∧
        linked.buildWith LinkedGrants.enforcer Grant.nameless = .ok (following, logged) ∧
        plain.hasCapability (.user 1) "" = false ∧
        following.hasCapability (.user 1) "" = true := by
  have hnames : ∀ grant ∈ Grant.nameless, grant.NamesNoAgent :=
    Grant.names_no_agent (by simp [Grant.nameless, Agent.MayName])
  have hpatterns : ∀ grant ∈ Grant.nameless, grant.NamesNoPattern :=
    Grant.names_no_pattern (by simp [Grant.nameless])
  have hnone : Grant.NoneCapable Grant.nameless := by
    rintro grant hgrant role capability ⟨hsubject, -⟩
    obtain rfl := List.mem_singleton.1 hgrant
    exact absurd hsubject (by simp [show Grant.subject? "u:1" = some (.user 1) from rfl])
  have hdirect : DirectGrants.ofGrants Grant.nameless = .ok ⟨[(1, "")], []⟩ := rfl
  obtain ⟨held, logged, hset, hkeeps⟩ := LinkedGrants.documented.set_up Grant.nameless
  obtain ⟨lines, hlinked⟩ := linked_built hset
  refine ⟨hnames, hpatterns, _, _, _, lines, rfl, hlinked, by decide, ?_⟩
  refine (capabilities_agree LinkedGrants.documented hkeeps hdirect hnames hpatterns).2 ?_
  exact Or.inr ⟨hnone, rfl, by decide⟩

end ContentWorkflow
