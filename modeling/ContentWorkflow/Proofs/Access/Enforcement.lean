import ContentWorkflow.Access.LinkedGrants
import Mathlib.Logic.Relation

/-!
# What is relied on of an enforcer

`Enforcer.Documented` lists what an enforcer for the model of the resolver promises: its tables are
sets, roles follow links, and a role is allowed what a policy for it or for a role that it is linked
to gives. Where there is no policy, the matcher of the model is evaluated once with the empty text
for both parts of the policy. What the enforcer keeps of a list of grants follows from that
(`Documented.set_up`). The tables that sites run with keep all of it (`LinkedGrants.documented`).
-/

namespace ContentWorkflow

/-! ## The subjects of agents -/

namespace Agent

/-- A number is written as its digits, behind a hyphen where it is negative. -/
theorem to_list_repr (number : Int) : number.repr.toList =
    if 0 ≤ number then Nat.toDigits 10 number.toNat
    else '-' :: Nat.toDigits 10 (-number).toNat := by
  rw [Int.repr_eq_if]
  split <;> simp [Nat.repr_eq_ofList_toDigits]

/-- Different numbers have different digits. -/
theorem to_digits_injective {first second : Nat}
    (h : Nat.toDigits 10 first = Nat.toDigits 10 second) : first = second := by
  rw [← Nat.ofDigitChars_ten_toDigits (n := first), h, Nat.ofDigitChars_ten_toDigits]

/-- A hyphen is no digit. -/
theorem hyphen_ne_to_digits (number : Nat) (rest : List Char) :
    '-' :: rest ≠ Nat.toDigits 10 number := by
  intro h
  have hmem : '-' ∈ Nat.toDigits 10 number := by simp [← h]
  have hdigit := Nat.isDigit_of_mem_toDigits (by decide) (by decide) hmem
  exact absurd hdigit (by decide)

/-- Different users have different subjects. -/
theorem subject_user_injective : Function.Injective fun id : Int => (user id).subject := by
  intro id other h
  have hrepr : id.repr = other.repr := by simpa [subject, toString] using h
  have hchars := congrArg String.toList hrepr
  rw [to_list_repr, to_list_repr] at hchars
  split at hchars
  · split at hchars
    · have hnumber := to_digits_injective hchars
      omega
    · exact absurd hchars.symm (hyphen_ne_to_digits _ _)
  · split at hchars
    · exact absurd hchars (hyphen_ne_to_digits _ _)
    · have hnumber := to_digits_injective (List.cons.inj hchars).2
      omega

/-- No user has the subject of the anonymous agent. -/
theorem subject_user_ne_anonymous (id : Int) : (user id).subject ≠ anonymous.subject := by
  intro h
  have hchars : (user id).subject.toList = ['-'] := by rw [h]; rfl
  simp [subject, toString] at hchars

end Agent

/-! ## What a grant gives -/

namespace Grant

/-- The grant gives the role to the user. -/
def GivesRole (grant : Grant) (uid : Int) (role : String) : Prop :=
  subject? grant.subject = some (.user uid) ∧ grant.object = role

/-- The grant gives the capability to the role. -/
def GivesCapability (grant : Grant) (role capability : String) : Prop :=
  subject? grant.subject = some (.role role) ∧ grant.object = capability

end Grant

/-! ## The promises -/

namespace Enforcer

/-- What can be seen of an enforcer: the links and policies that it keeps, and which name it takes
to be another or to be linked to it. -/
structure View (Held : Type) where
  links : Held → List (String × String)
  policies : Held → List (String × String)
  Linked : Held → String → String → Prop

namespace View

variable {Held : Type} (view : View Held)

/-- A link leads from the name to another one. -/
def Link (held : Held) (name other : String) : Prop :=
  (name, other) ∈ view.links held ∧ name ≠ other

/-- The policies that are tried. Where none is kept the empty one is. -/
def tried (held : Held) : List (String × String) :=
  if view.policies held = [] then [("", "")] else view.policies held

/-- The second keeps the links and the policies besides what the first keeps. -/
structure Gains (held next : Held) (links policies : List (String × String)) : Prop where
  links : ∀ link, link ∈ view.links next ↔ link ∈ view.links held ∨ link ∈ links
  policies : ∀ policy,
    policy ∈ view.policies next ↔ policy ∈ view.policies held ∨ policy ∈ policies

/-- What is kept is the link of the anonymous agent and what the grants give. -/
structure Keeps (held : Held) (grants : List Grant) : Prop where
  links : ∀ subject role, (subject, role) ∈ view.links held ↔
    subject = Agent.anonymous.subject ∧ role = Role.anonymous ∨
      ∃ grant ∈ grants, ∃ uid, grant.GivesRole uid role ∧ (Agent.user uid).subject = subject
  policies : ∀ role capability, (role, capability) ∈ view.policies held ↔
    ∃ grant ∈ grants, grant.GivesCapability role capability

end View

/-- What is relied on of an enforcer. Of patterns nothing is relied on. -/
structure Documented {Held Failure : Type} (enforcer : Enforcer Held Failure) (view : View Held) :
    Prop where
  /-- At first nothing is kept. -/
  start : ∃ held, enforcer.start = .ok held ∧ view.links held = [] ∧ view.policies held = []
  /-- A link that is not kept yet can be added. -/
  add_link : ∀ held link, link ∉ view.links held →
    ∃ next, enforcer.addLink held link = .ok (next, true) ∧ view.Gains held next [link] []
  /-- Links none of which is kept yet can be added together. -/
  add_links : ∀ held links, (∀ link ∈ links, link ∉ view.links held) →
    ∃ next, enforcer.addLinks held links = .ok (next, true) ∧ view.Gains held next links []
  /-- Policies none of which is kept yet can be added together. -/
  add_policies : ∀ held policies, (∀ policy ∈ policies, policy ∉ view.policies held) →
    ∃ next, enforcer.addPolicies held policies = .ok (next, true) ∧
      view.Gains held next [] policies
  /-- The roles of a name are those that links lead to. -/
  roles_of : ∀ held name role,
    role ∈ enforcer.rolesOf held name ↔ Relation.TransGen (view.Link held) name role
  /-- A name is linked to itself. -/
  linked_self : ∀ held name, view.Linked held name name
  /-- A name is linked to another one only if links lead there. -/
  linked_leads : ∀ held name other, view.Linked held name other → name ≠ other →
    Relation.TransGen (view.Link held) name other
  /-- Where no policy gives a pattern, a role is allowed exactly what some policy that is tried
  gives to a role that it is linked to. -/
  enforce : ∀ held role capability,
    (∀ policy ∈ view.policies held, '*' ∉ policy.2.toList) →
      ∃ answer, enforcer.enforce held role capability = .ok answer ∧
        (answer = true ↔
          ∃ policy ∈ view.tried held, view.Linked held role policy.1 ∧ policy.2 = capability)

/-! ## What it keeps of grants -/

section

variable {Held Failure : Type} {enforcer : Enforcer Held Failure} {view : View Held}
  {held : Held} {grants : List Grant} {subject role capability : String}

/-- The links of grants are the roles that they give to users. -/
theorem mem_links_of : (subject, role) ∈ linksOf grants ↔
    ∃ grant ∈ grants, ∃ uid, grant.GivesRole uid role ∧ (Agent.user uid).subject = subject := by
  rw [linksOf, List.mem_filterMap]
  refine exists_congr fun grant => and_congr_right fun _ => ?_
  cases hsubject : Grant.subject? grant.subject with
  | none => simp [Grant.GivesRole, hsubject]
  | some named =>
      cases named with
      | user uid => simp [Grant.GivesRole, hsubject, and_assoc, and_comm]
      | role name => simp [Grant.GivesRole, hsubject]

/-- The policies of grants are the capabilities that they give to roles. -/
theorem mem_policies_of : (role, capability) ∈ policiesOf grants ↔
    ∃ grant ∈ grants, grant.GivesCapability role capability := by
  rw [policiesOf, List.mem_filterMap]
  refine exists_congr fun grant => and_congr_right fun _ => ?_
  cases hsubject : Grant.subject? grant.subject with
  | none => simp [Grant.GivesCapability, hsubject]
  | some named => cases named <;> simp [Grant.GivesCapability, hsubject]

/-- What is kept after rows are added, and without any is kept already, is kept after adding those
that there are. -/
theorem kept_of_added {rows : List (String × String)} {adding : Except Failure (Held × Bool)}
    {Kept : Held → Prop} (hnone : rows = [] → Kept held)
    (hadded : ∃ next, adding = .ok (next, true) ∧ Kept next) :
    ∃ next, (if rows.isEmpty then .ok held else adding.map (·.1)) = .ok next ∧ Kept next := by
  cases rows with
  | nil => exact ⟨held, rfl, hnone rfl⟩
  | cons first rest =>
      obtain ⟨next, rfl, hkept⟩ := hadded
      exact ⟨next, rfl, hkept⟩

/-- Adding nothing changes nothing. -/
theorem View.gains_nil : view.Gains held held [] [] :=
  ⟨by simp, by simp⟩

/-- Links that the enforcer does not keep are kept once they are added. -/
theorem Documented.with_links (h : enforcer.Documented view) {links : List (String × String)}
    (hnew : ∀ link ∈ links, link ∉ view.links held) :
    ∃ next, enforcer.withLinks held links = .ok next ∧ view.Gains held next links [] := by
  rw [withLinks]
  exact kept_of_added (by rintro rfl; exact View.gains_nil) (h.add_links held links hnew)

/-- Policies that the enforcer does not keep are kept once they are added. -/
theorem Documented.with_policies (h : enforcer.Documented view)
    {policies : List (String × String)} (hnew : ∀ policy ∈ policies, policy ∉ view.policies held) :
    ∃ next, enforcer.withPolicies held policies = .ok next ∧
      view.Gains held next [] policies := by
  rw [withPolicies]
  exact kept_of_added (by rintro rfl; exact View.gains_nil) (h.add_policies held policies hnew)

/-- Setting up succeeds, and what is kept is the link of the anonymous agent, a link for each role
that a grant gives to a user, and a policy for each capability that a grant gives to a role. -/
theorem Documented.set_up (h : enforcer.Documented view) (grants : List Grant) :
    ∃ held lines, enforcer.setUp grants = .ok (held, lines) ∧ view.Keeps held grants := by
  obtain ⟨started, hstarted, hnone, hnone'⟩ := h.start
  obtain ⟨opened, hopened, hopens⟩ :=
    h.add_link started (Agent.anonymous.subject, Role.anonymous) (by simp [hnone])
  have hnew : ∀ link ∈ linksOf grants, link ∉ view.links opened := by
    rintro ⟨subject, role⟩ hlink
    obtain ⟨grant, -, uid, -, rfl⟩ := mem_links_of.1 hlink
    simp [hopens.links, hnone, Agent.subject_user_ne_anonymous uid]
  obtain ⟨linked, hlinked, hlinks⟩ := h.with_links hnew
  have hnew' : ∀ policy ∈ policiesOf grants, policy ∉ view.policies linked := by
    simp [hlinks.policies, hopens.policies, hnone']
  obtain ⟨held, hheld, hpolicies⟩ := h.with_policies hnew'
  have hdone : ∃ lines, enforcer.setUp grants = .ok (held, lines) := by
    simp only [setUp, hstarted, hopened, hlinked, hheld, bind, Except.bind]
    exact ⟨_, rfl⟩
  obtain ⟨lines, hdone⟩ := hdone
  refine ⟨held, lines, hdone, fun subject role => ?_, fun role capability => ?_⟩
  · simp [hpolicies.links, hlinks.links, hopens.links, hnone, mem_links_of]
  · simp [hpolicies.policies, hlinks.policies, hopens.policies, hnone', mem_policies_of]

/-- A capability is held through a role that the enforcer allows it. -/
theorem allowed_iff {names : List String} : (enforcer.allowed held capability names).1 = true ↔
    ∃ role ∈ names, enforcer.enforce held role capability = .ok true := by
  induction names with
  | nil => simp [allowed]
  | cons first rest ih =>
      rw [allowed]
      split
      · next hfirst => simp [hfirst]
      · next hfirst => simp [hfirst, ih]
      · next hfirst => simp [hfirst, ih]

end

end Enforcer

/-! ## The enforcer that sites run with -/

namespace LinkedGrants

variable {grants : LinkedGrants} {subject role capability : String} {known : RoleSet}
  {rows further links all : List (String × String)} {row : String × String}

/-- Rows none of which is there are added. -/
theorem added_new (h : ∀ row ∈ further, row ∉ rows) :
    added rows further = (rows ++ further.eraseDups, true) := by
  rw [added, if_neg]
  simpa using h

/-- Whatever is collected was known, or links lead to it. -/
theorem leads_of_mem_reach (hsub : links ⊆ all)
    (hknown : ∀ role ∈ known,
      Relation.TransGen (fun name next => (name, next) ∈ all) subject role) :
    ∀ role ∈ reach subject known links,
      Relation.TransGen (fun name next => (name, next) ∈ all) subject role := by
  fun_induction reach subject known links with
  | case1 => exact hknown
  | case2 known links link hnext ih =>
      refine ih (fun x hx => hsub (List.mem_of_mem_erase hx)) ?_
      intro role hrole
      have hmem : (link.1, link.2) ∈ all := hsub (List.mem_of_find?_eq_some hnext)
      have hsource : link.1 = subject ∨ link.1 ∈ known := by
        simpa using List.find?_some hnext
      obtain rfl | hrole := RoleSet.mem_insert.1 hrole
      · obtain hsource | hsource := hsource
        · exact .single (hsource ▸ hmem)
        · exact (hknown _ hsource).tail hmem
      · exact hknown role hrole

/-- A link whose source is the subject or was collected has its role collected, if every link that
was left out already had. -/
theorem reach_closed (hdone : ∀ link ∈ all, link ∈ links ∨ link.2 ∈ known) :
    ∀ link ∈ all, (link.1 = subject ∨ link.1 ∈ reach subject known links) →
      link.2 ∈ reach subject known links := by
  fun_induction reach subject known links with
  | case1 known links hnext =>
      intro link hlink hsource
      obtain hmem | hmem := hdone link hlink
      · have hnone := List.find?_eq_none.1 hnext link hmem
        simp only [decide_eq_true_eq] at hnone
        exact absurd hsource hnone
      · exact hmem
  | case2 known links link hnext ih =>
      refine ih fun other hother => ?_
      by_cases heq : other = link
      · exact Or.inr (by simp [heq])
      · obtain hmem | hmem := hdone other hother
        · exact Or.inl ((List.mem_erase_of_ne heq).2 hmem)
        · exact Or.inr (by simp [hmem])

/-- What is collected from a subject is what links lead to. -/
theorem mem_reach_iff : role ∈ reach subject RoleSet.empty links ↔
    Relation.TransGen (fun name next => (name, next) ∈ links) subject role := by
  refine ⟨leads_of_mem_reach (List.Subset.refl links) (by simp) role, fun h => ?_⟩
  have hclosed : ∀ link ∈ links,
      (link.1 = subject ∨ link.1 ∈ reach subject RoleSet.empty links) →
        link.2 ∈ reach subject RoleSet.empty links :=
    reach_closed fun link hlink => Or.inl hlink
  induction h with
  | single hlink => exact hclosed _ hlink (Or.inl rfl)
  | tail _ hlink ih => exact hclosed _ hlink (Or.inr ih)

/-- What can be seen of the tables. -/
def view : Enforcer.View LinkedGrants :=
  ⟨LinkedGrants.links, LinkedGrants.policies, Linked⟩

/-- The roles of a subject are those that proper links lead to. -/
theorem mem_roles_of : role ∈ grants.rolesOf subject ↔
    Relation.TransGen (view.Link grants) subject role := by
  have hproper : view.Link grants = fun name next =>
      (name, next) ∈ grants.links.filter fun link => link.1 ≠ link.2 := by
    funext name next
    simp [Enforcer.View.Link, view]
  rw [rolesOf, mem_reach_iff, hproper]

/-- What holds no star covers itself alone. -/
theorem covers_iff_eq {given : String} (h : '*' ∉ given.toList) :
    Covers given capability ↔ given = capability := by
  rw [Covers, if_neg h]

/-- Links none of which is kept can be added to the tables. -/
theorem gains_links (h : ∀ link ∈ further, link ∉ grants.links) :
    ∃ next, grants.addLinks further = (next, true) ∧ view.Gains grants next further [] := by
  refine ⟨{ grants with links := grants.links ++ further.eraseDups }, ?_, ?_, ?_⟩
  · rw [addLinks, added_new h]
  · simp [view]
  · simp [view]

/-- Policies none of which is kept can be added to the tables. -/
theorem gains_policies (h : ∀ policy ∈ further, policy ∉ grants.policies) :
    ∃ next, grants.addPolicies further = (next, true) ∧ view.Gains grants next [] further := by
  refine ⟨{ grants with policies := grants.policies ++ further.eraseDups }, ?_, ?_, ?_⟩
  · rw [addPolicies, added_new h]
  · simp [view]
  · simp [view]

/-- Where no policy gives a pattern, what is allowed is what some policy gives. -/
theorem enforce_iff (h : ∀ policy ∈ grants.policies, '*' ∉ policy.2.toList) :
    grants.enforce role capability = true ↔
      ∃ policy ∈ view.tried grants, grants.Linked role policy.1 ∧ policy.2 = capability := by
  have htried : view.tried grants = grants.tried := rfl
  have hplain : ∀ policy ∈ grants.tried, '*' ∉ policy.2.toList := by
    rw [tried]
    split
    · simp
    · exact h
  rw [htried, enforce, List.any_eq_true]
  refine exists_congr fun policy => and_congr_right fun hpolicy => ?_
  rw [decide_eq_true_iff, covers_iff_eq (hplain policy hpolicy)]

/-- The tables keep what an enforcer promises. -/
theorem documented : enforcer.Documented view where
  start := ⟨empty, rfl, rfl, rfl⟩
  add_link held link hnew := by
    obtain ⟨next, hadded, hgains⟩ := gains_links (List.forall_mem_singleton.2 hnew)
    exact ⟨next, congrArg Except.ok hadded, hgains⟩
  add_links held links hnew := by
    obtain ⟨next, hadded, hgains⟩ := gains_links hnew
    exact ⟨next, congrArg Except.ok hadded, hgains⟩
  add_policies held policies hnew := by
    obtain ⟨next, hadded, hgains⟩ := gains_policies hnew
    exact ⟨next, congrArg Except.ok hadded, hgains⟩
  roles_of held name role := mem_roles_of
  linked_self held name := Or.inl rfl
  linked_leads held name other hlinked hne :=
    mem_roles_of.1 (hlinked.resolve_left hne.symm)
  enforce held role capability hplain := ⟨_, rfl, enforce_iff hplain⟩

end LinkedGrants

end ContentWorkflow
