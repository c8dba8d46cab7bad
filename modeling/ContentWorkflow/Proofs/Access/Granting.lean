import ContentWorkflow.Proofs.Access.Resolution

/-!
# What plain grants resolve to

A subject that begins like a user names the user whose number it spells, with leading zeros and a
sign of its own if it likes, and is misnamed where it spells none; every other subject names a role.
A list of grants without misnamed subjects resolves to what its members say and to nothing else
(`Resolver.Reflects`), so neither the order of the grants nor repetitions matter, and further grants
only add. `of_grants_reflected` says so.
-/

namespace ContentWorkflow

/-! ## Spelled numbers -/

namespace Numeral

/-- The text spells the number: ASCII digits with at most one sign before them. -/
inductive Spells : List Char → Int → Prop where
  | unsigned {digits : List Char} (hsome : digits ≠ [])
      (hdigits : ∀ digit ∈ digits, digit.isDigit = true) : Spells digits (value digits)
  | positive {digits : List Char} (hsome : digits ≠ [])
      (hdigits : ∀ digit ∈ digits, digit.isDigit = true) : Spells ('+' :: digits) (value digits)
  | negative {digits : List Char} (hsome : digits ≠ [])
      (hdigits : ∀ digit ∈ digits, digit.isDigit = true) : Spells ('-' :: digits) (-value digits)

theorem of_digits_eq_some_iff {text : List Char} {number : Nat} :
    ofDigits? text = some number ↔
      text ≠ [] ∧ (∀ digit ∈ text, digit.isDigit = true) ∧ value text = number := by
  rw [ofDigits?]
  split
  · next h =>
      simp only [reduceCtorEq, false_iff]
      rintro ⟨hsome, hdigits, -⟩
      simp [hsome] at h
      obtain ⟨digit, hdigit, hother⟩ := h
      simp [hdigits digit hdigit] at hother
  · next h => simp_all

/-- What is read as a signed number is what spells one. -/
theorem of_signed_eq_some_iff {text : List Char} {number : Int} :
    ofSigned? text = some number ↔ Spells text number := by
  constructor
  · intro h
    unfold ofSigned? at h
    split at h
    · next digits =>
        cases hmagnitude : ofDigits? digits with
        | none => simp [hmagnitude] at h
        | some magnitude =>
            obtain ⟨hsome, hdigits, rfl⟩ := of_digits_eq_some_iff.1 hmagnitude
            obtain rfl : -(value digits : Int) = number := by simpa [hmagnitude] using h
            exact .negative hsome hdigits
    · obtain ⟨magnitude, hmagnitude, rfl⟩ := Option.map_eq_some_iff.1 h
      obtain ⟨hsome, hdigits, rfl⟩ := of_digits_eq_some_iff.1 hmagnitude
      exact .positive hsome hdigits
    · obtain ⟨magnitude, hmagnitude, rfl⟩ := Option.map_eq_some_iff.1 h
      obtain ⟨hsome, hdigits, rfl⟩ := of_digits_eq_some_iff.1 hmagnitude
      exact .unsigned hsome hdigits
  · intro h
    cases h with
    | unsigned hsome hdigits =>
        unfold ofSigned?
        split
        · exact absurd (hdigits '-' (by simp)) (by decide)
        · exact absurd (hdigits '+' (by simp)) (by decide)
        · rw [of_digits_eq_some_iff.2 ⟨hsome, hdigits, rfl⟩]
          rfl
    | positive hsome hdigits =>
        rw [ofSigned?, of_digits_eq_some_iff.2 ⟨hsome, hdigits, rfl⟩]
        rfl
    | negative hsome hdigits =>
        rw [ofSigned?, of_digits_eq_some_iff.2 ⟨hsome, hdigits, rfl⟩]
        rfl

theorem word_eq_some_iff {text : String} {number : Int} :
    word? text = some number ↔ Spells text.toList number ∧ FitsWord number := by
  simp [word?, of_signed_eq_some_iff]

end Numeral

/-! ## Subjects -/

namespace Grant

/-- The subject begins like that of a user. -/
def NamesUser (subject : String) : Prop :=
  ['u', ':'] <+: subject.toList

/-- The subject names the user with the number. -/
def Denotes (subject : String) (uid : Int) : Prop :=
  ∃ number, subject.toList = 'u' :: ':' :: number ∧ Numeral.Spells number uid ∧ Numeral.FitsWord uid

/-- The subject of the grant begins like that of a user and does not go on with the number of
one. -/
def Misnamed (grant : Grant) : Prop :=
  NamesUser grant.subject ∧ ¬ ∃ uid, Denotes grant.subject uid

variable {subject : String} {uid : Int}

theorem Denotes.names_user (h : Denotes subject uid) : NamesUser subject := by
  obtain ⟨number, hsubject, -⟩ := h
  exact ⟨number, hsubject.symm⟩

/-- A subject that begins like a user is read as the user whose number it spells. -/
theorem subject_of_names_user {number : List Char} (h : subject.toList = 'u' :: ':' :: number) :
    subject? subject = (Numeral.word? (String.ofList number)).map .user := by
  rw [subject?, h]
  rfl

/-- A subject that does not begin like a user is read as a role. -/
theorem subject_of_not_names_user (h : ¬ NamesUser subject) :
    subject? subject = some (.role subject) := by
  unfold subject?
  split
  · next number hsubject => exact absurd ⟨number, hsubject.symm⟩ h
  · rfl

theorem subject_eq_user_iff : subject? subject = some (.user uid) ↔ Denotes subject uid := by
  by_cases hnames : NamesUser subject
  · obtain ⟨number, hsubject⟩ := hnames
    simp [subject_of_names_user hsubject.symm, Numeral.word_eq_some_iff, Denotes, ← hsubject]
  · rw [subject_of_not_names_user hnames]
    simpa using fun h : Denotes subject uid => hnames h.names_user

theorem subject_eq_role_iff {name : String} :
    subject? subject = some (.role name) ↔ subject = name ∧ ¬ NamesUser subject := by
  by_cases hnames : NamesUser subject
  · have hread := hnames
    obtain ⟨number, hsubject⟩ := hread
    simp [subject_of_names_user hsubject.symm, hnames]
  · simp [subject_of_not_names_user hnames, hnames]

/-- A subject that is misnamed is not read, and no other is refused. -/
theorem subject_eq_none_iff {grant : Grant} : subject? grant.subject = none ↔ grant.Misnamed := by
  by_cases hnames : NamesUser grant.subject
  · simp only [Misnamed, hnames, true_and, ← subject_eq_user_iff]
    obtain ⟨number, hsubject⟩ := hnames
    simp [subject_of_names_user hsubject.symm, Option.eq_none_iff_forall_ne_some]
  · simp [Misnamed, subject_of_not_names_user hnames, hnames]

end Grant

/-! ## What a list of grants resolves to -/

/-- The resolver answers what the grants say: every user is authenticated and holds what some grant
gives to its number, nobody anonymous holds anything else, and a role has the capabilities that some
grant gives to its name. -/
structure Resolver.Reflects (resolver : Resolver) (grants : List Grant) : Prop where
  user_roles : ∀ uid role, role ∈ resolver.roles (.user uid) ↔
    role = Role.authenticated ∨ ∃ grant ∈ grants, Grant.Denotes grant.subject uid ∧
      grant.object = role
  anonymous_roles : ∀ role, role ∈ resolver.roles .anonymous ↔ role = Role.anonymous
  capabilities : ∀ agent capability, resolver.hasCapability agent capability = true ↔
    ∃ role ∈ resolver.roles agent, ⟨role, capability⟩ ∈ grants ∧ ¬ Grant.NamesUser role

namespace Resolver.Reflects

variable {resolver other : Resolver} {grants more : List Grant}

/-- What more grants say is more. -/
theorem roles_mono (h : resolver.Reflects grants) (hother : other.Reflects more)
    (hmore : grants ⊆ more) (agent : Agent) :
    ∀ role ∈ resolver.roles agent, role ∈ other.roles agent := by
  intro role hrole
  cases agent with
  | anonymous => exact (hother.anonymous_roles role).2 ((h.anonymous_roles role).1 hrole)
  | user uid =>
      refine (hother.user_roles uid role).2 (((h.user_roles uid role).1 hrole).imp_right ?_)
      rintro ⟨grant, hgrant, hgives⟩
      exact ⟨grant, hmore hgrant, hgives⟩

theorem capabilities_mono (h : resolver.Reflects grants) (hother : other.Reflects more)
    (hmore : grants ⊆ more) (agent : Agent) (capability : String)
    (hcapability : resolver.hasCapability agent capability = true) :
    other.hasCapability agent capability = true := by
  obtain ⟨role, hrole, hgrant, hname⟩ := (h.capabilities agent capability).1 hcapability
  exact (hother.capabilities agent capability).2
    ⟨role, h.roles_mono hother hmore agent role hrole, hmore hgrant, hname⟩

/-- Only the members of a list of grants matter. -/
theorem unique (h : resolver.Reflects grants) (hother : other.Reflects more)
    (hsame : ∀ grant, grant ∈ more ↔ grant ∈ grants) : other = resolver := by
  have hsub : grants ⊆ more := fun grant => (hsame grant).2
  have hsup : more ⊆ grants := fun grant => (hsame grant).1
  have hroles : other.roles = resolver.roles := funext fun agent =>
    RoleSet.eq_of_mem_iff fun role =>
      ⟨hother.roles_mono h hsup agent role, h.roles_mono hother hsub agent role⟩
  have hcapabilities : other.hasCapability = resolver.hasCapability := funext fun agent =>
    funext fun capability => Bool.eq_iff_iff.2
      ⟨hother.capabilities_mono h hsup agent capability,
        h.capabilities_mono hother hsub agent capability⟩
  cases resolver
  cases other
  simp_all

end Resolver.Reflects

namespace DirectGrants

variable {given : DirectGrants} {grants : List Grant} {grant : Grant}

theorem give_of_misnamed (h : grant.Misnamed) :
    given.give grant = .error ⟨grant.subject⟩ := by
  rw [give, Grant.subject_eq_none_iff.2 h]

theorem give_of_not_misnamed (given : DirectGrants) (h : ¬ grant.Misnamed) :
    ∃ next, given.give grant = .ok next := by
  unfold give
  split
  · next hsubject => exact absurd (Grant.subject_eq_none_iff.1 hsubject) h
  · exact ⟨_, rfl⟩
  · exact ⟨_, rfl⟩

/-- Giving the grants one after another comes to an end where none is misnamed. -/
theorem give_all_of_named (h : ∀ grant ∈ grants, ¬ grant.Misnamed) :
    ∃ next, grants.foldlM give given = .ok next := by
  induction grants generalizing given with
  | nil => exact ⟨given, rfl⟩
  | cons first rest ih =>
      obtain ⟨hfirst, hrest⟩ := List.forall_mem_cons.1 h
      obtain ⟨next, hnext⟩ := give_of_not_misnamed given hfirst
      rw [List.foldlM_cons, hnext]
      exact @ih next hrest

/-- Grants that could be given one after another are not misnamed. -/
theorem named_of_give_all {next : DirectGrants} (h : grants.foldlM give given = .ok next) :
    ∀ grant ∈ grants, ¬ grant.Misnamed := by
  induction grants generalizing given with
  | nil => exact List.forall_mem_nil _
  | cons first rest ih =>
      rw [List.foldlM_cons] at h
      cases hfirst : given.give first with
      | error malformed => simp [hfirst, bind, Except.bind] at h
      | ok between =>
          have hrest : rest.foldlM give between = .ok next := by
            simpa [hfirst, bind, Except.bind] using h
          refine List.forall_mem_cons.2 ⟨fun hmisnamed => ?_, ih hrest⟩
          rw [give_of_misnamed hmisnamed] at hfirst
          cases hfirst

theorem of_grants_ok_iff :
    (∃ given, ofGrants grants = .ok given) ↔ ∀ grant ∈ grants, ¬ grant.Misnamed :=
  ⟨fun ⟨_, h⟩ => named_of_give_all h, give_all_of_named⟩

theorem of_grants_error_iff :
    (∃ malformed, ofGrants grants = .error malformed) ↔ ∃ grant ∈ grants, grant.Misnamed := by
  have hok : (∃ given, ofGrants grants = .ok given) ↔ ∀ grant ∈ grants, ¬ grant.Misnamed :=
    of_grants_ok_iff
  cases h : ofGrants grants with
  | ok given => simpa [h] using hok
  | error malformed => simpa [h] using hok

/-- The resolver of grants that could be taken together answers what they say. -/
theorem reflects_of_grants (h : ofGrants grants = .ok given) : given.resolver.Reflects grants where
  user_roles uid role := by
    show role ∈ given.roles (.user uid) ↔ _
    simp only [mem_roles_user, mem_user_roles_of_grants h, Grant.GivesRole,
      Grant.subject_eq_user_iff]
  anonymous_roles role := @mem_roles_anonymous given role
  capabilities agent capability := by
    show given.hasCapability agent capability = true ↔ ∃ role ∈ given.roles agent, _
    rw [has_capability_iff]
    refine exists_congr fun role => and_congr_right fun _ => ?_
    rw [mem_role_capabilities_of_grants h]
    constructor
    · rintro ⟨⟨subject, object⟩, hgrant, hsubject, rfl⟩
      obtain ⟨rfl, hname⟩ := Grant.subject_eq_role_iff.1 hsubject
      exact ⟨hgrant, hname⟩
    · rintro ⟨hgrant, hname⟩
      exact ⟨⟨role, capability⟩, hgrant, Grant.subject_eq_role_iff.2 ⟨rfl, hname⟩, rfl⟩

/-- Grants are refused exactly where the subject of one is misnamed. Otherwise the resolver answers
what they say. Whatever the order of the same grants and however often each of them stands, the
answers are the same, and grants that are taken together with more lose nothing. -/
theorem of_grants_reflected (grants : List Grant) :
    ((∃ malformed, ofGrants grants = .error malformed) ↔
      ∃ grant ∈ grants, Grant.NamesUser grant.subject ∧ ¬ ∃ uid, Grant.Denotes grant.subject uid) ∧
    ∀ given, ofGrants grants = .ok given →
      given.resolver.Reflects grants ∧
      (∀ others, (∀ grant, grant ∈ others ↔ grant ∈ grants) →
        ∃ same, ofGrants others = .ok same ∧ same.resolver = given.resolver) ∧
      ∀ more wider, grants ⊆ more → ofGrants more = .ok wider → ∀ agent,
        (∀ role ∈ given.resolver.roles agent, role ∈ wider.resolver.roles agent) ∧
        ∀ capability, given.resolver.hasCapability agent capability = true →
          wider.resolver.hasCapability agent capability = true := by
  refine ⟨of_grants_error_iff, fun given hgiven => ?_⟩
  have hreflects := reflects_of_grants hgiven
  refine ⟨hreflects, fun others hsame => ?_, fun more wider hmore hwider agent => ?_⟩
  · have hnamed : ∀ grant ∈ others, ¬ grant.Misnamed := fun grant hgrant =>
      of_grants_ok_iff.1 ⟨given, hgiven⟩ grant ((hsame grant).1 hgrant)
    obtain ⟨same, hothers⟩ := of_grants_ok_iff.2 hnamed
    exact ⟨same, hothers, hreflects.unique (reflects_of_grants hothers) hsame⟩
  · have hwide := reflects_of_grants hwider
    exact ⟨hreflects.roles_mono hwide hmore agent, hreflects.capabilities_mono hwide hmore agent⟩

/-- Under three spellings of one user, the same grants backwards and twice over resolve alike, and a
further one leaves what the user could do. A number beyond the range is no user. -/
theorem of_grants_reflected_spelled_twice :
    ∃ given same wider,
      ofGrants Grant.spelledTwice = .ok given ∧
      ofGrants (Grant.spelledTwice.reverse ++ Grant.spelledTwice) = .ok same ∧
      ofGrants (⟨"u:007", "manager"⟩ :: Grant.spelledTwice) = .ok wider ∧
      (given.resolver.roles (.user 7)).toList = ["authenticated", "editor"] ∧
      same.resolver = given.resolver ∧
      "editor" ∈ wider.resolver.roles (.user 7) ∧
      wider.resolver.hasCapability (.user 7) "publish article" = true ∧
      ∃ malformed, ofGrants [⟨"u:9223372036854775808", "editor"⟩] = .error malformed := by
  have hgiven : ofGrants Grant.spelledTwice = .ok _ := rfl
  have hwider : ofGrants (⟨"u:007", "manager"⟩ :: Grant.spelledTwice) = .ok _ := rfl
  obtain ⟨-, hresolved⟩ := of_grants_reflected Grant.spelledTwice
  obtain ⟨-, hsame, hmore⟩ := hresolved _ hgiven
  obtain ⟨same, hothers, halike⟩ :=
    hsame (Grant.spelledTwice.reverse ++ Grant.spelledTwice) (by simp)
  obtain ⟨hroles, hcapabilities⟩ := hmore _ _ (List.subset_cons_self _ _) hwider (.user 7)
  exact ⟨_, same, _, hgiven, hothers, hwider, by decide, halike, hroles "editor" (by decide),
    hcapabilities "publish article" (by decide), _, rfl⟩

end DirectGrants

end ContentWorkflow
