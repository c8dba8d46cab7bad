import ContentWorkflow.Engine.Examination
import ContentWorkflow.Proofs.Store.Keys
import Mathlib.Data.List.Nodup

/-!
# Who may change a state

`Authorized` says who may make a change of state in terms of what is kept: by force, with the bypass
capability, or with a role of the rule that governs the change. `permits_iff` says that the engine
permits exactly these changes.
-/

namespace ContentWorkflow

namespace Store

/-- The workflow keeps the rule. -/
def KeepsRule (store : Store) (workflowId : String) (rule : Rule) : Prop :=
  ∃ row ∈ store.rules, row.workflowId = workflowId ∧ row.toRule = rule

/-- The workflow keeps at most one rule for every two states. -/
def SingleRules (store : Store) (workflowId : String) : Prop :=
  ∀ rule other, store.KeepsRule workflowId rule → store.KeepsRule workflowId other →
    rule.fromSid = other.fromSid → rule.toSid = other.toSid → rule = other

/-- The rule decides who may go from the state to the state: it is the workflow's own rule for the
two, or the rule for every state where there is no own one. -/
inductive Governs (store : Store) (workflowId fromSid toSid : String) (rule : Rule) : Prop where
  | own (hkept : store.KeepsRule workflowId rule) (hfrom : rule.fromSid = fromSid)
      (hto : rule.toSid = toSid)
  | any (hkept : store.KeepsRule workflowId rule) (hfrom : rule.fromSid = "")
      (hto : rule.toSid = toSid)
      (hnone : ∀ other, store.KeepsRule workflowId other →
        ¬ (other.fromSid = fromSid ∧ other.toSid = toSid))

variable {store : Store} {workflowId fromSid toSid : String} {rule other : Rule}

/-- A governing rule is kept and leads to the state. -/
theorem Governs.kept (h : store.Governs workflowId fromSid toSid rule) :
    store.KeepsRule workflowId rule ∧ rule.toSid = toSid := by
  cases h with
  | own hkept _ hto => exact ⟨hkept, hto⟩
  | any hkept _ hto _ => exact ⟨hkept, hto⟩

/-- A rule governs a change exactly when it applies to the state that is left and leads to the state
that is reached. -/
theorem governs_iff :
    store.Governs workflowId fromSid toSid rule ↔
      rule ∈ (store.rulesOf workflowId).toList ∧
        (store.rulesOf workflowId).AppliesTo fromSid rule ∧ rule.toSid = toSid := by
  constructor
  · intro h
    refine ⟨mem_rules_of.2 h.kept.1, ?_, h.kept.2⟩
    cases h with
    | own _ hfrom _ => exact Or.inl hfrom
    | any _ hfrom hto hnone =>
        refine Or.inr ⟨hfrom, ?_⟩
        intro own hown hleft hreach
        exact hnone own (mem_rules_of.1 hown) ⟨hleft, hreach.trans hto⟩
  · rintro ⟨hmem, hfrom | ⟨hany, hnone⟩, hto⟩
    · exact .own (mem_rules_of.1 hmem) hfrom hto
    · refine .any (mem_rules_of.1 hmem) hany hto ?_
      intro other hother hpair
      exact hnone other (mem_rules_of.2 hother) hpair.1 (hpair.2.trans hto.symm)

/-- Two kept rules for the same two states are one rule. -/
theorem Keyed.single_rules (hkeys : store.Keyed) (workflowId : String) :
    store.SingleRules workflowId := by
  rintro rule other ⟨row, hrow, hworkflow, rfl⟩ ⟨otherRow, hotherRow, hotherWorkflow, rfl⟩ hfrom hto
  have hpair : (row.workflowId, row.fromSid, row.toSid) =
      (otherRow.workflowId, otherRow.fromSid, otherRow.toSid) := by
    rw [hworkflow, hotherWorkflow]
    exact congrArg (Prod.mk _) (Prod.ext hfrom hto)
  rw [List.inj_on_of_nodup_map hkeys.rule_pairs hrow hotherRow hpair]

/-- At most one rule governs a change. -/
theorem SingleRules.governs_unique (hsingle : store.SingleRules workflowId)
    (h : store.Governs workflowId fromSid toSid rule)
    (hother : store.Governs workflowId fromSid toSid other) : rule = other := by
  cases h with
  | own hkept hfrom hto =>
      cases hother with
      | own hkept' hfrom' hto' =>
          exact hsingle _ _ hkept hkept' (hfrom.trans hfrom'.symm) (hto.trans hto'.symm)
      | any _ _ _ hnone => exact absurd ⟨hfrom, hto⟩ (hnone rule hkept)
  | any hkept hfrom hto hnone =>
      cases hother with
      | own hkept' hfrom' hto' => exact absurd ⟨hfrom', hto'⟩ (hnone other hkept')
      | any hkept' hfrom' hto' _ =>
          exact hsingle _ _ hkept hkept' (hfrom.trans hfrom'.symm) (hto.trans hto'.symm)

end Store

namespace Platform

/-- Who may make the change of state that a transition asks for on an item. -/
inductive Authorized (platform : Platform) (store : Store) (item : Item) (force : Bool)
    (transition : Transition) : Prop where
  | forced (h : force = true ∨ transition.forced = true)
  | bypass (h : platform.mayBypass transition.agent transition.workflowId = true)
  | role (rule : Rule)
      (husable : (store.statesOf transition.workflowId).UsableFrom transition.fromSid)
      (hgoverns :
        store.Governs transition.workflowId transition.fromSid transition.toSid rule)
      (hroles : rule.roles.Intersects (platform.rolesOn transition.agent item))

variable {platform : Platform} {store : Store} {item : Item} {transition : Transition}

/-- The rule that the engine looks up governs the change. -/
theorem governs_of_find {rule : Rule}
    (h : ((store.rulesOf transition.workflowId).applying (store.statesOf transition.workflowId)
      transition.fromSid).toList.find? (·.toSid = transition.toSid) = some rule) :
    (store.statesOf transition.workflowId).UsableFrom transition.fromSid ∧
      store.Governs transition.workflowId transition.fromSid transition.toSid rule := by
  obtain ⟨husable, hmem, happlies, -⟩ := Rules.mem_applying.1 (List.mem_of_find?_eq_some h)
  exact ⟨husable, Store.governs_iff.2 ⟨hmem, happlies, by simpa using List.find?_some h⟩⟩

/-- What the engine permits is authorized. A state without an id is the one state that a rule for
every state does not lead away from. -/
theorem authorized_of_permits (hchanges : transition.ChangesState) (hto : transition.toSid ≠ "")
    (h : platform.permits store item transition = true) :
    platform.Authorized store item false transition := by
  simp only [permits, Bool.or_eq_true] at h
  rcases h with hforced | h
  · exact .forced (Or.inr hforced)
  · cases hfound : ((store.rulesOf transition.workflowId).applying
        (store.statesOf transition.workflowId) transition.fromSid).toList.find?
        (·.toSid = transition.toSid) with
    | none =>
        rw [hfound] at h
        exact .bypass h
    | some rule =>
        rw [hfound] at h
        obtain ⟨husable, hgoverns⟩ := governs_of_find hfound
        rcases of_decide_eq_true h with hforced | hbypass | hstays | hroles
        · exact .forced (Or.inr hforced)
        · exact .bypass hbypass
        · -- the rule leads to the state it leaves, so the transition would, too
          have hsame : rule.fromSid = transition.toSid := by
            rw [← hgoverns.kept.2]
            exact not_not.1 hstays
          cases hgoverns with
          | own _ hfrom _ => exact absurd (hfrom.symm.trans hsame) hchanges
          | any _ hany _ _ => exact absurd (hsame.symm.trans hany) hto
        · exact .role rule husable hgoverns hroles

/-- What is authorized is permitted by the engine, where the state to reach is known. -/
theorem permits_of_authorized (hkeys : store.Keyed)
    (hknown : (store.statesOf transition.workflowId).Known transition.toSid)
    (h : platform.Authorized store item false transition) :
    platform.permits store item transition = true := by
  simp only [permits, Bool.or_eq_true]
  cases h with
  | forced h => exact Or.inl (h.resolve_left (by simp))
  | bypass h =>
      right
      split
      · exact decide_eq_true (Or.inr (Or.inl h))
      · exact h
  | role rule husable hgoverns hroles =>
      right
      obtain ⟨hmem, happlies, hto⟩ := Store.governs_iff.1 hgoverns
      have happlying := Rules.mem_applying.2 ⟨husable, hmem, happlies, hto ▸ hknown⟩
      cases hfound : ((store.rulesOf transition.workflowId).applying
          (store.statesOf transition.workflowId) transition.fromSid).toList.find?
          (·.toSid = transition.toSid) with
      | none => exact absurd hto (by simpa using List.find?_eq_none.1 hfound rule happlying)
      | some found =>
          -- the engine takes the first rule that applies, and the keys leave only one to take
          have hsame : found = rule :=
            (hkeys.single_rules _).governs_unique (governs_of_find hfound).2 hgoverns
          exact decide_eq_true (Or.inr (Or.inr (Or.inr (hsame ▸ hroles))))

/-- The engine permits exactly the changes that are authorized. -/
theorem permits_iff (hkeys : store.Keyed) (hchanges : transition.ChangesState)
    (hto : transition.toSid ≠ "")
    (hknown : (store.statesOf transition.workflowId).Known transition.toSid) :
    platform.permits store item transition = true ↔
      platform.Authorized store item false transition :=
  ⟨authorized_of_permits hchanges hto, permits_of_authorized hkeys hknown⟩

/-- The surroundings of the small site: the first user is an editor, and every item can be saved. -/
def small : Platform where
  resolver := DirectGrants.resolver ⟨[(1, "editor")], []⟩
  hooks := .none
  saving := SaveOutcome.always
  clock := 10

end Platform

/-- The node of the small site. -/
def Item.small : Item :=
  ⟨⟨"node", 1⟩, some 2, 0, Dictionary.ofList [("field_state", "news_draft")], false⟩

/-- The transition that takes the node of the small site live, by an editor. -/
def Transition.small : Transition where
  id := 0
  workflowId := "news"
  fromSid := ""
  toSid := "news_live"
  target := ⟨"node", 1⟩
  fieldName := "field_state"
  agent := .user 1
  timestamp := 10
  comment := none
  attached := Dictionary.empty
  scheduled := false
  executed := false
  forced := false
  status := .new

/-- The user of the small site is an editor. -/
theorem Platform.editor_small {item : Item} : "editor" ∈ small.rolesOn (.user 1) item := by
  have heditor : "editor" ∈ small.resolver.roles (.user 1) :=
    DirectGrants.mem_roles_user.2 (Or.inr (List.mem_singleton_self _))
  unfold rolesOn
  split
  · exact RoleSet.mem_insert.2 (Or.inr heditor)
  · exact heditor

/-- An editor may take the node of the small site live. -/
theorem Platform.authorized_small {item : Item} {force : Bool} :
    small.Authorized Store.small item force { Transition.small with fromSid := "news_draft" } := by
  let rule : Rule :=
    { Rule.between "news" "news_draft" "news_live" with roles := RoleSet.ofList ["editor"] }
  refine .role rule ?_ ?_ ?_
  · exact Store.usable_from_of (Store.known_of_small rfl).1 (by decide)
  · exact .own ⟨_, List.mem_singleton_self _, rfl, RuleRow.to_rule_of _⟩ rfl rfl
  · exact ⟨"editor", List.mem_singleton_self _, editor_small⟩

end ContentWorkflow
