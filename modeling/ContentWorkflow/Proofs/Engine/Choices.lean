import ContentWorkflow.Engine.Choices
import ContentWorkflow.Proofs.Engine.Permission
import ContentWorkflow.Proofs.Runs.Action

/-!
# Choices and permission

Which states an agent is offered is worked out from all the rules that apply, and whether a change
of state is permitted from the first one. The two agree: where a state to leave is given, an agent
who may not pass over the rules is permitted exactly what is offered (`permits_iff_offered`). Where
none is given, every usable state of the workflow is offered, also to an agent who is permitted
nothing (`offered_unpermitted`).
-/

namespace ContentWorkflow

namespace Store

variable {store : Store} {workflow : Workflow} {fromSid toSid : String} {rule : Rule}

/-- The rules that apply to a state are those that govern a change from it to a known state. -/
theorem applying_iff :
    rule ∈ ((store.rulesOf workflow.id).applying (store.statesOf workflow.id) fromSid).toList ∧
        rule.toSid = toSid ↔
      (store.statesOf workflow.id).UsableFrom fromSid ∧ (store.statesOf workflow.id).Known toSid ∧
        store.Governs workflow.id fromSid toSid rule := by
  rw [Rules.mem_applying, governs_iff]
  constructor
  · rintro ⟨⟨husable, hmem, happlies, hknown⟩, rfl⟩
    exact ⟨husable, hknown, hmem, happlies, rfl⟩
  · rintro ⟨husable, hknown, hmem, happlies, rfl⟩
    exact ⟨⟨husable, hmem, happlies, hknown⟩, rfl⟩

end Store

namespace Platform

open ContentWorkflow.Action

variable {platform : Platform} {store : Store} {workflow : Workflow} {item : Item}
  {fieldName fromSid toSid : String} {agent : Agent} {force : Bool} {transition : Transition}
  {session : Session}

/-- Some rule lets the agent take the item from the state to the state. -/
def Leads (platform : Platform) (store : Store) (workflow : Workflow) (item : Item) (agent : Agent)
    (fromSid toSid : String) (bypass force : Bool) : Prop :=
  ∃ rule, ((store.statesOf workflow.id).UsableFrom fromSid ∧
      (store.statesOf workflow.id).Known toSid ∧ store.Governs workflow.id fromSid toSid rule) ∧
    rule.Allows (platform.rolesOn agent item) bypass force

/-- Where a state to leave is given, a state is offered when some rule leads there that the agent
may use. -/
theorem offered_iff (hfrom : fromSid ≠ "") :
    (∃ choice ∈ platform.choicesOf store workflow item agent fromSid force, choice.sid = toSid) ↔
      platform.Leads store workflow item agent fromSid toSid
        (force || platform.mayBypass agent workflow.id) force := by
  rw [choicesOf, if_neg hfrom]
  constructor
  · rintro ⟨choice, hchoice, rfl⟩
    obtain ⟨rule, hrule, hmap⟩ := List.mem_filterMap.1 hchoice
    obtain ⟨hmem, hallows⟩ := List.mem_filter.1 hrule
    obtain ⟨state, hstate, rfl⟩ := Option.map_eq_some_iff.1 hmap
    have hid : rule.toSid = state.id := by
      simpa [eq_comm] using List.find?_some hstate
    exact ⟨rule, Store.applying_iff.1 ⟨hmem, hid⟩, of_decide_eq_true hallows⟩
  · rintro ⟨rule, happlies, hallows⟩
    obtain ⟨hmem, rfl⟩ := Store.applying_iff.2 happlies
    obtain ⟨state, hstate⟩ := Option.isSome_iff_exists.1 happlies.2.1
    refine ⟨⟨state.id, rule.label.getD state.label⟩, List.mem_filterMap.2 ⟨rule, ?_, ?_⟩, ?_⟩
    · exact List.mem_filter.2 ⟨hmem, decide_eq_true hallows⟩
    · rw [hstate]
      rfl
    · simpa using List.find?_some hstate

/-- A change that is not forced is permitted to those who may pass over the rules, and to those whom
some rule lets make it. -/
theorem permits_iff_leads (hsingle : store.SingleRules workflow.id)
    (hworkflow : transition.workflowId = workflow.id) (hforced : transition.forced = false) :
    platform.permits store item transition = true ↔
      platform.mayBypass transition.agent workflow.id = true ∨
        platform.Leads store workflow item transition.agent transition.fromSid transition.toSid
          (platform.mayBypass transition.agent workflow.id) false := by
  simp only [permits, hforced, Bool.false_or, hworkflow]
  cases hfound : ((store.rulesOf workflow.id).applying (store.statesOf workflow.id)
      transition.fromSid).toList.find? (·.toSid = transition.toSid) with
  | none =>
      refine ⟨Or.inl, fun h => h.resolve_right ?_⟩
      rintro ⟨rule, happlies, -⟩
      obtain ⟨hmem, hto⟩ := Store.applying_iff.2 happlies
      exact absurd hto (by simpa using List.find?_eq_none.1 hfound rule hmem)
  | some found =>
      have happlies := Store.applying_iff.1
        ⟨List.mem_of_find?_eq_some hfound, by simpa using List.find?_some hfound⟩
      simp only [decide_eq_true_eq]
      constructor
      · intro hallows
        exact Or.inr ⟨found, happlies, hallows⟩
      · rintro (hbypass | ⟨rule, happlies', hallows⟩)
        · exact Or.inr (Or.inl hbypass)
        · rwa [hsingle.governs_unique happlies.2.2 happlies'.2.2]

/-- Choices that the request does not remember are worked out. -/
theorem choices_run (platform : Platform)
    (hfresh : session.context.choices? ⟨item.target, fieldName, fromSid, agent, force⟩ = none)
    (hbound : session.store.workflowForField? item.target.entityType fieldName = some workflow) :
    ∃ session', (platform.choices item fieldName agent fromSid force).run session =
      (.ok (platform.choicesOf session.store workflow item agent fromSid force), session') := by
  have hworkflow : session.store.boundWorkflow item.target.entityType fieldName = .ok workflow := by
    rw [Store.boundWorkflow, hbound]
  have hget : (get : Action Session).run session = (.ok session, session) := rfl
  simp only [choices, run_bind, hget, hfresh, run_store, hworkflow]
  exact ⟨_, rfl⟩

/-- In a workflow with at most one rule for every two states, an agent who may not pass over the
rules is permitted exactly the changes that are offered to it, and one who may is permitted all. -/
theorem permits_iff_offered (hsingle : session.store.SingleRules workflow.id)
    (hbound : session.store.workflowForField? item.target.entityType fieldName = some workflow)
    (hfresh : session.context.choices?
      ⟨item.target, fieldName, transition.fromSid, transition.agent, false⟩ = none)
    (hworkflow : transition.workflowId = workflow.id) (hforced : transition.forced = false)
    (hfrom : transition.fromSid ≠ "") :
    ∃ found session',
      (platform.choices item fieldName transition.agent transition.fromSid false).run session =
          (.ok found, session') ∧
        (platform.permits session.store item transition = true ↔
          platform.mayBypass transition.agent workflow.id = true ∨
            ∃ choice ∈ found, choice.sid = transition.toSid) := by
  obtain ⟨session', hrun⟩ := platform.choices_run hfresh hbound
  refine ⟨_, session', hrun, ?_⟩
  rw [offered_iff hfrom, permits_iff_leads hsingle hworkflow hforced, Bool.false_or]

/-- The field of the small site is bound to its workflow. -/
theorem bound_small :
    Store.small.workflowForField? "node" "field_state" = some .small := by
  have hid : (WorkflowRow.of .small).id = "news" := rfl
  simp [Store.workflowForField?, Store.binding?, Store.workflow?, Store.small, hid]

/-- Nobody may pass over the rules of the small site. -/
theorem may_bypass_small (agent : Agent) : small.mayBypass agent "news" = false := by
  refine Bool.eq_false_iff.2 fun h => ?_
  obtain ⟨_, -, hgranted⟩ := DirectGrants.has_capability_iff.1 h
  exact absurd hgranted List.not_mem_nil

/-- An editor may take the node of the small site live, and so is offered to. -/
theorem permits_iff_offered_small :
    ∃ found session',
      (small.choices .small "field_state" (.user 1) "news_draft" false).run ⟨.small, .empty, []⟩ =
          (.ok found, session') ∧
        ∃ choice ∈ found, choice.sid = "news_live" := by
  obtain ⟨found, session', hrun, hpermits⟩ := @permits_iff_offered small .small .small
    "field_state" { Transition.small with fromSid := "news_draft" } ⟨.small, .empty, []⟩
    (Store.keyed_small.single_rules _) bound_small rfl rfl rfl (by decide)
  have hpermitted := permits_of_authorized Store.keyed_small (Store.known_of_small rfl).2
    (@authorized_small .small false)
  refine ⟨found, session', hrun, (hpermits.1 hpermitted).resolve_left ?_⟩
  exact Bool.eq_false_iff.1 (may_bypass_small _)

/-- Where no state to leave is given, an agent without roles is offered to take the node of the
small site live, and is not permitted to. -/
theorem offered_unpermitted :
    Store.small.SingleRules "news" ∧
      ∃ found session',
        (small.choices .small "field_state" .anonymous "" false).run ⟨.small, .empty, []⟩ =
            (.ok found, session') ∧
          (∃ choice ∈ found, choice.sid = "news_live") ∧
          small.mayBypass .anonymous "news" = false ∧
          small.permits .small .small { Transition.small with agent := .anonymous } = false := by
  have hsingle : Store.small.SingleRules "news" := Store.keyed_small.single_rules _
  obtain ⟨session', hrun⟩ := @choices_run .small .small "field_state" ""
    .anonymous false ⟨.small, .empty, []⟩ small rfl bound_small
  refine ⟨hsingle, _, session', hrun, ?_, may_bypass_small _, ?_⟩
  · refine ⟨⟨"news_live", "Live"⟩, List.mem_map.2
      ⟨.ofLabel "news" "news_live" "Live" 2, ?_, rfl⟩, rfl⟩
    refine States.mem_of_list.2 (List.mem_filter.2 ⟨States.mem_of_list.2 ?_, by decide⟩)
    exact List.mem_filter.2 ⟨by decide, by decide⟩
  · refine Bool.eq_false_iff.2 fun hpermitted => ?_
    obtain hbypass | ⟨-, ⟨⟨state, hstate, -⟩, -, -⟩, -⟩ :=
      (@permits_iff_leads small .small .small .small
        { Transition.small with agent := .anonymous } hsingle rfl rfl).1 hpermitted
    · exact Bool.eq_false_iff.1 (may_bypass_small _) hbypass
    · -- no rule leaves a state without an id, because there is none
      have hnamed : ∀ state ∈ Store.small.states, state.id ≠ "" := by decide
      obtain ⟨other, hother, -, hid⟩ :=
        Store.known_states_of.1 (Option.isSome_iff_exists.2 ⟨_, hstate⟩)
      exact hnamed other hother hid

end Platform

end ContentWorkflow
