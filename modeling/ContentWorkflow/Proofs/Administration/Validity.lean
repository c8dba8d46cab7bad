import ContentWorkflow.Proofs.Runs.Following
import ContentWorkflow.Proofs.Runs.Offers

/-!
# Workflows that can be used

A workflow is checked for an active state and for a way out of its creation state. The way out is
looked for among the rules that leave the creation state by name, while an item in that state may
also use the rules for every state. The main theorem, `is_valid_iff`, says what the check finds in a
reachable store, and that it overlooks the way out exactly where only rules for every state lead out
(`OnlyByEvery`). `is_valid_overlooks` is a site where it does.
-/

namespace ContentWorkflow

namespace Store

variable {store : Store} {workflowId : String}

/-- Some state is listed as active exactly where one is in use. -/
theorem active_ne_nil_iff :
    ((store.statesOf workflowId).filter .active).toList ≠ [] ↔
      ∃ sid, store.InUse workflowId sid := by
  have hmem : ∀ {state : State},
      state ∈ ((store.statesOf workflowId).filter .active).toList ↔
        (state ∈ store.states ∧ state.workflowId = workflowId) ∧
          state.active = true ∧ ¬ state.creation = true := by
    simp [States.filter, statesOf, States.mem_of_list, State.Matches]
  constructor
  · intro hactive
    obtain ⟨state, hstate⟩ := List.exists_mem_of_ne_nil _ hactive
    obtain ⟨⟨hkept, hworkflow⟩, hactive, hcreation⟩ := hmem.1 hstate
    exact ⟨state.id, state, hkept, hworkflow, rfl, by simpa using hcreation, hactive⟩
  · rintro ⟨-, state, hstate, hworkflow, -, hcreation, hactive⟩
    exact List.ne_nil_of_mem (hmem.2 ⟨⟨hstate, hworkflow⟩, hactive, by simp [hcreation]⟩)

/-- The workflow has its creation state and rules for every state, but no rule that leaves the
creation state by name. -/
def OnlyByEvery (store : Store) (workflowId : String) : Prop :=
  (store.statesOf workflowId).Known (MachineName.creationStateId workflowId) ∧
    (∃ toSid, store.Links workflowId "" toSid) ∧
    ∀ toSid, ¬ store.Links workflowId (MachineName.creationStateId workflowId) toSid

namespace Consistent

/-- Items may leave the creation state wherever the workflow has one. -/
theorem usable_from_creation (h : store.Consistent) :
    (store.statesOf workflowId).UsableFrom (MachineName.creationStateId workflowId) ↔
      (store.statesOf workflowId).Known (MachineName.creationStateId workflowId) := by
  constructor
  · rintro ⟨state, hstate, -⟩
    exact Option.isSome_iff_exists.2 ⟨state, hstate⟩
  · intro hknown
    obtain ⟨state, hstate⟩ := Option.isSome_iff_exists.1 hknown
    obtain ⟨hkept, hworkflow, hid⟩ := state_kept hstate
    refine ⟨state, hstate, Or.inr ?_⟩
    by_contra hcreation
    refine h.reserved state hkept (by simpa using hcreation) ?_
    rw [hid, hworkflow]

/-- A state that a rule leaves by name is kept. -/
theorem left_known (h : store.Consistent) {fromSid toSid : String}
    (hlinks : store.Links workflowId fromSid toSid) (hfrom : fromSid ≠ "") :
    (store.statesOf workflowId).Known fromSid := by
  obtain ⟨row, hrow, rfl, rfl, -⟩ := hlinks
  exact (h.referenced.rule_from row hrow).resolve_left hfrom

/-- A rule is selected by the creation state exactly where one leaves it by name. -/
theorem select_creation_iff (h : store.Consistent) :
    ((store.rulesOf workflowId).select (store.statesOf workflowId)
        ⟨some (MachineName.creationStateId workflowId), none⟩).toList ≠ [] ↔
      ∃ toSid, store.Links workflowId (MachineName.creationStateId workflowId) toSid := by
  have hnamed : MachineName.creationStateId workflowId ≠ "" := MachineName.state_id_named
  rw [Rules.select_ne_nil_iff hnamed, h.usable_from_creation]
  constructor
  · rintro ⟨-, rule, hrule, hfrom⟩
    obtain ⟨row, hrow, hworkflow, rfl⟩ := mem_rules_of.1 hrule
    exact ⟨row.toSid, row, hrow, hworkflow, hfrom, rfl⟩
  · rintro ⟨toSid, hlinks⟩
    have hknown := h.left_known hlinks hnamed
    obtain ⟨row, hrow, hworkflow, hfrom, -⟩ := hlinks
    exact ⟨hknown, row.toRule, mem_rules_of.2 ⟨row, hrow, hworkflow, rfl⟩, hfrom⟩

/-- A rule applies to the creation state exactly where the workflow has the state and a rule that
leaves it by name or leaves every state. -/
theorem applying_creation_iff (h : store.Consistent) :
    ((store.rulesOf workflowId).applying (store.statesOf workflowId)
        (MachineName.creationStateId workflowId)).toList ≠ [] ↔
      (store.statesOf workflowId).Known (MachineName.creationStateId workflowId) ∧
        ∃ fromSid toSid, (fromSid = MachineName.creationStateId workflowId ∨ fromSid = "") ∧
          store.Links workflowId fromSid toSid := by
  rw [Rules.applying_ne_nil_iff, h.usable_from_creation]
  refine and_congr_right fun _ => ?_
  constructor
  · rintro ⟨rule, hrule, hfrom, -⟩
    obtain ⟨row, hrow, hworkflow, rfl⟩ := mem_rules_of.1 hrule
    exact ⟨row.fromSid, row.toSid, hfrom, row, hrow, hworkflow, rfl, rfl⟩
  · rintro ⟨-, -, hfrom, row, hrow, hworkflow, rfl, rfl⟩
    obtain ⟨state, hstate, hsame, hid, -⟩ := h.referenced.rule_to row hrow
    refine ⟨row.toRule, mem_rules_of.2 ⟨row, hrow, hworkflow, rfl⟩, hfrom, ?_⟩
    exact known_states_of.2 ⟨state, hstate, hsame.trans hworkflow, hid⟩

end Consistent

end Store

namespace Workflow

open ContentWorkflow.Action

variable {session : Session}

/-- A check is answered from the states that are listed as active and from the rules that are
selected by the creation state. It changes nothing, but it may log. -/
theorem is_valid_run (workflow : Workflow) (session : Session) :
    ∃ answer session', (workflow.isValid).run session = (.ok answer, session') ∧
      session'.store = session.store ∧ session'.context = session.context ∧
      (answer = true ↔ ((session.store.statesOf workflow.id).filter .active).toList ≠ [] ∧
        ((session.store.rulesOf workflow.id).select (session.store.statesOf workflow.id)
          ⟨some (MachineName.creationStateId workflow.id), none⟩).toList ≠ []) := by
  have hstates : (workflow.states .active).run session =
      (.ok ((session.store.statesOf workflow.id).filter .active), session) := rfl
  have hrules : ∀ middle : Session,
      (workflow.rules ⟨some (MachineName.creationStateId workflow.id), none⟩).run middle =
        (.ok ((middle.store.rulesOf workflow.id).select (middle.store.statesOf workflow.id)
          ⟨some (MachineName.creationStateId workflow.id), none⟩), middle) := fun _ => rfl
  rw [isValid, run_bind, hstates]
  dsimp only
  rw [run_log_if, run_bind, hrules]
  dsimp only
  rw [run_log_if]
  refine ⟨_, _, rfl, ?_, ?_, ?_⟩
  · simp [apply_ite Session.store, Session.note]
  · simp [apply_ite Session.context, Session.note]
  · simp [apply_ite Session.store, Session.note]

/-- In a reachable store a check changes nothing, and it finds the workflow valid exactly where a
state is in use and some rule leaves the creation state by name. So it tells whether a state is in
use and some rule applies to the creation state, unless a state is in use and only rules for every
state lead out. -/
theorem is_valid_iff (hreach : session.store.Reachable) (workflow : Workflow) :
    ∃ answer session', (workflow.isValid).run session = (.ok answer, session') ∧
      session'.store = session.store ∧ session'.context = session.context ∧
      (answer = true ↔ (∃ sid, session.store.InUse workflow.id sid) ∧
        ∃ toSid, session.store.Links workflow.id (MachineName.creationStateId workflow.id) toSid) ∧
      ((answer = true ↔ (∃ sid, session.store.InUse workflow.id sid) ∧
          ((session.store.rulesOf workflow.id).applying (session.store.statesOf workflow.id)
            (MachineName.creationStateId workflow.id)).toList ≠ []) ↔
        ¬ ((∃ sid, session.store.InUse workflow.id sid) ∧
          session.store.OnlyByEvery workflow.id)) := by
  have hconsistent := hreach.consistent
  obtain ⟨answer, session', hrun, hstore, hcontext, hanswer⟩ := is_valid_run workflow session
  rw [Store.active_ne_nil_iff, hconsistent.select_creation_iff] at hanswer
  refine ⟨answer, session', hrun, hstore, hcontext, hanswer, ?_⟩
  rw [hanswer, hconsistent.applying_creation_iff]
  constructor
  · rintro hagrees ⟨hused, hknown, ⟨toSid, hevery⟩, hnone⟩
    obtain ⟨-, ownSid, hown⟩ := hagrees.2 ⟨hused, hknown, "", toSid, Or.inr rfl, hevery⟩
    exact hnone ownSid hown
  · intro hnot
    refine and_congr_right fun hused => ⟨?_, ?_⟩
    · rintro ⟨toSid, hown⟩
      exact ⟨hconsistent.left_known hown MachineName.state_id_named, _, toSid, Or.inl rfl, hown⟩
    · rintro ⟨hknown, fromSid, toSid, hfrom, hlinks⟩
      rcases hfrom with rfl | rfl
      · exact ⟨toSid, hlinks⟩
      · by_contra hnone
        exact hnot ⟨hused, hknown, ⟨toSid, hlinks⟩, not_exists.1 hnone⟩

end Workflow

/-! ## Ways out of a creation state -/

namespace Store

/-- The small site with a further rule to its draft state. -/
def drafted (fromSid : String) : Store :=
  { small with rules := small.rules ++ [.of (.between "news" fromSid "news_draft")] }

/-- The small site can have such a rule from its creation state and from every state. -/
theorem reachable_drafted {fromSid : String} (hfrom : fromSid = "" ∨ fromSid = "news_creation") :
    (drafted fromSid).Reachable := by
  refine Session.reachable_small.with_rule ⟨?_, hfrom.imp_right ?_⟩ ?_ ?_
  · exact ⟨.ofLabel "news" "news_draft" "Draft" 1, by decide⟩
  · rintro rfl
    exact known_states_of.2 ⟨.creationOf "news", by decide, rfl, rfl⟩
  · rintro ⟨row, hrow, -, hid⟩
    cases List.mem_singleton.1 hrow
    rcases hfrom with rfl | rfl <;> exact absurd hid (by decide +kernel)
  · exact List.forall_mem_singleton.2 fun hends => absurd hends.2 (by decide)

/-- The small site has the rule then. -/
theorem links_drafted (fromSid : String) :
    (drafted fromSid).Links "news" fromSid "news_draft" :=
  ⟨.of (.between "news" fromSid "news_draft"), List.mem_append_right _ (List.mem_singleton.2 rfl),
    rfl, rfl, rfl⟩

end Store

namespace Workflow

/-- The small site is valid with a rule from its creation state. -/
theorem is_valid_iff_drafted :
    (Store.drafted "news_creation").Reachable ∧
      ∃ session', small.isValid.run ⟨.drafted "news_creation", .empty, []⟩ = (.ok true, session') ∧
        session'.store = .drafted "news_creation" := by
  have hreach := Store.reachable_drafted (Or.inr rfl)
  obtain ⟨answer, session', hrun, hstore, -, hanswer, -⟩ :=
    @is_valid_iff ⟨.drafted "news_creation", .empty, []⟩ hreach small
  obtain rfl : answer = true := hanswer.2
    ⟨⟨"news_draft", by decide⟩, "news_draft", Store.links_drafted "news_creation"⟩
  exact ⟨hreach, session', hrun, hstore⟩

/-- With a rule for every state the small site is not found valid, though its draft state is in use
and the rule applies to its creation state. -/
theorem is_valid_overlooks :
    (Store.drafted "").Reachable ∧
      (∃ session', small.isValid.run ⟨.drafted "", .empty, []⟩ = (.ok false, session')) ∧
      (Store.drafted "").InUse "news" "news_draft" ∧
      (((Store.drafted "").rulesOf "news").applying ((Store.drafted "").statesOf "news")
        (MachineName.creationStateId "news")).toList ≠ [] := by
  have hreach := Store.reachable_drafted (Or.inl rfl)
  have hconsistent := hreach.consistent
  refine ⟨hreach, ?_, by decide, hconsistent.applying_creation_iff.2 ⟨?_, ?_⟩⟩
  · obtain ⟨answer, session', hrun, -, -, hanswer⟩ :=
      is_valid_run small ⟨.drafted "", .empty, []⟩
    obtain rfl : answer = false := by
      rw [← Bool.not_eq_true, hanswer, hconsistent.select_creation_iff]
      rintro ⟨-, toSid, row, hrow, -, hfrom, -⟩
      obtain hrow | hrow := List.mem_append.1 hrow <;> cases List.mem_singleton.1 hrow
      · exact absurd hfrom (by decide)
      · exact absurd hfrom (by decide)
    exact ⟨session', hrun⟩
  · exact Store.known_states_of.2 ⟨.creationOf "news", by decide, rfl, rfl⟩
  · exact ⟨"", "news_draft", Or.inr rfl, Store.links_drafted ""⟩

end Workflow

end ContentWorkflow
