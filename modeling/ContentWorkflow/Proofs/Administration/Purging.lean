import ContentWorkflow.Proofs.Runs.Offers

/-!
# Purging states

A purge looks up the rules of its workflow that have the state at one of their ends and drops them
by their ids, and it drops the history of the state by the id alone. In a reachable store that hits
the rules and records that name the state and no others, because a rule names states of its own
workflow only (`Referenced.touching_workflow`). The main theorem, `purge_state_clears`, says what is
answered and what is left.
-/

namespace ContentWorkflow

namespace Store

variable {store : Store} {workflowId sid : String}

/-! ## The rules of a state -/

/-- The rules of the workflow that touch a state are those of its rows, in another order. -/
theorem touching_perm (store : Store) (workflowId sid : String) :
    (store.touching workflowId sid).Perm
      ((store.rules.filter fun row => row.workflowId = workflowId ∧ row.toRule.Touches sid).map
        (·.toRule)) := by
  refine ((List.mergeSort_perm _ _).filter _).trans (List.Perm.of_eq ?_)
  rw [List.filter_map, List.filter_filter]
  congr 2
  funext row
  simp [Bool.and_comm]

/-- Dropping the rules that touch a state counts the rows of the workflow that touch it. -/
theorem Keyed.drop_touching_run (hkeys : store.Keyed) (workflowId sid : String)
    (context : RequestContext) (log : List LogLine) :
    (Workflow.dropRules (store.touching workflowId sid)).run ⟨store, context, log⟩ =
      (.ok (store.rules.countP fun row => row.workflowId = workflowId ∧ row.toRule.Touches sid),
        ⟨{ store with rules := store.rules.filter fun row =>
          ¬ (row.workflowId = workflowId ∧ row.toRule.Touches sid) }, context, log⟩) := by
  obtain ⟨dropped, hrun, hcount⟩ :=
    Workflow.drop_rules_run (store.touching workflowId sid) ⟨store, context, log⟩
  have hperm := store.touching_perm workflowId sid
  have hids : ((store.touching workflowId sid).map (·.id)).Nodup := by
    rw [(hperm.map _).nodup_iff, List.map_map]
    exact nodup_drop_rows _ hkeys.rules
  have hkept : ∀ rule ∈ store.touching workflowId sid, ∃ row ∈ store.rules, row.id = rule.id := by
    intro rule hrule
    obtain ⟨row, hrow, rfl⟩ := List.mem_map.1 (hperm.mem_iff.1 hrule)
    exact ⟨row, (List.mem_filter.1 hrow).1, rfl⟩
  rw [hrun, hcount hids hkept, hperm.length_eq, List.length_map, List.countP_eq_length_filter]
  dsimp only
  rw [hkeys.untouched_rules]

/-- A rule that has a state of a workflow at one of its ends is a rule of the workflow. -/
theorem Referenced.touching_workflow (hkeys : store.Keyed) (hnames : store.Referenced)
    (hknown : (store.statesOf workflowId).Known sid) (hsid : sid ≠ "") {row : RuleRow}
    (hrow : row ∈ store.rules) (htouches : row.toRule.Touches sid) :
    row.workflowId = workflowId := by
  rcases htouches with hfrom | hto
  · have hfrom : row.fromSid = sid := hfrom
    have hleft := (hnames.rule_from row hrow).resolve_left (hfrom ▸ hsid)
    exact hkeys.known_unique hknown (hfrom ▸ hleft)
  · have hto : row.toSid = sid := hto
    obtain ⟨state, hstate, hworkflow, hid, -⟩ := hnames.rule_to row hrow
    exact hkeys.known_unique hknown (known_states_of.2 ⟨state, hstate, hworkflow, hid.trans hto⟩)

/-- The store without the state and without everything that names it. -/
def without (store : Store) (sid : String) : Store :=
  { store with
    states := store.states.filter (·.id ≠ sid)
    rules := store.rules.filter fun row => ¬ row.toRule.Touches sid
    history := store.history.filter fun record => ¬ record.Touches sid }

end Store

/-! ## Purges -/

namespace Workflow

open ContentWorkflow.Action

variable {workflow : Workflow} {session : Session}

/-- A state that is not active is purged with the rules of its workflow that touch it and with the
history that does. -/
theorem purge_state_found (hkeys : session.store.Keyed) {state : State}
    (hstate : state ∈ session.store.states) (hworkflow : state.workflowId = workflow.id)
    (hinactive : state.active = false) :
    ∃ session', (workflow.purgeState state.id).run session =
        (.ok ⟨session.store.rules.countP fun row =>
            row.workflowId = workflow.id ∧ row.toRule.Touches state.id,
          session.store.history.countP fun record => record.Touches state.id⟩, session') ∧
      session'.context = session.context ∧
      session'.store = { (session.store.purgeHistory state.id).dropState state.id with
        rules := session.store.rules.filter fun row =>
          ¬ (row.workflowId = workflow.id ∧ row.toRule.Touches state.id) } := by
  have hfound := hkeys.state_found hstate
  rw [hworkflow] at hfound
  rw [purgeState, run_bind, state_run, hfound]
  dsimp only
  rw [if_neg (by simp [hinactive]), run_bind, rules_touching_run]
  dsimp only
  rw [run_bind, hkeys.drop_touching_run]
  simp only [List.countP_eq_length_filter]
  exact ⟨_, rfl, rfl, rfl⟩

/-- In a reachable store purging a state is refused and changes nothing where the workflow does not
have it or it is active. Otherwise it answers how many rules and records have the state at one of
their ends, and leaves the store as it was but without the state and without these. -/
theorem purge_state_clears (hreach : session.store.Reachable) (workflow : Workflow) (sid : String) :
    ((∀ state ∈ session.store.states, state.workflowId = workflow.id → state.id ≠ sid) →
        (workflow.purgeState sid).run session =
          (.error (.misuse (.unknownState sid)), session)) ∧
      ∀ state ∈ session.store.states, state.workflowId = workflow.id → state.id = sid →
        (state.active = true → (workflow.purgeState sid).run session =
            (.error (.misuse (.stateActive sid)), session)) ∧
          (state.active = false → ∃ session', (workflow.purgeState sid).run session =
              (.ok ⟨session.store.rules.countP fun row => row.toRule.Touches sid,
                session.store.history.countP fun record => record.Touches sid⟩, session') ∧
            session'.context = session.context ∧
            session'.store = session.store.without sid) := by
  have hkeys := hreach.keyed
  refine ⟨fun hnone => ?_, fun state hstate hworkflow hid => ⟨fun hactive => ?_, ?_⟩⟩
  · have hunknown : (session.store.statesOf workflow.id).get? sid = none := by
      refine List.find?_eq_none.2 fun state hstate hid => ?_
      obtain ⟨hkept, hworkflow⟩ := List.mem_filter.1 (States.mem_of_list.1 hstate)
      exact hnone state hkept (of_decide_eq_true hworkflow) (of_decide_eq_true hid)
    rw [purgeState, run_bind, state_run, hunknown]
  · have hfound := hkeys.state_found hstate
    rw [hworkflow, hid] at hfound
    rw [purgeState, run_bind, state_run, hfound]
    dsimp only
    rw [if_pos hactive, hid]
    rfl
  · subst hid
    intro hinactive
    have hknown := Store.known_states_of.2 ⟨state, hstate, hworkflow, rfl⟩
    have hown : ∀ row ∈ session.store.rules,
        (row.workflowId = workflow.id ∧ row.toRule.Touches state.id ↔
          row.toRule.Touches state.id) := by
      intro row hrow
      exact and_iff_right_of_imp
        (hreach.referenced.touching_workflow hkeys hknown (hreach.named state hstate) hrow)
    have hcount : (session.store.rules.countP fun row =>
          row.workflowId = workflow.id ∧ row.toRule.Touches state.id) =
        session.store.rules.countP fun row => row.toRule.Touches state.id :=
      List.countP_congr fun row hrow => by simpa using hown row hrow
    have hrows : (session.store.rules.filter fun row =>
          ¬ (row.workflowId = workflow.id ∧ row.toRule.Touches state.id)) =
        session.store.rules.filter fun row => ¬ row.toRule.Touches state.id :=
      List.filter_congr fun row hrow => decide_eq_decide.2 (not_congr (hown row hrow))
    obtain ⟨session', hrun, hcontext, hstore⟩ :=
      purge_state_found hkeys hstate hworkflow hinactive
    rw [hcount] at hrun
    rw [hrows] at hstore
    exact ⟨session', hrun, hcontext, hstore⟩

end Workflow

/-! ## A state to purge -/

/-- The small site with its live state out of use, and a rule that was created for it after that. -/
def Store.relinked : Store :=
  { small.setState Session.shelved with rules := [.of (.between "news" "news_draft" "news_live")] }

namespace Session

/-- The site with the rule is reachable. -/
theorem reachable_relinked : Store.relinked.Reachable := by
  obtain ⟨small, hsmall, hwithdrawn⟩ := reachable_small.after withdrawing
  rw [withdrawing_store hsmall] at hwithdrawn
  refine hwithdrawn.with_rule ⟨⟨shelved, by decide⟩, Or.inr ?_⟩ (by simp [Store.Collides]) (by simp)
  exact Store.known_states_of.2 ⟨.ofLabel "news" "news_draft" "Draft" 1, by decide, rfl, rfl⟩

/-- The call that takes the node of the small site live by force. -/
def forcing : Call :=
  ⟨.small, some .empty, .update true .small⟩

/-- The node arrives in the state that is out of use when it is forced there. -/
theorem forcing_arrives (context : RequestContext) (log : List LogLine) :
    ∃ reached, Platform.small.Arrived ⟨.relinked, .empty, log⟩ .small true
      { Transition.small with fromSid := "news_draft" } reached
      (forcing.after ⟨.relinked, context, log⟩) := by
  have hdraft : (Store.relinked.statesOf "news").Known "news_draft" :=
    Store.known_states_of.2 ⟨.ofLabel "news" "news_draft" "Draft" 1, by decide, rfl, rfl⟩
  have hlive : (Store.relinked.statesOf "news").Known "news_live" :=
    Store.known_states_of.2 ⟨shelved, by decide, rfl, rfl⟩
  have hcleared : Platform.small.Cleared ⟨.relinked, .empty, log⟩ .small true
      { Transition.small with fromSid := "news_draft" } :=
    Platform.cleared_of_forced (by decide) hdraft hlive
      (Store.current_sid_of_field (by decide) "news").symm rfl (by decide) fun _ _ => rfl
  exact @Call.after_admitted forcing ⟨.relinked, context, log⟩ true .small .small rfl
    reachable_relinked.keyed rfl rfl rfl
    (hcleared.admitted reachable_relinked.keyed fun _ _ => rfl)

end Session

/-- The state that is out of use is purged with its rule and with the record of the node that was
forced there. -/
theorem Workflow.purge_state_clears_forced :
    ∃ session : Session, session.store.Reachable ∧
      (∃ state ∈ session.store.states, state.workflowId = small.id ∧ state.id = "news_live" ∧
        state.active = false) ∧
      ∃ session', (small.purgeState "news_live").run session = (.ok ⟨1, 1⟩, session') ∧
        session'.store = session.store.without "news_live" := by
  obtain ⟨⟨store, context, log⟩, hstore, hreach⟩ :=
    Session.reachable_relinked.after Session.forcing
  obtain rfl : store = .relinked := hstore
  obtain ⟨reached, harrived⟩ := Session.forcing_arrives context log
  generalize Session.forcing.after ⟨.relinked, context, log⟩ = forced at hreach harrived
  have hstates : forced.store.states = Store.relinked.states := harrived.states
  have hrules : forced.store.rules = Store.relinked.rules := harrived.rules
  have hhistory := harrived.history
  rw [harrived.executed, if_neg (by decide)] at hhistory
  have hshelved : Session.shelved ∈ forced.store.states := hstates ▸ by decide
  obtain ⟨session', hrun, -, hcleared⟩ :=
    ((purge_state_clears hreach small "news_live").2 _ hshelved rfl rfl).2 rfl
  rw [hrules, hhistory] at hrun
  exact ⟨forced, hreach, ⟨_, hshelved, rfl, rfl, rfl⟩, session', hrun, hcleared⟩

end ContentWorkflow
