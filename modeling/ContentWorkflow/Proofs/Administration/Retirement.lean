import ContentWorkflow.Administration.States
import ContentWorkflow.Proofs.Runs.Action
import ContentWorkflow.Proofs.Store.Keys

/-!
# Taking states out of use

What is left of a state that is deactivated without moving its items (`deactivate_state_run`), and
what a purge leaves (`purge_state_run`): the rules of the workflow go that have the state at one of
their ends, the history that has it goes, and then the state goes. Content is not looked at, so
items stay where they are.
-/

namespace ContentWorkflow

namespace Store

variable {store : Store} {workflowId sid : String}

/-- A state is found under its id and its workflow. -/
theorem Keyed.state_found (hkeys : store.Keyed) {state : State} (hstate : state ∈ store.states) :
    (store.statesOf state.workflowId).get? state.id = some state := by
  refine find_only (States.mem_of_list.2 (List.mem_filter.2 ⟨hstate, by simp⟩)) (by simp) ?_
  intro other hother hid
  have hkept : other ∈ store.states := (List.mem_filter.1 (States.mem_of_list.1 hother)).1
  exact List.inj_on_of_nodup_map hkeys.states hkept hstate (of_decide_eq_true hid)

/-- The rules of the workflow that have the state at one of their ends. -/
def touching (store : Store) (workflowId sid : String) : List Rule :=
  (store.rulesOf workflowId).toList.filter fun rule => rule.Touches sid

/-- Where the rules that touch a state were dropped, none is left. -/
theorem dropped_untouched {row : RuleRow}
    (hrow : row ∈ store.rules.filter fun row =>
      ∀ rule ∈ store.touching workflowId sid, row.id ≠ rule.id) :
    row ∈ store.rules ∧ ¬ (row.workflowId = workflowId ∧ row.toRule.Touches sid) := by
  obtain ⟨hkept, hdropped⟩ := List.mem_filter.1 hrow
  refine ⟨hkept, ?_⟩
  rintro ⟨hworkflow, htouches⟩
  refine absurd rfl (of_decide_eq_true hdropped row.toRule (List.mem_filter.2 ⟨?_, ?_⟩))
  · exact mem_rules_of.2 ⟨row, hkept, hworkflow, rfl⟩
  · exact decide_eq_true htouches

/-- Dropping the rules of the workflow that touch a state by their ids drops these and no others. -/
theorem Keyed.untouched_rules (hkeys : store.Keyed) :
    (store.rules.filter fun row => ∀ rule ∈ store.touching workflowId sid, row.id ≠ rule.id) =
      store.rules.filter fun row => ¬ (row.workflowId = workflowId ∧ row.toRule.Touches sid) := by
  refine List.filter_congr fun row hrow => decide_eq_decide.2 ?_
  constructor
  · intro hkept
    exact (dropped_untouched (List.mem_filter.2 ⟨hrow, decide_eq_true hkept⟩)).2
  · intro huntouched rule hrule hid
    obtain ⟨hrule, htouches⟩ := List.mem_filter.1 hrule
    obtain ⟨other, hother, hworkflow, rfl⟩ := mem_rules_of.1 hrule
    obtain rfl := List.inj_on_of_nodup_map hkeys.rules hrow hother hid
    exact huntouched ⟨hworkflow, of_decide_eq_true htouches⟩

/-- The purge of a state, as it leaves the store behind. -/
structure Purged (store : Store) (workflowId sid : String) (store' : Store) : Prop where
  found : ∃ state ∈ store.states,
    state.workflowId = workflowId ∧ state.id = sid ∧ state.active = false
  rules : ∀ row ∈ store'.rules,
    row ∈ store.rules ∧ ¬ (row.workflowId = workflowId ∧ row.toRule.Touches sid)
  rest : store' = { (store.purgeHistory sid).dropState sid with rules := store'.rules }

end Store

namespace Workflow

open ContentWorkflow.Action

variable {workflow : Workflow} {sid : String} {session : Session}

/-- A state of the workflow is found, and any other is a fault. -/
theorem state_run (workflow : Workflow) (sid : String) (session : Session) :
    (workflow.state sid).run session =
      match (session.store.statesOf workflow.id).get? sid with
      | some state => (.ok state, session)
      | none => (.error (.misuse (.unknownState sid)), session) := by
  rw [state, run_bind, run_store]
  dsimp only
  cases (session.store.statesOf workflow.id).get? sid with
  | some state => rfl
  | none => rfl

/-- The rules that touch a state are looked up. -/
theorem rules_touching_run (workflow : Workflow) (sid : String) (session : Session) :
    (workflow.rulesTouching sid).run session =
      (.ok (session.store.touching workflow.id sid), session) :=
  rfl

/-- The rule is no longer kept, and counted where it was. -/
def dropCounted (dropped : Nat) (rule : Rule) : Action Nat := do
  let kept := ((← Action.store).rule? rule.id).isSome
  Action.change (·.dropRule rule.id)
  return if kept then dropped + 1 else dropped

/-- Dropping rules one by one drops every row with the id of one of them, and counts as many as
there are rules where all are kept under different ids. -/
theorem drop_each_run (rules : List Rule) (start : Nat) (session : Session) :
    ∃ dropped, (rules.foldlM dropCounted start).run session =
      (.ok dropped, { session with store := { session.store with
        rules := session.store.rules.filter fun row => ∀ rule ∈ rules, row.id ≠ rule.id } }) ∧
      ((rules.map (·.id)).Nodup → (∀ rule ∈ rules, ∃ row ∈ session.store.rules, row.id = rule.id) →
        dropped = start + rules.length) := by
  induction rules generalizing start session with
  | nil => exact ⟨start, by simp; rfl, fun _ _ => rfl⟩
  | cons rule rules ih =>
      rw [List.foldlM_cons, run_bind]
      obtain ⟨dropped, hrest, hcount⟩ :=
        ih (if (session.store.rule? rule.id).isSome then start + 1 else start)
          { session with store := session.store.dropRule rule.id }
      have hrows : ((session.store.dropRule rule.id).rules.filter
          fun row => ∀ other ∈ rules, row.id ≠ other.id) =
          session.store.rules.filter fun row => ∀ other ∈ rule :: rules, row.id ≠ other.id := by
        rw [Store.dropRule, List.filter_filter]
        congr 1
        funext row
        simp [Bool.and_comm]
      rw [hrows] at hrest
      refine ⟨dropped, hrest, fun hids hkept => ?_⟩
      rw [List.map_cons, List.nodup_cons] at hids
      have hfound : (session.store.rule? rule.id).isSome := by
        simpa [Store.rule?] using hkept rule List.mem_cons_self
      -- the other rules are still kept, because they have other ids
      have hothers : ∀ other ∈ rules,
          ∃ row ∈ (session.store.dropRule rule.id).rules, row.id = other.id := by
        intro other hother
        obtain ⟨row, hrow, hid⟩ := hkept other (List.mem_cons_of_mem rule hother)
        have hne : row.id ≠ rule.id := by
          rw [hid]
          exact fun hsame => hids.1 (List.mem_map.2 ⟨other, hother, hsame⟩)
        exact ⟨row, List.mem_filter.2 ⟨hrow, decide_eq_true hne⟩, hid⟩
      rw [hcount hids.2 hothers, if_pos hfound, List.length_cons]
      omega

/-- Dropping rules drops every row with the id of one of them, and counts them all where they are
kept under different ids. -/
theorem drop_rules_run (rules : List Rule) (session : Session) :
    ∃ dropped, (dropRules rules).run session =
      (.ok dropped, { session with store := { session.store with
        rules := session.store.rules.filter fun row => ∀ rule ∈ rules, row.id ≠ rule.id } }) ∧
      ((rules.map (·.id)).Nodup → (∀ rule ∈ rules, ∃ row ∈ session.store.rules, row.id = rule.id) →
        dropped = rules.length) := by
  obtain ⟨dropped, hrun, hcount⟩ := drop_each_run rules 0 session
  exact ⟨dropped, hrun, by simpa using hcount⟩

/-- A purge is refused and changes nothing unless there is such a state that is not active, and then
it leaves the store without the state. -/
theorem purge_state_run (workflow : Workflow) (sid : String) (session : Session) :
    (∀ state, (session.store.statesOf workflow.id).get? sid = some state → state.active) ∧
        ((workflow.purgeState sid).run session).2.store = session.store ∨
      session.store.Purged workflow.id sid ((workflow.purgeState sid).run session).2.store := by
  rw [purgeState, run_bind, state_run]
  cases hstate : (session.store.statesOf workflow.id).get? sid with
  | none => exact Or.inl ⟨fun _ hfound => absurd hfound (Option.some_ne_none _).symm, rfl⟩
  | some state =>
      obtain rfl : state.id = sid := by simpa using List.find?_some hstate
      obtain ⟨hkept, hworkflow⟩ :=
        List.mem_filter.1 (States.mem_of_list.1 (List.mem_of_find?_eq_some hstate))
      dsimp only
      split
      · next hactive => exact Or.inl ⟨fun _ hfound => Option.some.inj hfound ▸ hactive, rfl⟩
      · next hactive =>
          right
          obtain ⟨dropped, hdrop, -⟩ :=
            drop_rules_run (session.store.touching workflow.id state.id) session
          rw [run_bind, rules_touching_run]
          dsimp only
          rw [run_bind, hdrop]
          exact ⟨⟨state, hkept, by simpa using hworkflow, rfl, by simpa using hactive⟩,
            fun row hrow => Store.dropped_untouched hrow, rfl⟩

/-- The rules of the state are dropped and it is no longer active, which is how it is taken out of
use once its items were moved. -/
def withdraw (workflow : Workflow) (state : State) (moved : Nat) : Action Nat := do
  let _ ← dropRules (← workflow.rulesTouching state.id)
  Action.change (·.setState { state with active := false })
  Action.log .info
    s!"deactivated state {state.id} of workflow {workflow.id}; {moved} item(s) moved"
  return moved

/-- Withdrawing a state changes the state and drops its rules. -/
theorem withdraw_run (workflow : Workflow) (state : State) (moved : Nat) (session : Session) :
    ∃ session', (workflow.withdraw state moved).run session = (.ok moved, session') ∧
      session'.store = { session.store.setState { state with active := false } with
        rules := session.store.rules.filter fun row =>
          ∀ rule ∈ session.store.touching workflow.id state.id, row.id ≠ rule.id } := by
  obtain ⟨dropped, hdrop, -⟩ :=
    drop_rules_run (session.store.touching workflow.id state.id) session
  rw [withdraw, run_bind, rules_touching_run]
  dsimp only
  rw [run_bind, hdrop]
  exact ⟨_, rfl, rfl⟩

/-- No rule of the workflow touches a state that was withdrawn. -/
theorem withdraw_untouched (workflow : Workflow) (state : State) (moved : Nat) (session : Session) :
    ∀ row ∈ ((workflow.withdraw state moved).run session).2.store.rules,
      row.workflowId = workflow.id → ¬ row.toRule.Touches state.id := by
  obtain ⟨last, hrun, hstore⟩ := withdraw_run workflow state moved session
  intro row hrow hown htouches
  rw [hrun, hstore] at hrow
  exact (Store.dropped_untouched hrow).2 ⟨hown, htouches⟩

/-- Only a state of the workflow that is not its creation state is deactivated. Its items are moved
first, where another state is given, and then it is withdrawn. -/
theorem deactivate_state_split {platform : Platform} {reassignTo : Option String} {agent : Agent}
    {moved : Nat} {session' : Session}
    (h : (workflow.deactivateState platform sid reassignTo agent).run session =
      (.ok moved, session')) :
    ∃ state middle, (session.store.statesOf workflow.id).get? sid = some state ∧
      state.creation = false ∧
      (workflow.withdraw state moved).run middle = (.ok moved, session') := by
  rw [deactivateState, run_bind, state_run] at h
  cases hstate : (session.store.statesOf workflow.id).get? sid with
  | none =>
      rw [hstate] at h
      cases h
  | some state =>
      rw [hstate] at h
      dsimp only at h
      split at h
      · cases h
      · next hcreation =>
          refine ⟨state, ?_⟩
          cases reassignTo with
          | none =>
              refine ⟨session, rfl, by simpa using hcreation, ?_⟩
              obtain ⟨middle, hrun, -⟩ := withdraw_run workflow state 0 session
              obtain ⟨⟨⟩, ⟨⟩⟩ := Prod.mk.inj (hrun.symm.trans h)
              exact hrun
          | some toSid =>
              dsimp only at h
              rw [run_bind] at h
              split at h
              · next moved' middle hmoved =>
                  refine ⟨middle, rfl, by simpa using hcreation, ?_⟩
                  obtain ⟨last, hrun, -⟩ := withdraw_run workflow state moved' middle
                  obtain ⟨⟨⟩, ⟨⟩⟩ := Prod.mk.inj (hrun.symm.trans h)
                  exact hrun
              · cases h

/-- No rule of the workflow touches a state that was deactivated. -/
theorem deactivate_state_untouched {platform : Platform} {reassignTo : Option String}
    {agent : Agent} {moved : Nat} {session' : Session}
    (h : (workflow.deactivateState platform sid reassignTo agent).run session =
      (.ok moved, session')) :
    ∀ row ∈ session'.store.rules, row.workflowId = workflow.id → ¬ row.toRule.Touches sid := by
  obtain ⟨state, middle, hstate, -, hwithdraw⟩ := deactivate_state_split h
  obtain rfl : state.id = sid := by simpa using List.find?_some hstate
  have huntouched := withdraw_untouched workflow state moved middle
  rw [hwithdraw] at huntouched
  exact huntouched

/-- A state that is not the creation state is taken out of use. Where its items are not to be moved,
nothing changes but the state, and the rules that touch it go. -/
theorem deactivate_state_run (platform : Platform) (agent : Agent) {state : State}
    (hstate : (session.store.statesOf workflow.id).get? sid = some state)
    (hcreation : state.creation = false) :
    ∃ session', (workflow.deactivateState platform sid none agent).run session =
        (.ok 0, session') ∧
      session'.store = { session.store.setState { state with active := false } with
        rules := session.store.rules.filter fun row =>
          ∀ rule ∈ session.store.touching workflow.id state.id, row.id ≠ rule.id } := by
  obtain ⟨session', hrun, hstore⟩ := withdraw_run workflow state 0 session
  refine ⟨session', ?_, hstore⟩
  rw [deactivateState, run_bind, state_run, hstate]
  dsimp only
  rw [if_neg (by simp [hcreation])]
  exact hrun

end Workflow

end ContentWorkflow
