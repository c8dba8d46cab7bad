import ContentWorkflow.Proofs.Runs.Reachable

/-!
# New states and rules

A state is looked up under its id alone before it is created, and a rule is looked up under its two
states, but is kept under an id that is composed of them. So a new state may be taken for a state of
another workflow (`Store.Elsewhere`), and a new rule may be refused for the sake of a rule for two
other states (`Store.Collides`). The main theorems, `create_state_listed` and `create_rule_kept`,
say that nothing else stands in the way of a new state or of a new rule.
-/

namespace ContentWorkflow

/-- The id of a state is the id of its workflow and the name with an underscore between them. -/
theorem MachineName.state_id_chars (workflowId name : String) :
    (stateId workflowId name).toList = workflowId.toList ++ '_' :: name.toList := by
  simp [stateId, toString]

/-- Where two workflows make the same id of a state, one workflow is called like a state of the
other. -/
theorem MachineName.state_id_shared {workflowId other name otherName : String}
    (h : stateId workflowId name = stateId other otherName) :
    workflowId = other ∨ (∃ rest, other = stateId workflowId rest) ∨
      ∃ rest, workflowId = stateId other rest := by
  have hjoined := congrArg String.toList h
  rw [state_id_chars, state_id_chars] at hjoined
  -- the longer of the two ids goes on with the underscore that follows on the shorter one
  have hlonger : ∀ {first second rest : String} {between after : List Char},
      second.toList = first.toList ++ between → '_' :: rest.toList = between ++ after →
        first = second ∨ ∃ rest, second = stateId first rest := by
    intro first second rest between after hsecond hrest
    cases between with
    | nil => exact Or.inl (String.toList_inj.1 (by simpa using hsecond.symm))
    | cons char between =>
        obtain ⟨rfl, -⟩ := List.cons.inj hrest
        refine Or.inr ⟨String.ofList between, String.toList_inj.1 ?_⟩
        rw [state_id_chars, hsecond, String.toList_ofList]
  obtain ⟨between, hother, hname⟩ | ⟨between, hworkflow, hname⟩ :=
    List.append_eq_append_iff.1 hjoined
  · exact (hlonger hother hname).imp_right Or.inl
  · exact (hlonger hworkflow hname).elim (fun hsame => Or.inl hsame.symm)
      fun hlong => Or.inr (Or.inr hlong)

namespace Store

/-- A state of another workflow has the id. -/
def Elsewhere (store : Store) (workflowId sid : String) : Prop :=
  ∃ state ∈ store.states, state.id = sid ∧ state.workflowId ≠ workflowId

/-- The workflow can have a rule for the two states: it leads to a state of the workflow other than
the creation state, from a state of the workflow or from every state. -/
structure Ruleable (store : Store) (workflowId fromSid toSid : String) : Prop where
  reached : ∃ state ∈ store.states,
    state.workflowId = workflowId ∧ state.id = toSid ∧ state.creation = false
  left : fromSid = "" ∨ (store.statesOf workflowId).Known fromSid

/-- A rule for two other states, or of another workflow, has the id that the rule for the two states
is composed of. -/
def Collides (store : Store) (workflowId fromSid toSid : String) : Prop :=
  ∃ row ∈ store.rules,
    ¬ (row.workflowId = workflowId ∧ row.fromSid = fromSid ∧ row.toSid = toSid) ∧
      Rule.composeId row.workflowId row.fromSid row.toSid =
        Rule.composeId workflowId fromSid toSid

variable {store : Store} {workflowId fromSid toSid sid : String}

/-- Nothing is objected to a rule exactly where the workflow can have it. -/
theorem Keyed.rule_objection_eq_none (hkeys : store.Keyed) :
    (store.statesOf workflowId).ruleObjection? fromSid toSid = none ↔
      store.Ruleable workflowId fromSid toSid := by
  constructor
  · intro h
    obtain ⟨⟨state, hstate, hid, hcreation⟩, hfrom⟩ := States.of_rule_objection_eq_none h
    obtain ⟨hkept, hworkflow⟩ := List.mem_filter.1 (States.mem_of_list.1 hstate)
    exact ⟨⟨state, hkept, by simpa using hworkflow, hid, hcreation⟩, hfrom⟩
  · rintro ⟨⟨state, hstate, rfl, rfl, hcreation⟩, hfrom⟩
    have hknown : ¬ (fromSid ≠ "" ∧ ¬ (store.statesOf state.workflowId).Known fromSid) :=
      fun h => hfrom.elim h.1 h.2
    simp [States.ruleObjection?, hkeys.state_found hstate, hcreation, hknown]

/-- Every rule to a state of the workflow is one of the workflow. -/
theorem Keyed.rule_of_state (hkeys : store.Keyed) (hnames : store.Referenced)
    (hruleable : store.Ruleable workflowId fromSid toSid) {row : RuleRow} (hrow : row ∈ store.rules)
    (hto : row.toSid = toSid) : row.workflowId = workflowId := by
  obtain ⟨state, hstate, rfl, hid, -⟩ := hruleable.reached
  obtain ⟨other, hother, hworkflow, hid', -⟩ := hnames.rule_to row hrow
  rw [← hworkflow, List.inj_on_of_nodup_map hkeys.states hother hstate
    (hid'.trans (hto.trans hid.symm))]

/-- A rule that is kept is the one rule for its two states. -/
theorem Keyed.single_rule (hkeys : store.Keyed) (hnames : store.Referenced)
    (hruleable : store.Ruleable workflowId fromSid toSid) {row : RuleRow} (hrow : row ∈ store.rules)
    (hfrom : row.fromSid = fromSid) (hto : row.toSid = toSid) :
    (store.rules.filter fun row => row.fromSid = fromSid ∧ row.toSid = toSid) = [row] := by
  have hunique : ∀ other ∈ store.rules, other.fromSid = fromSid → other.toSid = toSid →
      other = row := by
    intro other hother hfrom' hto'
    refine List.inj_on_of_nodup_map hkeys.rule_pairs hother hrow ?_
    rw [hkeys.rule_of_state hnames hruleable hother hto',
      hkeys.rule_of_state hnames hruleable hrow hto, hfrom', hfrom, hto', hto]
  refine List.perm_singleton.1 ((List.perm_ext_iff_of_nodup
    ((hkeys.rules.of_map _).filter _) (List.nodup_singleton row)).2 fun other => ?_)
  simp only [List.mem_filter, decide_eq_true_eq, List.mem_singleton]
  constructor
  · rintro ⟨hother, hfrom', hto'⟩
    exact hunique other hother hfrom' hto'
  · rintro rfl
    exact ⟨hrow, hfrom, hto⟩

/-- The rule that a workflow finds for two states is kept for them, and where it finds none, none
is. -/
theorem find_rule_cases (store : Store) (workflowId fromSid toSid : String) :
    (∃ row ∈ store.rules, row.workflowId = workflowId ∧ row.fromSid = fromSid ∧ row.toSid = toSid ∧
        (store.rulesOf workflowId).find? fromSid toSid = some row.toRule) ∨
      (∀ row ∈ store.rules,
          ¬ (row.workflowId = workflowId ∧ row.fromSid = fromSid ∧ row.toSid = toSid)) ∧
        (store.rulesOf workflowId).find? fromSid toSid = none := by
  cases hfound : (store.rulesOf workflowId).find? fromSid toSid with
  | some rule =>
      obtain ⟨row, hrow, hworkflow, rfl⟩ := mem_rules_of.1 (List.mem_of_find?_eq_some hfound)
      obtain ⟨hfrom, hto⟩ : row.toRule.fromSid = fromSid ∧ row.toRule.toSid = toSid := by
        simpa using List.find?_some hfound
      exact Or.inl ⟨row, hrow, hworkflow, hfrom, hto, rfl⟩
  | none =>
      refine Or.inr ⟨?_, rfl⟩
      rintro row hrow ⟨hworkflow, hends⟩
      exact absurd (decide_eq_true hends)
        (List.find?_eq_none.1 hfound row.toRule (mem_rules_of.2 ⟨row, hrow, hworkflow, rfl⟩))

/-- The rule for two states is added where the workflow has none for them, unless its id belongs to
another one. -/
theorem add_rule_between (hkeys : store.Keyed) (hcomposed : store.Composed)
    (hruleable : store.Ruleable workflowId fromSid toSid)
    (hnone : ∀ row ∈ store.rules,
      ¬ (row.workflowId = workflowId ∧ row.fromSid = fromSid ∧ row.toSid = toSid)) :
    store.Collides workflowId fromSid toSid ∧
        store.addRule (.between workflowId fromSid toSid) = .error .ruleId ∨
      ¬ store.Collides workflowId fromSid toSid ∧
        store.addRule (.between workflowId fromSid toSid) = .ok { store with
          rules := store.rules ++ [.of (.between workflowId fromSid toSid)] } := by
  obtain ⟨state, hstate, rfl, -⟩ := hruleable.reached
  have hworkflow := hkeys.state_workflows state hstate
  have hpair : ¬ ∃ row ∈ store.rules, row.workflowId = state.workflowId ∧
      row.fromSid = fromSid ∧ row.toSid = toSid := by
    rintro ⟨row, hrow, hends⟩
    exact hnone row hrow hends
  by_cases htaken : (store.rule? (Rule.composeId state.workflowId fromSid toSid)).isSome
  · left
    refine ⟨?_, by simp [addRule, Rule.between, htaken, hpair]⟩
    obtain ⟨row, hrow, hid⟩ : ∃ row ∈ store.rules,
        row.id = Rule.composeId state.workflowId fromSid toSid := by
      simpa [rule?] using htaken
    exact ⟨row, hrow, hnone row hrow, (hcomposed.rules row hrow).symm.trans hid⟩
  · right
    constructor
    · rintro ⟨row, hrow, -, hid⟩
      refine htaken ?_
      simpa [rule?] using ⟨row, hrow, (hcomposed.rules row hrow).trans hid⟩
    · simp [addRule, Rule.between, htaken, hpair, hworkflow]

end Store

namespace Workflow

open ContentWorkflow.Action

variable {workflow : Workflow} {session : Session}

/-! ## States -/

/-- A state is answered as it is kept under the id, whatever its workflow, or it is added. -/
theorem create_state_run {label : String} (weight : Int)
    (hlabel : MachineName.stateIdOfLabel workflow.id label ≠
      MachineName.creationStateId workflow.id)
    (hworkflow : session.store.HasWorkflow workflow.id) :
    (∃ kept ∈ session.store.states,
        kept.id = MachineName.stateIdOfLabel workflow.id label ∧
          (workflow.createState label weight).run session = (.ok kept, session)) ∨
      (∀ kept ∈ session.store.states, kept.id ≠ MachineName.stateIdOfLabel workflow.id label) ∧
        ∃ state session', state = .ofLabel workflow.id
            (MachineName.stateIdOfLabel workflow.id label) label weight ∧
          (workflow.createState label weight).run session = (.ok state, session') ∧
          session'.store =
            { session.store with states := session.store.states ++ [state] } := by
  unfold createState
  dsimp only
  rw [if_neg hlabel, run_bind, run_store]
  dsimp only
  cases hkept : session.store.state? (MachineName.stateIdOfLabel workflow.id label) with
  | some kept =>
      have hid : kept.id = MachineName.stateIdOfLabel workflow.id label := by
        simpa using List.find?_some hkept
      exact Or.inl ⟨kept, List.mem_of_find?_eq_some hkept, hid, rfl⟩
  | none =>
      have hadd : session.store.addState (.ofLabel workflow.id
          (MachineName.stateIdOfLabel workflow.id label) label weight) = .ok { session.store with
            states := session.store.states ++
              [.ofLabel workflow.id (MachineName.stateIdOfLabel workflow.id label) label
                weight] } := by
        simp [Store.addState, State.ofLabel, hkept, hworkflow]
      dsimp only
      rw [run_bind, run_attempt, hadd]
      exact Or.inr ⟨by simpa [Store.state?] using hkept, _, _, rfl, rfl, rfl⟩

/-- The workflow lists every state of it. -/
theorem mem_states_run {state : State} (hstate : state ∈ session.store.states)
    (hworkflow : state.workflowId = workflow.id) :
    ∃ states, (workflow.states .all).run session = (.ok states, session) ∧
      state ∈ states.toList := by
  refine ⟨_, rfl, States.mem_of_list.2 (List.mem_filter.2 ⟨?_, decide_eq_true trivial⟩)⟩
  exact States.mem_of_list.2 (List.mem_filter.2 ⟨hstate, decide_eq_true hworkflow⟩)

/-! ## Rules -/

/-- Creating a rule does what its objections and what is kept say. -/
theorem create_rule_run (workflow : Workflow) (fromSid toSid : String) (session : Session) :
    (workflow.createRule fromSid toSid).run session =
      match (session.store.statesOf workflow.id).ruleObjection? fromSid toSid,
        (session.store.rulesOf workflow.id).find? fromSid toSid,
        session.store.addRule (.between workflow.id fromSid toSid) with
      | some reason, _, _ => (.error (.misuse (.invalidRule reason)), session)
      | none, some rule, _ => (.ok rule, session)
      | none, none, .error constraint => (.error (.constraint constraint), session)
      | none, none, .ok store =>
          (.ok (.between workflow.id fromSid toSid),
            { session with store := store }.note .info
              s!"created rule {(Rule.between workflow.id fromSid toSid).id} for workflow {
                workflow.id}") := by
  rw [createRule, run_bind, run_store]
  dsimp only
  cases (session.store.statesOf workflow.id).ruleObjection? fromSid toSid with
  | some reason => rfl
  | none =>
      cases (session.store.rulesOf workflow.id).find? fromSid toSid with
      | some rule => rfl
      | none =>
          dsimp only
          rw [run_bind, run_attempt]
          cases session.store.addRule (.between workflow.id fromSid toSid) with
          | error constraint => rfl
          | ok store => rfl

/-- A rule whose id would be the id of another one is refused. -/
theorem create_rule_collides (hreach : session.store.Reachable) {fromSid toSid : String}
    (hruleable : session.store.Ruleable workflow.id fromSid toSid)
    (hcollides : session.store.Collides workflow.id fromSid toSid) :
    (workflow.createRule fromSid toSid).run session =
      (.error (.constraint .ruleId), session) := by
  have hkeys := hreach.keyed
  rw [create_rule_run, hkeys.rule_objection_eq_none.2 hruleable]
  obtain ⟨row, hrow, hworkflow, hfrom, hto, -⟩ | ⟨hnone, hfound⟩ :=
    session.store.find_rule_cases workflow.id fromSid toSid
  · -- a rule that is kept for the two states has the id, so no other one does
    obtain ⟨other, hother, hends, hid⟩ := hcollides
    rw [← hworkflow, ← hfrom, ← hto, ← hreach.composed.rules other hother,
      ← hreach.composed.rules row hrow] at hid
    obtain rfl := List.inj_on_of_nodup_map hkeys.rules hother hrow hid
    exact absurd ⟨hworkflow, hfrom, hto⟩ hends
  · obtain ⟨-, hadd⟩ | ⟨hfree, -⟩ :=
      Store.add_rule_between hkeys hreach.composed hruleable hnone
    · rw [hfound, hadd]
    · exact absurd hcollides hfree

/-- A rule whose id is free is answered as it is kept, or it is added. -/
theorem create_rule_answers (hreach : session.store.Reachable) {fromSid toSid : String}
    (hruleable : session.store.Ruleable workflow.id fromSid toSid)
    (hfree : ¬ session.store.Collides workflow.id fromSid toSid) :
    (∃ row ∈ session.store.rules,
        row.workflowId = workflow.id ∧ row.fromSid = fromSid ∧ row.toSid = toSid ∧
          (workflow.createRule fromSid toSid).run session = (.ok row.toRule, session)) ∨
      (∀ row ∈ session.store.rules, ¬ (row.fromSid = fromSid ∧ row.toSid = toSid)) ∧
        ∃ session', (workflow.createRule fromSid toSid).run session =
            (.ok (.between workflow.id fromSid toSid), session') ∧
          session'.store = { session.store with
            rules := session.store.rules ++ [.of (.between workflow.id fromSid toSid)] } := by
  have hkeys := hreach.keyed
  rw [create_rule_run, hkeys.rule_objection_eq_none.2 hruleable]
  obtain ⟨row, hrow, hworkflow, hfrom, hto, hfound⟩ | ⟨hnone, hfound⟩ :=
    session.store.find_rule_cases workflow.id fromSid toSid
  · rw [hfound]
    exact Or.inl ⟨row, hrow, hworkflow, hfrom, hto, rfl⟩
  · obtain ⟨hcollides, -⟩ | ⟨-, hadd⟩ :=
      Store.add_rule_between hkeys hreach.composed hruleable hnone
    · exact absurd hcollides hfree
    · rw [hfound, hadd]
      refine Or.inr ⟨?_, _, rfl, rfl⟩
      rintro row hrow ⟨hfrom, hto⟩
      exact hnone row hrow
        ⟨hkeys.rule_of_state hreach.referenced hruleable hrow hto, hfrom, hto⟩

end Workflow

/-- A call that creates a rule for two states that the workflow has none for adds it, unless its id
belongs to another one. -/
theorem Call.after_create_rule {call : Call} {workflow : Workflow} {fromSid toSid : String}
    {session : Session} (hop : call.operation = .createRule workflow fromSid toSid)
    (hreach : session.store.Reachable)
    (hruleable : session.store.Ruleable workflow.id fromSid toSid)
    (hfree : ¬ session.store.Collides workflow.id fromSid toSid)
    (hnone : ∀ row ∈ session.store.rules, ¬ (row.fromSid = fromSid ∧ row.toSid = toSid)) :
    (call.after session).store = { session.store with
      rules := session.store.rules ++ [.of (.between workflow.id fromSid toSid)] } := by
  rw [after, hop, Operation.perform, Action.run_forget]
  obtain ⟨row, hrow, -, hfrom, hto, -⟩ | ⟨-, session', hrun, hstore⟩ :=
    @Workflow.create_rule_answers workflow (call.before session) hreach fromSid toSid hruleable
      hfree
  · exact absurd ⟨hfrom, hto⟩ (hnone row hrow)
  · rw [hrun, hstore]
    rfl

/-- A reachable store stays reachable with a further rule that the workflow can have and whose id is
free. -/
theorem Store.Reachable.with_rule {store : Store} (hreach : store.Reachable)
    {workflowId fromSid toSid : String} (hruleable : store.Ruleable workflowId fromSid toSid)
    (hfree : ¬ store.Collides workflowId fromSid toSid)
    (hnone : ∀ row ∈ store.rules, ¬ (row.fromSid = fromSid ∧ row.toSid = toSid)) :
    Reachable { store with
      rules := store.rules ++ [.of (.between workflowId fromSid toSid)] } := by
  obtain ⟨session, rfl, hafter⟩ :=
    hreach.after ⟨.small, none, .createRule ⟨workflowId, "", .standard⟩ fromSid toSid⟩
  rwa [Call.after_create_rule rfl hreach hruleable hfree hnone] at hafter

/-! ## The small site -/

namespace Session

/-- The calls that set up the small site, up to its rule. -/
def opening : List Call :=
  [.createWorkflow "news" "News" .standard false,
    .createState .small "Draft" 1,
    .createState .small "Live" 2,
    .bindField "node" "field_state" "news",
    .saveContent Item.small].map fun operation => ⟨.small, none, operation⟩

/-- The call that creates the rule of the small site. -/
def ruling : Call :=
  ⟨.small, none, .createRule .small "news_draft" "news_live"⟩

/-- The call that lets editors use the rule. -/
def granting : Call :=
  ⟨.small, none, .setRuleRoles .small "news_draft_live" (RoleSet.ofList ["editor"])⟩

/-- What the small site is before it has its rule. -/
theorem opened_store :
    (serve ⟨.empty, .empty, []⟩ opening).store = { Store.small with rules := [] } := by
  with_unfolding_all rfl

/-- The calls that set up the small site. -/
def settingUp : List Call :=
  opening ++ [ruling] ++ [granting]

/-- The calls that set up the small site lead to it. -/
theorem set_up_store : (serve ⟨.empty, .empty, []⟩ settingUp).store = Store.small := by
  have hreach : (serve ⟨.empty, .empty, []⟩ opening).store.Reachable := ⟨_, _, _, rfl⟩
  rw [settingUp, serve_append_singleton, serve_append_singleton]
  have hruleable : (serve ⟨.empty, .empty, []⟩ opening).store.Ruleable "news" "news_draft"
      "news_live" := by
    rw [opened_store]
    exact ⟨⟨.ofLabel "news" "news_live" "Live" 2, by decide⟩, Or.inr (Store.known_of_small rfl).1⟩
  have hruled : (ruling.after (serve ⟨.empty, .empty, []⟩ opening)).store = _ :=
    Call.after_create_rule rfl hreach hruleable (by simp [opened_store, Store.Collides])
      (by simp [opened_store])
  rw [opened_store] at hruled
  generalize ruling.after _ = ruled at hruled
  obtain ⟨store, context, log⟩ := ruled
  dsimp only at hruled
  subst hruled
  with_unfolding_all rfl

/-- The small site is reachable. -/
theorem reachable_small : Store.small.Reachable :=
  ⟨.empty, [], settingUp, set_up_store.symm⟩

end Session

/-! ## What new states and rules come to -/

namespace Workflow

variable {workflow : Workflow} {session : Session}

/-- Creating a state under a label that does not name the creation state gives an answer. The answer
is a state of the workflow, which the workflow lists from then on, exactly where no other workflow
has a state with the id; and where one has, the one workflow is called like a state of the other. A
state that is kept under the id is answered as it is and changes nothing, and in any case the states
of other workflows stay as they are. -/
theorem create_state_listed (hreach : session.store.Reachable)
    (hworkflow : session.store.HasWorkflow workflow.id) {label : String} (weight : Int)
    (hlabel : MachineName.stateIdOfLabel workflow.id label ≠
      MachineName.creationStateId workflow.id) :
    ∃ state session', (workflow.createState label weight).run session = (.ok state, session') ∧
      state.id = MachineName.stateIdOfLabel workflow.id label ∧
      (state.workflowId = workflow.id ↔ ¬ session.store.Elsewhere workflow.id state.id) ∧
      (state.workflowId = workflow.id → ∃ states,
        (workflow.states .all).run session' = (.ok states, session') ∧ state ∈ states.toList) ∧
      (state.workflowId ≠ workflow.id →
        (∃ rest, state.workflowId = MachineName.stateId workflow.id rest) ∨
          ∃ rest, workflow.id = MachineName.stateId state.workflowId rest) ∧
      (∀ kept ∈ session.store.states, kept.id = state.id → state = kept ∧ session' = session) ∧
      (∀ other ≠ workflow.id, session'.store.statesOf other = session.store.statesOf other) ∧
      session'.store = { session.store with states := session'.store.states } := by
  obtain ⟨kept, hkept, hid, hrun⟩ | ⟨hnew, state, session', hstate, hrun, hstore⟩ :=
    create_state_run weight hlabel hworkflow
  · have hunique : ∀ other ∈ session.store.states, other.id = kept.id → kept = other :=
      fun other hother hsame => List.inj_on_of_nodup_map hreach.keyed.states hkept hother hsame.symm
    refine ⟨kept, session, hrun, hid, ?_, fun hown => mem_states_run hkept hown, ?_, ?_,
      fun _ _ => rfl, rfl⟩
    · constructor
      · rintro hown ⟨other, hother, hsame, hforeign⟩
        exact hforeign (hunique other hother hsame ▸ hown)
      · intro hnone
        exact not_not.1 fun hforeign => hnone ⟨kept, hkept, rfl, hforeign⟩
    · intro hforeign
      obtain ⟨name, hname⟩ := hreach.composed.states kept hkept
      obtain hsame | hlong | hlong := MachineName.state_id_shared (hid.symm.trans hname)
      · exact absurd hsame.symm hforeign
      · exact Or.inl hlong
      · exact Or.inr hlong
    · exact fun other hother hsame => ⟨hunique other hother hsame, rfl⟩
  · have hown : state.workflowId = workflow.id := by rw [hstate]; rfl
    have hid : state.id = MachineName.stateIdOfLabel workflow.id label := by rw [hstate]; rfl
    have hadded : state ∈ session'.store.states := by
      rw [hstore]
      exact List.mem_append_right _ (List.mem_singleton_self _)
    refine ⟨state, session', hrun, hid, ?_, fun _ => mem_states_run hadded hown,
      fun hforeign => absurd hown hforeign, ?_, ?_, ?_⟩
    · refine iff_of_true hown ?_
      rintro ⟨other, hother, hsame, -⟩
      exact hnew other hother (hsame.trans hid)
    · exact fun other hother hsame => absurd (hsame.trans hid) (hnew other hother)
    · intro other hother
      have hnot : ¬ state.workflowId = other := fun hsame => hother (hsame.symm.trans hown)
      simp [Store.statesOf, hstore, List.filter_append, hnot]
    · rw [hstore]

/-- The workflow of the small site gets a further state. -/
theorem create_state_listed_review :
    Store.small.Reachable ∧ Store.small.HasWorkflow small.id ∧
      MachineName.stateIdOfLabel small.id "Review" ≠ MachineName.creationStateId small.id ∧
      ∃ state session', (small.createState "Review" 3).run ⟨.small, .empty, []⟩ =
          (.ok state, session') ∧ state.id = "news_review" ∧ state.workflowId = "news" := by
  have hlabel : MachineName.stateIdOfLabel small.id "Review" ≠
      MachineName.creationStateId small.id := by decide +kernel
  obtain ⟨state, session', hrun, hid, hown, -⟩ :=
    @create_state_listed small ⟨.small, .empty, []⟩ Session.reachable_small (by decide) _ 3 hlabel
  have hid : state.id = "news_review" := hid.trans (by decide +kernel)
  refine ⟨Session.reachable_small, by decide, hlabel, state, session', hrun, hid, hown.2 ?_⟩
  have hnone : ∀ other ∈ Store.small.states, other.id ≠ "news_review" := by decide
  rintro ⟨other, hother, hsame, -⟩
  exact hnone other hother (hsame.trans hid)

/-- A site with two workflows, the second of which is called like a state of the first one and has
a state. -/
def namesakes : Session :=
  .serve ⟨.empty, .empty, []⟩
    [⟨.small, none, .createWorkflow "news" "News" .standard false⟩,
      ⟨.small, none, .createWorkflow "news_draft" "Drafts" .standard false⟩,
      ⟨.small, none, .createState ⟨"news_draft", "Drafts", .standard⟩ "Late" 1⟩]

/-- The first workflow is to have a state, and is answered the state of the second one, which it
does not list. -/
theorem created_elsewhere :
    namesakes.store.Reachable ∧ namesakes.store.HasWorkflow small.id ∧
      MachineName.stateIdOfLabel small.id "Draft late" ≠ MachineName.creationStateId small.id ∧
      ∃ state session', (small.createState "Draft late" 2).run namesakes = (.ok state, session') ∧
        state.workflowId = "news_draft" ∧
        ∃ states, (small.states .all).run session' = (.ok states, session') ∧
          state ∉ states.toList := by
  have hanswer : ((small.createState "Draft late" 2).run namesakes).1 =
      .ok ⟨"news_draft_late", "news_draft", "Late", 1, true, false⟩ := by decide +kernel
  refine ⟨⟨_, _, _, rfl⟩, by decide +kernel, by decide +kernel, _, _, Prod.ext hanswer rfl, rfl,
    _, rfl, ?_⟩
  decide +kernel

/-- Creating a rule is refused, and changes nothing, exactly where the workflow cannot have it or
where a rule for two other states has the id that it would get. Otherwise the answer is the one rule
for the two states: the kept one, as it is, or a new one, which is added to the others. -/
theorem create_rule_kept (hreach : session.store.Reachable) (workflow : Workflow)
    (fromSid toSid : String) :
    (¬ session.store.Ruleable workflow.id fromSid toSid → ∃ reason,
        (workflow.createRule fromSid toSid).run session =
          (.error (.misuse (.invalidRule reason)), session)) ∧
      (session.store.Ruleable workflow.id fromSid toSid →
        session.store.Collides workflow.id fromSid toSid →
          (workflow.createRule fromSid toSid).run session =
            (.error (.constraint .ruleId), session)) ∧
      (session.store.Ruleable workflow.id fromSid toSid →
        ¬ session.store.Collides workflow.id fromSid toSid →
          ∃ rule session', (workflow.createRule fromSid toSid).run session = (.ok rule, session') ∧
            rule.workflowId = workflow.id ∧ rule.fromSid = fromSid ∧ rule.toSid = toSid ∧
            ((session'.store.rules.filter fun row =>
              row.fromSid = fromSid ∧ row.toSid = toSid).map (·.toRule)) = [rule] ∧
            (∀ row ∈ session.store.rules, row.fromSid = fromSid → row.toSid = toSid →
              row.toRule = rule ∧ session' = session) ∧
            (session'.store = session.store ∨ session'.store =
              { session.store with rules := session.store.rules ++ [.of rule] })) := by
  refine ⟨?_, create_rule_collides hreach, ?_⟩
  · intro hunruleable
    rw [create_rule_run]
    cases hreason : (session.store.statesOf workflow.id).ruleObjection? fromSid toSid with
    | none => exact absurd (hreach.keyed.rule_objection_eq_none.1 hreason) hunruleable
    | some reason => exact ⟨reason, rfl⟩
  · intro hruleable hfree
    obtain ⟨row, hrow, hworkflow, hfrom, hto, hrun⟩ | ⟨hnone, session', hrun, hstore⟩ :=
      create_rule_answers hreach hruleable hfree
    · have hsingle := hreach.keyed.single_rule hreach.referenced hruleable hrow hfrom hto
      refine ⟨row.toRule, session, hrun, hworkflow, hfrom, hto, ?_, ?_, Or.inl rfl⟩
      · rw [hsingle, List.map_singleton]
      · intro other hother hfrom' hto'
        have hmem : other ∈ session.store.rules.filter fun row =>
            row.fromSid = fromSid ∧ row.toSid = toSid :=
          List.mem_filter.2 ⟨hother, decide_eq_true ⟨hfrom', hto'⟩⟩
        rw [hsingle, List.mem_singleton] at hmem
        exact ⟨congrArg RuleRow.toRule hmem, rfl⟩
    · refine ⟨_, session', hrun, rfl, rfl, rfl, ?_, ?_, Or.inr hstore⟩
      · rw [hstore, List.filter_append, List.filter_eq_nil_iff.2 (by simpa using hnone)]
        simp [RuleRow.of, Rule.between, RuleRow.toRule]
      · exact fun row hrow hfrom hto => absurd ⟨hfrom, hto⟩ (hnone row hrow)

/-- The workflow of the small site gets a rule out of its creation state. -/
theorem create_rule_kept_creation :
    Store.small.Reachable ∧ ∃ rule session',
      (small.createRule "news_creation" "news_draft").run ⟨.small, .empty, []⟩ =
          (.ok rule, session') ∧
        rule.fromSid = "news_creation" ∧ rule.toSid = "news_draft" := by
  have hruleable : Store.small.Ruleable small.id "news_creation" "news_draft" :=
    ⟨⟨.ofLabel "news" "news_draft" "Draft" 1, by decide⟩,
      Or.inr (Store.known_states_of.2 ⟨.creationOf "news", by decide +kernel⟩)⟩
  have hfree : ¬ Store.small.Collides small.id "news_creation" "news_draft" := by
    rintro ⟨row, hrow, -, hid⟩
    cases List.mem_singleton.1 hrow
    exact absurd hid (by decide +kernel)
  obtain ⟨-, -, hkept⟩ := @create_rule_kept ⟨.small, .empty, []⟩ Session.reachable_small small
    "news_creation" "news_draft"
  obtain ⟨rule, session', hrun, -, hfrom, hto, -⟩ := hkept hruleable hfree
  exact ⟨Session.reachable_small, rule, session', hrun, hfrom, hto⟩

/-- The small site with a third state, whose id goes on as the id of the rule does. -/
def crowded : Store :=
  { Store.small with
    states := Store.small.states ++ [.ofLabel "news" "news_draft_live" "Draft live" 3] }

/-- The rule from every state to the third one is refused, because the rule from the first state to
the second one has its id. -/
theorem created_blocked :
    crowded.Reachable ∧ crowded.Ruleable small.id "" "news_draft_live" ∧
      (small.createRule "" "news_draft_live").run ⟨crowded, .empty, []⟩ =
        (.error (.constraint .ruleId), ⟨crowded, .empty, []⟩) := by
  have hreach : crowded.Reachable := by
    obtain ⟨⟨_, context, log⟩, rfl, hreach⟩ :=
      Session.reachable_small.after ⟨.small, none, .createState small "Draft live" 3⟩
    exact hreach
  have hruleable : crowded.Ruleable small.id "" "news_draft_live" :=
    ⟨⟨.ofLabel "news" "news_draft_live" "Draft live" 3, by decide⟩, Or.inl rfl⟩
  refine ⟨hreach, hruleable, create_rule_collides hreach hruleable ?_⟩
  exact ⟨_, List.mem_singleton_self _, by decide, by decide +kernel⟩

end Workflow

end ContentWorkflow
