import ContentWorkflow.Proofs.Administration.Retirement
import ContentWorkflow.Proofs.Runs.Authorization

/-!
# What rules and records name

Rules and history records name states by their ids alone, and no key of a table guards them. They
are guarded by those who write them: rules are created for known states, the engine records
transitions between known states, no write but a purge drops a state, and a purge drops what names
the state first. The main theorem, `serve_empty_referenced`, says that after every run on a new site
every rule and every record names kept states of its workflow.
-/

namespace ContentWorkflow

/-- What rules and records name is kept: a rule leads to a state of its workflow that is not the
creation state, from a state of it or from every state, and a record is of two states of its
workflow. -/
structure Store.Referenced (store : Store) : Prop where
  rule_to : ∀ row ∈ store.rules, ∃ state ∈ store.states,
    state.workflowId = row.workflowId ∧ state.id = row.toSid ∧ state.creation = false
  rule_from : ∀ row ∈ store.rules,
    row.fromSid = "" ∨ (store.statesOf row.workflowId).Known row.fromSid
  record_from : ∀ record ∈ store.history,
    (store.statesOf record.workflowId).Known record.fromSid
  record_to : ∀ record ∈ store.history, (store.statesOf record.workflowId).Known record.toSid

/-- A workflow can have a rule to a state that is not its creation state, from a known state or from
every state. -/
theorem States.of_rule_objection_eq_none {states : States} {fromSid toSid : String}
    (h : states.ruleObjection? fromSid toSid = none) :
    (∃ state ∈ states.toList, state.id = toSid ∧ state.creation = false) ∧
      (fromSid = "" ∨ states.Known fromSid) := by
  rw [ruleObjection?] at h
  split at h
  · cases h
  · next state hstate =>
      split at h
      · cases h
      · next hcreation =>
          split at h
          · cases h
          · next hfrom =>
              have hid : state.id = toSid := by simpa using List.find?_some hstate
              refine ⟨⟨state, List.mem_of_find?_eq_some hstate, hid, by simpa using hcreation⟩, ?_⟩
              by_cases hevery : fromSid = ""
              · exact Or.inl hevery
              · exact Or.inr (not_not.1 fun hunknown => hfrom ⟨hevery, hunknown⟩)

namespace Store

variable {store store' : Store} {operation : Operation} {workflowId sid : String}

/-- What is named stays kept as long as every state stays, with its workflow and its place as
a creation state, and rules and records name nothing new. -/
theorem Referenced.of_kept (hnames : store.Referenced)
    (hstates : ∀ state ∈ store.states, ∃ other ∈ store'.states,
      other.workflowId = state.workflowId ∧ other.id = state.id ∧ other.creation = state.creation)
    (hrules : ∀ row ∈ store'.rules, ∃ other ∈ store.rules, row.workflowId = other.workflowId ∧
      row.fromSid = other.fromSid ∧ row.toSid = other.toSid)
    (hhistory : store'.history ⊆ store.history) : store'.Referenced := by
  have hknown : ∀ {workflowId sid : String}, (store.statesOf workflowId).Known sid →
      (store'.statesOf workflowId).Known sid := by
    intro workflowId sid hknown
    obtain ⟨state, hstate, rfl, rfl⟩ := known_states_of.1 hknown
    obtain ⟨other, hother, hworkflow, hid, -⟩ := hstates state hstate
    exact known_states_of.2 ⟨other, hother, hworkflow, hid⟩
  constructor
  · intro row hrow
    obtain ⟨before, hbefore, hworkflow, -, hto⟩ := hrules row hrow
    obtain ⟨state, hstate, hsame, hid, hcreation⟩ := hnames.rule_to before hbefore
    obtain ⟨other, hother, hworkflow', hid', hcreation'⟩ := hstates state hstate
    exact ⟨other, hother, by rw [hworkflow', hsame, hworkflow], by rw [hid', hid, hto],
      hcreation'.trans hcreation⟩
  · intro row hrow
    obtain ⟨before, hbefore, hworkflow, hfrom, -⟩ := hrules row hrow
    rw [hworkflow, hfrom]
    exact (hnames.rule_from before hbefore).imp_right hknown
  · exact fun record hrecord => hknown (hnames.record_from record (hhistory hrecord))
  · exact fun record hrecord => hknown (hnames.record_to record (hhistory hrecord))

/-- A rule that the workflow can have names kept states. -/
theorem Referenced.add_rule (hnames : store.Referenced) {workflow : Workflow}
    {fromSid toSid : String}
    (hfits : (store.statesOf workflow.id).ruleObjection? fromSid toSid = none)
    (h : store.addRule (.between workflow.id fromSid toSid) = .ok store') : store'.Referenced := by
  obtain ⟨-, -, -, rfl⟩ := add_rule_ok h
  obtain ⟨⟨state, hstate, hid, hcreation⟩, hfrom⟩ := States.of_rule_objection_eq_none hfits
  obtain ⟨hkept, hworkflow⟩ := List.mem_filter.1 (States.mem_of_list.1 hstate)
  have hworkflow : state.workflowId = workflow.id := by simpa using hworkflow
  exact { hnames with
    rule_to := forall_add_row hnames.rule_to ⟨state, hkept, hworkflow, hid, hcreation⟩
    rule_from := forall_add_row hnames.rule_from hfrom }

/-- The administration keeps what is named. -/
theorem Managed.referenced (hnames : store.Referenced) (h : store.Managed operation store') :
    store'.Referenced := by
  cases h with
  | addWorkflow hwrite =>
      obtain ⟨-, rfl⟩ := add_workflow_ok hwrite
      exact { hnames with }
  | setSettings id settings => exact { hnames with }
  | addState _ hwrite =>
      obtain ⟨-, -, -, rfl⟩ := add_state_ok hwrite
      exact hnames.of_kept
        (fun state hstate => ⟨state, List.mem_append_left _ hstate, rfl, rfl, rfl⟩)
        (fun row hrow => ⟨row, hrow, rfl, rfl, rfl⟩) (List.Subset.refl _)
  | setState changed =>
      refine hnames.of_kept (fun state hstate => ?_)
        (fun row hrow => ⟨row, hrow, rfl, rfl, rfl⟩) (List.Subset.refl _)
      refine ⟨_, List.mem_map.2 ⟨state, hstate, rfl⟩, ?_⟩
      split <;> exact ⟨rfl, rfl, rfl⟩
  | addRule _ hfits hwrite => exact hnames.add_rule hfits hwrite
  | setRule rule =>
      refine hnames.of_kept (fun state hstate => ⟨state, hstate, rfl, rfl, rfl⟩)
        (fun row hrow => ?_) (List.Subset.refl _)
      obtain ⟨before, hbefore, rfl⟩ := List.mem_map.1 hrow
      refine ⟨before, hbefore, ?_⟩
      split <;> exact ⟨rfl, rfl, rfl⟩
  | dropRule id =>
      exact hnames.of_kept (fun state hstate => ⟨state, hstate, rfl, rfl, rfl⟩)
        (fun row hrow => ⟨row, (List.mem_filter.1 hrow).1, rfl, rfl, rfl⟩) (List.Subset.refl _)
  | bind _ hwrite =>
      obtain ⟨-, rfl⟩ := bind_ok hwrite
      exact { hnames with }

/-- A purge drops no state but the one. -/
theorem Purged.keeps (h : store.Purged workflowId sid store') {state : State}
    (hstate : state ∈ store.states) (hother : state.id ≠ sid) : state ∈ store'.states := by
  rw [h.rest]
  exact List.mem_filter.2 ⟨hstate, by simpa using hother⟩

/-- A state that is not purged stays known. -/
theorem Purged.known (h : store.Purged workflowId sid store') {otherWorkflow other : String}
    (hknown : (store.statesOf otherWorkflow).Known other) (hother : other ≠ sid) :
    (store'.statesOf otherWorkflow).Known other := by
  obtain ⟨state, hstate, hworkflow, rfl⟩ := known_states_of.1 hknown
  exact known_states_of.2 ⟨state, h.keeps hstate hother, hworkflow, rfl⟩

/-- No other workflow has the state that is purged, because ids of states are unique. -/
theorem Purged.workflow_unique (hkeys : store.Keyed) (h : store.Purged workflowId sid store')
    {other : String} (hknown : (store.statesOf other).Known sid) : other = workflowId := by
  obtain ⟨state, hstate, hworkflow, hid, -⟩ := h.found
  exact hkeys.known_unique (known_states_of.2 ⟨state, hstate, hworkflow, hid⟩) hknown

/-- A purge drops the rules and the records that name the state. -/
theorem Purged.referenced (hkeys : store.Keyed) (hnames : store.Referenced)
    (h : store.Purged workflowId sid store') : store'.Referenced := by
  have hrecords : ∀ record ∈ store'.history, record ∈ store.history ∧ ¬ record.Touches sid := by
    intro record hrecord
    rw [h.rest] at hrecord
    obtain ⟨hkept, huntouched⟩ := List.mem_filter.1 hrecord
    exact ⟨hkept, of_decide_eq_true huntouched⟩
  constructor
  · intro row hrow
    obtain ⟨hkept, huntouched⟩ := h.rules row hrow
    obtain ⟨state, hstate, hsame, hid, hcreation⟩ := hnames.rule_to row hkept
    refine ⟨state, h.keeps hstate fun hpurged => huntouched ?_, hsame, hid, hcreation⟩
    have hknown : (store.statesOf row.workflowId).Known sid :=
      known_states_of.2 ⟨state, hstate, hsame, hpurged⟩
    exact ⟨h.workflow_unique hkeys hknown, Or.inr (hid.symm.trans hpurged)⟩
  · intro row hrow
    obtain ⟨hkept, huntouched⟩ := h.rules row hrow
    refine (hnames.rule_from row hkept).imp_right fun hknown => h.known hknown ?_
    rintro rfl
    exact huntouched ⟨h.workflow_unique hkeys hknown, Or.inl rfl⟩
  · intro record hrecord
    obtain ⟨hkept, huntouched⟩ := hrecords record hrecord
    exact h.known (hnames.record_from record hkept) fun hpurged => huntouched (Or.inl hpurged)
  · intro record hrecord
    obtain ⟨hkept, huntouched⟩ := hrecords record hrecord
    exact h.known (hnames.record_to record hkept) fun hpurged => huntouched (Or.inr hpurged)

end Store

/-- The engine records transitions between known states. -/
theorem Platform.Course.referenced {platform : Platform} {item : Item} {force moving : Bool}
    {transition : Transition} {session session' : Session} {outcome : Outcome}
    (hnames : session.store.Referenced)
    (h : platform.Course item force transition session moving outcome session') :
    session'.store.Referenced := by
  obtain ⟨hstates, hrules, -⟩ := h.frame
  have hstatesOf := Store.states_of_congr hstates
  have hrecords : ∀ record ∈ session'.store.history,
      (session.store.statesOf record.workflowId).Known record.fromSid ∧
        (session.store.statesOf record.workflowId).Known record.toSid := by
    intro record hrecord
    obtain hkept | ⟨hchange, workflow, hready⟩ := h.history_added hrecord
    · exact ⟨hnames.record_from record hkept, hnames.record_to record hkept⟩
    · obtain ⟨hworkflow, -, -, hfrom, hto⟩ := HistoryRecord.change_fields hchange
      rw [hworkflow, hfrom, hto]
      exact hready.known
  constructor
  · rw [hstates, hrules]
    exact hnames.rule_to
  · rw [hrules]
    simpa only [hstatesOf] using hnames.rule_from
  · intro record hrecord
    rw [hstatesOf]
    exact (hrecords record hrecord).1
  · intro record hrecord
    rw [hstatesOf]
    exact (hrecords record hrecord).2

namespace Call

variable {call : Call} {session : Session}

/-- A call that purges a state changes nothing unless there is such a state that is not active, and
then it leaves the store without the state. -/
theorem after_purge {workflow : Workflow} {sid : String}
    (hop : call.operation = .purgeState workflow sid) (session : Session) :
    (∀ state, (session.store.statesOf workflow.id).get? sid = some state → state.active) ∧
        (call.after session).store = session.store ∨
      session.store.Purged workflow.id sid (call.after session).store := by
  rw [after, hop, Operation.perform, Action.run_forget]
  exact Workflow.purge_state_run workflow sid (call.before session)

/-- What rules and records name is kept after every call. -/
theorem after_referenced (hkeys : session.store.Keyed) (hnames : session.store.Referenced) :
    (call.after session).store.Referenced := by
  by_cases hpurge : ∃ workflow sid, call.operation = .purgeState workflow sid
  · obtain ⟨workflow, sid, hop⟩ := hpurge
    rcases after_purge hop session with ⟨-, hstore⟩ | hpurged
    · exact hstore ▸ hnames
    · exact hpurged.referenced hkeys hnames
  · refine after_effects (motive := fun reached => reached.store.Referenced) hnames ?_
    intro first second heffect hnames
    cases heffect with
    | managed h =>
        rcases h.store with hstore | hmanaged
        · exact hstore ▸ hnames
        · exact hmanaged.referenced hnames
    | purged hop => exact absurd ⟨_, _, hop⟩ hpurge
    | saved _ _ hstore => exact hstore ▸ { hnames with }
    | dismissed _ hstore => exact hstore ▸ { hnames with }
    | engaged _ _ _ _ _ hcourse => exact hcourse.referenced hnames
    | scheduled _ hstore => exact hstore ▸ { hnames with }

end Call

namespace Session

/-- What rules and records name is kept after every run where it was before. -/
theorem serve_referenced {session : Session} (hkeys : session.store.Keyed)
    (hnames : session.store.Referenced) (calls : List Call) :
    (session.serve calls).store.Referenced := by
  refine (serve_induction (motive := fun reached =>
    reached.store.Keyed ∧ reached.store.Referenced) ⟨hkeys, hnames⟩ ?_).2
  rintro call - reached ⟨hkeys, hnames⟩
  exact ⟨serve_keyed hkeys [call], Call.after_referenced hkeys hnames⟩

/-- After every run on a new site, rules and records name kept states of their workflows. -/
theorem serve_empty_referenced (context : RequestContext) (log : List LogLine)
    (calls : List Call) : (serve ⟨.empty, context, log⟩ calls).store.Referenced :=
  serve_referenced Store.keyed_empty (by constructor <;> simp [Store.empty]) calls

end Session

end ContentWorkflow
