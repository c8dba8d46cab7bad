import ContentWorkflow.Proofs.Runs.Freshness
import ContentWorkflow.Proofs.Runs.Placement
import ContentWorkflow.Proofs.Runs.Registry

/-!
# Offers and what is in use

A state that leaves a given one is offered because a rule leads to it. Taking a state out of use
drops its rules, so most offers are of states in use. But a rule can be created for a state that is
out of use already, and a request that remembers its choices does not learn that a state was taken
out of use or that the field was bound to another workflow. The main theorem, `offered_in_use`, says
that there is no fourth way. The runs after it take each of the three.
-/

namespace ContentWorkflow

namespace Store

/-- The workflow has the state, which is active and not its creation state. -/
def InUse (store : Store) (workflowId sid : String) : Prop :=
  ∃ state ∈ store.states, state.workflowId = workflowId ∧ state.id = sid ∧
    state.creation = false ∧ state.active = true

instance (store : Store) (workflowId sid : String) : Decidable (store.InUse workflowId sid) :=
  inferInstanceAs (Decidable (∃ state ∈ store.states, _))

/-- The workflow has the state, which is not active. -/
def OutOfUse (store : Store) (workflowId sid : String) : Prop :=
  ∃ state ∈ store.states, state.workflowId = workflowId ∧ state.id = sid ∧ state.active = false

/-- The workflow has a rule from the one state to the other. -/
def Links (store : Store) (workflowId fromSid toSid : String) : Prop :=
  ∃ row ∈ store.rules, row.workflowId = workflowId ∧ row.fromSid = fromSid ∧ row.toSid = toSid

/-- The field is bound to a workflow in which the state is in use. -/
def Offerable (store : Store) (entityType fieldName sid : String) : Prop :=
  ∃ workflow, store.workflowForField? entityType fieldName = some workflow ∧
    store.InUse workflow.id sid

variable {store store' : Store} {operation : Operation}
  {entityType fieldName workflowId fromSid toSid sid : String}

/-- Nothing is offerable that is not in use in the workflow of the field. -/
theorem Keyed.not_offerable (hkeys : store.Keyed)
    (hbound : store.Binds entityType fieldName workflowId)
    (hunused : ¬ store.InUse workflowId sid) :
    ¬ store.Offerable entityType fieldName sid := by
  rintro ⟨workflow, hfound, hused⟩
  rw [hkeys.binds_unique hbound (binds_of_workflow_for_field hfound)] at hused
  exact hunused hused

/-- A state that is in use stays in use, unless the operation deactivates it. -/
theorem Registers.in_use (hkeys : store.Keyed) (h : store.Registers operation store')
    (hused : store.InUse workflowId sid) :
    store'.InUse workflowId sid ∨ ∃ workflow reassignTo agent, workflow.id = workflowId ∧
      operation = .deactivateState workflow sid reassignTo agent := by
  obtain ⟨state, hstate, rfl, rfl, hcreation, hactive⟩ := hused
  obtain ⟨after, hafter, hbecame⟩ | ⟨hinactive, -⟩ := h.fate hkeys hstate
  · obtain hsame | ⟨-, -, hdeactivated⟩ := hbecame.active
    · exact Or.inl ⟨after, hafter, hbecame.workflow, hbecame.id, hbecame.creation.trans hcreation,
        hsame.trans hactive⟩
    · exact Or.inr hdeactivated
  · cases hactive.symm.trans hinactive

/-- A state that is out of use was out of use before, unless the operation deactivates it. -/
theorem Registers.out_of_use (hkeys : store.Keyed) (h : store.Registers operation store')
    (hunused : store'.OutOfUse workflowId sid) :
    store.OutOfUse workflowId sid ∨ ∃ workflow reassignTo agent, workflow.id = workflowId ∧
      operation = .deactivateState workflow sid reassignTo agent := by
  obtain ⟨state, hstate, rfl, rfl, hinactive⟩ := hunused
  obtain ⟨before, hbefore, hbecame⟩ | hnew := h.origin hkeys hstate
  · rw [hbecame.workflow, hbecame.id]
    obtain hsame | ⟨-, -, hdeactivated⟩ := hbecame.active
    · exact Or.inl ⟨before, hbefore, rfl, rfl, hsame.symm.trans hinactive⟩
    · exact Or.inr hdeactivated
  · -- states are made active
    cases hnew with
    | founded hmade =>
        rw [hmade] at hinactive
        cases hinactive
    | added _ _ hmade =>
        rw [hmade] at hinactive
        cases hinactive

/-- The administration links no two states anew, unless it creates the rule. -/
theorem Managed.links (h : store.Managed operation store')
    (hlinks : store'.Links workflowId fromSid toSid) :
    store.Links workflowId fromSid toSid ∨ ∃ workflow, workflow.id = workflowId ∧
      operation = .createRule workflow fromSid toSid := by
  cases h with
  | addWorkflow hwrite =>
      obtain ⟨-, rfl⟩ := add_workflow_ok hwrite
      exact Or.inl hlinks
  | addState _ hwrite =>
      obtain ⟨-, -, -, rfl⟩ := add_state_ok hwrite
      exact Or.inl hlinks
  | addRule hop _ hwrite =>
      obtain ⟨-, -, -, rfl⟩ := add_rule_ok hwrite
      obtain ⟨row, hrow, rfl, rfl, rfl⟩ := hlinks
      obtain hkept | hadded := List.mem_append.1 hrow
      · exact Or.inl ⟨row, hkept, rfl, rfl, rfl⟩
      · rw [List.mem_singleton.1 hadded]
        exact Or.inr ⟨_, rfl, hop⟩
  | bind _ hwrite =>
      obtain ⟨-, rfl⟩ := bind_ok hwrite
      exact Or.inl hlinks
  | setSettings => exact Or.inl hlinks
  | setState => exact Or.inl hlinks
  | setRule rule =>
      obtain ⟨row, hrow, rfl, rfl, rfl⟩ := hlinks
      obtain ⟨before, hbefore, rfl⟩ := List.mem_map.1 hrow
      refine Or.inl ⟨before, hbefore, ?_⟩
      split <;> exact ⟨rfl, rfl, rfl⟩
  | dropRule id =>
      obtain ⟨row, hrow, hlink⟩ := hlinks
      exact Or.inl ⟨row, (List.mem_filter.1 hrow).1, hlink⟩

end Store

namespace Call

variable {call : Call} {session : Session}
  {entityType fieldName workflowId fromSid toSid sid : String}

/-- A call links no two states anew, unless it creates the rule. -/
theorem after_links (hlinks : (call.after session).store.Links workflowId fromSid toSid) :
    session.store.Links workflowId fromSid toSid ∨ ∃ workflow, workflow.id = workflowId ∧
      call.operation = .createRule workflow fromSid toSid := by
  rw [or_iff_not_imp_right]
  intro hcreates
  refine @after_flow call session
    (fun store => store.Links workflowId fromSid toSid →
      session.store.Links workflowId fromSid toSid)
    id (fun hflow hbefore hlinks => ?_) (fun hwrite hbefore hlinks => ?_)
    (fun _ hbefore => hbefore) hlinks
  · rw [Store.Links, hflow.rules] at hlinks
    exact hbefore hlinks
  · exact hbefore ((hwrite.links hlinks).resolve_right hcreates)

/-- A call that deactivates a state leaves the states as they were, or no rule leads to the state.
-/
theorem after_deactivated {workflow : Workflow} {reassignTo : Option String} {agent : Agent}
    (hop : call.operation = .deactivateState workflow sid reassignTo agent) :
    (call.after session).store.states = session.store.states ∨
      ∀ fromSid, ¬ (call.after session).store.Links workflow.id fromSid sid := by
  rw [after, hop, Operation.perform, Action.run_forget]
  obtain hsame | ⟨state, moved, middle, hfound, -, -, hrun⟩ :=
    Workflow.deactivate_state_cases workflow call.platform sid reassignTo agent
      (call.before session)
  · exact Or.inl hsame
  · obtain ⟨-, -, rfl⟩ := Store.state_kept hfound
    right
    rintro fromSid ⟨row, hrow, hworkflow, -, hto⟩
    rw [hrun] at hrow
    exact Workflow.withdraw_untouched workflow state moved middle row hrow hworkflow (Or.inr hto)

/-- After a call a rule leads to a state that is out of use only where it did so before, or where
the call created the rule while the state was out of use. -/
theorem after_dead_link (hkeys : session.store.Keyed)
    (hlinks : (call.after session).store.Links workflowId fromSid toSid)
    (hunused : (call.after session).store.OutOfUse workflowId toSid) :
    session.store.OutOfUse workflowId toSid ∧
      (session.store.Links workflowId fromSid toSid ∨ ∃ workflow, workflow.id = workflowId ∧
        call.operation = .createRule workflow fromSid toSid) := by
  refine ⟨?_, after_links hlinks⟩
  obtain hbefore | ⟨workflow, reassignTo, agent, rfl, hop⟩ :=
    (call.after_registers session).out_of_use hkeys hunused
  · exact hbefore
  · -- a deactivation that has an effect leaves no rule that leads to the state
    have hsame := (after_deactivated hop).resolve_right fun hnone => hnone fromSid hlinks
    rwa [Store.OutOfUse, hsame] at hunused

/-- A call leaves a field bound to its workflow, unless it binds the field to another one. -/
theorem after_binds (hbound : session.store.Binds entityType fieldName workflowId) :
    (call.after session).store.Binds entityType fieldName workflowId ∨
      ∃ other, other ≠ workflowId ∧ call.operation = .bindField entityType fieldName other := by
  by_cases hbinds : ∃ entityType fieldName workflowId,
      call.operation = .bindField entityType fieldName workflowId
  · obtain ⟨otherType, otherField, other, hop⟩ := hbinds
    obtain hstore | hwrite := after_bind hop session
    · exact Or.inl (hstore ▸ hbound)
    · rw [or_iff_not_imp_right]
      intro hanew
      refine hbound.bind hwrite ?_
      rintro rfl rfl
      by_contra hother
      exact hanew ⟨other, hother, hop⟩
  · have hsame : (call.after session).store.bindings = session.store.bindings := by
      refine after_flow (motive := fun store => store.bindings = session.store.bindings) rfl
        (fun hflow hsame => hflow.bindings.trans hsame) (fun hwrite hsame => ?_)
        (fun _ hsame => hsame)
      exact (hwrite.bindings_eq fun _ _ _ hop => hbinds ⟨_, _, _, hop⟩).trans hsame
    exact Or.inl ((Store.binds_congr hsame).2 hbound)

end Call

/-! ## Runs -/

namespace Session

/-- A call of the run created the rule between the states. The state that it leads to was out of use
then and has been ever since. -/
def RuledOut (start : Session) (calls : List Call) (workflowId fromSid toSid : String) : Prop :=
  ∃ earlier call later workflow, calls = earlier ++ call :: later ∧ workflow.id = workflowId ∧
    call.operation = .createRule workflow fromSid toSid ∧
    ∀ since, since <+: call :: later →
      (start.serve (earlier ++ since)).store.OutOfUse workflowId toSid

/-- A call of the run took the state out of use. -/
def Withdrawn (start : Session) (calls : List Call) (workflowId sid : String) : Prop :=
  ∃ earlier call later, calls = earlier ++ call :: later ∧
    (start.serve earlier).store.InUse workflowId sid ∧
    ¬ (call.after (start.serve earlier)).store.InUse workflowId sid ∧
    ∃ workflow reassignTo agent, workflow.id = workflowId ∧
      call.operation = .deactivateState workflow sid reassignTo agent

/-- A call of the run bound the field to another workflow. -/
def Rebound (start : Session) (calls : List Call) (entityType fieldName workflowId : String) :
    Prop :=
  ∃ earlier call later, calls = earlier ++ call :: later ∧
    (start.serve earlier).store.Binds entityType fieldName workflowId ∧
    ¬ (call.after (start.serve earlier)).store.Binds entityType fieldName workflowId ∧
    ∃ other, other ≠ workflowId ∧ call.operation = .bindField entityType fieldName other

/-- The request is told of the choices what was worked out after the earlier calls: by the call that
came next, where the request remembers it, and only now where it does not. -/
inductive Told (start : Session) (request : RequestContext) (key : ChoicesKey)
    (found : List Choice) (earlier : List Call) : List Call → Prop where
  | fresh (hnew : request.choices? key = none) : Told start request key found earlier []
  | remembered {call : Call} {later : List Call} (hremembered : request.choices? key = some found)
      (hworked : call.WorksOut (start.serve earlier).store key found) :
      Told start request key found earlier (call :: later)

/-- The state is offered out of place: a rule was created that leads to it while it was out of use,
or after the choices had been worked out it was taken out of use or the field was bound anew. -/
inductive Misleads (start : Session) (key : ChoicesKey) (earlier later : List Call)
    (workflowId sid : String) : Prop where
  | ruled {fromSid : String} (hfrom : fromSid = key.fromSid ∨ fromSid = "")
      (h : start.RuledOut earlier workflowId fromSid sid)
  | withdrawn (h : (start.serve earlier).Withdrawn later workflowId sid)
  | rebound (h : (start.serve earlier).Rebound later key.target.entityType key.fieldName workflowId)

variable {start : Session} {calls : List Call} {request : RequestContext} {key : ChoicesKey}
  {found : List Choice} {entityType fieldName workflowId fromSid toSid sid : String}

/-- Where at first no rule leads to a state that is out of use, a rule that does so later was
created by a call of the run for that state, which has been out of use ever since. -/
theorem ruled_out (hkeys : start.store.Keyed)
    (hstart : ∀ row ∈ start.store.rules, ¬ start.store.OutOfUse row.workflowId row.toSid)
    (hlinks : (start.serve calls).store.Links workflowId fromSid toSid)
    (hunused : (start.serve calls).store.OutOfUse workflowId toSid) :
    start.RuledOut calls workflowId fromSid toSid := by
  induction calls using List.reverseRecOn with
  | nil =>
      obtain ⟨row, hrow, rfl, -, rfl⟩ := hlinks
      exact absurd hunused (hstart row hrow)
  | append_singleton calls call ih =>
      have hafter := hunused
      rw [serve_append_singleton] at hlinks hafter
      obtain ⟨hbefore, hlinks | ⟨workflow, hid, hop⟩⟩ :=
        Call.after_dead_link (serve_keyed hkeys calls) hlinks hafter
      · obtain ⟨earlier, origin, later, workflow, rfl, hid, hop, hsince⟩ := ih hlinks hbefore
        refine ⟨earlier, origin, later ++ [call], workflow, by simp, hid, hop, ?_⟩
        intro since hprefix
        rw [← List.cons_append] at hprefix
        obtain rfl | hprefix := List.prefix_concat_iff.1 hprefix
        · rwa [List.append_assoc] at hunused
        · exact hsince since hprefix
      · refine ⟨calls, call, [], workflow, rfl, hid, hop, ?_⟩
        intro since hprefix
        rw [← List.nil_append [call]] at hprefix
        obtain rfl | hprefix := List.prefix_concat_iff.1 hprefix
        · exact hunused
        · rwa [List.prefix_nil.1 hprefix, List.append_nil]

/-- The state that such a rule leads to is out of use after the run. -/
theorem RuledOut.out_of_use (h : start.RuledOut calls workflowId fromSid toSid) :
    (start.serve calls).store.OutOfUse workflowId toSid := by
  obtain ⟨earlier, call, later, workflow, rfl, -, -, hsince⟩ := h
  exact hsince _ (List.prefix_refl _)

/-- A state that is not in use any more was taken out of use. -/
theorem withdrawn_of_in_use (hkeys : start.store.Keyed) (hused : start.store.InUse workflowId sid)
    (hunused : ¬ (start.serve calls).store.InUse workflowId sid) :
    start.Withdrawn calls workflowId sid := by
  refine serve_origin (fun reached => ¬ reached.store.InUse workflowId sid)
    (fun call reached => reached.store.InUse workflowId sid ∧
      ¬ (call.after reached).store.InUse workflowId sid ∧ ∃ workflow reassignTo agent,
        workflow.id = workflowId ∧ call.operation = .deactivateState workflow sid reassignTo agent)
    (not_not.2 hused) ?_ hunused
  rintro earlier call later - hafter
  rw [or_iff_not_imp_left, not_not]
  intro hbefore
  refine ⟨hbefore, hafter, ?_⟩
  exact ((call.after_registers _).in_use (serve_keyed hkeys earlier) hbefore).resolve_left hafter

/-- A field that is not bound to its workflow any more was bound to another one. -/
theorem rebound_of_binds (hbound : start.store.Binds entityType fieldName workflowId)
    (hunbound : ¬ (start.serve calls).store.Binds entityType fieldName workflowId) :
    start.Rebound calls entityType fieldName workflowId := by
  refine serve_origin (fun reached => ¬ reached.store.Binds entityType fieldName workflowId)
    (fun call reached => reached.store.Binds entityType fieldName workflowId ∧
      ¬ (call.after reached).store.Binds entityType fieldName workflowId ∧
      ∃ other, other ≠ workflowId ∧ call.operation = .bindField entityType fieldName other)
    (not_not.2 hbound) ?_ hunbound
  rintro earlier call later - hafter
  rw [or_iff_not_imp_left, not_not]
  exact fun hbefore => ⟨hbefore, hafter, (Call.after_binds hbefore).resolve_left hafter⟩

end Session

/-! ## Answers -/

namespace Platform

variable {platform : Platform} {store : Store} {item : Item} {fieldName fromSid : String}
  {agent : Agent} {force : Bool} {key : ChoicesKey} {found : List Choice} {choice : Choice}

/-- When choices are worked out, a rule of the bound workflow leads to each of them, and it is a
state of the workflow that is in use or not active. -/
theorem WorksOut.leads (h : platform.WorksOut store item key found) (hnames : store.Referenced)
    (hfrom : key.fromSid ≠ "") (hchoice : choice ∈ found) :
    ∃ workflow, store.workflowForField? key.target.entityType key.fieldName = some workflow ∧
      (∃ fromSid, (fromSid = key.fromSid ∨ fromSid = "") ∧
        store.Links workflow.id fromSid choice.sid) ∧
      (store.InUse workflow.id choice.sid ∨ store.OutOfUse workflow.id choice.sid) := by
  obtain ⟨-, workflow, hbound, rfl⟩ := h
  obtain ⟨rule, ⟨-, -, hgoverns⟩, -⟩ := (offered_iff hfrom).1 ⟨choice, hchoice, rfl⟩
  obtain ⟨⟨row, hrow, hworkflow, rfl⟩, hto⟩ := hgoverns.kept
  refine ⟨workflow, hbound, ⟨row.fromSid, ?_, row, hrow, hworkflow, rfl, hto⟩, ?_⟩
  · cases hgoverns with
    | own _ hfrom _ => exact Or.inl hfrom
    | any _ hevery _ _ => exact Or.inr hevery
  · obtain ⟨state, hstate, hsame, hid, hcreation⟩ := hnames.rule_to row hrow
    rw [hworkflow] at hsame
    cases hactive : state.active with
    | true => exact Or.inl ⟨state, hstate, hsame, hid.trans hto, hcreation, hactive⟩
    | false => exact Or.inr ⟨state, hstate, hsame, hid.trans hto, hactive⟩

end Platform

namespace Session

variable {start : Session} {calls : List Call} {request : RequestContext} {platform : Platform}
  {item : Item} {fieldName fromSid : String} {agent : Agent} {force : Bool} {found : List Choice}

/-- What a request of a run is told of choices was worked out at some moment of the run. -/
theorem Holds.told (hheld : start.Holds calls request) (hcontinues : start.Continues calls)
    (hfresh : start.context.choices = [])
    (h : ((platform.choices item fieldName agent fromSid force).run
      ((start.serve calls).within request)).1 = .ok found) :
    ∃ earlier later, calls = earlier ++ later ∧
      start.Told request ⟨item.target, fieldName, fromSid, agent, force⟩ found earlier later ∧
      ∃ platform shown, Platform.WorksOut platform (start.serve earlier).store shown
        ⟨item.target, fieldName, fromSid, agent, force⟩ found := by
  have hrequest : ((start.serve calls).within request).context = request := rfl
  have hstore : ((start.serve calls).within request).store = (start.serve calls).store := rfl
  rw [Platform.choices_run_eq, hrequest, hstore] at h
  cases hremembered : request.choices? ⟨item.target, fieldName, fromSid, agent, force⟩ with
  | some known =>
      rw [hremembered] at h
      cases h
      obtain ⟨earlier, call, later, rfl, hworked⟩ :=
        hheld.worked_out hcontinues hfresh hremembered
      obtain ⟨shown, -, hfound⟩ := hworked.found
      exact ⟨earlier, call :: later, rfl, .remembered hremembered hworked, call.platform, shown,
        hfound⟩
  | none =>
      rw [hremembered] at h
      cases hbound : (start.serve calls).store.boundWorkflow item.target.entityType fieldName with
      | error fault =>
          rw [hbound] at h
          cases h
      | ok workflow =>
          rw [hbound] at h
          cases h
          refine ⟨calls, [], (List.append_nil calls).symm, .fresh hremembered, platform, item, ?_⟩
          exact ⟨rfl, workflow, Platform.bound_workflow_ok.1 hbound, rfl⟩

/-- In a run on a new site, every choice that a request is told of for a given state to leave is a
state in use of the workflow that the field is bound to, unless it is offered out of place: by a
rule that was created for it while it was out of use, or because the request remembers it from
before it was taken out of use or the field was bound to another workflow. -/
theorem offered_in_use (context : RequestContext) (log : List LogLine) (calls : List Call)
    (hfresh : context.choices = []) (hcontinues : Continues ⟨.empty, context, log⟩ calls)
    (hheld : Holds ⟨.empty, context, log⟩ calls request) (hfrom : fromSid ≠ "")
    (h : ((platform.choices item fieldName agent fromSid force).run
      ((serve ⟨.empty, context, log⟩ calls).within request)).1 = .ok found)
    {choice : Choice} (hchoice : choice ∈ found) :
    (serve ⟨.empty, context, log⟩ calls).store.Offerable item.target.entityType fieldName
        choice.sid ∨
      ∃ earlier later workflow, calls = earlier ++ later ∧
        Told ⟨.empty, context, log⟩ request ⟨item.target, fieldName, fromSid, agent, force⟩ found
          earlier later ∧
        (serve ⟨.empty, context, log⟩ earlier).store.workflowForField? item.target.entityType
          fieldName = some workflow ∧
        Misleads ⟨.empty, context, log⟩ ⟨item.target, fieldName, fromSid, agent, force⟩ earlier
          later workflow.id choice.sid := by
  obtain ⟨earlier, later, rfl, htold, platform', shown, hworked⟩ :=
    hheld.told hcontinues hfresh h
  have hkeys := @serve_keyed ⟨.empty, context, log⟩ Store.keyed_empty
  obtain ⟨workflow, hbound, ⟨ruleFrom, hruleFrom, hlinks⟩, hused | hunused⟩ :=
    hworked.leads (serve_empty_referenced context log earlier) hfrom hchoice
  · rw [or_iff_not_imp_left]
    intro hmisled
    refine ⟨earlier, later, workflow, rfl, htold, hbound, ?_⟩
    have hserve : serve ⟨.empty, context, log⟩ (earlier ++ later) =
        (serve ⟨.empty, context, log⟩ earlier).serve later := List.foldl_append
    by_cases hbinds : (serve ⟨.empty, context, log⟩ (earlier ++ later)).store.Binds
        item.target.entityType fieldName workflow.id
    · -- the field has kept its workflow, so the state was withdrawn
      obtain ⟨now, hnow, hid⟩ := (hkeys (earlier ++ later)).workflow_for_binds hbinds
      refine .withdrawn (withdrawn_of_in_use (hkeys earlier) hused fun hstill => ?_)
      exact hmisled ⟨now, hnow, hid ▸ hserve ▸ hstill⟩
    · rw [hserve] at hbinds
      exact .rebound (rebound_of_binds (Store.binds_of_workflow_for_field hbound) hbinds)
  · refine Or.inr ⟨earlier, later, workflow, rfl, htold, hbound, .ruled hruleFrom ?_⟩
    exact ruled_out Store.keyed_empty (fun _ hrow => absurd hrow List.not_mem_nil) hlinks hunused

end Session

/-! ## The small site -/

/-- An editor is offered to take the node of the small site live wherever the rule of the site is
kept for a draft state that can be left and a live state that is known. -/
theorem Platform.offered_small {store : Store} (hrules : store.rules = Store.small.rules)
    (husable : (store.statesOf "news").UsableFrom "news_draft")
    (hknown : (store.statesOf "news").Known "news_live") :
    ∃ choice ∈ small.choicesOf store .small .small (.user 1) "news_draft" false,
      choice.sid = "news_live" := by
  refine (offered_iff (by decide)).2
    ⟨{ Rule.between "news" "news_draft" "news_live" with roles := RoleSet.ofList ["editor"] },
      ⟨husable, hknown, ?_⟩, ?_⟩
  · refine .own ⟨_, ?_, rfl, RuleRow.to_rule_of _⟩ rfl rfl
    rw [hrules]
    exact List.mem_singleton_self _
  · exact Or.inr (Or.inr (Or.inr ⟨"editor", List.mem_singleton_self _, editor_small⟩))

namespace Session

/-- Once the small site is set up, its editor is offered to take the node live, which is in use. -/
theorem offered_in_use_small :
    ∃ found choice, ((Platform.small.choices .small "field_state" (.user 1) "news_draft" false).run
        ((serve ⟨.empty, .empty, []⟩ settingUp).within .empty)).1 = .ok found ∧
      choice ∈ found ∧ choice.sid = "news_live" ∧
      (serve ⟨.empty, .empty, []⟩ settingUp).store.Offerable "node" "field_state" choice.sid := by
  have hactive : ∀ state ∈ (serve ⟨.empty, .empty, []⟩ settingUp).store.states,
      state.active = true := by
    rw [set_up_store]
    decide
  have hknown := Store.known_of_small (congrArg Store.states set_up_store)
  obtain ⟨choice, hchoice, hlive⟩ := Platform.offered_small (congrArg Store.rules set_up_store)
    (Store.usable_from_of hknown.1 hactive) hknown.2
  have hbound : (serve ⟨.empty, .empty, []⟩ settingUp).store.workflowForField? "node"
      "field_state" = some .small := set_up_store ▸ Platform.bound_small
  obtain ⟨session', hrun⟩ := @Platform.choices_run .small .small "field_state" "news_draft"
    (.user 1) false ((serve ⟨.empty, .empty, []⟩ settingUp).within .empty) .small rfl hbound
  have hanswer := congrArg Prod.fst hrun
  refine ⟨_, choice, hanswer, hchoice, hlive, ?_⟩
  have hone : ∀ call ∈ settingUp, call.request = none := by
    simp [settingUp, opening, ruling, granting]
  refine (offered_in_use .empty [] settingUp rfl (continues_of_one hone) .new (by decide) hanswer
    hchoice).resolve_right ?_
  -- a new request remembers nothing, so it could only be misled by a rule, to a state out of use
  rintro ⟨earlier, later, workflow, hsplit, htold, -, hmisleads⟩
  cases htold with
  | remembered hremembered => cases hremembered
  | fresh =>
      rw [List.append_nil] at hsplit
      subst hsplit
      cases hmisleads with
      | ruled _ h =>
          obtain ⟨state, hstate, -, -, hinactive⟩ := h.out_of_use
          cases (hactive state hstate).symm.trans hinactive
      | withdrawn h =>
          obtain ⟨_, _, _, hnone, -⟩ := h
          simp at hnone
      | rebound h =>
          obtain ⟨_, _, _, hnone, -⟩ := h
          simp at hnone

/-- The call that takes the live state of the small site out of use. -/
def withdrawing : Call :=
  ⟨.small, none, .deactivateState .small "news_live" none .anonymous⟩

/-- The live state of the small site once it is out of use. -/
def shelved : State :=
  { State.ofLabel "news" "news_live" "Live" 2 with active := false }

/-- The editor of the small site is offered to take the node to the live state, which is not in use
in the workflow of the field. -/
def Misled (session : Session) : Prop :=
  ∃ found choice, ((Platform.small.choices .small "field_state" (.user 1) "news_draft" false).run
      session).1 = .ok found ∧ choice ∈ found ∧ choice.sid = "news_live" ∧
    ¬ session.store.Offerable "node" "field_state" "news_live"

variable {session : Session}

/-- When the live state of the small site is taken out of use, its rule goes. -/
theorem withdrawing_store (hstore : session.store = Store.small) :
    (withdrawing.after session).store = { Store.small.setState shelved with rules := [] } := by
  obtain ⟨store, context, log⟩ := session
  dsimp only at hstore
  subst hstore
  have hlive : .ofLabel "news" "news_live" "Live" 2 ∈ Store.small.states := by decide
  obtain ⟨session', hrun, hafter⟩ :=
    @Workflow.deactivate_state_run .small "news_live" ⟨.small, context, log⟩ .small .anonymous _
      (Store.keyed_small.state_found hlive) rfl
  have hdropped : (Store.small.rules.filter fun row =>
      ∀ rule ∈ Store.small.touching "news" "news_live", row.id ≠ rule.id) = [] := by
    refine List.filter_eq_nil_iff.2 fun row hrow => ?_
    obtain rfl := List.mem_singleton.1 hrow
    have htouched : (RuleRow.of { Rule.between "news" "news_draft" "news_live" with
        roles := RoleSet.ofList ["editor"] }).toRule ∈ Store.small.touching "news" "news_live" :=
      List.mem_filter.2 ⟨Store.mem_rules_of.2 ⟨_, hrow, rfl, rfl⟩, by decide⟩
    simpa using ⟨_, htouched, rfl⟩
  have hwithdrawn : withdrawing.after ⟨.small, context, log⟩ = session' :=
    Call.after_deactivation rfl hrun
  rw [hwithdrawn, hafter]
  exact congrArg (fun rules => { Store.small.setState shelved with rules := rules }) hdropped

/-- What the editor was told is told again as long as nobody else asks in the same request. -/
theorem misled_of_asking {calls : List Call} {workflowId : String}
    (hquiet : ∀ call ∈ calls, ¬ call.operation.Asks ∧ call.request = none)
    (hbound : (serve ⟨.small, .empty, []⟩ (asking :: calls)).store.Binds "node" "field_state"
      workflowId)
    (hunused : ¬ (serve ⟨.small, .empty, []⟩ (asking :: calls)).store.InUse workflowId
      "news_live") :
    Misled (serve ⟨.small, .empty, []⟩ (asking :: calls)) := by
  obtain ⟨choice, hchoice, hlive⟩ := @Platform.offered_small Store.small rfl
    (Store.usable_from_of (Store.known_of_small rfl).1 (by decide)) (Store.known_of_small rfl).2
  refine ⟨_, choice, Platform.choices_recalled (asking_remembered hquiet), hchoice, hlive, ?_⟩
  exact (serve_keyed Store.keyed_small _).not_offerable hbound hunused

/-- The state is taken out of use after the editor was told of it. -/
theorem misled_by_memory : Misled (serve ⟨.small, .empty, []⟩ [asking, withdrawing]) := by
  have hstore : (serve ⟨.small, .empty, []⟩ [asking, withdrawing]).store = _ :=
    @withdrawing_store (asking.after ⟨.small, .empty, []⟩) rfl
  refine @misled_of_asking _ "news" (List.forall_mem_singleton.2 ⟨id, rfl⟩) ?_ ?_
  · rw [hstore]
    exact List.mem_singleton_self _
  · rw [hstore]
    decide

/-- The calls that create another workflow and bind the field of the small site to it. -/
def rebinding : List Call :=
  [.createWorkflow "sports" "Sports" .standard false,
    .bindField "node" "field_state" "sports"].map fun operation => ⟨.small, none, operation⟩

/-- The field is bound to another workflow after the editor was told of the state. -/
theorem misled_by_binding : Misled (serve ⟨.small, .empty, []⟩ (asking :: rebinding)) := by
  have hstore : ∀ session : Session, session.store = Store.small →
      (session.serve rebinding).store =
        { Store.small with
          workflows := Store.small.workflows ++ [.of ⟨"sports", "Sports", .standard⟩]
          states := Store.small.states ++ [.creationOf "sports"]
          bindings := [⟨"node", "field_state", "sports"⟩] } := by
    rintro ⟨store, context, log⟩ rfl
    with_unfolding_all rfl
  have hrebound : (serve ⟨.small, .empty, []⟩ (asking :: rebinding)).store = _ :=
    hstore (asking.after ⟨.small, .empty, []⟩) rfl
  refine @misled_of_asking _ "sports" ?_ ?_ ?_
  · simp [rebinding, Operation.Asks]
  · rw [hrebound]
    exact List.mem_singleton_self _
  · rw [hrebound]
    decide

/-- The small site with its live state out of use, and its rule to that state. -/
def revived : Store :=
  { Store.small.setState shelved with rules := Store.small.rules }

/-- The rule of the small site can be created and granted again while the live state is out of use.
-/
theorem ruling_store :
    (serve ⟨.small, .empty, []⟩ [withdrawing, ruling, granting]).store = revived := by
  have hwithdrawn := @withdrawing_store ⟨.small, .empty, []⟩ rfl
  have hreach : { Store.small.setState shelved with rules := [] }.Reachable := by
    obtain ⟨session, hsmall, hreach⟩ := reachable_small.after withdrawing
    rwa [withdrawing_store hsmall] at hreach
  have hruleable : { Store.small.setState shelved with rules := [] }.Ruleable "news" "news_draft"
      "news_live" :=
    ⟨⟨shelved, by decide⟩, Or.inr (Store.known_states_of.2
      ⟨.ofLabel "news" "news_draft" "Draft" 1, by decide, rfl, rfl⟩)⟩
  have hruled : (ruling.after (withdrawing.after ⟨.small, .empty, []⟩)).store = _ :=
    Call.after_create_rule rfl (hwithdrawn ▸ hreach) (hwithdrawn ▸ hruleable)
      (by simp [hwithdrawn, Store.Collides]) (by simp [hwithdrawn])
  rw [hwithdrawn] at hruled
  show (granting.after (ruling.after (withdrawing.after ⟨.small, .empty, []⟩))).store = _
  generalize ruling.after _ = ruled at hruled
  obtain ⟨store, context, log⟩ := ruled
  dsimp only at hruled
  subst hruled
  with_unfolding_all rfl

/-- A new rule to the live state, which is out of use, has the editor told of it. -/
theorem misled_by_rule : Misled (serve ⟨.small, .empty, []⟩ [withdrawing, ruling, granting]) := by
  have hstore := ruling_store
  have hquiet := @serve_quiet ⟨.small, .empty, []⟩ [withdrawing, ruling, granting]
    (by simp [withdrawing, ruling, granting, Operation.Asks])
  have hkeys := @serve_keyed ⟨.small, .empty, []⟩ Store.keyed_small [withdrawing, ruling, granting]
  -- what follows needs no more of the session than its store and that it remembers no choices
  generalize serve ⟨.small, .empty, []⟩ [withdrawing, ruling, granting] = session at *
  obtain ⟨store, context, log⟩ := session
  obtain rfl : store = revived := hstore
  have hdraft := @Store.Keyed.state_found revived hkeys
    (.ofLabel "news" "news_draft" "Draft" 1) (by decide)
  obtain ⟨choice, hchoice, hlive⟩ := @Platform.offered_small revived rfl ⟨_, hdraft, Or.inl rfl⟩
    (Store.known_states_of.2 ⟨shelved, by decide, rfl, rfl⟩)
  have hnone : context.choices = [] := hquiet
  have hnew : context.choices? ⟨⟨"node", 1⟩, "field_state", "news_draft", .user 1, false⟩ =
      none := by
    rw [RequestContext.choices?, hnone]
    rfl
  obtain ⟨session', hrun⟩ := @Platform.choices_run .small .small "field_state" "news_draft"
    (.user 1) false ⟨revived, context, log⟩ .small hnew Platform.bound_small
  refine ⟨_, choice, congrArg Prod.fst hrun, hchoice, hlive, ?_⟩
  have hbound : revived.Binds "node" "field_state" "news" := List.mem_singleton_self _
  have hunused : ¬ revived.InUse "news" "news_live" := by decide
  exact hkeys.not_offerable hbound hunused

/-- An editor is offered a state that is not in use in the workflow of the field where a rule was
created for it while it was out of use, where it was taken out of use after the request had asked,
and where the field was bound to another workflow after that. -/
theorem offered_out_of_use :
    Store.small.Reachable ∧
      Misled (serve ⟨.small, .empty, []⟩ [withdrawing, ruling, granting]) ∧
      Misled (serve ⟨.small, .empty, []⟩ [asking, withdrawing]) ∧
      Misled (serve ⟨.small, .empty, []⟩ (asking :: rebinding)) :=
  ⟨reachable_small, misled_by_rule, misled_by_memory, misled_by_binding⟩

end Session

end ContentWorkflow
