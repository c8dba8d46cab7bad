import ContentWorkflow.Proofs.Administration.Creation
import ContentWorkflow.Proofs.Runs.Tracking
import ContentWorkflow.Proofs.Store.Items

/-!
# Moving items out of a state

A state that is deactivated in favour of another one gives up its items: every field that is bound
to the workflow and holds the state is moved by force. `Reassigned` says what is left when some
fields were moved. What is done for one item and adds up is done by the loops over the items of a
field and over the bound fields (`MovesEach`). The main theorem, `deactivate_state_vacates`, says
that none of these moves stands in the way of another, so that the fields which are moved are all
that held the state, and that nothing else changes but the rules and the state (`Vacated`).
-/

namespace ContentWorkflow

namespace Store

variable {store : Store} {entityType fieldName workflowId sid : String} {target : Target}

/-! ## Bindings that are listed -/

/-- The bindings that are listed for a workflow are those to it. -/
theorem mem_binding_list {binding : FieldBinding} :
    binding ∈ store.bindingList (some workflowId) ↔
      binding ∈ store.bindings ∧ binding.workflowId = workflowId := by
  simp [bindingList]

/-- No field is listed twice for a workflow. -/
theorem Keyed.nodup_binding_list (hkeys : store.Keyed) :
    ((store.bindingList (some workflowId)).map fun binding =>
      (binding.entityType, binding.fieldName)).Nodup := by
  rw [bindingList, ((List.mergeSort_perm _ _).map _).nodup_iff]
  exact nodup_drop_rows _ hkeys.bindings

end Store

/-! ## Fields that are moved -/

/-- The field of the item that the record is of. -/
def HistoryRecord.field (record : HistoryRecord) : Target × String :=
  (record.target, record.fieldName)

/-- The field of the item that the pending transition is for. -/
def PendingRow.field (row : PendingRow) : Target × String :=
  (row.target, row.fieldName)

/-- From the one store to the other, the fields were moved from the one state to the other, each
with one record and nothing left pending for it, and everything else but rules and states is as it
was. -/
structure Store.Reassigned (store : Store) (workflowId fromSid toSid : String) (agent : Agent)
    (fields : List (Target × String)) (store' : Store) : Prop where
  values : ∀ target fieldName, store'.fieldValue? target fieldName =
    if (target, fieldName) ∈ fields then some toSid else store.fieldValue? target fieldName
  history : ∃ records, store'.history = store.history ++ records ∧ records.map (·.field) = fields ∧
    ∀ record ∈ records, record.workflowId = workflowId ∧ record.fromSid = fromSid ∧
      record.toSid = toSid ∧ record.agent = agent
  pending : store'.pending = store.pending.filter (·.field ∉ fields)
  workflows : store'.workflows = store.workflows
  bindings : store'.bindings = store.bindings

/-- From the one session to the other, the fields were moved from the one state to the other, and
what the request remembers of other fields is as it was. -/
structure Session.Reassigned (session : Session) (workflowId fromSid toSid : String) (agent : Agent)
    (fields : List (Target × String)) (session' : Session) : Prop where
  store : session.store.Reassigned workflowId fromSid toSid agent fields session'.store
  states : session'.store.states = session.store.states
  rules : session'.store.rules = session.store.rules
  keyed : session'.store.Keyed
  markers : ∀ key : MarkerKey, (key.target, key.fieldName) ∉ fields →
    session'.context.marker? key = session.context.marker? key

section Reassigned

variable {store store' : Store} {session middle session' : Session}
  {workflowId fromSid toSid : String} {agent : Agent} {fields first last : List (Target × String)}

/-- Moving no field is changing nothing. -/
theorem Store.Reassigned.refl (store : Store) :
    store.Reassigned workflowId fromSid toSid agent [] store where
  values := by simp
  history := ⟨[], by simp⟩
  pending := by simp
  workflows := rfl
  bindings := rfl

/-- Where no field was moved the items, the history and the pending transitions are as they were. -/
theorem Store.Reassigned.of_nil
    (h : store.Reassigned workflowId fromSid toSid agent [] store') :
    (∀ target fieldName,
        store'.fieldValue? target fieldName = store.fieldValue? target fieldName) ∧
      store'.history = store.history ∧ store'.pending = store.pending := by
  obtain ⟨records, hhistory, hfields, -⟩ := h.history
  obtain rfl := List.map_eq_nil_iff.1 hfields
  exact ⟨by simpa using h.values, by simpa using hhistory, by simpa using h.pending⟩

/-- Moving some fields and then others is moving them all. -/
theorem Store.Reassigned.trans {last' : Store}
    (h : store.Reassigned workflowId fromSid toSid agent first store')
    (h' : store'.Reassigned workflowId fromSid toSid agent last last') :
    store.Reassigned workflowId fromSid toSid agent (first ++ last) last' where
  values := by
    intro target fieldName
    rw [h'.values, h.values]
    by_cases hlast : (target, fieldName) ∈ last <;> simp [hlast]
  history := by
    obtain ⟨records, hhistory, hfields, hrecords⟩ := h.history
    obtain ⟨records', hhistory', hfields', hrecords'⟩ := h'.history
    refine ⟨records ++ records', ?_, ?_, ?_⟩
    · rw [hhistory', hhistory, List.append_assoc]
    · rw [List.map_append, hfields, hfields']
    · exact List.forall_mem_append.2 ⟨hrecords, hrecords'⟩
  pending := by
    rw [h'.pending, h.pending, List.filter_filter]
    refine List.filter_congr fun row _ => ?_
    simp [Bool.and_comm]
  workflows := h'.workflows.trans h.workflows
  bindings := h'.bindings.trans h.bindings

/-- Moving no field is changing nothing. -/
theorem Session.Reassigned.refl (hkeys : session.store.Keyed) :
    session.Reassigned workflowId fromSid toSid agent [] session :=
  ⟨.refl _, rfl, rfl, hkeys, fun _ _ => rfl⟩

/-- Moving some fields and then others is moving them all. -/
theorem Session.Reassigned.trans
    (h : session.Reassigned workflowId fromSid toSid agent first middle)
    (h' : middle.Reassigned workflowId fromSid toSid agent last session') :
    session.Reassigned workflowId fromSid toSid agent (first ++ last) session' := by
  refine ⟨h.store.trans h'.store, h'.states.trans h.states, h'.rules.trans h.rules, h'.keyed, ?_⟩
  intro key hkey
  rw [List.mem_append, not_or] at hkey
  exact (h'.markers key hkey.2).trans (h.markers key hkey.1)

end Reassigned

/-! ## Moving one field -/

/-- Nothing stands against moving items of the workflow from the one state to the other by force:
both states are known, nobody vetoes, and every item is saved. -/
structure Platform.Movable (platform : Platform) (store : Store)
    (workflowId fromSid toSid : String) : Prop where
  from_known : (store.statesOf workflowId).Known fromSid
  to_known : (store.statesOf workflowId).Known toSid
  from_named : fromSid ≠ ""
  to_named : toSid ≠ ""
  distinct : fromSid ≠ toSid
  unvetoed : ∀ transition agent, platform.hooks.veto? transition agent = none
  saving : ∀ store item, platform.saving store item = .saved

namespace Platform

variable {platform : Platform} {session session' : Session} {workflowId fromSid toSid : String}
  {agent : Agent} {target : Target} {fieldName : String} {force : Bool} {transition : Transition}
  {item : Item}

/-- Items can be moved as long as the states are the same. -/
theorem Movable.of_states {store store' : Store}
    (h : platform.Movable store workflowId fromSid toSid) (hstates : store'.states = store.states) :
    platform.Movable store' workflowId fromSid toSid :=
  { h with
    from_known := (Store.states_of_congr hstates workflowId).symm ▸ h.from_known
    to_known := (Store.states_of_congr hstates workflowId).symm ▸ h.to_known }

/-- Items that can be moved can be moved back. -/
theorem Movable.symm {store : Store} (h : platform.Movable store workflowId fromSid toSid) :
    platform.Movable store workflowId toSid fromSid where
  from_known := h.to_known
  to_known := h.from_known
  from_named := h.to_named
  to_named := h.from_named
  distinct := h.distinct.symm
  unvetoed := h.unvetoed
  saving := h.saving

/-- An update keeps the keys. -/
theorem update_keyed {answer : String × Transition} (hkeys : session.store.Keyed)
    (h : platform.update force transition session = .ok (answer, session')) :
    session'.store.Keyed := by
  obtain ⟨-, hstore, -, -⟩ | ⟨item, outcome, -, hupdate, -⟩ := update_cases h
  · exact hstore ▸ hkeys
  · cases update_on_cases hupdate with
    | unreachable _ hstore => exact hstore ▸ hkeys
    | drifted _ _ _ _ hstore => exact hstore ▸ hkeys
    | carried _ _ _ hcourse => exact hcourse.keyed hkeys

/-- An executed transition leaves what every other field holds. -/
theorem Arrived.field_value_of_ne {reached : Transition}
    (hitem : session.store.item? transition.target = some item)
    (hother : (target, fieldName) ≠ (transition.target, transition.fieldName))
    (h : platform.Arrived session item force transition reached session') :
    session'.store.fieldValue? target fieldName = session.store.fieldValue? target fieldName := by
  by_cases htarget : target = transition.target
  · subst htarget
    obtain ⟨stored, hstored, -, -, hfields, -⟩ := h.field
    have hfield := hfields fieldName fun hname => hother (by rw [hname])
    simp [Store.fieldValue?, hstored, hitem, hfield]
  · rw [Store.fieldValue?, h.other_items target htarget, Store.fieldValue?]

/-- An executed transition that changes the state moves its field. -/
theorem Arrived.reassigned {reached : Transition} (hkeys : session'.store.Keyed)
    (hitem : session.store.item? transition.target = some item)
    (hchanges : transition.ChangesState)
    (h : platform.Arrived session item force transition reached session') :
    session.Reassigned transition.workflowId transition.fromSid transition.toSid transition.agent
      [(transition.target, transition.fieldName)] session' := by
  have hnonempty : ¬ reached.IsEmpty := by
    rw [h.executed]
    exact fun hempty => hempty.1 hchanges
  have hhistory := h.history
  have hpending := h.pending
  rw [if_neg hnonempty] at hhistory hpending
  refine ⟨⟨?_, ⟨_, hhistory, ?_, ?_⟩, ?_, h.workflows, h.bindings⟩, h.states, h.rules, hkeys, ?_⟩
  · intro target fieldName
    by_cases hown : (target, fieldName) = (transition.target, transition.fieldName)
    · obtain ⟨rfl, rfl⟩ := Prod.mk.inj hown
      rw [if_pos (List.mem_singleton_self _), h.field_value]
    · rw [if_neg (mt List.mem_singleton.1 hown), h.field_value_of_ne hitem hown]
  · rw [h.executed]
    rfl
  · rw [h.executed]
    simp [Transition.toRecord, Hooks.executed, Hooks.alterComment, Transition.validated]
  · rw [hpending]
    refine List.filter_congr fun row _ => ?_
    simp [PendingRow.IsFor, PendingRow.field]
  · intro key hkey
    rw [h.remembered, if_neg]
    rintro rfl
    exact hkey (List.mem_singleton_self _)

/-- A transition that leaves the state of its item and is new to the request is executed by force
where items can be moved from the one of its states to the other, and it moves its field. -/
theorem Movable.moves (hmovable : platform.Movable session.store transition.workflowId
      transition.fromSid transition.toSid)
    (hkeys : session.store.Keyed) (hscheduled : transition.scheduled = false)
    (hexecuted : transition.executed = false) (hfollows : session.store.Follows transition item)
    (hfresh : session.context.marker? transition.markerKey = none) :
    ∃ reached session',
      platform.update true transition session = .ok ((transition.toSid, reached), session') ∧
        platform.Arrived session item true transition reached session' ∧
        session.Reassigned transition.workflowId transition.fromSid transition.toSid
          transition.agent [(transition.target, transition.fieldName)] session' := by
  have hfill : session.store.fill item transition = transition :=
    Store.fill_of_named hmovable.from_named
  have hchanges : transition.ChangesState := hmovable.distinct
  have hadmitted : platform.Admitted session item true (session.store.fill item transition) := by
    rw [hfill]
    exact (cleared_of_forced hmovable.to_named hmovable.from_known hmovable.to_known
      hfollows.current hfresh (fun hempty => hempty.1 hchanges) hmovable.unvetoed).admitted hkeys
      hmovable.saving
  obtain ⟨reached, session', hanswer, -, harrived⟩ :=
    update_of_admitted hkeys hfollows.kept hscheduled hexecuted hadmitted
  rw [hfill] at harrived
  have hmoved := harrived.reassigned (update_keyed hkeys hanswer) hfollows.kept hchanges
  exact ⟨reached, session', hanswer, harrived, hmoved⟩

/-- A field that holds the state is moved by force, unless the request has met the transition. -/
theorem Movable.reassigns (hmovable : platform.Movable session.store workflowId fromSid toSid)
    (hkeys : session.store.Keyed) (agent : Agent) (timestamp : Int)
    (hfield : session.store.fieldValue? target fieldName = some fromSid)
    (hfresh : session.context.marker? (Transition.reassigning workflowId target fieldName fromSid
      toSid agent timestamp).markerKey = none) :
    ∃ reached session',
      platform.update true
          (.reassigning workflowId target fieldName fromSid toSid agent timestamp) session =
        .ok ((toSid, reached), session') ∧
      session.Reassigned workflowId fromSid toSid agent [(target, fieldName)] session' := by
  obtain ⟨item, hitem, hvalue⟩ := Option.bind_eq_some_iff.1 hfield
  have hfollows : session.store.Follows
      (.reassigning workflowId target fieldName fromSid toSid agent timestamp) item :=
    ⟨hitem, (Store.current_sid_of_field hvalue workflowId).symm⟩
  obtain ⟨reached, session', hanswer, -, hmoved⟩ :=
    @Movable.moves platform session (.reassigning workflowId target fieldName fromSid toSid agent
      timestamp) item hmovable hkeys rfl rfl hfollows hfresh
  exact ⟨reached, session', hanswer, hmoved⟩

end Platform

/-! ## Moving the fields of a state -/

/-- The request has met no transition of the field. -/
def RequestContext.Unmet (context : RequestContext) (target : Target) (fieldName : String) : Prop :=
  ∀ label, context.marker? ⟨target, fieldName, label⟩ = none

namespace Workflow

open ContentWorkflow.Action

/-- The item is moved by force, and counted where it arrives. -/
def reassignItem (workflow : Workflow) (platform : Platform) (state target : State) (agent : Agent)
    (binding : FieldBinding) (moved : Nat) (id : Int) : Action Nat := do
  let (sid, _) ← Action.ofStep (platform.update true
    (.reassigning workflow.id ⟨binding.entityType, id⟩ binding.fieldName state.id target.id agent
      platform.clock))
  return if sid = target.id then moved + 1 else moved

variable {workflow : Workflow} {platform : Platform} {state target : State}
  {binding : FieldBinding} {session : Session} {agent : Agent}

/-- An item that holds the state arrives, unless the request has met a transition of it. -/
theorem reassign_item_run (agent : Agent)
    (hmovable : platform.Movable session.store workflow.id state.id target.id)
    (hkeys : session.store.Keyed) {id : Int}
    (hfield : session.store.fieldValue? ⟨binding.entityType, id⟩ binding.fieldName = some state.id)
    (hunmet : session.context.Unmet ⟨binding.entityType, id⟩ binding.fieldName) (moved : Nat) :
    ∃ session', (workflow.reassignItem platform state target agent binding moved id).run session =
        (.ok (moved + 1), session') ∧
      session.Reassigned workflow.id state.id target.id agent
        [(⟨binding.entityType, id⟩, binding.fieldName)] session' := by
  obtain ⟨reached, session', hanswer, hmoved⟩ :=
    hmovable.reassigns hkeys agent platform.clock hfield (hunmet _)
  refine ⟨session', ?_, hmoved⟩
  rw [reassignItem, run_bind, run_of_step, hanswer]
  dsimp only
  rw [if_pos rfl]
  rfl

/-- An active state of the workflow is a target for the items of another state. -/
theorem reassignment_target_run {states : States} {sid : String}
    (htarget : states.get? sid = some target) (hactive : target.active = true)
    (hother : target.id ≠ state.id) (hcreation : target.creation = false) (session : Session) :
    (reassignmentTarget states state sid).run session = (.ok target, session) := by
  have hallowed : (states.get? sid).filter (fun target => target.active ∧ target.id ≠ state.id) =
      some target := by
    simp [htarget, hactive, hother]
  rw [reassignmentTarget, hallowed, Action.demand, pure_bind, if_neg (by simp [hcreation])]
  rfl

/-- What moving the items that hold the state comes to, one item after another. `Due` is asked of a
field before it is moved, and `Done` says what was done for some fields and how many items were
counted. What is done for some fields leaves the other fields as they are and due. -/
structure MovesEach (workflow : Workflow) (platform : Platform) (state target : State)
    (agent : Agent) (Due : Session → Target × String → Prop)
    (Done : Session → List (Target × String) → Nat → Session → Prop) : Prop where
  keyed : ∀ {session session' fields count}, Done session fields count session' →
    session'.store.Keyed
  due : ∀ {session session' fields count}, Done session fields count session' →
    ∀ field ∉ fields, Due session field → Due session' field
  others : ∀ {session session' fields count}, Done session fields count session' →
    ∀ field ∉ fields, session'.store.fieldValue? field.1 field.2 = some state.id ↔
      session.store.fieldValue? field.1 field.2 = some state.id
  refl : ∀ {session}, session.store.Keyed → Done session [] 0 session
  trans : ∀ {session middle session' first last count more}, first.Disjoint last →
    Done session first count middle → Done middle last more session' →
    Done session (first ++ last) (count + more) session'
  item : ∀ {session} {binding : FieldBinding} {id : Int}, session.store.Keyed →
    session.store.fieldValue? ⟨binding.entityType, id⟩ binding.fieldName = some state.id →
    Due session (⟨binding.entityType, id⟩, binding.fieldName) →
    ∀ moved, ∃ count session',
      (workflow.reassignItem platform state target agent binding moved id).run session =
        (.ok (moved + count), session') ∧
      Done session [(⟨binding.entityType, id⟩, binding.fieldName)] count session'

namespace MovesEach

variable {Due : Session → Target × String → Prop}
  {Done : Session → List (Target × String) → Nat → Session → Prop}

/-- Different items that hold the state are moved one after another, because moving one leaves the
others where they are. -/
theorem items_run (h : workflow.MovesEach platform state target agent Due Done)
    (hkeys : session.store.Keyed) {ids : List Int} (hnodup : ids.Nodup)
    (hfields : ∀ id ∈ ids, session.store.fieldValue? ⟨binding.entityType, id⟩ binding.fieldName =
      some state.id)
    (hdue : ∀ id ∈ ids, Due session (⟨binding.entityType, id⟩, binding.fieldName)) (moved : Nat) :
    ∃ count session',
      (ids.foldlM (workflow.reassignItem platform state target agent binding) moved).run session =
        (.ok (moved + count), session') ∧
      Done session (ids.map fun id => (⟨binding.entityType, id⟩, binding.fieldName)) count
        session' := by
  induction ids generalizing session moved with
  | nil => exact ⟨0, session, rfl, h.refl hkeys⟩
  | cons id ids ih =>
      rw [List.nodup_cons] at hnodup
      rw [List.forall_mem_cons] at hfields hdue
      obtain ⟨count, middle, hrun, hfirst⟩ := h.item hkeys hfields.1 hdue.1 moved
      have hother : ∀ other ∈ ids, ((⟨binding.entityType, other⟩ : Target), binding.fieldName) ∉
          [((⟨binding.entityType, id⟩ : Target), binding.fieldName)] := by
        intro other hmem hsame
        obtain ⟨⟨-, rfl⟩, -⟩ := by simpa using hsame
        exact hnodup.1 hmem
      have hdisjoint : [((⟨binding.entityType, id⟩ : Target), binding.fieldName)].Disjoint
          (ids.map fun id => (⟨binding.entityType, id⟩, binding.fieldName)) := by
        intro field hsame hlisted
        obtain ⟨other, hmem, rfl⟩ := List.mem_map.1 hlisted
        exact hother other hmem hsame
      obtain ⟨more, session', hrest, hlast⟩ := ih (h.keyed hfirst) hnodup.2
        (fun other hmem => (h.others hfirst _ (hother other hmem)).2 (hfields.2 other hmem))
        (fun other hmem => h.due hfirst _ (hother other hmem) (hdue.2 other hmem)) (moved + count)
      refine ⟨count + more, session', ?_, h.trans hdisjoint hfirst hlast⟩
      rw [List.foldlM_cons, run_bind, hrun]
      dsimp only
      rw [hrest, Nat.add_assoc]

/-- All items that hold the state in a bound field are moved. -/
theorem field_run (h : workflow.MovesEach platform state target agent Due Done)
    (hkeys : session.store.Keyed) (hnamed : state.id ≠ "")
    (hdue : ∀ id, Due session (⟨binding.entityType, id⟩, binding.fieldName)) (moved : Nat) :
    ∃ fields count session',
      (workflow.reassignField platform state target agent binding moved).run session =
        (.ok (moved + count), session') ∧
      Done session fields count session' ∧ fields.Nodup ∧
      ∀ item fieldName, (item, fieldName) ∈ fields ↔
        (item.entityType = binding.entityType ∧ fieldName = binding.fieldName) ∧
          session.store.fieldValue? item fieldName = some state.id := by
  have hlisted : ∀ id,
      id ∈ session.store.itemsInState binding.entityType binding.fieldName state.id ↔
        session.store.fieldValue? ⟨binding.entityType, id⟩ binding.fieldName = some state.id :=
    fun id => hkeys.mem_items_in_state hnamed
  obtain ⟨count, session', hrun, hdone⟩ := h.items_run hkeys hkeys.nodup_items_in_state
    (fun id hid => (hlisted id).1 hid) (fun id _ => hdue id) moved
  refine ⟨_, count, session', hrun, hdone, ?_, ?_⟩
  · refine List.Nodup.map (fun id other hsame => ?_) hkeys.nodup_items_in_state
    simpa using hsame
  · intro item fieldName
    simp only [List.mem_map, Prod.mk.injEq]
    constructor
    · rintro ⟨id, hid, rfl, rfl⟩
      exact ⟨⟨rfl, rfl⟩, (hlisted id).1 hid⟩
    · rintro ⟨⟨htype, rfl⟩, hvalue⟩
      obtain ⟨entityType, id⟩ := item
      obtain rfl : entityType = binding.entityType := htype
      exact ⟨id, (hlisted id).2 hvalue, rfl, rfl⟩

/-- The items of different bound fields are moved field by field, because moving the items of one
field leaves the other fields where they are. -/
theorem bindings_run (h : workflow.MovesEach platform state target agent Due Done)
    (hkeys : session.store.Keyed) (hnamed : state.id ≠ "") {bindings : List FieldBinding}
    (hdistinct : (bindings.map fun binding => (binding.entityType, binding.fieldName)).Nodup)
    (hdue : ∀ binding ∈ bindings, ∀ id,
      Due session (⟨binding.entityType, id⟩, binding.fieldName)) (moved : Nat) :
    ∃ fields count session',
      (bindings.foldlM (fun moved binding =>
          workflow.reassignField platform state target agent binding moved) moved).run session =
        (.ok (moved + count), session') ∧
      Done session fields count session' ∧ fields.Nodup ∧
      ∀ item fieldName, (item, fieldName) ∈ fields ↔
        (∃ binding ∈ bindings,
          item.entityType = binding.entityType ∧ fieldName = binding.fieldName) ∧
          session.store.fieldValue? item fieldName = some state.id := by
  induction bindings generalizing session moved with
  | nil => exact ⟨[], 0, session, rfl, h.refl hkeys, List.nodup_nil, by simp⟩
  | cons binding bindings ih =>
      rw [List.map_cons, List.nodup_cons] at hdistinct
      rw [List.forall_mem_cons] at hdue
      obtain ⟨first, count, middle, hrun, hfirst, hnodup, hmem⟩ :=
        h.field_run hkeys hnamed hdue.1 moved
      -- what is moved first is of the first field, so it is of none of the others
      have hother : ∀ item fieldName, (∃ other ∈ bindings,
          item.entityType = other.entityType ∧ fieldName = other.fieldName) →
          (item, fieldName) ∉ first := by
        rintro item fieldName ⟨other, hother, htype, hfield⟩ hmoved
        obtain ⟨⟨htype', hfield'⟩, -⟩ := (hmem item fieldName).1 hmoved
        refine hdistinct.1 (List.mem_map.2 ⟨other, hother, ?_⟩)
        rw [← htype, ← hfield, htype', hfield']
      obtain ⟨last, more, session', hrest, hlast, hnodup', hmem'⟩ :=
        ih (h.keyed hfirst) hdistinct.2
          (fun other hlater id => h.due hfirst _ (hother _ _ ⟨other, hlater, rfl, rfl⟩)
            (hdue.2 other hlater id)) (moved + count)
      have hdisjoint : first.Disjoint last := by
        rintro ⟨item, fieldName⟩ hmoved hmoved'
        exact hother item fieldName ((hmem' item fieldName).1 hmoved').1 hmoved
      refine ⟨first ++ last, count + more, session', ?_, h.trans hdisjoint hfirst hlast,
        hnodup.append hnodup' hdisjoint, ?_⟩
      · rw [List.foldlM_cons, run_bind, hrun]
        dsimp only
        rw [hrest, Nat.add_assoc]
      · intro item fieldName
        rw [List.mem_append, hmem, hmem', List.exists_mem_cons_iff]
        by_cases hlater : ∃ other ∈ bindings,
            item.entityType = other.entityType ∧ fieldName = other.fieldName
        · rw [h.others hfirst _ (hother item fieldName hlater), or_and_right]
        · simp only [hlater, false_and, or_false]

/-- All items that hold the state in a field bound to the workflow are moved, and no others. -/
theorem reassign_run (h : workflow.MovesEach platform state target agent Due Done)
    (hkeys : session.store.Keyed) (hnamed : state.id ≠ "") (hdue : ∀ field, Due session field)
    (htarget : (session.store.statesOf workflow.id).get? target.id = some target)
    (hactive : target.active = true) (hother : target.id ≠ state.id)
    (hcreation : target.creation = false) :
    ∃ fields count session', (workflow.reassign platform state agent target.id).run session =
        (.ok count, session') ∧
      Done session fields count session' ∧ fields.Nodup ∧
      ∀ item fieldName, (item, fieldName) ∈ fields ↔
        session.store.Binds item.entityType fieldName workflow.id ∧
          session.store.fieldValue? item fieldName = some state.id := by
  obtain ⟨fields, count, session', hrun, hdone, hnodup, hmem⟩ :=
    h.bindings_run hkeys hnamed hkeys.nodup_binding_list (fun _ _ _ => hdue _) 0
  refine ⟨fields, count, session', ?_, hdone, hnodup, ?_⟩
  · rw [reassign, run_bind, run_store]
    dsimp only
    rw [run_bind, reassignment_target_run htarget hactive hother hcreation]
    rw [Nat.zero_add] at hrun
    exact hrun
  · intro item fieldName
    rw [hmem]
    refine and_congr_left fun _ => ?_
    constructor
    · rintro ⟨binding, hbinding, htype, hfield⟩
      obtain ⟨hkept, hworkflow⟩ := Store.mem_binding_list.1 hbinding
      rw [Store.Binds, htype, hfield, ← hworkflow]
      exact hkept
    · intro hbound
      exact ⟨_, Store.mem_binding_list.2 ⟨hbound, rfl⟩, rfl, rfl⟩

end MovesEach

/-- Where nothing stands against moving them, and the request has met no transition of them, all
items that hold the state arrive. -/
theorem moves_each (workflow : Workflow) (platform : Platform) (state target : State)
    (agent : Agent) :
    workflow.MovesEach platform state target agent
      (fun session field => platform.Movable session.store workflow.id state.id target.id ∧
        session.context.Unmet field.1 field.2)
      (fun session fields count session' =>
        session.Reassigned workflow.id state.id target.id agent fields session' ∧
          count = fields.length) where
  keyed h := h.1.keyed
  due h field hother hdue := by
    refine ⟨hdue.1.of_states h.1.states, fun label => ?_⟩
    exact (h.1.markers ⟨field.1, field.2, label⟩ hother).trans (hdue.2 label)
  others h field hother := by rw [h.1.store.values, if_neg hother]
  refl hkeys := ⟨.refl hkeys, rfl⟩
  trans _ h h' := ⟨h.1.trans h'.1, by rw [h.2, h'.2, List.length_append]⟩
  item hkeys hfield hdue moved := by
    obtain ⟨session', hrun, hmoved⟩ := reassign_item_run agent hdue.1 hkeys hfield hdue.2 moved
    exact ⟨1, session', hrun, hmoved, rfl⟩

end Workflow

/-! ## States that are vacated -/

/-- From the one store to the other, the state was taken out of use in favour of the other one: the
fields were moved, the rules of the workflow that touch the state are gone, and the state is not
active. -/
structure Store.Vacated (store : Store) (workflowId fromSid toSid : String) (agent : Agent)
    (fields : List (Target × String)) (store' : Store) : Prop
    extends store.Reassigned workflowId fromSid toSid agent fields store' where
  rules : store'.rules =
    store.rules.filter fun row => ¬ (row.workflowId = workflowId ∧ row.toRule.Touches fromSid)
  states : store'.states =
    store.states.map fun other =>
      if other.id = fromSid then { other with active := false } else other

/-- A kept state that is set inactive is changed in nothing else. -/
theorem Store.Keyed.set_inactive {store : Store} (hkeys : store.Keyed) {state : State}
    (hstate : state ∈ store.states) :
    (store.setState { state with active := false }).states =
      store.states.map fun other =>
        if other.id = state.id then { other with active := false } else other := by
  refine List.map_congr_left fun other hother => ?_
  by_cases hid : other.id = state.id
  · obtain rfl := List.inj_on_of_nodup_map hkeys.states hother hstate hid
    simp
  · simp [hid]

namespace Workflow

open ContentWorkflow.Action

variable {workflow : Workflow} {platform : Platform} {state target : State} {session : Session}

/-- Deactivating a state in favour of another one answers with the number of fields that are moved,
and these are all that hold the state, where nothing stands against moving them. -/
theorem deactivate_state_moves (agent : Agent) (hkeys : session.store.Keyed)
    (hfresh : session.context = .empty) (hstate : state ∈ session.store.states)
    (htarget : target ∈ session.store.states) (hworkflow : state.workflowId = workflow.id)
    (htargetWorkflow : target.workflowId = workflow.id) (hcreation : state.creation = false)
    (htargetCreation : target.creation = false) (hactive : target.active = true)
    (hmovable : platform.Movable session.store workflow.id state.id target.id) :
    ∃ fields session',
      (workflow.deactivateState platform state.id (some target.id) agent).run session =
        (.ok fields.length, session') ∧
      fields.Nodup ∧
      (∀ item fieldName, (item, fieldName) ∈ fields ↔
        session.store.Binds item.entityType fieldName workflow.id ∧
          session.store.fieldValue? item fieldName = some state.id) ∧
      session.store.Vacated workflow.id state.id target.id agent fields session'.store := by
  have hfound : (session.store.statesOf workflow.id).get? state.id = some state :=
    hworkflow ▸ hkeys.state_found hstate
  have htargetFound : (session.store.statesOf workflow.id).get? target.id = some target :=
    htargetWorkflow ▸ hkeys.state_found htarget
  obtain ⟨fields, _, middle, hrun, ⟨hmoved, rfl⟩, hnodup, hmem⟩ :=
    (moves_each workflow platform state target agent).reassign_run hkeys hmovable.from_named
      (fun _ => ⟨hmovable, fun _ => by rw [hfresh]; rfl⟩) htargetFound hactive
      hmovable.distinct.symm htargetCreation
  obtain ⟨session', hwithdraw, hstore⟩ := withdraw_run workflow state fields.length middle
  have hkept : state ∈ middle.store.states := hmoved.states ▸ hstate
  rw [deactivateState, run_bind, state_run, hfound]
  dsimp only
  rw [if_neg (by simp [hcreation]), run_bind, hrun]
  refine ⟨fields, session', hwithdraw, hnodup, hmem, ?_⟩
  rw [hstore]
  refine { hmoved.store with rules := ?_, states := ?_ }
  · rw [← hmoved.rules]
    exact hmoved.keyed.untouched_rules
  · rw [← hmoved.states]
    exact hmoved.keyed.set_inactive hkept

/-- In a reachable store a new request can move the items of any state that is not the creation
state to any active one, where nobody vetoes and every item is saved. The answer is the number of
fields that held the state; they hold the other one afterwards, each with one more record and
nothing pending, and no bound field holds the state. The state is not active, no rule of the
workflow touches it, and everything else is as it was. -/
theorem deactivate_state_vacates (agent : Agent) (hreach : session.store.Reachable)
    (hfresh : session.context = .empty) (hstate : state ∈ session.store.states)
    (htarget : target ∈ session.store.states) (hworkflow : state.workflowId = workflow.id)
    (htargetWorkflow : target.workflowId = workflow.id) (hcreation : state.creation = false)
    (htargetCreation : target.creation = false) (hactive : target.active = true)
    (hother : state.id ≠ target.id)
    (hunvetoed : ∀ transition agent, platform.hooks.veto? transition agent = none)
    (hsaving : ∀ store item, platform.saving store item = .saved) :
    ∃ fields session',
      (workflow.deactivateState platform state.id (some target.id) agent).run session =
        (.ok fields.length, session') ∧
      fields.Nodup ∧
      (∀ item fieldName, (item, fieldName) ∈ fields ↔
        session.store.Binds item.entityType fieldName workflow.id ∧
          session.store.fieldValue? item fieldName = some state.id) ∧
      session.store.Vacated workflow.id state.id target.id agent fields session'.store ∧
      (∀ item fieldName, session'.store.Binds item.entityType fieldName workflow.id →
        session'.store.fieldValue? item fieldName ≠ some state.id) ∧
      (∀ row ∈ session'.store.rules, row.workflowId = workflow.id →
        ¬ row.toRule.Touches state.id) ∧
      ∃ left ∈ session'.store.states, left.id = state.id ∧ left.active = false := by
  have hmovable : platform.Movable session.store workflow.id state.id target.id :=
    { from_known := Store.known_states_of.2 ⟨state, hstate, hworkflow, rfl⟩
      to_known := Store.known_states_of.2 ⟨target, htarget, htargetWorkflow, rfl⟩
      from_named := hreach.named state hstate
      to_named := hreach.named target htarget
      distinct := hother
      unvetoed := hunvetoed
      saving := hsaving }
  obtain ⟨fields, session', hrun, hnodup, hmem, hvacated⟩ :=
    deactivate_state_moves agent hreach.keyed hfresh hstate htarget hworkflow htargetWorkflow
      hcreation htargetCreation hactive hmovable
  refine ⟨fields, session', hrun, hnodup, hmem, hvacated, ?_, ?_, ?_⟩
  · intro item fieldName hbound hheld
    rw [Store.binds_congr hvacated.bindings] at hbound
    rw [hvacated.values] at hheld
    split at hheld
    · exact hother (Option.some.inj hheld).symm
    · next hunmoved => exact hunmoved ((hmem item fieldName).2 ⟨hbound, hheld⟩)
  · intro row hrow hown htouches
    rw [hvacated.rules] at hrow
    exact of_decide_eq_true (List.mem_filter.1 hrow).2 ⟨hown, htouches⟩
  · rw [hvacated.states]
    refine ⟨_, List.mem_map.2 ⟨state, hstate, rfl⟩, ?_⟩
    rw [if_pos rfl]
    exact ⟨rfl, rfl⟩

/-- The node of the small site goes live when the state that it is in is deactivated. -/
theorem deactivate_state_vacates_draft :
    Store.small.Reachable ∧ ∃ (fields : List (Target × String)) (session' : Session),
      (small.deactivateState .small "news_draft" (some "news_live") (.user 1)).run
          ⟨.small, .empty, []⟩ = (.ok fields.length, session') ∧
        (⟨"node", 1⟩, "field_state") ∈ fields ∧
        session'.store.fieldValue? ⟨"node", 1⟩ "field_state" = some "news_live" := by
  obtain ⟨fields, session', hrun, -, hmem, hvacated, -⟩ :=
    @deactivate_state_vacates small .small (.ofLabel "news" "news_draft" "Draft" 1)
      (.ofLabel "news" "news_live" "Live" 2) ⟨.small, .empty, []⟩ (.user 1)
      Session.reachable_small rfl (by decide) (by decide) rfl rfl rfl rfl rfl (by decide)
      (fun _ _ => rfl) fun _ _ => rfl
  have hmoved : ((⟨"node", 1⟩ : Target), "field_state") ∈ fields :=
    (hmem _ _).2 ⟨List.mem_singleton_self _, by decide⟩
  refine ⟨Session.reachable_small, fields, session', hrun, hmoved, ?_⟩
  rw [hvacated.values, if_pos hmoved]
  rfl

end Workflow

end ContentWorkflow
