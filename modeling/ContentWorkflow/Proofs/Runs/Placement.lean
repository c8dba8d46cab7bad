import ContentWorkflow.Proofs.Engine.Rejection
import ContentWorkflow.Proofs.Runs.References
import ContentWorkflow.Proofs.Runs.Tracking

/-!
# Where items may be left

Fields, too, name states by their ids alone, in items that the administration of states does not
look at. A run is orderly when transitions name the workflow that their field is bound to, fields
are not bound anew, and the site saves no item whose bound fields hold anything but states of their
workflows. In such a run the engine moves items to known states only, and states are dropped by
purges alone. The main theorem, `serve_placed`, says that a bound field holds nothing or a known
state, unless a call stranded it (`Strands`): the state was purged while the field held it, which
happens where it was deactivated without moving its items (`purged_under_item`), or an item that a
caller held was saved with it.
-/

namespace ContentWorkflow

namespace Store

/-- The item holds a state in a bound field that its workflow does not have. -/
structure Misplaces (store : Store) (item : Item) (fieldName workflowId sid : String) : Prop where
  bound : store.Binds item.target.entityType fieldName workflowId
  held : item.fieldValue? fieldName = some sid
  unknown : ¬ (store.statesOf workflowId).Known sid

/-- The bound fields of the item are unset or hold known states of their workflows. -/
def Admits (store : Store) (item : Item) : Prop :=
  ∀ fieldName workflowId sid, ¬ store.Misplaces item fieldName workflowId sid

/-- Records and pending transitions name the workflow that their field is bound to. -/
structure Aligned (store : Store) : Prop where
  records : ∀ record ∈ store.history,
    store.Binds record.target.entityType record.fieldName record.workflowId
  pending : ∀ row ∈ store.pending, store.Binds row.target.entityType row.fieldName row.workflowId

/-- The field of the kept item is bound and holds a state that its workflow does not have. -/
structure Strays (store : Store) (target : Target) (fieldName workflowId sid : String) : Prop where
  bound : store.Binds target.entityType fieldName workflowId
  held : store.fieldValue? target fieldName = some sid
  unknown : ¬ (store.statesOf workflowId).Known sid

/-- The keys hold, what is named is kept, and bound fields hold states of their workflows. -/
structure Sound (store : Store) : Prop where
  keyed : store.Keyed
  referenced : store.Referenced
  aligned : store.Aligned
  placed : ∀ target fieldName workflowId sid, ¬ store.Strays target fieldName workflowId sid

/-- The store of a new site is sound. -/
theorem sound_empty : empty.Sound where
  keyed := keyed_empty
  referenced := by constructor <;> simp [empty]
  aligned := by constructor <;> simp [empty]
  placed := fun _ _ _ _ hstrays => absurd hstrays.bound List.not_mem_nil

/-- The store of the small site is sound. -/
theorem sound_small : small.Sound where
  keyed := keyed_small
  referenced :=
    { rule_to := by decide
      rule_from := List.forall_mem_singleton.2 (Or.inr (known_of_small rfl).1)
      record_from := by simp [small]
      record_to := by simp [small] }
  aligned := by constructor <;> simp [small]
  placed := by
    rintro ⟨entityType, entityId⟩ fieldName workflowId sid ⟨hbound, hheld, hunknown⟩
    cases List.mem_singleton.1 hbound
    obtain ⟨item, hitem, hvalue⟩ := Option.bind_eq_some_iff.1 hheld
    obtain ⟨row, hrow, rfl⟩ := Option.map_eq_some_iff.1 hitem
    cases List.mem_singleton.1 (List.mem_of_find?_eq_some hrow)
    obtain rfl : "news_draft" = sid := Option.some.inj hvalue
    exact hunknown (known_of_small rfl).1

variable {store store' : Store} {operation : Operation} {target : Target}
  {fieldName workflowId sid : String}

/-- Records and pending transitions go on to name the workflows of their fields as long as the
bindings stay and nothing is stored but for bound fields. -/
theorem Aligned.of_bound (haligned : store.Aligned)
    (hbindings : ∀ {entityType fieldName workflowId}, store.Binds entityType fieldName workflowId →
      store'.Binds entityType fieldName workflowId)
    (hrecords : ∀ record ∈ store'.history, record ∈ store.history ∨
      store.Binds record.target.entityType record.fieldName record.workflowId)
    (hpending : ∀ row ∈ store'.pending, row ∈ store.pending ∨
      store.Binds row.target.entityType row.fieldName row.workflowId) : store'.Aligned where
  records := fun record hrecord =>
    hbindings ((hrecords record hrecord).elim (haligned.records record) id)
  pending := fun row hrow => hbindings ((hpending row hrow).elim (haligned.pending row) id)

/-! ## Writes that settle -/

/-- What a store makes of the one before when no field is bound and no state is dropped: bindings
and known states stay, and no field strays that did not stray before, unless an item that was handed
in misplaces it. -/
structure Settles (store : Store) (handed : Item → Prop) (store' : Store) : Prop where
  bindings : store'.bindings = store.bindings
  known : ∀ {workflowId sid}, (store.statesOf workflowId).Known sid →
    (store'.statesOf workflowId).Known sid
  strays : ∀ {target fieldName workflowId sid}, store'.Strays target fieldName workflowId sid →
    store.Strays target fieldName workflowId sid ∨
      ∃ item, handed item ∧ item.target = target ∧ store.Misplaces item fieldName workflowId sid

variable {handed : Item → Prop}

/-- A store settles itself. -/
theorem Settles.refl (store : Store) : store.Settles handed store :=
  ⟨rfl, fun hknown => hknown, Or.inl⟩

/-- A store that settles one that settles another settles that. -/
theorem Settles.trans {last : Store} (h : store.Settles handed store')
    (h' : store'.Settles handed last) : store.Settles handed last := by
  refine ⟨h'.bindings.trans h.bindings, fun hknown => h'.known (h.known hknown), fun hstrays => ?_⟩
  obtain hstrays | ⟨item, hhanded, htarget, hbound, hheld, hunknown⟩ := h'.strays hstrays
  · exact h.strays hstrays
  · rw [binds_congr h.bindings] at hbound
    exact Or.inr ⟨item, hhanded, htarget, hbound, hheld, fun hknown => hunknown (h.known hknown)⟩

/-- Where bindings and states stay, it is enough that every field holds what it held, a known state
of its workflow, or what an item that was handed in holds. -/
theorem Settles.of_fields (hbindings : store'.bindings = store.bindings)
    (hstates : store'.states = store.states)
    (hfields : ∀ {target fieldName sid workflowId},
      store.Binds target.entityType fieldName workflowId →
      store'.fieldValue? target fieldName = some sid →
        store.fieldValue? target fieldName = some sid ∨ (store.statesOf workflowId).Known sid ∨
          ∃ item, handed item ∧ item.target = target ∧ item.fieldValue? fieldName = some sid) :
    store.Settles handed store' := by
  refine ⟨hbindings, fun hknown => by rwa [states_of_congr hstates], ?_⟩
  rintro target fieldName workflowId sid ⟨hbound, hheld, hunknown⟩
  rw [states_of_congr hstates] at hunknown
  rw [binds_congr hbindings] at hbound
  obtain hkept | hknown | ⟨item, hhanded, rfl, hbrought⟩ := hfields hbound hheld
  · exact Or.inl ⟨hbound, hkept, hunknown⟩
  · exact absurd hknown hunknown
  · exact Or.inr ⟨item, hhanded, rfl, hbound, hbrought, hunknown⟩

/-- Saving an item settles the store where the item brings nothing but known states. -/
theorem Settles.save_item {item : Item} (hadmits : store.Admits item) :
    store.Settles handed (store.saveItem item) := by
  refine .of_fields rfl rfl fun hbound hheld => ?_
  obtain hkept | ⟨rfl, hbrought⟩ := field_value_save_item hheld
  · exact Or.inl hkept
  · exact Or.inr (Or.inl (not_not.1 fun hunknown => hadmits _ _ _ ⟨hbound, hbrought, hunknown⟩))

/-- An operation that binds no field leaves the bindings alone. -/
theorem Managed.bindings_eq (h : store.Managed operation store')
    (hother : ∀ entityType fieldName workflowId,
      operation ≠ .bindField entityType fieldName workflowId) :
    store'.bindings = store.bindings := by
  obtain ⟨-, -, hsame | ⟨entityType, fieldName, workflowId, hop⟩⟩ := h.tables
  · exact hsame
  · exact absurd hop (hother entityType fieldName workflowId)

/-- The administration settles the store, unless it binds a field. -/
theorem Managed.settles (h : store.Managed operation store')
    (hother : ∀ entityType fieldName workflowId,
      operation ≠ .bindField entityType fieldName workflowId) : store.Settles handed store' := by
  have hbindings := h.bindings_eq hother
  refine ⟨hbindings, h.known, ?_⟩
  rintro target fieldName workflowId sid ⟨hbound, hheld, hunknown⟩
  rw [binds_congr hbindings] at hbound
  rw [field_value_congr h.frame.1] at hheld
  exact Or.inl ⟨hbound, hheld, fun hknown => hunknown (h.known hknown)⟩

/-! ## Purges and bindings -/

/-- A purge leaves the items, the bindings and the pending transitions alone, and only drops
records. -/
theorem Purged.frame (h : store.Purged workflowId sid store') :
    store'.items = store.items ∧ store'.bindings = store.bindings ∧
      store'.pending = store.pending ∧ store'.history ⊆ store.history := by
  rw [h.rest]
  exact ⟨rfl, rfl, rfl, fun _ hrecord => (List.mem_filter.1 hrecord).1⟩

/-- A state that is purged is not known. -/
theorem Purged.unknown (h : store.Purged workflowId sid store') :
    ¬ (store'.statesOf workflowId).Known sid := by
  intro hknown
  obtain ⟨state, hstate, -, hid⟩ := known_states_of.1 hknown
  rw [h.rest] at hstate
  exact of_decide_eq_true (List.mem_filter.1 hstate).2 hid

/-- After a purge a field strays that did so before, or that holds the state which was purged. -/
theorem Purged.strays (hkeys : store.Keyed) (h : store.Purged workflowId sid store')
    {other held : String} (hstrays : store'.Strays target fieldName other held) :
    store.Strays target fieldName other held ∨
      other = workflowId ∧ held = sid ∧ store.fieldValue? target fieldName = some held := by
  obtain ⟨hbound, hheld, hunknown⟩ := hstrays
  obtain ⟨hitems, hbindings, -⟩ := h.frame
  rw [binds_congr hbindings] at hbound
  rw [field_value_congr hitems] at hheld
  by_cases hknown : (store.statesOf other).Known held
  · have hsid : held = sid := not_not.1 fun hother => hunknown (h.known hknown hother)
    exact Or.inr ⟨h.workflow_unique hkeys (hsid ▸ hknown), hsid, hheld⟩
  · exact Or.inl ⟨hbound, hheld, hknown⟩

/-- The field can be bound to the workflow: it is, or it is not bound and the kept items hold
nothing but states of the workflow in it. -/
def Bindable (store : Store) (entityType fieldName workflowId : String) : Prop :=
  store.Binds entityType fieldName workflowId ∨
    (∀ other, ¬ store.Binds entityType fieldName other) ∧
      ∀ entityId sid, store.fieldValue? ⟨entityType, entityId⟩ fieldName = some sid →
        (store.statesOf workflowId).Known sid

variable {entityType : String}

/-- Binding a field that can be bound leaves every other binding as it was. -/
theorem Bindable.aligned (hkeys : store.Keyed) (haligned : store.Aligned)
    (hbindable : store.Bindable entityType fieldName workflowId)
    (h : store.bind ⟨entityType, fieldName, workflowId⟩ = .ok store') : store'.Aligned := by
  have hsame : store'.history = store.history ∧ store'.pending = store.pending := by
    obtain ⟨-, rfl⟩ := bind_ok h
    exact ⟨rfl, rfl⟩
  refine haligned.of_bound (fun hbound => hbound.bind h ?_)
    (fun record hrecord => Or.inl (hsame.1 ▸ hrecord)) fun row hrow => Or.inl (hsame.2 ▸ hrow)
  rintro rfl rfl
  obtain hbound' | ⟨hfree, -⟩ := hbindable
  · exact hkeys.binds_unique hbound hbound'
  · exact absurd hbound (hfree _)

/-- Binding a field that can be bound lets no field stray that did not before. -/
theorem Bindable.strays (hbindable : store.Bindable entityType fieldName workflowId)
    (h : store.bind ⟨entityType, fieldName, workflowId⟩ = .ok store') {otherField other : String}
    (hstrays : store'.Strays target otherField other sid) :
    store.Strays target otherField other sid := by
  obtain ⟨hbound, hheld, hunknown⟩ := hstrays
  have hbefore := binds_of_bind h hbound
  obtain ⟨-, rfl⟩ := bind_ok h
  obtain hkept | hnew := hbefore
  · exact ⟨hkept, hheld, hunknown⟩
  · cases hnew
    obtain hkept | ⟨-, hheld'⟩ := hbindable
    · exact ⟨hkept, hheld, hunknown⟩
    · exact absurd (hheld' target.entityId sid hheld) hunknown

end Store

/-! ## Courses -/

namespace Platform

variable {platform : Platform} {item : Item} {force moving : Bool} {transition : Transition}
  {session session' : Session} {outcome : Outcome} {target : Target} {fieldName sid : String}

/-- What a field holds after a course it held before, or its item was saved with it: it is the state
to reach, which is known, or what the item brought. -/
theorem Course.field_value
    (h : platform.Course item force transition session moving outcome session')
    (hheld : session'.store.fieldValue? target fieldName = some sid) :
    session.store.fieldValue? target fieldName = some sid ∨
      target = item.target ∧
        (fieldName = transition.fieldName ∧ sid = transition.toSid ∧
            (session.store.statesOf transition.workflowId).Known sid ∨
          item.fieldValue? fieldName = some sid) := by
  have hsame : session'.store.items = session.store.items →
      session.store.fieldValue? target fieldName = some sid := by
    intro hitems
    rwa [Store.field_value_congr hitems] at hheld
  cases h with
  | repeated _ _ hstore => exact Or.inl (hsame (by rw [hstore]))
  | objected _ _ hstore => exact Or.inl (hsame (by rw [hstore]))
  | empty _ hstore => exact Or.inl (hsame (by rw [hstore]))
  | unsaved _ _ _ hstore => exact Or.inl (hsame (by rw [hstore]))
  | scheduled _ _ _ hstore => exact Or.inl (hsame (by rw [hstore]; rfl))
  | recorded _ _ _ hstore => exact Or.inl (hsame (by rw [hstore, Store.enter_items]))
  | moved _ hready _ hstore =>
      rw [hstore, Store.field_value_congr Store.enter_items] at hheld
      refine (Store.field_value_save_item hheld).imp_right ?_
      rintro ⟨htarget, hbrought⟩
      rw [moved_target] at htarget
      refine ⟨htarget, ?_⟩
      rw [Item.fieldValue?, moved_fields, Dictionary.get_insert] at hbrought
      split at hbrought
      · next hfield =>
          have hreached : transition.toSid = sid :=
            Option.some.inj (Option.filter_eq_some_iff.1 hbrought).1
          exact Or.inl ⟨hfield, hreached.symm, hreached ▸ hready.known.2⟩
      · exact Or.inr hbrought

/-- A course for a bound field settles the store, where its item is the kept one or was handed
in. -/
theorem Course.settles {handed : Item → Prop} (hkeys : session.store.Keyed)
    (hbound : session.store.Binds item.target.entityType transition.fieldName
      transition.workflowId)
    (hitem : session.store.item? item.target = some item ∨ handed item)
    (h : platform.Course item force transition session moving outcome session') :
    session.store.Settles handed session'.store := by
  obtain ⟨hstates, -, hbindings⟩ := h.frame
  refine .of_fields hbindings hstates fun hbound' hheld => ?_
  obtain hbefore | ⟨rfl, ⟨rfl, -, hknown⟩ | hbrought⟩ := h.field_value hheld
  · exact Or.inl hbefore
  · -- a field is bound to one workflow, the one that the transition names
    rw [hkeys.binds_unique hbound hbound']
    exact Or.inr (Or.inl hknown)
  · rcases hitem with hkept | hhanded
    · exact Or.inl (Option.bind_eq_some_iff.2 ⟨item, hkept, hbrought⟩)
    · exact Or.inr (Or.inr ⟨item, hhanded, rfl, hbrought⟩)

/-- What a course stores for a bound field names the workflow that the field is bound to. -/
theorem Course.aligned (haligned : session.store.Aligned)
    (hbound : session.store.Binds transition.target.entityType transition.fieldName
      transition.workflowId)
    (h : platform.Course item force transition session moving outcome session') :
    session'.store.Aligned := by
  have hbindings := h.frame.2.2
  have hchange : ∀ {record : HistoryRecord}, record.change = transition.toRecord.change →
      session.store.Binds record.target.entityType record.fieldName record.workflowId := by
    intro record hchange
    obtain ⟨hworkflow, htarget, hfield, -⟩ := HistoryRecord.change_fields hchange
    rwa [htarget, hfield, hworkflow]
  refine haligned.of_bound (Store.binds_congr hbindings).2 ?_ ?_
  · intro record hrecord
    refine (h.history_added hrecord).imp_right ?_
    rintro ⟨hsame, -⟩
    exact hchange hsame
  · intro row hrow
    refine (h.pending_added hrow).imp_right ?_
    rintro ⟨-, hsame, -⟩
    exact hchange hsame

end Platform

/-! ## Calls -/

/-- Binding a field is refused and changes nothing, or it is the one write. -/
theorem FieldBinding.create_run (entityType fieldName workflowId : String) (session : Session) :
    ((create entityType fieldName workflowId).run session).2.store = session.store ∨
      session.store.bind ⟨entityType, fieldName, workflowId⟩ =
        .ok ((create entityType fieldName workflowId).run session).2.store := by
  rw [create, Action.run_bind, Action.run_store]
  dsimp only
  split
  · exact Or.inl rfl
  · rw [Action.run_bind, Action.run_attempt]
    cases hwrite : session.store.bind ⟨entityType, fieldName, workflowId⟩ with
    | error constraint => exact Or.inl rfl
    | ok store => exact Or.inr rfl

namespace Call

variable {call : Call} {store : Store} {session session' : Session} {submission : Submission}
  {target : Target} {fieldName workflowId sid : String}

/-- A call that binds a field changes nothing or binds it. -/
theorem after_bind {entityType fieldName workflowId : String}
    (hop : call.operation = .bindField entityType fieldName workflowId) (session : Session) :
    (call.after session).store = session.store ∨
      session.store.bind ⟨entityType, fieldName, workflowId⟩ =
        .ok (call.after session).store := by
  rw [after, hop, Operation.perform, Action.run_forget]
  exact FieldBinding.create_run entityType fieldName workflowId (call.before session)

/-- The call is orderly where it finds the store. A transition names the workflow that its field is
bound to, a field is bound to one workflow and while the kept items hold nothing else in it, and
items that the site saves hold states of their workflows in bound fields. -/
def Orderly (call : Call) (store : Store) : Prop :=
  match call.operation with
  | .execute _ transition | .update _ transition | .schedule transition =>
      store.Binds transition.target.entityType transition.fieldName transition.workflowId
  | .updateContent _ transition item =>
      store.Binds transition.target.entityType transition.fieldName transition.workflowId ∧
        store.Binds item.target.entityType transition.fieldName transition.workflowId
  | .saveContent item => store.Admits item
  | .bindField entityType fieldName workflowId => store.Bindable entityType fieldName workflowId
  | _ => True

/-- The call hands an item to the engine that it holds. -/
def Hands (call : Call) (item : Item) : Prop :=
  ∃ force transition, call.operation = .updateContent force transition item

/-- The call purges a state of the workflow while the field holds it, or it hands in an item whose
field holds a state that the workflow does not have. -/
inductive Strands (call : Call) (store : Store) (target : Target)
    (fieldName workflowId sid : String) : Prop
  | purged (workflow : Workflow) (hid : workflow.id = workflowId)
      (hop : call.operation = .purgeState workflow sid)
      (hheld : store.fieldValue? target fieldName = some sid)
  | handed (item : Item) (hhands : call.Hands item) (htarget : item.target = target)
      (hmisplaced : store.Misplaces item fieldName workflowId sid)

/-- An orderly call submits transitions that name the workflow which their field is bound to. -/
theorem Submits.binds (haligned : store.Aligned) (horderly : call.Orderly store)
    (hbound : ¬ call.IsDeactivation ∨ store.Binds submission.transition.target.entityType
      submission.transition.fieldName submission.transition.workflowId)
    (h : call.Submits store submission) :
    store.Binds submission.transition.target.entityType submission.transition.fieldName
      submission.transition.workflowId := by
  cases h with
  | execute hop => simpa [Orderly, hop] using horderly
  | update hop => simpa [Orderly, hop] using horderly
  | updateContent hop =>
      rw [Orderly, hop] at horderly
      exact horderly.1
  | reassigning hop => exact hbound.resolve_left fun hother => hother ⟨_, _, _, _, hop⟩
  | reverting _ hrecord => exact haligned.records _ (List.mem_of_find?_eq_some hrecord)
  | due _ hrow => exact haligned.pending _ hrow

/-- An orderly call that hands in an item submits it for a field that is bound to the workflow of
the transition. -/
theorem Submits.hands (horderly : call.Orderly store) (h : call.Submits store submission)
    (hheld : ∃ force transition item, call.operation = .updateContent force transition item) :
    call.Hands submission.item ∧ store.Binds submission.item.target.entityType
      submission.transition.fieldName submission.transition.workflowId := by
  obtain ⟨_, _, _, hheld⟩ := hheld
  cases h with
  | updateContent hop =>
      rw [Orderly, hop] at horderly
      exact ⟨⟨_, _, hop⟩, horderly.2⟩
  | execute hop => cases hop.symm.trans hheld
  | update hop => cases hop.symm.trans hheld
  | reassigning hop => cases hop.symm.trans hheld
  | reverting hop => cases hop.symm.trans hheld
  | due hop => cases hop.symm.trans hheld

/-- An orderly call that purges no state and binds no field settles the store, and what it stores
names the workflow that its field is bound to. -/
theorem after_settles (hkeys : session.store.Keyed) (haligned : session.store.Aligned)
    (horderly : call.Orderly session.store)
    (hpurge : ∀ workflow sid, call.operation ≠ .purgeState workflow sid)
    (hbind : ∀ entityType fieldName workflowId,
      call.operation ≠ .bindField entityType fieldName workflowId) :
    session.store.Settles call.Hands (call.after session).store ∧
      (call.after session).store.Aligned := by
  refine (after_effects (motive := fun reached => reached.store.Keyed ∧
    session.store.Settles call.Hands reached.store ∧ reached.store.Aligned)
    ⟨hkeys, .refl session.store, haligned⟩ ?_).2
  rintro first second heffect ⟨hkeys, hsettles, haligned'⟩
  refine ⟨heffect.step.keyed hkeys, ?_⟩
  cases heffect with
  | managed h =>
      rcases h.store with hstore | hmanaged
      · exact hstore ▸ ⟨hsettles, haligned'⟩
      · obtain ⟨-, hhistory, hpending⟩ := hmanaged.frame
        refine ⟨hsettles.trans (hmanaged.settles hbind), haligned'.of_bound ?_ ?_ ?_⟩
        · exact (Store.binds_congr (hmanaged.bindings_eq hbind)).2
        · exact fun record hrecord => Or.inl (hhistory ▸ hrecord)
        · exact fun row hrow => Or.inl (hpending ▸ hrow)
  | purged hop => exact absurd hop (hpurge _ _)
  | saved hop hmoment hstore =>
      rw [Orderly, hop] at horderly
      rw [hstore]
      exact ⟨hsettles.trans (.save_item (hmoment ▸ horderly)), { haligned' with }⟩
  | dismissed _ hstore =>
      rw [hstore]
      refine ⟨hsettles.trans (.of_fields rfl rfl fun _ hheld => Or.inl hheld), haligned'.of_bound id
        (fun record hrecord => Or.inl hrecord) fun row hrow => Or.inl (List.mem_filter.1 hrow).1⟩
  | scheduled hop hstore =>
      rw [Orderly, hop] at horderly
      rw [hstore]
      refine ⟨hsettles.trans (.of_fields rfl rfl fun _ hheld => Or.inl hheld), haligned'.of_bound id
        (fun record hrecord => Or.inl hrecord) ?_⟩
      intro row hrow
      rcases List.mem_append.1 hrow with hrow | hrow
      · exact Or.inl (List.mem_filter.1 hrow).1
      · rw [List.mem_singleton.1 hrow]
        refine Or.inr ?_
        exact (Store.binds_congr hsettles.bindings).2 horderly
  | @engaged submission _ _ hsubmits _ hkept _ hbound hcourse =>
      have hfound := hsubmits.binds haligned horderly hbound
      have hbinds : ∀ {entityType fieldName workflowId},
          session.store.Binds entityType fieldName workflowId →
            first.store.Binds entityType fieldName workflowId :=
        (Store.binds_congr hsettles.bindings).2
      refine ⟨hsettles.trans ?_, hcourse.aligned haligned' ?_⟩
      · rcases hkept with hitem | hheld
        · obtain ⟨htarget, -⟩ := Store.item_found hitem
          refine hcourse.settles hkeys ?_ (Or.inl (htarget ▸ hitem))
          rw [Store.fill_field, Store.fill_workflow, htarget]
          exact hbinds hfound
        · obtain ⟨hhands, hfound⟩ := hsubmits.hands horderly hheld
          refine hcourse.settles hkeys ?_ (Or.inr hhands)
          rw [Store.fill_field, Store.fill_workflow]
          exact hbinds hfound
      · rw [Store.fill_target, Store.fill_field, Store.fill_workflow]
        exact hbinds hfound

/-- After an orderly call, what is stored names the workflow that its field is bound to, and a field
strays only if it strayed before or the call strands it. -/
theorem after_placed (hkeys : session.store.Keyed) (haligned : session.store.Aligned)
    (horderly : call.Orderly session.store) :
    (call.after session).store.Aligned ∧
      ∀ {target fieldName workflowId sid},
        (call.after session).store.Strays target fieldName workflowId sid →
          session.store.Strays target fieldName workflowId sid ∨
            call.Strands session.store target fieldName workflowId sid := by
  by_cases hpurge : ∃ workflow sid, call.operation = .purgeState workflow sid
  · obtain ⟨workflow, sid, hop⟩ := hpurge
    rcases after_purge hop session with ⟨-, hstore⟩ | hpurged
    · rw [hstore]
      exact ⟨haligned, Or.inl⟩
    · obtain ⟨-, hbindings, hpending, hhistory⟩ := hpurged.frame
      refine ⟨haligned.of_bound (Store.binds_congr hbindings).2
        (fun record hrecord => Or.inl (hhistory hrecord))
        fun row hrow => Or.inl (hpending ▸ hrow), fun hstrays => ?_⟩
      refine (hpurged.strays hkeys hstrays).imp_right ?_
      rintro ⟨rfl, rfl, hheld⟩
      exact .purged workflow rfl hop hheld
  · by_cases hbind : ∃ entityType fieldName workflowId,
        call.operation = .bindField entityType fieldName workflowId
    · obtain ⟨entityType, fieldName, workflowId, hop⟩ := hbind
      rw [Orderly, hop] at horderly
      rcases after_bind hop session with hstore | hwrite
      · rw [hstore]
        exact ⟨haligned, Or.inl⟩
      · exact ⟨horderly.aligned hkeys haligned hwrite,
          fun hstrays => Or.inl (horderly.strays hwrite hstrays)⟩
    · obtain ⟨hsettles, haligned'⟩ := after_settles hkeys haligned horderly
        (fun workflow sid hop => hpurge ⟨workflow, sid, hop⟩)
        fun entityType fieldName workflowId hop => hbind ⟨entityType, fieldName, workflowId, hop⟩
      refine ⟨haligned', fun hstrays => (hsettles.strays hstrays).imp_right ?_⟩
      rintro ⟨item, hhands, htarget, hmisplaced⟩
      exact .handed item hhands htarget hmisplaced

end Call

/-! ## Runs -/

/-- A transition of the workflow that leaves the state which the item is in is never rejected for
that state, whoever asks for it, with force or without, and whether it is to be recorded, to move
the kept item or to move the item in the hands of the caller. -/
def Store.Leavable (store : Store) (item : Item) (fieldName workflowId : String) : Prop :=
  ∀ (platform : Platform) (force : Bool) (transition : Transition) (session session' : Session)
    (fromSid : String), session.store = store → transition.target = item.target →
    transition.fieldName = fieldName → transition.workflowId = workflowId →
    (transition.fromSid = "" ∨ transition.fromSid = store.currentSid workflowId item fieldName) →
    (∀ sid reached, platform.execute force transition session = .ok ((sid, reached), session') →
      reached.status ≠ .rejected (.invalidFromState fromSid)) ∧
    (∀ sid reached, platform.update force transition session = .ok ((sid, reached), session') →
      reached.status ≠ .rejected (.invalidFromState fromSid)) ∧
    (∀ outcome, platform.updateOn item force transition session = .ok (outcome, session') →
      outcome.transition.status ≠ .rejected (.invalidFromState fromSid))

/-- A kept item can leave a known state. -/
theorem Store.leavable_of_known {store : Store} {item : Item} {fieldName workflowId : String}
    (hitem : store.item? item.target = some item)
    (hknown : (store.statesOf workflowId).Known (store.currentSid workflowId item fieldName)) :
    store.Leavable item fieldName workflowId := by
  rintro platform force transition session session' fromSid rfl htarget rfl rfl hleaves
  rw [← htarget] at hitem
  have hfill : (session.store.fill item transition).fromSid =
      session.store.currentSid transition.workflowId item transition.fieldName := by
    rw [Store.fill, Transition.leaving_eq]
    dsimp only
    split
    · rfl
    · next hnamed => exact hleaves.resolve_left hnamed
  rw [← hfill] at hknown
  refine ⟨?_, ?_, ?_⟩
  · intro sid reached hexecute hstatus
    exact Platform.execute_invalid_from hitem hexecute hstatus hknown
  · intro sid reached hupdate hstatus
    exact Platform.update_invalid_from hitem hupdate hstatus hknown
  · intro outcome hupdate hstatus
    exact Platform.update_on_invalid_from hupdate hstatus hknown

namespace Session

/-- Every call of the run is orderly where it is served. -/
def Orderly : Session → List Call → Prop
  | _, [] => True
  | session, call :: calls => call.Orderly session.store ∧ (call.after session).Orderly calls

variable {start session : Session} {calls others : List Call}

/-- A run is orderly when its beginning is, and what follows on it. -/
theorem orderly_append :
    session.Orderly (calls ++ others) ↔
      session.Orderly calls ∧ (session.serve calls).Orderly others := by
  induction calls generalizing session with
  | nil => simp [Orderly, serve]
  | cons call calls ih =>
      rw [List.cons_append, Orderly, ih, Orderly, and_assoc]
      rfl

/-- After an orderly run, what is stored names the workflow that its field is bound to. -/
theorem serve_aligned (hkeys : session.store.Keyed) (haligned : session.store.Aligned)
    (horderly : session.Orderly calls) : (session.serve calls).store.Aligned := by
  induction calls generalizing session with
  | nil => exact haligned
  | cons call calls ih =>
      obtain ⟨hcall, hcalls⟩ := horderly
      exact ih (serve_keyed hkeys [call]) (Call.after_placed hkeys haligned hcall).1 hcalls

/-- After an orderly run from a sound store, a field strays only because a call stranded it. -/
theorem serve_strays (hsound : start.store.Sound) (horderly : start.Orderly calls) {target : Target}
    {fieldName workflowId sid : String}
    (hstrays : (start.serve calls).store.Strays target fieldName workflowId sid) :
    ∃ earlier stranding between, calls = earlier ++ stranding :: between ∧
      stranding.Strands (start.serve earlier).store target fieldName workflowId sid := by
  refine serve_origin (fun session => session.store.Strays target fieldName workflowId sid)
    (fun call session => call.Strands session.store target fieldName workflowId sid)
    (hsound.placed _ _ _ _) ?_ hstrays
  rintro earlier call later rfl hstrays
  obtain ⟨hearlier, hcall, -⟩ := orderly_append.1 horderly
  exact (Call.after_placed (serve_keyed hsound.keyed earlier)
    (serve_aligned hsound.keyed hsound.aligned hearlier) hcall).2 hstrays

/-- After an orderly run from a sound store, a bound field of a kept item is unset, or it holds a
known state of its workflow, or one that a call stranded it with. An item whose field is unset is in
a known state, or in the creation state. Every known state can be left. -/
theorem serve_placed (hsound : start.store.Sound) (horderly : start.Orderly calls) {item : Item}
    {fieldName workflowId : String}
    (hitem : (start.serve calls).store.item? item.target = some item)
    (hbound : (start.serve calls).store.Binds item.target.entityType fieldName workflowId) :
    (∀ sid, item.fieldValue? fieldName = some sid →
        ((start.serve calls).store.statesOf workflowId).Known sid ∨
          ∃ earlier stranding between, calls = earlier ++ stranding :: between ∧
            stranding.Strands (start.serve earlier).store item.target fieldName workflowId sid) ∧
      (item.fieldValue? fieldName = none →
        ((start.serve calls).store.statesOf workflowId).Known
            ((start.serve calls).store.currentSid workflowId item fieldName) ∨
          (start.serve calls).store.currentSid workflowId item fieldName =
            MachineName.creationStateId workflowId) ∧
      (((start.serve calls).store.statesOf workflowId).Known
          ((start.serve calls).store.currentSid workflowId item fieldName) →
        (start.serve calls).store.Leavable item fieldName workflowId) := by
  refine ⟨?_, ?_, Store.leavable_of_known hitem⟩
  · intro sid hvalue
    by_cases hknown : ((start.serve calls).store.statesOf workflowId).Known sid
    · exact Or.inl hknown
    · have hheld : (start.serve calls).store.fieldValue? item.target fieldName = some sid :=
        Option.bind_eq_some_iff.2 ⟨item, hitem, hvalue⟩
      exact Or.inr (serve_strays hsound horderly ⟨hbound, hheld, hknown⟩)
  · intro hunset
    have hkeys := serve_keyed hsound.keyed calls
    have hnames := serve_referenced hsound.keyed hsound.referenced calls
    have haligned := serve_aligned hsound.keyed hsound.aligned horderly
    rw [Store.currentSid, hunset, Option.getD_none, Store.previousSid]
    split
    · exact Or.inr rfl
    · split
      · next record hlatest =>
          -- the latest record names the workflow that the field is bound to, and is of known states
          obtain ⟨hrecord, htarget, hfield⟩ := Store.latest_found hlatest
          have hbound' := haligned.records record hrecord
          rw [htarget, hfield] at hbound'
          rw [← hkeys.binds_unique hbound hbound']
          exact Or.inl (hnames.record_to record hrecord)
      · exact Or.inr rfl

/-- The node of the small site is in a state that can be left once an editor took it live. -/
theorem serve_placed_small :
    ∃ item, (serve ⟨.small, .empty, []⟩ [publishing]).store.item? ⟨"node", 1⟩ = some item ∧
      item.fieldValue? "field_state" = some "news_live" ∧
      (serve ⟨.small, .empty, []⟩ [publishing]).store.Leavable item "field_state" "news" := by
  obtain ⟨reached, harrived⟩ := publishing_arrives
  obtain ⟨item, hitem, (hlive : item.fieldValue? "field_state" = some "news_live"), -⟩ :=
    harrived.field
  have htarget : item.target = ⟨"node", 1⟩ := (Store.item_found hitem).1
  have hbound : (publishing.after ⟨.small, .empty, []⟩).store.Binds "node" "field_state" "news" :=
    (Store.binds_congr harrived.bindings).2 (List.mem_singleton_self _)
  obtain ⟨hheld, -, hleavable⟩ := @serve_placed ⟨.small, .empty, []⟩ [publishing] Store.sound_small
    ⟨List.mem_singleton_self _, trivial⟩ item "field_state" "news" (by rwa [htarget])
    (by rwa [htarget])
  refine ⟨item, hitem, hlive, hleavable ?_⟩
  rw [Store.current_sid_of_field hlive]
  obtain hknown | ⟨earlier, stranding, between, hcalls, hstrands⟩ := hheld _ hlive
  · exact hknown
  · have hstranding : stranding ∈ [publishing] := hcalls ▸ by simp
    rw [List.mem_singleton.1 hstranding] at hstrands
    cases hstrands with
    | purged workflow hid hop => cases hop
    | handed item hhands =>
        obtain ⟨_, _, hop⟩ := hhands
        cases hop

/-- The call that takes the draft state of the small site out of use and leaves the node in it. -/
def retiring : Call :=
  ⟨.small, none, .deactivateState .small "news_draft" none .anonymous⟩

/-- The call that purges the draft state of the small site. -/
def purging : Call :=
  ⟨.small, none, .purgeState .small "news_draft"⟩

/-- The draft state of the small site once it is out of use. -/
def retired : State :=
  { State.ofLabel "news" "news_draft" "Draft" 1 with active := false }

/-- The session after the draft state was purged with the node in it. -/
def stranded : Session :=
  serve ⟨.small, .empty, []⟩ [retiring, purging]

/-- Nothing but rules and the draft state changes when that is taken out of use. -/
theorem retiring_after :
    ∃ rules, (retiring.after ⟨.small, .empty, []⟩).store =
      { Store.small.setState retired with rules := rules } := by
  have hdraft : .ofLabel "news" "news_draft" "Draft" 1 ∈ Store.small.states := by decide
  obtain ⟨session', hrun, hstore⟩ :=
    @Workflow.deactivate_state_run .small "news_draft" ⟨.small, .empty, []⟩
      .small .anonymous _ (Store.keyed_small.state_found hdraft) rfl
  have hafter : retiring.after ⟨.small, .empty, []⟩ = session' :=
    Call.after_deactivation rfl hrun
  exact ⟨_, hafter ▸ hstore⟩

/-- The draft state is purged once it is out of use. -/
theorem stranded_purged :
    (retiring.after ⟨.small, .empty, []⟩).store.Purged "news" "news_draft" stranded.store := by
  obtain ⟨rules, hretired⟩ := retiring_after
  have hkept : retired ∈ (retiring.after ⟨.small, .empty, []⟩).store.states := by
    rw [hretired]
    show retired ∈ (Store.small.setState retired).states
    decide
  have hkeys := @serve_keyed ⟨.small, .empty, []⟩ Store.keyed_small [retiring]
  refine (@Call.after_purge purging .small "news_draft" rfl _).resolve_left ?_
  rintro ⟨hactive, -⟩
  exact absurd (hactive retired (hkeys.state_found hkept)) (by decide)

/-- The draft state of the small site can be purged while the node is in it. The field of the node
then holds a state that is not known, and no update takes it out of there, also not by force. -/
theorem purged_under_item :
    Store.small.Sound ∧ Orderly ⟨.small, .empty, []⟩ [retiring, purging] ∧
      stranded.store.Strays ⟨"node", 1⟩ "field_state" "news" "news_draft" ∧
      ∃ sid reached session',
        Platform.small.update true .small ⟨stranded.store, .empty, []⟩ =
            .ok ((sid, reached), session') ∧
          reached.status = .rejected (.invalidFromState "news_draft") := by
  obtain ⟨rules, hretired⟩ := retiring_after
  obtain ⟨hitems, hbindings, -⟩ := stranded_purged.frame
  rw [hretired] at hitems hbindings
  have hitem : stranded.store.item? ⟨"node", 1⟩ = some .small := by
    rw [Store.item_congr hitems]
    rfl
  have hcurrent : stranded.store.currentSid "news" .small "field_state" = "news_draft" :=
    Store.current_sid_of_field rfl "news"
  have hunknown : ¬ (stranded.store.statesOf "news").Known
      (stranded.store.currentSid "news" .small "field_state") :=
    hcurrent ▸ stranded_purged.unknown
  have hlive : (stranded.store.statesOf "news").Known "news_live" := by
    refine stranded_purged.known (Store.known_states_of.2
      ⟨.ofLabel "news" "news_live" "Live" 2, ?_, rfl, rfl⟩) (by decide)
    rw [hretired]
    show _ ∈ (Store.small.setState retired).states
    decide
  refine ⟨Store.sound_small, ⟨trivial, trivial, trivial⟩, ⟨?_, ?_, stranded_purged.unknown⟩, ?_⟩
  · rw [Store.Binds, hbindings]
    exact List.mem_singleton_self _
  · rw [Store.fieldValue?, hitem]
    rfl
  · obtain ⟨sid, reached, session', hanswer⟩ := @Platform.update_answers
      ⟨stranded.store, .empty, []⟩ .small true .small
      (serve_keyed Store.keyed_small [retiring, purging])
    have hstatus := Platform.update_from_unknown hitem rfl (by decide) hlive hunknown rfl hanswer
    exact ⟨sid, reached, session', hanswer, hcurrent ▸ hstatus⟩

end Session

end ContentWorkflow
