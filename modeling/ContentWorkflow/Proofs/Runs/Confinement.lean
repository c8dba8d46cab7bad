import ContentWorkflow.Proofs.Runs.Authorization

/-!
# What a call leaves alone

A call that executes a transition, updates an item or reverts a record is about one field of one
item. `Confined` says that from one store to another nothing else was touched, and the main theorem,
`after_confined`, says that of every such call, whether it gives an answer or ends in a fault.
-/

namespace ContentWorkflow

open Relation (ReflTransGen)

/-- From the one store to the other, nothing was touched but the field of the item. The item keeps
its owner and its other fields, records are added to the history and are for the field, and what was
or is pending for other fields is the same. -/
structure Store.Confined (store store' : Store) (target : Target) (fieldName : String) : Prop where
  workflows : store'.workflows = store.workflows
  states : store'.states = store.states
  rules : store'.rules = store.rules
  bindings : store'.bindings = store.bindings
  other_items : ∀ other ≠ target, store'.item? other = store.item? other
  missing : store.item? target = none → store'.item? target = none
  item : ∀ item, store.item? target = some item → ∃ stored, store'.item? target = some stored ∧
    stored.owner = item.owner ∧
    ∀ other ≠ fieldName, stored.fields.get? other = item.fields.get? other
  history : ∃ added, store'.history = store.history ++ added ∧
    ∀ record ∈ added, record.target = target ∧ record.fieldName = fieldName
  pending : (store'.pending.filter fun row => ¬ row.IsFor target fieldName) =
    store.pending.filter fun row => ¬ row.IsFor target fieldName

namespace Store

variable {store store' : Store} {target : Target} {fieldName : String}

/-- Where the items, the administration, the history and the pending transitions are the same,
nothing was touched. -/
theorem Confined.refl (store : Store) : store.Confined store target fieldName where
  workflows := rfl
  states := rfl
  rules := rfl
  bindings := rfl
  other_items := fun _ _ => rfl
  missing := id
  item := fun item hitem => ⟨item, hitem, rfl, fun _ _ => rfl⟩
  history := ⟨[], (List.append_nil _).symm, List.forall_mem_nil _⟩
  pending := rfl

/-- What touches nothing but a field twice touches nothing but the field. -/
theorem Confined.trans {last : Store} (h : store.Confined store' target fieldName)
    (h' : store'.Confined last target fieldName) : store.Confined last target fieldName where
  workflows := h'.workflows.trans h.workflows
  states := h'.states.trans h.states
  rules := h'.rules.trans h.rules
  bindings := h'.bindings.trans h.bindings
  other_items := fun other hother =>
    (h'.other_items other hother).trans (h.other_items other hother)
  missing := fun hmissing => h'.missing (h.missing hmissing)
  item := by
    intro item hitem
    obtain ⟨middle, hmiddle, howner, hfields⟩ := h.item item hitem
    obtain ⟨stored, hstored, howner', hfields'⟩ := h'.item middle hmiddle
    refine ⟨stored, hstored, howner'.trans howner, ?_⟩
    intro other hother
    exact (hfields' other hother).trans (hfields other hother)
  history := by
    obtain ⟨added, hadded, hown⟩ := h.history
    obtain ⟨added', hadded', hown'⟩ := h'.history
    refine ⟨added ++ added', by rw [hadded', hadded, List.append_assoc], ?_⟩
    exact List.forall_mem_append.2 ⟨hown, hown'⟩
  pending := h'.pending.trans h.pending

/-- Steps that touch nothing but a field touch nothing else together. -/
theorem Confined.of_steps {session session' : Session}
    (h : ReflTransGen (fun first second : Session =>
      first.store.Confined second.store target fieldName) session session') :
    session.store.Confined session'.store target fieldName := by
  induction h with
  | refl => exact .refl _
  | tail _ hlast ih => exact ih.trans hlast

/-- Dropping what is pending for a field touches nothing else. -/
theorem confined_drop_pending_for (store : Store) (target : Target) (fieldName : String) :
    store.Confined (store.dropPendingFor target fieldName) target fieldName :=
  { Confined.refl store with pending := by simp [dropPendingFor] }

/-- Adding a pending transition touches nothing but its field. -/
theorem confined_add_pending (store : Store) (transition : Transition) :
    store.Confined (store.addPending transition) transition.target transition.fieldName :=
  { Confined.refl store with
    pending := by simp [addPending, PendingRow.IsFor, PendingRow.of] }

/-- Appending a record touches nothing but its field. -/
theorem confined_append_history (store : Store) (record : HistoryRecord) :
    store.Confined (store.appendHistory record) record.target record.fieldName :=
  { Confined.refl store with
    history := ⟨_, rfl, List.forall_mem_singleton.2 ⟨rfl, rfl⟩⟩ }

/-- Entering an executed transition touches nothing but its field. -/
theorem confined_enter (store : Store) (transition : Transition) :
    store.Confined (store.enter transition) transition.target transition.fieldName := by
  unfold enter
  split
  · exact .refl store
  · exact (confined_append_history store transition.toRecord).trans
      (confined_drop_pending_for _ _ _)

/-- Saving a kept item with another state in a field touches nothing but the field. -/
theorem confined_save_moved {item : Item} (workflow : Workflow) (transition : Transition)
    (hitem : store.item? transition.target = some item) :
    store.Confined (store.saveItem (Platform.moved workflow item transition)) transition.target
      transition.fieldName := by
  obtain ⟨htarget, -⟩ := item_found hitem
  have hmoved : (Platform.moved workflow item transition).target = transition.target := by
    rw [Platform.moved_target, htarget]
  refine { Confined.refl store with other_items := ?_, missing := ?_, item := ?_ }
  · intro other hother
    exact item_save_item_of_ne (hmoved ▸ hother)
  · intro hmissing
    cases hitem.symm.trans hmissing
  · intro found hfound
    obtain rfl := Option.some.inj (hitem.symm.trans hfound)
    refine ⟨store.saved (Platform.moved workflow item transition), ?_, Platform.moved_owner, ?_⟩
    · rw [← hmoved, item_save_item]
    · intro other hother
      -- the saved fields and the kept ones are both those of the item, but for the one that moved
      simp only [saved, hmoved, hitem, Platform.moved_fields, Dictionary.get_union,
        Dictionary.get_insert, if_neg hother, Option.or_self]

end Store

namespace Platform

variable {platform : Platform} {item : Item} {force moving : Bool} {transition : Transition}
  {session session' : Session} {outcome : Outcome} {answer : String × Transition}

/-- Every course on a kept item touches nothing but the field of the transition. -/
theorem Course.confined (hitem : session.store.item? transition.target = some item)
    (h : platform.Course item force transition session moving outcome session') :
    session.store.Confined session'.store transition.target transition.fieldName := by
  cases h with
  | repeated _ _ hstore => exact hstore ▸ .refl _
  | objected _ _ hstore => exact hstore ▸ .refl _
  | empty _ hstore => exact hstore ▸ .refl _
  | unsaved _ _ _ hstore => exact hstore ▸ .refl _
  | scheduled _ _ _ hstore =>
      rw [hstore]
      exact (Store.confined_drop_pending_for _ _ _).trans
        (Store.confined_add_pending _ (transition.validated force))
  | recorded _ _ _ hstore =>
      rw [hstore]
      exact Store.confined_enter _ (platform.hooks.executed (transition.validated force))
  | moved _ _ _ hstore =>
      rw [hstore]
      exact (Store.confined_save_moved _ transition hitem).trans
        (Store.confined_enter _ (platform.hooks.executed (transition.validated force)))

/-- Executing a transition leaves the store as it was, or takes a course that leaves its kept item
where it is. -/
theorem execute_course (h : platform.execute force transition session = .ok (answer, session')) :
    session'.store = session.store ∨
      ∃ item outcome, session.store.item? transition.target = some item ∧
        platform.Course item force (session.store.fill item transition) session false outcome
          session' := by
  obtain ⟨-, hstore, -⟩ | ⟨item, outcome, hitem, hexecute, -⟩ := execute_cases h
  · exact Or.inl hstore
  · exact Or.inr ⟨item, outcome, hitem, execute_on_course hexecute⟩

/-- Updating an item leaves the store as it was, or takes a course on the kept item. -/
theorem update_course (h : platform.update force transition session = .ok (answer, session')) :
    session'.store = session.store ∨
      ∃ item outcome moving, session.store.item? transition.target = some item ∧
        platform.Course item force (session.store.fill item transition) session moving outcome
          session' := by
  obtain ⟨-, hstore, -⟩ | ⟨item, outcome, hitem, hupdate, -⟩ := update_cases h
  · exact Or.inl hstore
  · cases update_on_cases hupdate with
    | unreachable _ hstore => exact Or.inl hstore
    | drifted _ _ _ _ hstore => exact Or.inl hstore
    | carried _ _ _ hcourse => exact Or.inr ⟨item, _, _, hitem, hcourse⟩

/-- Executing a transition touches nothing but its field. -/
theorem execute_confined (h : platform.execute force transition session = .ok (answer, session')) :
    session.store.Confined session'.store transition.target transition.fieldName := by
  obtain hstore | ⟨item, outcome, hitem, hcourse⟩ := execute_course h
  · exact hstore ▸ .refl _
  · rw [← Store.fill_target] at hitem
    simpa using hcourse.confined hitem

/-- Updating an item touches nothing but the field of the transition. -/
theorem update_confined (h : platform.update force transition session = .ok (answer, session')) :
    session.store.Confined session'.store transition.target transition.fieldName := by
  obtain hstore | ⟨item, outcome, moving, hitem, hcourse⟩ := update_course h
  · exact hstore ▸ .refl _
  · rw [← Store.fill_target] at hitem
    simpa using hcourse.confined hitem

/-- Reverting a record touches nothing but the field of the record. -/
theorem revert_confined (platform : Platform) (hid : Int) (agent : Agent) (session : Session)
    {target : Target} {fieldName : String}
    (hfield : ∀ record, session.store.record? hid = some record →
      record.target = target ∧ record.fieldName = fieldName) :
    session.store.Confined ((platform.revert hid agent).run session).2.store target fieldName := by
  rw [revert, historyRecord, Action.run_bind, Action.run_bind, Action.run_store]
  dsimp only
  cases hrecord : session.store.record? hid with
  | none => exact .refl _
  | some record =>
      obtain ⟨rfl, rfl⟩ := hfield record hrecord
      refine .of_steps ((?_ : Action.Makes _ _) session)
      refine .bind .store fun found _ => ?_
      split
      · exact .refuse_bind _
      · refine .bind (.of_step fun _ _ _ h => .single (update_confined h)) fun answer _ => ?_
        split
        · exact .bind (.log (fun _ _ _ => .refl _) _ _) fun _ _ => .pure _
        · exact .pure _

end Platform

namespace Call

variable {call : Call} {session : Session} {target : Target} {fieldName : String}

/-- The call executes a transition, updates an item or reverts a record, and what it does is about
the field of the item. -/
def Concerns (call : Call) (store : Store) (target : Target) (fieldName : String) : Prop :=
  match call.operation with
  | .execute _ transition | .update _ transition =>
      transition.target = target ∧ transition.fieldName = fieldName
  | .revert hid _ => ∀ record, store.record? hid = some record →
      record.target = target ∧ record.fieldName = fieldName
  | _ => False

/-- A call that is one step of a session leaves behind what the answer does, or what it found. -/
theorem after_of_step {α : Type} {run : Session → Except Fault (α × Session)}
    {operation : Operation} (hop : call.operation = operation)
    (hrun : operation.perform call.platform = do let _ ← Action.ofStep run) (session : Session) :
    call.after session = call.before session ∨
      ∃ answer, run (call.before session) = .ok (answer, call.after session) := by
  rw [after, hop, hrun, Action.run_forget, Action.run_of_step]
  cases run (call.before session) with
  | error fault => exact Or.inl rfl
  | ok answer => exact Or.inr ⟨answer.1, rfl⟩

/-- A call that executes a transition, updates an item or reverts a record touches nothing but the
field that it is about, whatever it ends with. -/
theorem after_confined (h : call.Concerns session.store target fieldName) :
    session.store.Confined (call.after session).store target fieldName := by
  have hbefore : session.store.Confined (call.before session).store target fieldName := .refl _
  unfold Concerns at h
  split at h
  · next force transition hop =>
      obtain ⟨rfl, rfl⟩ := h
      obtain hsame | ⟨answer, hanswer⟩ := after_of_step hop rfl session
      · exact hsame ▸ hbefore
      · exact hbefore.trans (Platform.execute_confined hanswer)
  · next force transition hop =>
      obtain ⟨rfl, rfl⟩ := h
      obtain hsame | ⟨answer, hanswer⟩ := after_of_step hop rfl session
      · exact hsame ▸ hbefore
      · exact hbefore.trans (Platform.update_confined hanswer)
  · next hid agent hop =>
      rw [after, hop, Operation.perform, Action.run_forget]
      exact Platform.revert_confined call.platform hid agent (call.before session) h
  · exact h.elim

/-- On the small site an editor takes the node live, which is recorded and touches nothing but the
field of the node. -/
theorem after_confined_small :
    Session.publishing.Concerns .small ⟨"node", 1⟩ "field_state" ∧
      Store.small.Confined (Session.publishing.after ⟨.small, .empty, []⟩).store ⟨"node", 1⟩
        "field_state" ∧
      (Session.publishing.after ⟨.small, .empty, []⟩).store.history ≠ [] := by
  have hconcerns : Session.publishing.Concerns .small ⟨"node", 1⟩ "field_state" := ⟨rfl, rfl⟩
  refine ⟨hconcerns, @after_confined Session.publishing ⟨.small, .empty, []⟩ _ _ hconcerns, ?_⟩
  obtain ⟨reached, harrived⟩ := Session.publishing_arrives
  obtain rfl := harrived.executed
  rw [harrived.history, if_neg (by decide)]
  exact List.concat_ne_nil _ _

end Call

end ContentWorkflow
