import ContentWorkflow.Engine.Platform
import ContentWorkflow.Store.Pending
import ContentWorkflow.Store.Rules
import ContentWorkflow.Store.States

/-!
# Looking up what is kept

What the look-ups of a store answer in terms of its rows, and what they answer after a write.
`item_save_item` says what is kept of an item that was saved; `current_sid_congr` says that the
state an item is in depends on the item and on the history alone. More closely it depends on the
field and its trail, so a transition that follows on it goes on to do so as long as what happens
spares the field (`Spares.follows`).
-/

namespace ContentWorkflow

/-- A state is known when some state of the list has its id. -/
theorem States.known_iff {states : States} {sid : String} :
    states.Known sid ↔ ∃ state ∈ states.toList, state.id = sid := by
  simp [Known, get?]

namespace Store

variable {store : Store}

/-! ## Look-ups and rows -/

/-- The states of a workflow depend on nothing of the store but the states. -/
theorem states_of_congr {other : Store} (h : other.states = store.states) (workflowId : String) :
    other.statesOf workflowId = store.statesOf workflowId := by
  rw [statesOf, h, statesOf]

/-- A state is known to a workflow when some kept state has its id and belongs to the workflow. -/
theorem known_states_of {workflowId sid : String} :
    (store.statesOf workflowId).Known sid ↔
      ∃ state ∈ store.states, state.workflowId = workflowId ∧ state.id = sid := by
  simp [States.known_iff, statesOf, States.mem_of_list, and_assoc]

/-- A known state may be left where all states are active. -/
theorem usable_from_of {workflowId sid : String} (hknown : (store.statesOf workflowId).Known sid)
    (hactive : ∀ state ∈ store.states, state.active = true) :
    (store.statesOf workflowId).UsableFrom sid := by
  obtain ⟨state, hstate⟩ := Option.isSome_iff_exists.1 hknown
  have hmem : state ∈ (store.statesOf workflowId).toList := List.mem_of_find?_eq_some hstate
  exact ⟨state, hstate, Or.inl (hactive state (List.mem_filter.1 (States.mem_of_list.1 hmem)).1)⟩

/-- The rules of a workflow are the rules of the rows with its id. -/
theorem mem_rules_of {workflowId : String} {rule : Rule} :
    rule ∈ (store.rulesOf workflowId).toList ↔
      ∃ row ∈ store.rules, row.workflowId = workflowId ∧ row.toRule = rule := by
  simp [rulesOf, and_assoc]

/-- A workflow is found under its own id. -/
theorem workflow_id {id : String} {workflow : Workflow}
    (h : store.workflow? id = some workflow) : workflow.id = id := by
  obtain ⟨row, hrow, rfl⟩ := Option.map_eq_some_iff.1 h
  simpa [WorkflowRow.toWorkflow] using List.find?_some hrow

/-- An item is found under its own target and was saved before. -/
theorem item_found {target : Target} {item : Item} (h : store.item? target = some item) :
    item.target = target ∧ item.isNew = false := by
  obtain ⟨row, hrow, rfl⟩ := Option.map_eq_some_iff.1 h
  exact ⟨by simpa [ItemRow.toItem] using List.find?_some hrow, rfl⟩

/-- The field is bound to the workflow. -/
def Binds (store : Store) (entityType fieldName workflowId : String) : Prop :=
  ⟨entityType, fieldName, workflowId⟩ ∈ store.bindings

/-- What a field is bound to depends on nothing of the store but the bindings. -/
theorem binds_congr {other : Store} (h : other.bindings = store.bindings)
    {entityType fieldName workflowId : String} :
    other.Binds entityType fieldName workflowId ↔ store.Binds entityType fieldName workflowId := by
  rw [Binds, h, Binds]

/-- A field is bound to the workflow that is found for it. -/
theorem binds_of_workflow_for_field {entityType fieldName : String} {workflow : Workflow}
    (h : store.workflowForField? entityType fieldName = some workflow) :
    store.Binds entityType fieldName workflow.id := by
  obtain ⟨binding, hbinding, hworkflow⟩ := Option.bind_eq_some_iff.1 h
  obtain ⟨rfl, rfl⟩ : binding.entityType = entityType ∧ binding.fieldName = fieldName := by
    simpa using List.find?_some hbinding
  rw [workflow_id hworkflow]
  exact List.mem_of_find?_eq_some hbinding

/-! ## Items after a write -/

/-- The item as it is kept once it was saved over the kept one. -/
def saved (store : Store) (item : Item) : Item :=
  { item with
    fields := match store.item? item.target with
      | some kept => kept.fields.union item.fields
      | none => item.fields
    isNew := false }

/-- Where rows are changed and their keys stay, a key finds the row that it found before, changed.
-/
theorem find_changed {ρ κ : Type} [DecidableEq κ] {key : ρ → κ} {change : ρ → ρ}
    (hchange : ∀ row, key (change row) = key row) (rows : List ρ) (wanted : κ) :
    (rows.map change).find? (fun row => key row = wanted) =
      (rows.find? fun row => key row = wanted).map change := by
  rw [List.find?_map]
  congr 2
  funext row
  rw [Function.comp, hchange]

/-- Updating the row of an item changes no target, so the row that a target finds is the row that
it found before, updated. -/
theorem find_update_rows (rows : List ItemRow) (item : Item) (target : Target) :
    (rows.map fun row => if row.target = item.target then row.update item else row).find?
        (·.target = target) =
      (rows.find? (·.target = target)).map fun row =>
        if row.target = item.target then row.update item else row :=
  find_changed (fun row => by split <;> rfl) rows target

/-- The items that are found depend on nothing of the store but the items. -/
theorem item_congr {other : Store} (h : other.items = store.items) (target : Target) :
    other.item? target = store.item? target := by
  rw [item?, h, item?]

/-- A saved item is found as it was saved, with the fields that it did not name as they were. -/
theorem item_save_item (item : Item) :
    (store.saveItem item).item? item.target = some (store.saved item) := by
  cases hkept : store.items.find? (·.target = item.target) with
  | none =>
      have hnone : store.item? item.target = none := by simp [item?, hkept]
      have hrows : (store.saveItem item).items = store.items ++ [.of item] := by
        simp [saveItem, hnone]
      simp [item?, hrows, hkept, saved, ItemRow.of, ItemRow.toItem]
  | some row =>
      -- the row keeps its place, so the target finds it again, updated
      have hsome : store.item? item.target = some row.toItem := by simp [item?, hkept]
      have hrows : (store.saveItem item).items =
          store.items.map fun row => if row.target = item.target then row.update item else row := by
        simp [saveItem, hsome]
      have htarget : row.target = item.target := by simpa using List.find?_some hkept
      rw [item?, hrows, find_update_rows, hkept]
      simp [htarget, saved, hsome, ItemRow.update, ItemRow.toItem]

/-- Saving an item leaves every other item as it was. -/
theorem item_save_item_of_ne {item : Item} {target : Target} (h : target ≠ item.target) :
    (store.saveItem item).item? target = store.item? target := by
  by_cases hkept : (store.item? item.target).isSome
  · have hrows : (store.saveItem item).items =
        store.items.map fun row => if row.target = item.target then row.update item else row := by
      simp [saveItem, hkept]
    rw [item?, hrows, find_update_rows, item?]
    cases hfound : store.items.find? (·.target = target) with
    | none => rfl
    | some row =>
        have htarget : row.target = target := by simpa using List.find?_some hfound
        simp [htarget, h]
  · have hrows : (store.saveItem item).items = store.items ++ [.of item] := by
      simp [saveItem, hkept]
    have hnew : ¬ (ItemRow.of item).target = target := fun heq => h heq.symm
    simp [item?, hrows, List.find?_append, hnew]

/-! ## Writes that may break a key -/

/-- A workflow is added under a new id. -/
theorem add_workflow_ok {workflow : Workflow} {store' : Store}
    (h : store.addWorkflow workflow = .ok store') :
    ¬ store.HasWorkflow workflow.id ∧
      store' = { store with workflows := store.workflows ++ [.of workflow] } := by
  rw [addWorkflow] at h
  split at h
  · cases h
  · next hnew =>
      cases h
      exact ⟨hnew, rfl⟩

/-- A state is added to a kept workflow under a new id, and only one as its creation state. -/
theorem add_state_ok {state : State} {store' : Store} (h : store.addState state = .ok store') :
    ¬ (store.state? state.id).isSome ∧
      (state.creation = true → ∀ other ∈ store.states, other.creation = true →
        other.workflowId ≠ state.workflowId) ∧
      store.HasWorkflow state.workflowId ∧
      store' = { store with states := store.states ++ [state] } := by
  rw [addState] at h
  split at h
  · cases h
  · next hcreation =>
      split at h
      · cases h
      · next hnew =>
          split at h
          · next hworkflow =>
              cases h
              refine ⟨hnew, ?_, hworkflow, rfl⟩
              intro hfirst other hother hmarked hsame
              exact hcreation ⟨hfirst, other, hother, hmarked, hsame⟩
          · cases h

/-- A rule is added to a kept workflow under a new id and for a new pair of states. -/
theorem add_rule_ok {rule : Rule} {store' : Store} (h : store.addRule rule = .ok store') :
    ¬ (store.rule? rule.id).isSome ∧
      (∀ row ∈ store.rules, ¬ (row.workflowId = rule.workflowId ∧ row.fromSid = rule.fromSid ∧
        row.toSid = rule.toSid)) ∧
      store.HasWorkflow rule.workflowId ∧
      store' = { store with rules := store.rules ++ [.of rule] } := by
  rw [addRule] at h
  split at h
  · cases h
  · next hpair =>
      split at h
      · cases h
      · next hnew =>
          split at h
          · next hworkflow =>
              cases h
              exact ⟨hnew, fun row hrow hsame => hpair ⟨row, hrow, hsame⟩, hworkflow, rfl⟩
          · cases h

/-- A field is bound to a kept workflow. -/
theorem bind_ok {binding : FieldBinding} {store' : Store} (h : store.bind binding = .ok store') :
    store.HasWorkflow binding.workflowId ∧
      store' = { store with
        bindings :=
          if (store.binding? binding.entityType binding.fieldName).isSome then
            store.bindings.map fun other =>
              if other.entityType = binding.entityType ∧ other.fieldName = binding.fieldName
              then binding else other
          else store.bindings ++ [binding] } := by
  rw [Store.bind] at h
  split at h
  · next hworkflow =>
      cases h
      exact ⟨hworkflow, rfl⟩
  · cases h

/-- The fields that are bound after a field was bound: those that were, and the field. -/
theorem binds_of_bind {entityType fieldName workflowId : String} {binding : FieldBinding}
    {store' : Store} (h : store.bind binding = .ok store')
    (hbound : store'.Binds entityType fieldName workflowId) :
    store.Binds entityType fieldName workflowId ∨
      binding = ⟨entityType, fieldName, workflowId⟩ := by
  obtain ⟨-, rfl⟩ := bind_ok h
  rw [Binds] at hbound
  dsimp only at hbound
  split at hbound
  · obtain ⟨other, hother, hsame⟩ := List.mem_map.1 hbound
    split at hsame
    · exact Or.inr hsame
    · rw [hsame] at hother
      exact Or.inl hother
  · rcases List.mem_append.1 hbound with hkept | hnew
    · exact Or.inl hkept
    · exact Or.inr (List.mem_singleton.1 hnew).symm

/-- A field that is bound stays bound to its workflow, unless it is bound anew. -/
theorem Binds.bind {entityType fieldName workflowId : String} {binding : FieldBinding}
    {store' : Store} (hbound : store.Binds entityType fieldName workflowId)
    (h : store.bind binding = .ok store')
    (hother : binding.entityType = entityType → binding.fieldName = fieldName →
      binding.workflowId = workflowId) : store'.Binds entityType fieldName workflowId := by
  obtain ⟨-, rfl⟩ := bind_ok h
  rw [Binds]
  dsimp only
  split
  · refine List.mem_map.2 ⟨_, hbound, ?_⟩
    split
    · next hsame =>
        obtain ⟨hentity, hfield⟩ := hsame
        obtain rfl := hother hentity.symm hfield.symm
        dsimp only at hentity hfield
        rw [hentity, hfield]
    · rfl
  · exact List.mem_append_left _ hbound

/-! ## The state an item is in -/

/-- The state an item is in depends on nothing of the store but the history. -/
theorem current_sid_congr {other : Store} (h : other.history = store.history)
    (workflowId : String) (item : Item) (fieldName : String) :
    other.currentSid workflowId item fieldName = store.currentSid workflowId item fieldName := by
  simp only [currentSid, previousSid, latest?, h]

/-- An item whose field holds a state is in that state. -/
theorem current_sid_of_field {item : Item} {fieldName sid : String}
    (h : item.fieldValue? fieldName = some sid) (workflowId : String) :
    store.currentSid workflowId item fieldName = sid := by
  simp [currentSid, h]

/-- The transition follows on the state that its item is in, as the item is kept. -/
structure Follows (store : Store) (transition : Transition) (item : Item) : Prop where
  kept : store.item? transition.target = some item
  current : transition.fromSid = store.currentSid transition.workflowId item transition.fieldName

/-- A transition follows on the state of one item. -/
theorem Follows.unique {transition : Transition} {item other : Item}
    (h : store.Follows transition item) (h' : store.Follows transition other) : other = item :=
  Option.some.inj (h'.kept.symm.trans h.kept)

/-! ## Fields and their trails -/

/-- The state in the field of the kept item, none where the item is not kept or its field is
unset. -/
def fieldValue? (store : Store) (target : Target) (fieldName : String) : Option String :=
  (store.item? target).bind (·.fieldValue? fieldName)

/-- What a field holds depends on nothing of the store but the items. -/
theorem field_value_congr {other : Store} (h : other.items = store.items) (target : Target)
    (fieldName : String) :
    other.fieldValue? target fieldName = store.fieldValue? target fieldName := by
  rw [fieldValue?, item_congr h, fieldValue?]

/-- What a field holds after an item was saved it held before, or the item brought it. -/
theorem field_value_save_item {item : Item} {target : Target} {fieldName sid : String}
    (h : (store.saveItem item).fieldValue? target fieldName = some sid) :
    store.fieldValue? target fieldName = some sid ∨
      target = item.target ∧ item.fieldValue? fieldName = some sid := by
  by_cases htarget : target = item.target
  · rw [htarget, fieldValue?, item_save_item, Option.bind_some] at h
    rw [htarget]
    cases hown : item.fields.get? fieldName with
    | some own =>
        -- the item names the field, so it brings what the field holds
        refine Or.inr ⟨rfl, ?_⟩
        rw [Item.fieldValue?, saved] at h
        rw [Item.fieldValue?, ← h]
        cases hkept : store.item? item.target with
        | none => rfl
        | some kept => simp [hown]
    | none =>
        left
        rw [Item.fieldValue?, saved] at h
        cases hkept : store.item? item.target with
        | none => simp [hkept, hown] at h
        | some kept => simpa [fieldValue?, Item.fieldValue?, hkept, hown] using h
  · rw [fieldValue?, item_save_item_of_ne htarget] at h
    exact Or.inl h

/-- The latest record of a field is kept and is a record of the field. -/
theorem latest_found {target : Target} {fieldName : String} {record : HistoryRecord}
    (h : store.latest? target fieldName = some record) :
    record ∈ store.history ∧ record.target = target ∧ record.fieldName = fieldName := by
  obtain ⟨hkept, hfield⟩ := List.mem_filter.1 (List.mem_mergeSort.1 (List.mem_of_mem_head? h))
  exact ⟨hkept, of_decide_eq_true hfield⟩

/-- The only record is the latest of its field. -/
theorem latest_of_only {record : HistoryRecord} (h : store.history = [record]) :
    store.latest? record.target record.fieldName = some record := by
  simp [latest?, h]

/-- An item whose field is unset is in the state of the latest record of the field. -/
theorem current_sid_of_latest {target : Target} {item : Item} {fieldName : String}
    {record : HistoryRecord} (hitem : store.item? target = some item)
    (hunset : item.fieldValue? fieldName = none)
    (hlatest : store.latest? target fieldName = some record) (workflowId : String) :
    store.currentSid workflowId item fieldName = record.toSid := by
  obtain ⟨rfl, hsaved⟩ := item_found hitem
  simp [currentSid, previousSid, hunset, hsaved, hlatest]

/-- The records of the field of the item, in the order in which they were stored. -/
def trail (store : Store) (target : Target) (fieldName : String) : List HistoryRecord :=
  store.history.filter fun record => record.target = target ∧ record.fieldName = fieldName

/-- From the one store to the other, the field of the item was left alone: the item is kept as long
as it was, with the same state in the field, and the field has the same records. -/
structure Spares (store store' : Store) (target : Target) (fieldName : String) : Prop where
  kept : ∀ item, store.item? target = some item → ∃ found, store'.item? target = some found ∧
    found.fieldValue? fieldName = item.fieldValue? fieldName
  trail : store'.trail target fieldName = store.trail target fieldName

variable {store' : Store} {target : Target} {fieldName : String}

/-- A field is left alone where the items and the history are. -/
theorem Spares.of_same (hitems : store'.items = store.items)
    (hhistory : store'.history = store.history) : store.Spares store' target fieldName where
  kept := fun item hitem => ⟨item, (item_congr hitems target).trans hitem, rfl⟩
  trail := by rw [Store.trail, hhistory, Store.trail]

/-- Every field of a kept item is left alone when an item is added. -/
theorem Spares.of_added {item : Item} (hnew : store.item? item.target = none) :
    store.Spares (store.saveItem item) target fieldName where
  kept := by
    intro found hfound
    refine ⟨found, ?_, rfl⟩
    by_cases htarget : target = item.target
    · rw [htarget, hnew] at hfound
      cases hfound
    · rw [item_save_item_of_ne htarget, hfound]
  trail := rfl

/-- A field that is left alone twice is left alone. -/
theorem Spares.trans {last : Store} (h : store.Spares store' target fieldName)
    (h' : store'.Spares last target fieldName) : store.Spares last target fieldName where
  kept := by
    intro item hitem
    obtain ⟨found, hfound, hsame⟩ := h.kept item hitem
    obtain ⟨other, hother, hsame'⟩ := h'.kept found hfound
    exact ⟨other, hother, hsame'.trans hsame⟩
  trail := h'.trail.trans h.trail

/-- A field that is left alone goes on to hold its state. -/
theorem Spares.field_value {sid : String} (h : store.Spares store' target fieldName)
    (hfield : store.fieldValue? target fieldName = some sid) :
    store'.fieldValue? target fieldName = some sid := by
  obtain ⟨item, hitem, hvalue⟩ := Option.bind_eq_some_iff.1 hfield
  obtain ⟨found, hfound, hsame⟩ := h.kept item hitem
  exact Option.bind_eq_some_iff.2 ⟨found, hfound, hsame.trans hvalue⟩

/-- A transition goes on to follow where its field is left alone. -/
theorem Spares.follows {transition : Transition} {item : Item}
    (h : store.Spares store' transition.target transition.fieldName)
    (hfollows : store.Follows transition item) : ∃ found, store'.Follows transition found := by
  obtain ⟨found, hfound, hsame⟩ := h.kept item hfollows.kept
  obtain ⟨htarget, hsaved⟩ := item_found hfollows.kept
  obtain ⟨htarget', hsaved'⟩ := item_found hfound
  refine ⟨found, hfound, hfollows.current.trans ?_⟩
  -- an unset field is in the state of its latest record, which is found on its trail
  have hlatest : store'.latest? transition.target transition.fieldName =
      store.latest? transition.target transition.fieldName :=
    congrArg (fun rows => (rows.mergeSort fun first second => decide (first.Later second)).head?)
      h.trail
  simp only [currentSid, previousSid, hsame, htarget, htarget', hsaved, hsaved', hlatest]

end Store

end ContentWorkflow
