import ContentWorkflow.Proofs.Store.Lookup
import Mathlib.Data.List.Nodup

/-!
# Keys of the tables

A store is keyed when every table has the keys that its writes guard: ids, pairs of states and
targets occur once, numbers were given by the counters, and what names a workflow names a kept one.
Every write keeps the keys, because it adds a row only under a new key, changes no key of a row, or
drops rows.
-/

namespace ContentWorkflow

/-- The workflow of a site with one node. -/
def Workflow.small : Workflow :=
  ⟨"news", "News", .standard⟩

namespace Store

/-- The keys of the tables hold. -/
structure Keyed (store : Store) : Prop where
  workflows : (store.workflows.map (·.id)).Nodup
  states : (store.states.map (·.id)).Nodup
  creation : ((store.states.filter (·.creation)).map (·.workflowId)).Nodup
  state_workflows : ∀ state ∈ store.states, store.HasWorkflow state.workflowId
  rules : (store.rules.map (·.id)).Nodup
  rule_pairs : (store.rules.map fun row => (row.workflowId, row.fromSid, row.toSid)).Nodup
  rule_workflows : ∀ row ∈ store.rules, store.HasWorkflow row.workflowId
  bindings : (store.bindings.map fun binding => (binding.entityType, binding.fieldName)).Nodup
  binding_workflows : ∀ binding ∈ store.bindings, store.HasWorkflow binding.workflowId
  items : (store.items.map (·.target)).Nodup
  history : (store.history.map (·.hid)).Nodup
  history_given : ∀ record ∈ store.history, record.hid ≤ store.lastHid
  pending : (store.pending.map (·.tid)).Nodup
  pending_given : ∀ row ∈ store.pending, row.tid ≤ store.lastTid

/-- The store of a new site is keyed. -/
theorem keyed_empty : empty.Keyed := by
  constructor <;> simp [empty]

/-- The store of a site with one node, in a workflow of two states that editors may take
it along. -/
def small : Store where
  workflows := [.of .small]
  states := [.creationOf "news", .ofLabel "news" "news_draft" "Draft" 1,
    .ofLabel "news" "news_live" "Live" 2]
  rules := [.of { Rule.between "news" "news_draft" "news_live" with
    roles := RoleSet.ofList ["editor"] }]
  bindings := [⟨"node", "field_state", "news"⟩]
  items := [⟨⟨"node", 1⟩, some 2, 0, Dictionary.ofList [("field_state", "news_draft")]⟩]
  history := []
  lastHid := 0
  pending := []
  lastTid := 0

/-- The store of the small site is keyed. -/
theorem keyed_small : small.Keyed := by
  constructor <;> decide

variable {store : Store}

/-- The states of the small site are known wherever they are kept. -/
theorem known_of_small (hstates : store.states = small.states) :
    (store.statesOf "news").Known "news_draft" ∧ (store.statesOf "news").Known "news_live" := by
  rw [known_states_of, known_states_of, hstates]
  exact ⟨⟨.ofLabel "news" "news_draft" "Draft" 1, by decide⟩,
    ⟨.ofLabel "news" "news_live" "Live" 2, by decide⟩⟩

/-- A workflow with a known state is kept. -/
theorem Keyed.workflow_of_known (hkeys : store.Keyed) {workflowId sid : String}
    (h : (store.statesOf workflowId).Known sid) :
    ∃ workflow, store.workflow? workflowId = some workflow := by
  obtain ⟨state, hstate, rfl, -⟩ := known_states_of.1 h
  exact Option.isSome_iff_exists.1 (hkeys.state_workflows state hstate)

/-- A state is known in one workflow. -/
theorem Keyed.known_unique (hkeys : store.Keyed) {workflowId other sid : String}
    (h : (store.statesOf workflowId).Known sid) (hother : (store.statesOf other).Known sid) :
    other = workflowId := by
  obtain ⟨state, hstate, rfl, hid⟩ := known_states_of.1 h
  obtain ⟨found, hfound, rfl, hid'⟩ := known_states_of.1 hother
  rw [List.inj_on_of_nodup_map hkeys.states hfound hstate (hid'.trans hid.symm)]

/-- A field is bound to one workflow. -/
theorem Keyed.binds_unique (hkeys : store.Keyed) {entityType fieldName workflowId other : String}
    (h : store.Binds entityType fieldName workflowId)
    (hother : store.Binds entityType fieldName other) : other = workflowId := by
  have hsame := List.inj_on_of_nodup_map hkeys.bindings hother h rfl
  exact congrArg FieldBinding.workflowId hsame

/-! ## Rows and keys -/

section Rows

variable {α κ : Type} {rows : List α} {key : α → κ}

/-- A row with a new key can be added. -/
theorem nodup_add_row {row : α} (h : (rows.map key).Nodup)
    (hnew : ∀ other ∈ rows, key other ≠ key row) : ((rows ++ [row]).map key).Nodup := by
  rw [List.map_append, List.map_singleton, ← List.concat_eq_append]
  refine List.Nodup.concat ?_ h
  intro hmem
  obtain ⟨other, hother, hkey⟩ := List.mem_map.1 hmem
  exact hnew other hother hkey

/-- What holds of every row goes on to do so when it holds of the row that is added. -/
theorem forall_add_row {p : α → Prop} {row : α} (h : ∀ other ∈ rows, p other) (hrow : p row) :
    ∀ other ∈ rows ++ [row], p other :=
  List.forall_mem_append.2 ⟨h, List.forall_mem_singleton.2 hrow⟩

/-- Rows can be dropped. -/
theorem nodup_drop_rows (p : α → Bool) (h : (rows.map key).Nodup) :
    ((rows.filter p).map key).Nodup :=
  h.sublist (List.filter_sublist.map key)

/-- The only row that is looked for is found. -/
theorem find_only {p : α → Bool} {row : α} (hrow : row ∈ rows) (hp : p row = true)
    (honly : ∀ other ∈ rows, p other = true → other = row) : rows.find? p = some row := by
  cases hfound : rows.find? p with
  | none => exact absurd hp (List.find?_eq_none.1 hfound row hrow)
  | some found =>
      rw [honly found (List.mem_of_find?_eq_some hfound) (List.find?_some hfound)]

/-- A row is found under its key. -/
theorem find_keyed [DecidableEq κ] {row : α} (h : (rows.map key).Nodup) (hrow : row ∈ rows) :
    rows.find? (fun other => key other = key row) = some row := by
  refine find_only hrow (by simp) fun other hother hkey => ?_
  exact List.inj_on_of_nodup_map h hother hrow (of_decide_eq_true hkey)

/-- Rows can be changed as long as their keys stay. -/
theorem map_change_rows {change : α → α} (hchange : ∀ row ∈ rows, key (change row) = key row) :
    (rows.map change).map key = rows.map key := by
  rw [List.map_map]
  exact List.map_congr_left hchange

/-- Rows that a filter selects can be changed as long as the filter and their keys stay. -/
theorem map_change_selected {change : α → α} {p : α → Bool}
    (hselected : ∀ row, p (change row) = p row) (hchange : ∀ row, key (change row) = key row) :
    ((rows.map change).filter p).map key = (rows.filter p).map key := by
  have hsame : p ∘ change = p := funext hselected
  rw [List.filter_map, hsame, map_change_rows fun row _ => hchange row]

end Rows

/-- A field that is bound to a workflow finds it. -/
theorem Keyed.workflow_for_binds (hkeys : store.Keyed) {entityType fieldName workflowId : String}
    (h : store.Binds entityType fieldName workflowId) :
    ∃ workflow, store.workflowForField? entityType fieldName = some workflow ∧
      workflow.id = workflowId := by
  obtain ⟨workflow, hworkflow⟩ := Option.isSome_iff_exists.1 (hkeys.binding_workflows _ h)
  have hbinding :
      store.binding? entityType fieldName = some ⟨entityType, fieldName, workflowId⟩ := by
    refine find_only h (by simp) ?_
    rintro ⟨otherType, otherField, other⟩ hother hsame
    obtain ⟨rfl, rfl⟩ : otherType = entityType ∧ otherField = fieldName := by simpa using hsame
    rw [hkeys.binds_unique h hother]
  refine ⟨workflow, ?_, workflow_id hworkflow⟩
  rw [workflowForField?, hbinding]
  exact hworkflow

/-! ## Writes -/

/-- A workflow is kept when its id is in the table. -/
theorem has_workflow_iff {id : String} :
    store.HasWorkflow id ↔ id ∈ store.workflows.map (·.id) := by
  simp [HasWorkflow, workflow?]

/-- What names kept workflows goes on to do so when no workflow is lost. -/
theorem Keyed.keep_workflows (hkeys : store.Keyed) {workflows : List WorkflowRow}
    (hnodup : (workflows.map (·.id)).Nodup)
    (hkept : ∀ id ∈ store.workflows.map (·.id), id ∈ workflows.map (·.id)) :
    Keyed { store with workflows := workflows } := by
  have hall : ∀ id, store.HasWorkflow id →
      HasWorkflow { store with workflows := workflows } id := by
    intro id hid
    exact has_workflow_iff.2 (hkept id (has_workflow_iff.1 hid))
  exact { hkeys with
    workflows := hnodup
    state_workflows := fun state hstate => hall _ (hkeys.state_workflows state hstate)
    rule_workflows := fun row hrow => hall _ (hkeys.rule_workflows row hrow)
    binding_workflows := fun binding hbinding =>
      hall _ (hkeys.binding_workflows binding hbinding) }

/-- Adding a workflow keeps the keys. -/
theorem Keyed.add_workflow (hkeys : store.Keyed) {workflow : Workflow} {store' : Store}
    (h : store.addWorkflow workflow = .ok store') : store'.Keyed := by
  obtain ⟨hnew, rfl⟩ := add_workflow_ok h
  refine hkeys.keep_workflows (nodup_add_row hkeys.workflows ?_) ?_
  · intro other hother hsame
    exact hnew (has_workflow_iff.2 (List.mem_map.2 ⟨other, hother, hsame⟩))
  · intro id hid
    rw [List.map_append]
    exact List.mem_append_left _ hid

/-- Changing settings keeps the keys. -/
theorem Keyed.set_settings (hkeys : store.Keyed) (id : String) (settings : Settings) :
    (store.setSettings id settings).Keyed := by
  have hids : (store.setSettings id settings).workflows.map (·.id) = store.workflows.map (·.id) :=
    map_change_rows fun row _ => by split <;> rfl
  refine hkeys.keep_workflows ?_ ?_
  · exact hids ▸ hkeys.workflows
  · intro id' hid'
    exact hids ▸ hid'

/-- Adding a state keeps the keys. -/
theorem Keyed.add_state (hkeys : store.Keyed) {state : State} {store' : Store}
    (h : store.addState state = .ok store') : store'.Keyed := by
  obtain ⟨hnew, hcreation, hworkflow, rfl⟩ := add_state_ok h
  refine { hkeys with
    states := nodup_add_row hkeys.states ?_
    creation := ?_
    state_workflows := ?_ }
  · intro other hother hsame
    refine hnew ?_
    simpa [state?] using ⟨other, hother, hsame⟩
  · rw [List.filter_append, List.filter_singleton]
    cases hfirst : state.creation with
    | false =>
        rw [cond_false, List.append_nil]
        exact hkeys.creation
    | true =>
        -- the index on creation states counts the marked rows only, one a workflow
        refine nodup_add_row hkeys.creation ?_
        intro other hother
        obtain ⟨hother, hmarked⟩ := List.mem_filter.1 hother
        exact hcreation hfirst other hother hmarked
  · exact forall_add_row hkeys.state_workflows hworkflow

/-- Changing a state keeps the keys. -/
theorem Keyed.set_state (hkeys : store.Keyed) (state : State) : (store.setState state).Keyed := by
  refine { hkeys with
    states := ?_
    creation := ?_
    state_workflows := ?_ }
  · rw [setState, map_change_rows fun row _ => by split <;> rfl]
    exact hkeys.states
  · rw [setState, map_change_selected (fun row => by split <;> rfl) fun row => by split <;> rfl]
    exact hkeys.creation
  · intro other hother
    obtain ⟨row, hrow, rfl⟩ := List.mem_map.1 hother
    split <;> exact hkeys.state_workflows row hrow

/-- Dropping a state keeps the keys. -/
theorem Keyed.drop_state (hkeys : store.Keyed) (sid : String) : (store.dropState sid).Keyed := by
  refine { hkeys with
    states := nodup_drop_rows _ hkeys.states
    creation := ?_
    state_workflows := fun state hstate =>
      hkeys.state_workflows state (List.mem_filter.1 hstate).1 }
  exact hkeys.creation.sublist ((List.filter_sublist.filter _).map _)

/-- Adding a rule keeps the keys. -/
theorem Keyed.add_rule (hkeys : store.Keyed) {rule : Rule} {store' : Store}
    (h : store.addRule rule = .ok store') : store'.Keyed := by
  obtain ⟨hnew, hpair, hworkflow, rfl⟩ := add_rule_ok h
  refine { hkeys with
    rules := nodup_add_row hkeys.rules ?_
    rule_pairs := nodup_add_row hkeys.rule_pairs ?_
    rule_workflows := ?_ }
  · intro other hother hsame
    refine hnew ?_
    simpa [rule?] using ⟨other, hother, hsame⟩
  · intro other hother hsame
    simp only [Prod.mk.injEq] at hsame
    exact hpair other hother hsame
  · exact forall_add_row hkeys.rule_workflows hworkflow

/-- Changing a rule keeps the keys. -/
theorem Keyed.set_rule (hkeys : store.Keyed) (rule : Rule) : (store.setRule rule).Keyed := by
  refine { hkeys with
    rules := ?_
    rule_pairs := ?_
    rule_workflows := ?_ }
  · rw [setRule, map_change_rows fun row _ => by split <;> rfl]
    exact hkeys.rules
  · rw [setRule, map_change_rows fun row _ => by split <;> rfl]
    exact hkeys.rule_pairs
  · intro row hrow
    obtain ⟨other, hother, rfl⟩ := List.mem_map.1 hrow
    split <;> exact hkeys.rule_workflows other hother

/-- Dropping a rule keeps the keys. -/
theorem Keyed.drop_rule (hkeys : store.Keyed) (id : String) : (store.dropRule id).Keyed :=
  { hkeys with
    rules := nodup_drop_rows _ hkeys.rules
    rule_pairs := nodup_drop_rows _ hkeys.rule_pairs
    rule_workflows := fun row hrow => hkeys.rule_workflows row (List.mem_filter.1 hrow).1 }

/-- Binding a field keeps the keys. -/
theorem Keyed.bind (hkeys : store.Keyed) {binding : FieldBinding} {store' : Store}
    (h : store.bind binding = .ok store') : store'.Keyed := by
  obtain ⟨hworkflow, rfl⟩ := bind_ok h
  by_cases hbound : (store.binding? binding.entityType binding.fieldName).isSome
  · rw [if_pos hbound]
    refine { hkeys with bindings := ?_, binding_workflows := ?_ }
    · rw [map_change_rows fun row _ => by split <;> simp_all]
      exact hkeys.bindings
    · intro other hother
      obtain ⟨row, hrow, rfl⟩ := List.mem_map.1 hother
      show store.HasWorkflow _
      split
      · exact hworkflow
      · exact hkeys.binding_workflows row hrow
  · rw [if_neg hbound]
    refine { hkeys with
      bindings := nodup_add_row hkeys.bindings ?_
      binding_workflows := ?_ }
    · intro other hother hsame
      simp only [Prod.mk.injEq] at hsame
      refine hbound ?_
      simpa [binding?] using ⟨other, hother, hsame⟩
    · exact forall_add_row hkeys.binding_workflows hworkflow

/-- Saving an item keeps the keys. -/
theorem Keyed.save_item (hkeys : store.Keyed) (item : Item) : (store.saveItem item).Keyed := by
  refine { hkeys with items := ?_ }
  rw [saveItem]
  dsimp only
  split
  · rw [map_change_rows fun row _ => by split <;> rfl]
    exact hkeys.items
  · next hnew =>
      refine nodup_add_row hkeys.items ?_
      intro other hother hsame
      refine hnew ?_
      simpa [item?] using ⟨other, hother, hsame⟩

/-- Purging the history keeps the keys. -/
theorem Keyed.purge_history (hkeys : store.Keyed) (sid : String) : (store.purgeHistory sid).Keyed :=
  { hkeys with
    history := nodup_drop_rows _ hkeys.history
    history_given := fun record hrecord =>
      hkeys.history_given record (List.mem_filter.1 hrecord).1 }

/-- Dropping a pending transition keeps the keys. -/
theorem Keyed.drop_pending (hkeys : store.Keyed) (tid : Int) : (store.dropPending tid).Keyed :=
  { hkeys with
    pending := nodup_drop_rows _ hkeys.pending
    pending_given := fun row hrow => hkeys.pending_given row (List.mem_filter.1 hrow).1 }

/-- Dropping what is pending for a field keeps the keys. -/
theorem Keyed.drop_pending_for (hkeys : store.Keyed) (target : Target) (fieldName : String) :
    (store.dropPendingFor target fieldName).Keyed :=
  { hkeys with
    pending := nodup_drop_rows _ hkeys.pending
    pending_given := fun row hrow => hkeys.pending_given row (List.mem_filter.1 hrow).1 }

/-- Storing a transition as pending keeps the keys, because it is given the next number. -/
theorem Keyed.add_pending (hkeys : store.Keyed) (transition : Transition) :
    (store.addPending transition).Keyed := by
  refine { hkeys with
    pending := nodup_add_row hkeys.pending ?_
    pending_given := ?_ }
  · intro other hother hsame
    have hgiven := hkeys.pending_given other hother
    have hnext : other.tid = store.lastTid + 1 := hsame
    omega
  · refine forall_add_row (p := fun row : PendingRow => row.tid ≤ store.lastTid + 1) ?_ ?_
    · intro other hother
      have hgiven := hkeys.pending_given other hother
      omega
    · exact Int.le_refl _

/-- Appending a record keeps the keys, because it is given the next number. -/
theorem Keyed.append_history (hkeys : store.Keyed) (record : HistoryRecord) :
    (store.appendHistory record).Keyed := by
  refine { hkeys with
    history := nodup_add_row hkeys.history ?_
    history_given := ?_ }
  · intro other hother hsame
    have hgiven := hkeys.history_given other hother
    have hnext : other.hid = store.lastHid + 1 := hsame
    omega
  · refine forall_add_row (p := fun row : HistoryRecord => row.hid ≤ store.lastHid + 1) ?_ ?_
    · intro other hother
      have hgiven := hkeys.history_given other hother
      omega
    · exact Int.le_refl _

end Store

end ContentWorkflow
