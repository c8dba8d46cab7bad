import ContentWorkflow.Proofs.Engine.Choices
import ContentWorkflow.Proofs.Runs.Timeliness

/-!
# Where an update leaves its item

An update is not rejected because the agent lacks permission where its change of state is permitted
(`Updated.unauthorized`). Whatever course it takes, it leaves a kept item in the state that it was
in or in the state to reach (`Updated.leaves`). The state of an item whose field is unset is read
from its latest record, which a record that is stored may replace or not, as its time tells
(`Keyed.latest_enter`).
-/

namespace ContentWorkflow

/-! ## Permission -/

namespace Platform

variable {platform : Platform} {store : Store} {item : Item} {force moving : Bool}
  {transition : Transition} {session session' : Session} {outcome : Outcome}
  {user fromSid toSid : String}

/-- A change that some rule lets the agent make is permitted, by force or without. -/
theorem permits_of_leads {workflow : Workflow} (hsingle : store.SingleRules workflow.id)
    (hworkflow : transition.workflowId = workflow.id)
    (h : platform.Leads store workflow item transition.agent transition.fromSid transition.toSid
      (platform.mayBypass transition.agent workflow.id) false) :
    platform.permits store item transition = true := by
  cases hforced : transition.forced with
  | true => simp [permits, hforced]
  | false => exact (permits_iff_leads hsingle hworkflow hforced).2 (Or.inr h)

/-- Nobody is unauthorized whose change of state is permitted. -/
theorem course_unauthorized
    (h : platform.Course item force transition session moving outcome session')
    (hstatus : outcome.transition.status = .rejected (.unauthorized user fromSid toSid)) :
    transition.ChangesState ∧
      ¬ platform.permits session.store item (transition.validated force) = true := by
  cases h with
  | repeated => simp [Transition.reject] at hstatus
  | unsaved => simp [Transition.reject] at hstatus
  | empty => simp [Transition.validated] at hstatus
  | scheduled => simp at hstatus
  | recorded => simp [Hooks.executed] at hstatus
  | moved => simp [Hooks.executed] at hstatus
  | objected _ hreason =>
      cases hstatus
      obtain hstates | haccess := hreason
      · -- what is wrong with the states is not that somebody may not go there
        rw [stateObjection?] at hstates
        split at hstates
        · cases hstates
        · split at hstates <;> cases hstates
      · rw [accessObjection?] at haccess
        split at haccess
        · cases haccess
        · next hchanges =>
            split at haccess
            · next hdenied => exact ⟨not_not.1 hchanges, hdenied⟩
            · obtain ⟨_, -, hreason⟩ := Option.map_eq_some_iff.1 haccess
              cases hreason

/-- An update of an item is not rejected as unauthorized where its change of state is permitted. -/
theorem Updated.unauthorized (h : platform.Updated item force transition session outcome session')
    (hpermits : transition.ChangesState →
      platform.permits session.store item (transition.validated force) = true) :
    outcome.transition.status ≠ .rejected (.unauthorized user fromSid toSid) := by
  intro hstatus
  cases h with
  | unreachable => simp [Transition.reject] at hstatus
  | drifted => simp [Transition.reject] at hstatus
  | carried _ _ _ hcourse =>
      obtain ⟨hchanges, hdenied⟩ := course_unauthorized hcourse hstatus
      exact hdenied (hpermits hchanges)

end Platform

/-! ## The state that an item is left in -/

namespace Store

variable {store : Store} {target : Target} {fieldName : String} {record : HistoryRecord}

/-- The latest record of a field is the one that is later than all its records. -/
theorem Keyed.latest_iff (hkeys : store.Keyed) :
    store.latest? target fieldName = some record ↔
      record ∈ store.trail target fieldName ∧
        ∀ other ∈ store.trail target fieldName, record.Later other := by
  have hsorted := pairwise_sorted HistoryRecord.Later HistoryRecord.Later.trans
    HistoryRecord.later_total (store.trail target fieldName)
  have hmem : ∀ {other}, other ∈ ((store.trail target fieldName).mergeSort fun first second =>
      decide (first.Later second)) ↔ other ∈ store.trail target fieldName := List.mem_mergeSort
  rw [latest?, ← trail]
  generalize ((store.trail target fieldName).mergeSort fun first second =>
    decide (first.Later second)) = sorted at *
  cases sorted with
  | nil => simp [← hmem]
  | cons first rest =>
      obtain ⟨hfirst, -⟩ := List.pairwise_cons.1 hsorted
      have hlatest : ∀ other ∈ store.trail target fieldName, first.Later other := by
        intro other hother
        obtain rfl | hrest := List.mem_cons.1 (hmem.2 hother)
        · exact Or.inr ⟨rfl, Int.le_refl _⟩
        · exact hfirst other hrest
      have hkept := hmem.1 (@List.mem_cons_self _ first rest)
      rw [List.head?_cons, Option.some_inj]
      constructor
      · rintro rfl
        exact ⟨hkept, hlatest⟩
      · rintro ⟨hrecord, hlater⟩
        -- two records that are later than each other have one number, so they are one record
        exact List.inj_on_of_nodup_map hkeys.history (List.mem_filter.1 hkept).1
          (List.mem_filter.1 hrecord).1 ((hlatest record hrecord).hid_eq (hlater first hkept))

/-- After an executed transition was entered, the latest record of a field is the one it was, or
leads to the state that was reached. -/
theorem Keyed.latest_enter (hkeys : store.Keyed) (transition : Transition) (target : Target)
    (fieldName : String) :
    (store.enter transition).latest? target fieldName = store.latest? target fieldName ∨
      ∃ record, (store.enter transition).latest? target fieldName = some record ∧
        record.toSid = transition.toSid := by
  have hextends : ∀ record ∈ store.trail target fieldName,
      record ∈ (store.enter transition).trail target fieldName := by
    intro record hrecord
    rw [trail, enter_history, List.filter_append]
    exact List.mem_append_left _ hrecord
  cases hlatest : (store.enter transition).latest? target fieldName with
  | none =>
      -- nothing is recorded of the field, and nothing was
      left
      cases hbefore : store.latest? target fieldName with
      | none => rfl
      | some record =>
          have hrecord := hextends record (hkeys.latest_iff.1 hbefore).1
          rw [latest?, ← trail, List.head?_eq_none_iff] at hlatest
          rw [← List.mem_mergeSort, hlatest] at hrecord
          cases hrecord
  | some record =>
      obtain ⟨hrecord, hlater⟩ := (hkeys.enter transition).latest_iff.1 hlatest
      obtain ⟨hrecord, hfield⟩ := List.mem_filter.1 hrecord
      obtain hkept | hnew := Platform.mem_enter_history hrecord
      · left
        refine (hkeys.latest_iff.2 ⟨List.mem_filter.2 ⟨hkept, hfield⟩, ?_⟩).symm
        exact fun other hother => hlater other (hextends other hother)
      · exact Or.inr ⟨record, rfl, (HistoryRecord.change_fields hnew).2.2.2.2⟩

/-- After an executed transition was entered, an item is in the state that it was in, or in the one
that was reached. -/
theorem Keyed.current_sid_enter (hkeys : store.Keyed) (transition : Transition)
    (workflowId : String) (item : Item) (fieldName : String) :
    (store.enter transition).currentSid workflowId item fieldName =
        store.currentSid workflowId item fieldName ∨
      (store.enter transition).currentSid workflowId item fieldName = transition.toSid := by
  simp only [currentSid, previousSid]
  cases item.fieldValue? fieldName with
  | some sid => exact Or.inl rfl
  | none =>
      split
      · exact Or.inl rfl
      · obtain hsame | ⟨record, hlatest, hto⟩ :=
          hkeys.latest_enter transition item.target fieldName
        · rw [hsame]
          exact Or.inl rfl
        · rw [hlatest]
          exact Or.inr hto

end Store

namespace Platform

variable {platform : Platform} {item : Item} {force moving : Bool} {transition : Transition}
  {session session' : Session} {outcome : Outcome}

/-- What becomes of the kept item of a transition: it stays as it is, in the state that it is in or,
where that is read from the history, in the state to reach, or there was something to record and it
is in the state to reach. -/
def Leaves (item : Item) (transition : Transition) (store store' : Store) : Prop :=
  ∃ after, store'.item? transition.target = some after ∧
    (after = item ∧
        store'.currentSid transition.workflowId after transition.fieldName =
          store.currentSid transition.workflowId item transition.fieldName ∨
      (after = item ∨ ¬ transition.IsEmpty) ∧
        store'.currentSid transition.workflowId after transition.fieldName = transition.toSid)

/-- A store with the same items and the same history leaves the item as it is. -/
theorem Leaves.of_same {store store' : Store} (hitem : store.item? transition.target = some item)
    (hitems : store'.items = store.items) (hhistory : store'.history = store.history) :
    Leaves item transition store store' :=
  ⟨item, (Store.item_congr hitems _).trans hitem,
    Or.inl ⟨rfl, Store.current_sid_congr hhistory _ _ _⟩⟩

/-- What every course makes of the kept item of a transition. -/
theorem Course.leaves (hkeys : session.store.Keyed)
    (hitem : session.store.item? transition.target = some item) (hnamed : transition.toSid ≠ "")
    (h : platform.Course item force transition session moving outcome session') :
    Leaves item transition session.store session'.store := by
  cases h with
  | repeated _ _ hstore => exact .of_same hitem (by rw [hstore]) (by rw [hstore])
  | objected _ _ hstore => exact .of_same hitem (by rw [hstore]) (by rw [hstore])
  | empty _ hstore => exact .of_same hitem (by rw [hstore]) (by rw [hstore])
  | unsaved _ _ _ hstore => exact .of_same hitem (by rw [hstore]) (by rw [hstore])
  | scheduled _ _ _ hstore => exact .of_same hitem (by rw [hstore]; rfl) (by rw [hstore]; rfl)
  | recorded _ _ _ hstore =>
      rw [hstore]
      refine ⟨item, (Store.item_congr Store.enter_items _).trans hitem, ?_⟩
      exact (hkeys.current_sid_enter _ transition.workflowId item transition.fieldName).imp
        (fun hsame => ⟨rfl, hsame⟩) fun hreached => ⟨Or.inl rfl, hreached⟩
  | moved _ hready _ hstore hcontext =>
      obtain ⟨stored, hstored, hfield, -⟩ :=
        (arrived_of_moved hitem hnamed hready hstore hcontext).field
      exact ⟨stored, hstored,
        Or.inr ⟨Or.inr hready.nonempty, Store.current_sid_of_field hfield _⟩⟩

/-- What every update makes of the kept item of its transition. -/
theorem Updated.leaves (hkeys : session.store.Keyed)
    (hitem : session.store.item? transition.target = some item)
    (h : platform.Updated item force transition session outcome session') :
    Leaves item transition session.store session'.store := by
  cases h with
  | unreachable _ hstore => exact .of_same hitem (by rw [hstore]) (by rw [hstore])
  | drifted _ _ _ _ hstore => exact .of_same hitem (by rw [hstore]) (by rw [hstore])
  | carried hnamed _ _ hcourse => exact hcourse.leaves hkeys hitem hnamed

end Platform

end ContentWorkflow
