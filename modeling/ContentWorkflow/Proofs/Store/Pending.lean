import ContentWorkflow.Proofs.Store.Keys
import Mathlib.Data.List.Perm.Basic

/-!
# What is pending and what is due

Scheduling a transition drops what was pending for its field, so no field has two pending
transitions (`SinglePending`). What is due at a time comes first in what is due at any later time,
and the rest of it is what is still due once the first part is no longer pending (`due_split`).
-/

namespace ContentWorkflow

namespace PendingRow

theorem Before.trans {first second third : PendingRow} (h : first.Before second)
    (h' : second.Before third) : first.Before third := by
  unfold Before at *
  omega

theorem before_total (first second : PendingRow) :
    first.Before second ∨ second.Before first := by
  unfold Before
  omega

/-- Two rows that are due before each other have the same number. -/
theorem Before.tid_eq {first second : PendingRow} (h : first.Before second)
    (h' : second.Before first) : first.tid = second.tid := by
  unfold Before at *
  omega

end PendingRow

namespace Store

/-- No field of an item has two pending transitions. -/
def SinglePending (store : Store) : Prop :=
  (store.pending.map fun row => (row.target, row.fieldName)).Nodup

instance (store : Store) : Decidable store.SinglePending :=
  inferInstanceAs (Decidable (List.Nodup _))

variable {store store' : Store} {row other : PendingRow}

/-! ## One pending transition for a field -/

/-- Dropping pending transitions leaves no field with two. -/
theorem SinglePending.of_sublist (hsingle : store.SinglePending)
    (h : store'.pending.Sublist store.pending) : store'.SinglePending :=
  List.Nodup.sublist (h.map _) hsingle

/-- A transition that is scheduled takes the place of what was pending for its field. -/
theorem SinglePending.schedule (hsingle : store.SinglePending) (transition : Transition) :
    ((store.dropPendingFor transition.target transition.fieldName).addPending
      transition).SinglePending := by
  refine nodup_add_row (nodup_drop_rows _ hsingle) ?_
  intro other hother hsame
  obtain ⟨-, hkept⟩ := List.mem_filter.1 hother
  exact of_decide_eq_true hkept (Prod.ext_iff.1 hsame)

/-- The row that is pending for a field is the only one. -/
theorem SinglePending.unique (hsingle : store.SinglePending) (hrow : row ∈ store.pending)
    (hother : other ∈ store.pending) (h : other.IsFor row.target row.fieldName) : other = row :=
  List.inj_on_of_nodup_map hsingle hother hrow (Prod.ext h.1 h.2)

/-- The row under a number is the only one. -/
theorem Keyed.pending_unique (hkeys : store.Keyed) (hrow : row ∈ store.pending)
    (hother : other ∈ store.pending) (h : other.tid = row.tid) : other = row :=
  List.inj_on_of_nodup_map hkeys.pending hother hrow h

/-! ## What is due -/

/-- A transition is due when some row of it is. -/
theorem mem_due {now : Int} {transition : Transition} :
    transition ∈ store.due now ↔
      ∃ row ∈ store.pending, row.timestamp ≤ now ∧ row.toTransition = transition := by
  simp [due, and_assoc]

/-- A pending row is of one of the transitions that are due exactly when its time has come. -/
theorem mem_due_ids (hkeys : store.Keyed) (hrow : row ∈ store.pending) {now : Int} :
    row.tid ∈ (store.due now).map (·.id) ↔ row.timestamp ≤ now := by
  constructor
  · intro hid
    obtain ⟨transition, hdue, hid⟩ := List.mem_map.1 hid
    obtain ⟨other, hother, htime, rfl⟩ := mem_due.1 hdue
    exact hkeys.pending_unique hrow hother hid ▸ htime
  · intro htime
    exact List.mem_map.2 ⟨row.toTransition, mem_due.2 ⟨row, hrow, htime, rfl⟩, rfl⟩

/-- Only the transition itself is pending for the field of a transition that is due. -/
theorem SinglePending.due_own (hsingle : store.SinglePending) {now : Int}
    {transition : Transition} (hdue : transition ∈ store.due now) (hrow : row ∈ store.pending)
    (h : row.IsFor transition.target transition.fieldName) : row.tid = transition.id := by
  obtain ⟨other, hother, -, rfl⟩ := mem_due.1 hdue
  rw [hsingle.unique hother hrow h]
  rfl

/-- The transitions that are due are for different fields. -/
theorem SinglePending.nodup_due (hsingle : store.SinglePending) (now : Int) :
    ((store.due now).map fun transition => (transition.target, transition.fieldName)).Nodup := by
  rw [due, List.map_map, ((List.mergeSort_perm _ _).map _).nodup_iff]
  exact nodup_drop_rows _ hsingle

/-- As many transitions are due as rows are. -/
theorem length_due (now : Int) :
    (store.due now).length = (store.pending.filter (·.timestamp ≤ now)).length := by
  simp [due]

/-- The rows in the order in which they are due. -/
theorem pairwise_due_order (rows : List PendingRow) :
    (rows.mergeSort fun first second => decide (first.Before second)).Pairwise
      PendingRow.Before :=
  pairwise_sorted PendingRow.Before PendingRow.Before.trans PendingRow.before_total rows

/-- What is due at a time comes first in what is due at a later time. The rest is what is due at the
later time once nothing is pending any longer that was due at the first. -/
theorem due_split (hkeys : store.Keyed) {first last : Int} (hle : first ≤ last)
    (hpending : store'.pending = store.pending.filter (first < ·.timestamp)) :
    store.due last = store.due first ++ store'.due last := by
  unfold due
  rw [hpending, ← List.map_append]
  congr 1
  refine List.Perm.eq_of_pairwise ?_ (pairwise_due_order _) ?_ ?_
  · intro row other hrow hother h h'
    have hmem : other ∈ store.pending := by
      rcases List.mem_append.1 hother with hother | hother <;> simp at hother <;> exact hother.1
    exact hkeys.pending_unique hmem (List.mem_filter.1 (List.mem_mergeSort.1 hrow)).1 (h.tid_eq h')
  · -- the rows of the first part are earlier than those of the rest
    refine List.pairwise_append.2 ⟨pairwise_due_order _, pairwise_due_order _, ?_⟩
    intro row hrow other hother
    simp only [List.mem_mergeSort, List.mem_filter, decide_eq_true_eq] at hrow hother
    exact Or.inl (by omega)
  · refine (List.mergeSort_perm _ _).trans (List.Perm.symm ?_)
    refine ((List.mergeSort_perm _ _).append (List.mergeSort_perm _ _)).trans ?_
    have hearly : store.pending.filter (·.timestamp ≤ first) =
        (store.pending.filter (·.timestamp ≤ last)).filter (·.timestamp ≤ first) := by
      rw [List.filter_filter]
      refine List.filter_congr fun row _ => ?_
      grind
    have hlate : (store.pending.filter (first < ·.timestamp)).filter (·.timestamp ≤ last) =
        (store.pending.filter (·.timestamp ≤ last)).filter fun row =>
          !decide (row.timestamp ≤ first) := by
      rw [List.filter_filter, List.filter_filter]
      refine List.filter_congr fun row _ => ?_
      grind
    rw [hearly, hlate]
    exact List.filter_append_perm _ _

end Store

end ContentWorkflow
