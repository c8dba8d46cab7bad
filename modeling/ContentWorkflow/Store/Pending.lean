import ContentWorkflow.Store.Basic

/-!
# Kept pending transitions
-/

namespace ContentWorkflow

namespace PendingRow

/-- The transition of a row. -/
def toTransition (row : PendingRow) : Transition where
  id := row.tid
  workflowId := row.workflowId
  fromSid := row.fromSid
  toSid := row.toSid
  target := row.target
  fieldName := row.fieldName
  agent := row.agent
  timestamp := row.timestamp
  comment := row.comment
  attached := row.attached.value
  scheduled := true
  executed := false
  forced := row.forced
  status := .scheduled

/-- The row of a transition under the number. -/
def of (tid : Int) (transition : Transition) : PendingRow where
  tid := tid
  workflowId := transition.workflowId
  target := transition.target
  fieldName := transition.fieldName
  fromSid := transition.fromSid
  toSid := transition.toSid
  agent := transition.agent
  timestamp := transition.timestamp
  comment := transition.comment
  attached := Document.of transition.attached
  forced := transition.forced

/-- The row is for the field of the item. -/
def IsFor (row : PendingRow) (target : Target) (fieldName : String) : Prop :=
  row.target = target ∧ row.fieldName = fieldName

instance (row : PendingRow) (target : Target) (fieldName : String) :
    Decidable (row.IsFor target fieldName) :=
  inferInstanceAs (Decidable (_ ∧ _))

/-- The first row is due before the second: it is earlier, or as early with the smaller number. -/
def Before (first second : PendingRow) : Prop :=
  first.timestamp < second.timestamp ∨
    first.timestamp = second.timestamp ∧ first.tid ≤ second.tid

instance (first second : PendingRow) : Decidable (first.Before second) :=
  inferInstanceAs (Decidable (_ ∨ _))

@[simp] theorem to_transition_of (tid : Int) (transition : Transition) :
    (of tid transition).toTransition =
      { transition with
        id := tid, scheduled := true, executed := false, status := .scheduled } := by
  simp [toTransition, of]

end PendingRow

namespace Store

/-- The transition is stored under the next number. -/
def addPending (store : Store) (transition : Transition) : Store :=
  { store with
    pending := store.pending ++ [.of (store.lastTid + 1) transition]
    lastTid := store.lastTid + 1 }

/-- The transition that was stored last for the field of the item. -/
def pendingFor? (store : Store) (target : Target) (fieldName : String) : Option Transition :=
  ((store.pending.filter fun row => row.IsFor target fieldName).getLast?).map (·.toTransition)

/-- The number of transitions stored for the field of the item. -/
def pendingCount (store : Store) (target : Target) (fieldName : String) : Nat :=
  (store.pending.filter fun row => row.IsFor target fieldName).length

/-- No transition of the field of the item is pending any longer. -/
def dropPendingFor (store : Store) (target : Target) (fieldName : String) : Store :=
  { store with pending := store.pending.filter fun row => ¬ row.IsFor target fieldName }

/-- Some transition is stored under the number. -/
def HasPending (store : Store) (tid : Int) : Prop :=
  ∃ row ∈ store.pending, row.tid = tid

instance (store : Store) (tid : Int) : Decidable (store.HasPending tid) :=
  inferInstanceAs (Decidable (∃ row ∈ store.pending, row.tid = tid))

/-- The transition with the number is no longer pending. -/
def dropPending (store : Store) (tid : Int) : Store :=
  { store with pending := store.pending.filter (·.tid ≠ tid) }

/-- The transitions that are due at the time, the earliest first. -/
def due (store : Store) (now : Int) : List Transition :=
  ((store.pending.filter (·.timestamp ≤ now)).mergeSort
    fun first second => decide (first.Before second)).map (·.toTransition)

/-- Every pending transition, the earliest first. -/
def pendingList (store : Store) : List Transition :=
  (store.pending.mergeSort fun first second => decide (first.Before second)).map (·.toTransition)

end Store

end ContentWorkflow
