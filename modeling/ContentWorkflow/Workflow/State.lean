import ContentWorkflow.Workflow.MachineName

/-!
# States

The states of a workflow stand in the order of their weights, and those of one weight in the order
of their ids. One state of a workflow may be its creation state, in which an item is before its
first transition. `pairwise_of_list` says that every list of states is put into that order.
-/

namespace ContentWorkflow

/-- A state of a workflow. -/
structure State where
  id : String
  workflowId : String
  label : String
  weight : Int
  active : Bool
  creation : Bool
  deriving DecidableEq

/-- Which states of a workflow are asked for. -/
inductive StateFilter where
  | all
  /-- The active states other than the creation state. -/
  | active
  /-- The active states and the creation state. -/
  | activeCreation
  deriving DecidableEq

namespace State

/-- The weight of every creation state. -/
def creationWeight : Int :=
  -50

/-- An active state. -/
def ofLabel (workflowId id label : String) (weight : Int) : State where
  id := id
  workflowId := workflowId
  label := label
  weight := weight
  active := true
  creation := false

/-- The creation state of the workflow. -/
def creationOf (workflowId : String) : State where
  id := MachineName.creationStateId workflowId
  workflowId := workflowId
  label := "Creation"
  weight := creationWeight
  active := true
  creation := true

/-- The filter selects the state. -/
def Matches (state : State) : StateFilter → Prop
  | .all => True
  | .active => state.active ∧ ¬ state.creation
  | .activeCreation => state.active ∨ state.creation

instance (state : State) (filter : StateFilter) : Decidable (state.Matches filter) :=
  match filter with
  | .all => inferInstanceAs (Decidable True)
  | .active => inferInstanceAs (Decidable (_ ∧ _))
  | .activeCreation => inferInstanceAs (Decidable (_ ∨ _))

/-- Items may leave the state. -/
def Usable (state : State) : Prop :=
  state.active ∨ state.creation

instance (state : State) : Decidable state.Usable :=
  inferInstanceAs (Decidable (_ ∨ _))

/-- The first state stands before the second: it is lighter, or as heavy with the smaller id. -/
def Before (first second : State) : Prop :=
  first.weight < second.weight ∨ first.weight = second.weight ∧ first.id ≤ second.id

instance (first second : State) : Decidable (first.Before second) :=
  inferInstanceAs (Decidable (_ ∨ _))

theorem Before.trans {first second third : State} (h : first.Before second)
    (h' : second.Before third) : first.Before third := by
  rcases h with h | ⟨hweight, hid⟩ <;> rcases h' with h' | ⟨hweight', hid'⟩
  · exact Or.inl (by omega)
  · exact Or.inl (by omega)
  · exact Or.inl (by omega)
  · exact Or.inr ⟨by omega, String.le_trans hid hid'⟩

theorem before_total (first second : State) : first.Before second ∨ second.Before first := by
  rcases Int.lt_trichotomy first.weight second.weight with h | h | h
  · exact Or.inl (Or.inl h)
  · rcases String.le_total first.id second.id with hid | hid
    · exact Or.inl (Or.inr ⟨h, hid⟩)
    · exact Or.inr (Or.inr ⟨h.symm, hid⟩)
  · exact Or.inr (Or.inl h)

end State

/-- Sorting puts every two values in the order that they are sorted by. -/
theorem pairwise_sorted {α : Type} (order : α → α → Prop) [DecidableRel order]
    (htrans : ∀ {first second third}, order first second → order second third → order first third)
    (htotal : ∀ first second, order first second ∨ order second first) (values : List α) :
    (values.mergeSort fun first second => decide (order first second)).Pairwise order := by
  have hsorted := @List.pairwise_mergeSort _ (fun first second => decide (order first second))
    (by simpa using fun _ _ _ => htrans) (by simpa using htotal) values
  simpa using hsorted

/-- States of one workflow. -/
structure States where
  toList : List State
  deriving DecidableEq

namespace States

/-- The states in their order. -/
def ofList (states : List State) : States :=
  ⟨states.mergeSort fun first second => decide (first.Before second)⟩

/-- The state with the id. -/
def get? (states : States) (sid : String) : Option State :=
  states.toList.find? fun state => state.id = sid

/-- Some state has the id. -/
def Known (states : States) (sid : String) : Prop :=
  (states.get? sid).isSome

instance (states : States) (sid : String) : Decidable (states.Known sid) :=
  inferInstanceAs (Decidable (_ = true))

/-- The first creation state. -/
def creation? (states : States) : Option State :=
  states.toList.find? (·.creation)

/-- The states that the filter selects, in their order. -/
def filter (states : States) (filter : StateFilter) : States :=
  ofList (states.toList.filter fun state => state.Matches filter)

theorem pairwise_of_list (states : List State) : (ofList states).toList.Pairwise State.Before :=
  pairwise_sorted State.Before State.Before.trans State.before_total states

theorem mem_of_list {states : List State} {state : State} :
    state ∈ (ofList states).toList ↔ state ∈ states := by
  simp [ofList]

end States

end ContentWorkflow
