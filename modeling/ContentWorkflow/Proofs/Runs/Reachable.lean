import ContentWorkflow.Proofs.Runs.References

/-!
# What runs on a new site leave behind

A store is reachable when some calls leave it behind on a new site. It has what every run preserves:
keys, named states, single pending transitions, and rules and records that name kept states. The ids
of its states and rules are composed of what they are for (`Composed`), so the composition alone
tells which ids can meet.
-/

namespace ContentWorkflow

/-- The ids of states and rules are made from what they are for: the id of a state from its workflow
and a name, the id of a rule from its workflow and its two states. -/
structure Store.Composed (store : Store) : Prop where
  states : ∀ state ∈ store.states, ∃ name, state.id = MachineName.stateId state.workflowId name
  rules : ∀ row ∈ store.rules, row.id = Rule.composeId row.workflowId row.fromSid row.toSid

namespace Store

variable {store store' : Store} {operation : Operation}

/-- Ids stay composed where no state and no rule is added. -/
theorem Composed.of_subset (hcomposed : store.Composed) (hstates : store'.states ⊆ store.states)
    (hrules : store'.rules ⊆ store.rules) : store'.Composed where
  states := fun state hstate => hcomposed.states state (hstates hstate)
  rules := fun row hrow => hcomposed.rules row (hrules hrow)

/-- The administration composes the ids of the states and rules that it adds, and changes no id. -/
theorem Managed.composed (hcomposed : store.Composed) (h : store.Managed operation store') :
    store'.Composed := by
  cases h with
  | addWorkflow hwrite =>
      obtain ⟨-, rfl⟩ := add_workflow_ok hwrite
      exact { hcomposed with }
  | addState hid hwrite =>
      obtain ⟨-, -, -, rfl⟩ := add_state_ok hwrite
      exact { hcomposed with states := forall_add_row hcomposed.states ⟨_, hid⟩ }
  | setState changed =>
      refine { hcomposed with states := fun state hstate => ?_ }
      obtain ⟨before, hbefore, rfl⟩ := List.mem_map.1 hstate
      split <;> exact hcomposed.states before hbefore
  | addRule _ _ hwrite =>
      obtain ⟨-, -, -, rfl⟩ := add_rule_ok hwrite
      exact { hcomposed with rules := forall_add_row hcomposed.rules rfl }
  | setRule rule =>
      refine { hcomposed with rules := fun row hrow => ?_ }
      obtain ⟨before, hbefore, rfl⟩ := List.mem_map.1 hrow
      split <;> exact hcomposed.rules before hbefore
  | dropRule id =>
      exact hcomposed.of_subset (List.Subset.refl _) (List.filter_subset_self _)
  | bind _ hwrite =>
      obtain ⟨-, rfl⟩ := bind_ok hwrite
      exact { hcomposed with }
  | setSettings => exact { hcomposed with }

end Store

/-- A call keeps the ids composed. -/
theorem Call.after_composed {call : Call} {session : Session}
    (hcomposed : session.store.Composed) : (call.after session).store.Composed := by
  refine after_flow hcomposed (fun hflow hcomposed => ?_) (fun hwrite hcomposed =>
    hwrite.composed hcomposed) (fun _ hcomposed => ?_)
  · exact hcomposed.of_subset (hflow.states ▸ List.Subset.refl _)
      (hflow.rules ▸ List.Subset.refl _)
  · exact hcomposed.of_subset (List.filter_subset_self _) (List.Subset.refl _)

namespace Store

/-- The store is what some calls leave behind on a new site. -/
def Reachable (store : Store) : Prop :=
  ∃ context log calls, store = (Session.serve ⟨.empty, context, log⟩ calls).store

variable {store : Store}

/-- A further call leaves a reachable store behind. -/
theorem Reachable.after (h : store.Reachable) (call : Call) :
    ∃ session, session.store = store ∧ (call.after session).store.Reachable := by
  obtain ⟨context, log, calls, rfl⟩ := h
  exact ⟨_, rfl, context, log, calls ++ [call], by rw [Session.serve_append_singleton]⟩

/-- The keys of the tables hold in what is reachable. -/
theorem Reachable.keyed (h : store.Reachable) : store.Keyed := by
  obtain ⟨context, log, calls, rfl⟩ := h
  exact Session.serve_keyed keyed_empty calls

/-- No state of what is reachable has an empty id. -/
theorem Reachable.named (h : store.Reachable) : store.Named := by
  obtain ⟨context, log, calls, rfl⟩ := h
  exact Session.serve_named (by simp [Named, empty]) calls

/-- No field has two pending transitions in what is reachable. -/
theorem Reachable.single_pending (h : store.Reachable) : store.SinglePending := by
  obtain ⟨context, log, calls, rfl⟩ := h
  exact Session.serve_single_pending (by simp [SinglePending, empty]) calls

/-- Rules and records name kept states in what is reachable. -/
theorem Reachable.referenced (h : store.Reachable) : store.Referenced := by
  obtain ⟨context, log, calls, rfl⟩ := h
  exact Session.serve_referenced keyed_empty (by constructor <;> simp [empty]) calls

/-- The ids of states and rules are composed in what is reachable. -/
theorem Reachable.composed (h : store.Reachable) : store.Composed := by
  obtain ⟨context, log, calls, rfl⟩ := h
  exact Session.serve_induction (motive := fun reached => reached.store.Composed)
    (by constructor <;> simp [empty]) fun _ _ _ => Call.after_composed

end Store

end ContentWorkflow
