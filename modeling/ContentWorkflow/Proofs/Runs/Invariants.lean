import ContentWorkflow.Proofs.Runs.Step
import ContentWorkflow.Proofs.Store.Pending

/-!
# What every run preserves

What every effect of a call preserves holds after it (`after_effects`), and an invariant that every
step preserves holds after every call (`after_induction`) and after every run (`serve_invariant`).
Four of them are used throughout: the keys of the tables (`serve_keyed`), that no state has an empty
id (`serve_named`), that no field has two pending transitions (`serve_single_pending`), and that the
history stands in the order of its numbers (`serve_numbered`).
-/

namespace ContentWorkflow

open Relation (ReflTransGen)

/-- No state has an empty id. -/
def Store.Named (store : Store) : Prop :=
  ∀ state ∈ store.states, state.id ≠ ""

instance (store : Store) : Decidable store.Named :=
  inferInstanceAs (Decidable (∀ state ∈ store.states, state.id ≠ ""))

/-- The records are numbered in the order in which they were stored. -/
structure Store.Numbered (store : Store) : Prop where
  ascending : store.history.Pairwise fun first second => first.hid < second.hid
  given : ∀ record ∈ store.history, record.hid ≤ store.lastHid

/-- The stores have the same states, rules and bindings. -/
structure Store.SameFlow (store store' : Store) : Prop where
  states : store'.states = store.states
  rules : store'.rules = store.rules
  bindings : store'.bindings = store.bindings

namespace Store

variable {store store' : Store} {transition : Transition}

/-- A store has the same states, rules and bindings as itself. -/
theorem SameFlow.refl (store : Store) : store.SameFlow store :=
  ⟨rfl, rfl, rfl⟩

/-- Stores have the same states, rules and bindings where both have those of a third one. -/
theorem SameFlow.trans {last : Store} (h : store.SameFlow store') (h' : store'.SameFlow last) :
    store.SameFlow last :=
  ⟨h'.states.trans h.states, h'.rules.trans h.rules, h'.bindings.trans h.bindings⟩

/-- Every write keeps the keys. -/
theorem Written.keyed (hkeys : store.Keyed) (h : store.Written store') : store'.Keyed := by
  cases h with
  | addWorkflow hwrite => exact hkeys.add_workflow hwrite
  | setSettings id settings => exact hkeys.set_settings id settings
  | addState _ hwrite => exact hkeys.add_state hwrite
  | setState state => exact hkeys.set_state state
  | dropState sid => exact hkeys.drop_state sid
  | addRule hwrite => exact hkeys.add_rule hwrite
  | setRule rule => exact hkeys.set_rule rule
  | dropRule id => exact hkeys.drop_rule id
  | bind hwrite => exact hkeys.bind hwrite
  | saveItem item => exact hkeys.save_item item
  | purgeHistory sid => exact hkeys.purge_history sid
  | dropPending tid => exact hkeys.drop_pending tid

/-- No write gives a state an empty id. -/
theorem Written.named (hnamed : store.Named) (h : store.Written store') : store'.Named := by
  cases h with
  | addWorkflow hwrite =>
      obtain ⟨-, rfl⟩ := add_workflow_ok hwrite
      exact hnamed
  | setSettings id settings => exact hnamed
  | addState hstate hwrite =>
      obtain ⟨-, -, -, rfl⟩ := add_state_ok hwrite
      exact forall_add_row hnamed hstate
  | setState state =>
      intro other hother
      obtain ⟨row, hrow, rfl⟩ := List.mem_map.1 hother
      split <;> exact hnamed row hrow
  | dropState sid => exact fun state hstate => hnamed state (List.mem_filter.1 hstate).1
  | addRule hwrite =>
      obtain ⟨-, -, -, rfl⟩ := add_rule_ok hwrite
      exact hnamed
  | setRule rule => exact hnamed
  | dropRule id => exact hnamed
  | bind hwrite =>
      obtain ⟨-, rfl⟩ := bind_ok hwrite
      exact hnamed
  | saveItem item => exact hnamed
  | purgeHistory sid => exact hnamed
  | dropPending tid => exact hnamed

/-- Every write leaves the history and the pending transitions as they are, or drops some, and gives
out no number. -/
theorem Written.frame (h : store.Written store') :
    store'.history.Sublist store.history ∧ store'.pending.Sublist store.pending ∧
      store'.lastHid = store.lastHid ∧ store'.lastTid = store.lastTid := by
  have hsame : ∀ {α : Type} (rows : List α), rows.Sublist rows := fun rows => List.Sublist.refl rows
  cases h with
  | addWorkflow hwrite =>
      obtain ⟨-, rfl⟩ := add_workflow_ok hwrite
      exact ⟨hsame _, hsame _, rfl, rfl⟩
  | addState _ hwrite =>
      obtain ⟨-, -, -, rfl⟩ := add_state_ok hwrite
      exact ⟨hsame _, hsame _, rfl, rfl⟩
  | addRule hwrite =>
      obtain ⟨-, -, -, rfl⟩ := add_rule_ok hwrite
      exact ⟨hsame _, hsame _, rfl, rfl⟩
  | bind hwrite =>
      obtain ⟨-, rfl⟩ := bind_ok hwrite
      exact ⟨hsame _, hsame _, rfl, rfl⟩
  | purgeHistory sid => exact ⟨List.filter_sublist, hsame _, rfl, rfl⟩
  | dropPending tid => exact ⟨hsame _, List.filter_sublist, rfl, rfl⟩
  | setSettings => exact ⟨hsame _, hsame _, rfl, rfl⟩
  | setState => exact ⟨hsame _, hsame _, rfl, rfl⟩
  | dropState => exact ⟨hsame _, hsame _, rfl, rfl⟩
  | setRule => exact ⟨hsame _, hsame _, rfl, rfl⟩
  | dropRule => exact ⟨hsame _, hsame _, rfl, rfl⟩
  | saveItem => exact ⟨hsame _, hsame _, rfl, rfl⟩

/-- Dropping records keeps the others numbered. -/
theorem Numbered.of_sublist (hnumbered : store.Numbered)
    (hhistory : store'.history.Sublist store.history) (hlast : store'.lastHid = store.lastHid) :
    store'.Numbered where
  ascending := hnumbered.ascending.sublist hhistory
  given := fun record hrecord => hlast ▸ hnumbered.given record (hhistory.subset hrecord)

/-- A record that is appended is given the next number. -/
theorem Numbered.append_history (hnumbered : store.Numbered) (record : HistoryRecord) :
    (store.appendHistory record).Numbered := by
  constructor
  · refine List.pairwise_append.2 ⟨hnumbered.ascending, List.pairwise_singleton _ _, ?_⟩
    intro other hother last hlast
    rw [List.mem_singleton.1 hlast]
    exact Int.lt_of_le_of_lt (hnumbered.given other hother) (Int.lt_succ _)
  · refine forall_add_row (p := fun record : HistoryRecord => record.hid ≤ store.lastHid + 1) ?_ ?_
    · intro other hother
      exact Int.le_of_lt (Int.lt_of_le_of_lt (hnumbered.given other hother) (Int.lt_succ _))
    · exact Int.le_refl _

/-- Entering an executed transition numbers its record. -/
theorem Numbered.enter (hnumbered : store.Numbered) (transition : Transition) :
    (store.enter transition).Numbered := by
  unfold Store.enter
  split
  · exact hnumbered
  · exact (hnumbered.append_history _).of_sublist (List.Sublist.refl _) rfl

end Store

/-- Nothing but the engine gives out numbers. -/
theorem Session.Administered.numbers {session session' : Session}
    (h : session.Administered session') :
    session'.store.lastHid = session.store.lastHid ∧
      session'.store.lastTid = session.store.lastTid := by
  rcases h.store with hstore | hwritten
  · exact hstore ▸ ⟨rfl, rfl⟩
  · exact hwritten.frame.2.2

namespace Platform

variable {platform : Platform} {item : Item} {force moving : Bool} {transition : Transition}
  {session session' : Session} {outcome : Outcome}

/-- Every course of a call keeps the keys. -/
theorem Course.keyed (hkeys : session.store.Keyed)
    (h : platform.Course item force transition session moving outcome session') :
    session'.store.Keyed := by
  cases h with
  | repeated _ _ hstore => exact hstore ▸ hkeys
  | objected _ _ hstore => exact hstore ▸ hkeys
  | empty _ hstore => exact hstore ▸ hkeys
  | scheduled _ _ _ hstore => exact hstore ▸ (hkeys.drop_pending_for _ _).add_pending _
  | recorded _ _ _ hstore => exact hstore ▸ hkeys.enter _
  | unsaved _ _ _ hstore => exact hstore ▸ hkeys
  | moved _ _ _ hstore => exact hstore ▸ (hkeys.save_item _).enter _

/-- After every course no field has two pending transitions where none had before. -/
theorem Course.single_pending (hsingle : session.store.SinglePending)
    (h : platform.Course item force transition session moving outcome session') :
    session'.store.SinglePending := by
  cases h with
  | repeated _ _ hstore => exact hstore ▸ hsingle
  | objected _ _ hstore => exact hstore ▸ hsingle
  | empty _ hstore => exact hstore ▸ hsingle
  | scheduled _ _ _ hstore => exact hstore ▸ hsingle.schedule (transition.validated force)
  | recorded _ _ _ hstore => exact hstore ▸ hsingle.of_sublist Store.enter_pending_sublist
  | unsaved _ _ _ hstore => exact hstore ▸ hsingle
  | moved _ _ _ hstore =>
      rw [hstore]
      exact hsingle.of_sublist Store.enter_pending_sublist

/-- After every course the records are numbered in their order where they were before. -/
theorem Course.numbered (hnumbered : session.store.Numbered)
    (h : platform.Course item force transition session moving outcome session') :
    session'.store.Numbered := by
  cases h with
  | repeated _ _ hstore => exact hstore ▸ hnumbered
  | objected _ _ hstore => exact hstore ▸ hnumbered
  | empty _ hstore => exact hstore ▸ hnumbered
  | scheduled _ _ _ hstore => exact hstore ▸ hnumbered.of_sublist (List.Sublist.refl _) rfl
  | recorded _ _ _ hstore => exact hstore ▸ hnumbered.enter _
  | unsaved _ _ _ hstore => exact hstore ▸ hnumbered
  | moved _ _ _ hstore =>
      have hsaved : ∀ item, (session.store.saveItem item).Numbered := fun item =>
        hnumbered.of_sublist (List.Sublist.refl _) rfl
      exact hstore ▸ (hsaved _).enter _

/-- No course of a call changes the states, the rules or the bindings. -/
theorem Course.frame
    (h : platform.Course item force transition session moving outcome session') :
    session'.store.states = session.store.states ∧ session'.store.rules = session.store.rules ∧
      session'.store.bindings = session.store.bindings := by
  cases h with
  | repeated _ _ hstore => exact hstore ▸ ⟨rfl, rfl, rfl⟩
  | objected _ _ hstore => exact hstore ▸ ⟨rfl, rfl, rfl⟩
  | empty _ hstore => exact hstore ▸ ⟨rfl, rfl, rfl⟩
  | scheduled _ _ _ hstore => exact hstore ▸ ⟨rfl, rfl, rfl⟩
  | recorded _ _ _ hstore =>
      exact hstore ▸ ⟨Store.enter_states, Store.enter_rules, Store.enter_bindings⟩
  | unsaved _ _ _ hstore => exact hstore ▸ ⟨rfl, rfl, rfl⟩
  | moved _ _ _ hstore =>
      exact hstore ▸ ⟨Store.enter_states, Store.enter_rules, Store.enter_bindings⟩

end Platform

namespace Call

variable {call : Call} {store : Store} {session session' : Session}

/-- What every effect of a call preserves holds after the call where the call found it. -/
theorem after_effects {motive : Session → Prop} (hbefore : motive (call.before session))
    (heffect : ∀ first second, call.Effect session.store first second → motive first →
      motive second) :
    motive (call.after session) := by
  have heffects := call.call_effects session
  -- along the effects from the session as the call found it
  generalize call.after session = last at heffects
  induction heffects with
  | refl => exact hbefore
  | tail _ hlast ih => exact heffect _ _ hlast ih

/-- What holds after a call and not where the call found it was brought about by one of its
effects. -/
theorem after_origin (holds : Session → Prop) (h : holds (call.after session)) :
    holds (call.before session) ∨ ∃ first second,
      ReflTransGen (call.Effect session.store) (call.before session) first ∧
        call.Effect session.store first second ∧ ¬ holds first ∧ holds second ∧
        ReflTransGen (call.Effect session.store) second (call.after session) := by
  have heffects := call.call_effects session
  -- backwards from the session as the call leaves it, to the last effect that brought it about
  generalize call.after session = last at heffects h ⊢
  induction heffects with
  | refl => exact Or.inl h
  | @tail before last hearlier heffect ih =>
      by_cases hholds : holds before
      · obtain hfound | ⟨first, second, hfirst, hbrings, hnot, hsecond, hrest⟩ := ih hholds
        · exact Or.inl hfound
        · exact Or.inr ⟨first, second, hfirst, hbrings, hnot, hsecond, hrest.tail heffect⟩
      · exact Or.inr ⟨before, last, hearlier, heffect, hholds, h, .refl⟩

/-- What depends on states, rules and bindings alone holds after a call where the call found it, if
the administration preserves it and a purge that drops a state. -/
theorem after_flow {motive : Store → Prop} (hbefore : motive session.store)
    (hflow : ∀ {store store'}, Store.SameFlow store store' → motive store → motive store')
    (hmanaged : ∀ {store store'}, Store.Managed call.operation store store' → motive store →
      motive store')
    (hpurged : ∀ {store workflow sid}, call.operation = .purgeState workflow sid → motive store →
      motive (store.dropState sid)) :
    motive (call.after session).store := by
  refine after_effects (motive := fun reached => motive reached.store) hbefore ?_
  intro first second heffect hfirst
  have hadministered : ∀ {session session' : Session}, session.Managed call.operation session' →
      motive session.store → motive session'.store := by
    intro session session' h hholds
    obtain hstore | hwrite := h.store
    · exact hstore ▸ hholds
    · exact hmanaged hwrite hholds
  have hsame : ∀ {store : Store}, first.store.SameFlow store → motive store :=
    fun h => hflow h hfirst
  cases heffect with
  | managed h => exact hadministered h hfirst
  | purged hop h =>
      cases h with
      | managed h => exact hadministered h hfirst
      | history hstore => exact hstore ▸ hsame ⟨rfl, rfl, rfl⟩
      | state hstore => exact hstore ▸ hpurged hop hfirst
  | saved _ _ hstore => exact hstore ▸ hsame ⟨rfl, rfl, rfl⟩
  | dismissed _ hstore => exact hstore ▸ hsame ⟨rfl, rfl, rfl⟩
  | engaged _ _ _ _ _ hcourse =>
      obtain ⟨hstates, hrules, hbindings⟩ := hcourse.frame
      exact hsame ⟨hstates, hrules, hbindings⟩
  | scheduled _ hstore => exact hstore ▸ hsame ⟨rfl, rfl, rfl⟩

/-- What every step of a call preserves holds after the call where the call found it. -/
theorem after_induction {motive : Session → Prop} (hbefore : motive (call.before session))
    (hstep : ∀ first second, call.Step session.store first second → motive first →
      motive second) :
    motive (call.after session) :=
  after_effects hbefore fun first second heffect => hstep first second heffect.step

/-- Every step keeps the keys. -/
theorem Step.keyed (hkeys : session.store.Keyed) (h : call.Step store session session') :
    session'.store.Keyed := by
  cases h with
  | administered h =>
      rcases h.store with hstore | hwritten
      · exact hstore ▸ hkeys
      · exact hwritten.keyed hkeys
  | engaged _ _ hcourse => exact hcourse.keyed hkeys
  | scheduled _ hstore _ => exact hstore ▸ (hkeys.drop_pending_for _ _).add_pending _

/-- No step gives a state an empty id. -/
theorem Step.named (hnamed : session.store.Named) (h : call.Step store session session') :
    session'.store.Named := by
  cases h with
  | administered h =>
      rcases h.store with hstore | hwritten
      · exact hstore ▸ hnamed
      · exact hwritten.named hnamed
  | engaged _ _ hcourse =>
      intro state hstate
      rw [hcourse.frame.1] at hstate
      exact hnamed state hstate
  | scheduled _ hstore _ =>
      rw [hstore]
      exact hnamed

/-- After every step no field has two pending transitions where none had before. -/
theorem Step.single_pending (hsingle : session.store.SinglePending)
    (h : call.Step store session session') : session'.store.SinglePending := by
  cases h with
  | administered h =>
      rcases h.store with hstore | hwritten
      · exact hstore ▸ hsingle
      · exact hsingle.of_sublist hwritten.frame.2.1
  | engaged _ _ hcourse => exact hcourse.single_pending hsingle
  | scheduled _ hstore _ => exact hstore ▸ hsingle.schedule _

/-- After every step the records are numbered in their order where they were before. -/
theorem Step.numbered (hnumbered : session.store.Numbered) (h : call.Step store session session') :
    session'.store.Numbered := by
  cases h with
  | administered h =>
      rcases h.store with hstore | hwritten
      · exact hstore ▸ hnumbered
      · exact hnumbered.of_sublist hwritten.frame.1 hwritten.frame.2.2.1
  | engaged _ _ hcourse => exact hcourse.numbered hnumbered
  | scheduled _ hstore _ => exact hstore ▸ hnumbered.of_sublist (List.Sublist.refl _) rfl

end Call

namespace Session

variable {session : Session}

/-- What every step preserves of the store holds after every run where it held before. -/
theorem serve_invariant {motive : Store → Prop} (hstart : motive session.store)
    (hstep : ∀ {call : Call} {store : Store} {first second : Session},
      call.Step store first second → motive first.store → motive second.store)
    (calls : List Call) : motive (session.serve calls).store :=
  serve_induction (motive := fun session => motive session.store) hstart
    fun _ _ _ hbefore =>
      Call.after_induction (motive := fun session => motive session.store) hbefore
        fun _ _ => hstep

/-- The keys of the tables hold after every run from a store that is keyed. -/
theorem serve_keyed (hkeys : session.store.Keyed) (calls : List Call) :
    (session.serve calls).store.Keyed :=
  serve_invariant hkeys (fun hstep hkeys => hstep.keyed hkeys) calls

/-- No state has an empty id after a run from a store where none has. -/
theorem serve_named (hnamed : session.store.Named) (calls : List Call) :
    (session.serve calls).store.Named :=
  serve_invariant hnamed (fun hstep hnamed => hstep.named hnamed) calls

/-- No field has two pending transitions after a run from a store where none has. -/
theorem serve_single_pending (hsingle : session.store.SinglePending) (calls : List Call) :
    (session.serve calls).store.SinglePending :=
  serve_invariant hsingle (fun hstep hsingle => hstep.single_pending hsingle) calls

/-- The records are numbered in their order after a run from a store where they are. -/
theorem serve_numbered (hnumbered : session.store.Numbered) (calls : List Call) :
    (session.serve calls).store.Numbered :=
  serve_invariant hnumbered (fun hstep hnumbered => hstep.numbered hnumbered) calls

end Session

end ContentWorkflow
