import ContentWorkflow.Proofs.Runs.Sweep
import ContentWorkflow.Proofs.Runs.Tracking

/-!
# Transitions that wait

Where the engine alone moves items, what is pending stays as good as it was when it was scheduled:
it follows on the state that its item is in (`Waits`), because whatever moves the item drops it. The
main theorem, `serve_waiting`, says so of every tracked run without hooks, and that a sweep executes
everything that is due.
-/

namespace ContentWorkflow

/-- The transition waits for its time: it follows on the state that its kept item is in, and both of
its states belong to its workflow. -/
structure Store.Waits (store : Store) (transition : Transition) : Prop where
  follows : ∃ item, store.Follows transition item
  named : transition.toSid ≠ ""
  from_known : (store.statesOf transition.workflowId).Known transition.fromSid
  to_known : (store.statesOf transition.workflowId).Known transition.toSid

/-- Everything that is pending waits for its time. -/
def Store.AllWait (store : Store) : Prop :=
  ∀ row ∈ store.pending, store.Waits row.toTransition

namespace Store

variable {store store' : Store} {transition : Transition}

/-- A transition goes on to wait where its field is left alone and no state is lost. -/
theorem Waits.of_spares (h : store.Waits transition)
    (hspares : store.Spares store' transition.target transition.fieldName)
    (hknown : ∀ {workflowId sid}, (store.statesOf workflowId).Known sid →
      (store'.statesOf workflowId).Known sid) : store'.Waits transition where
  follows := by
    obtain ⟨item, hfollows⟩ := h.follows
    exact hspares.follows hfollows
  named := h.named
  from_known := hknown h.from_known
  to_known := hknown h.to_known

/-- A transition goes on to wait where its field and the states are left alone. -/
theorem Waits.of_states (h : store.Waits transition)
    (hspares : store.Spares store' transition.target transition.fieldName)
    (hstates : store'.states = store.states) : store'.Waits transition :=
  h.of_spares hspares fun hknown => (states_of_congr hstates _).symm ▸ hknown

/-- A transition waits as a row under any number. -/
theorem Waits.of_row (h : store.Waits transition) (tid : Int) :
    store.Waits (PendingRow.of tid transition).toTransition := by
  obtain ⟨item, hfollows⟩ := h.follows
  rw [PendingRow.to_transition_of]
  exact ⟨⟨item, hfollows.kept, hfollows.current⟩, h.named, h.from_known, h.to_known⟩

end Store

/-- Where there are no hooks, an executed transition is the one that was validated. -/
theorem Hooks.executed_none (transition : Transition) :
    Hooks.none.executed transition = { transition with executed := true, status := .executed } :=
  rfl

namespace Platform

variable {platform : Platform} {item : Item} {force : Bool} {transition reached : Transition}
  {session session' : Session}

/-- Without hooks there is something to record of an executed transition. -/
theorem Arrived.nonempty (hhooks : platform.hooks = .none) (hnonempty : ¬ transition.IsEmpty)
    (h : platform.Arrived session item force transition reached session') : ¬ reached.IsEmpty := by
  rw [h.executed, hhooks, Hooks.executed_none]
  exact hnonempty

/-- An executed transition leaves the transitions of other fields waiting. -/
theorem Arrived.waits {other : Transition}
    (hitem : session.store.item? transition.target = some item)
    (h : platform.Arrived session item force transition reached session')
    (hother : ¬ (transition.target = other.target ∧ transition.fieldName = other.fieldName))
    (hwaits : session.store.Waits other) : session'.store.Waits other :=
  hwaits.of_states (h.spares hitem hother) h.states

end Platform

/-- Every step of progress without hooks leaves everything that is pending waiting. -/
theorem Call.Progress.all_wait {call : Call} {session session' : Session}
    (hhooks : call.platform.hooks = .none) (h : call.Progress session session')
    (hwait : session.store.AllWait) : session'.store.AllWait := by
  intro row hrow
  cases h with
  | still hstore =>
      rw [hstore] at hrow ⊢
      exact hwait row hrow
  | managed h =>
      obtain ⟨hitems, hhistory, hpending⟩ := h.frame
      exact (hwait row (hpending ▸ hrow)).of_spares (.of_same hitems hhistory) h.known
  | added hnew hstore =>
      rw [hstore] at hrow ⊢
      exact (hwait row hrow).of_states (.of_added hnew) rfl
  | dismissed hstore =>
      rw [hstore] at hrow ⊢
      exact (hwait row (List.mem_filter.1 hrow).1).of_states (.of_same rfl rfl) rfl
  | @scheduled item transition hfollows hnamed hfrom hto hstore =>
      rw [hstore] at hrow ⊢
      rcases List.mem_append.1 hrow with hrow | hrow
      · exact (hwait row (List.mem_filter.1 hrow).1).of_states (.of_same rfl rfl) rfl
      · rw [List.mem_singleton.1 hrow]
        have hwaits : session.store.Waits transition := ⟨⟨item, hfollows⟩, hnamed, hfrom, hto⟩
        exact (hwaits.of_row _).of_states (.of_same rfl rfl) rfl
  | @moved item _ transition reached hfollows hnonempty harrived =>
      rw [harrived.pending, if_neg (harrived.nonempty hhooks hnonempty)] at hrow
      obtain ⟨hrow, hother⟩ := List.mem_filter.1 hrow
      refine harrived.waits hfollows.kept ?_ (hwait row hrow)
      rintro ⟨htarget, hfield⟩
      exact of_decide_eq_true hother ⟨htarget.symm, hfield.symm⟩

/-! ## Sweeping what waits -/

namespace Platform

variable {platform : Platform} {item : Item} {transition : Transition} {session session' : Session}
  {fate : Fate} {fates : List Fate} {due : List Transition}

/-- A transition that waits is admitted when it is due, unless the request has met it before. -/
theorem admitted_of_waits (hhooks : platform.hooks = .none)
    (hsaving : ∀ store item, platform.saving store item = .saved) (hkeys : session.store.Keyed)
    (hwaits : session.store.Waits transition) (hfollows : session.store.Follows transition item)
    (hfresh : session.context.marker? transition.markerKey = none) :
    platform.Admitted session item true transition.asDue := by
  have hcleared : platform.Cleared session item true transition.asDue := by
    refine cleared_of_forced hwaits.named hwaits.from_known hwaits.to_known hfollows.current hfresh
      Transition.as_due_nonempty fun _ _ => ?_
    rw [hhooks]
    rfl
  exact hcleared.admitted hkeys hsaving

/-- A transition that waits is executed when it is taken up, unless the request has met it before.
Its field is left in the state that it reached, and every other field is left alone. -/
theorem TakenUp.of_waits (hhooks : platform.hooks = .none)
    (hsaving : ∀ store item, platform.saving store item = .saved) (hkeys : session.store.Keyed)
    (hwaits : session.store.Waits transition)
    (hfresh : session.context.marker? transition.markerKey = none)
    (h : platform.TakenUp transition session fate session') :
    fate = .executed ∧ session'.store.states = session.store.states ∧
      session'.store.fieldValue? transition.target transition.fieldName =
        some transition.toSid ∧
      ∀ target fieldName, ¬ (transition.target = target ∧ transition.fieldName = fieldName) →
        session.store.Spares session'.store target fieldName := by
  cases h with
  | discarded hgone =>
      obtain ⟨item, hfollows⟩ := hwaits.follows
      exact absurd hfollows (hgone item)
  | rejected hfollows hadmitted =>
      exact absurd (admitted_of_waits hhooks hsaving hkeys hwaits hfollows hfresh) hadmitted
  | executed hfollows _ _ _ harrived =>
      exact ⟨rfl, harrived.states, harrived.field_value,
        fun _ _ hother => harrived.spares hfollows.kept hother⟩

/-- A sweep of transitions that wait, of different fields and new to the request, executes them all.
Each leaves its field in the state that it reached and every other field alone. -/
theorem Swept.of_waits (hhooks : platform.hooks = .none)
    (hsaving : ∀ store item, platform.saving store item = .saved) (hkeys : session.store.Keyed)
    (hwaits : ∀ transition ∈ due, session.store.Waits transition)
    (hfields : (due.map fun transition => (transition.target, transition.fieldName)).Nodup)
    (hfresh : ∀ transition ∈ due, session.context.marker? transition.markerKey = none)
    (h : platform.Swept session due fates session') :
    (∀ fate ∈ fates, fate = .executed) ∧
      (∀ target fieldName, (∀ transition ∈ due,
          ¬ (transition.target = target ∧ transition.fieldName = fieldName)) →
        session.store.Spares session'.store target fieldName) ∧
      ∀ transition ∈ due,
        session'.store.fieldValue? transition.target transition.fieldName =
          some transition.toSid := by
  induction h with
  | done =>
      exact ⟨List.forall_mem_nil _, fun _ _ _ => .of_same rfl rfl, List.forall_mem_nil _⟩
  | @next session middle session' transition rest fate fates htaken hrest ih =>
      rw [List.forall_mem_cons] at hwaits hfresh
      rw [List.map_cons, List.nodup_cons] at hfields
      obtain ⟨rfl, hstates, hreached, hspares⟩ :=
        htaken.of_waits hhooks hsaving hkeys hwaits.1 hfresh.1
      have hdropped : ∀ {target fieldName},
          middle.store.Spares (middle.dismiss transition.id).store target fieldName :=
        .of_same rfl rfl
      -- the transitions that are left are of other fields, so they go on to wait
      have hother : ∀ other ∈ rest, ¬ (transition.target = other.target ∧
          transition.fieldName = other.fieldName) := by
        rintro other hmem ⟨htarget, hfield⟩
        exact hfields.1 (List.mem_map.2 ⟨other, hmem, Prod.ext htarget.symm hfield.symm⟩)
      have hrestWaits : ∀ other ∈ rest, (middle.dismiss transition.id).store.Waits other := by
        intro other hmem
        exact (hwaits.2 other hmem).of_states ((hspares _ _ (hother other hmem)).trans hdropped)
          hstates
      have hrestFresh : ∀ other ∈ rest,
          (middle.dismiss transition.id).context.marker? other.markerKey = none := by
        intro other hmem
        refine (htaken.marker_of_ne fun hkey => ?_).trans (hfresh.2 other hmem)
        exact hother other hmem ⟨congrArg (·.target) hkey.symm, congrArg (·.fieldName) hkey.symm⟩
      obtain ⟨hfates, hspared, hleft⟩ :=
        ih ((htaken.keyed hkeys).drop_pending _) hrestWaits hfields.2 hrestFresh
      refine ⟨?_, ?_, ?_⟩
      · exact List.forall_mem_cons.2 ⟨rfl, hfates⟩
      · intro target fieldName hnone
        rw [List.forall_mem_cons] at hnone
        exact ((hspares _ _ hnone.1).trans hdropped).trans (hspared _ _ hnone.2)
      · refine List.forall_mem_cons.2 ⟨?_, hleft⟩
        refine (hspared _ _ fun other hmem hsame => ?_).field_value (hdropped.field_value hreached)
        exact hother other hmem ⟨hsame.1.symm, hsame.2.symm⟩

end Platform

namespace Session

/-- After a tracked run without hooks from a store where nothing was pending, no field has two
pending transitions, and each follows on the state that its item is in and has both its states in
its workflow. A sweep by a new request that has no hooks and can save every item then executes all
that are due, and leaves each of their fields in the state to reach. -/
theorem serve_waiting {start : Session} (hkeys : start.store.Keyed)
    (hpending : start.store.pending = []) {calls : List Call} (htracked : start.Tracked calls)
    (hhooks : ∀ call ∈ calls, call.platform.hooks = .none) :
    (start.serve calls).store.SinglePending ∧
      (∀ row ∈ (start.serve calls).store.pending,
        (start.serve calls).store.Waits row.toTransition) ∧
      ∀ platform : Platform, platform.hooks = .none →
        (∀ store item, platform.saving store item = .saved) → ∀ now, ∃ session',
          (platform.sweep now).run { start.serve calls with context := .empty } =
              (.ok ⟨((start.serve calls).store.pending.filter (·.timestamp ≤ now)).length, 0, 0⟩,
                session') ∧
            ∀ row ∈ (start.serve calls).store.pending, row.timestamp ≤ now →
              session'.store.fieldValue? row.target row.fieldName = some row.toSid := by
  have hsingle : (start.serve calls).store.SinglePending :=
    serve_single_pending (by simp [Store.SinglePending, hpending]) calls
  have hwait : (start.serve calls).store.AllWait :=
    tracked_invariant (motive := Store.AllWait) htracked
      (fun call hcall _ _ hprogress hwait => hprogress.all_wait (hhooks call hcall) hwait)
      (by simp [Store.AllWait, hpending])
  refine ⟨hsingle, hwait, ?_⟩
  intro platform hnone hsaving now
  obtain ⟨fates, started, swept, session', hrun, hstarted, hfresh, hswept, hstore, -⟩ :=
    @Platform.sweep_answers { start.serve calls with context := .empty } platform now
      (serve_keyed hkeys calls)
  have hdue : ∀ transition ∈ (start.serve calls).store.due now,
      started.store.Waits transition := by
    intro transition htransition
    obtain ⟨row, hrow, -, rfl⟩ := Store.mem_due.1 htransition
    exact hstarted ▸ hwait row hrow
  have hnew : ∀ transition ∈ (start.serve calls).store.due now,
      started.context.marker? transition.markerKey = none := by
    intro transition _
    rw [hfresh]
    rfl
  obtain ⟨hexecuted, -, hreached⟩ := hswept.of_waits hnone hsaving
    (hstarted ▸ serve_keyed hkeys calls) hdue (hsingle.nodup_due now) hnew
  refine ⟨session', ?_, ?_⟩
  · rw [hrun, SweepReport.of_executed hexecuted, hswept.length_eq, Store.length_due]
  · intro row hrow htime
    have hrowDue := Store.mem_due.2 ⟨row, hrow, htime, rfl⟩
    rw [hstore]
    exact hreached _ hrowDue

/-- The transition that takes the node of the small site live, at its time. -/
def planned : Transition :=
  { Transition.small with scheduled := true }

/-- The call that schedules it. -/
def planning : Call :=
  ⟨.small, none, .update true planned⟩

/-- What an update asks for holds where the transition is scheduled by force. -/
theorem cleared_planned {item : Item} (hitem : Store.small.item? ⟨"node", 1⟩ = some item) :
    Platform.small.Cleared ⟨.small, .empty, []⟩ item true (Store.small.fill item planned) := by
  cases hitem
  exact Platform.cleared_of_forced (by decide) (Store.known_of_small rfl).1
    (Store.known_of_small rfl).2 (by decide) rfl (by decide) fun _ _ => rfl

/-- On the small site the transition is pending once it was scheduled. -/
theorem planning_pending :
    (serve ⟨.small, .empty, []⟩ [planning]).store.pending =
      [.of 1 ({ planned with fromSid := "news_draft" }.validated true)] := by
  obtain ⟨sid, reached, session', hanswer⟩ :=
    @Platform.update_answers ⟨.small, .empty, []⟩ .small true planned Store.keyed_small
  have hafter : serve ⟨.small, .empty, []⟩ [planning] = session' :=
    Call.after_update rfl hanswer
  obtain ⟨hmissing, -⟩ | ⟨item, outcome, hitem, hupdate, -, -⟩ := Platform.update_cases hanswer
  · cases hmissing
  · have hstore := (Platform.update_on_cases hupdate).scheduled_of_cleared Store.keyed_small rfl
      (cleared_planned hitem) rfl
    cases hitem
    rw [hafter, hstore]
    rfl

/-- The node of the small site is live after the sweep at the time that was planned. -/
theorem serve_waiting_small :
    ∃ session', (Platform.small.sweep 10).run
          { serve ⟨.small, .empty, []⟩ [planning] with context := .empty } =
        (.ok ⟨1, 0, 0⟩, session') ∧
      session'.store.fieldValue? ⟨"node", 1⟩ "field_state" = some "news_live" := by
  obtain ⟨-, -, hsweep⟩ := @serve_waiting ⟨.small, .empty, []⟩ Store.keyed_small rfl [planning]
    ⟨rfl, trivial⟩ (by simp [planning, Platform.small])
  obtain ⟨session', hrun, hreached⟩ := hsweep .small rfl (fun _ _ => rfl) 10
  rw [planning_pending] at hrun hreached
  exact ⟨session', hrun, hreached _ List.mem_cons_self (by decide)⟩

end Session

end ContentWorkflow
