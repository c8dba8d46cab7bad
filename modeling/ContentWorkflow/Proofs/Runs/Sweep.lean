import ContentWorkflow.Proofs.Engine.Due
import ContentWorkflow.Proofs.Runs.Invariants

/-!
# Sweeps

A sweep takes up what is due, one transition after another, and drops each. `Swept` is the chain of
what became of them, and `sweep_answers` says that a sweep of a keyed store gives an answer, which
counts them. What is left pending is what was not due (`sweep_pending`). The main theorems are
`sweep_settles`, which says this of any store that a run leaves behind, and `sweep_split`, which
says that sweeping twice, at two times, is sweeping once at the later one.
-/

namespace ContentWorkflow

/-! ## Reports -/

namespace SweepReport

/-- The transitions of two sweeps together. -/
instance : Add SweepReport :=
  ⟨fun first second => ⟨first.executed + second.executed, first.discarded + second.discarded,
    first.rejected + second.rejected⟩⟩

/-- The report of a sweep from what became of the transitions. -/
def of (fates : List Fate) : SweepReport :=
  ⟨fates.count .executed, fates.count .discarded, fates.count .rejected⟩

variable {report : SweepReport} {fate : Fate} {fates : List Fate}

theorem add_eq (first second : SweepReport) :
    first + second = ⟨first.executed + second.executed, first.discarded + second.discarded,
      first.rejected + second.rejected⟩ :=
  rfl

@[simp] theorem nothing_add (report : SweepReport) : nothing + report = report := by
  simp [add_eq, nothing]

/-- Counting a transition first or last makes no difference. -/
theorem add_of_cons : report.add fate + of fates = report + of (fate :: fates) := by
  cases fate <;> simp [add_eq, SweepReport.add, of, Nat.add_assoc, Nat.add_comm 1]

/-- The report of two sweeps is the sum of their reports. -/
theorem of_append (first second : List Fate) : of (first ++ second) = of first + of second := by
  simp [add_eq, of]

/-- A report counts each transition once. -/
theorem total_of (fates : List Fate) :
    (of fates).executed + (of fates).discarded + (of fates).rejected = fates.length := by
  induction fates with
  | nil => rfl
  | cons fate fates ih =>
      cases fate <;> simp [of] at ih ⊢ <;> omega

/-- The report of a sweep that executed every transition. -/
theorem of_executed (h : ∀ fate ∈ fates, fate = .executed) : of fates = ⟨fates.length, 0, 0⟩ := by
  rw [List.eq_replicate_of_mem h]
  simp [of, List.count_replicate]

end SweepReport

/-! ## The rounds of a sweep -/

/-- The transition with the number is no longer pending. -/
def Session.dismiss (session : Session) (tid : Int) : Session :=
  { session with store := session.store.dropPending tid }

namespace Platform

/-- What becomes of the transitions when they are taken up one after another and none of them is
pending any longer. -/
inductive Swept (platform : Platform) : Session → List Transition → List Fate → Session → Prop where
  | done {session : Session} : Swept platform session [] [] session
  | next {session middle session' : Session} {transition : Transition} {rest : List Transition}
      {fate : Fate} {fates : List Fate}
      (htaken : platform.TakenUp transition session fate middle)
      (hrest : Swept platform (middle.dismiss transition.id) rest fates session') :
      Swept platform session (transition :: rest) (fate :: fates) session'

variable {platform : Platform} {store : Store} {session session' other other' : Session}
  {transition : Transition} {due early late : List Transition} {fates fates' : List Fate}

/-- Taking up transitions gives an answer. -/
theorem take_up_all_answers (platform : Platform) (hkeys : session.store.Keyed)
    (hexecuted : ∀ transition ∈ due, transition.executed = false) (report : SweepReport) :
    ∃ fates session', (platform.takeUpAll due report).run session =
        (.ok (report + .of fates), session') ∧
      platform.Swept session due fates session' := by
  induction due generalizing session report with
  | nil => exact ⟨[], session, rfl, .done⟩
  | cons transition rest ih =>
      obtain ⟨fate, middle, hanswer, htaken⟩ :=
        take_up_answers platform transition hkeys (hexecuted transition List.mem_cons_self)
      have hdropped : (middle.dismiss transition.id).store.Keyed :=
        (htaken.keyed hkeys).drop_pending transition.id
      obtain ⟨fates, session', hrun, hrest⟩ := ih hdropped
        (fun other hother => hexecuted other (List.mem_cons_of_mem transition hother))
        (report.add fate)
      refine ⟨fate :: fates, session', ?_, .next htaken hrest⟩
      rw [takeUpAll, Action.run_bind, Action.run_of_step, hanswer, ← SweepReport.add_of_cons]
      dsimp only
      rw [Action.run_bind, Action.run_change]
      exact hrun

/-- A sweep gives an answer, which counts what became of the transitions that were due. -/
theorem sweep_answers (platform : Platform) (now : Int) (hkeys : session.store.Keyed) :
    ∃ fates started swept session', (platform.sweep now).run session =
        (.ok (.of fates), session') ∧
      started.store = session.store ∧ started.context = session.context ∧
      platform.Swept started (session.store.due now) fates swept ∧
      session'.store = swept.store ∧ session'.context = swept.context := by
  have hexecuted : ∀ transition ∈ session.store.due now, transition.executed = false := by
    intro transition htransition
    obtain ⟨row, -, -, rfl⟩ := Store.mem_due.1 htransition
    rfl
  -- the sweep logs a line before it takes up the first transition and one after the last
  simp only [sweep, Action.run_bind, Action.run_store, Action.run_log]
  obtain ⟨fates, swept, hrun, hswept⟩ := @take_up_all_answers
    (session.note .debug
      s!"{(session.store.due now).length} scheduled transition(s) due at {now}")
    (session.store.due now) platform hkeys hexecuted .nothing
  rw [hrun, SweepReport.nothing_add]
  exact ⟨fates, session.note .debug _, swept, _, rfl, rfl, rfl, hswept, rfl, rfl⟩

namespace Swept

/-- Each transition meets one fate. -/
theorem length_eq (h : platform.Swept session due fates session') :
    fates.length = due.length := by
  induction h with
  | done => rfl
  | next _ _ ih => rw [List.length_cons, List.length_cons, ih]

/-- A sweep keeps the keys. -/
theorem keyed (hkeys : session.store.Keyed) (h : platform.Swept session due fates session') :
    session'.store.Keyed := by
  induction h with
  | done => exact hkeys
  | next htaken _ ih => exact ih ((htaken.keyed hkeys).drop_pending _)

/-- A sweep leaves alone what the request remembers of transitions that were not due. -/
theorem marker_of_not_mem {key : MarkerKey} (h : platform.Swept session due fates session')
    (hkey : key ∉ due.map (·.markerKey)) :
    session'.context.marker? key = session.context.marker? key := by
  induction h with
  | done => rfl
  | next htaken _ ih =>
      rw [List.map_cons, List.mem_cons, not_or] at hkey
      exact (ih hkey.2).trans (htaken.marker_of_ne hkey.1)

/-- Sweeping transitions is sweeping the first ones and then the others. -/
theorem split (h : platform.Swept session (early ++ late) fates session') :
    ∃ first last middle, fates = first ++ last ∧ platform.Swept session early first middle ∧
      platform.Swept middle late last session' := by
  induction early generalizing session fates with
  | nil => exact ⟨[], fates, session, rfl, .done, h⟩
  | cons transition early ih =>
      cases h with
      | @next _ _ _ _ _ fate _ htaken hrest =>
          obtain ⟨first, last, middle, rfl, hearly, hlate⟩ := ih hrest
          exact ⟨fate :: first, last, middle, rfl, .next htaken hearly, hlate⟩

/-- What becomes of transitions of different fields, and the store that is left behind, depends on
the store and on what the request remembers of the transitions. -/
theorem unique (hkeys : (due.map (·.markerKey)).Nodup) (hstore : other.store = session.store)
    (hmarkers : ∀ key ∈ due.map (·.markerKey),
      other.context.marker? key = session.context.marker? key)
    (h : platform.Swept session due fates session')
    (h' : platform.Swept other due fates' other') :
    fates' = fates ∧ other'.store = session'.store := by
  induction h generalizing other fates' with
  | done =>
      cases h'
      exact ⟨rfl, hstore⟩
  | @next session middle _ transition rest _ _ htaken _ ih =>
      cases h' with
      | @next _ middle' _ _ _ _ _ htaken' hrest' =>
          rw [List.map_cons, List.nodup_cons] at hkeys
          rw [List.map_cons, List.forall_mem_cons] at hmarkers
          obtain ⟨rfl, hmiddle⟩ := htaken.unique hstore hmarkers.1 htaken'
          have hdropped : (middle'.dismiss transition.id).store =
              (middle.dismiss transition.id).store :=
            congrArg (·.dropPending transition.id) hmiddle
          have hrest : ∀ key ∈ rest.map (·.markerKey),
              middle'.context.marker? key = middle.context.marker? key := by
            intro key hkey
            have hother : key ≠ transition.markerKey := fun h => hkeys.1 (h ▸ hkey)
            rw [htaken.marker_of_ne hother, htaken'.marker_of_ne hother, hmarkers.2 key hkey]
          obtain ⟨rfl, hfinal⟩ := ih hkeys.2 hdropped hrest hrest'
          exact ⟨rfl, hfinal⟩

/-- A sweep drops its transitions from what is pending, and nothing else where no other transition
of their fields is pending. -/
theorem pending_eq
    (hown : ∀ transition ∈ due, ∀ row ∈ session.store.pending,
      row.IsFor transition.target transition.fieldName → row.tid = transition.id)
    (h : platform.Swept session due fates session') :
    session'.store.pending = session.store.pending.filter (·.tid ∉ due.map (·.id)) := by
  induction h with
  | done => simp
  | @next session middle _ transition rest _ _ htaken _ ih =>
      -- what an execution dropped besides was for the field, so it was this very transition
      have hdropped : (middle.dismiss transition.id).store.pending =
          session.store.pending.filter (·.tid ≠ transition.id) := by
        obtain hpending | hpending := htaken.pending
        · simp only [Session.dismiss, Store.dropPending, hpending]
        · simp only [Session.dismiss, Store.dropPending, hpending, List.filter_filter]
          refine List.filter_congr fun row hrow => ?_
          have hfield := hown transition List.mem_cons_self row hrow
          by_cases hid : row.tid = transition.id
          · simp [hid]
          · simp [hid, mt hfield hid]
      have hrest : ∀ other ∈ rest, ∀ row ∈ (middle.dismiss transition.id).store.pending,
          row.IsFor other.target other.fieldName → row.tid = other.id := by
        intro other hother row hrow
        rw [hdropped] at hrow
        exact hown other (List.mem_cons_of_mem transition hother) row (List.mem_filter.1 hrow).1
      rw [ih hrest, hdropped, List.filter_filter]
      refine List.filter_congr fun row _ => ?_
      simp only [List.map_cons, List.mem_cons, not_or, ← Bool.decide_and, and_comm]

end Swept

/-- The request tells the transitions that are due from each other. -/
theorem nodup_due_keys (hsingle : store.SinglePending) (now : Int) :
    ((store.due now).map (·.markerKey)).Nodup := by
  refine List.Nodup.of_map (fun key : MarkerKey => (key.target, key.fieldName)) ?_
  rw [List.map_map]
  exact hsingle.nodup_due now

/-- What is pending after a sweep is what was not due. -/
theorem sweep_pending {now : Int} {started : Session} (hkeys : store.Keyed)
    (hsingle : store.SinglePending) (hstore : started.store = store)
    (h : platform.Swept started (store.due now) fates session') :
    session'.store.pending = store.pending.filter (now < ·.timestamp) := by
  subst hstore
  rw [h.pending_eq fun transition hdue row hrow hfield => hsingle.due_own hdue hrow hfield]
  refine List.filter_congr fun row hrow => ?_
  rw [decide_eq_decide, Store.mem_due_ids hkeys hrow, Int.not_le]

/-- A sweep answers with the number of transitions that were due, and what it leaves pending is what
was not due. -/
theorem sweep_counts (platform : Platform) (now : Int) (hkeys : session.store.Keyed)
    (hsingle : session.store.SinglePending) :
    ∃ report session', (platform.sweep now).run session = (.ok report, session') ∧
      report.executed + report.discarded + report.rejected =
        (session.store.pending.filter (·.timestamp ≤ now)).length ∧
      session'.store.pending = session.store.pending.filter (now < ·.timestamp) := by
  obtain ⟨fates, started, swept, session', hrun, hstarted, -, hswept, hstore, -⟩ :=
    sweep_answers platform now hkeys
  refine ⟨.of fates, session', hrun, ?_, ?_⟩
  · rw [SweepReport.total_of, hswept.length_eq, Store.length_due]
  · rw [hstore, sweep_pending hkeys hsingle hstarted hswept]

/-- A sweep changes nothing where nothing is due. -/
theorem sweep_nothing {now : Int}
    (hdue : ∀ row ∈ session.store.pending, now < row.timestamp) :
    ∃ session', (platform.sweep now).run session = (.ok .nothing, session') ∧
      session'.store = session.store ∧ session'.context = session.context := by
  have hnone : session.store.due now = [] := by
    refine List.eq_nil_iff_forall_not_mem.2 fun transition htransition => ?_
    obtain ⟨row, hrow, htime, -⟩ := Store.mem_due.1 htransition
    exact absurd htime (Int.not_le.2 (hdue row hrow))
  rw [sweep, Action.run_bind, Action.run_store]
  dsimp only
  rw [hnone]
  exact ⟨_, rfl, rfl, rfl⟩

/-- Sweeping at one time and again at a later one leaves the store that a single sweep at the later
time leaves, and the two reports add up to the report of the single sweep. -/
theorem sweep_split (platform : Platform) (hkeys : store.Keyed) (hsingle : store.SinglePending)
    {first last : Int} (hle : first ≤ last) (log : List LogLine) :
    ∃ whole once early middle late twice,
      (platform.sweep last).run ⟨store, .empty, log⟩ = (.ok whole, once) ∧
        (platform.sweep first).run ⟨store, .empty, log⟩ = (.ok early, middle) ∧
        (platform.sweep last).run { middle with context := .empty } = (.ok late, twice) ∧
        twice.store = once.store ∧ early + late = whole := by
  obtain ⟨fates, started, swept, once, hrun, hstarted, hfresh, hswept, honce, -⟩ :=
    @sweep_answers ⟨store, .empty, log⟩ platform last hkeys
  obtain ⟨fatesEarly, startedEarly, sweptEarly, middle, hrunEarly, hstartedEarly, hfreshEarly,
      hsweptEarly, hmiddle, -⟩ :=
    @sweep_answers ⟨store, .empty, log⟩ platform first hkeys
  have hmiddleKeys : middle.store.Keyed :=
    hmiddle ▸ hsweptEarly.keyed (hstartedEarly ▸ hkeys)
  obtain ⟨fatesLate, startedLate, sweptLate, twice, hrunLate, hstartedLate, hfreshLate,
      hsweptLate, htwice, -⟩ :=
    @sweep_answers { middle with context := .empty } platform last hmiddleKeys
  -- the single sweep takes up first what the first sweep does, and then what the second does
  have hdue : store.due last = store.due first ++ middle.store.due last :=
    Store.due_split hkeys hle (hmiddle ▸ sweep_pending hkeys hsingle hstartedEarly hsweptEarly)
  have hnodup := nodup_due_keys hsingle last
  rw [hdue, List.map_append, List.nodup_append] at hnodup
  obtain ⟨hearlyKeys, hlateKeys, hdisjoint⟩ := hnodup
  dsimp only at hswept
  rw [hdue] at hswept
  obtain ⟨early, late, between, rfl, hearly, hlate⟩ := hswept.split
  have hsameStart : ∀ key ∈ (store.due first).map (·.markerKey),
      startedEarly.context.marker? key = started.context.marker? key := by
    intro key _
    rw [hfreshEarly, hfresh]
  obtain ⟨rfl, hbetween⟩ :=
    hearly.unique hearlyKeys (hstartedEarly.trans hstarted.symm) hsameStart hsweptEarly
  -- of what is taken up later, the single sweep remembers as little as a new request does
  have hsameLate : ∀ key ∈ (middle.store.due last).map (·.markerKey),
      startedLate.context.marker? key = between.context.marker? key := by
    intro key hkey
    have hother : key ∉ (store.due first).map (·.markerKey) :=
      fun hmem => hdisjoint key hmem key hkey rfl
    rw [hearly.marker_of_not_mem hother, hfreshLate, hfresh]
  obtain ⟨rfl, hfinal⟩ :=
    hlate.unique hlateKeys (hstartedLate.trans (hmiddle.trans hbetween)) hsameLate hsweptLate
  exact ⟨_, once, _, middle, _, twice, hrun, hrunEarly, hrunLate, by rw [htwice, hfinal, honce],
    (SweepReport.of_append _ _).symm⟩

end Platform

/-- The store of the small site with two transitions of its node that wait, one for each of
two fields. -/
def Store.scheduledTwice : Store :=
  (Store.small.addPending { Transition.small with fromSid := "news_draft" }).addPending
    { Transition.small with fieldName := "field_review", fromSid := "news_draft", timestamp := 20 }

/-- Sweeping the two transitions of the small site one by one is sweeping them together. -/
theorem Platform.sweep_split_small :
    Store.scheduledTwice.Keyed ∧ Store.scheduledTwice.SinglePending ∧
      (Store.scheduledTwice.due 10).length = 1 ∧ (Store.scheduledTwice.due 20).length = 2 ∧
      ∃ whole once early middle late twice,
        (small.sweep 20).run ⟨.scheduledTwice, .empty, []⟩ = (.ok whole, once) ∧
          (small.sweep 10).run ⟨.scheduledTwice, .empty, []⟩ = (.ok early, middle) ∧
          (small.sweep 20).run { middle with context := .empty } = (.ok late, twice) ∧
          twice.store = once.store ∧ early + late = whole := by
  have hkeys : Store.scheduledTwice.Keyed := (Store.keyed_small.add_pending _).add_pending _
  have hsingle : Store.scheduledTwice.SinglePending := by decide
  refine ⟨hkeys, hsingle, ?_, ?_, sweep_split small hkeys hsingle (by decide) []⟩
  · rw [Store.length_due]
    decide
  · rw [Store.length_due]
    decide

namespace Session

variable {start : Session}

/-- After any calls from a store where nothing was pending, a sweep answers with the number of
transitions that are due, whatever becomes of them. What it leaves pending is what was not due, and
sweeping again at that time or an earlier one does nothing. -/
theorem sweep_settles (hkeys : start.store.Keyed) (hpending : start.store.pending = [])
    (calls : List Call) (platform : Platform) (context : RequestContext) (now : Int) :
    ∃ report session',
      (platform.sweep now).run { start.serve calls with context := context } =
          (.ok report, session') ∧
        report.executed + report.discarded + report.rejected =
          ((start.serve calls).store.pending.filter (·.timestamp ≤ now)).length ∧
        session'.store.pending = (start.serve calls).store.pending.filter (now < ·.timestamp) ∧
        ∀ (other : Platform) (request : RequestContext), ∀ earlier ≤ now, ∃ after,
          (other.sweep earlier).run { session' with context := request } = (.ok .nothing, after) ∧
            after.store = session'.store ∧ after.context = request := by
  have hsingle : start.store.SinglePending := by simp [Store.SinglePending, hpending]
  obtain ⟨report, session', hrun, hcount, hleft⟩ :=
    @Platform.sweep_counts { start.serve calls with context := context } platform now
      (serve_keyed hkeys calls) (serve_single_pending hsingle calls)
  refine ⟨report, session', hrun, hcount, hleft, ?_⟩
  intro other request earlier hearlier
  refine @Platform.sweep_nothing other { session' with context := request } earlier ?_
  intro row hrow
  have hlater : now < row.timestamp := by
    have hrow : row ∈ session'.store.pending := hrow
    rw [hleft] at hrow
    simpa using (List.mem_filter.1 hrow).2
  exact Int.lt_of_le_of_lt hearlier hlater

/-- The transition that was scheduled on the small site is all that a sweep takes up. -/
theorem sweep_settles_small :
    ∃ report session',
      (Platform.small.sweep 10).run { serve ⟨.small, .empty, []⟩
            [⟨.small, none, .schedule { Transition.small with fromSid := "news_draft" }⟩] with
          context := .empty } = (.ok report, session') ∧
        report.executed + report.discarded + report.rejected = 1 ∧
        session'.store.pending = [] := by
  obtain ⟨report, session', hrun, hcount, hleft, -⟩ :=
    @sweep_settles ⟨.small, .empty, []⟩ Store.keyed_small rfl
      [⟨.small, none, .schedule { Transition.small with fromSid := "news_draft" }⟩] .small .empty 10
  exact ⟨report, session', hrun, hcount, hleft⟩

end Session

end ContentWorkflow
