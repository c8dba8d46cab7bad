import ContentWorkflow.Proofs.Runs.Confinement
import ContentWorkflow.Proofs.Runs.Waiting

/-!
# Records in the order of time

A sweep that comes late records what was due at the time that it was scheduled for, which is in the
past. The records of a field still stand in the order of time as long as the clock never goes back
and every call keeps to it, because whatever is recorded drops what is pending for its field: no
record of a field is ever later than what is pending for it (`Timely`). The main theorem,
`serve_timely`, says so of every run, and that the latest record of a field is the last one stored.
-/

namespace ContentWorkflow

/-! ## The latest record -/

namespace HistoryRecord

theorem Later.trans {first second third : HistoryRecord} (h : first.Later second)
    (h' : second.Later third) : first.Later third := by
  unfold Later at *
  omega

theorem later_total (first second : HistoryRecord) :
    first.Later second ∨ second.Later first := by
  unfold Later
  omega

/-- Of two records that are later than each other both have the same number. -/
theorem Later.hid_eq {first second : HistoryRecord} (h : first.Later second)
    (h' : second.Later first) : first.hid = second.hid := by
  unfold Later at *
  omega

end HistoryRecord

namespace Store

variable {store store' : Store} {transition : Transition} {target : Target} {fieldName : String}
  {clock time : Int}

/-- The latest record of a field is the last one stored where the records of the field stand in the
order of time. -/
theorem Numbered.latest_eq_last (hnumbered : store.Numbered)
    (hordered : (store.trail target fieldName).Pairwise fun first second =>
      first.timestamp ≤ second.timestamp) :
    store.latest? target fieldName = (store.trail target fieldName).getLast? := by
  have hnumbers : (store.trail target fieldName).Pairwise fun first second =>
      first.hid < second.hid := hnumbered.ascending.filter _
  have hlater : (store.trail target fieldName).reverse.Pairwise HistoryRecord.Later := by
    rw [List.pairwise_reverse]
    refine (hordered.and hnumbers).imp ?_
    rintro first second ⟨htime, hhid⟩
    unfold HistoryRecord.Later
    omega
  have hsorted := pairwise_sorted HistoryRecord.Later HistoryRecord.Later.trans
    HistoryRecord.later_total (store.trail target fieldName)
  have hreverse : ((store.trail target fieldName).mergeSort fun first second =>
      decide (first.Later second)) = (store.trail target fieldName).reverse := by
    refine List.Perm.eq_of_pairwise ?_ hsorted hlater
      ((List.mergeSort_perm _ _).trans (List.reverse_perm _).symm)
    intro first second hfirst hsecond h h'
    have hunique : ((store.trail target fieldName).map (·.hid)).Nodup :=
      List.pairwise_map.2 (hnumbers.imp Int.ne_of_lt)
    exact List.inj_on_of_nodup_map hunique (List.mem_mergeSort.1 hfirst)
      (List.mem_reverse.1 hsecond) (h.hid_eq h')
  rw [← List.head?_reverse, ← hreverse]
  rfl

/-! ## Records and time -/

/-- No record of the field is later than the time. -/
def NoneLater (store : Store) (target : Target) (fieldName : String) (time : Int) : Prop :=
  ∀ record ∈ store.trail target fieldName, record.timestamp ≤ time

/-- The records of every field stand in the order of time, and none of them is later than the clock,
or than what is pending for the field. -/
structure Timely (store : Store) (clock : Int) : Prop where
  ordered : ∀ target fieldName, (store.trail target fieldName).Pairwise fun first second =>
    first.timestamp ≤ second.timestamp
  past : ∀ target fieldName, store.NoneLater target fieldName clock
  awaited : ∀ row ∈ store.pending, store.NoneLater row.target row.fieldName row.timestamp

/-- What is not later than a time is not later than any time after it. -/
theorem NoneLater.mono (h : store.NoneLater target fieldName clock) (hle : clock ≤ time) :
    store.NoneLater target fieldName time :=
  fun record hrecord => Int.le_trans (h record hrecord) hle

/-- Dropping records leaves none that is later. -/
theorem NoneLater.of_sublist (h : store.NoneLater target fieldName time)
    (hhistory : store'.history.Sublist store.history) :
    store'.NoneLater target fieldName time :=
  fun record hrecord => h record ((hhistory.filter _).subset hrecord)

/-- Records stay timely while the clock goes on. -/
theorem Timely.mono (h : store.Timely clock) (hle : clock ≤ time) : store.Timely time :=
  { h with past := fun target fieldName => (h.past target fieldName).mono hle }

/-- Dropping records and pending transitions leaves the others timely. -/
theorem Timely.of_sublist (h : store.Timely clock)
    (hhistory : store'.history.Sublist store.history)
    (hpending : store'.pending.Sublist store.pending) : store'.Timely clock where
  ordered := fun target fieldName => (h.ordered target fieldName).sublist (hhistory.filter _)
  past := fun target fieldName => (h.past target fieldName).of_sublist hhistory
  awaited := fun row hrow => (h.awaited row (hpending.subset hrow)).of_sublist hhistory

/-- Entering an executed transition leaves a trail as it was, or extends the one of its field by a
record of its time. -/
theorem trail_enter (store : Store) (transition : Transition) (target : Target)
    (fieldName : String) :
    (store.enter transition).trail target fieldName = store.trail target fieldName ∨
      (transition.target = target ∧ transition.fieldName = fieldName) ∧
        ∃ record : HistoryRecord, record.timestamp = transition.timestamp ∧
          (store.enter transition).trail target fieldName =
            store.trail target fieldName ++ [record] := by
  rw [trail, enter_history, List.filter_append, trail]
  by_cases hempty : transition.IsEmpty
  · simp [hempty]
  · by_cases hfield : transition.target = target ∧ transition.fieldName = fieldName
    · exact Or.inr ⟨hfield, { transition.toRecord with hid := store.lastHid + 1 }, rfl,
        by simp [hempty, Transition.toRecord, hfield]⟩
    · simp [hempty, Transition.toRecord, hfield]

/-- No record is later than a time after an executed transition was entered, where none was before
and the transition is not, if it is for the field. -/
theorem NoneLater.enter (h : store.NoneLater target fieldName time)
    (hnew : transition.target = target → transition.fieldName = fieldName →
      transition.timestamp ≤ time) :
    (store.enter transition).NoneLater target fieldName time := by
  obtain hsame | ⟨⟨htarget, hfield⟩, record, htime, htrail⟩ :=
    store.trail_enter transition target fieldName
  · rw [NoneLater, hsame]
    exact h
  · rw [NoneLater, htrail]
    refine List.forall_mem_append.2 ⟨h, List.forall_mem_singleton.2 ?_⟩
    exact htime ▸ hnew htarget hfield

/-- Entering an executed transition that no record of its field is later than keeps the records
timely. -/
theorem Timely.enter (h : store.Timely clock) (hpast : transition.timestamp ≤ clock)
    (hlast : store.NoneLater transition.target transition.fieldName transition.timestamp) :
    (store.enter transition).Timely clock := by
  by_cases hempty : transition.IsEmpty
  · rw [Store.enter, if_pos hempty]
    exact h
  · constructor
    case ordered =>
        intro target fieldName
        obtain hsame | ⟨⟨rfl, rfl⟩, record, htime, htrail⟩ :=
          store.trail_enter transition target fieldName
        · rw [hsame]
          exact h.ordered target fieldName
        · rw [htrail]
          refine List.pairwise_append.2 ⟨h.ordered _ _, List.pairwise_singleton _ _, ?_⟩
          intro earlier hearlier last hmem
          rw [List.mem_singleton.1 hmem, htime]
          exact hlast earlier hearlier
    case past => exact fun target fieldName => (h.past target fieldName).enter fun _ _ => hpast
    case awaited =>
        -- what is pending for the field is dropped, so the record meets no row that waits for it
        intro row hrow
        rw [enter_pending, if_neg hempty] at hrow
        obtain ⟨hrow, hother⟩ := List.mem_filter.1 hrow
        refine (h.awaited row hrow).enter fun htarget hfield => ?_
        exact absurd ⟨htarget.symm, hfield.symm⟩ (of_decide_eq_true hother)

/-- Scheduling a transition that no record of its field is later than keeps the records timely. -/
theorem Timely.schedule (h : store.Timely clock)
    (hlast : store.NoneLater transition.target transition.fieldName transition.timestamp) :
    ((store.dropPendingFor transition.target transition.fieldName).addPending
      transition).Timely clock where
  ordered := h.ordered
  past := h.past
  awaited := forall_add_row (fun row hrow => h.awaited row (List.mem_filter.1 hrow).1) hlast

end Store

namespace Platform

variable {platform : Platform} {item : Item} {force moving : Bool} {transition : Transition}
  {session session' : Session} {outcome : Outcome} {target : Target} {fieldName : String}
  {clock time : Int}

/-- No record is later than a time after a course, where none was before and the transition is not,
if it is for the field. -/
theorem Course.none_later (h : session.store.NoneLater target fieldName time)
    (hnew : transition.target = target → transition.fieldName = fieldName →
      transition.timestamp ≤ time)
    (hcourse : platform.Course item force transition session moving outcome session') :
    session'.store.NoneLater target fieldName time := by
  cases hcourse with
  | repeated _ _ hstore => exact hstore ▸ h
  | objected _ _ hstore => exact hstore ▸ h
  | empty _ hstore => exact hstore ▸ h
  | unsaved _ _ _ hstore => exact hstore ▸ h
  | scheduled _ _ _ hstore => exact hstore ▸ h
  | recorded _ _ _ hstore => exact hstore ▸ h.enter hnew
  | moved _ _ _ hstore =>
      have hsaved : ∀ item, (session.store.saveItem item).NoneLater target fieldName time :=
        fun _ => h
      exact hstore ▸ (hsaved _).enter hnew

/-- Every course of a transition that no record of its field is later than keeps the records timely,
provided that nothing is recorded ahead of the clock. -/
theorem Course.timely (h : session.store.Timely clock)
    (hlast : session.store.NoneLater transition.target transition.fieldName transition.timestamp)
    (hpast : transition.scheduled = false → transition.timestamp ≤ clock)
    (hmoving : moving = true → transition.scheduled = false)
    (hcourse : platform.Course item force transition session moving outcome session') :
    session'.store.Timely clock := by
  cases hcourse with
  | repeated _ _ hstore => exact hstore ▸ h
  | objected _ _ hstore => exact hstore ▸ h
  | empty _ hstore => exact hstore ▸ h
  | unsaved _ _ _ hstore => exact hstore ▸ h
  | scheduled _ _ _ hstore =>
      rw [hstore]
      exact @Store.Timely.schedule _ (transition.validated force) _ h hlast
  | recorded hscheduled _ _ hstore =>
      rw [hstore]
      exact h.enter (hpast hscheduled) hlast
  | moved _ _ _ hstore =>
      rw [hstore]
      have hsaved : ∀ item, (session.store.saveItem item).Timely clock :=
        fun _ => h.of_sublist (List.Sublist.refl _) (List.Sublist.refl _)
      exact (hsaved _).enter (hpast (hmoving rfl)) hlast

end Platform

/-! ## Calls that keep to the clock -/

/-- The transition has the time of the clock, or it is scheduled for no earlier time. -/
def Transition.Timed (transition : Transition) (clock : Int) : Prop :=
  if transition.scheduled then clock ≤ transition.timestamp else transition.timestamp = clock

/-- The call keeps to its clock: transitions that it submits are timed by it, whatever it schedules
is for no earlier time, and a sweep takes up what is due by it. -/
def Call.Timed (call : Call) : Prop :=
  match call.operation with
  | .execute _ transition | .update _ transition | .updateContent _ transition _ =>
      transition.Timed call.platform.clock
  | .schedule transition => call.platform.clock ≤ transition.timestamp
  | .sweep now => now = call.platform.clock
  | _ => True

namespace Transition.Timed

variable {transition : Transition} {clock : Int}

theorem not_before (h : transition.Timed clock) : clock ≤ transition.timestamp := by
  unfold Timed at h
  split at h
  · exact h
  · exact Int.le_of_eq h.symm

theorem not_after (h : transition.Timed clock) (hscheduled : transition.scheduled = false) :
    transition.timestamp ≤ clock := by
  rw [Timed, if_neg (by simp [hscheduled])] at h
  exact Int.le_of_eq h

/-- No record is later than a transition that is timed, where none is later than the clock. -/
theorem none_later {store : Store} (h : transition.Timed clock) (htimely : store.Timely clock) :
    store.NoneLater transition.target transition.fieldName transition.timestamp :=
  (htimely.past _ _).mono h.not_before

end Transition.Timed

/-- An update that moves its item is of a transition that is not scheduled. -/
theorem Session.Updates.unscheduled {session : Session} {item : Item} {transition : Transition}
    (h : session.Updates item transition true) : transition.scheduled = false := by
  have hmoving := h.moving
  cases hscheduled : transition.scheduled with
  | false => rfl
  | true => simp [hscheduled] at hmoving

namespace Call

variable {call : Call} {store : Store} {session session' : Session} {submission : Submission}

/-- What a timed call submits is timed by its clock, unless the call is a sweep, which submits what
was pending when it began and is due. -/
theorem Submits.timed (htimed : call.Timed) (h : call.Submits store submission) :
    ((∀ now, call.operation ≠ .sweep now) ∧
        submission.transition.Timed call.platform.clock) ∨
      (∃ now, call.operation = .sweep now) ∧ ∃ row ∈ store.pending,
        row.timestamp ≤ call.platform.clock ∧ submission.transition = row.toTransition.asDue := by
  unfold Timed at htimed
  cases h with
  | execute hop => exact Or.inl ⟨by simp [hop], by simpa [hop] using htimed⟩
  | update hop => exact Or.inl ⟨by simp [hop], by simpa [hop] using htimed⟩
  | updateContent hop => exact Or.inl ⟨by simp [hop], by simpa [hop] using htimed⟩
  | reassigning hop => exact Or.inl ⟨by simp [hop], rfl⟩
  | reverting hop => exact Or.inl ⟨by simp [hop], rfl⟩
  | @due now row item hop hrow hdue =>
      have hnow : now = call.platform.clock := by simpa [hop] using htimed
      exact Or.inr ⟨⟨now, hop⟩, row, hrow, hnow ▸ hdue, rfl⟩

/-- The records are timely, and while a sweep goes on they are not later than what was pending when
it began either. -/
structure Abreast (call : Call) (store : Store) (session : Session) : Prop where
  timely : session.store.Timely call.platform.clock
  sweeping : (∃ now, call.operation = .sweep now) → ∀ row ∈ store.pending,
    session.store.NoneLater row.target row.fieldName row.timestamp

/-- What drops records and pending transitions, or none, keeps abreast. -/
theorem Abreast.of_sublist (h : call.Abreast store session)
    (hhistory : session'.store.history.Sublist session.store.history)
    (hpending : session'.store.pending.Sublist session.store.pending) :
    call.Abreast store session' where
  timely := h.timely.of_sublist hhistory hpending
  sweeping := fun hsweep row hrow => (h.sweeping hsweep row hrow).of_sublist hhistory

/-- The administration keeps abreast. -/
theorem Abreast.administered (h : call.Abreast store session)
    (hadministered : session.Administered session') : call.Abreast store session' := by
  rcases hadministered.store with hstore | hwritten
  · exact h.of_sublist (hstore ▸ List.Sublist.refl _) (hstore ▸ List.Sublist.refl _)
  · exact h.of_sublist hwritten.frame.1 hwritten.frame.2.1

/-- What the engine does with a transition that a timed call submits keeps abreast. -/
theorem Abreast.engaged {moving : Bool} {outcome : Outcome} (h : call.Abreast store session)
    (htimed : call.Timed) (hsingle : store.SinglePending) (hsubmits : call.Submits store submission)
    (hmoving : moving = true → submission.transition.scheduled = false)
    (hcourse : call.platform.Course submission.item submission.force
      (session.store.fill submission.item submission.transition) session moving outcome session') :
    call.Abreast store session' := by
  obtain ⟨item, force, transition⟩ := submission
  obtain ⟨hnever, hown⟩ | ⟨hsweep, row, hrow, hdue, rfl⟩ := hsubmits.timed htimed
  · constructor
    · refine hcourse.timely h.timely ?_ ?_ ?_
      · simpa using hown.none_later h.timely
      · simpa using hown.not_after
      · simpa using hmoving
    · rintro ⟨now, hop⟩
      exact absurd hop (hnever now)
  · constructor
    · refine hcourse.timely h.timely ?_ ?_ ?_
      · rw [Store.fill_target, Store.fill_field, Store.fill_timestamp]
        exact h.sweeping hsweep row hrow
      · intro _
        rw [Store.fill_timestamp]
        exact hdue
      · simpa using hmoving
    · intro _ other hother
      refine hcourse.none_later (h.sweeping hsweep other hother) fun htarget hfield => ?_
      -- the only transition that was pending for the field is the one that is due
      rw [Store.fill_target] at htarget
      rw [Store.fill_field] at hfield
      rw [Store.fill_timestamp, hsingle.unique hrow hother ⟨htarget.symm, hfield.symm⟩]
      exact Int.le_refl _

/-- Every effect of a timed call keeps abreast, unless the call executes a transition. -/
theorem Effect.abreast (heffect : call.Effect store session session') (htimed : call.Timed)
    (hother : ¬ ∃ force transition, call.operation = .execute force transition)
    (hsingle : store.SinglePending) (h : call.Abreast store session) :
    call.Abreast store session' := by
  cases heffect with
  | managed hmanaged => exact h.administered hmanaged.administered
  | purged _ hpurged => exact h.administered hpurged.administered
  | saved _ _ hstore =>
      exact h.of_sublist (hstore ▸ List.Sublist.refl _) (hstore ▸ List.Sublist.refl _)
  | dismissed _ hstore =>
      exact h.of_sublist (hstore ▸ List.Sublist.refl _) (hstore ▸ List.filter_sublist)
  | engaged hsubmits _ _ hupdates _ hcourse =>
      refine h.engaged htimed hsingle hsubmits ?_ hcourse
      rintro rfl
      simpa using (hupdates.resolve_right hother).unscheduled
  | @scheduled transition hop hstore =>
      have hown : session.store.NoneLater transition.target transition.fieldName
          transition.timestamp :=
        (h.timely.past _ _).mono (by simpa [Timed, hop] using htimed)
      constructor
      · rw [hstore]
        exact h.timely.schedule hown
      · rintro ⟨now, hsweep⟩
        cases hop.symm.trans hsweep

/-- A timed call keeps the records timely. -/
theorem after_timely (htimed : call.Timed) (hsingle : session.store.SinglePending)
    (h : session.store.Timely call.platform.clock) :
    (call.after session).store.Timely call.platform.clock := by
  by_cases hexecute : ∃ force transition, call.operation = .execute force transition
  · -- executing a transition takes one course, which leaves its item where it is
    obtain ⟨force, transition, hop⟩ := hexecute
    have hown : transition.Timed call.platform.clock := by simpa [Timed, hop] using htimed
    have hbefore : (call.before session).store.Timely call.platform.clock := h
    obtain hsame | ⟨answer, hanswer⟩ := after_of_step hop rfl session
    · exact hsame ▸ hbefore
    · obtain hstore | ⟨item, outcome, -, hcourse⟩ := Platform.execute_course hanswer
      · exact hstore ▸ hbefore
      · refine hcourse.timely hbefore ?_ ?_ fun hmoving => absurd hmoving Bool.false_ne_true
        · simpa using hown.none_later hbefore
        · simpa using hown.not_after
  · have habreast : call.Abreast session.store (call.after session) :=
      after_effects ⟨h, fun _ row hrow => h.awaited row hrow⟩
        fun _ _ heffect hbefore => heffect.abreast htimed hexecute hsingle hbefore
    exact habreast.timely

end Call

namespace Session

/-- Records stay timely along calls that keep to a clock that never goes back. -/
theorem serve_keeps_timely {session : Session} {calls : List Call} {clock : Int}
    (hsingle : session.store.SinglePending) (h : session.store.Timely clock)
    (htimed : ∀ call ∈ calls, call.Timed) (hfrom : ∀ call ∈ calls, clock ≤ call.platform.clock)
    (hclock : calls.Pairwise fun earlier later => earlier.platform.clock ≤ later.platform.clock) :
    ∃ last, (session.serve calls).store.Timely last := by
  induction calls generalizing session clock with
  | nil => exact ⟨clock, h⟩
  | cons call calls ih =>
      rw [List.forall_mem_cons] at htimed hfrom
      obtain ⟨hlater, hclock⟩ := List.pairwise_cons.1 hclock
      refine ih ?_ (call.after_timely htimed.1 hsingle (h.mono hfrom.1)) htimed.2 hlater hclock
      exact serve_single_pending hsingle [call]

/-- In a run on a site without records and pending transitions, whose clock never goes back and
whose calls keep to it, the records of every field stand in the order of their numbers and of time.
The latest record of a field is the last one stored, and the previous state of the kept item is the
one that it reached. -/
theorem serve_timely {start : Session} (hhistory : start.store.history = [])
    (hpending : start.store.pending = []) {calls : List Call}
    (htimed : ∀ call ∈ calls, call.Timed)
    (hclock : calls.Pairwise fun earlier later => earlier.platform.clock ≤ later.platform.clock)
    (target : Target) (fieldName : String) :
    ((start.serve calls).store.trail target fieldName).Pairwise (fun first second =>
        first.hid < second.hid ∧ first.timestamp ≤ second.timestamp) ∧
      (start.serve calls).store.latest? target fieldName =
        ((start.serve calls).store.trail target fieldName).getLast? ∧
      ∀ record ∈ ((start.serve calls).store.trail target fieldName).getLast?,
        ∀ item, (start.serve calls).store.item? target = some item → ∀ workflowId,
          (start.serve calls).store.previousSid workflowId item fieldName = record.toSid := by
  have hnumbered : (start.serve calls).store.Numbered :=
    serve_numbered (by constructor <;> simp [hhistory]) calls
  obtain ⟨last, htimely⟩ : ∃ last, (start.serve calls).store.Timely last := by
    have hstart : ∀ clock, start.store.Timely clock := by
      intro clock
      constructor <;> simp [Store.NoneLater, Store.trail, hhistory, hpending]
    have hsingle : start.store.SinglePending := by simp [Store.SinglePending, hpending]
    cases calls with
    | nil => exact ⟨0, hstart 0⟩
    | cons call calls =>
        refine serve_keeps_timely hsingle (hstart call.platform.clock) htimed ?_ hclock
        exact List.forall_mem_cons.2 ⟨Int.le_refl _, (List.pairwise_cons.1 hclock).1⟩
  have hlatest := hnumbered.latest_eq_last (htimely.ordered target fieldName)
  refine ⟨?_, hlatest, ?_⟩
  · exact (hnumbered.ascending.filter _).and (htimely.ordered target fieldName)
  · intro record hrecord item hitem workflowId
    obtain ⟨rfl, hsaved⟩ := Store.item_found hitem
    simp [Store.previousSid, hsaved, hlatest, Option.mem_def.1 hrecord]

/-- The transition that takes the node of the small site live, with the state that it leaves. -/
def departing : Transition :=
  { Transition.small with fromSid := "news_draft" }

/-- The call that schedules it for the time of the clock. -/
def scheduling : Call :=
  ⟨.small, none, .schedule departing⟩

/-- The call of a sweep that comes late. -/
def catchingUp : Call :=
  ⟨{ Platform.small with clock := 15 }, some .empty, .sweep 15⟩

/-- The late sweep records the transition for the time that it was scheduled for. -/
theorem catching_up_records : ∃ item record,
    (serve ⟨.small, .empty, []⟩ [scheduling, catchingUp]).store.item? ⟨"node", 1⟩ = some item ∧
      ((serve ⟨.small, .empty, []⟩ [scheduling, catchingUp]).store.trail ⟨"node", 1⟩
        "field_state").getLast? = some record ∧
      record.timestamp = 10 ∧ record.toSid = "news_live" := by
  obtain ⟨fates, started, swept, session', hrun, hstarted, hcontext, hswept, hstore, -⟩ :=
    @Platform.sweep_answers (catchingUp.before (serve ⟨.small, .empty, []⟩ [scheduling]))
      catchingUp.platform 15 (serve_keyed Store.keyed_small [scheduling])
  have hafter : serve ⟨.small, .empty, []⟩ [scheduling, catchingUp] = session' :=
    @Call.after_sweep catchingUp 15 (serve ⟨.small, .empty, []⟩ [scheduling]) session' _ rfl hrun
  have hscheduled : started.store =
      { Store.small with pending := [.of 1 departing], lastTid := 1 } := hstarted.trans rfl
  have hdue : (catchingUp.before (serve ⟨.small, .empty, []⟩ [scheduling])).store.due 15 =
      [(PendingRow.of 1 departing).toTransition] := by
    rw [← hstarted, hscheduled]
    simp [Store.due, PendingRow.of, departing, Transition.small]
  have hwaits : started.store.Waits (PendingRow.of 1 departing).toTransition := by
    rw [hscheduled]
    refine ⟨⟨.small, rfl, by decide⟩, by decide, ?_, ?_⟩
    · exact (Store.known_of_small rfl).1
    · exact (Store.known_of_small rfl).2
  rw [hdue] at hswept
  cases hswept with
  | next htaken hrest =>
      cases hrest
      obtain ⟨rfl, -⟩ := htaken.of_waits rfl (fun _ _ => rfl)
        (hstarted ▸ serve_keyed Store.keyed_small [scheduling]) hwaits (by rw [hcontext]; rfl)
      cases htaken with
      | executed hfollows _ _ _ harrived =>
          obtain ⟨stored, hstored, -⟩ := harrived.field
          have htrail := harrived.trail_eq
          rw [if_neg (by decide)] at htrail
          have hlast := congrArg List.getLast? htrail
          rw [List.getLast?_concat] at hlast
          rw [hafter, hstore]
          exact ⟨stored, _, hstored, hlast, rfl, rfl⟩

/-- On the small site the late sweep leaves a record of the past, which is the latest of its field,
and the node was last moved where the record says. -/
theorem serve_timely_small :
    scheduling.Timed ∧ catchingUp.Timed ∧ scheduling.platform.clock ≤ catchingUp.platform.clock ∧
      ∃ item record,
        (serve ⟨.small, .empty, []⟩ [scheduling, catchingUp]).store.item? ⟨"node", 1⟩ = some item ∧
          (serve ⟨.small, .empty, []⟩ [scheduling, catchingUp]).store.latest? ⟨"node", 1⟩
            "field_state" = some record ∧
          record.timestamp < catchingUp.platform.clock ∧
          (serve ⟨.small, .empty, []⟩ [scheduling, catchingUp]).store.previousSid "news" item
            "field_state" = "news_live" := by
  have hscheduling : scheduling.Timed := Int.le_refl 10
  have hcatching : catchingUp.Timed := rfl
  have hclock : scheduling.platform.clock ≤ catchingUp.platform.clock := by decide
  obtain ⟨item, record, hitem, hlast, htime, hto⟩ := catching_up_records
  obtain ⟨-, hlatest, hprevious⟩ := @serve_timely ⟨.small, .empty, []⟩ rfl rfl
    [scheduling, catchingUp] (by simpa using ⟨hscheduling, hcatching⟩) (by simpa using hclock)
    ⟨"node", 1⟩ "field_state"
  refine ⟨hscheduling, hcatching, hclock, item, record, hitem, hlatest.trans hlast, ?_, ?_⟩
  · rw [htime]
    decide
  · rw [hprevious record hlast item hitem, hto]

end Session

end ContentWorkflow
