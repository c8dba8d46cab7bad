import ContentWorkflow.Proofs.Engine.Update
import ContentWorkflow.Proofs.Runs.Invariants

/-!
# Who makes the state changes of a run

A call licenses a history record when it submitted the transition that the record is of, and the
agent was authorized at that moment. The main theorem, `recorded_change_licensed`, says that every
change of state which a run records was licensed by the call that recorded it or, where that is a
sweep, by the call that scheduled the transition. The invariant that carries it is
`pending_licensed`: every pending transition that changes a state was licensed by the call that
scheduled it.
-/

namespace ContentWorkflow

/-- The change that a record is of, whatever its number and its comment. -/
def HistoryRecord.change (record : HistoryRecord) : HistoryRecord :=
  { record with hid := 0, comment := none }

/-- Records of one change are of one workflow, of one field and between the same states. -/
theorem HistoryRecord.change_fields {record other : HistoryRecord}
    (h : record.change = other.change) :
    record.workflowId = other.workflowId ∧ record.target = other.target ∧
      record.fieldName = other.fieldName ∧ record.fromSid = other.fromSid ∧
      record.toSid = other.toSid := by
  simp only [change, HistoryRecord.mk.injEq, true_and] at h
  obtain ⟨hworkflow, htarget, hfield, hfrom, hto, -⟩ := h
  exact ⟨hworkflow, htarget, hfield, hfrom, hto⟩

/-- Whether a record changes the state is part of its change. -/
theorem HistoryRecord.changes_congr {record other : HistoryRecord}
    (h : record.change = other.change) (hchanges : record.ChangesState) : other.ChangesState := by
  obtain ⟨-, -, -, hfrom, hto⟩ := change_fields h
  exact fun hsame => hchanges (hfrom.trans (hsame.trans hto.symm))

/-- The record that a pending transition asks for. -/
def PendingRow.toRecord (row : PendingRow) : HistoryRecord :=
  row.toTransition.toRecord

namespace Call

/-- The call submitted the transition that the record is of, and the agent was authorized to make
the change when the call found the store. -/
structure Licenses (call : Call) (store : Store) (submission : Submission)
    (record : HistoryRecord) : Prop where
  submits : call.Submits store submission
  change : record.change = (submission.transition.leaving record.fromSid).toRecord.change
  authorized : call.platform.Authorized store submission.item submission.force
    (submission.transition.leaving record.fromSid)

/-- The call stored the pending transition, which leaves a state with an id. If it changes the
state, the call licensed it. -/
structure Vouches (call : Call) (store : Store) (row : PendingRow) : Prop where
  named : row.fromSid ≠ ""
  licensed : row.toRecord.ChangesState → ∃ submission,
    submission.transition.scheduled = true ∧ call.Licenses store submission row.toRecord

/-- The call sweeps the pending transitions. -/
def IsSweep (call : Call) : Prop :=
  ∃ now, call.operation = .sweep now

/-- The call stores a transition as pending without an examination. -/
def IsDirect (call : Call) : Prop :=
  ∃ transition, call.operation = .schedule transition

/-- How a change of state comes to be recorded by the call: it licensed the change itself, or it
took up a pending transition in a sweep. -/
inductive Accounts (call : Call) (store : Store) (record : HistoryRecord) : Prop where
  | licensed {submission : Submission} (hother : ¬ call.IsSweep)
      (h : call.Licenses store submission record)
  | swept {row : PendingRow} (hsweep : call.IsSweep) (hrow : row ∈ store.pending)
      (hchange : record.change = row.toRecord.change)

variable {call : Call} {store : Store} {submission : Submission} {record other : HistoryRecord}

/-- What licenses a record licenses every record of the same change. -/
theorem Licenses.congr (h : call.Licenses store submission record)
    (hchange : other.change = record.change) : call.Licenses store submission other := by
  have hfrom : other.change.fromSid = record.change.fromSid := by rw [hchange]
  change other.fromSid = record.fromSid at hfrom
  constructor
  · exact h.submits
  · rw [hfrom, hchange, h.change]
  · rw [hfrom]
    exact h.authorized

end Call

namespace Platform

variable {platform : Platform} {store : Store} {item : Item} {force moving : Bool}
  {transition : Transition} {workflow : Workflow} {session session' : Session} {outcome : Outcome}

/-- The agent of a ready transition is authorized to change the state. -/
theorem Ready.authorized (hnamed : store.Named)
    (hready : platform.Ready store item workflow (transition.validated force))
    (hchanges : transition.ChangesState) : platform.Authorized store item force transition := by
  have hknown := (state_objection_eq_none.1 hready.states).2 hchanges
  obtain ⟨state, hstate, -, hid⟩ := Store.known_states_of.1 hknown
  have hto : transition.toSid ≠ "" := hid ▸ hnamed state hstate
  have hpermitted := (access_objection_eq_none.1 hready.access hchanges).1
  exact authorized_validated.1 (authorized_of_permits hchanges hto hpermitted)

/-- A ready transition leaves a state with an id. -/
theorem Ready.from_named (hnamed : store.Named)
    (hready : platform.Ready store item workflow (transition.validated force)) :
    transition.fromSid ≠ "" := by
  obtain ⟨state, hstate, -, hid⟩ :=
    Store.known_states_of.1 (state_objection_eq_none.1 hready.states).1
  exact hid ▸ hnamed state hstate

/-- Entering an executed transition adds at most its record to the history. -/
theorem mem_enter_history {record : HistoryRecord} (h : record ∈ (store.enter transition).history) :
    record ∈ store.history ∨ record.change = transition.toRecord.change := by
  rw [Store.enter_history] at h
  rcases List.mem_append.1 h with h | h
  · exact Or.inl h
  · split at h
    · cases h
    · rw [List.mem_singleton.1 h]
      exact Or.inr rfl

/-- What a course adds to the pending transitions is the transition, which is scheduled
and ready. -/
theorem Course.pending_added
    (h : platform.Course item force transition session moving outcome session') {row : PendingRow}
    (hrow : row ∈ session'.store.pending) :
    row ∈ session.store.pending ∨
      transition.scheduled = true ∧ row.toRecord.change = transition.toRecord.change ∧
        ∃ workflow, platform.Ready session.store item workflow (transition.validated force) := by
  cases h with
  | repeated _ _ hstore => exact Or.inl (hstore ▸ hrow)
  | objected _ _ hstore => exact Or.inl (hstore ▸ hrow)
  | empty _ hstore => exact Or.inl (hstore ▸ hrow)
  | unsaved _ _ _ hstore => exact Or.inl (hstore ▸ hrow)
  | recorded _ _ _ hstore =>
      rw [hstore] at hrow
      exact Or.inl (Store.enter_pending_sublist.subset hrow)
  | moved _ _ _ hstore =>
      rw [hstore] at hrow
      have hkept := Store.enter_pending_sublist.subset hrow
      exact Or.inl hkept
  | scheduled hscheduled _ hready hstore =>
      rw [hstore] at hrow
      rcases List.mem_append.1 hrow with hrow | hrow
      · exact Or.inl (List.mem_filter.1 hrow).1
      · rw [List.mem_singleton.1 hrow]
        exact Or.inr ⟨hscheduled, rfl, _, hready⟩

/-- What a course adds to the history is the record of the transition, which is ready. -/
theorem Course.history_added
    (h : platform.Course item force transition session moving outcome session')
    {record : HistoryRecord} (hrecord : record ∈ session'.store.history) :
    record ∈ session.store.history ∨
      record.change = transition.toRecord.change ∧
        ∃ workflow, platform.Ready session.store item workflow (transition.validated force) := by
  cases h with
  | repeated _ _ hstore => exact Or.inl (hstore ▸ hrecord)
  | objected _ _ hstore => exact Or.inl (hstore ▸ hrecord)
  | empty _ hstore => exact Or.inl (hstore ▸ hrecord)
  | unsaved _ _ _ hstore => exact Or.inl (hstore ▸ hrecord)
  | scheduled _ _ _ hstore =>
      rw [hstore] at hrecord
      exact Or.inl hrecord
  | recorded _ _ hready hstore =>
      rw [hstore] at hrecord
      exact (mem_enter_history hrecord).imp_right fun hchange => ⟨hchange, _, hready⟩
  | moved _ hready _ hstore =>
      rw [hstore] at hrecord
      exact (mem_enter_history hrecord).imp_right fun hchange => ⟨hchange, _, hready⟩

end Platform

namespace Call

variable {call : Call} {store : Store} {submission : Submission} {record : HistoryRecord}
  {session session' : Session} {moving : Bool} {outcome : Outcome} {workflow : Workflow}

/-- A submission licenses the record of its change where it was made by force, and where it was
ready when the call found the store. -/
theorem licenses_of_ready (hnamed : session.store.Named) (hsubmits : call.Submits store submission)
    (hmoment : session.store = store ∨ submission.force = true)
    (hready : call.platform.Ready session.store submission.item workflow
      ((session.store.fill submission.item submission.transition).validated submission.force))
    (hchange : record.change =
      (session.store.fill submission.item submission.transition).toRecord.change)
    (hchanges : record.ChangesState) : call.Licenses store submission record := by
  obtain ⟨-, -, -, (hfrom : record.fromSid =
    (session.store.fill submission.item submission.transition).fromSid), hto⟩ :=
      HistoryRecord.change_fields hchange
  have hfill : submission.transition.leaving record.fromSid =
      session.store.fill submission.item submission.transition := by
    rw [hfrom, Store.leaving_fill]
  constructor
  · exact hsubmits
  · rw [hfill, hchange]
  · rw [hfill]
    rcases hmoment with rfl | hforce
    · refine hready.authorized hnamed fun hsame => hchanges ?_
      exact hfrom.trans (hsame.trans hto.symm)
    · exact .forced (Or.inl hforce)

/-- What a sweep submits was pending, and what is submitted otherwise is no part of a sweep. -/
theorem Submits.of_sweep (h : call.Submits store submission) :
    ¬ call.IsSweep ∨
      call.IsSweep ∧ ∃ row ∈ store.pending, submission.transition = row.toTransition.asDue := by
  have hother : ∀ {operation : Operation}, call.operation = operation →
      (∀ now, operation ≠ .sweep now) → ¬ call.IsSweep := by
    rintro operation hop hne ⟨now, hsweep⟩
    exact hne now (hop.symm.trans hsweep)
  cases h with
  | execute hop => exact Or.inl (hother hop (by simp))
  | update hop => exact Or.inl (hother hop (by simp))
  | updateContent hop => exact Or.inl (hother hop (by simp))
  | reassigning hop => exact Or.inl (hother hop (by simp))
  | reverting hop => exact Or.inl (hother hop (by simp))
  | due hop hrow => exact Or.inr ⟨⟨_, hop⟩, _, hrow, rfl⟩

/-- What is pending after a call was pending before it, or the call vouches for it. -/
theorem after_pending (hnamed : session.store.Named) (hdirect : ¬ call.IsDirect) :
    ∀ row ∈ (call.after session).store.pending,
      row ∈ session.store.pending ∨ call.Vouches session.store row := by
  refine (after_induction (motive := fun reached => reached.store.Named ∧
    ∀ row ∈ reached.store.pending,
      row ∈ session.store.pending ∨ call.Vouches session.store row)
    ⟨hnamed, fun row hrow => Or.inl hrow⟩ ?_).2
  rintro first second hstep ⟨hnamed, hrows⟩
  refine ⟨hstep.named hnamed, ?_⟩
  intro row hrow
  cases hstep with
  | administered h =>
      rcases h.store with hstore | hwritten
      · exact hrows row (hstore ▸ hrow)
      · exact hrows row (hwritten.frame.2.1.subset hrow)
  | engaged hsubmits hmoment hcourse =>
      obtain hrow | ⟨hscheduled, hchange, workflow, hready⟩ := hcourse.pending_added hrow
      · exact hrows row hrow
      · rw [Store.fill_scheduled] at hscheduled
        -- a call submits a scheduled transition first of all, to the store as the call found it
        have hfound : first.store = session.store := by
          refine hmoment.resolve_right ?_
          rintro ⟨-, hunscheduled⟩
          rw [hscheduled] at hunscheduled
          cases hunscheduled
        obtain ⟨-, -, -, hfrom, -⟩ := HistoryRecord.change_fields hchange
        refine Or.inr ⟨fun hempty => hready.from_named hnamed (hfrom.symm.trans hempty), ?_⟩
        intro hchanges
        exact ⟨_, hscheduled,
          licenses_of_ready hnamed hsubmits (Or.inl hfound) hready hchange hchanges⟩
  | scheduled hop => exact absurd ⟨_, hop⟩ hdirect

/-- What is in the history after a call was there before it, or the call accounts for it. -/
theorem after_history (hnamed : session.store.Named)
    (hpending : ∀ row ∈ session.store.pending, row.fromSid ≠ "") :
    ∀ record ∈ (call.after session).store.history, record ∈ session.store.history ∨
      (record.ChangesState → call.Accounts session.store record) := by
  refine (after_induction (motive := fun reached => reached.store.Named ∧
    ∀ record ∈ reached.store.history, record ∈ session.store.history ∨
      (record.ChangesState → call.Accounts session.store record))
    ⟨hnamed, fun record hrecord => Or.inl hrecord⟩ ?_).2
  rintro first second hstep ⟨hnamed, hrecords⟩
  refine ⟨hstep.named hnamed, ?_⟩
  intro record hrecord
  cases hstep with
  | administered h =>
      rcases h.store with hstore | hwritten
      · exact hrecords record (hstore ▸ hrecord)
      · exact hrecords record (hwritten.frame.1.subset hrecord)
  | engaged hsubmits hmoment hcourse =>
      obtain hrecord | ⟨hchange, workflow, hready⟩ := hcourse.history_added hrecord
      · exact hrecords record hrecord
      · right
        intro hchanges
        obtain hother | ⟨hsweep, row, hrow, hdue⟩ := hsubmits.of_sweep
        · have hlicenses := licenses_of_ready hnamed hsubmits (hmoment.imp_right And.left) hready
            hchange hchanges
          exact .licensed hother hlicenses
        · refine .swept hsweep hrow ?_
          -- a pending transition names the state it leaves, so the sweep fills in nothing
          have hfilled : row.toTransition.asDue.fromSid ≠ "" := hpending row hrow
          rw [hchange, hdue, Store.fill, Transition.leaving, if_neg hfilled]
          rfl
  | scheduled _ hstore =>
      rw [hstore] at hrecord
      exact hrecords record hrecord

/-- A call of an update of an admitted transition leaves behind what an executed update does. -/
theorem after_admitted {force : Bool} {transition : Transition} {item : Item}
    (hop : call.operation = .update force transition) (hkeys : session.store.Keyed)
    (hitem : session.store.item? transition.target = some item)
    (hscheduled : transition.scheduled = false) (hexecuted : transition.executed = false)
    (hadmitted : call.platform.Admitted (call.before session) item force
      (session.store.fill item transition)) :
    ∃ reached, call.platform.Arrived (call.before session) item force
      (session.store.fill item transition) reached (call.after session) := by
  obtain ⟨reached, session', hanswer, -, harrived⟩ :=
    @Platform.update_of_admitted call.platform item force transition (call.before session) hkeys
      hitem hscheduled hexecuted hadmitted
  exact ⟨reached, after_update hop hanswer ▸ harrived⟩

end Call

namespace Session

variable {start : Session}

/-- Where no transition is stored without an examination, an earlier call vouches for every pending
one. -/
theorem pending_licensed (hempty : start.store.pending = []) (hnamed : start.store.Named)
    {calls : List Call} (hdirect : ∀ call ∈ calls, ¬ call.IsDirect) {row : PendingRow}
    (hrow : row ∈ (start.serve calls).store.pending) :
    ∃ earlier origin between, calls = earlier ++ origin :: between ∧
      origin.Vouches (start.serve earlier).store row := by
  refine serve_origin (fun session => row ∈ session.store.pending)
    (fun call session => call.Vouches session.store row) ?_ ?_ hrow
  · rw [hempty]
    exact List.not_mem_nil
  · rintro earlier call later rfl
    exact Call.after_pending (serve_named hnamed earlier) (hdirect call (by simp)) row

/-- Where no transition is stored without an examination, every change of state that a call records
was licensed: by the call itself, when it found the store, or, if it is a sweep, by the earlier call
that scheduled the transition, when that call found the store. -/
theorem recorded_change_licensed (hempty : start.store.pending = []) (hnamed : start.store.Named)
    {before : List Call} {call : Call} (hdirect : ∀ other ∈ before ++ [call], ¬ other.IsDirect)
    {record : HistoryRecord}
    (hrecord : record ∈ (start.serve (before ++ [call])).store.history)
    (hnew : record ∉ (start.serve before).store.history) (hchanges : record.ChangesState) :
    ¬ call.IsSweep ∧ (∃ submission, call.Licenses (start.serve before).store submission record) ∨
      call.IsSweep ∧ ∃ earlier origin between submission,
        before = earlier ++ origin :: between ∧ submission.transition.scheduled = true ∧
          origin.Licenses (start.serve earlier).store submission record := by
  have hbefore : ∀ other ∈ before, ¬ other.IsDirect := by
    intro other hother
    exact hdirect other (List.mem_append_left _ hother)
  have hfrom : ∀ row ∈ (start.serve before).store.pending, row.fromSid ≠ "" := by
    intro row hrow
    obtain ⟨_, _, _, -, hvouches⟩ := pending_licensed hempty hnamed hbefore hrow
    exact hvouches.named
  rw [serve_append_singleton] at hrecord
  have hstems :=
    (Call.after_history (serve_named hnamed before) hfrom record hrecord).resolve_left hnew
  cases hstems hchanges with
  | licensed hother hlicenses => exact Or.inl ⟨hother, _, hlicenses⟩
  | swept hsweep hrow hchange =>
      obtain ⟨earlier, origin, between, hcalls, hvouches⟩ :=
        pending_licensed hempty hnamed hbefore hrow
      -- the sweep records the change that was pending, so what licensed the one licenses the other
      obtain ⟨submission, hscheduled, hlicenses⟩ :=
        hvouches.licensed (HistoryRecord.changes_congr hchange hchanges)
      exact Or.inr ⟨hsweep, earlier, origin, between, submission, hcalls, hscheduled,
        hlicenses.congr hchange⟩

/-- The call of an editor who takes the node of the small site live. -/
def publishing : Call :=
  ⟨.small, none, .update false .small⟩

/-- The node of the small site arrives when the editor takes it live. -/
theorem publishing_arrives :
    ∃ reached, Platform.small.Arrived ⟨.small, .empty, []⟩ .small false
      { Transition.small with fromSid := "news_draft" } reached
      (publishing.after ⟨.small, .empty, []⟩) :=
  @Call.after_admitted publishing ⟨.small, .empty, []⟩ false .small .small rfl Store.keyed_small rfl
    rfl rfl (Platform.admitted_small rfl)

/-- The editor who takes the node of the small site live was authorized to do so. -/
theorem recorded_change_licensed_small :
    ∃ record, record ∈ (serve ⟨.small, .empty, []⟩ ([] ++ [publishing])).store.history ∧
      record.fromSid = "news_draft" ∧ record.toSid = "news_live" ∧
      ∃ submission, publishing.Licenses .small submission record := by
  obtain ⟨reached, session', hanswer, -, harrived⟩ :=
    @Platform.update_of_admitted .small _ false .small ⟨.small, .empty, []⟩ Store.keyed_small rfl
      rfl rfl (Platform.admitted_small rfl)
  obtain rfl := harrived.executed
  have hafter : serve ⟨.small, .empty, []⟩ ([] ++ [publishing]) = session' := by
    rw [serve_append_singleton]
    exact Call.after_update rfl hanswer
  have hhistory := harrived.history
  rw [if_neg (by decide), ← hafter] at hhistory
  have hrecord := hhistory ▸ List.mem_append_right _ (List.mem_singleton_self _)
  have hlicensed := @recorded_change_licensed ⟨.small, .empty, []⟩ rfl (by decide) [] publishing
    (by simp [Call.IsDirect, publishing]) _ hrecord (by decide) (by decide)
  obtain ⟨-, hlicenses⟩ | ⟨⟨now, hsweep⟩, -⟩ := hlicensed
  · exact ⟨_, hrecord, by decide, by decide, hlicenses⟩
  · cases hsweep

end Session

end ContentWorkflow
