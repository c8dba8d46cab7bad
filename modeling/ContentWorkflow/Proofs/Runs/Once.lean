import ContentWorkflow.Proofs.Runs.Authorization
import ContentWorkflow.Proofs.Runs.Tracking
import Mathlib.Data.List.Perm.Subperm

/-!
# Every move once in a request

A request remembers every move that it makes, so it makes none twice. A move is entered when a
record or a pending transition of it is stored. What is entered in one call can be read off the
numbers that the call gave out (`entered`), because everything that the call numbered is still there
when it ends (`after_keeps_records`, `after_keeps_pending`). A move that is entered is new to the
request before and remembered afterwards (`Course.entered`), which is carried through the calls of a
request to the main theorem, `entered_at_most_once`.
-/

namespace ContentWorkflow

/-- A move of a field of an item from a state to a state. -/
structure Move where
  target : Target
  fieldName : String
  fromSid : String
  toSid : String
  deriving DecidableEq

/-- What a request remembers the move under. -/
def Move.key (move : Move) : MarkerKey :=
  ⟨move.target, move.fieldName, s!"{move.fromSid}-{move.toSid}"⟩

/-- The move that the transition makes. -/
def Transition.move (transition : Transition) : Move :=
  ⟨transition.target, transition.fieldName, transition.fromSid, transition.toSid⟩

/-- The move that the record is of. -/
def HistoryRecord.move (record : HistoryRecord) : Move :=
  ⟨record.target, record.fieldName, record.fromSid, record.toSid⟩

/-- The move that the pending transition is to make. -/
def PendingRow.move (row : PendingRow) : Move :=
  ⟨row.target, row.fieldName, row.fromSid, row.toSid⟩

namespace Store

/-- The moves of the records and of the pending transitions that have been numbered since the first
store. -/
def entered (store store' : Store) : List Move :=
  (store'.history.filter fun record => store.lastHid < record.hid).map (·.move) ++
    (store'.pending.filter fun row => store.lastTid < row.tid).map (·.move)

variable {store first second : Store} {transition : Transition}

/-- Nothing has been entered yet where the numbers are those that were given. -/
theorem entered_self (hkeys : store.Keyed) : store.entered store = [] := by
  simpa [entered] using ⟨hkeys.history_given, hkeys.pending_given⟩

/-- Dropping records and pending transitions enters nothing. -/
theorem entered_sublist (hhistory : second.history.Sublist first.history)
    (hpending : second.pending.Sublist first.pending) :
    (store.entered second).Sublist (store.entered first) :=
  ((hhistory.filter _).map _).append ((hpending.filter _).map _)

/-- Entering an executed transition enters its move or nothing. -/
theorem entered_enter :
    (store.entered (first.enter transition)).Subperm (transition.move :: store.entered first) := by
  have hpending : ((first.enter transition).pending.filter fun row => store.lastTid < row.tid)
      |>.Sublist (first.pending.filter fun row => store.lastTid < row.tid) :=
    enter_pending_sublist.filter _
  unfold entered
  rw [enter_history, List.filter_append, List.map_append]
  -- what is recorded stands behind the records that were there, and before what is pending
  have hrecord : ((if transition.IsEmpty then []
      else [{ transition.toRecord with hid := first.lastHid + 1 }]).filter
        fun record : HistoryRecord => store.lastHid < record.hid).map (·.move)
      |>.Sublist [transition.move] := by
    split
    · exact List.nil_sublist _
    · exact List.filter_sublist.map HistoryRecord.move
  refine ((List.Sublist.append ((List.Sublist.refl _).append hrecord)
    (hpending.map _)).subperm).trans ?_
  rw [List.append_assoc]
  exact List.perm_middle.subperm

/-- Storing a transition as pending enters its move or nothing. -/
theorem entered_add_pending :
    (store.entered ((first.dropPendingFor transition.target transition.fieldName).addPending
      transition)).Subperm (transition.move :: store.entered first) := by
  unfold entered
  show List.Subperm (_ ++ List.map _ (List.filter _ (_ ++ _))) _
  rw [List.filter_append, List.map_append, ← List.append_assoc]
  have hrow : (([PendingRow.of (first.lastTid + 1) transition].filter
      fun row => store.lastTid < row.tid).map (·.move)).Sublist [transition.move] :=
    List.filter_sublist.map PendingRow.move
  have hpending : ((first.pending.filter
      fun row => ¬ row.IsFor transition.target transition.fieldName).filter
        fun row => store.lastTid < row.tid).Sublist
      (first.pending.filter fun row => store.lastTid < row.tid) :=
    List.filter_sublist.filter _
  refine (List.Sublist.append ((List.Sublist.refl _).append (hpending.map _))
    hrow).subperm.trans ?_
  exact (List.perm_append_singleton _ _).subperm

end Store

/-- How often the request has met the move: once where it remembers the move, otherwise never. -/
def Session.met (session : Session) (move : Move) : Nat :=
  if session.context.marker? move.key = none then 0 else 1

namespace Platform

variable {platform : Platform} {store : Store} {item : Item} {force moving : Bool}
  {transition : Transition} {session session' : Session} {outcome : Outcome}

/-- A request that remembers a move does so after every course. -/
theorem Course.met_le (move : Move)
    (h : platform.Course item force transition session moving outcome session') :
    session.met move ≤ session'.met move := by
  unfold Session.met
  by_cases hkey : move.key = transition.markerKey
  · obtain hcontext | hcontext | hcontext := h.context_cases
    · exact Nat.le_of_eq (by rw [hcontext])
    · simp only [hcontext, hkey, RequestContext.marker_set_marker]
      split <;> simp
    · simp only [hcontext, hkey, RequestContext.marker_set_marker]
      split <;> simp
  · exact Nat.le_of_eq (by rw [h.marker_of_ne hkey])

/-- What a course enters is at most the move of the transition, which is new to the request before
the course and remembered after it. -/
theorem Course.entered (store : Store)
    (h : platform.Course item force transition session moving outcome session') :
    (store.entered session'.store).Sublist (store.entered session.store) ∨
      session.context.marker? transition.markerKey = none ∧
        session'.context.marker? transition.markerKey = some transition.toSid ∧
        (store.entered session'.store).Subperm
          (transition.move :: store.entered session.store) := by
  have hmarked : ∀ {context : RequestContext}, context =
      (session.context.setMarker transition.markerKey transition.fromSid).setMarker
        transition.markerKey transition.toSid →
      context.marker? transition.markerKey = some transition.toSid := by
    rintro _ rfl
    simp
  cases h with
  | repeated _ _ hstore => exact Or.inl (hstore ▸ .refl _)
  | objected _ _ hstore => exact Or.inl (hstore ▸ .refl _)
  | empty _ hstore => exact Or.inl (hstore ▸ .refl _)
  | unsaved _ _ _ hstore => exact Or.inl (hstore ▸ .refl _)
  | scheduled _ hfresh _ hstore hcontext =>
      exact Or.inr ⟨hfresh, hmarked hcontext,
        hstore ▸ @Store.entered_add_pending _ _ (transition.validated force)⟩
  | recorded _ hfresh _ hstore hcontext =>
      exact Or.inr ⟨hfresh, hmarked hcontext, hstore ▸ @Store.entered_enter _ _
        (platform.hooks.executed (transition.validated force))⟩
  | moved hfresh _ _ hstore hcontext =>
      exact Or.inr ⟨hfresh, hmarked hcontext, hstore ▸ @Store.entered_enter _ (.saveItem _ _)
        (platform.hooks.executed (transition.validated force))⟩

/-- A course enters a move only where it makes the request remember the move. -/
theorem Course.entered_met (store : Store) (move : Move)
    (h : platform.Course item force transition session moving outcome session') :
    (store.entered session'.store).count move + session.met move ≤
      (store.entered session.store).count move + session'.met move := by
  have hgrows := h.met_le move
  obtain hnothing | ⟨hfresh, hremembered, hmove⟩ := h.entered store
  · exact Nat.add_le_add (hnothing.count_le move) hgrows
  · have hcount := hmove.count_le move
    by_cases hsame : transition.move = move
    · have hkey : transition.markerKey = move.key := congrArg Move.key hsame
      rw [hkey] at hfresh hremembered
      rw [hsame, List.count_cons_self] at hcount
      simpa [Session.met, hfresh, hremembered] using hcount
    · rw [List.count_cons_of_ne hsame] at hcount
      exact Nat.add_le_add hcount hgrows

/-- A course gives no number to a record, or it appends the record with the next number. -/
theorem Course.numbers_record
    (h : platform.Course item force transition session moving outcome session') :
    session'.store.history = session.store.history ∧
        session'.store.lastHid = session.store.lastHid ∨
      session'.store.lastHid = session.store.lastHid + 1 ∧
        ∃ record, record.hid = session.store.lastHid + 1 ∧
          session'.store.history = session.store.history ++ [record] := by
  have henter : ∀ (store : Store) (transition : Transition),
      (store.enter transition).history = store.history ∧
          (store.enter transition).lastHid = store.lastHid ∨
        (store.enter transition).lastHid = store.lastHid + 1 ∧
          ∃ record, record.hid = store.lastHid + 1 ∧
            (store.enter transition).history = store.history ++ [record] := by
    intro store transition
    unfold Store.enter
    split
    · exact Or.inl ⟨rfl, rfl⟩
    · exact Or.inr ⟨rfl, _, rfl, rfl⟩
  cases h with
  | repeated _ _ hstore => exact Or.inl (hstore ▸ ⟨rfl, rfl⟩)
  | objected _ _ hstore => exact Or.inl (hstore ▸ ⟨rfl, rfl⟩)
  | empty _ hstore => exact Or.inl (hstore ▸ ⟨rfl, rfl⟩)
  | unsaved _ _ _ hstore => exact Or.inl (hstore ▸ ⟨rfl, rfl⟩)
  | scheduled _ _ _ hstore => exact Or.inl (hstore ▸ ⟨rfl, rfl⟩)
  | recorded _ _ _ hstore => exact hstore ▸ henter _ _
  | moved _ _ _ hstore => exact hstore ▸ henter (session.store.saveItem _) _

/-- A course gives no number to a pending transition, or it schedules the transition under the next
number. -/
theorem Course.numbers_pending
    (h : platform.Course item force transition session moving outcome session') :
    session'.store.lastTid = session.store.lastTid ∨
      transition.scheduled = true ∧ session'.store.lastTid = session.store.lastTid + 1 ∧
        ∃ row ∈ session'.store.pending, row.tid = session.store.lastTid + 1 := by
  have henter : ∀ (store : Store) (transition : Transition),
      (store.enter transition).lastTid = store.lastTid := by
    intro store transition
    unfold Store.enter
    split <;> rfl
  cases h with
  | repeated _ _ hstore => exact Or.inl (hstore ▸ rfl)
  | objected _ _ hstore => exact Or.inl (hstore ▸ rfl)
  | empty _ hstore => exact Or.inl (hstore ▸ rfl)
  | unsaved _ _ _ hstore => exact Or.inl (hstore ▸ rfl)
  | recorded _ _ _ hstore => exact Or.inl (hstore ▸ henter _ _)
  | moved _ _ _ hstore => exact Or.inl (hstore ▸ henter _ _)
  | scheduled hscheduled _ _ hstore =>
      rw [hstore]
      exact Or.inr ⟨hscheduled, rfl, _, List.mem_append_right _ (List.mem_singleton_self _), rfl⟩

end Platform

namespace Call

variable {call : Call} {store : Store} {session session' : Session}

/-- A step enters a move only where it makes the request remember the move. -/
theorem Step.entered_met (move : Move) (hdirect : ¬ call.IsDirect)
    (h : call.Step store session session') :
    (store.entered session'.store).count move + session.met move ≤
      (store.entered session.store).count move + session'.met move := by
  cases h with
  | administered h =>
      rw [Session.met, Session.met, RequestContext.marker?, RequestContext.marker?, h.markers]
      refine Nat.add_le_add_right ?_ _
      rcases h.store with hstore | hwritten
      · exact Nat.le_of_eq (by rw [hstore])
      · obtain ⟨hhistory, hpending, -⟩ := hwritten.frame
        exact (Store.entered_sublist hhistory hpending).count_le move
  | engaged _ _ hcourse => exact hcourse.entered_met _ move
  | scheduled hop => exact absurd ⟨_, hop⟩ hdirect

/-- A call submits scheduled transitions only, or none of them. -/
theorem Submits.scheduled_eq {first second : Submission} (h : call.Submits store first)
    (h' : call.Submits store second) :
    first.transition.scheduled = second.transition.scheduled := by
  cases h <;> cases h' <;> simp_all [Transition.reassigning, Transition.reverting, Transition.asDue]

/-- A call that submits transitions purges no state. -/
theorem Submits.not_purge {submission : Submission} {workflow : Workflow} {sid : String}
    (h : call.Submits store submission) : call.operation ≠ .purgeState workflow sid := by
  cases h <;> simp_all

/-- A call that submits a scheduled transition sweeps nothing. -/
theorem Submits.not_sweep {submission : Submission} {now : Int} (h : call.Submits store submission)
    (hscheduled : submission.transition.scheduled = true) : call.operation ≠ .sweep now := by
  cases h <;> simp_all [Transition.asDue]

/-- A number that a call gives to a record is the number of a record that the call leaves behind. -/
theorem after_keeps_records {hid : Int} (hnew : session.store.lastHid < hid)
    (hgiven : hid ≤ (call.after session).store.lastHid) :
    ∃ record ∈ (call.after session).store.history, record.hid = hid := by
  -- only a purge drops records, and a purge appends none
  refine (after_effects (motive := fun reached =>
    (reached.store.lastHid = session.store.lastHid ∨
        ∀ workflow sid, call.operation ≠ .purgeState workflow sid) ∧
      ∀ hid, session.store.lastHid < hid → hid ≤ reached.store.lastHid →
        ∃ record ∈ reached.store.history, record.hid = hid) ⟨Or.inl rfl, ?_⟩ ?_).2 hid hnew hgiven
  · intro hid hnew hgiven
    exact absurd hgiven (Int.not_le.2 hnew)
  · rintro first second heffect ⟨hpurge, hkept⟩
    cases heffect with
    | managed h =>
        rcases h.store with hstore | hmanaged
        · exact hstore ▸ ⟨hpurge, hkept⟩
        · rw [h.administered.numbers.1, hmanaged.frame.2.1]
          exact ⟨hpurge, hkept⟩
    | purged hop h =>
        have hnone := hpurge.resolve_right fun hother => hother _ _ hop
        have hlast := h.administered.numbers.1.trans hnone
        refine ⟨Or.inl hlast, ?_⟩
        intro hid hnew hgiven
        omega
    | saved _ _ hstore => exact hstore ▸ ⟨hpurge, hkept⟩
    | dismissed _ hstore => exact hstore ▸ ⟨hpurge, hkept⟩
    | scheduled _ hstore => exact hstore ▸ ⟨hpurge, hkept⟩
    | engaged hsubmits _ _ _ _ hcourse =>
        refine ⟨Or.inr fun _ _ => hsubmits.not_purge, ?_⟩
        obtain ⟨hhistory, hlast⟩ | ⟨hlast, record, hrecord, hhistory⟩ := hcourse.numbers_record
        · rw [hhistory, hlast]
          exact hkept
        · intro hid hnew hgiven
          rw [hlast] at hgiven
          rw [hhistory]
          by_cases hfirst : hid ≤ first.store.lastHid
          · obtain ⟨other, hother, hnumber⟩ := hkept hid hnew hfirst
            exact ⟨other, List.mem_append_left _ hother, hnumber⟩
          · exact ⟨record, List.mem_append_right _ (List.mem_singleton_self _), by omega⟩

/-- A number that a call gives to a pending transition is the number of one that the call leaves
behind. -/
theorem after_keeps_pending (hdirect : ¬ call.IsDirect) {tid : Int}
    (hnew : session.store.lastTid < tid) (hgiven : tid ≤ (call.after session).store.lastTid) :
    ∃ row ∈ (call.after session).store.pending, row.tid = tid := by
  -- what a call schedules it schedules first of all, and then it does nothing more
  have hcases := @after_effects call session (fun reached =>
    reached.store.lastTid = session.store.lastTid ∨
      reached.store.lastTid = session.store.lastTid + 1 ∧
        (∃ row ∈ reached.store.pending, row.tid = session.store.lastTid + 1) ∧
        ∃ submission, call.Submits session.store submission ∧
          submission.transition.scheduled = true) (Or.inl rfl) ?_
  · obtain hnone | ⟨hlast, ⟨row, hrow, hnumber⟩, -⟩ := hcases
    · omega
    · exact ⟨row, hrow, by omega⟩
  · intro first second heffect hfirst
    cases heffect with
    | managed h =>
        rcases h.store with hstore | hmanaged
        · exact hstore ▸ hfirst
        · rw [h.administered.numbers.2, hmanaged.frame.2.2]
          exact hfirst
    | purged hop h =>
        obtain hnone | ⟨-, -, _, hsubmits, -⟩ := hfirst
        · exact Or.inl (h.administered.numbers.2.trans hnone)
        · exact absurd hop hsubmits.not_purge
    | saved _ _ hstore => exact hstore ▸ hfirst
    | dismissed hop hstore =>
        obtain hnone | ⟨-, -, _, hsubmits, hscheduled⟩ := hfirst
        · exact Or.inl (hstore ▸ hnone)
        · exact absurd hop (hsubmits.not_sweep hscheduled)
    | scheduled hop => exact absurd ⟨_, hop⟩ hdirect
    | engaged hsubmits hmoment _ _ _ hcourse =>
        obtain hnone | ⟨hlast, -, _, hsubmitted, hscheduled⟩ := hfirst
        · rw [← hnone]
          refine hcourse.numbers_pending.imp_right ?_
          rintro ⟨hscheduled, hlast, hrow⟩
          exact ⟨hlast, hrow, _, hsubmits, Store.fill_scheduled.symm.trans hscheduled⟩
        · rcases hmoment with hstore | ⟨-, hunscheduled⟩
          · rw [hstore] at hlast
            omega
          · rw [hsubmits.scheduled_eq hsubmitted, hscheduled] at hunscheduled
            cases hunscheduled

/-- A call enters a move once or not at all, and only where the move is new to the request. -/
theorem entered_met (hkeys : session.store.Keyed) (hrequest : call.request = none)
    (hdirect : ¬ call.IsDirect) (move : Move) :
    (session.store.entered (call.after session).store).count move + session.met move ≤
      (call.after session).met move := by
  refine after_induction (motive := fun reached =>
    (session.store.entered reached.store).count move + session.met move ≤ reached.met move) ?_ ?_
  · rw [before, hrequest, Store.entered_self hkeys]
    simp [Session.met]
  · intro first second hstep hfirst
    have hsecond := hstep.entered_met move hdirect
    omega

end Call

namespace Session

/-- The moves that the calls of a run enter, each in what it leaves behind. -/
def entered : Session → List Call → List Move
  | _, [] => []
  | session, call :: calls =>
      session.store.entered (call.after session).store ++ (call.after session).entered calls

/-- The calls of one request enter a move once or not at all, and only where it is new to the
request. -/
theorem entered_met {session : Session} (hkeys : session.store.Keyed) {calls : List Call}
    (hrequest : ∀ call ∈ calls, call.request = none) (hdirect : ∀ call ∈ calls, ¬ call.IsDirect)
    (move : Move) :
    (session.entered calls).count move + session.met move ≤ (session.serve calls).met move := by
  induction calls generalizing session with
  | nil => simp [entered, serve]
  | cons call calls ih =>
      have hkeys' : (call.after session).store.Keyed := serve_keyed hkeys [call]
      have hfirst := Call.entered_met hkeys (hrequest call List.mem_cons_self)
        (hdirect call List.mem_cons_self) move
      have hrest := ih hkeys'
        (fun other hother => hrequest other (List.mem_cons_of_mem call hother))
        (fun other hother => hdirect other (List.mem_cons_of_mem call hother))
      rw [entered, List.count_append]
      show _ ≤ ((call.after session).serve calls).met move
      omega

/-- In one request, whose calls leave every transition to the engine, every move is entered at most
once. -/
theorem entered_at_most_once {start : Session} (hkeys : start.store.Keyed) {calls : List Call}
    (hrequest : ∀ call ∈ calls, call.request = none) (hdirect : ∀ call ∈ calls, ¬ call.IsDirect)
    (move : Move) : (start.entered calls).count move ≤ 1 := by
  have hmet := entered_met hkeys hrequest hdirect move
  have hlast : (start.serve calls).met move ≤ 1 := by
    rw [met]
    split <;> simp
  omega

/-- An editor who takes the node of the small site live twice in a request enters the move once. -/
theorem entered_at_most_once_small :
    (entered ⟨.small, .empty, []⟩ [publishing, publishing]).count
      ⟨⟨"node", 1⟩, "field_state", "news_draft", "news_live"⟩ = 1 := by
  obtain ⟨reached, harrived⟩ := publishing_arrives
  obtain rfl := harrived.executed
  have hhistory := harrived.history
  rw [if_neg (by decide)] at hhistory
  have hentered : ⟨⟨"node", 1⟩, "field_state", "news_draft", "news_live"⟩ ∈
      entered ⟨.small, .empty, []⟩ [publishing, publishing] := by
    rw [entered, Store.entered, hhistory]
    exact List.mem_append_left _ (List.mem_append_left _ (List.mem_singleton_self _))
  have honce := @entered_at_most_once ⟨.small, .empty, []⟩ Store.keyed_small
    [publishing, publishing] (by simp [publishing]) (by simp [Call.IsDirect, publishing])
    ⟨⟨"node", 1⟩, "field_state", "news_draft", "news_live"⟩
  exact Nat.le_antisymm honce (List.count_pos_iff.2 hentered)

end Session

end ContentWorkflow
