import ContentWorkflow.Proofs.Runs.Once
import ContentWorkflow.Proofs.Runs.References

/-!
# The archive of a site

Records are only ever appended, and a record that is kept stays as it was stored. `Extends` says so
of two stores and numbers what is appended from the last number given onwards, whether the records
of the numbers before it are still kept or not. A call that purges no state extends the history, and
one that does drops what touches the state and appends nothing (`after_extends_or_purges`). Along a
run the numbers given so far are exactly those up to the last (`gave_iff`), so that
no call gives one of them again (`serve_archives`) and a number that was looked up once never leads
to another record (`serve_record_same`).
-/

namespace ContentWorkflow

/-- The records were appended to the history and took the numbers that follow the last one given. -/
structure Store.Extends (store store' : Store) (added : List HistoryRecord) : Prop where
  history : store'.history = store.history ++ added
  numbers : added.map (·.hid) =
    (List.range added.length).map fun place : Nat => store.lastHid + 1 + place
  last : store'.lastHid = store.lastHid + added.length

namespace Store.Extends

variable {store store' : Store} {added : List HistoryRecord}

/-- Nothing was appended where the history is the same and no number was given. -/
theorem of_same (hhistory : store'.history = store.history)
    (hlast : store'.lastHid = store.lastHid) : store.Extends store' [] where
  history := by rw [hhistory, List.append_nil]
  numbers := rfl
  last := by simp [hlast]

/-- One record was appended under the next number. -/
theorem of_record {record : HistoryRecord} (hhistory : store'.history = store.history ++ [record])
    (hlast : store'.lastHid = store.lastHid + 1) (hhid : record.hid = store.lastHid + 1) :
    store.Extends store' [record] where
  history := hhistory
  numbers := by simp [hhid]
  last := hlast

/-- What is appended later takes the later numbers. -/
theorem trans {last : Store} {more : List HistoryRecord} (h : store.Extends store' added)
    (h' : store'.Extends last more) : store.Extends last (added ++ more) where
  history := by rw [h'.history, h.history, List.append_assoc]
  numbers := by
    rw [List.map_append, h.numbers, h'.numbers, h.last, List.length_append, List.range_add,
      List.map_append, List.map_map]
    congr 1
    refine List.map_congr_left fun place _ => ?_
    simp only [Function.comp_apply]
    omega
  last := by rw [h'.last, h.last, List.length_append]; omega

/-- What is appended has numbers that were not given before. -/
theorem later (h : store.Extends store' added) {record : HistoryRecord} (hrecord : record ∈ added) :
    store.lastHid < record.hid ∧ record.hid ≤ store'.lastHid := by
  have hnumber : record.hid ∈ added.map (·.hid) := List.mem_map_of_mem hrecord
  rw [h.numbers] at hnumber
  obtain ⟨place, hplace, hhid⟩ := List.mem_map.1 hnumber
  have hlast := h.last
  have hbound := List.mem_range.1 hplace
  omega

/-- What is appended first has the smaller number. -/
theorem ascending (h : store.Extends store' added) :
    added.Pairwise fun first second => first.hid < second.hid := by
  have hnumbers : (added.map (·.hid)).Pairwise (· < ·) := by
    rw [h.numbers, List.pairwise_map]
    exact List.pairwise_lt_range.imp fun hlt => by omega
  exact List.pairwise_map.1 hnumbers

end Store.Extends

/-! ## Calls -/

/-- The call purges some state. -/
def Call.IsPurge (call : Call) : Prop :=
  ∃ workflow sid, call.operation = .purgeState workflow sid

namespace Call

variable {call : Call} {store : Store} {session session' : Session}

/-- An effect of a call that purges no state appends at most one record. -/
theorem Effect.extends (hpurge : ¬ call.IsPurge) (h : call.Effect store session session') :
    ∃ added, session.store.Extends session'.store added := by
  cases h with
  | managed h =>
      have hlast := h.administered.numbers.1
      rcases h.store with hstore | hmanaged
      · exact ⟨[], .of_same (by rw [hstore]) hlast⟩
      · exact ⟨[], .of_same hmanaged.frame.2.1 hlast⟩
  | purged hop => exact absurd ⟨_, _, hop⟩ hpurge
  | saved _ _ hstore => exact ⟨[], hstore ▸ .of_same rfl rfl⟩
  | dismissed _ hstore => exact ⟨[], hstore ▸ .of_same rfl rfl⟩
  | scheduled _ hstore => exact ⟨[], hstore ▸ .of_same rfl rfl⟩
  | engaged _ _ _ _ _ hcourse =>
      obtain ⟨hhistory, hlast⟩ | ⟨hlast, record, hhid, hhistory⟩ := hcourse.numbers_record
      · exact ⟨[], .of_same hhistory hlast⟩
      · exact ⟨[record], .of_record hhistory hlast hhid⟩

/-- A call appends records to the history, or it purges a state, drops the records that have the
state at one of their ends and appends none. -/
theorem after_extends_or_purges (call : Call) (session : Session) :
    (∃ added, session.store.Extends (call.after session).store added) ∨
      ∃ workflow sid, call.operation = .purgeState workflow sid ∧
        (call.after session).store.history =
          session.store.history.filter (fun record => ¬ record.Touches sid) ∧
        (call.after session).store.lastHid = session.store.lastHid := by
  by_cases hpurge : call.IsPurge
  · obtain ⟨workflow, sid, hop⟩ := hpurge
    rcases after_purge hop session with ⟨-, hstore⟩ | hpurged
    · exact Or.inl ⟨[], .of_same (by rw [hstore]) (by rw [hstore])⟩
    · refine Or.inr ⟨workflow, sid, hop, ?_, ?_⟩
      · rw [hpurged.rest]
        rfl
      · rw [hpurged.rest]
        rfl
  · -- along the effects of the call, each of which extends what the ones before it left behind
    refine Or.inl (after_effects
      (motive := fun reached => ∃ added, session.store.Extends reached.store added)
      ⟨[], .of_same rfl rfl⟩ ?_)
    rintro first second heffect ⟨added, hfirst⟩
    obtain ⟨more, hsecond⟩ := heffect.extends hpurge
    exact ⟨added ++ more, hfirst.trans hsecond⟩

/-- No call takes a number back. -/
theorem last_hid_le_after (call : Call) (session : Session) :
    session.store.lastHid ≤ (call.after session).store.lastHid := by
  obtain ⟨added, h⟩ | ⟨_, _, _, _, hlast⟩ := call.after_extends_or_purges session
  · have hlast := h.last
    omega
  · exact Int.le_of_eq hlast.symm

/-- A record that a call leaves behind was there before, as it is, or has a new number. -/
theorem mem_after_history {record : HistoryRecord}
    (h : record ∈ (call.after session).store.history) :
    record ∈ session.store.history ∨ session.store.lastHid < record.hid := by
  obtain ⟨added, hextends⟩ | ⟨_, _, _, hhistory, _⟩ := call.after_extends_or_purges session
  · rw [hextends.history] at h
    exact (List.mem_append.1 h).imp_right fun hadded => (hextends.later hadded).1
  · rw [hhistory] at h
    exact Or.inl (List.mem_filter.1 h).1

end Call

/-! ## Runs -/

namespace Session

variable {start : Session} {calls : List Call} {hid : Int}

/-- One of the calls left a record with the number behind, which may be gone by now. -/
def Gave (start : Session) (calls : List Call) (hid : Int) : Prop :=
  ∃ earlier later, calls = earlier ++ later ∧
    ∃ record ∈ (start.serve earlier).store.history, record.hid = hid

theorem serve_append {later : List Call} :
    start.serve (calls ++ later) = (start.serve calls).serve later := by
  simp [serve]

/-- No run takes a number back. -/
theorem last_hid_le_serve (start : Session) (calls : List Call) :
    start.store.lastHid ≤ (start.serve calls).store.lastHid :=
  serve_induction (motive := fun reached => start.store.lastHid ≤ reached.store.lastHid)
    (Int.le_refl _) fun call _ reached hle => Int.le_trans hle (call.last_hid_le_after reached)

/-- A record that a run leaves behind was there before, as it is, or has a new number. -/
theorem mem_serve_history {record : HistoryRecord}
    (h : record ∈ (start.serve calls).store.history) :
    record ∈ start.store.history ∨ start.store.lastHid < record.hid := by
  induction calls using List.reverseRecOn with
  | nil => exact Or.inl h
  | append_singleton calls call ih =>
      rw [serve_append_singleton] at h
      rcases Call.mem_after_history h with hkept | hnew
      · exact ih hkept
      · exact Or.inr (Int.lt_of_le_of_lt (last_hid_le_serve start calls) hnew)

/-- On a new site the numbers given so far are those from one up to the last. -/
theorem gave_iff {context : RequestContext} {log : List LogLine} :
    Gave ⟨.empty, context, log⟩ calls hid ↔
      0 < hid ∧ hid ≤ (serve ⟨.empty, context, log⟩ calls).store.lastHid := by
  constructor
  · rintro ⟨earlier, later, rfl, record, hrecord, rfl⟩
    have hnumbered : (serve ⟨.empty, context, log⟩ earlier).store.Numbered :=
      serve_numbered (by constructor <;> simp [Store.empty]) earlier
    refine ⟨(mem_serve_history hrecord).resolve_left (by simp [Store.empty]), ?_⟩
    rw [serve_append]
    exact Int.le_trans (hnumbered.given record hrecord) (last_hid_le_serve _ later)
  · rintro ⟨hpositive, hgiven⟩
    induction calls using List.reverseRecOn with
    | nil => exact absurd hgiven (Int.not_le.2 hpositive)
    | append_singleton calls call ih =>
        by_cases hbefore : hid ≤ (serve ⟨.empty, context, log⟩ calls).store.lastHid
        · obtain ⟨earlier, later, rfl, hrecord⟩ := ih hbefore
          exact ⟨earlier, later ++ [call], by simp, hrecord⟩
        · rw [serve_append_singleton] at hgiven
          refine ⟨calls ++ [call], [], by simp, ?_⟩
          rw [serve_append_singleton]
          exact Call.after_keeps_records (Int.not_le.1 hbefore) hgiven

/-- Whatever was called on a new site, the next call leaves every record as it is and appends
records under numbers that follow one another and are greater than all that were ever given, or it
purges a state, drops records that have the state at one of their ends and appends none. -/
theorem serve_archives (context : RequestContext) (log : List LogLine) (calls : List Call)
    (call : Call) :
    (∃ added, (serve ⟨.empty, context, log⟩ calls).store.Extends
          (call.after (serve ⟨.empty, context, log⟩ calls)).store added ∧
        (added.Pairwise fun first second => first.hid < second.hid) ∧
        ∀ record ∈ added, ∀ hid, Gave ⟨.empty, context, log⟩ calls hid → hid < record.hid) ∨
      ∃ workflow sid, call.operation = .purgeState workflow sid ∧
        (call.after (serve ⟨.empty, context, log⟩ calls)).store.history =
          (serve ⟨.empty, context, log⟩ calls).store.history.filter
            fun record => ¬ record.Touches sid := by
  obtain ⟨added, hextends⟩ | ⟨workflow, sid, hop, hhistory, -⟩ :=
    call.after_extends_or_purges (serve ⟨.empty, context, log⟩ calls)
  · refine Or.inl ⟨added, hextends, hextends.ascending, ?_⟩
    intro record hrecord hid hgave
    exact Int.lt_of_le_of_lt (gave_iff.1 hgave).2 (hextends.later hrecord).1
  · exact Or.inr ⟨workflow, sid, hop, hhistory⟩

/-- A number that leads to a record leads to the same record or to none ever after. -/
theorem serve_record_same (hnumbered : start.store.Numbered) {record other : HistoryRecord}
    (hrecord : start.store.record? hid = some record)
    (hother : (start.serve calls).store.record? hid = some other) : other = record := by
  have hhid : record.hid = hid := by simpa using List.find?_some hrecord
  have hhid' : other.hid = hid := by simpa using List.find?_some hother
  have hmem := List.mem_of_find?_eq_some hrecord
  have hgiven := hnumbered.given record hmem
  rcases mem_serve_history (List.mem_of_find?_eq_some hother) with hkept | hnew
  · have hunique := hnumbered.ascending.imp fun hlt => Int.ne_of_lt hlt
    exact (List.inj_on_of_nodup_map (List.pairwise_map.2 hunique) hkept hmem (by omega))
  · omega

end Session

end ContentWorkflow
