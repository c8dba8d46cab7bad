import ContentWorkflow.Engine.Reversal
import ContentWorkflow.Proofs.Administration.Reassignment
import ContentWorkflow.Proofs.Runs.Following

/-!
# Taking back what was recorded

A record is taken back by a transition between its two states the other way round, which is executed
by force as long as the item is where the record left it (`Store.Stands`). In a reachable store both
states are kept in the workflow of the record, so nothing else can stand in the way, and taking back
is something that can be taken back itself. The main theorem, `revert_and_back`, says so for sites
without hooks on which every item is saved (`Platform.Unhindered`).
-/

namespace ContentWorkflow

/-- There are no hooks, and every item is saved. -/
structure Platform.Unhindered (platform : Platform) : Prop where
  hooks : platform.hooks = .none
  saving : ∀ store item, platform.saving store item = .saved

/-- What is recorded when the record is taken back. -/
def HistoryRecord.reversal (record : HistoryRecord) (hid : Int) (agent : Agent) (timestamp : Int) :
    HistoryRecord :=
  { record with
    hid := hid
    fromSid := record.toSid
    toSid := record.fromSid
    agent := agent
    timestamp := timestamp
    comment := some "State reverted." }

namespace Store

variable {store store' : Store} {record : HistoryRecord} {agent : Agent} {timestamp : Int}

/-- The item of the record is kept and in the state that the record led to. -/
def Stands (store : Store) (record : HistoryRecord) : Prop :=
  ∃ item, store.item? record.target = some item ∧
    store.currentSid record.workflowId item record.fieldName = record.toSid

/-- The record stands where the transition that takes it back leaves the state of its item. -/
theorem stands_iff : store.Stands record ↔
    ∃ item, store.Follows (.reverting record agent timestamp) item := by
  constructor
  · rintro ⟨item, hitem, hcurrent⟩
    exact ⟨item, hitem, hcurrent.symm⟩
  · rintro ⟨item, hitem, hcurrent⟩
    exact ⟨item, hitem, hcurrent.symm⟩

/-- A kept record is found under its number. -/
theorem Keyed.record_found (hkeys : store.Keyed) (hrecord : record ∈ store.history) :
    store.record? record.hid = some record :=
  find_keyed hkeys.history hrecord

/-- From the one store to the other the record was taken back: its field was moved back, which
leaves nothing pending for it, one record of that was added, and everything else is as it was. -/
structure TakenBack (store : Store) (record : HistoryRecord) (agent : Agent) (timestamp : Int)
    (store' : Store) : Prop where
  moved : store.Reassigned record.workflowId record.toSid record.fromSid agent
    [(record.target, record.fieldName)] store'
  history : store'.history =
    store.history ++ [record.reversal (store.lastHid + 1) agent timestamp]
  states : store'.states = store.states
  rules : store'.rules = store.rules
  keyed : store'.Keyed

/-- The field of a record that was taken back holds the state that the record had left. -/
theorem TakenBack.field (h : store.TakenBack record agent timestamp store') :
    store'.fieldValue? record.target record.fieldName = some record.fromSid := by
  rw [h.moved.values, if_pos (List.mem_singleton_self _)]

/-- Taking back is recorded, and the record stands. -/
theorem TakenBack.stands (h : store.TakenBack record agent timestamp store') :
    record.reversal (store.lastHid + 1) agent timestamp ∈ store'.history ∧
      store'.Stands (record.reversal (store.lastHid + 1) agent timestamp) := by
  refine ⟨h.history ▸ List.mem_append_right _ (List.mem_singleton_self _), ?_⟩
  obtain ⟨item, hitem, hvalue⟩ := Option.bind_eq_some_iff.1 h.field
  exact ⟨item, hitem, current_sid_of_field hvalue _⟩

/-- A record of a change can be taken back where the state that it left is active and not a creation
state. -/
theorem Keyed.revertible (hkeys : store.Keyed) (hchanges : record.ChangesState) {state : State}
    (hstate : state ∈ store.states) (hid : state.id = record.fromSid)
    (hactive : state.active = true) (hcreation : state.creation = false) :
    store.Revertible record := by
  have hfound : store.state? state.id = some state := find_keyed hkeys.states hstate
  exact ⟨hchanges, state, hid ▸ hfound, hactive, hcreation⟩

end Store

namespace Platform

open ContentWorkflow.Action

variable {platform : Platform} {session : Session} {record : HistoryRecord}

/-- Items can be moved from the state that a kept record led to, to the one that it left. -/
theorem Unhindered.movable (hunhindered : platform.Unhindered)
    (hconsistent : session.store.Consistent) (hrecord : record ∈ session.store.history)
    (hchanges : record.ChangesState) :
    platform.Movable session.store record.workflowId record.toSid record.fromSid := by
  have hfrom := hconsistent.referenced.record_from record hrecord
  have hto := hconsistent.referenced.record_to record hrecord
  constructor
  case from_known => exact hto
  case to_known => exact hfrom
  case from_named => exact hconsistent.known_named hto
  case to_named => exact hconsistent.known_named hfrom
  case distinct => exact hchanges.symm
  case unvetoed =>
    intro _ _
    rw [hunhindered.hooks]
    rfl
  case saving => exact hunhindered.saving

/-- Reverting a record that can be reverted answers what the update by its transition answers, and
leaves behind what that does. -/
theorem revert_run {hid : Int} {agent : Agent} {sid : String} {reached : Transition}
    {after : Session} (hfound : session.store.record? hid = some record)
    (hrevertible : session.store.Revertible record)
    (hupdate : platform.update true (.reverting record agent platform.clock) session =
      .ok ((sid, reached), after)) :
    ∃ session', (platform.revert hid agent).run session = (.ok sid, session') ∧
      session'.store = after.store := by
  have hdemand : (historyRecord hid).run session = (.ok record, session) := by
    rw [historyRecord, run_bind, run_store]
    dsimp only
    rw [hfound]
    rfl
  rw [revert, run_bind, hdemand]
  dsimp only
  rw [run_bind, run_store]
  dsimp only
  rw [if_neg (not_not.2 hrevertible), run_bind, run_of_step, hupdate]
  dsimp only
  split
  · exact ⟨_, rfl, rfl⟩
  · exact ⟨_, rfl, rfl⟩

/-- A record that stands and can be taken back is taken back by a new request. -/
theorem Unhindered.reverts (hunhindered : platform.Unhindered) (hkeys : session.store.Keyed)
    (hcontext : session.context = .empty)
    (hmovable : platform.Movable session.store record.workflowId record.toSid record.fromSid)
    (hrecord : record ∈ session.store.history) (hrevertible : session.store.Revertible record)
    (hstands : session.store.Stands record) (agent : Agent) :
    ∃ session', (platform.revert record.hid agent).run session = (.ok record.fromSid, session') ∧
      session.store.TakenBack record agent platform.clock session'.store := by
  obtain ⟨item, hfollows⟩ := Store.stands_iff.1 hstands
  have hfresh : session.context.marker?
      (Transition.reverting record agent platform.clock).markerKey = none := by
    rw [hcontext]
    rfl
  obtain ⟨reached, after, hanswer, harrived, hmoved⟩ :=
    @Movable.moves platform session (.reverting record agent platform.clock) item hmovable hkeys
      rfl rfl hfollows hfresh
  obtain ⟨session', hrun, hstore⟩ :=
    revert_run (hkeys.record_found hrecord) hrevertible hanswer
  refine ⟨session', hrun, ?_⟩
  rw [hstore]
  refine ⟨hmoved.store, ?_, hmoved.states, hmoved.rules, hmoved.keyed⟩
  -- there are no hooks, so what was executed is the transition, with its comment
  have hreached := harrived.executed
  rw [hunhindered.hooks] at hreached
  rw [harrived.history, if_neg (hreached ▸ fun hempty => hempty.1 hmovable.distinct), hreached]
  rfl

/-- A record that does not stand is not taken back, and reverting it changes nothing. -/
theorem revert_fallen (hkeys : session.store.Keyed)
    (hmovable : platform.Movable session.store record.workflowId record.toSid record.fromSid)
    (hrecord : record ∈ session.store.history) (hrevertible : session.store.Revertible record)
    (hfallen : ¬ session.store.Stands record) (agent : Agent) :
    ∃ sid session', (platform.revert record.hid agent).run session = (.ok sid, session') ∧
      session'.store = session.store := by
  obtain ⟨sid, reached, after, hanswer⟩ :=
    update_answers platform true (.reverting record agent platform.clock) hkeys
  obtain ⟨session', hrun, hstore⟩ :=
    revert_run (hkeys.record_found hrecord) hrevertible hanswer
  refine ⟨sid, session', hrun, hstore.trans ?_⟩
  obtain ⟨-, hsame, -⟩ | ⟨item, outcome, hitem, hupdate, -⟩ := update_cases hanswer
  · exact hsame
  · have hcase := update_on_cases hupdate
    have hfill : session.store.fill item (.reverting record agent platform.clock) =
        .reverting record agent platform.clock := Store.fill_of_named hmovable.from_named
    rw [hfill] at hcase
    refine hcase.still rfl rfl fun hstatus => ?_
    -- what is executed leaves the state of its item
    obtain ⟨hadmitted, -⟩ := hcase.of_executed hkeys hitem rfl rfl hstatus
    exact hfallen (Store.stands_iff.2 ⟨item, hitem, hadmitted.current⟩)

/-- In a reachable store every record that can be reverted is reverted by a new request, if there
are no hooks and every item is saved: whoever asks is given an answer. Where the record stands, the
answer is the state that it left, its field holds that state, and one record of that is added after
the earlier ones. Where it does not, nothing changes. If the state that the record led to is active
and not a creation state, the added record can be reverted as well, and any new request that does so
puts the field back into that state. -/
theorem revert_and_back (hreach : session.store.Reachable) (hcontext : session.context = .empty)
    (hunhindered : platform.Unhindered) (hrecord : record ∈ session.store.history)
    (hrevertible : session.store.Revertible record) (agent : Agent) :
    ∃ sid session', (platform.revert record.hid agent).run session = (.ok sid, session') ∧
      (¬ session.store.Stands record → session'.store = session.store) ∧
      (session.store.Stands record → sid = record.fromSid ∧
        session'.store.fieldValue? record.target record.fieldName = some record.fromSid ∧
        session.store.TakenBack record agent platform.clock session'.store ∧
        ((∃ state ∈ session.store.states,
            state.id = record.toSid ∧ state.active = true ∧ state.creation = false) →
          session'.store.Revertible
              (record.reversal (session.store.lastHid + 1) agent platform.clock) ∧
            ∀ (other : Platform) (agent : Agent) (log : List LogLine), other.Unhindered →
              ∃ again, (other.revert (session.store.lastHid + 1) agent).run
                  ⟨session'.store, .empty, log⟩ = (.ok record.toSid, again) ∧
                again.store.fieldValue? record.target record.fieldName = some record.toSid)) := by
  have hkeys := hreach.keyed
  have hmovable : ∀ {other : Platform}, other.Unhindered →
      other.Movable session.store record.workflowId record.toSid record.fromSid :=
    fun hother => hother.movable hreach.consistent hrecord hrevertible.1
  by_cases hstands : session.store.Stands record
  · obtain ⟨session', hrun, htaken⟩ := hunhindered.reverts hkeys hcontext (hmovable hunhindered)
      hrecord hrevertible hstands agent
    refine ⟨_, session', hrun, absurd hstands, fun _ => ⟨rfl, htaken.field, htaken, ?_⟩⟩
    rintro ⟨state, hstate, hid, hactive, hcreation⟩
    obtain ⟨hadded, hback⟩ := htaken.stands
    have hrevertible' : session'.store.Revertible
        (record.reversal (session.store.lastHid + 1) agent platform.clock) :=
      htaken.keyed.revertible (Ne.symm hrevertible.1) (htaken.states ▸ hstate) hid hactive hcreation
    refine ⟨hrevertible', fun other agent' log hother => ?_⟩
    obtain ⟨again, hagain, hput⟩ := @Unhindered.reverts other ⟨session'.store, .empty, log⟩ _ hother
      htaken.keyed rfl ((hmovable hother).symm.of_states htaken.states) hadded hrevertible' hback
      agent'
    exact ⟨again, hagain, hput.field⟩
  · obtain ⟨sid, session', hrun, hsame⟩ :=
      revert_fallen hkeys (hmovable hunhindered) hrecord hrevertible hstands agent
    exact ⟨sid, session', hrun, fun _ => hsame, fun h => absurd h hstands⟩

end Platform

/-! ## A node that goes live and back -/

namespace Session

/-- The call in which an editor takes the node of the small site live by a new request. -/
def launching : Call :=
  ⟨.small, some .empty, .update false .small⟩

/-- The node arrives in the live state. -/
theorem launching_arrives (context : RequestContext) (log : List LogLine) :
    ∃ reached, Platform.small.Arrived ⟨.small, .empty, log⟩ .small false
      { Transition.small with fromSid := "news_draft" } reached
      (launching.after ⟨.small, context, log⟩) := by
  have hadmitted : Platform.small.Admitted ⟨.small, .empty, log⟩ .small false
      (Store.small.fill .small .small) := by
    refine (Platform.admitted_small rfl).congr ?_ ?_ <;> rfl
  exact @Call.after_admitted launching ⟨.small, context, log⟩ false .small .small rfl
    Store.keyed_small rfl rfl rfl hadmitted

end Session

/-- The node of the small site is taken back to draft once it went live, and live again. -/
theorem Platform.revert_and_back_launched :
    ∃ session record, session.store.Reachable ∧ session.context = .empty ∧ small.Unhindered ∧
      record ∈ session.store.history ∧ session.store.Revertible record ∧
      session.store.Stands record ∧
      ∃ session', (small.revert record.hid .anonymous).run session =
          (.ok "news_draft", session') ∧
        session'.store.fieldValue? ⟨"node", 1⟩ "field_state" = some "news_draft" ∧
        ∃ again, (small.revert (session.store.lastHid + 1) .anonymous).run
            ⟨session'.store, .empty, []⟩ = (.ok "news_live", again) ∧
          again.store.fieldValue? ⟨"node", 1⟩ "field_state" = some "news_live" := by
  obtain ⟨⟨store, context, log⟩, hstore, hreach⟩ :=
    Session.reachable_small.after Session.launching
  obtain rfl : store = .small := hstore
  obtain ⟨reached, harrived⟩ := Session.launching_arrives context log
  generalize Session.launching.after ⟨.small, context, log⟩ = launched at hreach harrived
  have hstates : launched.store.states = Store.small.states := harrived.states
  have hdraft : State.ofLabel "news" "news_draft" "Draft" 1 ∈ launched.store.states :=
    hstates ▸ by decide
  have hlive : State.ofLabel "news" "news_live" "Live" 2 ∈ launched.store.states :=
    hstates ▸ by decide
  obtain ⟨record, hrecord, htarget, hfield, hfrom, hto⟩ : ∃ record ∈ launched.store.history,
      record.target = ⟨"node", 1⟩ ∧ record.fieldName = "field_state" ∧
        record.fromSid = "news_draft" ∧ record.toSid = "news_live" := by
    rw [harrived.history, harrived.executed, if_neg (by decide)]
    exact ⟨_, List.mem_append_right _ (List.mem_singleton_self _), rfl, rfl, rfl, rfl⟩
  have hrevertible : launched.store.Revertible record :=
    hreach.keyed.revertible (by rw [HistoryRecord.ChangesState, hfrom, hto]; decide) hdraft
      hfrom.symm rfl rfl
  have hstands : launched.store.Stands record := by
    obtain ⟨item, hitem, hvalue⟩ := Option.bind_eq_some_iff.1 harrived.field_value
    refine ⟨item, htarget ▸ hitem, ?_⟩
    rw [hfield, hto]
    exact Store.current_sid_of_field hvalue _
  have hunhindered : small.Unhindered := ⟨rfl, fun _ _ => rfl⟩
  obtain ⟨sid, session', hrun, -, hthen⟩ :=
    @revert_and_back .small ⟨launched.store, .empty, []⟩ record hreach rfl hunhindered hrecord
      hrevertible .anonymous
  obtain ⟨hsid, hfieldValue, -, hback⟩ := hthen hstands
  obtain ⟨-, hredo⟩ := hback ⟨_, hlive, hto.symm, rfl, rfl⟩
  obtain ⟨again, hagain, hput⟩ := hredo .small .anonymous [] hunhindered
  rw [htarget, hfield] at hfieldValue hput
  rw [hsid, hfrom] at hrun
  rw [hfrom] at hfieldValue
  rw [hto] at hagain hput
  exact ⟨⟨launched.store, .empty, []⟩, record, hreach, rfl, hunhindered, hrecord, hrevertible,
    hstands, session', hrun, hfieldValue, again, hagain, hput⟩

end ContentWorkflow
