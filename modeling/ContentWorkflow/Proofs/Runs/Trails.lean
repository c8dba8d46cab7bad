import ContentWorkflow.Proofs.Runs.Tracking
import Mathlib.Data.List.Chain

/-!
# The trail of a field

Where the engine alone moves items, the history tells where they are. The main theorem,
`serve_trails`, says that after a tracked run from a store without history the records of a field
form a chain, each leaving the state that the one before it reached, and that the field holds the
state that the last one reached.
-/

namespace ContentWorkflow

/-- The records of the field form a chain, in which each leaves the state that the one before
it reached, and the field holds the state that the last one reached. -/
structure Store.Trailed (store : Store) (target : Target) (fieldName : String) : Prop where
  chained : (store.trail target fieldName).IsChain fun record next => record.toSid = next.fromSid
  last : ∀ record ∈ (store.trail target fieldName).getLast?,
    store.fieldValue? target fieldName = some record.toSid

namespace Store.Trailed

variable {store store' : Store} {target : Target} {fieldName : String} {transition : Transition}
  {item : Item}

/-- A field that is left alone keeps its trail. -/
theorem of_spares (htrailed : store.Trailed target fieldName)
    (h : store.Spares store' target fieldName) : store'.Trailed target fieldName := by
  constructor
  · rw [h.trail]
    exact htrailed.chained
  · intro record hrecord
    rw [h.trail] at hrecord
    exact h.field_value (htrailed.last record hrecord)

/-- The state that a transition follows on is the one that the last record of its field reached. -/
theorem last_follows (htrailed : store.Trailed transition.target transition.fieldName)
    (hfollows : store.Follows transition item) {record : HistoryRecord}
    (hrecord : record ∈ (store.trail transition.target transition.fieldName).getLast?) :
    record.toSid = transition.fromSid := by
  have hfield := htrailed.last record hrecord
  rw [Store.fieldValue?, hfollows.kept] at hfield
  exact (hfollows.current.trans (Store.current_sid_of_field hfield _)).symm

/-- An executed transition extends the trail of its field by its record, or stays in the state that
the trail ends in. -/
theorem of_arrived {platform : Platform} {force : Bool} {reached : Transition}
    {session session' : Session}
    (htrailed : session.store.Trailed transition.target transition.fieldName)
    (hfollows : session.store.Follows transition item)
    (harrived : platform.Arrived session item force transition reached session') :
    session'.store.Trailed transition.target transition.fieldName := by
  obtain ⟨-, hfrom, hto⟩ := harrived.same_move
  constructor
  · rw [harrived.trail_eq]
    split
    · rw [List.append_nil]
      exact htrailed.chained
    · refine List.isChain_append.2 ⟨htrailed.chained, List.isChain_singleton _, ?_⟩
      intro record hrecord next hnext
      obtain rfl := Option.some.inj hnext
      exact (htrailed.last_follows hfollows hrecord).trans hfrom.symm
  · intro record hrecord
    rw [harrived.field_value]
    rw [harrived.trail_eq] at hrecord
    split at hrecord
    · next hempty =>
        -- nothing was recorded because the transition stays where the last record led
        rw [List.append_nil] at hrecord
        have hstays : reached.fromSid = reached.toSid := not_not.1 hempty.1
        rw [htrailed.last_follows hfollows hrecord, ← hfrom, hstays, hto]
    · rw [List.getLast?_concat] at hrecord
      obtain rfl := Option.some.inj hrecord
      exact congrArg some hto.symm

end Store.Trailed

/-- Every step of progress keeps the trail of a field. -/
theorem Call.Progress.trailed {call : Call} {session session' : Session} {target : Target}
    {fieldName : String} (h : call.Progress session session')
    (htrailed : session.store.Trailed target fieldName) :
    session'.store.Trailed target fieldName := by
  obtain hspares | ⟨_, _, _, _, rfl, rfl, hfollows, harrived⟩ := h.spares_or_moved target fieldName
  · exact htrailed.of_spares hspares
  · exact htrailed.of_arrived hfollows harrived

namespace Session

/-- After a tracked run from a store without history, the records stand in the order of their
numbers, the records of every field form a chain in which each leaves the state that the one before
it reached, and the field holds the state that the last one reached. -/
theorem serve_trails {start : Session} (hhistory : start.store.history = []) {calls : List Call}
    (htracked : start.Tracked calls) :
    ((start.serve calls).store.history.Pairwise fun first second => first.hid < second.hid) ∧
      ∀ target fieldName,
        ((start.serve calls).store.trail target fieldName).IsChain
            (fun record next => record.toSid = next.fromSid) ∧
          ∀ record ∈ ((start.serve calls).store.trail target fieldName).getLast?,
            (start.serve calls).store.fieldValue? target fieldName = some record.toSid := by
  have hnumbered : start.store.Numbered := by constructor <;> simp [hhistory]
  refine ⟨(serve_numbered hnumbered calls).ascending, ?_⟩
  intro target fieldName
  have htrailed : start.store.Trailed target fieldName := by
    constructor <;> simp [Store.trail, hhistory]
  have hend := tracked_invariant (motive := fun store => store.Trailed target fieldName) htracked
    (fun _ _ _ _ hprogress htrailed => hprogress.trailed htrailed) htrailed
  exact ⟨hend.chained, hend.last⟩

/-- The node of the small site is where its trail ends once an editor took it live. -/
theorem serve_trails_small :
    ∃ record ∈ ((serve ⟨.small, .empty, []⟩ [⟨.small, none, .update false .small⟩]).store.trail
        ⟨"node", 1⟩ "field_state").getLast?,
      record.fromSid = "news_draft" ∧ record.toSid = "news_live" ∧
        (serve ⟨.small, .empty, []⟩ [⟨.small, none, .update false .small⟩]).store.fieldValue?
          ⟨"node", 1⟩ "field_state" = some record.toSid := by
  obtain ⟨reached, session', hanswer, -, harrived⟩ :=
    @Platform.update_of_admitted .small _ false .small ⟨.small, .empty, []⟩ Store.keyed_small rfl
      rfl rfl (Platform.admitted_small rfl)
  have hafter : serve ⟨.small, .empty, []⟩ [⟨.small, none, .update false .small⟩] = session' :=
    Call.after_update rfl hanswer
  obtain rfl := harrived.executed
  have htrail := harrived.trail_eq
  rw [if_neg (by decide), ← hafter] at htrail
  have hlast := congrArg List.getLast? htrail
  rw [List.getLast?_concat] at hlast
  have htracked : Tracked ⟨.small, .empty, []⟩ [⟨.small, none, .update false .small⟩] :=
    ⟨rfl, trivial⟩
  obtain ⟨-, hfields⟩ := @serve_trails ⟨.small, .empty, []⟩ rfl _ htracked
  exact ⟨_, hlast, by decide, by decide, (hfields ⟨"node", 1⟩ "field_state").2 _ hlast⟩

end Session

end ContentWorkflow
