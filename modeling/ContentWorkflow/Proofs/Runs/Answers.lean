import ContentWorkflow.Proofs.Engine.Update
import ContentWorkflow.Proofs.Runs.Invariants

/-!
# What a caller is told

The caller of an update that names no state to leave is told a state. The main theorem,
`told_current_iff`, says that after any calls of one request this is the state that the item is in
afterwards, with one exception: a transition that the request met before is answered with the
state that the request remembers for it, which may be a state that the item has left since or has
never been in. `told_stale` is such a run.
-/

namespace ContentWorkflow

open Relation (ReflTransGen)

/-- The transition, which names the state it leaves, repeats one that the request remembers, and the
state remembered is not the one that the item is in. -/
structure Session.Stale (session : Session) (item : Item) (transition : Transition) : Prop where
  immediate : transition.scheduled = false
  named : transition.toSid ≠ ""
  known : (session.store.statesOf transition.workflowId).Known transition.toSid
  nonempty : ¬ transition.IsEmpty
  remembered : ∃ sid, session.context.marker? transition.markerKey = some sid ∧
    sid ≠ session.store.currentSid transition.workflowId item transition.fieldName

namespace Platform

variable {platform : Platform} {item : Item} {force moving : Bool} {transition : Transition}
  {session session' : Session} {outcome : Outcome} {sid : String}

/-- The state told is the one that the kept item is in afterwards. -/
def Tells (sid : String) (transition : Transition) (session : Session) : Prop :=
  ∃ stored, session.store.item? transition.target = some stored ∧
    sid = session.store.currentSid transition.workflowId stored transition.fieldName

/-- Where neither the items nor the history changed, an item is in the state that it was in. -/
theorem tells_of_same (hitem : session.store.item? transition.target = some item)
    (hitems : session'.store.items = session.store.items)
    (hhistory : session'.store.history = session.store.history)
    (hsid : sid = session.store.currentSid transition.workflowId item transition.fieldName) :
    Tells sid transition session' := by
  refine ⟨item, ?_, ?_⟩
  · rw [Store.item_congr hitems, hitem]
  · rw [Store.current_sid_congr hhistory, hsid]

/-- A course on a scheduled transition that leaves the item alone changes neither an item nor the
history. -/
theorem Course.of_scheduled (hscheduled : transition.scheduled = true)
    (h : platform.Course item force transition session false outcome session') :
    session'.store.items = session.store.items ∧
      session'.store.history = session.store.history := by
  cases h with
  | repeated _ _ hstore => rw [hstore]; exact ⟨rfl, rfl⟩
  | objected _ _ hstore => rw [hstore]; exact ⟨rfl, rfl⟩
  | empty _ hstore => rw [hstore]; exact ⟨rfl, rfl⟩
  | scheduled _ _ _ hstore => rw [hstore]; exact ⟨rfl, rfl⟩
  | recorded hunscheduled =>
      rw [hscheduled] at hunscheduled
      cases hunscheduled

/-- What a call that moves the item tells of a transition that leaves the state the item is in. -/
theorem Course.told (hitem : session.store.item? transition.target = some item)
    (hscheduled : transition.scheduled = false) (hnamed : transition.toSid ≠ "")
    (hknown : (session.store.statesOf transition.workflowId).Known transition.toSid)
    (hcurrent : transition.fromSid =
      session.store.currentSid transition.workflowId item transition.fieldName)
    (h : platform.Course item force transition session true outcome session') :
    ¬ session.Stale item transition ∧ Tells outcome.sid transition session' ∨
      session.Stale item transition ∧ session'.store = session.store ∧
        outcome.transition.status = .rejected (.alreadyExecuted transition.markerLabel) ∧
        session.context.marker? transition.markerKey = some outcome.sid := by
  have hsame : session'.store = session.store →
      ∀ {sid}, sid = transition.fromSid → Tells sid transition session' := by
    intro hstore sid hsid
    exact tells_of_same hitem (by rw [hstore]) (by rw [hstore]) (hsid.trans hcurrent)
  have hfresh : session.context.marker? transition.markerKey = none →
      ¬ session.Stale item transition := by
    rintro hfresh ⟨-, -, -, -, sid, hmarker, -⟩
    rw [hfresh] at hmarker
    cases hmarker
  cases h with
  | @repeated _ remembered _ hmarker hnonempty hstore =>
      -- the one exit that tells what the request remembers, and not a state that was just looked up
      by_cases hsid : remembered = transition.fromSid
      · refine Or.inl ⟨?_, hsame hstore hsid⟩
        intro hstale
        obtain ⟨sid, hfound, hstale⟩ := hstale.remembered
        cases hmarker.symm.trans hfound
        exact hstale (hsid.trans hcurrent)
      · exact Or.inr ⟨⟨hscheduled, hnamed, hknown, hnonempty, remembered, hmarker,
          fun hfound => hsid (hfound.trans hcurrent.symm)⟩, hstore, rfl, hmarker⟩
  | objected hseen _ hstore =>
      refine Or.inl ⟨?_, hsame hstore rfl⟩
      intro hstale
      exact hseen.elim (fun hnone => hfresh hnone hstale) hstale.nonempty
  | empty hempty hstore =>
      refine Or.inl ⟨fun hstale => hstale.nonempty hempty, hsame hstore ?_⟩
      exact (not_not.1 hempty.1).symm
  | unsaved hnone _ _ hstore => exact Or.inl ⟨hfresh hnone, hsame hstore rfl⟩
  | moved hnone hready _ hstore hcontext =>
      obtain ⟨stored, hstored, hfield, -⟩ :=
        (arrived_of_moved hitem hnamed hready hstore hcontext).field
      refine Or.inl ⟨hfresh hnone, stored, hstored, ?_⟩
      exact (Store.current_sid_of_field hfield transition.workflowId).symm

/-- What an update tells of a transition that leaves the state the item is in: the state that the
item is in afterwards or, of a stale repeat, the state remembered. -/
theorem Updated.told (hitem : session.store.item? transition.target = some item)
    (hexecuted : transition.executed = false)
    (hcurrent : transition.fromSid =
      session.store.currentSid transition.workflowId item transition.fieldName)
    (h : platform.Updated item force transition session outcome session') :
    ¬ session.Stale item transition ∧ Tells outcome.sid transition session' ∨
      session.Stale item transition ∧ session'.store = session.store ∧
        outcome.transition.status = .rejected (.alreadyExecuted transition.markerLabel) ∧
        session.context.marker? transition.markerKey = some outcome.sid := by
  cases h with
  | unreachable hreach hstore =>
      refine Or.inl ⟨?_, ?_⟩
      · intro hstale
        exact hreach.elim hstale.named fun hunknown => hunknown hstale.known
      · exact tells_of_same hitem (by rw [hstore]) (by rw [hstore]) hcurrent
  | drifted hfound _ _ hdrift =>
      -- a transition that leaves the state the item is in has not drifted
      exact absurd (hcurrent.trans hfound.symm) hdrift
  | carried hnamed hknown _ hcourse =>
      cases hscheduled : transition.scheduled with
      | true =>
          rw [hscheduled] at hcourse
          obtain ⟨hitems, hhistory⟩ := hcourse.of_scheduled hscheduled
          refine Or.inl ⟨?_, tells_of_same hitem hitems hhistory (by simp)⟩
          intro hstale
          rw [hstale.immediate] at hscheduled
          cases hscheduled
      | false =>
          rw [hscheduled, hexecuted] at hcourse
          simpa using hcourse.told hitem hscheduled hnamed hknown hcurrent

/-- An update of a kept item that names no state to leave tells the state that the item is in
afterwards or, of a stale repeat, the state remembered. -/
theorem update_told (platform : Platform) (force : Bool) (hkeys : session.store.Keyed)
    (hitem : session.store.item? transition.target = some item) (hfrom : transition.fromSid = "")
    (hexecuted : transition.executed = false) :
    ∃ sid reached session',
      platform.update force transition session = .ok ((sid, reached), session') ∧
        (¬ session.Stale item (session.store.fill item transition) ∧
            Tells sid transition session' ∨
          session.Stale item (session.store.fill item transition) ∧
            session'.store = session.store ∧
            reached.status = .rejected
              (.alreadyExecuted (session.store.fill item transition).markerLabel) ∧
            session.context.marker? (session.store.fill item transition).markerKey = some sid) := by
  obtain ⟨sid, reached, session', hanswer⟩ := update_answers platform force transition hkeys
  refine ⟨sid, reached, session', hanswer, ?_⟩
  obtain ⟨hmissing, -⟩ | ⟨other, outcome, hother, hupdate, rfl, rfl⟩ := update_cases hanswer
  · rw [hitem] at hmissing
    cases hmissing
  · cases hitem.symm.trans hother
    have hcurrent : (session.store.fill item transition).fromSid =
        session.store.currentSid transition.workflowId item transition.fieldName := by
      rw [Store.fill_of_unnamed hfrom]
    rw [← Store.fill_target] at hitem
    rw [← Store.fill_executed] at hexecuted
    rw [← Store.fill_workflow, ← Store.fill_field] at hcurrent
    simpa [Tells] using (update_on_cases hupdate).told hitem hexecuted hcurrent

/-- What is told of a stale repeat is not the state that the item is in. -/
theorem not_tells_of_stale (hitem : session.store.item? transition.target = some item)
    (hstale : session.Stale item (session.store.fill item transition))
    (hstore : session'.store = session.store)
    (hmarker : session.context.marker? (session.store.fill item transition).markerKey = some sid) :
    ¬ Tells sid transition session' := by
  rintro ⟨stored, hstored, htold⟩
  rw [hstore, hitem] at hstored
  cases hstored
  obtain ⟨remembered, hfound, hother⟩ := hstale.remembered
  cases hmarker.symm.trans hfound
  rw [Store.fill_workflow, Store.fill_field] at hother
  rw [hstore] at htold
  exact hother htold

end Platform

/-! ## What a request remembers -/

/-- What a request remembers after one more transition it remembered before, or it is of that
transition. -/
theorem RequestContext.marker_of_set {context : RequestContext} {key wanted : MarkerKey}
    {sid remembered : String} (h : (context.setMarker key sid).marker? wanted = some remembered) :
    context.marker? wanted = some remembered ∨ key = wanted ∧ remembered = sid := by
  rw [marker_set_marker] at h
  split at h
  · next hkey =>
      cases h
      exact Or.inr ⟨hkey.symm, rfl⟩
  · exact Or.inl h

/-- What a course makes the request remember is an end of the transition. -/
theorem Platform.Course.marker_added {platform : Platform} {item : Item} {force moving : Bool}
    {transition : Transition} {session session' : Session} {outcome : Outcome} {key : MarkerKey}
    {sid : String} (h : platform.Course item force transition session moving outcome session')
    (hmarker : session'.context.marker? key = some sid) :
    session.context.marker? key = some sid ∨
      transition.markerKey = key ∧ (sid = transition.fromSid ∨ sid = transition.toSid) := by
  have hfrom : (session.context.setMarker transition.markerKey transition.fromSid).marker? key =
      some sid → session.context.marker? key = some sid ∨
        transition.markerKey = key ∧ (sid = transition.fromSid ∨ sid = transition.toSid) := by
    intro hmarker
    obtain hmarker | ⟨hkey, hsid⟩ := RequestContext.marker_of_set hmarker
    · exact Or.inl hmarker
    · exact Or.inr ⟨hkey, Or.inl hsid⟩
  obtain hcontext | hcontext | hcontext := h.context_cases
  · exact Or.inl (hcontext ▸ hmarker)
  · exact hfrom (hcontext ▸ hmarker)
  · rw [hcontext] at hmarker
    obtain hmarker | ⟨hkey, hsid⟩ := RequestContext.marker_of_set hmarker
    · exact hfrom hmarker
    · exact Or.inr ⟨hkey, Or.inr hsid⟩

namespace Call

variable {call : Call} {store : Store} {session : Session} {key : MarkerKey} {sid : String}

/-- The call has the engine take up the transition, which is submitted and filled in from what is
kept at that moment: effects of the call lead to the moment, and on from what the engine leaves. -/
inductive Meets (call : Call) (session : Session) : Transition → Prop where
  | engaged {submission : Submission} {moment next : Session} {moving : Bool} {outcome : Outcome}
      (hsubmits : call.Submits session.store submission)
      (hbefore : ReflTransGen (call.Effect session.store) (call.before session) moment)
      (hmoment : moment.store = session.store ∨
        submission.force = true ∧ submission.transition.scheduled = false)
      (hcourse : call.platform.Course submission.item submission.force
        (moment.store.fill submission.item submission.transition) moment moving outcome next)
      (hafter : ReflTransGen (call.Effect session.store) next (call.after session)) :
      Meets call session (moment.store.fill submission.item submission.transition)

/-- The call met a transition with the key, and the state is one of its ends. -/
def Met (call : Call) (session : Session) (key : MarkerKey) (sid : String) : Prop :=
  ∃ met, call.Meets session met ∧ met.markerKey = key ∧ (sid = met.fromSid ∨ sid = met.toSid)

/-- What the request remembers after a call it remembered before, or the call met it. -/
theorem after_marker (hrequest : call.request = none)
    (hmarker : (call.after session).context.marker? key = some sid) :
    session.context.marker? key = some sid ∨ call.Met session key sid := by
  have hbefore : (call.before session).context = session.context := by
    simp [before, hrequest]
  obtain hfound | ⟨first, second, hfirst, heffect, hnew, hmarker, hrest⟩ :=
    after_origin (fun reached => reached.context.marker? key = some sid) hmarker
  · exact Or.inl (hbefore ▸ hfound)
  · cases heffect.step with
    | administered h =>
        rw [RequestContext.marker?, h.markers] at hmarker
        exact absurd hmarker hnew
    | scheduled _ _ hcontext => exact absurd (hcontext ▸ hmarker) hnew
    | engaged hsubmits hmoment hcourse =>
        obtain ⟨hkey, hend⟩ := (hcourse.marker_added hmarker).resolve_left hnew
        exact Or.inr ⟨_, .engaged hsubmits hfirst hmoment hcourse hrest, hkey, hend⟩

end Call

namespace Session

variable {start : Session} {calls : List Call} {key : MarkerKey} {sid : String}

/-- What a request remembers after its calls was met by one of them. -/
theorem serve_marker (hcontext : start.context = .empty)
    (hrequest : ∀ call ∈ calls, call.request = none)
    (hmarker : (start.serve calls).context.marker? key = some sid) :
    ∃ earlier origin between, calls = earlier ++ origin :: between ∧
      origin.Met (start.serve earlier) key sid := by
  refine serve_origin (fun session => session.context.marker? key = some sid)
    (fun call session => call.Met session key sid) ?_ ?_ hmarker
  · rw [hcontext]
    exact nofun
  · rintro earlier call later rfl
    exact Call.after_marker (hrequest call (by simp))

/-- After any calls of one request, an update of a kept item that names no state to leave gives an
answer. The caller is told the state that the item is in afterwards, unless the transition is a
stale repeat. A stale repeat is rejected and changes nothing, and the caller is told one end of a
transition of the same key that the engine took up for an earlier call of the request. -/
theorem told_current_iff (hkeys : start.store.Keyed) (hcontext : start.context = .empty)
    (hrequest : ∀ call ∈ calls, call.request = none) {platform : Platform} {force : Bool}
    {transition : Transition} {item : Item}
    (hitem : (start.serve calls).store.item? transition.target = some item)
    (hfrom : transition.fromSid = "") (hexecuted : transition.executed = false) :
    ∃ sid reached session',
      platform.update force transition (start.serve calls) = .ok ((sid, reached), session') ∧
        (Platform.Tells sid transition session' ↔
          ¬ (start.serve calls).Stale item ((start.serve calls).store.fill item transition)) ∧
        ((start.serve calls).Stale item ((start.serve calls).store.fill item transition) →
          reached.status = .rejected
              (.alreadyExecuted ((start.serve calls).store.fill item transition).markerLabel) ∧
            session'.store = (start.serve calls).store ∧
            ∃ earlier origin between, calls = earlier ++ origin :: between ∧
              origin.Met (start.serve earlier)
                ((start.serve calls).store.fill item transition).markerKey sid) := by
  obtain ⟨sid, reached, session', hanswer, htold⟩ :=
    Platform.update_told platform force (serve_keyed hkeys calls) hitem hfrom hexecuted
  refine ⟨sid, reached, session', hanswer, ?_⟩
  obtain ⟨hcurrent, htells⟩ | ⟨hstale, hstore, hstatus, hmarker⟩ := htold
  · exact ⟨iff_of_true htells hcurrent, fun hstale => absurd hstale hcurrent⟩
  · have hother := Platform.not_tells_of_stale hitem hstale hstore hmarker
    refine ⟨iff_of_false hother (not_not.2 hstale), fun _ => ⟨hstatus, hstore, ?_⟩⟩
    exact serve_marker hcontext hrequest hmarker

/-- The transition that takes the node of the small site back. -/
def back : Transition :=
  { Transition.small with toSid := "news_draft" }

/-- The session after a request took the node of the small site live and back. -/
def returned : Session :=
  serve ⟨.small, .empty, []⟩
    [⟨.small, none, .update true .small⟩, ⟨.small, none, .update true back⟩]

/-- What an update asks for holds where the node of the small site is forced back. -/
theorem admitted_back {session : Session} {item : Item}
    (hkeys : session.store.Keyed) (hstates : session.store.states = Store.small.states)
    (hlive : item.fieldValue? "field_state" = some "news_live")
    (hfresh : session.context.marker? { back with fromSid := "news_live" }.markerKey = none) :
    Platform.small.Admitted session item true { back with fromSid := "news_live" } := by
  have hcleared : Platform.small.Cleared session item true { back with fromSid := "news_live" } :=
    Platform.cleared_of_forced (by decide) (Store.known_of_small hstates).2
      (Store.known_of_small hstates).1 (Store.current_sid_of_field hlive "news").symm hfresh
      (by decide) fun _ _ => rfl
  exact hcleared.admitted hkeys fun _ _ => rfl

/-- The request still remembers the node to be live when it is back. -/
theorem returned_back :
    ∃ item, returned.store.item? ⟨"node", 1⟩ = some item ∧
      item.fieldValue? "field_state" = some "news_draft" ∧
      returned.store.states = Store.small.states ∧
      returned.context.marker? { Transition.small with fromSid := "news_draft" }.markerKey =
        some "news_live" := by
  -- the way there
  obtain ⟨_, live, hlive, -, hfirst⟩ :=
    @Platform.update_of_admitted .small _ true .small ⟨.small, .empty, []⟩ Store.keyed_small rfl rfl
      rfl (Platform.admitted_small rfl)
  obtain ⟨item, hitem, hfield, -⟩ := hfirst.field
  have hafter : Call.after ⟨.small, none, .update true .small⟩ ⟨.small, .empty, []⟩ = live :=
    Call.after_update rfl hlive
  have hkeys : live.store.Keyed := by
    rw [← hafter]
    exact @serve_keyed ⟨.small, .empty, []⟩ Store.keyed_small [_]
  -- the way back
  have hfilled : live.store.fill item back = { back with fromSid := "news_live" } :=
    Store.fill_of_field rfl hfield
  have hadmitted : Platform.small.Admitted live item true (live.store.fill item back) := by
    rw [hfilled]
    refine admitted_back hkeys hfirst.states hfield ?_
    rw [hfirst.remembered, if_neg (by decide)]
    rfl
  obtain ⟨_, home, hhome, -, hsecond⟩ :=
    @Platform.update_of_admitted .small item true back live hkeys hitem rfl rfl hadmitted
  rw [hfilled] at hsecond
  obtain ⟨stored, hstored, hdraft, -⟩ := hsecond.field
  have hreturned : returned = home := by
    show Call.after ⟨.small, none, .update true back⟩ (Call.after _ _) = home
    rw [hafter, Call.after_update rfl hhome]
  rw [hreturned]
  refine ⟨stored, hstored, hdraft, hsecond.states.trans hfirst.states, ?_⟩
  rw [hsecond.remembered, if_neg (by decide), hfirst.remembered]
  rfl

/-- Asking again to go live is a stale repeat. -/
theorem returned_stale :
    ∃ item, returned.store.item? ⟨"node", 1⟩ = some item ∧
      returned.store.currentSid "news" item "field_state" = "news_draft" ∧
      returned.context.marker? (returned.store.fill item .small).markerKey = some "news_live" ∧
      returned.Stale item (returned.store.fill item .small) := by
  obtain ⟨item, hitem, hfield, hstates, hmarker⟩ := returned_back
  have hdraft : returned.store.currentSid "news" item "field_state" = "news_draft" :=
    Store.current_sid_of_field hfield "news"
  have hfill : returned.store.fill item .small =
      { Transition.small with fromSid := "news_draft" } :=
    Store.fill_of_field rfl hfield
  refine ⟨item, hitem, hdraft, ?_, ?_⟩
  · rw [hfill]
    exact hmarker
  · rw [hfill]
    constructor
    case immediate => rfl
    case named => decide
    case known => exact (Store.known_of_small hstates).2
    case nonempty => decide
    case remembered =>
        refine ⟨"news_live", hmarker, ?_⟩
        intro hsame
        exact absurd (hsame.trans hdraft) (by decide)

/-- A node that went live and back within the request is told to be live when it is asked to go live
again, where it is in its first state. -/
theorem told_stale :
    ∃ sid reached session' stored,
      Platform.small.update true .small returned = .ok ((sid, reached), session') ∧
        session'.store.item? ⟨"node", 1⟩ = some stored ∧
        session'.store.currentSid "news" stored "field_state" = "news_draft" ∧
        sid = "news_live" := by
  obtain ⟨item, hitem, hdraft, hmarker, hstale⟩ := returned_stale
  have hkeys : returned.store.Keyed := @serve_keyed ⟨.small, .empty, []⟩ Store.keyed_small _
  obtain ⟨sid, reached, session', hanswer, htold⟩ :=
    @Platform.update_told item .small returned .small true hkeys hitem rfl rfl
  obtain ⟨hcurrent, -⟩ | ⟨-, hstore, -, hremembered⟩ := htold
  · exact absurd hstale hcurrent
  · refine ⟨sid, reached, session', item, hanswer, hstore ▸ hitem, hstore ▸ hdraft, ?_⟩
    exact Option.some.inj (hremembered.symm.trans hmarker)

/-- The state that a stale repeat is told is not the one that the node is in, and the repeat changes
nothing. -/
theorem told_current_iff_returned :
    ∃ sid reached session',
      Platform.small.update true .small returned = .ok ((sid, reached), session') ∧
        ¬ Platform.Tells sid .small session' ∧ session'.store = returned.store := by
  obtain ⟨item, hitem, -, -, hstale⟩ := returned_stale
  obtain ⟨sid, reached, session', hanswer, htells, hrejected⟩ :=
    @told_current_iff ⟨.small, .empty, []⟩
      [⟨.small, none, .update true .small⟩, ⟨.small, none, .update true back⟩]
      Store.keyed_small rfl (by simp) .small true .small item hitem rfl rfl
  obtain ⟨-, hstore, -⟩ := hrejected hstale
  exact ⟨sid, reached, session', hanswer, fun htold => htells.1 htold hstale, hstore⟩

end Session

end ContentWorkflow
