import ContentWorkflow.Proofs.Administration.Reassignment
import ContentWorkflow.Proofs.Runs.Answers
import ContentWorkflow.Proofs.Runs.Freshness

/-!
# Counting the items that are moved

Whoever deactivates a state in favour of another one is told how many items arrived. An item counts
when its update answers with the other state, and an update answers so where it moved the item, but
also where the request recalls the same move of the item from before, and then the item stays.
`Counted` says how the two add up along the loops, and `deactivate_state_counts` that nothing else
is counted, whatever is vetoed and whatever is not saved: the answer is the number of fields that
were moved exactly when the request recalls none of the moves.
-/

namespace ContentWorkflow

/-- The request recalls that the field was moved from the one state to the other. -/
def RequestContext.Recalls (context : RequestContext) (fromSid toSid : String)
    (field : Target × String) : Prop :=
  context.marker? ⟨field.1, field.2, s!"{fromSid}-{toSid}"⟩ = some toSid

instance (context : RequestContext) (fromSid toSid : String) :
    DecidablePred (context.Recalls fromSid toSid) :=
  fun _ => inferInstanceAs (Decidable (_ = _))

/-- The field holds the state. -/
def Store.Holds (store : Store) (sid : String) (field : Target × String) : Prop :=
  store.fieldValue? field.1 field.2 = some sid

instance (store : Store) (sid : String) : DecidablePred (store.Holds sid) :=
  fun _ => inferInstanceAs (Decidable (_ = _))

/-- From the one session to the other, the fields were to be moved from the one state to the other.
Some stayed, among them all whose move the request recalled, and the count is of those that were
moved and of those that were recalled. -/
structure Session.Counted (session : Session) (fromSid toSid : String)
    (fields : List (Target × String)) (count : Nat) (session' : Session) : Prop where
  keyed : session'.store.Keyed
  states : session'.store.states = session.store.states
  ends : ∀ field ∈ fields, session'.store.Holds toSid field ∨ session'.store.Holds fromSid field
  stays : ∀ field ∈ fields, session.context.Recalls fromSid toSid field →
    session'.store.Holds fromSid field
  others : ∀ field ∉ fields, ∀ sid, session'.store.Holds sid field ↔ session.store.Holds sid field
  markers : ∀ key : MarkerKey, (key.target, key.fieldName) ∉ fields →
    session'.context.marker? key = session.context.marker? key
  counted : count = fields.countP (fun field => session'.store.Holds toSid field) +
    fields.countP (fun field => session.context.Recalls fromSid toSid field)

namespace Session.Counted

variable {session middle session' : Session} {fromSid toSid : String}
  {first last : List (Target × String)} {count more : Nat} {field : Target × String}

/-- Of no field none is counted. -/
theorem refl (hkeys : session.store.Keyed) : session.Counted fromSid toSid [] 0 session where
  keyed := hkeys
  states := rfl
  ends := by simp
  stays := by simp
  others := fun _ _ _ => Iff.rfl
  markers := fun _ _ => rfl
  counted := rfl

/-- Where fields were to be moved and then others, the counts add up. -/
theorem trans (hdisjoint : first.Disjoint last)
    (h : session.Counted fromSid toSid first count middle)
    (h' : middle.Counted fromSid toSid last more session') :
    session.Counted fromSid toSid (first ++ last) (count + more) session' := by
  have hrecalls : ∀ field ∈ last, middle.context.Recalls fromSid toSid field ↔
      session.context.Recalls fromSid toSid field := by
    intro field hfield
    have hmarker := h.markers ⟨field.1, field.2, s!"{fromSid}-{toSid}"⟩
      fun hfirst => hdisjoint hfirst hfield
    rw [RequestContext.Recalls, RequestContext.Recalls, hmarker]
  have hholds : ∀ field ∈ first, ∀ sid, session'.store.Holds sid field ↔
      middle.store.Holds sid field :=
    fun field hfield => h'.others field fun hlast => hdisjoint hfield hlast
  constructor
  case keyed => exact h'.keyed
  case states => exact h'.states.trans h.states
  case ends =>
      refine List.forall_mem_append.2 ⟨fun field hfield => ?_, h'.ends⟩
      rw [hholds field hfield, hholds field hfield]
      exact h.ends field hfield
  case stays =>
      refine List.forall_mem_append.2 ⟨fun field hfield hrecalled => ?_,
        fun field hfield hrecalled => h'.stays field hfield ((hrecalls field hfield).2 hrecalled)⟩
      exact (hholds field hfield fromSid).2 (h.stays field hfield hrecalled)
  case others =>
      intro field hother sid
      rw [List.mem_append, not_or] at hother
      exact (h'.others field hother.2 sid).trans (h.others field hother.1 sid)
  case markers =>
      intro key hkey
      rw [List.mem_append, not_or] at hkey
      exact (h'.markers key hkey.2).trans (h.markers key hkey.1)
  case counted =>
      have hmoved : first.countP (fun field => session'.store.Holds toSid field) =
          first.countP (fun field => middle.store.Holds toSid field) :=
        List.countP_congr fun field hfield => by simpa using hholds field hfield toSid
      have hrecalled : last.countP (fun field => middle.context.Recalls fromSid toSid field) =
          last.countP (fun field => session.context.Recalls fromSid toSid field) :=
        List.countP_congr fun field hfield => by simpa using hrecalls field hfield
      rw [List.countP_append, List.countP_append, h.counted, h'.counted, hmoved, hrecalled]
      omega

/-- A field that stays is counted where the request recalls its move. -/
theorem of_still (hkeys : session.store.Keyed) (hdistinct : fromSid ≠ toSid)
    (hfield : session.store.Holds fromSid field) (hstore : session'.store = session.store)
    (hmarkers : ∀ key : MarkerKey, (key.target, key.fieldName) ≠ field →
      session'.context.marker? key = session.context.marker? key)
    (hcount : count = if session.context.Recalls fromSid toSid field then 1 else 0) :
    session.Counted fromSid toSid [field] count session' := by
  have hunmoved : ¬ session.store.Holds toSid field := by
    rw [Store.Holds, hfield]
    exact fun hsame => hdistinct (Option.some.inj hsame)
  constructor
  case keyed => exact hstore ▸ hkeys
  case states => rw [hstore]
  case ends => simpa [hstore] using Or.inr hfield
  case stays => simpa [hstore] using fun _ => hfield
  case others => simp [hstore]
  case markers => simpa using hmarkers
  case counted => simp [hcount, hstore, hunmoved, List.countP_singleton]

end Session.Counted

/-! ## Moving one field -/

namespace Platform

variable {platform : Platform} {session session' : Session} {item : Item}
  {workflowId fromSid toSid sid : String} {agent : Agent} {target : Target} {fieldName : String}
  {timestamp : Int} {reached : Transition}

/-- A field that was moved by a transition that the request did not recall is counted. -/
theorem Arrived.counted {transition : Transition} (hkeys : session'.store.Keyed)
    (hitem : session.store.item? transition.target = some item)
    (hchanges : transition.ChangesState)
    (hfresh : session.context.marker? transition.markerKey = none)
    (h : platform.Arrived session item true transition reached session') :
    session.Counted transition.fromSid transition.toSid [(transition.target, transition.fieldName)]
      1 session' := by
  have hmoved := h.reassigned hkeys hitem hchanges
  have hvalue : session'.store.Holds transition.toSid (transition.target, transition.fieldName) :=
    h.field_value
  have hforgotten : ¬ session.context.Recalls transition.fromSid transition.toSid
      (transition.target, transition.fieldName) := by
    intro hrecalled
    cases hfresh.symm.trans hrecalled
  constructor
  case keyed => exact hkeys
  case states => exact h.states
  case ends => simpa using Or.inl hvalue
  case stays => simpa using fun hrecalled => absurd hrecalled hforgotten
  case others =>
      intro field hother sid
      rw [Store.Holds, Store.Holds, hmoved.store.values, if_neg hother]
  case markers => exact hmoved.markers
  case counted => simp [hvalue, hforgotten]

/-- A field that holds a state is counted as its update answers. -/
theorem update_counted (hkeys : session.store.Keyed) (hdistinct : fromSid ≠ toSid)
    (hnamed : toSid ≠ "") (hknown : (session.store.statesOf workflowId).Known toSid)
    (hfield : session.store.Holds fromSid (target, fieldName))
    (h : platform.update true
      (.reassigning workflowId target fieldName fromSid toSid agent timestamp) session =
        .ok ((sid, reached), session')) :
    session.Counted fromSid toSid [(target, fieldName)] (if sid = toSid then 1 else 0)
      session' := by
  obtain ⟨item, hitem, hvalue⟩ := Option.bind_eq_some_iff.1 hfield
  obtain ⟨hmissing, -⟩ | ⟨other, outcome, hother, hupdate, rfl, -⟩ := update_cases h
  · cases hitem.symm.trans hmissing
  · cases hitem.symm.trans hother
    have hkeys' := update_keyed hkeys h
    have hcurrent : session.store.currentSid workflowId item fieldName = fromSid :=
      Store.current_sid_of_field hvalue workflowId
    have hcase := update_on_cases hupdate
    rw [Store.fill_of_current hcurrent.symm] at hcase
    have hchanges : (Transition.reassigning workflowId target fieldName fromSid toSid agent
      timestamp).ChangesState := hdistinct
    cases hcase with
    | unreachable hreach =>
        exact (hreach.elim hnamed fun hunknown => hunknown hknown).elim
    | drifted hcurrent' _ _ hdrift =>
        exact absurd (hcurrent.symm.trans hcurrent'.symm) hdrift
    | carried _ _ _ hcourse =>
        have hmarkers : ∀ key : MarkerKey, (key.target, key.fieldName) ≠ (target, fieldName) →
            session'.context.marker? key = session.context.marker? key := by
          intro key hkey
          refine hcourse.marker_of_ne ?_
          rintro rfl
          exact hkey rfl
        -- where nothing is remembered of the move, only an item that arrives is told to be there
        have hstill : session.context.marker? (Transition.reassigning workflowId target fieldName
            fromSid toSid agent timestamp).markerKey = none →
            session'.store = session.store →
            session.Counted fromSid toSid [(target, fieldName)]
              (if fromSid = toSid then 1 else 0) session' := by
          intro hfresh hstore
          refine .of_still hkeys hdistinct hfield hstore hmarkers ?_
          have hforgotten : ¬ session.context.Recalls fromSid toSid (target, fieldName) := by
            intro hrecalled
            cases hfresh.symm.trans hrecalled
          rw [if_neg hdistinct, if_neg hforgotten]
        cases hcourse with
        | repeated hmarker _ hstore =>
            refine .of_still hkeys hdistinct hfield hstore hmarkers ?_
            have hrecalls : session.context.Recalls fromSid toSid (target, fieldName) ↔ _ = toSid :=
              (Eq.congr_left hmarker).trans Option.some_inj
            simp [hrecalls, Transition.reassigning]
        | objected hfresh _ hstore =>
            exact hstill (hfresh.resolve_right fun hempty => hempty.1 hchanges) hstore
        | empty hempty => exact absurd hchanges hempty.1
        | unsaved hfresh _ _ hstore => exact hstill hfresh hstore
        | moved hfresh hready _ hstore hcontext =>
            have harrived := arrived_of_moved hitem hnamed hready hstore hcontext
            simpa [Transition.reassigning] using
              harrived.counted (update_keyed hkeys h) hitem hchanges hfresh

end Platform

/-! ## Moving the fields of a state -/

namespace Workflow

open ContentWorkflow.Action

variable {workflow : Workflow} {platform : Platform} {state target : State}
  {binding : FieldBinding} {session session' : Session}

/-- Items can be told to be in the other state: it is another one, has a name and is kept. -/
structure Reassignable (workflow : Workflow) (store : Store) (state target : State) : Prop where
  distinct : state.id ≠ target.id
  named : target.id ≠ ""
  known : (store.statesOf workflow.id).Known target.id

/-- What was counted leaves the other state kept. -/
theorem Reassignable.of_counted {fields : List (Target × String)} {count : Nat}
    (h : workflow.Reassignable session.store state target)
    (hcounted : session.Counted state.id target.id fields count session') :
    workflow.Reassignable session'.store state target :=
  { h with known := (Store.states_of_congr hcounted.states workflow.id).symm ▸ h.known }

/-- An item that holds the state is counted as its update answers. -/
theorem reassign_item_counted (agent : Agent) (hkeys : session.store.Keyed)
    (h : workflow.Reassignable session.store state target) {id : Int}
    (hfield : session.store.Holds state.id (⟨binding.entityType, id⟩, binding.fieldName))
    (moved : Nat) :
    ∃ count session', (workflow.reassignItem platform state target agent binding moved id).run
        session = (.ok (moved + count), session') ∧
      session.Counted state.id target.id [(⟨binding.entityType, id⟩, binding.fieldName)] count
        session' := by
  obtain ⟨sid, reached, session', hanswer⟩ := Platform.update_answers platform true
    (.reassigning workflow.id ⟨binding.entityType, id⟩ binding.fieldName state.id target.id agent
      platform.clock) hkeys
  refine ⟨_, session', ?_, Platform.update_counted hkeys h.distinct h.named h.known hfield hanswer⟩
  rw [reassignItem, run_bind, run_of_step, hanswer]
  dsimp only
  split <;> rfl

/-- Items that hold the state are counted one after another, as long as they can be told to be in
the other one. -/
theorem counts_each (workflow : Workflow) (platform : Platform) (state target : State)
    (agent : Agent) :
    workflow.MovesEach platform state target agent
      (fun session _ => workflow.Reassignable session.store state target)
      (fun session fields count session' =>
        session.Counted state.id target.id fields count session') where
  keyed h := h.keyed
  due h _ _ hdue := hdue.of_counted h
  others h field hother := h.others field hother state.id
  refl := .refl
  trans hdisjoint h h' := h.trans hdisjoint h'
  item hkeys hfield hdue moved := reassign_item_counted agent hkeys hdue hfield moved

/-! ## Deactivating a state -/

/-- The one state of the workflow can be deactivated in favour of the other one. -/
structure Replaceable (workflow : Workflow) (store : Store) (state target : State) : Prop where
  found : (store.statesOf workflow.id).get? state.id = some state
  target_found : (store.statesOf workflow.id).get? target.id = some target
  distinct : target.id ≠ state.id
  creation : state.creation = false
  target_creation : target.creation = false
  active : target.active = true

/-- The target of a reassignment that is answered is an active state other than the one that the
items leave, and not the creation state. -/
theorem reassignment_target_found {states : States} {sid : String}
    (h : (reassignmentTarget states state sid).run session = (.ok target, session')) :
    states.get? sid = some target ∧ target.active = true ∧ target.id ≠ state.id ∧
      target.creation = false := by
  rw [reassignmentTarget] at h
  cases hfound : (states.get? sid).filter fun target => target.active ∧ target.id ≠ state.id with
  | none =>
      rw [hfound] at h
      cases h
  | some found =>
      obtain ⟨hkept, hallowed⟩ := Option.filter_eq_some_iff.1 hfound
      obtain ⟨hactive, hother⟩ := of_decide_eq_true hallowed
      rw [hfound, Action.demand, pure_bind] at h
      by_cases hcreation : found.creation = true
      · rw [if_pos hcreation] at h
        cases h
      · rw [if_neg hcreation] at h
        cases h
        exact ⟨hkept, hactive, hother, by simpa using hcreation⟩

/-- A state is deactivated in favour of another one only where it can be. -/
theorem deactivate_state_replaceable {sid toSid : String} {agent : Agent} {count : Nat}
    (h : (workflow.deactivateState platform sid (some toSid) agent).run session =
      (.ok count, session')) :
    ∃ state target, state.id = sid ∧ target.id = toSid ∧
      workflow.Replaceable session.store state target := by
  rw [deactivateState, run_bind, state_run] at h
  cases hstate : (session.store.statesOf workflow.id).get? sid with
  | none =>
      rw [hstate] at h
      cases h
  | some state =>
      obtain rfl : state.id = sid := by simpa using List.find?_some hstate
      rw [hstate] at h
      dsimp only at h
      split at h
      · cases h
      · next hcreation =>
          rw [run_bind, reassign, run_bind, run_store] at h
          dsimp only at h
          rw [run_bind] at h
          cases hrun : (reassignmentTarget (session.store.statesOf workflow.id) state toSid).run
              session with
          | mk answer middle =>
              cases answer with
              | error fault =>
                  rw [hrun] at h
                  cases h
              | ok target =>
                  obtain ⟨hfound, hactive, hdistinct, htargetCreation⟩ :=
                    reassignment_target_found hrun
                  obtain rfl : target.id = toSid := by simpa using List.find?_some hfound
                  exact ⟨state, target, rfl, rfl, hstate, hfound, hdistinct,
                    by simpa using hcreation, htargetCreation, hactive⟩

/-- The items that hold the state in a field bound to the workflow are counted. -/
theorem reassign_counted (platform : Platform) (agent : Agent) (hkeys : session.store.Keyed)
    (hnamed : session.store.Named) (h : workflow.Replaceable session.store state target) :
    ∃ fields count session',
      (workflow.reassign platform state agent target.id).run session = (.ok count, session') ∧
      session.Counted state.id target.id fields count session' ∧ fields.Nodup ∧
      ∀ item fieldName, (item, fieldName) ∈ fields ↔
        session.store.Binds item.entityType fieldName workflow.id ∧
          session.store.Holds state.id (item, fieldName) := by
  have hkept : ∀ found, (session.store.statesOf workflow.id).get? found.id = some found →
      found ∈ session.store.states ∧ found.workflowId = workflow.id := by
    intro found hfound
    obtain ⟨hmem, hworkflow⟩ :=
      List.mem_filter.1 (States.mem_of_list.1 (List.mem_of_find?_eq_some hfound))
    exact ⟨hmem, of_decide_eq_true hworkflow⟩
  obtain ⟨hstate, -⟩ := hkept state h.found
  obtain ⟨htarget, hworkflow⟩ := hkept target h.target_found
  have hready : workflow.Reassignable session.store state target :=
    { distinct := h.distinct.symm
      named := hnamed target htarget
      known := Store.known_states_of.2 ⟨target, htarget, hworkflow, rfl⟩ }
  exact (counts_each workflow platform state target agent).reassign_run hkeys (hnamed state hstate)
    (fun _ => hready) h.target_found h.active h.distinct h.target_creation

/-- Deactivating a state in favour of another one gives an answer. It counts the bound fields that
held the state as their updates answered, and withdrawing the state leaves the fields as they
are. -/
theorem deactivate_state_counted (platform : Platform) (agent : Agent)
    (hkeys : session.store.Keyed) (hnamed : session.store.Named)
    (h : workflow.Replaceable session.store state target) :
    ∃ fields count middle session',
      (workflow.deactivateState platform state.id (some target.id) agent).run session =
        (.ok count, session') ∧
      session.Counted state.id target.id fields count middle ∧ fields.Nodup ∧
      (∀ item fieldName, (item, fieldName) ∈ fields ↔
        session.store.Binds item.entityType fieldName workflow.id ∧
          session.store.Holds state.id (item, fieldName)) ∧
      ∀ sid field, session'.store.Holds sid field ↔ middle.store.Holds sid field := by
  obtain ⟨fields, count, middle, hrun, hcounted, hnodup, hmem⟩ :=
    reassign_counted platform agent hkeys hnamed h
  obtain ⟨session', hwithdraw, hstore⟩ := withdraw_run workflow state count middle
  refine ⟨fields, count, middle, session', ?_, hcounted, hnodup, hmem, ?_⟩
  · rw [deactivateState, run_bind, state_run, h.found]
    dsimp only
    rw [if_neg (by simp [h.creation]), run_bind, hrun]
    exact hwithdraw
  · have hitems : session'.store.items = middle.store.items := by
      rw [hstore]
      rfl
    intro sid field
    rw [Store.Holds, Store.Holds, Store.field_value_congr hitems]

/-- Whatever the request made before, whatever is vetoed and whatever is not saved: deactivating a
state in favour of another one answers with the number of bound fields that held the state and hold
the other one afterwards, and of those that stay and whose move the request recalls. So the answer
is the number of fields that were moved exactly when the request recalls none of the moves. -/
theorem deactivate_state_counts {sid toSid : String} {agent : Agent} {count : Nat}
    (hkeys : session.store.Keyed) (hnamed : session.store.Named)
    (h : (workflow.deactivateState platform sid (some toSid) agent).run session =
      (.ok count, session')) :
    ∃ fields : List (Target × String), fields.Nodup ∧
      (∀ item fieldName, (item, fieldName) ∈ fields ↔
        session.store.Binds item.entityType fieldName workflow.id ∧
          session.store.fieldValue? item fieldName = some sid) ∧
      (∀ field ∈ fields, session'.store.Holds toSid field ∨ session'.store.Holds sid field) ∧
      (∀ field ∈ fields, session.context.Recalls sid toSid field →
        session'.store.Holds sid field ∧ ¬ session'.store.Holds toSid field) ∧
      count = fields.countP (fun field => session'.store.Holds toSid field) +
        fields.countP (fun field => session.context.Recalls sid toSid field) ∧
      (count = fields.countP (fun field => session'.store.Holds toSid field) ↔
        ∀ field ∈ fields, ¬ session.context.Recalls sid toSid field) := by
  obtain ⟨state, target, rfl, rfl, hreplaceable⟩ := deactivate_state_replaceable h
  obtain ⟨fields, _, middle, _, hrun, hcounted, hnodup, hmem, hholds⟩ :=
    deactivate_state_counted platform agent hkeys hnamed hreplaceable
  cases hrun.symm.trans h
  simp only [hholds]
  refine ⟨fields, hnodup, hmem, hcounted.ends, ?_, hcounted.counted, ?_⟩
  · intro field hfield hrecalled
    have hstays := hcounted.stays field hfield hrecalled
    refine ⟨hstays, fun hmoved => hreplaceable.distinct ?_⟩
    exact Option.some.inj (hmoved.symm.trans hstays)
  · rw [hcounted.counted, Nat.add_eq_left, List.countP_eq_zero]
    simp

/-- Where the node of the small site is back within a request, its first state can be deactivated in
favour of the other one, and the request recalls that the node went there. -/
theorem replaceable_returned :
    Session.returned.store.Keyed ∧ Session.returned.store.Named ∧
      small.Replaceable Session.returned.store (.ofLabel "news" "news_draft" "Draft" 1)
        (.ofLabel "news" "news_live" "Live" 2) ∧
      Session.returned.store.Binds "node" "field_state" "news" ∧
      Session.returned.store.Holds "news_draft" (⟨"node", 1⟩, "field_state") ∧
      Session.returned.context.Recalls "news_draft" "news_live" (⟨"node", 1⟩, "field_state") := by
  have hkeys : Session.returned.store.Keyed :=
    @Session.serve_keyed ⟨.small, .empty, []⟩ Store.keyed_small _
  obtain ⟨item, hitem, hvalue, hstates, hmarker⟩ := Session.returned_back
  have hflow : Store.small.SameFlow Session.returned.store :=
    (@Call.after_same_flow ⟨.small, none, .update true .small⟩ ⟨.small, .empty, []⟩ nofun).trans
      (@Call.after_same_flow ⟨.small, none, .update true Session.back⟩ _ nofun)
  have hfound : ∀ state ∈ Store.small.states,
      (Session.returned.store.statesOf state.workflowId).get? state.id = some state :=
    fun state hstate => hkeys.state_found (hflow.states ▸ hstate)
  refine ⟨hkeys, @Session.serve_named ⟨.small, .empty, []⟩ (by decide) _, ?_, ?_, ?_, hmarker⟩
  · exact { found := hfound (.ofLabel "news" "news_draft" "Draft" 1) (by decide)
            target_found := hfound (.ofLabel "news" "news_live" "Live" 2) (by decide)
            distinct := by decide
            creation := rfl
            target_creation := rfl
            active := rfl }
  · rw [Store.Binds, hflow.bindings]
    decide
  · rw [Store.Holds, Store.fieldValue?, hitem]
    exact hvalue

/-- A request that took the node of the small site live and back, and deactivates the state of the
node in favour of the other one, is told of more items than were moved: the node stays. -/
theorem deactivate_state_overcounts :
    ∃ (count : Nat) (session' : Session) (fields : List (Target × String)),
      (small.deactivateState .small "news_draft" (some "news_live") (.user 1)).run
          Session.returned = (.ok count, session') ∧
        fields.Nodup ∧
        (∀ item fieldName, (item, fieldName) ∈ fields ↔
          Session.returned.store.Binds item.entityType fieldName "news" ∧
            Session.returned.store.fieldValue? item fieldName = some "news_draft") ∧
        session'.store.fieldValue? ⟨"node", 1⟩ "field_state" = some "news_draft" ∧
        fields.countP (fun field => session'.store.Holds "news_live" field) < count := by
  obtain ⟨hkeys, hnamed, hreplaceable, hbound, hvalue, hrecalled⟩ := replaceable_returned
  obtain ⟨fields, count, middle, session', hrun, hcounted, hnodup, hmem, hholds⟩ :=
    deactivate_state_counted .small (.user 1) hkeys hnamed hreplaceable
  have hnode : ((⟨"node", 1⟩ : Target), "field_state") ∈ fields := (hmem _ _).2 ⟨hbound, hvalue⟩
  refine ⟨count, session', fields, hrun, hnodup, hmem, ?_, ?_⟩
  · exact (hholds _ _).2 (hcounted.stays _ hnode hrecalled)
  · have hrepeated : 0 < fields.countP fun field =>
        Session.returned.context.Recalls "news_draft" "news_live" field :=
      List.countP_pos_iff.2 ⟨_, hnode, by simpa using hrecalled⟩
    simp only [hholds]
    have hcount := hcounted.counted
    exact hcount ▸ Nat.lt_add_of_pos_right hrepeated

/-- The answer where the node of the small site is back within a request is not the number of fields
that were moved. -/
theorem deactivate_state_counts_returned :
    Session.returned.store.Keyed ∧ Session.returned.store.Named ∧
      ∃ (count : Nat) (session' : Session) (fields : List (Target × String)),
        (small.deactivateState .small "news_draft" (some "news_live") (.user 1)).run
            Session.returned = (.ok count, session') ∧
          (⟨"node", 1⟩, "field_state") ∈ fields ∧
          count ≠ fields.countP fun field => session'.store.Holds "news_live" field := by
  obtain ⟨hkeys, hnamed, hreplaceable, hbound, hvalue, hrecalled⟩ := replaceable_returned
  obtain ⟨_, count, _, session', hrun, -⟩ :=
    deactivate_state_counted .small (.user 1) hkeys hnamed hreplaceable
  obtain ⟨fields, -, hmem, -, -, -, hiff⟩ := deactivate_state_counts hkeys hnamed hrun
  have hnode : ((⟨"node", 1⟩ : Target), "field_state") ∈ fields := (hmem _ _).2 ⟨hbound, hvalue⟩
  exact ⟨hkeys, hnamed, count, session', fields, hrun, hnode,
    fun hcount => hiff.1 hcount _ hnode hrecalled⟩

end Workflow

end ContentWorkflow
