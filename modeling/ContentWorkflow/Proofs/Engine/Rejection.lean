import ContentWorkflow.Proofs.Engine.Update

/-!
# What a rejection leaves behind

A transition may be rejected at many points of a call, once after its item was moved already. The
main theorem, `rejected_unchanged`, says that wherever it happens the store is as it was, and that
the item in the hands of the caller answers as it did. That a state cannot be left is the reason
exactly where it is not known: then no force helps (`update_from_unknown`), and a known one is never
the reason (`update_invalid_from`).
-/

namespace ContentWorkflow

/-- The two items answer the same about every field, the changed time and the owner. -/
structure Item.Agrees (item other : Item) : Prop where
  target : item.target = other.target
  fields : ∀ fieldName, item.fieldValue? fieldName = other.fieldValue? fieldName
  changed : item.changed = other.changed
  owner : item.owner = other.owner

/-- Every item agrees with itself. -/
@[refl] theorem Item.Agrees.refl (item : Item) : item.Agrees item :=
  ⟨rfl, fun _ => rfl, rfl, rfl⟩

namespace Platform

variable {platform : Platform} {item : Item} {force moving : Bool} {transition : Transition}
  {session session' : Session} {outcome : Outcome}

/-- An item that was restored answers as it did before, also where the field was unset. -/
theorem restored_agrees : (restored item transition).Agrees item where
  target := rfl
  fields := by
    intro fieldName
    rw [restored, Item.field_value_set_field]
    split
    · next hfield =>
        subst hfield
        cases hvalue : item.fieldValue? transition.fieldName with
        | none =>
            -- an unset field is restored to the empty text, which reads as unset
            rfl
        | some sid =>
            have hset : sid ≠ "" := by
              simpa using (Option.filter_eq_some_iff.1 hvalue).2
            simp [hset]
    · rfl
  changed := rfl
  owner := rfl

/-- A course that ends in a rejection keeps the store, and hands back an item that answers as
before. -/
theorem course_rejected (h : platform.Course item force transition session moving outcome session')
    (hrejected : outcome.transition.status.IsRejected) :
    session'.store = session.store ∧ outcome.item.Agrees item := by
  cases h with
  | repeated _ _ hstore => exact ⟨hstore, .refl item⟩
  | objected _ _ hstore => exact ⟨hstore, .refl item⟩
  | unsaved _ _ _ hstore => exact ⟨hstore, restored_agrees⟩
  | empty => simp [Transition.validated, Status.IsRejected] at hrejected
  | scheduled => simp [Status.IsRejected] at hrejected
  | recorded => simp [Hooks.executed, Status.IsRejected] at hrejected
  | moved => simp [Hooks.executed, Status.IsRejected] at hrejected

/-- An update that ends in a rejection keeps the store, and hands back an item that answers as
before. -/
theorem update_on_rejected
    (h : platform.updateOn item force transition session = .ok (outcome, session'))
    (hrejected : outcome.transition.status.IsRejected) :
    session'.store = session.store ∧ outcome.item.Agrees item := by
  cases update_on_cases h with
  | unreachable _ hstore => exact ⟨hstore, .refl item⟩
  | drifted _ _ _ _ hstore => exact ⟨hstore, .refl item⟩
  | carried _ _ _ hcourse =>
      -- an update that carries on differs from its course in what it tells, not in what it leaves
      obtain ⟨hstore, hagrees⟩ := course_rejected hcourse hrejected
      exact ⟨hstore, hagrees⟩

/-- A rejected transition changes nothing that is kept: not when it was to be recorded or scheduled,
not when it was to move its kept item, and not when it was to move an item that the caller holds,
which answers as before, too. -/
theorem rejected_unchanged (platform : Platform) (force : Bool) (transition : Transition)
    (session session' : Session) :
    (∀ sid reached, platform.execute force transition session = .ok ((sid, reached), session') →
      reached.status.IsRejected → session'.store = session.store) ∧
    (∀ sid reached, platform.update force transition session = .ok ((sid, reached), session') →
      reached.status.IsRejected → session'.store = session.store) ∧
    (∀ item outcome,
      platform.updateOn item force transition session = .ok (outcome, session') →
      outcome.transition.status.IsRejected →
        session'.store = session.store ∧ outcome.item.Agrees item) := by
  refine ⟨?_, ?_, ?_⟩
  · intro sid reached h hrejected
    obtain ⟨-, hstore, -, -⟩ | ⟨item, outcome, -, hexecute, -, rfl⟩ := execute_cases h
    · exact hstore
    · exact (course_rejected (execute_on_course hexecute) hrejected).1
  · intro sid reached h hrejected
    obtain ⟨-, hstore, -, -⟩ | ⟨item, outcome, -, hupdate, -, rfl⟩ := update_cases h
    · exact hstore
    · exact (update_on_rejected hupdate hrejected).1
  · intro item outcome h hrejected
    exact update_on_rejected h hrejected

/-! ## States that cannot be left -/

/-- A course is rejected for the state that the transition leaves only where that is not known. -/
theorem course_invalid_from {sid : String}
    (h : platform.Course item force transition session moving outcome session')
    (hstatus : outcome.transition.status = .rejected (.invalidFromState sid)) :
    ¬ (session.store.statesOf transition.workflowId).Known transition.fromSid := by
  cases h with
  | repeated => simp [Transition.reject] at hstatus
  | unsaved => simp [Transition.reject] at hstatus
  | empty => simp [Transition.validated] at hstatus
  | scheduled => simp at hstatus
  | recorded => simp [Hooks.executed] at hstatus
  | moved => simp [Hooks.executed] at hstatus
  | objected _ hreason =>
      cases hstatus
      obtain hstates | haccess := hreason
      · rw [stateObjection?] at hstates
        split at hstates
        · assumption
        · split at hstates <;> cases hstates
      · -- whoever objects to the access names no state
        rw [accessObjection?] at haccess
        split at haccess
        · cases haccess
        · split at haccess
          · cases haccess
          · obtain ⟨_, -, hreason⟩ := Option.map_eq_some_iff.1 haccess
            cases hreason

/-- A course on a transition that is new to the request and leaves a state that is not known is
rejected for that state, also by force. -/
theorem course_from_unknown (hfresh : session.context.marker? transition.markerKey = none)
    (hunknown : ¬ (session.store.statesOf transition.workflowId).Known transition.fromSid)
    (h : platform.Course item force transition session moving outcome session') :
    outcome.transition.status = .rejected (.invalidFromState transition.fromSid) := by
  have hstates : stateObjection? (session.store.statesOf transition.workflowId) transition =
      some (.invalidFromState transition.fromSid) := if_pos hunknown
  cases h with
  | repeated hmarker =>
      rw [hfresh] at hmarker
      cases hmarker
  | objected _ _ _ _ hfirst => exact congrArg Status.rejected (hfirst _ hstates)
  | empty _ _ _ hvalid =>
      rw [hstates] at hvalid
      cases hvalid
  | scheduled _ _ hready => exact absurd hready.known.1 hunknown
  | recorded _ _ hready => exact absurd hready.known.1 hunknown
  | unsaved _ hready => exact absurd hready.known.1 hunknown
  | moved _ hready => exact absurd hready.known.1 hunknown

/-- A transition that leaves its kept item alone is rejected for the state that it leaves only where
that is not known. -/
theorem execute_invalid_from {sid fromSid : String} {reached : Transition}
    (hitem : session.store.item? transition.target = some item)
    (h : platform.execute force transition session = .ok ((sid, reached), session'))
    (hstatus : reached.status = .rejected (.invalidFromState fromSid)) :
    ¬ (session.store.statesOf transition.workflowId).Known
      (session.store.fill item transition).fromSid := by
  obtain ⟨hnone, -⟩ | ⟨found, outcome, hfound, hexecute, -, rfl⟩ := execute_cases h
  · rw [hitem] at hnone
    cases hnone
  · obtain rfl := Option.some.inj (hitem.symm.trans hfound)
    have hunknown := course_invalid_from (execute_on_course hexecute) hstatus
    rwa [Store.fill_workflow] at hunknown

/-- An update of an item is rejected for the state that its transition leaves only where that is not
known. -/
theorem update_on_invalid_from {fromSid : String}
    (h : platform.updateOn item force transition session = .ok (outcome, session'))
    (hstatus : outcome.transition.status = .rejected (.invalidFromState fromSid)) :
    ¬ (session.store.statesOf transition.workflowId).Known
      (session.store.fill item transition).fromSid := by
  cases update_on_cases h with
  | unreachable => simp [Transition.reject] at hstatus
  | drifted => simp [Transition.reject] at hstatus
  | carried _ _ _ hcourse =>
      have hunknown := course_invalid_from hcourse hstatus
      rwa [Store.fill_workflow] at hunknown

/-- An update of a kept item is rejected for the state that its transition leaves only where that is
not known. -/
theorem update_invalid_from {sid fromSid : String} {reached : Transition}
    (hitem : session.store.item? transition.target = some item)
    (h : platform.update force transition session = .ok ((sid, reached), session'))
    (hstatus : reached.status = .rejected (.invalidFromState fromSid)) :
    ¬ (session.store.statesOf transition.workflowId).Known
      (session.store.fill item transition).fromSid := by
  obtain ⟨hnone, -⟩ | ⟨found, outcome, hfound, hupdate, -, rfl⟩ := update_cases h
  · rw [hitem] at hnone
    cases hnone
  · obtain rfl := Option.some.inj (hitem.symm.trans hfound)
    exact update_on_invalid_from hupdate hstatus

/-- An update of a kept item to a known state that is new to the request is rejected for the state
that the item is in where that is not known, also by force. -/
theorem update_from_unknown {sid : String} {reached : Transition}
    (hitem : session.store.item? transition.target = some item) (hleft : transition.fromSid = "")
    (hnamed : transition.toSid ≠ "")
    (hto : (session.store.statesOf transition.workflowId).Known transition.toSid)
    (hunknown : ¬ (session.store.statesOf transition.workflowId).Known
      (session.store.currentSid transition.workflowId item transition.fieldName))
    (hfresh : session.context.marker? (session.store.fill item transition).markerKey = none)
    (h : platform.update force transition session = .ok ((sid, reached), session')) :
    reached.status = .rejected (.invalidFromState
      (session.store.currentSid transition.workflowId item transition.fieldName)) := by
  have hfill : (session.store.fill item transition).fromSid =
      session.store.currentSid transition.workflowId item transition.fieldName := by
    rw [Store.fill_of_unnamed hleft]
  rw [← hfill] at hunknown ⊢
  obtain ⟨hnone, -⟩ | ⟨found, outcome, hfound, hupdate, -, rfl⟩ := update_cases h
  · rw [hitem] at hnone
    cases hnone
  · obtain rfl := Option.some.inj (hitem.symm.trans hfound)
    cases update_on_cases hupdate with
    | unreachable hreach =>
        rw [Store.fill_to, Store.fill_workflow] at hreach
        exact absurd hto (hreach.resolve_left hnamed)
    | drifted hcurrent _ _ hdrift =>
        rw [Store.fill_workflow, Store.fill_field] at hcurrent
        exact absurd (hfill.trans hcurrent.symm) hdrift
    | carried _ _ _ hcourse =>
        have hstatus := course_from_unknown hfresh (by rwa [Store.fill_workflow]) hcourse
        exact hstatus

end Platform

/-- A node that was never saved and whose state is unset. -/
def Item.unset : Item :=
  ⟨⟨"node", 2⟩, some 2, 0, Dictionary.empty, true⟩

/-- The transition that makes the node a draft. -/
def Transition.drafting : Transition :=
  { Transition.small with target := ⟨"node", 2⟩, toSid := "news_draft" }

/-- The surroundings of the small site while nothing can be saved. -/
def Platform.refusing : Platform :=
  { small with saving := fun _ _ => .refused }

namespace Platform

/-- Where nothing can be saved, making the node a draft is rejected and leaves the field unset. -/
theorem rejected_unset :
    ∃ outcome session',
      refusing.updateOn .unset true .drafting ⟨.small, .empty, []⟩ = .ok (outcome, session') ∧
        outcome.transition.status.IsRejected ∧ session'.store = .small ∧
        outcome.item.fieldValue? "field_state" = none := by
  obtain ⟨⟨outcome, session'⟩, hanswer⟩ :=
    @update_on_answers ⟨.small, .empty, []⟩ refusing .unset true .drafting Store.keyed_small
  have hcleared : refusing.Cleared ⟨.small, .empty, []⟩ .unset true
      (Store.small.fill .unset .drafting) := by
    constructor
    case named => decide
    case known => exact (Store.known_of_small rfl).1
    case current => decide
    case from_known => exact Store.known_states_of.2 ⟨.creationOf "news", by decide⟩
    case fresh => rfl
    case nonempty => decide
    case authorized => exact fun _ => .forced (Or.inl rfl)
    case unvetoed => exact fun _ => rfl
  have hrejected : outcome.transition.status.IsRejected := by
    obtain ⟨hsaving, -⟩ | ⟨-, hstatus⟩ :=
      (update_on_cases hanswer).of_cleared Store.keyed_small rfl rfl hcleared rfl
    · cases hsaving
    · exact ⟨_, hstatus⟩
  obtain ⟨hstore, hagrees⟩ := (rejected_unchanged _ _ _ _ _).2.2 _ _ hanswer hrejected
  exact ⟨outcome, session', hanswer, hrejected, hstore, hagrees.fields _⟩

end Platform

end ContentWorkflow
