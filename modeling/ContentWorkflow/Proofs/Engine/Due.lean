import ContentWorkflow.Engine.Sweep
import ContentWorkflow.Proofs.Engine.Update
import ContentWorkflow.Proofs.Store.Pending

/-!
# What becomes of a transition that is due

A transition that is taken up is discarded where its item is gone or has moved on, rejected where it
is not admitted, and executed otherwise. `TakenUp` lists these with what each leaves behind, and
`take_up_answers` says that there are no others and no faults. Which one it is depends on the store
and on what the request remembers of the transition, and so does the store that is left behind
(`TakenUp.unique`).
-/

namespace ContentWorkflow

namespace Transition

variable {transition : Transition}

/-- A transition that is due carries a comment. -/
theorem as_due_has_comment : transition.asDue.HasComment := by
  by_cases hcomment : transition.HasComment
  · have hkept : transition.asDue.comment = transition.comment := if_pos hcomment
    simpa only [HasComment, hkept] using hcomment
  · refine ⟨_, if_neg hcomment, ?_⟩
    split <;> simp [toString]

/-- There is always something to record of a transition that is due. -/
theorem as_due_nonempty : ¬ transition.asDue.IsEmpty :=
  fun hempty => hempty.2.1 as_due_has_comment

end Transition

/-- Filling in the state that the item is in fills in nothing where the transition leaves it. -/
theorem Store.fill_of_current {store : Store} {item : Item} {transition : Transition}
    (h : transition.fromSid = store.currentSid transition.workflowId item transition.fieldName) :
    store.fill item transition = transition := by
  rw [fill, Transition.leaving_eq, ← h, ite_self]

namespace Platform

variable {platform : Platform} {item : Item} {force : Bool} {transition : Transition}
  {session session' other other' : Session} {fate fate' : Fate} {outcome : Outcome}

/-- Whether a transition is admitted depends on the store and on what the request remembers
of it. -/
theorem Admitted.congr (hstore : other.store = session.store)
    (hmarker : other.context.marker? transition.markerKey =
      session.context.marker? transition.markerKey)
    (h : platform.Admitted session item force transition) :
    platform.Admitted other item force transition := by
  refine ⟨?_, hstore ▸ h.saved⟩
  constructor
  case named => exact h.named
  case known => exact hstore ▸ h.known
  case current => exact hstore ▸ h.current
  case from_known => exact hstore ▸ h.from_known
  case fresh => exact hmarker.trans h.fresh
  case nonempty => exact h.nonempty
  case authorized => exact hstore ▸ h.authorized
  case unvetoed => exact h.unvetoed

/-- What becomes of a transition that is taken up. -/
inductive TakenUp (platform : Platform) (transition : Transition) (session : Session) :
    Fate → Session → Prop where
  | discarded {session' : Session} (hgone : ∀ item, ¬ session.store.Follows transition item)
      (hstore : session'.store = session.store) (hcontext : session'.context = session.context) :
      TakenUp platform transition session .discarded session'
  | rejected {item : Item} {session' : Session} (hfollows : session.store.Follows transition item)
      (hadmitted : ¬ platform.Admitted session item true transition.asDue)
      (hstore : session'.store = session.store)
      (hmarkers : ∀ key ≠ transition.markerKey,
        session'.context.marker? key = session.context.marker? key) :
      TakenUp platform transition session .rejected session'
  | executed {item : Item} {workflow : Workflow} {session' : Session}
      (hfollows : session.store.Follows transition item)
      (hadmitted : platform.Admitted session item true transition.asDue)
      (hworkflow : session.store.workflow? transition.workflowId = some workflow)
      (hstore : session'.store =
        (session.store.saveItem (moved workflow item transition.asDue)).enter
          (platform.hooks.executed (transition.asDue.validated true)))
      (harrived : platform.Arrived session item true transition.asDue
        (platform.hooks.executed (transition.asDue.validated true)) session') :
      TakenUp platform transition session .executed session'

/-- An update that does not execute its transition leaves the store as it was. -/
theorem Updated.still (hscheduled : transition.scheduled = false)
    (hexecuted : transition.executed = false)
    (h : platform.Updated item force transition session outcome session')
    (hstatus : outcome.transition.status ≠ .executed) : session'.store = session.store := by
  cases h with
  | unreachable _ hstore => exact hstore
  | drifted _ _ _ _ hstore => exact hstore
  | carried _ _ _ hcourse =>
      rw [hscheduled, hexecuted] at hcourse
      cases hcourse with
      | repeated _ _ hstore => exact hstore
      | objected _ _ hstore => exact hstore
      | empty _ hstore => exact hstore
      | unsaved _ _ _ hstore => exact hstore
      | moved => exact absurd rfl hstatus

/-- An update leaves alone what the request remembers of other transitions. -/
theorem Updated.marker_of_ne {key : MarkerKey}
    (h : platform.Updated item force transition session outcome session')
    (hkey : key ≠ transition.markerKey) :
    session'.context.marker? key = session.context.marker? key := by
  cases h with
  | unreachable _ _ hcontext => rw [hcontext]
  | drifted _ _ _ _ _ hcontext => rw [hcontext]
  | carried _ _ _ hcourse => exact hcourse.marker_of_ne hkey

/-- An update of a transition that is due executes it exactly when it is admitted. -/
theorem Updated.taken_up (hkeys : session.store.Keyed)
    (hexecuted : transition.asDue.executed = false)
    (hfollows : session.store.Follows transition item)
    (h : platform.Updated item true transition.asDue session outcome session') :
    platform.TakenUp transition session
      (if outcome.transition.status = .executed then .executed else .rejected) session' := by
  by_cases hstatus : outcome.transition.status = .executed
  · have hitem : session.store.item? transition.asDue.target = some item := hfollows.kept
    obtain ⟨hadmitted, -, harrived⟩ := h.of_executed hkeys hitem rfl hexecuted hstatus
    obtain ⟨⟨reason, hrejected⟩, -⟩ | ⟨-, -, -, hcourse⟩ := h.carries rfl hexecuted
    · rw [hstatus] at hrejected
      cases hrejected
    · obtain ⟨workflow, -, hready, -, -, hreached, hstore, -⟩ :=
        of_executed_course hcourse hstatus
      rw [if_pos hstatus]
      exact .executed hfollows hadmitted hready.workflow hstore (hreached ▸ harrived)
  · rw [if_neg hstatus]
    refine .rejected hfollows ?_ (h.still rfl hexecuted hstatus) fun key hkey =>
      h.marker_of_ne hkey
    intro hadmitted
    obtain ⟨workflow, hworkflow, hsaving⟩ := hadmitted.saved
    obtain ⟨-, hdone⟩ | ⟨hunsaved, -⟩ :=
      h.of_cleared hkeys rfl hexecuted hadmitted.toCleared hworkflow
    · exact hstatus hdone
    · exact hunsaved hsaving

/-- Taking up a transition gives an answer. -/
theorem take_up_answers (platform : Platform) (transition : Transition)
    (hkeys : session.store.Keyed) (hexecuted : transition.executed = false) :
    ∃ fate session', platform.takeUp transition session = .ok (fate, session') ∧
      platform.TakenUp transition session fate session' := by
  rw [takeUp]
  split
  · next hmissing =>
      refine ⟨_, _, rfl, .discarded ?_ rfl rfl⟩
      intro item hfollows
      cases hmissing.symm.trans hfollows.kept
  · next item hitem =>
      dsimp only
      split
      · next hdrift =>
          refine ⟨_, _, rfl, .discarded ?_ rfl rfl⟩
          intro other hfollows
          cases hitem.symm.trans hfollows.kept
          exact hdrift hfollows.current.symm
      · next hcurrent =>
          have hfollows : session.store.Follows transition item :=
            ⟨hitem, (not_not.1 hcurrent).symm⟩
          have hfill : session.store.fill item transition.asDue = transition.asDue :=
            Store.fill_of_current hfollows.current
          obtain ⟨⟨outcome, session'⟩, hanswer⟩ :=
            update_on_answers platform item true transition.asDue hkeys
          have hupdated := update_on_cases hanswer
          rw [hfill] at hupdated
          exact ⟨_, _, by rw [hanswer]; rfl, hupdated.taken_up hkeys hexecuted hfollows⟩

/-! ## What taking up a transition leaves behind -/

/-- Taking up a transition keeps the keys. -/
theorem TakenUp.keyed (hkeys : session.store.Keyed)
    (h : platform.TakenUp transition session fate session') : session'.store.Keyed := by
  cases h with
  | discarded _ hstore => exact hstore ▸ hkeys
  | rejected _ _ hstore => exact hstore ▸ hkeys
  | executed _ _ _ hstore => exact hstore ▸ (hkeys.save_item _).enter _

/-- Taking up a transition leaves alone what the request remembers of others. -/
theorem TakenUp.marker_of_ne {key : MarkerKey}
    (h : platform.TakenUp transition session fate session') (hkey : key ≠ transition.markerKey) :
    session'.context.marker? key = session.context.marker? key := by
  cases h with
  | discarded _ _ hcontext => rw [hcontext]
  | rejected _ _ _ hmarkers => exact hmarkers key hkey
  | executed _ _ _ _ harrived => exact (harrived.remembered key).trans (if_neg hkey)

/-- Taking up a transition drops nothing that is pending, or what is pending for its field. -/
theorem TakenUp.pending (h : platform.TakenUp transition session fate session') :
    session'.store.pending = session.store.pending ∨
      session'.store.pending = session.store.pending.filter fun row =>
        ¬ row.IsFor transition.target transition.fieldName := by
  cases h with
  | discarded _ hstore => exact Or.inl (by rw [hstore])
  | rejected _ _ hstore => exact Or.inl (by rw [hstore])
  | executed _ _ _ _ harrived =>
      have hpending := harrived.pending
      split at hpending
      · exact Or.inl hpending
      · exact Or.inr hpending

/-- What becomes of a transition, and the store that is left behind, depends on the store and on
what the request remembers of the transition. -/
theorem TakenUp.unique (hstore : other.store = session.store)
    (hmarker : other.context.marker? transition.markerKey =
      session.context.marker? transition.markerKey)
    (h : platform.TakenUp transition session fate session')
    (h' : platform.TakenUp transition other fate' other') :
    fate' = fate ∧ other'.store = session'.store := by
  have hadmits : ∀ {item}, platform.Admitted other item true transition.asDue ↔
      platform.Admitted session item true transition.asDue :=
    ⟨fun hadmitted => hadmitted.congr hstore.symm hmarker.symm,
      fun hadmitted => hadmitted.congr hstore hmarker⟩
  cases h with
  | discarded hgone hkept =>
      cases h' with
      | discarded _ hkept' => exact ⟨rfl, by rw [hkept', hkept, hstore]⟩
      | rejected hfollows => exact absurd (hstore ▸ hfollows) (hgone _)
      | executed hfollows => exact absurd (hstore ▸ hfollows) (hgone _)
  | rejected hfollows hadmitted hkept =>
      cases h' with
      | discarded hgone => exact absurd (hstore ▸ hfollows) (hgone _)
      | rejected _ _ hkept' => exact ⟨rfl, by rw [hkept', hkept, hstore]⟩
      | executed hfollows' hadmitted' =>
          obtain rfl := hfollows.unique (hstore ▸ hfollows')
          exact absurd (hadmits.1 hadmitted') hadmitted
  | executed hfollows hadmitted hworkflow hmoved =>
      cases h' with
      | discarded hgone => exact absurd (hstore ▸ hfollows) (hgone _)
      | rejected hfollows' hadmitted' =>
          obtain rfl := hfollows.unique (hstore ▸ hfollows')
          exact absurd (hadmits.2 hadmitted) hadmitted'
      | executed hfollows' _ hworkflow' hmoved' =>
          obtain rfl := hfollows.unique (hstore ▸ hfollows')
          obtain rfl := Option.some.inj (hworkflow.symm.trans (hstore ▸ hworkflow'))
          exact ⟨rfl, by rw [hmoved', hmoved, hstore]⟩

end Platform

end ContentWorkflow
