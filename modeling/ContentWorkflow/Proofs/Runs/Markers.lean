import ContentWorkflow.Proofs.Runs.Answers
import ContentWorkflow.Proofs.Workflow.MachineName

/-!
# What a request takes for a repeat

A request remembers a transition under its item, its field and a label made of its two states. The
label tells any two transitions apart that leave states of one workflow (`marker_label_eq_iff`). An
examination finds a repeat only where the request remembers the transition (`Examined.remembered`),
and then the engine took up one of that label for a call of the request (`examined_repeat`). The
main theorem, `repeats_told_apart`, puts this together with what the ids of the states are made of.
-/

namespace ContentWorkflow

/-- Two transitions that leave states of one workflow have the same label when they are between the
same states. -/
theorem Transition.marker_label_eq_iff {first second : Transition} {workflowId : String}
    (hfirst : MachineName.Makes workflowId first.fromSid)
    (hsecond : MachineName.Makes workflowId second.fromSid) :
    first.markerLabel = second.markerLabel ↔
      first.fromSid = second.fromSid ∧ first.toSid = second.toSid := by
  constructor
  · exact hfirst.pair_inj hsecond
  · rintro ⟨hfrom, hto⟩
    rw [markerLabel, hfrom, hto, markerLabel]

namespace Platform

variable {platform : Platform} {item : Item} {force : Bool} {transition examined : Transition}
  {session session' : Session} {verdict : Verdict} {label : String}

/-- Nothing that is wrong with the states of a transition makes it a repeat. -/
theorem state_objection_ne_repeat {states : States} :
    stateObjection? states transition ≠ some (.alreadyExecuted label) := by
  unfold stateObjection?
  split
  · simp
  · split <;> simp

/-- Nobody objects to a transition because it is a repeat. -/
theorem access_objection_ne_repeat {store : Store} :
    platform.accessObjection? store item transition ≠ some (.alreadyExecuted label) := by
  unfold accessObjection?
  split
  · simp
  · split <;> simp

/-- A transition that is found to be a repeat is one that the request remembers. -/
theorem Examined.remembered
    (h : platform.Examined item force transition session verdict examined session')
    (hstatus : examined.status = .rejected (.alreadyExecuted label)) :
    ∃ sid, session.context.marker? transition.markerKey = some sid := by
  cases h with
  | repeated hmarker => exact ⟨_, hmarker⟩
  | objected _ hreason =>
      cases hstatus
      obtain hstates | haccess := hreason
      · exact absurd hstates state_objection_ne_repeat
      · exact absurd haccess access_objection_ne_repeat
  | empty => cases hstatus
  | ready => cases hstatus

end Platform

namespace Session

variable {start session' : Session} {calls : List Call} {platform : Platform} {item : Item}
  {force : Bool} {transition examined : Transition} {verdict : Verdict} {label : String}

/-- What is found to be a repeat after the calls of a request has the item, the field and the label
of a transition that the engine took up for one of them. -/
theorem examined_repeat (hcontext : start.context = .empty)
    (hrequest : ∀ call ∈ calls, call.request = none)
    (hanswer : platform.examine item force transition (start.serve calls) =
      .ok (verdict, examined, session'))
    (hstatus : examined.status = .rejected (.alreadyExecuted label)) :
    ∃ earlier origin between met, calls = earlier ++ origin :: between ∧
      origin.Meets (start.serve earlier) met ∧
      met.markerKey = ((start.serve calls).store.fill item transition).markerKey := by
  obtain ⟨sid, hmarker⟩ := (Platform.examine_cases hanswer).remembered hstatus
  obtain ⟨earlier, origin, between, hcalls, met, hmeets, hkey, -⟩ :=
    serve_marker hcontext hrequest hmarker
  exact ⟨earlier, origin, between, met, hcalls, hmeets, hkey⟩

/-- The id of a state with a label is the id of its workflow, an underscore and a name, and the name
makes the same id. Two transitions that leave states with such ids of one workflow have the same
label when they are between the same states. So what the engine refuses as a repeat, after any calls
of one request, it took up for one of them before, filled in from what was kept then, for the same
field and between the same two states, as far as the state that was left then is such a state as
well. -/
theorem repeats_told_apart (workflowId : String) :
    (∀ label, ∃ name,
      MachineName.stateIdOfLabel workflowId label = workflowId ++ "_" ++ name ∧
        name ≠ "" ∧ name ≠ "_" ∧
        (∀ char ∈ name.toList,
          'a' ≤ char ∧ char ≤ 'z' ∨ '0' ≤ char ∧ char ≤ '9' ∨ char = '_') ∧
        MachineName.stateIdOfLabel workflowId name =
          MachineName.stateIdOfLabel workflowId label) ∧
    (∀ first second : Transition, MachineName.Makes workflowId first.fromSid →
      MachineName.Makes workflowId second.fromSid →
        (first.markerLabel = second.markerLabel ↔
          first.fromSid = second.fromSid ∧ first.toSid = second.toSid)) ∧
    ∀ (start session' : Session) (calls : List Call) (platform : Platform) (item : Item)
      (force : Bool) (transition examined : Transition) (verdict : Verdict) (label : String),
      start.context = .empty → (∀ call ∈ calls, call.request = none) →
      platform.examine item force transition (start.serve calls) =
        .ok (verdict, examined, session') →
      examined.status = .rejected (.alreadyExecuted label) →
      MachineName.Makes workflowId ((start.serve calls).store.fill item transition).fromSid →
      ∃ earlier origin between met, calls = earlier ++ origin :: between ∧
        origin.Meets (start.serve earlier) met ∧
        met.target = transition.target ∧ met.fieldName = transition.fieldName ∧
        (MachineName.Makes workflowId met.fromSid →
          met.fromSid = ((start.serve calls).store.fill item transition).fromSid ∧
            met.toSid = transition.toSid) := by
  refine ⟨fun label => ?_, fun first second => Transition.marker_label_eq_iff, ?_⟩
  · have hname := MachineName.is_name_of_label label
    refine ⟨MachineName.ofLabel label, rfl, hname.nonempty, hname.not_bare, ?_, ?_⟩
    · exact fun char hchar => MachineName.is_name_char_iff.1 (hname.chars char hchar)
    · rw [MachineName.stateIdOfLabel, MachineName.of_label_of_is_name hname,
        MachineName.stateIdOfLabel]
  · intro start session' calls platform item force transition examined verdict label hcontext
      hrequest hanswer hstatus hmade
    obtain ⟨earlier, origin, between, met, hcalls, hmeets, hkey⟩ :=
      examined_repeat hcontext hrequest hanswer hstatus
    obtain ⟨htarget, hfield, hlabel⟩ := MarkerKey.mk.inj hkey
    rw [Store.fill_target] at htarget
    rw [Store.fill_field] at hfield
    refine ⟨earlier, origin, between, met, hcalls, hmeets, htarget, hfield, fun hmet => ?_⟩
    have hends := (Transition.marker_label_eq_iff hmet hmade).1 hlabel
    rwa [Store.fill_to] at hends

/-- The node of the small site that went live and back within a request is refused to go live once
more. -/
theorem refused_returned :
    ∃ item verdict examined session' label,
      Platform.small.examine item true .small returned = .ok (verdict, examined, session') ∧
        examined.status = .rejected (.alreadyExecuted label) ∧
        (returned.store.fill item .small).fromSid = "news_draft" := by
  obtain ⟨item, -, hdraft, hmarker, hstale⟩ := returned_stale
  have hkeys : returned.store.Keyed := @serve_keyed ⟨.small, .empty, []⟩ Store.keyed_small _
  have hknown := hstale.known
  rw [Store.fill_workflow] at hknown
  obtain ⟨workflow, hworkflow⟩ := hkeys.workflow_of_known hknown
  have hleft : (returned.store.fill item .small).fromSid = "news_draft" := by
    rw [Store.fill_of_unnamed rfl]
    exact hdraft
  obtain ⟨verdict, examined, session', hanswer, hcase⟩ :=
    Platform.examine_answers Platform.small item true hworkflow
  refine ⟨item, verdict, examined, session',
    (returned.store.fill item .small).markerLabel, hanswer, ?_, hleft⟩
  -- what the request remembers and what is not empty can only be found to be a repeat
  have hmet : ¬ (returned.context.marker? (returned.store.fill item .small).markerKey = none ∨
      (returned.store.fill item .small).IsEmpty) := by
    rw [hmarker, not_or]
    exact ⟨nofun, hstale.nonempty⟩
  cases hcase with
  | repeated => rfl
  | objected hfresh => exact absurd hfresh hmet
  | empty hempty => exact absurd (Or.inr hempty) hmet
  | ready hfresh => exact absurd (Or.inl hfresh) hmet

/-- Labels of a workflow with a hyphen in its id are told apart. In the small site going live once
more is refused because a call of the request took the node from draft to live. -/
theorem repeats_told_apart_returned :
    (MachineName.Makes "on-air" "on-air_draft" ∧ MachineName.Makes "on-air" "on-air_creation" ∧
      { Transition.small with fromSid := "on-air_draft" }.markerLabel ≠
        { Transition.small with fromSid := "on-air_creation" }.markerLabel) ∧
    ∃ (earlier between : List Call) (origin : Call) (met : Transition),
      [⟨.small, none, .update true .small⟩, ⟨.small, none, .update true back⟩] =
          earlier ++ origin :: between ∧
        origin.Meets (serve ⟨.small, .empty, []⟩ earlier) met ∧
        met.target = ⟨"node", 1⟩ ∧ met.fieldName = "field_state" ∧
        (MachineName.Makes "news" met.fromSid →
          met.fromSid = "news_draft" ∧ met.toSid = "news_live") := by
  have hair : MachineName.Makes "on-air" "on-air_draft" := Or.inl ⟨"Draft", by decide⟩
  have hcreation : MachineName.Makes "on-air" "on-air_creation" := Or.inr rfl
  have hnews : MachineName.Makes "news" "news_draft" := Or.inl ⟨"Draft", by decide⟩
  refine ⟨⟨hair, hcreation, fun hlabel => ?_⟩, ?_⟩
  · obtain ⟨hfrom, -⟩ := ((repeats_told_apart "on-air").2.1
      { Transition.small with fromSid := "on-air_draft" }
      { Transition.small with fromSid := "on-air_creation" } hair hcreation).1 hlabel
    exact absurd hfrom (by decide)
  · obtain ⟨item, verdict, examined, session', label, hanswer, hstatus, hleft⟩ := refused_returned
    obtain ⟨earlier, origin, between, met, hcalls, hmeets, htarget, hfield, hends⟩ :=
      (repeats_told_apart "news").2.2 ⟨.small, .empty, []⟩ session'
        [⟨.small, none, .update true .small⟩, ⟨.small, none, .update true back⟩] .small item true
        .small examined verdict label rfl (by simp) hanswer hstatus (hleft.symm ▸ hnews)
    refine ⟨earlier, between, origin, met, hcalls, hmeets, htarget, hfield, fun hmet => ?_⟩
    obtain ⟨hfrom, hto⟩ := hends hmet
    exact ⟨hfrom.trans hleft, hto⟩

end Session

end ContentWorkflow
