import ContentWorkflow.Proofs.Runs.Following
import ContentWorkflow.Proofs.Runs.Freshness
import ContentWorkflow.Proofs.Runs.Landing
import Mathlib.Data.List.Perm.Subperm

/-!
# Advancing items

Who advances an item asks in a new request which state follows on the current one and submits a
transition there (`Advance.once`). What follows is the current state or one that the agent is
offered, so no step lacks permission, and the states that are entered stand one above the other
(`Rises`). The main theorem, `advance_climbs`, says that however often an item is advanced, no state
is entered twice and the creation state never, so that it is not moved more often than its workflow
has states.
-/

namespace ContentWorkflow

/-! ## Steps -/

/-- A field of an item, with the workflow that moves it. -/
structure Slot where
  workflowId : String
  target : Target
  fieldName : String

namespace Slot

/-- The field is bound to the workflow. -/
def Bound (slot : Slot) (store : Store) : Prop :=
  store.Binds slot.target.entityType slot.fieldName slot.workflowId

/-- The state that the item is in, where it is kept. -/
def sid? (slot : Slot) (store : Store) : Option String :=
  (store.item? slot.target).map fun item =>
    store.currentSid slot.workflowId item slot.fieldName

/-- The id of the creation state of the workflow. -/
def creationSid (slot : Slot) : String :=
  MachineName.creationStateId slot.workflowId

end Slot

/-- How an item is advanced by a step: what is consulted, whether the transition is forced, and what
it is made from. -/
structure Advance where
  platform : Platform
  force : Bool
  draft : Transition

/-- What a step of advancing an item came to. -/
structure Stage where
  step : Advance
  before : Store
  reached : Transition
  after : Store

namespace Advance

/-- The transition of the step that takes the item from the one state to the other. -/
def transition (step : Advance) (slot : Slot) (fromSid toSid : String) : Transition :=
  { step.draft with
    workflowId := slot.workflowId
    target := slot.target
    fieldName := slot.fieldName
    fromSid := fromSid
    toSid := toSid }

/-- The transition of the step has nothing to record but a change of state. -/
def Plain (step : Advance) : Prop :=
  ¬ step.draft.HasComment ∧ step.draft.attached.isEmpty

/-- The step in a new request: the agent of the transition asks for the next state, without force,
and the transition there is submitted. -/
def once (step : Advance) (slot : Slot) (item : Item) : Action Stage := do
  modify fun session => session.within .empty
  let before ← Action.store
  let next ← step.platform.nextSid item slot.fieldName step.draft.agent false
  let (_, reached) ← Action.ofStep (step.platform.update step.force (step.transition slot "" next))
  return ⟨step, before, reached, ← Action.store⟩

end Advance

/-- The item is advanced step by step, as long as it is kept. -/
def Slot.advance (slot : Slot) : List Advance → Action (List Stage)
  | [] => return []
  | step :: steps => do
      match (← Action.store).item? slot.target with
      | none => return []
      | some item =>
          let stage ← step.once slot item
          let stages ← slot.advance steps
          return stage :: stages

namespace Stage

/-- The state that the step took the item to, where it is another one. -/
def entered? (stage : Stage) (slot : Slot) : Option String :=
  (slot.sid? stage.after).filter fun sid => slot.sid? stage.before ≠ some sid

/-- The step left the item other than it was. -/
def ChangesItem (stage : Stage) (slot : Slot) : Prop :=
  stage.after.item? slot.target ≠ stage.before.item? slot.target

instance (stage : Stage) (slot : Slot) : Decidable (stage.ChangesItem slot) :=
  inferInstanceAs (Decidable (_ ≠ _))

/-- What is asked of a step: it is not rejected because the agent lacks permission, it takes the
item to no state but a known one that is not the creation state and is above the state it was in,
unless that is the creation state, and it changes the item only if it moves it, or records more. -/
structure Rises (stage : Stage) (slot : Slot) (states : States) : Prop where
  authorized : ∀ user fromSid toSid,
    stage.reached.status ≠ .rejected (.unauthorized user fromSid toSid)
  created : stage.entered? slot ≠ some slot.creationSid
  known : ∀ sid, stage.entered? slot = some sid → states.Known sid
  ascends : ∀ fromSid toSid, slot.sid? stage.before = some fromSid →
    stage.entered? slot = some toSid → fromSid ≠ slot.creationSid → states.Ascends fromSid toSid
  moved : stage.step.Plain → stage.ChangesItem slot → (stage.entered? slot).isSome

variable {stage : Stage} {slot : Slot} {sid : String}

/-- A state is entered that the item is in after the step and not before it. -/
theorem entered_iff : stage.entered? slot = some sid ↔
    slot.sid? stage.after = some sid ∧ slot.sid? stage.before ≠ some sid := by
  simp [entered?, Option.filter_eq_some_iff]

end Stage

namespace Advance

open ContentWorkflow.Action

variable {step : Advance} {slot : Slot} {item : Item} {session : Session} {current next : String}

/-- The transition of a step leaves the state that the item is in. -/
theorem fill_transition (hcurrent : session.store.currentSid slot.workflowId item slot.fieldName =
      current) :
    session.store.fill item (step.transition slot "" next) =
      step.transition slot current next := by
  rw [Store.fill_of_unnamed rfl, ← hcurrent]
  rfl

/-- A step asks for the next state in a new request and submits the transition there. -/
theorem once_run {middle session' : Session} {sid : String} {reached : Transition}
    (hnext : (step.platform.nextSid item slot.fieldName step.draft.agent false).run
      (session.within .empty) = (.ok next, middle))
    (hanswer : step.platform.update step.force (step.transition slot "" next) middle =
      .ok ((sid, reached), session')) :
    (step.once slot item).run session =
      (.ok ⟨step, session.store, reached, session'.store⟩, session') := by
  have hwithin : (modify fun session => session.within .empty : Action Unit).run session =
      (.ok (), session.within .empty) := rfl
  simp only [once, run_bind, hwithin, run_store, hnext, run_of_step, hanswer]
  rfl

/-- The transition of a step to a state that may follow is permitted, if it changes the state. -/
theorem permits_transition {store : Store} {force : Bool} (hkeys : store.Keyed)
    (hfollows : step.platform.MayFollow store slot.workflowId item step.draft.agent current next)
    (hchanges : current ≠ next) :
    step.platform.permits store item
      ((step.transition slot current next).validated force) = true := by
  obtain rfl | ⟨workflow, hid, hleads, -⟩ := hfollows
  · exact absurd rfl hchanges
  · exact Platform.permits_of_leads (hkeys.single_rules workflow.id) hid.symm hleads

/-- A step that leaves the item where it is or in a state that may follow rises. -/
theorem rises_of_leaves {store store' : Store} {reached : Transition}
    (hconsistent : store.Consistent) (hitem : store.item? slot.target = some item)
    (hcurrent : store.currentSid slot.workflowId item slot.fieldName = current)
    (hfollows : step.platform.MayFollow store slot.workflowId item step.draft.agent current next)
    (hauthorized : ∀ user fromSid toSid,
      reached.status ≠ .rejected (.unauthorized user fromSid toSid))
    (hleaves : Platform.Leaves item (step.transition slot current next) store store') :
    Stage.Rises ⟨step, store, reached, store'⟩ slot (store.statesOf slot.workflowId) := by
  obtain ⟨after, hafter, hcases⟩ := hleaves
  have hbefore : slot.sid? store = some current := by
    rw [Slot.sid?, hitem, ← hcurrent, Option.map_some]
  have hreached : slot.sid? store' =
      some (store'.currentSid slot.workflowId after slot.fieldName) :=
    congrArg (Option.map _) hafter
  -- the only state that the step can enter is the one that follows, where it is another one
  have hentered : ∀ sid, Stage.entered? ⟨step, store, reached, store'⟩ slot = some sid →
      sid = next ∧ next ≠ current := by
    intro sid hsid
    obtain ⟨hnow, hother⟩ := Stage.entered_iff.1 hsid
    cases hreached.symm.trans hnow
    obtain ⟨-, hstays⟩ | ⟨-, hnext⟩ := hcases
    · exact absurd (hbefore.trans (congrArg some (hstays.trans hcurrent).symm)) hother
    · refine ⟨hnext, ?_⟩
      rintro rfl
      exact hother (hbefore.trans (congrArg some hnext.symm))
  constructor
  case authorized => exact hauthorized
  case created =>
      intro hcreation
      obtain ⟨hnext, hother⟩ := hentered _ hcreation
      exact (hfollows.other hconsistent hother).1 hnext.symm
  case known =>
      intro sid hsid
      obtain ⟨rfl, hother⟩ := hentered sid hsid
      exact (hfollows.other hconsistent hother).2.1
  case ascends =>
      intro fromSid toSid hfrom hto
      obtain ⟨rfl, hother⟩ := hentered toSid hto
      obtain rfl := Option.some.inj (hbefore.symm.trans hfrom)
      exact (hfollows.other hconsistent hother).2.2
  case moved =>
      rintro ⟨hcomment, hattached⟩ hchanges
      have hother : after ≠ item := by
        rintro rfl
        exact hchanges (hafter.trans hitem.symm)
      obtain ⟨hsame, -⟩ | ⟨hsame | hnonempty, hnext⟩ := hcases
      · exact absurd hsame hother
      · exact absurd hsame hother
      · -- without a comment there is something to record only if the state changes
        refine Option.isSome_iff_exists.2 ⟨next, Stage.entered_iff.2 ⟨?_, ?_⟩⟩
        · exact hreached.trans (congrArg some hnext)
        · intro hstays
          have hsame : current = next := Option.some.inj (hbefore.symm.trans hstays)
          exact hnonempty ⟨fun hchange => hchange hsame, hcomment, hattached⟩

/-- A step of a consistent store rises and leaves the item and a consistent store behind, in which
states, rules and bindings are as they were. -/
theorem once_rises (step : Advance) (hconsistent : session.store.Consistent)
    (hbound : slot.Bound session.store) (hitem : session.store.item? slot.target = some item) :
    ∃ stage session' after, (step.once slot item).run session = (.ok stage, session') ∧
      stage.step = step ∧ stage.before = session.store ∧ stage.after = session'.store ∧
      stage.Rises slot (session.store.statesOf slot.workflowId) ∧ session'.store.Consistent ∧
      session.store.SameFlow session'.store ∧ session'.store.item? slot.target = some after := by
  obtain ⟨htarget, -⟩ := Store.item_found hitem
  obtain ⟨next, middle, hnext, hkept, hfollows⟩ := @Platform.next_sid_answers item slot.fieldName
    _ (session.within .empty) step.platform step.draft.agent hconsistent slot.workflowId
    (htarget ▸ hbound) rfl rfl
  have hkept : middle.store = session.store := hkept
  obtain ⟨sid, reached, session', hanswer⟩ := Platform.update_answers step.platform step.force
    (step.transition slot "" next) (hkept ▸ hconsistent.keyed)
  have hrun := once_run hnext hanswer
  -- the call of the update that the step makes, which leaves the session of its answer behind
  have hafter := @Call.after_update ⟨step.platform, none, .update step.force
    (step.transition slot "" next)⟩ _ _ middle session' _ rfl hanswer
  have hconsistent' : session'.store.Consistent :=
    hafter ▸ Call.after_consistent (hkept.symm ▸ hconsistent)
  have hflow : session.store.SameFlow session'.store := by
    rw [← hkept, ← hafter]
    exact Call.after_same_flow id
  obtain ⟨hmissing, -⟩ | ⟨found, outcome, hfound, hupdate, -, rfl⟩ :=
    Platform.update_cases hanswer
  · rw [hkept] at hmissing
    cases hitem.symm.trans hmissing
  · rw [hkept] at hfound
    cases hitem.symm.trans hfound
    have hupdated := Platform.update_on_cases hupdate
    rw [fill_transition rfl, hkept] at hupdated
    have hleaves := hupdated.leaves (hkept ▸ hconsistent.keyed) (hkept ▸ hitem)
    have hauthorized : ∀ user fromSid toSid,
        outcome.transition.status ≠ .rejected (.unauthorized user fromSid toSid) := by
      intro user fromSid toSid
      refine hupdated.unauthorized fun hchanges => ?_
      rw [hkept]
      exact permits_transition hconsistent.keyed hfollows hchanges
    rw [hkept] at hleaves
    obtain ⟨after, hkept', -⟩ := id hleaves
    exact ⟨_, session', after, hrun, rfl, rfl, rfl,
      rises_of_leaves hconsistent hitem rfl hfollows hauthorized hleaves, hconsistent', hflow,
      hkept'⟩

end Advance

/-! ## Runs -/

namespace Slot

open ContentWorkflow.Action

/-- The states that the steps took the item to, in their order. -/
def entered (slot : Slot) (stages : List Stage) : List String :=
  stages.filterMap fun stage => stage.entered? slot

variable {slot : Slot} {states : States} {stage : Stage} {stages : List Stage}
  {current now : String} {session : Session} {item : Item}

/-- Of the states that are entered, those of the first step come first. -/
theorem entered_cons :
    slot.entered (stage :: stages) = (stage.entered? slot).toList ++ slot.entered stages := by
  rw [entered, List.filterMap_cons, entered]
  cases stage.entered? slot <;> rfl

/-- Where the states that are entered after a step stand one above the other, and above the one that
the step left the item in, they do so from the step on. -/
theorem entered_ascends (hrises : stage.Rises slot states)
    (hbefore : slot.sid? stage.before = some current) (hafter : slot.sid? stage.after = some now)
    (hrest : (slot.entered stages).Pairwise states.Ascends)
    (habove : now ≠ slot.creationSid → ∀ sid ∈ slot.entered stages, states.Ascends now sid) :
    (slot.entered (stage :: stages)).Pairwise states.Ascends ∧
      (current ≠ slot.creationSid →
        ∀ sid ∈ slot.entered (stage :: stages), states.Ascends current sid) := by
  rw [entered_cons]
  cases hentered : stage.entered? slot with
  | none =>
      -- nothing is entered, so the item is where it was
      obtain rfl : current = now := by
        by_contra hmoved
        have hother : slot.sid? stage.before ≠ some now := by
          rw [hbefore, Option.some_inj.ne]
          exact hmoved
        cases hentered.symm.trans (Stage.entered_iff.2 ⟨hafter, hother⟩)
      exact ⟨hrest, habove⟩
  | some sid =>
      obtain rfl : now = sid :=
        Option.some.inj (hafter.symm.trans (Stage.entered_iff.1 hentered).1)
      have hcreated : now ≠ slot.creationSid := by
        rintro rfl
        exact hrises.created hentered
      refine ⟨List.pairwise_cons.2 ⟨habove hcreated, hrest⟩, fun hleft => ?_⟩
      have hfirst := hrises.ascends current now hbefore hentered hleft
      exact List.forall_mem_cons.2
        ⟨hfirst, fun other hother => hfirst.trans (habove hcreated other hother)⟩

/-- However often an item is advanced, every step rises and the states that are entered stand one
above the other, and above the one that the item was in unless that is the creation state. -/
theorem advance_run (hconsistent : session.store.Consistent) (hbound : slot.Bound session.store)
    (hitem : session.store.item? slot.target = some item) (steps : List Advance) :
    ∃ stages session', (slot.advance steps).run session = (.ok stages, session') ∧
      stages.map (·.step) = steps ∧
      (∀ stage ∈ stages, stage.Rises slot (session.store.statesOf slot.workflowId)) ∧
      (slot.entered stages).Pairwise (session.store.statesOf slot.workflowId).Ascends ∧
      (session.store.currentSid slot.workflowId item slot.fieldName ≠ slot.creationSid →
        ∀ sid ∈ slot.entered stages, (session.store.statesOf slot.workflowId).Ascends
          (session.store.currentSid slot.workflowId item slot.fieldName) sid) := by
  induction steps generalizing session item with
  | nil => exact ⟨[], session, rfl, rfl, by simp, List.Pairwise.nil, by simp [entered]⟩
  | cons step steps ih =>
      obtain ⟨stage, middle, after, hstep, rfl, hbefore, hafter, hrises, hconsistent', hflow,
        hitem'⟩ := step.once_rises hconsistent hbound hitem
      obtain ⟨stages, session', hsteps, hmap, hrest, hsorted, habove⟩ :=
        ih hconsistent' ((Store.binds_congr hflow.bindings).2 hbound) hitem'
      have hstates := Store.states_of_congr hflow.states slot.workflowId
      rw [hstates] at hrest hsorted habove
      refine ⟨stage :: stages, session', ?_, by rw [List.map_cons, hmap],
        List.forall_mem_cons.2 ⟨hrises, hrest⟩, ?_⟩
      · simp only [advance, run_bind, run_store, hitem, hstep, hsteps]
        rfl
      · refine entered_ascends hrises ?_ ?_ hsorted habove
        · rw [hbefore, sid?, hitem, Option.map_some]
        · rw [hafter, sid?, hitem', Option.map_some]

/-- Known states that stand one above the other are not more than there are. -/
theorem length_le_of_ascends {sids : List String} (hsorted : sids.Pairwise states.Ascends)
    (hknown : ∀ sid ∈ sids, states.Known sid) :
    sids.Nodup ∧ sids.length ≤ states.toList.length := by
  have hnodup : sids.Nodup := hsorted.imp States.Ascends.ne
  have hsubset : sids ⊆ states.toList.map (·.id) := by
    intro sid hsid
    obtain ⟨state, hstate, hid⟩ := States.known_iff.1 (hknown sid hsid)
    exact List.mem_map.2 ⟨state, hstate, hid⟩
  refine ⟨hnodup, ?_⟩
  simpa using (hnodup.subperm hsubset).length_le

/-- Steps with nothing to record but a change of state do not change the item more often than states
are entered. -/
theorem changes_le_entered (hrises : ∀ stage ∈ stages, stage.Rises slot states)
    (hplain : ∀ stage ∈ stages, stage.step.Plain) :
    stages.countP (fun stage => stage.ChangesItem slot) ≤ (slot.entered stages).length := by
  rw [entered, List.length_filterMap_eq_countP]
  refine List.countP_mono_left fun stage hstage hchanges => ?_
  exact (hrises stage hstage).moved (hplain stage hstage) (of_decide_eq_true hchanges)

/-- However often a kept item of a reachable store is advanced in its bound field, by whomever and
whatever the site vetoes or does not save, every step gives an answer and rises: it is not rejected
because the agent lacks permission, and it takes the item to no state but one above that it was in,
or from the creation state to another one. So no state is entered twice, and the item is not moved
more often than its workflow has states, nor otherwise changed where the steps record nothing but
changes of state. For an item in the creation state, the next state in a new request is the first
one, or the creation state where there is no first one. -/
theorem advance_climbs (hreach : session.store.Reachable) (hbound : slot.Bound session.store)
    (hitem : session.store.item? slot.target = some item) (steps : List Advance) :
    (∃ stages session', (slot.advance steps).run session = (.ok stages, session') ∧
      stages.map (·.step) = steps ∧
      (∀ stage ∈ stages, stage.Rises slot (session.store.statesOf slot.workflowId)) ∧
      (slot.entered stages).Nodup ∧
      (slot.entered stages).length ≤ (session.store.statesOf slot.workflowId).toList.length ∧
      ((∀ step ∈ steps, step.Plain) → stages.countP (fun stage => stage.ChangesItem slot) ≤
        (session.store.statesOf slot.workflowId).toList.length)) ∧
      ∀ (platform : Platform) (agent : Agent) (force : Bool) (other : Item)
        (context : RequestContext), other.target.entityType = slot.target.entityType →
        session.store.currentSid slot.workflowId other slot.fieldName = slot.creationSid →
        context.choices? ⟨other.target, slot.fieldName, slot.creationSid, agent, force⟩ = none →
        ∃ first session' session'',
          (platform.firstSid other slot.fieldName agent force).run (session.within context) =
              (.ok first, session') ∧
            (platform.nextSid other slot.fieldName agent force).run (session.within context) =
              (.ok (first.getD slot.creationSid), session'') := by
  constructor
  · obtain ⟨stages, session', hrun, hsteps, hrises, hsorted, -⟩ :=
      advance_run hreach.consistent hbound hitem steps
    have hknown : ∀ sid ∈ slot.entered stages,
        (session.store.statesOf slot.workflowId).Known sid := by
      intro sid hsid
      obtain ⟨stage, hstage, hentered⟩ := List.mem_filterMap.1 hsid
      exact (hrises stage hstage).known sid hentered
    obtain ⟨hnodup, hlength⟩ := length_le_of_ascends hsorted hknown
    refine ⟨stages, session', hrun, hsteps, hrises, hnodup, hlength, fun hplain => ?_⟩
    refine Nat.le_trans (changes_le_entered hrises fun stage hstage => ?_) hlength
    exact hplain stage.step (hsteps ▸ List.mem_map_of_mem hstage)
  · intro platform agent force other context hentity hcreation hfresh
    exact @Platform.next_sid_of_creation other slot.fieldName agent force
      (session.within context) platform hreach.consistent slot.workflowId (hentity.symm ▸ hbound)
      hcreation hfresh

end Slot

/-! ## A site on which an item is moved -/

/-- The small site with a rule that its node may stay a draft. -/
def Store.looped : Store :=
  { Store.small with
    rules := Store.small.rules ++ [.of (.between "news" "news_draft" "news_draft")] }

/-- The state of the node of the small site. -/
def Slot.small : Slot :=
  ⟨"news", ⟨"node", 1⟩, "field_state"⟩

/-- An editor of the small site advances its node. -/
def Advance.small : Advance :=
  ⟨.small, false, .small⟩

/-- The rule can be created on the small site. -/
theorem Store.reachable_looped : looped.Reachable := by
  refine Session.reachable_small.with_rule ⟨?_, Or.inr ?_⟩ ?_ ?_
  · exact ⟨.ofLabel "news" "news_draft" "Draft" 1, by decide⟩
  · exact (known_of_small rfl).1
  · rintro ⟨row, hrow, -, hid⟩
    cases List.mem_singleton.1 hrow
    exact absurd hid (by decide +kernel)
  · exact List.forall_mem_singleton.2 (by decide)

namespace Platform

/-- An editor may leave the node a draft or take it live, and may do nothing else with it. -/
theorem offered_looped {toSid : String} :
    (∃ choice ∈ small.choicesOf .looped .small .small (.user 1) "news_draft" false,
      choice.sid = toSid) ↔ toSid = "news_draft" ∨ toSid = "news_live" := by
  have hknown := @Store.known_of_small .looped rfl
  have husable : (Store.looped.statesOf "news").UsableFrom "news_draft" :=
    Store.usable_from_of hknown.1 (by decide)
  rw [offered_iff (by decide)]
  constructor
  · rintro ⟨rule, ⟨-, -, hgoverns⟩, -⟩
    obtain ⟨⟨row, hrow, -, rfl⟩, rfl⟩ := hgoverns.kept
    obtain hrow | hrow := List.mem_append.1 hrow <;> cases List.mem_singleton.1 hrow
    · exact Or.inr rfl
    · exact Or.inl rfl
  · rintro (rfl | rfl)
    · refine ⟨.between "news" "news_draft" "news_draft", ⟨husable, hknown.1, ?_⟩, ?_⟩
      · exact .own ⟨_, List.mem_append_right _ (List.mem_singleton_self _), rfl,
          RuleRow.to_rule_of _⟩ rfl rfl
      · exact Or.inr (Or.inr (Or.inl fun hchanges => hchanges rfl))
    · refine ⟨{ Rule.between "news" "news_draft" "news_live" with
        roles := RoleSet.ofList ["editor"] }, ⟨husable, hknown.2, ?_⟩, ?_⟩
      · exact .own ⟨_, List.mem_append_left _ (List.mem_singleton_self _), rfl,
          RuleRow.to_rule_of _⟩ rfl rfl
      · exact Or.inr (Or.inr (Or.inr ⟨"editor", List.mem_singleton_self _, editor_small⟩))

/-- In a new request, the next state of the node is the live one. -/
theorem next_sid_looped :
    ∃ middle, (small.nextSid .small "field_state" (.user 1) false).run ⟨.looped, .empty, []⟩ =
      (.ok "news_live", middle) ∧ middle.store = .looped ∧ middle.context.markers = [] := by
  have hkeys := Store.reachable_looped.keyed
  have hsorted := @choices_ascend small .looped .small .small "news_draft" (.user 1) false hkeys
    (by decide)
  have hoffered : ∀ {toSid}, _ ↔ _ := @offered_looped
  have hrun := @next_sid_run small .small .small "field_state" "news_draft" (.user 1) false
    ⟨.looped, .empty, []⟩ bound_small (by decide) rfl
  dsimp only at hrun
  generalize small.choicesOf .looped .small .small (.user 1) "news_draft" false = choices at *
  obtain ⟨live, hlive, hid⟩ := (@hoffered "news_live").2 (Or.inr rfl)
  have habove : (Store.looped.statesOf "news").Ascends "news_draft" live.sid := by
    have hlow := @Store.Keyed.state_found _ hkeys (.ofLabel "news" "news_draft" "Draft" 1)
      (by decide)
    have hhigh := @Store.Keyed.state_found _ hkeys (.ofLabel "news" "news_live" "Live" 2)
      (by decide)
    rw [hid]
    exact ⟨_, hlow, _, hhigh, Or.inl (by decide)⟩
  obtain ⟨choice, hfollowing⟩ :=
    following_some hsorted (hoffered.2 (Or.inl rfl)) ⟨live, hlive, habove⟩
  -- what follows is offered and is not the draft state, so it is the live one
  have hother := (following_ascends hsorted hfollowing).ne
  have hnext := (hoffered.1 ⟨choice, following_mem hfollowing, rfl⟩).resolve_left hother.symm
  rw [decide_eq_false (by decide), followingSid, hfollowing, Option.map_some, Option.getD_some,
    hnext] at hrun
  exact ⟨_, hrun, rfl, rfl⟩

/-- An editor takes the node live, which may stay a draft. -/
theorem admitted_looped {session : Session} (hstore : session.store = .looped)
    (hmarkers : session.context.markers = []) :
    small.Admitted session .small false (session.store.fill .small .small) := by
  have hknown := @Store.known_of_small session.store (by rw [hstore]; rfl)
  have hfill : session.store.fill .small .small =
      { Transition.small with fromSid := "news_draft" } := Store.fill_of_field rfl (by decide)
  rw [hfill]
  refine ⟨?_, ⟨_, by rw [hstore]; rfl, rfl⟩⟩
  constructor
  case named => decide
  case known => exact hknown.2
  case current => exact (Store.current_sid_of_field (by decide) _).symm
  case from_known => exact hknown.1
  case fresh => rw [RequestContext.marker?, hmarkers]; rfl
  case nonempty => decide
  case unvetoed => exact fun _ => rfl
  case authorized =>
      intro hchanges
      have hleads := (offered_iff (by decide)).1 ((@offered_looped "news_live").2 (Or.inr rfl))
      rw [Bool.false_or] at hleads
      rw [hstore]
      exact authorized_of_permits hchanges (by decide)
        (permits_of_leads (Store.reachable_looped.keyed.single_rules "news") rfl hleads)

end Platform

/-- Where the node of the small site may stay a draft, an editor who advances it once takes it live,
which is the only change of the node. -/
theorem Slot.advance_climbs_looped :
    Store.looped.Reachable ∧ Slot.small.Bound .looped ∧
      Store.looped.item? ⟨"node", 1⟩ = some .small ∧
      ∃ stages session', (Slot.small.advance [.small]).run ⟨.looped, .empty, []⟩ =
          (.ok stages, session') ∧
        Slot.small.entered stages = ["news_live"] ∧
        stages.countP (fun stage => stage.ChangesItem .small) ≤
          (Store.looped.statesOf "news").toList.length := by
  have hbound : Slot.small.Bound .looped := List.mem_singleton_self _
  obtain ⟨⟨stages, session', hrun, -, -, -, -, hcount⟩, -⟩ := @advance_climbs .small
    ⟨.looped, .empty, []⟩ .small Store.reachable_looped hbound rfl [.small]
  have hplain : ∀ step ∈ [Advance.small], step.Plain :=
    List.forall_mem_singleton.2 ⟨by decide, rfl⟩
  refine ⟨Store.reachable_looped, hbound, rfl, stages, session', hrun, ?_, hcount hplain⟩
  obtain ⟨middle, hnext, hstore, hmarkers⟩ := Platform.next_sid_looped
  obtain ⟨reached, updated, hanswer, -, harrived⟩ :=
    @Platform.update_of_admitted .small .small false .small middle
      (hstore ▸ Store.reachable_looped.keyed) (by rw [hstore]; rfl) rfl rfl
      (Platform.admitted_looped hstore hmarkers)
  have hstep := @Advance.once_run .small .small .small ⟨.looped, .empty, []⟩ "news_live" middle
    updated "news_live" reached hnext hanswer
  have hitem : Store.looped.item? Slot.small.target = some .small := rfl
  have hadvance : (Slot.small.advance [.small]).run ⟨.looped, .empty, []⟩ =
      (.ok [⟨.small, .looped, reached, updated.store⟩], updated) := by
    simp only [advance, Action.run_bind, Action.run_store, hitem, hstep]
    rfl
  cases hadvance.symm.trans hrun
  -- the node was a draft before the step and is live after it
  obtain ⟨stored, hstored, hfield, -⟩ := harrived.field
  have hentered : Stage.entered? ⟨.small, .looped, reached, session'.store⟩ .small =
      some "news_live" := by
    have hdraft : Slot.small.sid? .looped ≠ some "news_live" := by decide
    refine Stage.entered_iff.2 ⟨?_, hdraft⟩
    have hlive := @Store.current_sid_of_field session'.store _ _ _ hfield "news"
    exact (congrArg (Option.map _) hstored).trans (congrArg some hlive)
  rw [entered_cons, hentered]
  rfl

end ContentWorkflow
