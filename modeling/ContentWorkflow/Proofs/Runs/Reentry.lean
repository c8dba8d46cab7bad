import ContentWorkflow.Proofs.Administration.Reassignment
import ContentWorkflow.Proofs.Engine.Choices
import ContentWorkflow.Proofs.Runs.Authorization
import ContentWorkflow.Proofs.Runs.Waiting

/-!
# Ways back into a state that was deactivated

Once a state is deactivated no rule of its workflow leads to it. In an ordinary run, of sweeps and
of updates that are not forced, that bars it to every update that changes the state (`Barred`), but
not to what was pending: a sweep executes by force, and looks only at the state that the item is in.
The main theorem, `deactivated_state_reentered`, says that there is only one other way back, which
is open where the field of an item is unset and its history leaves the item in the state
(`Reenters`).
-/

namespace ContentWorkflow

/-- The call is a sweep, or an update that is not forced, by an agent who may not pass over the
rules of the workflow. -/
def Call.Ordinary (call : Call) (workflowId : String) : Prop :=
  match call.operation with
  | .sweep _ => True
  | .update force transition => force = false ∧ transition.forced = false ∧
      call.platform.mayBypass transition.agent workflowId = false
  | _ => False

/-- The state of the workflow is known and none of its rules leads there. What is pending for the
state is among the rows, or stays in it. -/
structure Store.Barred (store : Store) (rows : List PendingRow) (workflowId sid : String) :
    Prop where
  known : (store.statesOf workflowId).Known sid
  rules : ∀ row ∈ store.rules, row.workflowId = workflowId → row.toSid ≠ sid
  pending : ∀ row ∈ store.pending, row.toSid = sid →
    row ∈ rows ∨ row.workflowId = workflowId ∧ row.fromSid = sid

/-- How the call brings the field to the state: it takes up one of the rows, which is pending for
the field and due and leaves the state that the item is in, or the field is unset and the item is in
the state already. -/
inductive Call.Reenters (call : Call) (store : Store) (rows : List PendingRow) (target : Target)
    (fieldName workflowId sid : String) : Prop where
  | pending {now : Int} {row : PendingRow} {item : Item} (hop : call.operation = .sweep now)
      (hlisted : row ∈ rows) (hrow : row ∈ store.pending) (hdue : row.timestamp ≤ now)
      (hfield : row.IsFor target fieldName) (hto : row.toSid = sid)
      (hfollows : store.Follows row.toTransition item)
  | resting {item : Item} (hitem : store.item? target = some item)
      (hunset : item.fieldValue? fieldName = none)
      (hcurrent : store.currentSid workflowId item fieldName = sid)

namespace Store

variable {store store' : Store} {rows : List PendingRow} {workflowId sid : String}
  {platform : Platform} {item : Item} {workflow : Workflow} {transition : Transition}

/-- A state stays barred where states and rules are as they were and what is new among the pending
transitions stays in the state. -/
theorem Barred.of_same (hbarred : store.Barred rows workflowId sid)
    (hstates : store'.states = store.states) (hrules : store'.rules = store.rules)
    (hpending : ∀ row ∈ store'.pending, row ∈ store.pending ∨
      (row.toSid = sid → row.workflowId = workflowId ∧ row.fromSid = sid)) :
    store'.Barred rows workflowId sid := by
  constructor
  · rw [states_of_congr hstates]
    exact hbarred.known
  · rw [hrules]
    exact hbarred.rules
  · intro row hrow hto
    obtain hkept | hstays := hpending row hrow
    · exact hbarred.pending row hkept hto
    · exact Or.inr (hstays hto)

/-- A transition to a barred state that is ready without force stays in the state. -/
theorem Barred.stays (hkeys : store.Keyed) (hnamed : store.Named)
    (hbarred : store.Barred rows workflowId sid) (hforced : transition.forced = false)
    (hbypass : platform.mayBypass transition.agent workflowId = false)
    (hto : transition.toSid = sid)
    (hready : platform.Ready store item workflow (transition.validated false)) :
    transition.workflowId = workflowId ∧ transition.fromSid = sid := by
  have hworkflow : transition.workflowId = workflowId :=
    hkeys.known_unique hbarred.known (hto ▸ hready.known.2)
  refine ⟨hworkflow, not_not.1 fun hchanges => ?_⟩
  -- a change of state would need a rule to the state, and none is left
  cases hready.authorized hnamed fun hsame => hchanges (hsame.trans hto) with
  | forced h => simp [hforced] at h
  | bypass h => simp [hworkflow, hbypass] at h
  | role rule _ hgoverns _ =>
      obtain ⟨⟨row, hrow, hown, rfl⟩, hreach⟩ := hgoverns.kept
      exact hbarred.rules row hrow (hown.trans hworkflow) (hreach.trans hto)

/-- A field that does not hold the state which its item is in is unset. -/
theorem Follows.unset (hfollows : store.Follows transition item)
    (hother : store.fieldValue? transition.target transition.fieldName ≠ some transition.fromSid) :
    item.fieldValue? transition.fieldName = none := by
  cases hheld : item.fieldValue? transition.fieldName with
  | none => rfl
  | some held =>
      refine absurd ?_ hother
      rw [hfollows.current, current_sid_of_field hheld, fieldValue?, hfollows.kept]
      exact hheld

end Store

/-! ## Updates -/

namespace Platform

variable {platform : Platform} {item : Item} {force moving : Bool} {transition : Transition}
  {session session' : Session} {outcome : Outcome} {rows : List PendingRow}
  {target : Target} {fieldName workflowId sid : String}

/-- A course without force leaves a state barred. -/
theorem Course.barred (hkeys : session.store.Keyed) (hnamed : session.store.Named)
    (hbarred : session.store.Barred rows workflowId sid) (hforced : transition.forced = false)
    (hbypass : platform.mayBypass transition.agent workflowId = false)
    (h : platform.Course item false transition session moving outcome session') :
    session'.store.Barred rows workflowId sid := by
  obtain ⟨hstates, hrules, -⟩ := h.frame
  refine hbarred.of_same hstates hrules fun row hrow => (h.pending_added hrow).imp_right ?_
  rintro ⟨-, hchange, workflow, hready⟩ hto
  obtain ⟨hworkflow, -, -, hfrom, hreached⟩ := HistoryRecord.change_fields hchange
  have hstays := hbarred.stays hkeys hnamed hforced hbypass (hreached.symm.trans hto) hready
  exact ⟨hworkflow.trans hstays.1, hfrom.trans hstays.2⟩

/-- An update without force leaves a state barred. -/
theorem Updated.barred (hkeys : session.store.Keyed) (hnamed : session.store.Named)
    (hbarred : session.store.Barred rows workflowId sid) (hforced : transition.forced = false)
    (hbypass : platform.mayBypass transition.agent workflowId = false)
    (h : platform.Updated item false transition session outcome session') :
    session'.store.Barred rows workflowId sid := by
  cases h with
  | unreachable _ hstore => exact hstore ▸ hbarred
  | drifted _ _ _ _ hstore => exact hstore ▸ hbarred
  | carried _ _ _ hcourse => exact hcourse.barred hkeys hnamed hbarred hforced hbypass

/-- A field that an update brought to a state is the field of its transition, which was ready and
reached the state from the one that the item was in. -/
theorem Updated.reaches (hitem : session.store.item? transition.target = some item)
    (h : platform.Updated item force transition session outcome session')
    (hbefore : session.store.fieldValue? target fieldName ≠ some sid)
    (hheld : session'.store.fieldValue? target fieldName = some sid) :
    (transition.target = target ∧ transition.fieldName = fieldName) ∧ transition.toSid = sid ∧
      session.store.Follows transition item ∧
      ∃ workflow, platform.Ready session.store item workflow (transition.validated force) := by
  have hmoved : session'.store.items ≠ session.store.items := by
    intro hitems
    rw [Store.field_value_congr hitems] at hheld
    exact hbefore hheld
  cases h with
  | unreachable _ hstore => exact absurd (by rw [hstore]) hmoved
  | drifted _ _ _ _ hstore => exact absurd (by rw [hstore]) hmoved
  | carried hnamed _ hstays hcourse =>
      generalize hmoving : (!transition.scheduled && !transition.executed) = moving at hcourse
      cases hcourse with
      | repeated _ _ hstore => exact absurd (by rw [hstore]) hmoved
      | objected _ _ hstore => exact absurd (by rw [hstore]) hmoved
      | empty _ hstore => exact absurd (by rw [hstore]) hmoved
      | unsaved _ _ _ hstore => exact absurd (by rw [hstore]) hmoved
      | scheduled _ _ _ hstore => exact absurd (by rw [hstore]; rfl) hmoved
      | recorded _ _ _ hstore => exact absurd (by rw [hstore, Store.enter_items]) hmoved
      | moved hfresh hready _ hstore hcontext =>
          have hexecuted : transition.executed = false := by simp_all
          have hcurrent : transition.fromSid =
              session.store.currentSid transition.workflowId item transition.fieldName := by
            simpa [hexecuted, hfresh] using hstays
          have harrived := arrived_of_moved hitem hnamed hready hstore hcontext
          have hown : (target, fieldName) = (transition.target, transition.fieldName) :=
            not_not.1 fun hother =>
              hbefore ((harrived.field_value_of_ne hitem hother).symm.trans hheld)
          obtain ⟨rfl, rfl⟩ := Prod.mk.inj hown
          exact ⟨⟨rfl, rfl⟩, Option.some.inj (harrived.field_value.symm.trans hheld),
            ⟨hitem, hcurrent⟩, _, hready⟩

/-! ## Sweeps -/

variable {fate : Fate} {due : List Transition} {fates : List Fate}

/-- Taking up a transition leaves a state barred. -/
theorem TakenUp.barred (hbarred : session.store.Barred rows workflowId sid)
    (h : platform.TakenUp transition session fate session') :
    session'.store.Barred rows workflowId sid := by
  cases h with
  | discarded _ hstore => exact hstore ▸ hbarred
  | rejected _ _ hstore => exact hstore ▸ hbarred
  | executed _ _ _ hstore harrived =>
      refine hbarred.of_same harrived.states harrived.rules fun row hrow => Or.inl ?_
      rw [hstore] at hrow
      have hkept := Store.enter_pending_sublist.subset hrow
      exact hkept

/-- What is left of every other field when a transition was taken up was there before. -/
theorem TakenUp.spares_back (h : platform.TakenUp transition session fate session')
    (hother : ¬ (transition.target = target ∧ transition.fieldName = fieldName)) :
    session'.store.Spares session.store target fieldName := by
  cases h with
  | discarded _ hstore => exact hstore ▸ .of_same rfl rfl
  | rejected _ _ hstore => exact hstore ▸ .of_same rfl rfl
  | executed hfollows _ _ _ harrived => exact harrived.spares_back hfollows.kept hother

/-- A field that is brought to a state when its transition is taken up is in the state that the
transition reaches. -/
theorem TakenUp.reaches (h : platform.TakenUp transition session fate session')
    (hbefore : session.store.fieldValue? transition.target transition.fieldName ≠ some sid)
    (hheld : session'.store.fieldValue? transition.target transition.fieldName = some sid) :
    transition.toSid = sid ∧ ∃ item, session.store.Follows transition item := by
  cases h with
  | discarded _ hstore => exact absurd (hstore ▸ hheld) hbefore
  | rejected _ _ hstore => exact absurd (hstore ▸ hheld) hbefore
  | executed hfollows _ _ _ harrived =>
      exact ⟨Option.some.inj (harrived.field_value.symm.trans hheld), _, hfollows⟩

/-- A sweep leaves a state barred. -/
theorem Swept.barred (hbarred : session.store.Barred rows workflowId sid)
    (h : platform.Swept session due fates session') :
    session'.store.Barred rows workflowId sid := by
  induction h with
  | done => exact hbarred
  | @next _ middle _ transition _ _ _ htaken _ ih =>
      refine ih ((htaken.barred hbarred).of_same rfl rfl fun row hrow => Or.inl ?_)
      exact (List.mem_filter.1 hrow).1

/-- A field that a sweep brought to a state is the field of a transition to the state, which left
the state that the item was in when the sweep began. -/
theorem Swept.reaches
    (hfields : (due.map fun transition => (transition.target, transition.fieldName)).Nodup)
    (h : platform.Swept session due fates session')
    (hbefore : session.store.fieldValue? target fieldName ≠ some sid)
    (hheld : session'.store.fieldValue? target fieldName = some sid) :
    ∃ transition ∈ due, ∃ item,
      (transition.target = target ∧ transition.fieldName = fieldName) ∧
        transition.toSid = sid ∧ session.store.Follows transition item := by
  induction h with
  | done => exact absurd hheld hbefore
  | @next session middle _ transition rest _ _ htaken _ ih =>
      rw [List.map_cons, List.nodup_cons] at hfields
      by_cases hown : transition.target = target ∧ transition.fieldName = fieldName
      · obtain ⟨rfl, rfl⟩ := hown
        by_cases hmiddle :
            middle.store.fieldValue? transition.target transition.fieldName = some sid
        · obtain ⟨hto, item, hfollows⟩ := htaken.reaches hbefore hmiddle
          exact ⟨transition, List.mem_cons_self, item, ⟨rfl, rfl⟩, hto, hfollows⟩
        · -- no other transition that is due is for the field
          obtain ⟨other, hother, -, ⟨htarget, hfield⟩, -⟩ := ih hfields.2 hmiddle hheld
          exact absurd (List.mem_map.2 ⟨other, hother, Prod.ext htarget hfield⟩) hfields.1
      · have hdropped : (middle.dismiss transition.id).store.Spares middle.store target fieldName :=
          .of_same rfl rfl
        have hback := hdropped.trans (htaken.spares_back hown)
        obtain ⟨other, hother, item, ⟨rfl, rfl⟩, hto, hfollows⟩ :=
          ih hfields.2 (fun hmiddle => hbefore (hback.field_value hmiddle)) hheld
        obtain ⟨found, hfound⟩ := hback.follows hfollows
        exact ⟨other, List.mem_cons_of_mem transition hother, found, ⟨rfl, rfl⟩, hto, hfound⟩

end Platform

/-! ## Ordinary runs -/

namespace Call

variable {call : Call} {session : Session} {rows : List PendingRow} {target : Target}
  {fieldName workflowId sid : String}

/-- What an ordinary call does: nothing to the store, an update without force of a kept item, or a
sweep of what is due. -/
theorem after_ordinary (hkeys : session.store.Keyed) (hordinary : call.Ordinary workflowId) :
    (call.after session).store = session.store ∨
      (∃ started item transition outcome, started.store = session.store ∧
        started.store.item? transition.target = some item ∧ transition.forced = false ∧
        call.platform.mayBypass transition.agent workflowId = false ∧
        call.platform.Updated item false transition started outcome (call.after session)) ∨
      ∃ started now fates swept, started.store = session.store ∧ call.operation = .sweep now ∧
        call.platform.Swept started (session.store.due now) fates swept ∧
        (call.after session).store = swept.store := by
  rw [Ordinary] at hordinary
  split at hordinary
  · next now hop =>
      obtain ⟨fates, started, swept, session', hrun, hstarted, -, hswept, hstore, -⟩ :=
        @Platform.sweep_answers (call.before session) call.platform now hkeys
      refine Or.inr (Or.inr ⟨started, now, fates, swept, hstarted, hop, hswept, ?_⟩)
      rw [after_sweep hop hrun, hstore]
  · next force transition hop =>
      obtain ⟨rfl, hforced, hbypass⟩ := hordinary
      obtain ⟨sid, reached, session', hanswer⟩ :=
        @Platform.update_answers (call.before session) call.platform false transition hkeys
      rw [after_update hop hanswer]
      obtain ⟨-, hstore, -⟩ | ⟨item, outcome, hitem, hupdate, -, -⟩ :=
        Platform.update_cases hanswer
      · exact Or.inl hstore
      · refine Or.inr (Or.inl ⟨call.before session, item, session.store.fill item transition,
          outcome, rfl, ?_, ?_, ?_, Platform.update_on_cases hupdate⟩)
        · rw [Store.fill_target]
          exact hitem
        · rw [Store.fill_forced, hforced]
        · rw [Store.fill_agent, hbypass]
  · exact hordinary.elim

/-- An ordinary call leaves a state barred. -/
theorem after_barred (hkeys : session.store.Keyed) (hnamed : session.store.Named)
    (hordinary : call.Ordinary workflowId)
    (hbarred : session.store.Barred rows workflowId sid) :
    (call.after session).store.Barred rows workflowId sid := by
  obtain hstore | ⟨started, item, transition, outcome, hstarted, -, hforced, hbypass, hupdated⟩ |
      ⟨started, now, fates, swept, hstarted, -, hswept, hstore⟩ := after_ordinary hkeys hordinary
  · exact hstore ▸ hbarred
  · rw [← hstarted] at hkeys hnamed hbarred
    exact hupdated.barred hkeys hnamed hbarred hforced hbypass
  · exact hstore ▸ hswept.barred (hstarted ▸ hbarred)

/-- An ordinary call that brings a field to a barred state does so in one of the ways back. -/
theorem after_reenters (hkeys : session.store.Keyed) (hnamed : session.store.Named)
    (hsingle : session.store.SinglePending) (hordinary : call.Ordinary workflowId)
    (hbarred : session.store.Barred rows workflowId sid)
    (hbefore : session.store.fieldValue? target fieldName ≠ some sid)
    (hheld : (call.after session).store.fieldValue? target fieldName = some sid) :
    call.Reenters session.store rows target fieldName workflowId sid := by
  -- a transition that leaves the state in order to reach it finds the field unset
  have hresting : ∀ {item transition}, session.store.Follows transition item →
      transition.target = target → transition.fieldName = fieldName →
      transition.workflowId = workflowId → transition.fromSid = sid →
      call.Reenters session.store rows target fieldName workflowId sid := by
    rintro item transition hfollows rfl rfl rfl rfl
    exact .resting hfollows.kept (hfollows.unset hbefore) hfollows.current.symm
  obtain hstore |
      ⟨started, item, transition, outcome, hstarted, hitem, hforced, hbypass, hupdated⟩ |
      ⟨started, now, fates, swept, hstarted, hop, hswept, hstore⟩ := after_ordinary hkeys hordinary
  · exact absurd (hstore ▸ hheld) hbefore
  · rw [← hstarted] at hkeys hnamed hbarred hbefore hresting ⊢
    obtain ⟨⟨htarget, hfield⟩, hto, hfollows, workflow, hready⟩ :=
      hupdated.reaches hitem hbefore hheld
    obtain ⟨hworkflow, hfrom⟩ := hbarred.stays hkeys hnamed hforced hbypass hto hready
    exact hresting hfollows htarget hfield hworkflow hfrom
  · rw [hstore] at hheld
    obtain ⟨transition, hdue, item, hown, hto, hfollows⟩ :=
      hswept.reaches (hsingle.nodup_due now) (hstarted ▸ hbefore) hheld
    rw [hstarted] at hfollows
    obtain ⟨row, hrow, htime, rfl⟩ := Store.mem_due.1 hdue
    obtain hlisted | ⟨hworkflow, hfrom⟩ := hbarred.pending row hrow hto
    · exact .pending hop hlisted hrow htime hown hto hfollows
    · exact hresting hfollows hown.1 hown.2 hworkflow hfrom

/-- No call but a purge loses a state. -/
theorem after_known (hpurge : ∀ workflow sid, call.operation ≠ .purgeState workflow sid)
    (hknown : (session.store.statesOf workflowId).Known sid) :
    ((call.after session).store.statesOf workflowId).Known sid := by
  refine after_effects
    (motive := fun reached => (reached.store.statesOf workflowId).Known sid) hknown ?_
  intro first second heffect hknown
  have hsame : second.store.states = first.store.states →
      (second.store.statesOf workflowId).Known sid :=
    fun hstates => (Store.states_of_congr hstates workflowId).symm ▸ hknown
  cases heffect with
  | managed h =>
      rcases h.store with hstore | hmanaged
      · exact hsame (by rw [hstore])
      · exact hmanaged.known hknown
  | purged hop => exact absurd hop (hpurge _ _)
  | saved _ _ hstore => exact hsame (by rw [hstore]; rfl)
  | dismissed _ hstore => exact hsame (by rw [hstore]; rfl)
  | engaged _ _ _ _ _ hcourse => exact hsame hcourse.frame.1
  | scheduled _ hstore => exact hsame (by rw [hstore]; rfl)

end Call

namespace Session

variable {session : Session} {calls : List Call} {rows : List PendingRow} {workflowId sid : String}

/-- An ordinary run leaves a state barred. -/
theorem serve_barred (hkeys : session.store.Keyed) (hnamed : session.store.Named)
    (hordinary : ∀ call ∈ calls, call.Ordinary workflowId)
    (hbarred : session.store.Barred rows workflowId sid) :
    (session.serve calls).store.Barred rows workflowId sid := by
  induction calls generalizing session with
  | nil => exact hbarred
  | cons call calls ih =>
      rw [List.forall_mem_cons] at hordinary
      exact ih (serve_keyed hkeys [call]) (serve_named hnamed [call]) hordinary.2
        (Call.after_barred hkeys hnamed hordinary.1 hbarred)

end Session

namespace Workflow

variable {workflow : Workflow} {platform : Platform} {sid : String} {reassignTo : Option String}
  {agent : Agent} {moved : Nat} {session retired : Session}

/-- A state that was deactivated is barred, but to what is pending. -/
theorem deactivate_state_barred
    (hrun : (workflow.deactivateState platform sid reassignTo agent).run session =
      (.ok moved, retired)) :
    retired.store.Barred retired.store.pending workflow.id sid := by
  obtain ⟨state, -, hstate, -⟩ := deactivate_state_split hrun
  have hafter :
      Call.after ⟨platform, none, .deactivateState workflow sid reassignTo agent⟩ session =
        retired := Call.after_deactivation rfl hrun
  constructor
  · rw [← hafter]
    exact Call.after_known (by simp) (Option.isSome_iff_exists.2 ⟨state, hstate⟩)
  · intro row hrow hown hto
    exact deactivate_state_untouched hrun row hrow hown (Or.inr hto)
  · exact fun row hrow _ => Or.inl hrow

end Workflow

/-! ## The small site -/

/-- The small site with a second bound field, which its node has not set, and with the transition
pending that takes the node live. -/
def Store.lingering : Store :=
  { Store.small with
    bindings := [⟨"node", "field_state", "news"⟩, ⟨"node", "field_review", "news"⟩]
    pending := [.of 1 { Transition.small with fromSid := "news_draft" }]
    lastTid := 1 }

/-- What stays of the site when its live state is deactivated. -/
structure Store.Lingers (store : Store) : Prop where
  keyed : store.Keyed
  draft_known : (store.statesOf "news").Known "news_draft"
  live_known : (store.statesOf "news").Known "news_live"
  values : ∀ target fieldName,
    store.fieldValue? target fieldName = Store.lingering.fieldValue? target fieldName
  history : store.history = []
  pending : store.pending = Store.lingering.pending
  bindings : store.bindings = Store.lingering.bindings

namespace Session

/-- Some calls on a new site leave the site behind. -/
theorem reachable_lingering : Store.lingering.Reachable := by
  obtain ⟨⟨_, context, log⟩, rfl, hbound⟩ :=
    reachable_small.after ⟨.small, none, .bindField "node" "field_review" "news"⟩
  obtain ⟨⟨_, context', log'⟩, rfl, hscheduled⟩ :=
    hbound.after ⟨.small, none, .schedule { Transition.small with fromSid := "news_draft" }⟩
  exact hscheduled

/-- Nothing on the site is live. -/
theorem lingering_not_live (target : Target) (fieldName : String) :
    Store.lingering.fieldValue? target fieldName ≠ some "news_live" := by
  intro hheld
  obtain ⟨row, hrow, -, hvalue⟩ :=
    (reachable_lingering.keyed.field_value_iff (by decide)).1 hheld
  obtain rfl := List.mem_singleton.1 hrow
  by_cases hfield : fieldName = "field_state" <;>
    simp [Dictionary.ofList, hfield] at hvalue

/-- The live state of the site is deactivated in favour of the draft state, and nothing moves. -/
theorem lingering_deactivated :
    ∃ retired, (Workflow.small.deactivateState .small "news_live" (some "news_draft")
        .anonymous).run ⟨.lingering, .empty, []⟩ = (.ok 0, retired) ∧ retired.store.Lingers := by
  have hknown := @Store.known_of_small .lingering rfl
  obtain ⟨fields, retired, hrun, -, hmem, hvacated⟩ :=
    @Workflow.deactivate_state_moves .small .small (.ofLabel "news" "news_live" "Live" 2)
      (.ofLabel "news" "news_draft" "Draft" 1) ⟨.lingering, .empty, []⟩ .anonymous
      reachable_lingering.keyed rfl (by decide) (by decide) rfl rfl rfl rfl rfl
      { from_known := hknown.2
        to_known := hknown.1
        from_named := by decide
        to_named := by decide
        distinct := by decide
        unvetoed := fun _ _ => rfl
        saving := fun _ _ => rfl }
  obtain rfl : fields = [] := by
    refine List.eq_nil_iff_forall_not_mem.2 ?_
    rintro ⟨item, fieldName⟩ hmoved
    exact lingering_not_live item fieldName ((hmem item fieldName).1 hmoved).2
  obtain ⟨hvalues, hhistory, hpending⟩ := hvacated.of_nil
  have hafter : Call.after ⟨.small, none, .deactivateState .small "news_live" (some "news_draft")
      .anonymous⟩ ⟨.lingering, .empty, []⟩ = retired := Call.after_deactivation rfl hrun
  refine ⟨retired, hrun, ?_, ?_, ?_, hvalues, hhistory, hpending, hvacated.bindings⟩
  · rw [← hafter]
    exact serve_keyed reachable_lingering.keyed [_]
  · rw [← hafter]
    exact Call.after_known (by simp) hknown.1
  · rw [← hafter]
    exact Call.after_known (by simp) hknown.2

end Session

/-- The node is kept in draft by the one field, and has not set the other. -/
theorem Store.Lingers.node {store : Store} (h : store.Lingers) :
    ∃ item, store.item? ⟨"node", 1⟩ = some item ∧
      item.fieldValue? "field_state" = some "news_draft" ∧
      item.fieldValue? "field_review" = none := by
  have hreview := h.values ⟨"node", 1⟩ "field_review"
  obtain ⟨item, hitem, hvalue⟩ :=
    Option.bind_eq_some_iff.1 ((h.values ⟨"node", 1⟩ "field_state").trans
      (show _ = some "news_draft" by decide))
  refine ⟨item, hitem, hvalue, ?_⟩
  rw [Store.fieldValue?, hitem] at hreview
  exact hreview.trans (by decide)

namespace Session

variable {retired : Session}

/-- The call that sweeps what is due on the small site. -/
def sweeping : Call :=
  ⟨.small, some .empty, .sweep 10⟩

/-- The sweep takes the node live, as it was planned before the state was deactivated. -/
theorem lingering_swept (h : retired.store.Lingers) :
    (retired.serve [sweeping]).store.fieldValue? ⟨"node", 1⟩ "field_state" =
      some "news_live" := by
  obtain ⟨fates, started, swept, session', hsweep, hstarted, hfresh, hswept, hstore, -⟩ :=
    @Platform.sweep_answers (sweeping.before retired) .small 10 h.keyed
  have hafter : retired.serve [sweeping] = session' := Call.after_sweep rfl hsweep
  have hsingle : retired.store.SinglePending := by
    rw [Store.SinglePending, h.pending]
    decide
  have hwaits : ∀ transition ∈ retired.store.due 10, started.store.Waits transition := by
    intro transition hdue
    obtain ⟨row, hrow, -, rfl⟩ := Store.mem_due.1 hdue
    rw [h.pending] at hrow
    obtain rfl := List.mem_singleton.1 hrow
    obtain ⟨item, hitem, hvalue, -⟩ := h.node
    rw [hstarted]
    exact ⟨⟨item, hitem, (Store.current_sid_of_field hvalue _).symm⟩, by decide, h.draft_known,
      h.live_known⟩
  obtain ⟨-, -, hreached⟩ := hswept.of_waits rfl (fun _ _ => rfl) (hstarted ▸ h.keyed) hwaits
    (hsingle.nodup_due 10) fun _ _ => by rw [hfresh]; rfl
  have hrow : .of 1 { Transition.small with fromSid := "news_draft" } ∈ retired.store.pending := by
    rw [h.pending]
    exact List.mem_singleton_self _
  rw [hafter, hstore]
  exact hreached _ (Store.mem_due.2 ⟨_, hrow, by decide, rfl⟩)

/-- A note that the node stays live by the field that it has not set, as if it was so. -/
def noted : Transition :=
  { Transition.small with
    fieldName := "field_review"
    fromSid := "news_live"
    comment := some "Seen."
    executed := true }

/-- The call that enters the note into the history. -/
def noting : Call :=
  ⟨.small, some .empty, .update false noted⟩

/-- The transition that leaves the field in the state that the history says. -/
def settled : Transition :=
  { Transition.small with fieldName := "field_review", comment := some "Seen." }

/-- The call that makes it. -/
def settling : Call :=
  ⟨.small, some .empty, .update false settled⟩

/-- The note is recorded although the state was deactivated. -/
theorem lingering_noted (h : retired.store.Lingers) :
    (noting.after retired).store =
      retired.store.enter (Hooks.none.executed (noted.validated false)) := by
  obtain ⟨item, hitem, -⟩ := h.node
  obtain ⟨workflow, hworkflow⟩ := h.keyed.workflow_of_known h.live_known
  obtain ⟨sid, reached, session', hanswer⟩ :=
    @Platform.update_answers (noting.before retired) .small false noted h.keyed
  obtain ⟨hmissing, -⟩ | ⟨found, outcome, hfound, hupdate, -, -⟩ := Platform.update_cases hanswer
  · cases hitem.symm.trans hmissing
  · have hready : Platform.small.Ready (noting.before retired).store found workflow
        (noted.validated false) :=
      { workflow := hworkflow
        states := Platform.state_objection_eq_none.2 ⟨h.live_known, fun _ => h.live_known⟩
        access := Platform.access_objection_eq_none.2 fun hchanges => absurd rfl hchanges
        nonempty := by decide }
    have hupdated := Platform.update_on_cases hupdate
    rw [Store.fill_of_named (by decide)] at hupdated
    rw [Call.after_update rfl hanswer]
    exact hupdated.recorded_of_ready rfl rfl (by decide) rfl hready

/-- The field that the node has not set is live after the note, and an update that changes no state
sets it. -/
theorem lingering_settled (h : retired.store.Lingers) :
    (retired.serve [noting, settling]).store.fieldValue? ⟨"node", 1⟩ "field_review" =
      some "news_live" := by
  obtain ⟨item, hitem, -, hunset⟩ := h.node
  have hnoted := lingering_noted h
  have hkeys : (noting.after retired).store.Keyed := serve_keyed h.keyed [noting]
  have hkept : (noting.after retired).store.item? ⟨"node", 1⟩ = some item :=
    (Store.item_congr (by rw [hnoted, Store.enter_items]) _).trans hitem
  have hlive : ((noting.after retired).store.statesOf "news").Known "news_live" := by
    rw [Store.states_of_congr (by rw [hnoted, Store.enter_states])]
    exact h.live_known
  have hlatest := @Store.latest_of_only (noting.after retired).store
    { noted.toRecord with hid := retired.store.lastHid + 1 } (by
      rw [hnoted, Store.enter_history, h.history]
      rfl)
  have hcurrent : (noting.after retired).store.currentSid "news" item "field_review" =
      "news_live" := Store.current_sid_of_latest hkept hunset hlatest "news"
  obtain ⟨workflow, hworkflow⟩ := hkeys.workflow_of_known hlive
  have hfill : (noting.after retired).store.fill item settled =
      { settled with fromSid := "news_live" } :=
    (Store.fill_of_unnamed rfl).trans
      (congrArg (fun sid => { settled with fromSid := sid }) hcurrent)
  have hadmitted : Platform.small.Admitted (settling.before (noting.after retired)) item false
      { settled with fromSid := "news_live" } := by
    refine ⟨?_, workflow, hworkflow, rfl⟩
    constructor
    case named => decide
    case known => exact hlive
    case current => exact hcurrent.symm
    case from_known => exact hlive
    case fresh => rfl
    case nonempty => decide
    case authorized => exact fun hchanges => absurd rfl hchanges
    case unvetoed => exact fun hchanges => absurd rfl hchanges
  obtain ⟨reached, harrived⟩ :=
    @Call.after_admitted settling (noting.after retired) false settled item rfl hkeys hkept rfl rfl
      (hfill ▸ hadmitted)
  exact harrived.field_value

end Session

/-! ## Ways back -/

namespace Workflow

variable {workflow : Workflow} {platform : Platform} {sid : String} {reassignTo : Option String}
  {agent : Agent} {moved : Nat} {session retired : Session}

/-- Where a state of a reachable store was deactivated and a field that did not hold it holds it
after an ordinary run, some call of the run brought the field there: a sweep that took up what was
pending for the field at the deactivation, or a call that found the field unset and its item in the
state already. -/
theorem deactivated_state_reentered (hreach : session.store.Reachable)
    (hrun : (workflow.deactivateState platform sid reassignTo agent).run session =
      (.ok moved, retired))
    {calls : List Call} (hordinary : ∀ call ∈ calls, call.Ordinary workflow.id) {target : Target}
    {fieldName : String} (hleft : retired.store.fieldValue? target fieldName ≠ some sid)
    (hheld : (retired.serve calls).store.fieldValue? target fieldName = some sid) :
    ∃ earlier entering later, calls = earlier ++ entering :: later ∧
      (retired.serve earlier).store.fieldValue? target fieldName ≠ some sid ∧
      (entering.after (retired.serve earlier)).store.fieldValue? target fieldName = some sid ∧
      entering.Reenters (retired.serve earlier).store retired.store.pending target fieldName
        workflow.id sid := by
  have hafter : session.serve [⟨platform, none, .deactivateState workflow sid reassignTo agent⟩] =
      retired := Call.after_deactivation rfl hrun
  have hkeys : retired.store.Keyed := hafter ▸ Session.serve_keyed hreach.keyed _
  have hnamed : retired.store.Named := hafter ▸ Session.serve_named hreach.named _
  have hsingle : retired.store.SinglePending :=
    hafter ▸ Session.serve_single_pending hreach.single_pending _
  refine Session.serve_origin
    (fun reached => reached.store.fieldValue? target fieldName = some sid)
    (fun call reached => reached.store.fieldValue? target fieldName ≠ some sid ∧
      (call.after reached).store.fieldValue? target fieldName = some sid ∧
      call.Reenters reached.store retired.store.pending target fieldName workflow.id sid)
    hleft ?_ hheld
  rintro earlier call later rfl hreached
  rw [or_iff_not_imp_left]
  intro hbefore
  have hbarred : (retired.serve earlier).store.Barred retired.store.pending workflow.id sid :=
    Session.serve_barred hkeys hnamed (fun other hother => hordinary other (by simp [hother]))
      (deactivate_state_barred hrun)
  refine ⟨hbefore, hreached, ?_⟩
  exact Call.after_reenters (Session.serve_keyed hkeys earlier) (Session.serve_named hnamed earlier)
    (Session.serve_single_pending hsingle earlier) (hordinary call (by simp)) hbarred hbefore
    hreached

/-- The sweep that takes the node of the site back to its live state takes up what was pending. -/
theorem deactivated_state_reentered_small :
    Store.lingering.Reachable ∧ ∃ (retired : Session),
      (small.deactivateState .small "news_live" (some "news_draft") .anonymous).run
          ⟨.lingering, .empty, []⟩ = (.ok 0, retired) ∧
        (∀ call ∈ [Session.sweeping], call.Ordinary small.id) ∧
        retired.store.fieldValue? ⟨"node", 1⟩ "field_state" ≠ some "news_live" ∧
        (retired.serve [Session.sweeping]).store.fieldValue? ⟨"node", 1⟩ "field_state" =
          some "news_live" ∧
        Session.sweeping.Reenters retired.store retired.store.pending ⟨"node", 1⟩ "field_state"
          small.id "news_live" := by
  obtain ⟨retired, hrun, hlingers⟩ := Session.lingering_deactivated
  have hleft : retired.store.fieldValue? ⟨"node", 1⟩ "field_state" ≠ some "news_live" :=
    hlingers.values _ _ ▸ Session.lingering_not_live _ _
  have hheld := Session.lingering_swept hlingers
  have hordinary : ∀ call ∈ [Session.sweeping], call.Ordinary small.id :=
    List.forall_mem_singleton.2 trivial
  refine ⟨Session.reachable_lingering, retired, hrun, hordinary, hleft, hheld, ?_⟩
  obtain ⟨earlier, entering, later, hcalls, -, -, hreenters⟩ :=
    deactivated_state_reentered Session.reachable_lingering hrun hordinary hleft hheld
  cases earlier with
  | nil =>
      cases hcalls
      exact hreenters
  | cons first earlier => simp at hcalls

/-- On the site the two ways back are taken by ordinary runs: what was pending takes the node to the
state that was deactivated, and so does its history, by the field that the node has not set. -/
theorem deactivated_state_reached :
    Store.lingering.Reachable ∧ ∃ (retired : Session),
      (small.deactivateState .small "news_live" (some "news_draft") .anonymous).run
          ⟨.lingering, .empty, []⟩ = (.ok 0, retired) ∧
        (∀ target fieldName, retired.store.fieldValue? target fieldName ≠ some "news_live") ∧
        (retired.store.Binds "node" "field_state" small.id ∧
          retired.store.Binds "node" "field_review" small.id) ∧
        (∀ call ∈ [Session.sweeping, Session.noting, Session.settling], call.Ordinary small.id) ∧
        (retired.serve [Session.sweeping]).store.fieldValue? ⟨"node", 1⟩ "field_state" =
          some "news_live" ∧
        (retired.serve [Session.noting, Session.settling]).store.fieldValue? ⟨"node", 1⟩
          "field_review" = some "news_live" := by
  obtain ⟨retired, hrun, hlingers⟩ := Session.lingering_deactivated
  refine ⟨Session.reachable_lingering, retired, hrun, ?_, ?_, ?_,
    Session.lingering_swept hlingers, Session.lingering_settled hlingers⟩
  · intro target fieldName
    rw [hlingers.values]
    exact Session.lingering_not_live target fieldName
  · simp [Store.Binds, hlingers.bindings, Store.lingering, small]
  · simp [Call.Ordinary, Session.sweeping, Session.noting, Session.settling, Session.noted,
      Session.settled, Transition.small, Platform.may_bypass_small, small]

end Workflow

end ContentWorkflow
