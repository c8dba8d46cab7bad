import ContentWorkflow.Proofs.Engine.Choices
import ContentWorkflow.Proofs.Runs.Confinement

/-!
# What a request remembers of choices

A request remembers the choices that were worked out in it, under a key that names neither the
workflow nor the owner of the item. The main theorem, `Holds.worked_out`, says where an answer that
is remembered comes from: a call of the run worked it out from the store as it was then. It holds of
every request of the run, also where the calls of several requests take turns.
-/

namespace ContentWorkflow

open Relation (ReflTransGen)

/-- The item that the caller of the operation holds and passes to it. -/
def Operation.passed? : Operation → Option Item
  | .choices item .. | .nextSid item .. | .firstSid item .. => some item
  | .updateContent _ _ item | .saveContent item => some item
  | _ => none

/-- The request remembers the choices for the key. -/
def Session.remember (session : Session) (key : ChoicesKey) (found : List Choice) : Session :=
  { session with context := session.context.setChoices key found }

namespace Platform

open ContentWorkflow.Action

variable {platform : Platform} {store : Store} {item : Item} {key : ChoicesKey}
  {found : List Choice} {session session' : Session}

/-- The choices are what the platform works out for the key and the item from the store. -/
structure WorksOut (platform : Platform) (store : Store) (item : Item) (key : ChoicesKey)
    (found : List Choice) : Prop where
  target : key.target = item.target
  found : ∃ workflow, store.workflowForField? key.target.entityType key.fieldName = some workflow ∧
    found = platform.choicesOf store workflow item key.agent key.fromSid key.force

/-- From one session to the other nothing was kept, and nothing is remembered of choices but what
was remembered or worked out for the item. -/
structure Lists (platform : Platform) (item : Item) (session session' : Session) : Prop where
  store : session'.store = session.store
  choices : ∀ {key found}, session'.context.choices? key = some found →
    session.context.choices? key = some found ∨ platform.WorksOut session.store item key found

/-- Where nothing changes, nothing is worked out. -/
theorem Lists.refl (session : Session) : platform.Lists item session session :=
  ⟨rfl, Or.inl⟩

/-- What is listed in two goes is listed. -/
theorem Lists.trans {last : Session} (h : platform.Lists item session session')
    (h' : platform.Lists item session' last) : platform.Lists item session last where
  store := h'.store.trans h.store
  choices := by
    intro key found hfound
    obtain hbefore | hworked := h'.choices hfound
    · exact h.choices hbefore
    · exact Or.inr (h.store ▸ hworked)

/-- What is listed step by step is listed. -/
theorem Lists.of_steps (h : ReflTransGen (platform.Lists item) session session') :
    platform.Lists item session session' := by
  induction h with
  | refl => exact .refl session
  | tail _ hlast ih => exact ih.trans hlast

/-- Choices are answered as they are remembered. Others are worked out and remembered, where the
field is bound. -/
theorem choices_run_eq (platform : Platform) (item : Item) (fieldName : String) (agent : Agent)
    (fromSid : String) (force : Bool) (session : Session) :
    (platform.choices item fieldName agent fromSid force).run session =
      match session.context.choices? ⟨item.target, fieldName, fromSid, agent, force⟩,
        session.store.boundWorkflow item.target.entityType fieldName with
      | some known, _ => (.ok known, session.note .debug
          s!"reusing options for {item.target.toText} [{fieldName}] from `{fromSid}`")
      | none, .error fault => (.error fault, session)
      | none, .ok workflow =>
          (.ok (platform.choicesOf session.store workflow item agent fromSid force),
            session.remember ⟨item.target, fieldName, fromSid, agent, force⟩
              (platform.choicesOf session.store workflow item agent fromSid force)) := by
  have hget : (get : Action Session).run session = (.ok session, session) := rfl
  rw [choices, run_bind, hget]
  dsimp only
  cases session.context.choices? ⟨item.target, fieldName, fromSid, agent, force⟩ with
  | some known => rfl
  | none =>
      dsimp only
      rw [run_bind, run_store]
      dsimp only
      rw [run_bind]
      cases session.store.boundWorkflow item.target.entityType fieldName with
      | error fault => rfl
      | ok workflow => rfl

/-- Choices that are remembered are answered. -/
theorem choices_recalled {fieldName : String} {agent : Agent} {fromSid : String} {force : Bool}
    {known : List Choice} (h : session.context.choices?
      ⟨item.target, fieldName, fromSid, agent, force⟩ = some known) :
    ((platform.choices item fieldName agent fromSid force).run session).1 = .ok known := by
  rw [choices_run_eq, h]

/-- The workflow of a field is the one that is looked up. -/
theorem bound_workflow_ok {store : Store} {entityType fieldName : String} {workflow : Workflow} :
    store.boundWorkflow entityType fieldName = .ok workflow ↔
      store.workflowForField? entityType fieldName = some workflow := by
  rw [Store.boundWorkflow]
  cases store.workflowForField? entityType fieldName with
  | none => simp
  | some bound => simp

/-- Asking for choices lists them. -/
theorem choices_lists {fieldName : String} {agent : Agent} {fromSid : String} {force : Bool} :
    Makes (platform.Lists item) (platform.choices item fieldName agent fromSid force) := by
  intro session
  rw [choices_run_eq]
  split
  · exact .single ⟨rfl, Or.inl⟩
  · exact .refl
  · next workflow _ hbound =>
      refine .single ⟨rfl, fun {key found} hfound => ?_⟩
      rw [Session.remember, RequestContext.choices_set_choices] at hfound
      split at hfound
      · next hkey =>
          cases hfound
          cases hkey
          exact Or.inr ⟨rfl, workflow, bound_workflow_ok.1 hbound, rfl⟩
      · exact Or.inl hfound

/-- Asking for the next state lists choices. -/
theorem next_sid_lists {fieldName : String} {agent : Agent} {force : Bool} :
    Makes (platform.Lists item) (platform.nextSid item fieldName agent force) :=
  .bind .store fun _ _ => .bind bound_workflow_steps fun _ _ =>
    .bind choices_lists fun _ _ => .pure _

/-- Asking for the first state lists choices. -/
theorem first_sid_lists {fieldName : String} {agent : Agent} {force : Bool} :
    Makes (platform.Lists item) (platform.firstSid item fieldName agent force) := by
  refine .bind .store fun _ _ => .bind bound_workflow_steps fun _ _ =>
    .bind choices_lists fun choices _ => ?_
  dsimp only
  split
  · exact .bind (.log (fun _ _ _ => ⟨rfl, Or.inl⟩) _ _) fun _ _ => .pure _
  · exact .pure _

end Platform

/-! ## Calls -/

namespace Call

variable {call : Call} {session : Session} {key : ChoicesKey} {found : List Choice}

/-- A call that does not ask for choices leaves alone what its request remembers of them. -/
theorem after_quiet (hquiet : ¬ call.operation.Asks) :
    (call.after session).context.choices = (call.before session).context.choices := by
  refine after_effects (motive := fun reached =>
    reached.context.choices = (call.before session).context.choices) rfl ?_
  intro first second heffect hsame
  rw [← hsame]
  cases heffect with
  | managed h => exact h.choices.resolve_right hquiet
  | purged _ h =>
      cases h with
      | managed h => exact h.choices.resolve_right hquiet
      | history _ hcontext => rw [hcontext]
      | state _ hcontext => rw [hcontext]
  | saved _ _ _ hcontext => rw [hcontext]
  | dismissed _ _ hcontext => rw [hcontext]
  | engaged _ _ _ _ _ hcourse =>
      obtain hcontext | hcontext | hcontext := hcourse.context_cases <;> rw [hcontext] <;> rfl
  | scheduled _ _ hcontext => rw [hcontext]

/-- A call that asks for choices which its request does not remember leaves them to be remembered.
-/
theorem after_asking {item : Item} {fieldName : String} {agent : Agent} {fromSid : String}
    {force : Bool} {workflow : Workflow}
    (hop : call.operation = .choices item fieldName agent fromSid force)
    (hnew : (call.before session).context.choices?
      ⟨item.target, fieldName, fromSid, agent, force⟩ = none)
    (hbound : session.store.workflowForField? item.target.entityType fieldName = some workflow) :
    call.after session = (call.before session).remember
      ⟨item.target, fieldName, fromSid, agent, force⟩
      (call.platform.choicesOf session.store workflow item agent fromSid force) := by
  have hworkflow : (call.before session).store.boundWorkflow item.target.entityType fieldName =
      .ok workflow := Platform.bound_workflow_ok.2 hbound
  rw [after, hop, Operation.perform, Action.run_forget, Platform.choices_run_eq, hnew, hworkflow]
  rfl

/-- A call that asks for choices lists them for the item that is passed to it. -/
theorem after_lists (hasks : call.operation.Asks) :
    ∃ item, call.operation.passed? = some item ∧
      call.platform.Lists item (call.before session) (call.after session) := by
  unfold after
  cases hop : call.operation with
  | choices item fieldName agent fromSid force =>
      rw [Operation.perform, Action.run_forget]
      exact ⟨item, rfl, .of_steps (Platform.choices_lists (call.before session))⟩
  | nextSid item fieldName agent force =>
      rw [Operation.perform, Action.run_forget]
      exact ⟨item, rfl, .of_steps (Platform.next_sid_lists (call.before session))⟩
  | firstSid item fieldName agent force =>
      rw [Operation.perform, Action.run_forget]
      exact ⟨item, rfl, .of_steps (Platform.first_sid_lists (call.before session))⟩
  | _ => simp [Operation.Asks, hop] at hasks

/-- The call works out the choices for the key in the store that it finds. -/
structure WorksOut (call : Call) (store : Store) (key : ChoicesKey) (found : List Choice) :
    Prop where
  asks : call.operation.Asks
  found : ∃ item, call.operation.passed? = some item ∧ call.platform.WorksOut store item key found

/-- What is remembered of choices after a call was remembered before it, or the call worked
it out. -/
theorem after_remembered (h : (call.after session).context.choices? key = some found) :
    (call.before session).context.choices? key = some found ∨
      call.WorksOut session.store key found := by
  by_cases hasks : call.operation.Asks
  · obtain ⟨item, hitem, hlists⟩ := @after_lists call session hasks
    exact (hlists.choices h).imp_right fun hworked => ⟨hasks, item, hitem, hworked⟩
  · rw [RequestContext.choices?, after_quiet hasks] at h
    exact Or.inl h

end Call

/-! ## Runs -/

namespace Session

/-- The contexts that requests of a run may have: a new one, one that some of the calls left behind,
and one whose choices were forgotten. -/
inductive Holds (start : Session) (calls : List Call) : RequestContext → Prop where
  | new : Holds start calls .empty
  | left {earlier : List Call} (h : earlier <+: calls) :
      Holds start calls (start.serve earlier).context
  | forgotten {context : RequestContext} (h : Holds start calls context) :
      Holds start calls context.clearChoices

/-- Every call of the run belongs to a request that begins with it or that calls before it
belonged to. -/
def Continues (start : Session) (calls : List Call) : Prop :=
  ∀ earlier call later, calls = earlier ++ call :: later →
    ∀ context ∈ call.request, start.Holds earlier context

variable {start : Session} {calls : List Call} {context : RequestContext} {key : ChoicesKey}
  {found : List Choice}

/-- A run whose calls belong to the request that was served last goes on with it. -/
theorem continues_of_one (h : ∀ call ∈ calls, call.request = none) : start.Continues calls := by
  rintro earlier call later rfl context hcontext
  rw [h call (List.mem_append_right earlier List.mem_cons_self)] at hcontext
  cases hcontext

/-- The first calls of a run are a run of the same requests. -/
theorem Continues.of_append {more : List Call} (h : start.Continues (calls ++ more)) :
    start.Continues calls := by
  intro earlier call later hsplit
  exact h earlier call (later ++ more) (by simp [hsplit])

/-- Calls of one request that do not ask for choices leave alone what it remembers of them. -/
theorem serve_quiet (h : ∀ call ∈ calls, ¬ call.operation.Asks ∧ call.request = none) :
    (start.serve calls).context.choices = start.context.choices := by
  refine serve_induction (motive := fun reached =>
    reached.context.choices = start.context.choices) rfl ?_
  intro call hcall reached hsame
  obtain ⟨hquiet, hone⟩ := h call hcall
  rw [Call.after_quiet hquiet, Call.before, hone]
  exact hsame

/-- Some call of the run worked out the choices for the key. -/
def WorkedOut (start : Session) (calls : List Call) (key : ChoicesKey) (found : List Choice) :
    Prop :=
  ∃ earlier call later, calls = earlier ++ call :: later ∧
    call.WorksOut (start.serve earlier).store key found

/-- What some of the calls worked out was worked out by the calls. -/
theorem WorkedOut.append (h : start.WorkedOut calls key found) (more : List Call) :
    start.WorkedOut (calls ++ more) key found := by
  obtain ⟨earlier, call, later, rfl, hworked⟩ := h
  exact ⟨earlier, call, later ++ more, by simp, hworked⟩

/-- Where nothing is remembered of choices at first, what a request of a run remembers of them was
worked out by a call of the run. -/
theorem Holds.worked_out (hheld : start.Holds calls context) (hcontinues : start.Continues calls)
    (hfresh : start.context.choices = []) (h : context.choices? key = some found) :
    start.WorkedOut calls key found := by
  -- from the last call backwards, for all requests at once, because a call may go on with any
  induction calls using List.reverseRecOn generalizing context with
  | nil =>
      cases hheld with
      | new => cases h
      | left hprefix =>
          obtain rfl := List.prefix_nil.1 hprefix
          rw [RequestContext.choices?, serve, List.foldl_nil, hfresh] at h
          cases h
      | forgotten => cases h
  | append_singleton calls call ih =>
      have hbefore := hcontinues.of_append
      cases hheld with
      | new => cases h
      | left hprefix =>
          obtain rfl | hprefix := List.prefix_concat_iff.1 hprefix
          · rw [serve_append_singleton] at h
            obtain hremembered | hworked := Call.after_remembered h
            · refine (ih ?_ hbefore hremembered).append [call]
              rw [Call.before]
              cases hrequest : call.request with
              | none => exact .left (List.prefix_refl calls)
              | some request => exact hcontinues calls call [] rfl request hrequest
            · exact ⟨calls, call, [], rfl, hworked⟩
          · exact (ih (.left hprefix) hbefore h).append [call]
      | forgotten => cases h

end Session

end ContentWorkflow
