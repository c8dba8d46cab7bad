import ContentWorkflow.Proofs.Runs.Memory
import ContentWorkflow.Proofs.Runs.Tracking

/-!
# Answers as good as fresh ones

What an agent may choose for an item depends on the states, the rules and the bindings, on the roles
of the agent and on the owner of the item (`choices_of_congr`), and on nothing else that the engine
changes. The main theorem, `answers_fresh`, says that as long as a run is not disturbed in these
(`Undisturbed`) every answer from the memory of a request is the one that a new request would get.
-/

namespace ContentWorkflow

/-- The operation is one that may write states, rules or bindings. -/
def Operation.Administers : Operation → Prop
  | .createWorkflow .. | .createCreationState .. | .createState .. | .updateState ..
  | .deactivateState .. | .purgeState .. | .createRule .. | .setRuleRoles .. | .setRuleLabel ..
  | .bindField .. => True
  | _ => False

/-- An operation that may write states may write states, rules or bindings. -/
theorem Operation.OnStates.administers {operation : Operation} (h : operation.OnStates) :
    operation.Administers := by
  cases operation <;> first | exact False.elim h | trivial

/-- An operation that may write rules may write states, rules or bindings. -/
theorem Operation.OnRules.administers {operation : Operation} (h : operation.OnRules) :
    operation.Administers := by
  cases operation <;> first | exact False.elim h | trivial

namespace Store

variable {store store' : Store} {operation : Operation} {owners : Target → Option Int}
  {item : Item}

/-- An operation that is not of their administration leaves states, rules and bindings alone. -/
theorem Managed.same_flow (h : store.Managed operation store')
    (hother : ¬ operation.Administers) : store.SameFlow store' := by
  obtain ⟨hstates, hrules, hbindings⟩ := h.tables
  refine ⟨hstates.resolve_right fun hop => hother hop.administers, hrules.resolve_right ?_,
    hbindings.resolve_right ?_⟩
  · rintro (hop | ⟨workflow, fromSid, toSid, rfl⟩)
    · exact hother hop.administers
    · exact hother trivial
  · rintro ⟨entityType, fieldName, workflowId, rfl⟩
    exact hother trivial

/-- The workflow of a bound field stays as long as the bindings do. -/
theorem Keyed.workflow_for_field (hkeys : store'.Keyed) (hflow : store.SameFlow store')
    {entityType fieldName : String} {workflow : Workflow}
    (h : store.workflowForField? entityType fieldName = some workflow) :
    ∃ other, store'.workflowForField? entityType fieldName = some other ∧
      other.id = workflow.id := by
  exact hkeys.workflow_for_binds
    ((binds_congr hflow.bindings).2 (binds_of_workflow_for_field h))

/-! ## Owners -/

/-- The owner that the store has for the item, or the given one where the item is not kept. -/
def ownerOf (store : Store) (owners : Target → Option Int) (target : Target) : Option Int :=
  match store.item? target with
  | some item => item.owner
  | none => owners target

/-- Owners depend on nothing of the store but the items. -/
theorem owner_of_congr (h : store'.items = store.items) (target : Target) :
    store'.ownerOf owners target = store.ownerOf owners target := by
  rw [ownerOf, item_congr h, ownerOf]

/-- A kept item has the owner that the store has for it. -/
theorem owner_of_kept {target : Target} (h : store.item? target = some item) :
    item.owner = store.ownerOf owners item.target := by
  rw [ownerOf, (item_found h).1, h]

/-- Saving an item with its own owner leaves all owners as they are. -/
theorem owner_of_save_item (howner : item.owner = store.ownerOf owners item.target)
    (target : Target) :
    (store.saveItem item).ownerOf owners target = store.ownerOf owners target := by
  by_cases htarget : target = item.target
  · rw [htarget, ← howner, ownerOf, item_save_item]
    rfl
  · rw [ownerOf, item_save_item_of_ne htarget, ownerOf]

end Store

/-- A course on an item with its own owner leaves all owners as they are. -/
theorem Platform.Course.owners {platform : Platform} {item : Item} {force moving : Bool}
    {transition : Transition} {session session' : Session} {outcome : Outcome}
    {owners : Target → Option Int}
    (howner : item.owner = session.store.ownerOf owners item.target)
    (h : platform.Course item force transition session moving outcome session')
    (target : Target) :
    session'.store.ownerOf owners target = session.store.ownerOf owners target := by
  cases h with
  | repeated _ _ hstore => rw [hstore]
  | objected _ _ hstore => rw [hstore]
  | empty _ hstore => rw [hstore]
  | unsaved _ _ _ hstore => rw [hstore]
  | scheduled _ _ _ hstore => exact Store.owner_of_congr (by rw [hstore]; rfl) target
  | recorded _ _ _ hstore =>
      exact Store.owner_of_congr (by rw [hstore, Store.enter_items]) target
  | @moved workflow _ _ _ _ hstore =>
      calc session'.store.ownerOf owners target
          = (session.store.saveItem (Platform.moved workflow item transition)).ownerOf owners
              target :=
            Store.owner_of_congr (by rw [hstore, Store.enter_items]) target
        _ = session.store.ownerOf owners target :=
            Store.owner_of_save_item (by simpa using howner) target

namespace Call

variable {call : Call} {session : Session} {owners : Target → Option Int}

/-- A call that is not of their administration leaves states, rules and bindings alone. -/
theorem after_same_flow (hother : ¬ call.operation.Administers) :
    session.store.SameFlow (call.after session).store := by
  refine after_flow (.refl _) (fun hflow hsame => hsame.trans hflow) (fun hwrite hsame => ?_)
    (fun hop _ => absurd (hop ▸ trivial) hother)
  exact hsame.trans (hwrite.same_flow hother)

/-- A call to which an item is passed with its own owner, or none, leaves all owners as they are. -/
theorem after_owners (howner : ∀ item ∈ call.operation.passed?,
      item.owner = session.store.ownerOf owners item.target) (target : Target) :
    (call.after session).store.ownerOf owners target = session.store.ownerOf owners target := by
  refine after_effects (motive := fun reached => ∀ target,
    reached.store.ownerOf owners target = session.store.ownerOf owners target)
    (fun _ => rfl) ?_ target
  intro first second heffect hsame target
  rw [← hsame target]
  cases heffect with
  | managed h =>
      obtain hstore | hmanaged := h.store
      · rw [hstore]
      · exact Store.owner_of_congr hmanaged.frame.1 target
  | purged _ h =>
      cases h with
      | managed h =>
          obtain hstore | hmanaged := h.store
          · rw [hstore]
          · exact Store.owner_of_congr hmanaged.frame.1 target
      | history hstore => exact Store.owner_of_congr (by rw [hstore]; rfl) target
      | state hstore => exact Store.owner_of_congr (by rw [hstore]; rfl) target
  | @saved item hop _ hstore =>
      rw [hstore]
      refine Store.owner_of_save_item ?_ target
      rw [hsame]
      exact howner item (by rw [hop]; rfl)
  | dismissed _ hstore => exact Store.owner_of_congr (by rw [hstore]; rfl) target
  | engaged hsubmits _ hkept _ _ hcourse =>
      refine hcourse.owners ?_ target
      obtain hitem | ⟨force, transition, item, hop⟩ := hkept
      · exact Store.owner_of_kept hitem
      · rw [hsame]
        cases hsubmits with
        | updateContent hop => exact howner _ (by rw [hop]; rfl)
        | execute hop' => cases hop.symm.trans hop'
        | update hop' => cases hop.symm.trans hop'
        | reassigning hop' => cases hop.symm.trans hop'
        | reverting hop' => cases hop.symm.trans hop'
        | due hop' => cases hop.symm.trans hop'
  | scheduled _ hstore => exact Store.owner_of_congr (by rw [hstore]; rfl) target

end Call

/-! ## Runs -/

namespace Session

variable {start : Session} {resolver : Resolver} {owners : Target → Option Int}
  {calls : List Call} {context : RequestContext}

/-- The run has one resolver, its calls leave states, rules and bindings alone, and every item that
is passed to one of them is passed with the owner that it has at that moment. -/
structure Undisturbed (start : Session) (resolver : Resolver) (owners : Target → Option Int)
    (calls : List Call) : Prop where
  resolver : ∀ call ∈ calls, call.platform.resolver = resolver
  flow : ∀ earlier call later, calls = earlier ++ call :: later → call.operation.Administers →
    (start.serve earlier).store.SameFlow (call.after (start.serve earlier)).store
  owners : ∀ earlier call later, calls = earlier ++ call :: later →
    ∀ item ∈ call.operation.passed?,
      item.owner = (start.serve earlier).store.ownerOf owners item.target

/-- Where a list with a last item is split, it is split at the last item or before it. -/
theorem split_concat {α : Type} {items earlier later : List α} {item last : α}
    (h : items ++ [last] = earlier ++ item :: later) :
    earlier = items ∧ item = last ∧ later = [] ∨
      ∃ between, items = earlier ++ item :: between ∧ later = between ++ [last] := by
  rcases List.eq_nil_or_concat later with rfl | ⟨between, other, rfl⟩
  · obtain ⟨rfl, hlast⟩ := List.append_inj' h rfl
    exact Or.inl ⟨rfl, (List.cons.inj hlast).1.symm, rfl⟩
  · rw [List.concat_eq_append, ← List.cons_append, ← List.append_assoc] at h
    obtain ⟨rfl, hlast⟩ := List.append_inj' h rfl
    exact Or.inr ⟨between, rfl, by rw [List.concat_eq_append, (List.cons.inj hlast).1]⟩

/-- A run without calls is not disturbed. -/
theorem Undisturbed.nil : start.Undisturbed resolver owners [] := by
  constructor <;> simp

/-- A run that is not disturbed can go on with a call that does not disturb it. -/
theorem Undisturbed.concat {call : Call} (h : start.Undisturbed resolver owners calls)
    (hresolver : call.platform.resolver = resolver)
    (hflow : call.operation.Administers →
      (start.serve calls).store.SameFlow (call.after (start.serve calls)).store)
    (howner : ∀ item ∈ call.operation.passed?,
      item.owner = (start.serve calls).store.ownerOf owners item.target) :
    start.Undisturbed resolver owners (calls ++ [call]) where
  resolver := by simpa [or_imp, forall_and] using ⟨h.resolver, hresolver⟩
  flow := by
    intro earlier other later hsplit
    obtain ⟨rfl, rfl, -⟩ | ⟨between, hbetween, -⟩ := split_concat hsplit
    · exact hflow
    · exact h.flow earlier other between hbetween
  owners := by
    intro earlier other later hsplit
    obtain ⟨rfl, rfl, -⟩ | ⟨between, hbetween, -⟩ := split_concat hsplit
    · exact howner
    · exact h.owners earlier other between hbetween

/-- The first calls of a run that is not disturbed are not disturbed. -/
theorem Undisturbed.of_append {more : List Call}
    (h : start.Undisturbed resolver owners (calls ++ more)) :
    start.Undisturbed resolver owners calls where
  resolver := fun call hcall => h.resolver call (List.mem_append_left more hcall)
  flow := by
    intro earlier call later hsplit
    exact h.flow earlier call (later ++ more) (by simp [hsplit])
  owners := by
    intro earlier call later hsplit
    exact h.owners earlier call (later ++ more) (by simp [hsplit])

/-- From any moment of a run that is not disturbed to its end, states, rules, bindings and owners
stay as they are. -/
theorem Undisturbed.steady {later : List Call}
    (h : start.Undisturbed resolver owners (calls ++ later)) :
    (start.serve calls).store.SameFlow (start.serve (calls ++ later)).store ∧
      ∀ target, (start.serve (calls ++ later)).store.ownerOf owners target =
        (start.serve calls).store.ownerOf owners target := by
  induction later using List.reverseRecOn with
  | nil =>
      rw [List.append_nil]
      exact ⟨.refl _, fun _ => rfl⟩
  | append_singleton later call ih =>
      rw [← List.append_assoc] at h ⊢
      obtain ⟨hflow, howners⟩ := ih h.of_append
      rw [serve_append_singleton]
      constructor
      · refine hflow.trans ?_
        by_cases hadministers : call.operation.Administers
        · exact h.flow _ call [] rfl hadministers
        · exact call.after_same_flow hadministers
      · intro target
        rw [call.after_owners (h.owners _ call [] rfl), howners]

end Session

/-! ## Answers -/

namespace Platform

open ContentWorkflow.Action

variable {platform : Platform} {item : Item} {fieldName : String} {agent : Agent}
  {fromSid : String} {force : Bool}

/-- What an agent may choose depends on the states and rules of the workflow, on the resolver and on
the owner of the item. -/
theorem choices_of_congr {other : Platform} {otherItem : Item} {store store' : Store}
    {workflow otherWorkflow : Workflow} (hresolver : other.resolver = platform.resolver)
    (hflow : store.SameFlow store') (hworkflow : otherWorkflow.id = workflow.id)
    (howner : otherItem.owner = item.owner) :
    other.choicesOf store' otherWorkflow otherItem agent fromSid force =
      platform.choicesOf store workflow item agent fromSid force := by
  have hstates : store'.statesOf otherWorkflow.id = store.statesOf workflow.id := by
    rw [hworkflow, Store.states_of_congr hflow.states]
  have hrules : store'.rulesOf otherWorkflow.id = store.rulesOf workflow.id := by
    rw [hworkflow, Store.rulesOf, hflow.rules, Store.rulesOf]
  have hroles : other.rolesOn agent otherItem = platform.rolesOn agent item := by
    rw [rolesOn, hresolver, howner, rolesOn]
  have hbypass : other.mayBypass agent otherWorkflow.id = platform.mayBypass agent workflow.id := by
    rw [mayBypass, hresolver, hworkflow, mayBypass]
  simp only [choicesOf, hstates, hrules, hroles, hbypass]

/-- Two actions in a row are answered alike where the first one is and the second one is answered
alike in all sessions. -/
theorem run_bind_congr {α β : Type} {action : Action α} {next : α → Action β}
    {first second : Session} (haction : (action.run second).1 = (action.run first).1)
    (hnext : ∀ answer session session',
      ((next answer).run session').1 = ((next answer).run session).1) :
    ((action >>= next).run second).1 = ((action >>= next).run first).1 := by
  rw [run_bind, run_bind]
  generalize action.run second = found at haction
  generalize action.run first = expected at haction
  obtain ⟨result, reached⟩ := found
  obtain ⟨other, middle⟩ := expected
  dsimp only at haction
  subst haction
  cases result with
  | error fault => rfl
  | ok answer => exact hnext answer middle reached

variable {first second : Session}

/-- Asking for the next state is answered alike where the stores are the same and asking for choices
is answered alike. -/
theorem next_sid_congr (hstore : second.store = first.store)
    (hchoices : ∀ fromSid,
      ((platform.choices item fieldName agent fromSid force).run second).1 =
        ((platform.choices item fieldName agent fromSid force).run first).1) :
    ((platform.nextSid item fieldName agent force).run second).1 =
      ((platform.nextSid item fieldName agent force).run first).1 := by
  simp only [nextSid, run_bind (Action.store), run_store, hstore]
  cases first.store.boundWorkflow item.target.entityType fieldName with
  | error fault => rfl
  | ok workflow =>
      rw [run_bind, run_bind]
      exact run_bind_congr (hchoices (first.store.currentSid workflow.id item fieldName))
        fun _ _ _ => rfl

/-- Asking for the first state is answered alike where the stores are the same and asking for
choices is answered alike. -/
theorem first_sid_congr (hstore : second.store = first.store)
    (hchoices : ∀ fromSid,
      ((platform.choices item fieldName agent fromSid force).run second).1 =
        ((platform.choices item fieldName agent fromSid force).run first).1) :
    ((platform.firstSid item fieldName agent force).run second).1 =
      ((platform.firstSid item fieldName agent force).run first).1 := by
  simp only [firstSid, run_bind (Action.store), run_store, hstore]
  cases first.store.boundWorkflow item.target.entityType fieldName with
  | error fault => rfl
  | ok workflow =>
      rw [run_bind, run_bind]
      refine run_bind_congr (hchoices (MachineName.creationStateId workflow.id))
        fun choices _ _ => ?_
      split <;> rfl

end Platform

namespace Session

/-- The session with another request. -/
def within (session : Session) (context : RequestContext) : Session :=
  { session with context := context }

variable {start : Session} {calls : List Call} {resolver : Resolver}
  {owners : Target → Option Int} {context : RequestContext} {platform : Platform} {item : Item}

/-- In a run that is not disturbed, choices are answered from the memory of a request as they are
worked out for a new one. -/
theorem Undisturbed.choices_fresh (h : start.Undisturbed resolver owners calls)
    (hkeys : start.store.Keyed) (hfresh : start.context.choices = [])
    (hcontinues : start.Continues calls) (hheld : start.Holds calls context)
    (hresolver : platform.resolver = resolver)
    (howner : item.owner = (start.serve calls).store.ownerOf owners item.target)
    (fieldName : String) (agent : Agent) (fromSid : String) (force : Bool) :
    ((platform.choices item fieldName agent fromSid force).run
        ((start.serve calls).within context)).1 =
      ((platform.choices item fieldName agent fromSid force).run
        ((start.serve calls).within .empty)).1 := by
  have hempty : ((start.serve calls).within .empty).context.choices?
      ⟨item.target, fieldName, fromSid, agent, force⟩ = none := rfl
  rw [Platform.choices_run_eq, Platform.choices_run_eq, hempty]
  cases hremembered : ((start.serve calls).within context).context.choices?
      ⟨item.target, fieldName, fromSid, agent, force⟩ with
  | none =>
      dsimp only [within]
      cases (start.serve calls).store.boundWorkflow item.target.entityType fieldName with
      | error fault => rfl
      | ok workflow => rfl
  | some known =>
      obtain ⟨earlier, call, later, rfl, hasks, shown, hpassed, htarget, workflow, hbound, rfl⟩ :=
        hheld.worked_out hcontinues hfresh hremembered
      -- the item was shown with its owner then, and it has the same owner now
      have hcall := h.owners earlier call later rfl shown hpassed
      obtain ⟨hflow, howners⟩ := h.steady
      have hsame : item.owner = shown.owner := by
        rw [howner, howners, hcall, ← htarget]
      have hshown := h.resolver call (List.mem_append_right earlier List.mem_cons_self)
      obtain ⟨now, hnow, hid⟩ :=
        (serve_keyed hkeys (earlier ++ call :: later)).workflow_for_field hflow hbound
      have hnow' : ((start.serve (earlier ++ call :: later)).within
          .empty).store.boundWorkflow item.target.entityType fieldName = .ok now :=
        Platform.bound_workflow_ok.2 hnow
      rw [hnow']
      exact congrArg Except.ok (Platform.choices_of_congr (hresolver.trans hshown.symm) hflow hid
        hsame).symm

/-- In a run that is not disturbed, every request of the run gets the answers that a new request
would get, to which states may be chosen for an item, which one follows on its current one and which
one is the first. An item is asked about with the owner that the store has for it. -/
theorem answers_fresh (hkeys : start.store.Keyed) (hfresh : start.context.choices = [])
    (hcontinues : start.Continues calls) (hundisturbed : start.Undisturbed resolver owners calls)
    (hheld : start.Holds calls context) (hresolver : platform.resolver = resolver)
    (howner : item.owner = (start.serve calls).store.ownerOf owners item.target)
    (fieldName : String) (agent : Agent) (fromSid : String) (force : Bool) :
    ((platform.choices item fieldName agent fromSid force).run
        ((start.serve calls).within context)).1 =
        ((platform.choices item fieldName agent fromSid force).run
          ((start.serve calls).within .empty)).1 ∧
      ((platform.nextSid item fieldName agent force).run
        ((start.serve calls).within context)).1 =
        ((platform.nextSid item fieldName agent force).run
          ((start.serve calls).within .empty)).1 ∧
      ((platform.firstSid item fieldName agent force).run
        ((start.serve calls).within context)).1 =
        ((platform.firstSid item fieldName agent force).run
          ((start.serve calls).within .empty)).1 := by
  have hchoices : ∀ fromSid, _ := fun fromSid => hundisturbed.choices_fresh hkeys hfresh hcontinues
    hheld hresolver howner fieldName agent fromSid force
  exact ⟨hchoices fromSid, Platform.next_sid_congr rfl hchoices,
    Platform.first_sid_congr rfl hchoices⟩

/-- The call of an editor who asks what may become of the node of the small site. -/
def asking : Call :=
  ⟨.small, none, .choices .small "field_state" (.user 1) "news_draft" false⟩

/-- What the editor was told is remembered as long as nobody asks for choices in the same request.
-/
theorem asking_remembered {calls : List Call}
    (h : ∀ call ∈ calls, ¬ call.operation.Asks ∧ call.request = none) :
    (serve ⟨.small, .empty, []⟩ (asking :: calls)).context.choices?
        ⟨⟨"node", 1⟩, "field_state", "news_draft", .user 1, false⟩ =
      some (Platform.small.choicesOf .small .small .small (.user 1)
        "news_draft" false) := by
  have hasked := @Call.after_asking asking ⟨.small, .empty, []⟩ _ _ _ _ _ _ rfl rfl
    Platform.bound_small
  have hquiet := @serve_quiet (asking.after ⟨.small, .empty, []⟩) calls h
  rw [serve, List.foldl_cons, ← serve, RequestContext.choices?, hquiet, hasked]
  exact (RequestContext.choices_set_choices _ _ _ _).trans (if_pos rfl)

/-- What the editor of the small site was told is remembered when the node has gone live, and is
what a new request is told. -/
theorem answers_fresh_small :
    ∃ known, (serve ⟨.small, .empty, []⟩ [asking, publishing]).context.choices?
        ⟨⟨"node", 1⟩, "field_state", "news_draft", .user 1, false⟩ = some known ∧
      ((Platform.small.choices .small "field_state" (.user 1) "news_draft" false).run
        ((serve ⟨.small, .empty, []⟩ [asking, publishing]).within .empty)).1 = .ok known := by
  have hundisturbed : Undisturbed ⟨.small, .empty, []⟩ Platform.small.resolver (fun _ => none)
      ([] ++ [asking, publishing]) := by
    have hasking : Undisturbed ⟨.small, .empty, []⟩ Platform.small.resolver (fun _ => none)
        ([] ++ [asking]) := by
      refine Undisturbed.nil.concat rfl False.elim ?_
      rintro item ⟨⟩
      rfl
    refine hasking.concat rfl False.elim ?_
    rintro item ⟨⟩
  have hquiet : ∀ call ∈ [publishing], ¬ call.operation.Asks ∧ call.request = none :=
    List.forall_mem_singleton.2 ⟨id, rfl⟩
  have hremembered := asking_remembered hquiet
  have hkept : Item.small.owner = Store.small.ownerOf (fun _ => none) ⟨"node", 1⟩ := rfl
  have hsame := (answers_fresh Store.keyed_small rfl
    (continues_of_one (by simp [asking, publishing])) hundisturbed
    (.left (List.prefix_refl _)) rfl (hkept.trans (hundisturbed.steady.2 _).symm)
    "field_state" (.user 1) "news_draft" false).1
  exact ⟨_, hremembered, hsame.symm.trans (Platform.choices_recalled hremembered)⟩

end Session

end ContentWorkflow
