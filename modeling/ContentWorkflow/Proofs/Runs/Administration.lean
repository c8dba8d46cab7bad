import ContentWorkflow.Proofs.Runs.Action
import ContentWorkflow.Proofs.Runs.Operation
import ContentWorkflow.Proofs.Store.Lookup

/-!
# The steps of the administration

`Store.Managed` lists the writes by which workflows, states, rules and bindings are administered,
each to one table. Every administrative operation is a chain of such writes and of steps that are
only logged, except that purging a state also drops the state and its history. `Store.Written` adds
the writes by which items are kept and pending transitions are dropped.
-/

namespace ContentWorkflow

namespace Operation

/-- The operation is one that may add, change or drop a state. -/
def OnStates : Operation → Prop
  | .createWorkflow .. | .createCreationState .. | .createState .. | .updateState ..
  | .deactivateState .. | .purgeState .. => True
  | _ => False

/-- The operation is one that may change or drop a rule. -/
def OnRules : Operation → Prop
  | .setRuleRoles .. | .setRuleLabel .. | .deactivateState .. | .purgeState .. => True
  | _ => False

/-- The operation asks which states may be chosen. -/
def Asks : Operation → Prop
  | .choices .. | .nextSid .. | .firstSid .. => True
  | _ => False

end Operation

/-- One write of the operation to the workflows, states, rules or bindings that drops no state.
States and rules are written by few operations. States are added under ids that are made from their
workflow and a name. Rules are added by one operation, for states that the workflow can have a rule
for, and fields are bound by another. -/
inductive Store.Managed (operation : Operation) (store : Store) : Store → Prop where
  | addWorkflow {workflow : Workflow} {store' : Store}
      (hwrite : store.addWorkflow workflow = .ok store') : Managed operation store store'
  | setSettings (id : String) (settings : Settings) :
      Managed operation store (store.setSettings id settings)
  | addState {state : State} {name : String} {store' : Store}
      (hid : state.id = MachineName.stateId state.workflowId name)
      (hwrite : store.addState state = .ok store') (hop : operation.OnStates) :
      Managed operation store store'
  | setState (state : State) (hop : operation.OnStates) :
      Managed operation store (store.setState state)
  | addRule {workflow : Workflow} {fromSid toSid : String} {store' : Store}
      (hop : operation = .createRule workflow fromSid toSid)
      (hfits : (store.statesOf workflow.id).ruleObjection? fromSid toSid = none)
      (hwrite : store.addRule (.between workflow.id fromSid toSid) = .ok store') :
      Managed operation store store'
  | setRule (rule : Rule) (hop : operation.OnRules) : Managed operation store (store.setRule rule)
  | dropRule (id : String) (hop : operation.OnRules) : Managed operation store (store.dropRule id)
  | bind {entityType fieldName workflowId : String} {store' : Store}
      (hop : operation = .bindField entityType fieldName workflowId)
      (hwrite : store.bind ⟨entityType, fieldName, workflowId⟩ = .ok store') :
      Managed operation store store'

/-- One write to one table of the store, other than by the engine. -/
inductive Store.Written (store : Store) : Store → Prop where
  | addWorkflow {workflow : Workflow} {store' : Store}
      (hwrite : store.addWorkflow workflow = .ok store') : Written store store'
  | setSettings (id : String) (settings : Settings) : Written store (store.setSettings id settings)
  | addState {state : State} {store' : Store} (hnamed : state.id ≠ "")
      (hwrite : store.addState state = .ok store') : Written store store'
  | setState (state : State) : Written store (store.setState state)
  | dropState (sid : String) : Written store (store.dropState sid)
  | addRule {rule : Rule} {store' : Store} (hwrite : store.addRule rule = .ok store') :
      Written store store'
  | setRule (rule : Rule) : Written store (store.setRule rule)
  | dropRule (id : String) : Written store (store.dropRule id)
  | bind {binding : FieldBinding} {store' : Store} (hwrite : store.bind binding = .ok store') :
      Written store store'
  | saveItem (item : Item) : Written store (store.saveItem item)
  | purgeHistory (sid : String) : Written store (store.purgeHistory sid)
  | dropPending (tid : Int) : Written store (store.dropPending tid)

/-- The id of a state is never empty. -/
theorem MachineName.state_id_named {workflowId name : String} :
    MachineName.stateId workflowId name ≠ "" := by
  intro h
  obtain ⟨⟨-, hmark⟩, -⟩ : (toString workflowId = "" ∧ toString "_" = "") ∧ toString name = "" := by
    simpa [MachineName.stateId] using h
  exact absurd hmark (by decide)

/-- What administers workflows, states, rules and bindings is a write. -/
theorem Store.Managed.written {operation : Operation} {store store' : Store}
    (h : store.Managed operation store') : store.Written store' := by
  cases h with
  | addWorkflow hwrite => exact .addWorkflow hwrite
  | setSettings id settings => exact .setSettings id settings
  | addState hid hwrite _ => exact .addState (hid ▸ MachineName.state_id_named) hwrite
  | setState state _ => exact .setState state
  | addRule _ _ hwrite => exact .addRule hwrite
  | setRule rule _ => exact .setRule rule
  | dropRule id _ => exact .dropRule id
  | bind _ hwrite => exact .bind hwrite

/-- States, rules and bindings are each written by few operations. -/
theorem Store.Managed.tables {operation : Operation} {store store' : Store}
    (h : store.Managed operation store') :
    (store'.states = store.states ∨ operation.OnStates) ∧
      (store'.rules = store.rules ∨ operation.OnRules ∨ ∃ workflow fromSid toSid,
        operation = .createRule workflow fromSid toSid) ∧
      (store'.bindings = store.bindings ∨ ∃ entityType fieldName workflowId,
        operation = .bindField entityType fieldName workflowId) := by
  cases h with
  | addWorkflow hwrite =>
      obtain ⟨-, rfl⟩ := add_workflow_ok hwrite
      exact ⟨Or.inl rfl, Or.inl rfl, Or.inl rfl⟩
  | setSettings => exact ⟨Or.inl rfl, Or.inl rfl, Or.inl rfl⟩
  | addState _ hwrite hop =>
      obtain ⟨-, -, -, rfl⟩ := add_state_ok hwrite
      exact ⟨Or.inr hop, Or.inl rfl, Or.inl rfl⟩
  | setState _ hop => exact ⟨Or.inr hop, Or.inl rfl, Or.inl rfl⟩
  | addRule hop _ hwrite =>
      obtain ⟨-, -, -, rfl⟩ := add_rule_ok hwrite
      exact ⟨Or.inl rfl, Or.inr (Or.inr ⟨_, _, _, hop⟩), Or.inl rfl⟩
  | setRule _ hop => exact ⟨Or.inl rfl, Or.inr (Or.inl hop), Or.inl rfl⟩
  | dropRule _ hop => exact ⟨Or.inl rfl, Or.inr (Or.inl hop), Or.inl rfl⟩
  | bind hop hwrite =>
      obtain ⟨-, rfl⟩ := bind_ok hwrite
      exact ⟨Or.inl rfl, Or.inl rfl, Or.inr ⟨_, _, _, hop⟩⟩

/-- One step of the operation in the administration: the store stays as it is, or one write is made
to its workflows, states, rules or bindings. What the request remembers of transitions stays as it
is, and what it remembers of choices too, unless they are asked for. -/
structure Session.Managed (operation : Operation) (session session' : Session) : Prop where
  store : session'.store = session.store ∨ session.store.Managed operation session'.store
  markers : session'.context.markers = session.context.markers
  choices : session'.context.choices = session.context.choices ∨ operation.Asks

/-- One step of purging the state: a step of the administration, or the history of the state or the
state itself is dropped. -/
inductive Session.Purged (operation : Operation) (sid : String) (session session' : Session) :
    Prop where
  | managed (h : session.Managed operation session')
  | history (hstore : session'.store = session.store.purgeHistory sid)
      (hcontext : session'.context = session.context)
  | state (hstore : session'.store = session.store.dropState sid)
      (hcontext : session'.context = session.context)

/-- One step besides those of the engine: the store stays as it is, or one write is made to it. What
the request remembers of transitions stays as it is. -/
structure Session.Administered (session session' : Session) : Prop where
  store : session'.store = session.store ∨ session.store.Written session'.store
  markers : session'.context.markers = session.context.markers

/-- A step of the administration is one besides those of the engine. -/
theorem Session.Managed.administered {operation : Operation} {session session' : Session}
    (h : session.Managed operation session') : session.Administered session' :=
  ⟨h.store.imp_right Store.Managed.written, h.markers⟩

/-- A step of purging a state is one besides those of the engine. -/
theorem Session.Purged.administered {operation : Operation} {sid : String}
    {session session' : Session} (h : session.Purged operation sid session') :
    session.Administered session' := by
  cases h with
  | managed h => exact h.administered
  | history hstore hcontext =>
      exact ⟨Or.inr (hstore ▸ .purgeHistory sid), congrArg RequestContext.markers hcontext⟩
  | state hstore hcontext =>
      exact ⟨Or.inr (hstore ▸ .dropState sid), congrArg RequestContext.markers hcontext⟩

open ContentWorkflow.Action

variable {α β : Type} {operation : Operation} {workflow : Workflow}

/-! ## Basic actions -/

namespace Action

/-- Logging a line is a step of the administration. -/
theorem managed_log {level : LogLevel} {message : String} :
    Makes (Session.Managed operation) (Action.log level message) :=
  .log (fun _ _ _ => ⟨Or.inl rfl, rfl, Or.inl rfl⟩) level message

/-- A change of the store that is a write is a step of the administration. -/
theorem managed_change {change : Store → Store}
    (h : ∀ store : Store, store.Managed operation (change store)) :
    Makes (Session.Managed operation) (Action.change change) :=
  .change fun session => ⟨Or.inr (h session.store), rfl, Or.inl rfl⟩

/-- A change of the store that may break a key is a step of the administration where it is
a write. -/
theorem managed_attempt {change : Store → Except Constraint Store}
    (h : ∀ (store : Store) store', change store = .ok store' → store.Managed operation store') :
    Makes (Session.Managed operation) (Action.attempt change) :=
  .attempt fun session store hstore =>
    ⟨Or.inr (h session.store store hstore), rfl, Or.inl rfl⟩

end Action

/-! ## Workflows and bindings -/

namespace Workflow

/-- Creating the creation state may add a state. -/
theorem create_creation_state_steps (hop : operation.OnStates) (bulkImport : Bool) :
    Makes (Session.Managed operation) (workflow.createCreationState bulkImport) := by
  unfold createCreationState
  split
  · exact .bind managed_log fun _ _ => .pure _
  · refine .bind .store fun store _ => ?_
    split
    · exact .pure _
    · refine .bind (managed_attempt fun _ _ hwrite => ?_) fun _ _ =>
        .bind managed_log fun _ _ => .pure _
      exact .addState rfl hwrite hop

/-- Creating a workflow adds it and perhaps its creation state. -/
theorem create_steps (hop : operation.OnStates) (id label : String) (settings : Settings)
    (bulkImport : Bool) :
    Makes (Session.Managed operation) (create id label settings bulkImport) := by
  unfold create
  refine .bind .store fun store _ => ?_
  dsimp only
  split
  · exact .refuse_bind _
  · refine .bind (managed_attempt fun _ _ hwrite => .addWorkflow hwrite) fun _ _ => ?_
    exact .bind managed_log fun _ _ =>
      .bind (create_creation_state_steps hop bulkImport) fun _ _ => .pure _

/-- Changing the settings of a workflow is one write. -/
theorem update_settings_steps (settings : Settings) :
    Makes (Session.Managed operation) (workflow.updateSettings settings) := by
  unfold updateSettings
  refine .bind .store fun store _ => ?_
  dsimp only
  split
  · exact .refuse_bind _
  · exact .bind (managed_change fun _ => .setSettings ..) fun _ _ => .pure _

end Workflow

/-- Binding a field adds a binding or replaces one. -/
theorem FieldBinding.create_steps {entityType fieldName workflowId : String}
    (hop : operation = .bindField entityType fieldName workflowId) :
    Makes (Session.Managed operation) (create entityType fieldName workflowId) := by
  unfold create
  refine .bind .store fun store _ => ?_
  dsimp only
  split
  · exact .refuse_bind _
  · refine .bind (managed_attempt fun _ _ hwrite => .bind hop hwrite) fun _ _ => ?_
    exact .bind managed_log fun _ _ => .pure _

/-! ## Rules -/

namespace Workflow

/-- Creating a rule may add it, for states that the workflow can have a rule for. -/
theorem create_rule_steps {fromSid toSid : String}
    (hop : operation = .createRule workflow fromSid toSid) :
    Makes (Session.Managed operation) (workflow.createRule fromSid toSid) := by
  intro session
  refine steps_after .store fun store hstore => ?_
  cases hstore
  dsimp only
  split
  · exact .refl
  · next hfits =>
      split
      · exact .refl
      · refine steps_bind (steps_attempt fun store hwrite => ?_) fun _ middle _ => ?_
        · exact ⟨Or.inr (.addRule hop hfits hwrite), rfl, Or.inl rfl⟩
        · exact Makes.bind managed_log (fun _ _ => .pure _) middle

/-- Looking up a rule takes no steps. -/
theorem rule_steps {step : Session → Session → Prop} (id : String) :
    Makes step (workflow.rule id) :=
  .bind .store fun _ _ => .demand _ _

/-- Setting the roles of a rule is one write. -/
theorem set_rule_roles_steps (hop : operation.OnRules) (id : String) (roles : RoleSet) :
    Makes (Session.Managed operation) (workflow.setRuleRoles id roles) :=
  .bind (rule_steps id) fun _ _ =>
    .bind (managed_change fun _ => .setRule _ hop) fun _ _ => .pure _

/-- Setting the label of a rule is one write. -/
theorem set_rule_label_steps (hop : operation.OnRules) (id : String) (label : Option String) :
    Makes (Session.Managed operation) (workflow.setRuleLabel id label) :=
  .bind (rule_steps id) fun _ _ =>
    .bind (managed_change fun _ => .setRule _ hop) fun _ _ => .pure _

/-- Dropping rules is one write for each. -/
theorem drop_rules_steps (hop : operation.OnRules) (rules : List Rule) :
    Makes (Session.Managed operation) (dropRules rules) :=
  .fold (fun _ rule _ => .bind .store fun _ _ =>
    .bind (managed_change fun _ => .dropRule rule.id hop) fun _ _ => .pure _) 0

/-- Listing rules takes no steps. -/
theorem rules_touching_steps {step : Session → Session → Prop} (sid : String) :
    Makes step (workflow.rulesTouching sid) :=
  .bind .store fun _ _ => .pure _

/-! ## States -/

/-- Looking up a state takes no steps. -/
theorem state_steps {step : Session → Session → Prop} (sid : String) :
    Makes step (workflow.state sid) :=
  .bind .store fun _ _ => .demand _ _

/-- The state that was looked up has the id. -/
theorem state_answers {sid : String} {state : State} (h : (workflow.state sid).Answers state) :
    state.id = sid := by
  obtain ⟨store, -, hdemand⟩ := h.of_bind
  simpa using List.find?_some hdemand.of_demand

/-- Creating a state may add it. -/
theorem create_state_steps (hop : operation.OnStates) (label : String) (weight : Int) :
    Makes (Session.Managed operation) (workflow.createState label weight) := by
  unfold createState
  dsimp only
  split
  · exact .refuse_bind _
  · refine .bind .store fun store _ => ?_
    split
    · exact .pure _
    · refine .bind (managed_attempt fun _ _ hwrite => ?_) fun _ _ =>
        .bind managed_log fun _ _ => .pure _
      exact .addState rfl hwrite hop

/-- Changing a state is one write. -/
theorem update_state_steps (hop : operation.OnStates) (sid : String) (label : Option String)
    (weight : Option Int) :
    Makes (Session.Managed operation) (workflow.updateState sid label weight) := by
  unfold updateState
  refine .bind (state_steps sid) fun state _ => ?_
  dsimp only
  split
  · exact .refuse_bind _
  · exact .bind (managed_change fun _ => .setState _ hop) fun _ _ => .pure _

/-- Looking up the state to move items to takes no steps. -/
theorem reassignment_target_steps {step : Session → Session → Prop} {states : States}
    {state : State} (sid : String) : Makes step (reassignmentTarget states state sid) := by
  refine .bind (.demand _ _) fun target _ => ?_
  dsimp only
  split
  · exact .refuse_bind _
  · exact .pure target

/-- The state to move items to has the id. -/
theorem reassignment_target_answers {states : States} {state target : State} {sid : String}
    (h : (reassignmentTarget states state sid).Answers target) : target.id = sid := by
  obtain ⟨found, hdemand, hrest⟩ := h.of_bind
  have hfound := (Option.filter_eq_some_iff.1 hdemand.of_demand).1
  dsimp only at hrest
  split at hrest
  · obtain ⟨_, hrefused, -⟩ := hrest.of_bind
    exact absurd hrefused Answers.not_refuse
  · rw [hrest.eq_of_pure]
    simpa using List.find?_some hfound

/-- Purging a state drops its rules, its history and the state. -/
theorem purge_state_steps (hop : operation.OnRules) (sid : String) :
    Makes (Session.Purged operation sid) (workflow.purgeState sid) := by
  have hmanaged : ∀ {α : Type} {action : Action α}, action.Makes (Session.Managed operation) →
      action.Makes (Session.Purged operation sid) := fun h => h.mono fun _ _ => .managed
  unfold purgeState
  refine .bind (state_steps sid) fun state hstate => ?_
  obtain rfl := state_answers hstate
  dsimp only
  split
  · exact .refuse_bind _
  · refine .bind (rules_touching_steps state.id) fun rules _ => ?_
    refine .bind (hmanaged (drop_rules_steps hop rules)) fun dropped _ => .bind .store fun _ _ => ?_
    refine .bind (.change fun session => .history rfl rfl) fun _ _ => ?_
    refine .bind (.change fun session => .state rfl rfl) fun _ _ => ?_
    exact .bind (hmanaged managed_log) fun _ _ => .pure _

end Workflow

/-! ## Choices -/

namespace Platform

variable {platform : Platform} {item : Item} {fieldName : String} {agent : Agent}
  {fromSid : String} {force : Bool}

/-- Looking up the workflow of a field takes no steps. -/
theorem bound_workflow_steps {step : Session → Session → Prop} {store : Store}
    {entityType fieldName : String} :
    Makes step (liftM (store.boundWorkflow entityType fieldName) : Action Workflow) := by
  refine .of_still fun session => ?_
  cases store.boundWorkflow entityType fieldName with
  | error fault => rfl
  | ok workflow => rfl

/-- Listing choices is a step of the administration, because the request remembers them. -/
theorem choices_steps (hop : operation.Asks) :
    Makes (Session.Managed operation) (platform.choices item fieldName agent fromSid force) := by
  refine .bind (.of_still fun _ => rfl) fun session _ => ?_
  split
  · exact .bind managed_log fun _ _ => .pure _
  · refine .bind .store fun store _ => .bind bound_workflow_steps fun workflow _ => ?_
    refine .bind (fun session => .single ?_) fun _ _ => .pure _
    exact ⟨Or.inl rfl, rfl, Or.inr hop⟩

/-- Asking for the next state lists choices. -/
theorem next_sid_steps (hop : operation.Asks) :
    Makes (Session.Managed operation) (platform.nextSid item fieldName agent force) :=
  .bind .store fun _ _ => .bind bound_workflow_steps fun _ _ =>
    .bind (choices_steps hop) fun _ _ => .pure _

/-- Asking for the first state lists choices. -/
theorem first_sid_steps (hop : operation.Asks) :
    Makes (Session.Managed operation) (platform.firstSid item fieldName agent force) := by
  refine .bind .store fun _ _ => .bind bound_workflow_steps fun _ _ =>
    .bind (choices_steps hop) fun choices _ => ?_
  dsimp only
  split
  · exact .bind managed_log fun _ _ => .pure _
  · exact .pure _

end Platform

end ContentWorkflow
