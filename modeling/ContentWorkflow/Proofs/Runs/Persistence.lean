import ContentWorkflow.Administration.Rules
import ContentWorkflow.Proofs.Administration.Creation
import ContentWorkflow.Proofs.Engine.Execution
import ContentWorkflow.Proofs.Runs.Action

/-!
# What is written reads back

A pending transition keeps its attached data as a JSON text, a rule its roles and a workflow its
settings. Each table is looked up after each of its writes (`pending_for_add_pending`,
`rule_set_rule`, `workflow_set_settings`), the runs of the writing actions are followed, and
`written_reads_back` puts them together: what is asked for after a write is what was written, and
the kept text stands for it (`Document.Holds`).
-/

namespace ContentWorkflow

/-- The document is the JSON text of the value and reads as the value. -/
def Document.Holds {α : Type} [JsonForm α] (document : Document α) (value : α) : Prop :=
  document.text = JsonForm.toText value ∧ JsonForm.ofText? document.text = some value

/-- The document written for a value holds the value. -/
theorem Document.holds_of {α : Type} [JsonForm α] [LawfulJsonForm α] (value : α) :
    (Document.of value).Holds value :=
  ⟨rfl, Document.of_text_to_text value⟩

/-- The rule with the label and the roles in place of its own. -/
def Rule.labelled (rule : Rule) (label : Option String) (roles : RoleSet) : Rule :=
  { rule with label := label, roles := roles }

/-- The transition as it waits under the number. -/
def Transition.waiting (transition : Transition) (tid : Int) : Transition :=
  { transition with id := tid, scheduled := true, executed := false, status := .scheduled }

namespace Store

variable {store : Store}

/-! ## Tables after a write -/

/-- The transition that was added last is the one found for its field. -/
theorem pending_for_add_pending (store : Store) (transition : Transition) :
    (store.addPending transition).pendingFor? transition.target transition.fieldName =
      some (transition.waiting (store.lastTid + 1)) := by
  have hown : (PendingRow.of (store.lastTid + 1) transition).IsFor transition.target
      transition.fieldName := ⟨rfl, rfl⟩
  simp [pendingFor?, addPending, hown, Transition.waiting]

/-- After a write to a rule every rule is found as it was, but for the label and the roles of the
one written to. -/
theorem rule_set_rule (store : Store) (written : Rule) (id : String) :
    (store.setRule written).rule? id =
      (store.rule? id).map fun rule =>
        if rule.id = written.id then rule.labelled written.label written.roles else rule := by
  rw [rule?, setRule, find_changed fun row => by split <;> rfl, rule?, Option.map_map,
    Option.map_map]
  congr 1
  funext row
  by_cases h : row.id = written.id
  · simp [h, RuleRow.toRule, Rule.labelled]
  · simp [h, RuleRow.toRule]

/-- Of two writes to a rule the second is what stays. -/
theorem set_rule_set_rule (store : Store) {first second : Rule} (h : first.id = second.id) :
    (store.setRule first).setRule second = store.setRule second := by
  simp only [setRule, List.map_map]
  congr 2
  funext row
  by_cases hid : row.id = second.id <;> simp [h, hid]

/-- After a write to the settings of a workflow every workflow is found as it was, but for the
settings of the one written to. -/
theorem workflow_set_settings (store : Store) (written : String) (settings : Settings)
    (id : String) :
    (store.setSettings written settings).workflow? id =
      (store.workflow? id).map fun workflow =>
        if workflow.id = written then { workflow with settings := settings } else workflow := by
  rw [workflow?, setSettings, find_changed fun row => by split <;> rfl, workflow?, Option.map_map,
    Option.map_map]
  congr 1
  funext row
  by_cases h : row.id = written
  · simp [h, WorkflowRow.toWorkflow]
  · simp [h, WorkflowRow.toWorkflow]

/-! ## What the rows hold -/

/-- The row of a transition that was added holds its attached data. -/
theorem add_pending_holds (store : Store) (transition : Transition) :
    ∃ row ∈ (store.addPending transition).pending,
      row.tid = store.lastTid + 1 ∧ row.attached.Holds transition.attached :=
  ⟨.of (store.lastTid + 1) transition, List.mem_append_right _ List.mem_cons_self, rfl,
    Document.holds_of _⟩

/-- The row of a rule that was written to holds its roles. -/
theorem set_rule_holds {rule : Rule} (hrule : store.rule? rule.id = some rule) (written : Rule)
    (hid : written.id = rule.id) :
    ∃ row ∈ (store.setRule written).rules, row.id = rule.id ∧ row.roles.Holds written.roles := by
  obtain ⟨row, hrow, hread⟩ := Option.map_eq_some_iff.1 hrule
  have hrowid : row.id = written.id := hid ▸ congrArg Rule.id hread
  refine ⟨_, List.mem_map.2 ⟨row, List.mem_of_find?_eq_some hrow, rfl⟩, ?_⟩
  rw [if_pos hrowid]
  exact ⟨hrowid.trans hid, Document.holds_of _⟩

/-- The row of a workflow that was written to holds its settings. -/
theorem set_settings_holds {workflow : Workflow} {id : String}
    (hworkflow : store.workflow? id = some workflow) (settings : Settings) :
    ∃ row ∈ (store.setSettings id settings).workflows,
      row.id = id ∧ row.settings.Holds settings := by
  obtain ⟨row, hrow, hread⟩ := Option.map_eq_some_iff.1 hworkflow
  have hrowid : row.id = id := by simpa using List.find?_some hrow
  refine ⟨_, List.mem_map.2 ⟨row, List.mem_of_find?_eq_some hrow, rfl⟩, ?_⟩
  rw [if_pos hrowid]
  exact ⟨hrowid, Document.holds_of _⟩

end Store

/-- The session once the rule was written. -/
def Session.withRule (session : Session) (rule : Rule) : Session :=
  { session with store := session.store.setRule rule }

/-- Of two writes to a rule the second is what stays. -/
theorem Session.with_rule_with_rule (session : Session) {first second : Rule}
    (h : first.id = second.id) :
    (session.withRule first).withRule second = session.withRule second :=
  congrArg (fun store => { session with store := store }) (Store.set_rule_set_rule _ h)

/-- The session once the settings of the workflow were written. -/
def Session.withSettings (session : Session) (id : String) (settings : Settings) : Session :=
  { session with store := session.store.setSettings id settings }

namespace Workflow

open ContentWorkflow.Action

variable {workflow : Workflow} {rule : Rule} {session : Session}

/-! ## Runs of the writing actions -/

/-- The rule of the workflow is found under its id. -/
def Finds (workflow : Workflow) (store : Store) (rule : Rule) : Prop :=
  store.rule? rule.id = some rule ∧ rule.workflowId = workflow.id

/-- A rule that is found is what looking it up gives. -/
theorem Finds.run (hfound : workflow.Finds session.store rule) :
    (workflow.rule rule.id).run session = (.ok rule, session) := by
  obtain ⟨hrule, hworkflow⟩ := hfound
  rw [Workflow.rule, run_bind, run_store]
  dsimp only
  rw [hrule, Option.filter_some, if_pos (decide_eq_true hworkflow)]
  rfl

/-- A rule that was written is found as it was written. -/
theorem Finds.with_rule (hfound : workflow.Finds session.store rule) (label : Option String)
    (roles : RoleSet) :
    workflow.Finds (session.withRule (rule.labelled label roles)).store
      (rule.labelled label roles) := by
  refine ⟨?_, hfound.2⟩
  have hrule : session.store.rule? (rule.labelled label roles).id = some rule := hfound.1
  rw [Session.withRule, Store.rule_set_rule, hrule, Option.map_some]
  exact congrArg some (if_pos rfl)

/-- Setting the roles of a rule writes it with these roles. -/
theorem set_rule_roles_run (hfound : workflow.Finds session.store rule) (roles : RoleSet) :
    (workflow.setRuleRoles rule.id roles).run session =
      (.ok (rule.labelled rule.label roles),
        session.withRule (rule.labelled rule.label roles)) := by
  rw [setRuleRoles, run_bind, hfound.run]
  rfl

/-- Setting the label of a rule writes it with this label. -/
theorem set_rule_label_run (hfound : workflow.Finds session.store rule) (label : Option String) :
    (workflow.setRuleLabel rule.id label).run session =
      (.ok (rule.labelled label rule.roles),
        session.withRule (rule.labelled label rule.roles)) := by
  rw [setRuleLabel, run_bind, hfound.run]
  rfl

/-- The rule that is found under the id after two writes. -/
def foundAfter (workflow : Workflow) (id : String) (first second : Action Rule) : Action Rule := do
  let _ ← first
  let _ ← second
  workflow.rule id

/-- After two writes to a rule it is found with the label and the roles of the second. -/
theorem found_after_run {first second : Action Rule} {label other : Option String}
    {roles more : RoleSet} (hfound : workflow.Finds session.store rule)
    (hfirst : first.run session =
      (.ok (rule.labelled label roles), session.withRule (rule.labelled label roles)))
    (hsecond : second.run (session.withRule (rule.labelled label roles)) =
      (.ok (rule.labelled other more),
        (session.withRule (rule.labelled label roles)).withRule (rule.labelled other more))) :
    (workflow.foundAfter rule.id first second).run session =
      (.ok (rule.labelled other more), session.withRule (rule.labelled other more)) := by
  have hboth : (session.withRule (rule.labelled label roles)).withRule (rule.labelled other more) =
      session.withRule (rule.labelled other more) :=
    session.with_rule_with_rule rfl
  rw [foundAfter, run_bind, hfirst]
  dsimp only
  rw [run_bind, hsecond]
  dsimp only
  rw [hboth]
  exact (hfound.with_rule other more).run

/-- Updating the settings of a workflow that is kept writes them. -/
theorem update_settings_run {kept : Workflow}
    (hkept : session.store.workflow? workflow.id = some kept) (settings : Settings) :
    (workflow.updateSettings settings).run session =
      (.ok { workflow with settings := settings },
        session.withSettings workflow.id settings) := by
  have hhas : session.store.HasWorkflow workflow.id := by simp [Store.HasWorkflow, hkept]
  rw [updateSettings, run_bind, run_store]
  dsimp only
  rw [if_neg (not_not.2 hhas)]
  rfl

/-- A workflow that is kept is what loading it gives. -/
theorem load_run {id : String} {kept : Workflow} (hkept : session.store.workflow? id = some kept) :
    (Workflow.load id).run session = (.ok kept, session) := by
  rw [load, run_bind, run_store]
  dsimp only
  rw [hkept]
  rfl

/-- The settings of the workflow are updated, and it is loaded. -/
def loadUpdated (workflow : Workflow) (settings : Settings) : Action Workflow := do
  let _ ← workflow.updateSettings settings
  Workflow.load workflow.id

/-- A workflow that is kept is loaded with the settings to which it was updated. -/
theorem load_updated_run {kept : Workflow}
    (hkept : session.store.workflow? workflow.id = some kept) (settings : Settings) :
    (workflow.loadUpdated settings).run session =
      (.ok { kept with settings := settings }, session.withSettings workflow.id settings) := by
  have hwritten : (session.withSettings workflow.id settings).store.workflow? workflow.id =
      some { kept with settings := settings } := by
    rw [Session.withSettings, Store.workflow_set_settings, hkept, Option.map_some,
      if_pos (Store.workflow_id hkept)]
  rw [loadUpdated, run_bind, update_settings_run hkept]
  exact load_run hwritten

end Workflow

namespace Session

/-- A transition that is scheduled is the one pending for its field, under the number that was
given to it. -/
theorem pending_for_schedule (session : Session) (transition : Transition) :
    (session.schedule transition).2.store.pendingFor? transition.target transition.fieldName =
      some (transition.waiting (session.schedule transition).1.id) := by
  rw [Platform.schedule_store, Platform.schedule_fst]
  exact Store.pending_for_add_pending _ transition

/-- The row of a transition that is scheduled holds its attached data. -/
theorem schedule_holds (session : Session) (transition : Transition) :
    ∃ row ∈ (session.schedule transition).2.store.pending,
      row.tid = (session.schedule transition).1.id ∧ row.attached.Holds transition.attached := by
  rw [Platform.schedule_store]
  exact Store.add_pending_holds _ transition

/-- What is written is what is read, whatever the texts are made of. A transition that is scheduled
is pending under the number given to it with everything it had. A rule whose roles and label are
set, in either order, is found with just these. A workflow whose settings are updated is loaded
with just these. In each case the kept text is the JSON text of the value and reads as it. -/
theorem written_reads_back (session : Session) :
    (∀ transition : Transition,
      let scheduled := session.schedule transition
      scheduled.2.store.pendingFor? transition.target transition.fieldName =
          some { transition with
            id := scheduled.1.id, scheduled := true, executed := false, status := .scheduled } ∧
        ∃ row ∈ scheduled.2.store.pending,
          row.tid = scheduled.1.id ∧ row.attached.Holds transition.attached) ∧
    (∀ (workflow : Workflow) (rule : Rule), workflow.Finds session.store rule →
      ∀ (label : Option String) (roles : RoleSet),
        let written := session.withRule { rule with label := label, roles := roles }
        (workflow.foundAfter rule.id (workflow.setRuleRoles rule.id roles)
            (workflow.setRuleLabel rule.id label)).run session =
          (.ok { rule with label := label, roles := roles }, written) ∧
        (workflow.foundAfter rule.id (workflow.setRuleLabel rule.id label)
            (workflow.setRuleRoles rule.id roles)).run session =
          (.ok { rule with label := label, roles := roles }, written) ∧
        ∃ row ∈ written.store.rules, row.id = rule.id ∧ row.roles.Holds roles) ∧
    ∀ workflow kept : Workflow, session.store.workflow? workflow.id = some kept →
      ∀ settings : Settings,
        let written := session.withSettings workflow.id settings
        (workflow.loadUpdated settings).run session =
          (.ok { kept with settings := settings }, written) ∧
        ∃ row ∈ written.store.workflows,
          row.id = workflow.id ∧ row.settings.Holds settings := by
  refine ⟨?_, ?_, ?_⟩
  · intro transition scheduled
    exact ⟨session.pending_for_schedule transition, session.schedule_holds transition⟩
  · intro workflow rule hfound label roles written
    refine ⟨?_, ?_, ?_⟩
    · have hbetween := hfound.with_rule rule.label roles
      exact Workflow.found_after_run hfound (Workflow.set_rule_roles_run hfound roles)
        (Workflow.set_rule_label_run hbetween label)
    · have hbetween := hfound.with_rule label rule.roles
      exact Workflow.found_after_run hfound (Workflow.set_rule_label_run hfound label)
        (Workflow.set_rule_roles_run hbetween roles)
    · exact Store.set_rule_holds hfound.1 _ rfl
  · intro workflow kept hkept settings written
    exact ⟨Workflow.load_updated_run hkept settings, Store.set_settings_holds hkept settings⟩

/-- On the small site a text with a quote, a backslash, control characters and a letter outside
ASCII reads back as a comment, as attached data, as a label and as a role. -/
theorem written_reads_back_escaped :
    let text := "\"\\\n\x00é"
    let attached := Dictionary.ofList [(text, text)]
    let transition := { Transition.small with comment := some text, attached := attached }
    let rule := { Rule.between "news" "news_draft" "news_live" with
      roles := RoleSet.ofList ["editor"] }
    let settings := { Settings.standard with options := .dropbutton, commentRequired := true }
    let session : Session := ⟨.small, .empty, []⟩
    (session.schedule transition).2.store.pendingFor? ⟨"node", 1⟩ "field_state" =
        some { transition with id := 1, scheduled := true, status := .scheduled } ∧
      Workflow.small.Finds session.store rule ∧
      ((Workflow.small.foundAfter rule.id
          (Workflow.small.setRuleRoles rule.id (RoleSet.ofList [text]))
          (Workflow.small.setRuleLabel rule.id (some text))).run session).1 =
        .ok { rule with label := some text, roles := RoleSet.ofList [text] } ∧
      session.store.workflow? Workflow.small.id = some Workflow.small ∧
      ((Workflow.small.loadUpdated settings).run session).1 =
        .ok ⟨"news", "News", settings⟩ := by
  intro text attached transition rule settings session
  obtain ⟨hpending, hrules, hsettings⟩ := written_reads_back session
  have hfound : Workflow.small.Finds session.store rule := by
    have hrow : session.store.rules.find? (fun row => row.id = rule.id) = some (.of rule) :=
      List.find?_cons_of_pos (decide_eq_true rfl)
    refine ⟨?_, rfl⟩
    rw [Store.rule?, hrow, Option.map_some, RuleRow.to_rule_of]
  have hkept : session.store.workflow? Workflow.small.id = some Workflow.small := by
    have hrow : session.store.workflows.find? (fun row => row.id = Workflow.small.id) =
        some (.of .small) := rfl
    rw [Store.workflow?, hrow, Option.map_some, WorkflowRow.to_workflow_of]
  refine ⟨(hpending transition).1, hfound, ?_, hkept, ?_⟩
  · exact congrArg Prod.fst (hrules .small rule hfound (some text) (RoleSet.ofList [text])).1
  · exact congrArg Prod.fst (hsettings .small .small hkept settings).1

end Session

end ContentWorkflow
