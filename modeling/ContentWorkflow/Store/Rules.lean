import ContentWorkflow.Store.Workflows

/-!
# Kept rules
-/

namespace ContentWorkflow

/-- The rule of a row. -/
def RuleRow.toRule (row : RuleRow) : Rule :=
  ⟨row.id, row.workflowId, row.fromSid, row.toSid, row.label, row.roles.value⟩

/-- The row of a rule. -/
def RuleRow.of (rule : Rule) : RuleRow :=
  ⟨rule.id, rule.workflowId, rule.fromSid, rule.toSid, rule.label, Document.of rule.roles⟩

@[simp] theorem RuleRow.to_rule_of (rule : Rule) : (of rule).toRule = rule := by
  simp [toRule, of]

namespace Store

/-- The rule with the id. -/
def rule? (store : Store) (id : String) : Option Rule :=
  (store.rules.find? (·.id = id)).map (·.toRule)

/-- The rules of a workflow, by id. -/
def rulesOf (store : Store) (workflowId : String) : Rules :=
  ⟨((store.rules.filter (·.workflowId = workflowId)).map (·.toRule)).mergeSort
    fun first second => decide (first.id ≤ second.id)⟩

/-- A further rule is kept. -/
def addRule (store : Store) (rule : Rule) : Except Constraint Store :=
  -- of several broken constraints that of the newest index is reported, and the reference last
  if ∃ row ∈ store.rules,
      row.workflowId = rule.workflowId ∧ row.fromSid = rule.fromSid ∧ row.toSid = rule.toSid
  then .error .rulePair
  else if (store.rule? rule.id).isSome then .error .ruleId
  else if store.HasWorkflow rule.workflowId then
    .ok { store with rules := store.rules ++ [.of rule] }
  else .error .reference

/-- The rule with the id of the given one gets its label and its roles. -/
def setRule (store : Store) (rule : Rule) : Store :=
  { store with
    rules := store.rules.map fun row =>
      if row.id = rule.id then { row with label := rule.label, roles := Document.of rule.roles }
      else row }

/-- The rule is no longer kept. -/
def dropRule (store : Store) (id : String) : Store :=
  { store with rules := store.rules.filter (·.id ≠ id) }

end Store

end ContentWorkflow
