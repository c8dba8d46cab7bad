import ContentWorkflow.Access.RoleSet

/-!
# Transition rules

A rule lets the holders of its roles take items of a workflow from one state to another. A rule with
an empty id in place of the state it leaves is for every state. The id of a rule is composed of the
ids of its workflow and of its states, and cut at a fixed length.
-/

namespace ContentWorkflow

/-- A rule of a workflow. -/
structure Rule where
  id : String
  workflowId : String
  /-- The state that is left, or the empty text for every state. -/
  fromSid : String
  toSid : String
  label : Option String
  roles : RoleSet
  deriving DecidableEq

/-- Which rules are asked for, by either state. -/
structure RuleFilter where
  fromSid : Option String
  toSid : Option String
  deriving DecidableEq

/-- A state that somebody may choose, under the label shown for it. -/
structure Choice where
  sid : String
  label : String
  deriving DecidableEq

namespace Rule

/-- The greatest number of characters of a rule id. -/
def idLimit : Nat :=
  166

/-- The id of a state without the id of the workflow at its start, where it begins with that. -/
def withoutWorkflow (workflowId sid : String) : List Char :=
  if workflowId.toList.isPrefixOf sid.toList then sid.toList.drop workflowId.length
  else sid.toList

/-- The id of the workflow's rule for the two states. -/
def composeId (workflowId fromSid toSid : String) : String :=
  String.ofList <|
    (workflowId.toList ++ withoutWorkflow workflowId fromSid ++
      withoutWorkflow workflowId toSid).take idLimit

/-- A rule without a label that nobody may use yet. -/
def between (workflowId fromSid toSid : String) : Rule where
  id := composeId workflowId fromSid toSid
  workflowId := workflowId
  fromSid := fromSid
  toSid := toSid
  label := none
  roles := RoleSet.empty

/-- The rule leads to a state other than the one it leaves. -/
def ChangesState (rule : Rule) : Prop :=
  rule.fromSid ≠ rule.toSid

instance (rule : Rule) : Decidable rule.ChangesState :=
  inferInstanceAs (Decidable (_ ≠ _))

/-- An agent with the roles may use the rule. Force and the bypass capability need no role, and
neither does staying in a state. -/
def Allows (rule : Rule) (roles : RoleSet) (bypass force : Bool) : Prop :=
  force ∨ bypass ∨ ¬ rule.ChangesState ∨ rule.roles.Intersects roles

instance (rule : Rule) (roles : RoleSet) (bypass force : Bool) :
    Decidable (rule.Allows roles bypass force) :=
  inferInstanceAs (Decidable (_ ∨ _))

/-- The filter asks for the rule. -/
def Matches (rule : Rule) (filter : RuleFilter) : Prop :=
  (∀ sid ∈ filter.fromSid, rule.fromSid = sid) ∧ ∀ sid ∈ filter.toSid, rule.toSid = sid

instance (rule : Rule) (filter : RuleFilter) : Decidable (rule.Matches filter) :=
  inferInstanceAs (Decidable (_ ∧ _))

/-- The rule has the state at one of its ends. -/
def Touches (rule : Rule) (sid : String) : Prop :=
  rule.fromSid = sid ∨ rule.toSid = sid

instance (rule : Rule) (sid : String) : Decidable (rule.Touches sid) :=
  inferInstanceAs (Decidable (_ ∨ _))

/-- The label of the rule, or its two states where it has none. -/
def toText (rule : Rule) : String :=
  rule.label.getD s!"{rule.fromSid} -> {rule.toSid}"

end Rule

/-- The filter that asks for every rule. -/
def RuleFilter.every : RuleFilter :=
  ⟨none, none⟩

/-- The label with the id of the state behind it. -/
def Choice.toText (choice : Choice) : String :=
  s!"{choice.label} ({choice.sid})"

end ContentWorkflow
