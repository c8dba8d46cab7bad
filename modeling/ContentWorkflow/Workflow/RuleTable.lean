import ContentWorkflow.Workflow.Rule
import ContentWorkflow.Workflow.State

/-!
# The rules of a workflow

Two selections from the rules of a workflow. `select` lists the rules that leave a usable state, for
those who edit them. `applying` lists the rules that an item in a given state may use: the rules of
that state, and the rules for every state to the states that no rule of its own leads to. Both are
ordered by the weights of the states, a state that is not known before every weight.
-/

namespace ContentWorkflow

/-- The weight of the state with the id. -/
def States.weight? (states : States) (sid : String) : Option Int :=
  (states.get? sid).map (·.weight)

/-- The first weight is before the second. A missing weight is before every weight. -/
def Lighter : Option Int → Option Int → Prop
  | _, none => False
  | none, some _ => True
  | some first, some second => first < second

instance (first second : Option Int) : Decidable (Lighter first second) :=
  match first, second with
  | none, none => inferInstanceAs (Decidable False)
  | some _, none => inferInstanceAs (Decidable False)
  | none, some _ => inferInstanceAs (Decidable True)
  | some first, some second => inferInstanceAs (Decidable (first < second))

/-- The id names a state that items may leave. -/
def States.UsableFrom (states : States) (sid : String) : Prop :=
  ∃ state ∈ states.get? sid, state.Usable

instance (states : States) (sid : String) : Decidable (states.UsableFrom sid) :=
  match h : states.get? sid with
  | none => isFalse (by simp [States.UsableFrom, h])
  | some state =>
      if usable : state.Usable then isTrue ⟨state, h, usable⟩
      else isFalse (by
        rintro ⟨other, hother, hu⟩
        rw [h] at hother
        exact usable (Option.some.inj hother ▸ hu))

namespace Rule

/-- The first rule leads to a lighter state, or to one as heavy with the smaller id. -/
def LeadsBefore (states : States) (first second : Rule) : Prop :=
  Lighter (states.weight? first.toSid) (states.weight? second.toSid) ∨
    states.weight? first.toSid = states.weight? second.toSid ∧ first.toSid ≤ second.toSid

instance (states : States) (first second : Rule) : Decidable (LeadsBefore states first second) :=
  inferInstanceAs (Decidable (_ ∨ _))

/-- The first rule leaves a lighter state, or one as heavy and leads before the second. -/
def StandsBefore (states : States) (first second : Rule) : Prop :=
  Lighter (states.weight? first.fromSid) (states.weight? second.fromSid) ∨
    states.weight? first.fromSid = states.weight? second.fromSid ∧
      LeadsBefore states first second

instance (states : States) (first second : Rule) : Decidable (StandsBefore states first second) :=
  inferInstanceAs (Decidable (_ ∨ _))

end Rule

/-- Rules of one workflow. -/
structure Rules where
  toList : List Rule
  deriving DecidableEq

namespace Rules

/-- The rule for exactly the two states. -/
def find? (rules : Rules) (fromSid toSid : String) : Option Rule :=
  rules.toList.find? fun rule => rule.fromSid = fromSid ∧ rule.toSid = toSid

/-- The rules that the filter asks for among those that leave a usable state or every state, in the
order of the states they leave and then of the states they lead to. -/
def select (rules : Rules) (states : States) (filter : RuleFilter) : Rules :=
  ⟨(rules.toList.filter fun rule =>
      (rule.fromSid = "" ∨ states.UsableFrom rule.fromSid) ∧ rule.Matches filter).mergeSort
    fun first second => decide (Rule.StandsBefore states first second)⟩

/-- The rule is for items in the state: it leaves the state, or it leaves every state and no rule of
the state's own leads where it leads. -/
def AppliesTo (rules : Rules) (sid : String) (rule : Rule) : Prop :=
  rule.fromSid = sid ∨
    rule.fromSid = "" ∧ ∀ own ∈ rules.toList, own.fromSid = sid → own.toSid ≠ rule.toSid

instance (rules : Rules) (sid : String) (rule : Rule) : Decidable (rules.AppliesTo sid rule) :=
  inferInstanceAs (Decidable (_ ∨ _))

/-- The rules that an item in the state may use, in the order of the states they lead to. No rule
applies to a state that items may not leave, and none leads to a state that is not known. -/
def applying (rules : Rules) (states : States) (sid : String) : Rules :=
  if states.UsableFrom sid then
    ⟨(rules.toList.filter fun rule => rules.AppliesTo sid rule ∧ states.Known rule.toSid).mergeSort
      fun first second => decide (Rule.LeadsBefore states first second)⟩
  else ⟨[]⟩

theorem mem_select {rules : Rules} {states : States} {filter : RuleFilter} {rule : Rule} :
    rule ∈ (rules.select states filter).toList ↔
      rule ∈ rules.toList ∧ (rule.fromSid = "" ∨ states.UsableFrom rule.fromSid) ∧
        rule.Matches filter := by
  simp [select]

theorem mem_applying {rules : Rules} {states : States} {sid : String} {rule : Rule} :
    rule ∈ (rules.applying states sid).toList ↔
      states.UsableFrom sid ∧ rule ∈ rules.toList ∧ rules.AppliesTo sid rule ∧
        states.Known rule.toSid := by
  rw [applying]
  split
  · next h => simp [h]
  · next h => simp [h]

end Rules

end ContentWorkflow
