import ContentWorkflow.Workflow.RuleTable
import Mathlib.Data.List.Nodup

/-!
# Which rules apply to a state

Several rules may lead from a state to one state: its own rule and the rule for every state. Those
that apply are settled so that one rule leads to each known state, the own one where there is one,
and so that they stand in the order of the states that they lead to (`applying_ascends`). The main
theorem, `applying_settled`, says which rule that is, and that the own rules of the state stand
among those that apply as they stand in the selection by the state.
-/

namespace ContentWorkflow

/-! ## The order of states -/

/-- The first state is below the second: it is lighter, or as heavy with the smaller id. -/
def State.Below (first second : State) : Prop :=
  first.weight < second.weight ∨ first.weight = second.weight ∧ first.id < second.id

/-- Both ids name states, and that of the first is below that of the second. -/
def States.Ascends (states : States) (fromSid toSid : String) : Prop :=
  ∃ first ∈ states.get? fromSid, ∃ second ∈ states.get? toSid, first.Below second

namespace States.Ascends

variable {states : States} {first second third : String}

/-- Who goes up twice goes up. -/
theorem trans (h : states.Ascends first second) (h' : states.Ascends second third) :
    states.Ascends first third := by
  obtain ⟨low, hlow, middle, hmiddle, hbelow⟩ := h
  obtain ⟨_, hsame, high, hhigh, hbelow'⟩ := h'
  cases Option.mem_unique hmiddle hsame
  refine ⟨low, hlow, high, hhigh, ?_⟩
  rcases hbelow with h | ⟨hweight, hid⟩ <;> rcases hbelow' with h' | ⟨hweight', hid'⟩
  · exact Or.inl (by omega)
  · exact Or.inl (by omega)
  · exact Or.inl (by omega)
  · exact Or.inr ⟨by omega, String.lt_trans hid hid'⟩

/-- Nobody goes up and stays where it is. -/
theorem ne (h : states.Ascends first second) : first ≠ second := by
  rintro rfl
  obtain ⟨state, hstate, _, hsame, hbelow⟩ := h
  cases Option.mem_unique hstate hsame
  rcases hbelow with h | ⟨-, hid⟩
  · omega
  · exact String.lt_irrefl state.id hid

/-- Who goes up arrives at a known state. -/
theorem known (h : states.Ascends first second) : states.Known second := by
  obtain ⟨_, _, state, hstate, _⟩ := h
  exact Option.isSome_iff_exists.2 ⟨state, hstate⟩

end States.Ascends

/-- Where no two states have one id, items may leave the states that are active or a creation
state. -/
theorem States.usable_from_iff {states : States} (hids : (states.toList.map (·.id)).Nodup)
    {sid : String} :
    states.UsableFrom sid ↔ ∃ state ∈ states.toList, state.id = sid ∧ state.Usable := by
  constructor
  · rintro ⟨state, hstate, husable⟩
    exact ⟨state, List.mem_of_find?_eq_some hstate, by simpa using List.find?_some hstate, husable⟩
  · rintro ⟨state, hstate, rfl, husable⟩
    obtain ⟨found, hfound⟩ : ∃ found, states.get? state.id = some found := by
      rw [← Option.isSome_iff_exists, get?, List.find?_isSome]
      exact ⟨state, hstate, by simp⟩
    -- what is found under the id is the state, because no other one has the id
    have hid : found.id = state.id := by simpa using List.find?_some hfound
    obtain rfl := List.inj_on_of_nodup_map hids (List.mem_of_find?_eq_some hfound) hstate hid
    exact ⟨found, hfound, husable⟩

/-! ## The order of rules -/

/-- To come before a third one by the weight and then by something else, it is enough to do so
twice. -/
theorem Lighter.lex_trans {first second third : Option Int} {p q r : Prop} (hrest : p → q → r)
    (h : Lighter first second ∨ first = second ∧ p)
    (h' : Lighter second third ∨ second = third ∧ q) :
    Lighter first third ∨ first = third ∧ r := by
  rcases h with h | ⟨rfl, hp⟩ <;> rcases h' with h' | ⟨rfl, hq⟩
  · left
    cases first <;> cases second <;> cases third <;> simp only [Lighter] at *
    omega
  · exact Or.inl h
  · exact Or.inl h'
  · exact Or.inr ⟨rfl, hrest hp hq⟩

/-- Of two weights one is lighter, unless they are equal and something else decides. -/
theorem Lighter.lex_total (first second : Option Int) {p q : Prop} (hrest : p ∨ q) :
    (Lighter first second ∨ first = second ∧ p) ∨ Lighter second first ∨ second = first ∧ q := by
  have hweights : Lighter first second ∨ first = second ∨ Lighter second first := by
    cases first with
    | none => cases second <;> simp [Lighter]
    | some first =>
        cases second with
        | none => exact Or.inr (Or.inr trivial)
        | some second => simpa [Lighter] using Int.lt_trichotomy first second
  rcases hweights with h | h | h
  · exact Or.inl (Or.inl h)
  · exact hrest.imp (fun hp => Or.inr ⟨h, hp⟩) fun hq => Or.inr ⟨h.symm, hq⟩
  · exact Or.inr (Or.inl h)

namespace Rule

variable {states : States} {first second third : Rule}

theorem LeadsBefore.trans (h : LeadsBefore states first second)
    (h' : LeadsBefore states second third) : LeadsBefore states first third :=
  Lighter.lex_trans String.le_trans h h'

theorem leads_before_total (states : States) (first second : Rule) :
    LeadsBefore states first second ∨ LeadsBefore states second first :=
  Lighter.lex_total _ _ (String.le_total first.toSid second.toSid)

theorem StandsBefore.trans (h : StandsBefore states first second)
    (h' : StandsBefore states second third) : StandsBefore states first third :=
  Lighter.lex_trans LeadsBefore.trans h h'

theorem stands_before_total (states : States) (first second : Rule) :
    StandsBefore states first second ∨ StandsBefore states second first :=
  Lighter.lex_total _ _ (leads_before_total states first second)

/-- Of two rules that leave one state, the one that stands before the other leads before it. -/
theorem StandsBefore.leads (h : StandsBefore states first second)
    (hfrom : first.fromSid = second.fromSid) : LeadsBefore states first second := by
  rw [StandsBefore, hfrom] at h
  rcases h with h | ⟨-, h⟩
  · cases hweight : states.weight? second.fromSid <;> simp [hweight, Lighter] at h
  · exact h

/-- Of two rules to different known states, the one that leads before the other leads below. -/
theorem LeadsBefore.ascends (h : LeadsBefore states first second)
    (hknown : states.Known first.toSid) (hknown' : states.Known second.toSid)
    (hother : first.toSid ≠ second.toSid) : states.Ascends first.toSid second.toSid := by
  obtain ⟨low, hlow⟩ := Option.isSome_iff_exists.1 hknown
  obtain ⟨high, hhigh⟩ := Option.isSome_iff_exists.1 hknown'
  refine ⟨low, hlow, high, hhigh, ?_⟩
  have hlowId : low.id = first.toSid := by simpa using List.find?_some hlow
  have hhighId : high.id = second.toSid := by simpa using List.find?_some hhigh
  rw [LeadsBefore, States.weight?, States.weight?, hlow, hhigh] at h
  rw [← hlowId, ← hhighId] at h hother
  exact h.imp_right fun hsame =>
    ⟨Option.some.inj hsame.1, Std.lt_of_le_of_ne hsame.2 hother⟩

/-- Rules in the ascending order of the states that they lead to are told by what they are. -/
theorem eq_of_ascends {rules others : List Rule}
    (h : rules.Pairwise fun first second => states.Ascends first.toSid second.toSid)
    (h' : others.Pairwise fun first second => states.Ascends first.toSid second.toSid)
    (hmem : ∀ rule, rule ∈ rules ↔ rule ∈ others) : rules = others := by
  have hnodup : ∀ {list : List Rule},
      (list.Pairwise fun first second => states.Ascends first.toSid second.toSid) → list.Nodup :=
    fun hlist => hlist.imp fun hascends hsame => hascends.ne (congrArg Rule.toSid hsame)
  refine List.Perm.eq_of_pairwise ?_ h h' ((List.perm_ext_iff_of_nodup (hnodup h) (hnodup h')).2
    hmem)
  exact fun _ _ _ _ hup hdown => absurd rfl (hup.trans hdown).ne

end Rule

namespace Rules

variable {rules : Rules} {states : States} {sid : String}

/-- The rules that apply to a state stand in the order of the states that they lead to. -/
theorem pairwise_applying (rules : Rules) (states : States) (sid : String) :
    (rules.applying states sid).toList.Pairwise (Rule.LeadsBefore states) := by
  rw [applying]
  split
  · exact pairwise_sorted (Rule.LeadsBefore states) Rule.LeadsBefore.trans
      (Rule.leads_before_total states) _
  · exact List.Pairwise.nil

/-- The selected rules stand in the order of the states that they leave and then of those that they
lead to. -/
theorem pairwise_select (rules : Rules) (states : States) (filter : RuleFilter) :
    (rules.select states filter).toList.Pairwise (Rule.StandsBefore states) :=
  pairwise_sorted (Rule.StandsBefore states) Rule.StandsBefore.trans
    (Rule.stands_before_total states) _

/-! ## Some rule or none -/

/-- Some rule is selected by a state exactly where items may leave the state and it has a rule of
its own. -/
theorem select_ne_nil_iff (hsid : sid ≠ "") :
    (rules.select states ⟨some sid, none⟩).toList ≠ [] ↔
      states.UsableFrom sid ∧ ∃ rule ∈ rules.toList, rule.fromSid = sid := by
  constructor
  · intro hselected
    obtain ⟨rule, hrule⟩ := List.exists_mem_of_ne_nil _ hselected
    obtain ⟨hkept, husable, hmatches, -⟩ := mem_select.1 hrule
    obtain rfl := hmatches sid rfl
    exact ⟨husable.resolve_left hsid, rule, hkept, rfl⟩
  · rintro ⟨husable, rule, hrule, rfl⟩
    exact List.ne_nil_of_mem (mem_select.2 ⟨hrule, Or.inr husable, by simp [Rule.Matches]⟩)

/-- Some rule applies to a state exactly where items may leave the state and a rule of its own, or
one for every state, leads to a known state. -/
theorem applying_ne_nil_iff :
    (rules.applying states sid).toList ≠ [] ↔
      states.UsableFrom sid ∧ ∃ rule ∈ rules.toList,
        (rule.fromSid = sid ∨ rule.fromSid = "") ∧ states.Known rule.toSid := by
  constructor
  · intro happlying
    obtain ⟨rule, hrule⟩ := List.exists_mem_of_ne_nil _ happlying
    obtain ⟨husable, hrule, happlies, hknown⟩ := mem_applying.1 hrule
    exact ⟨husable, rule, hrule, happlies.imp_right And.left, hknown⟩
  · rintro ⟨husable, rule, hrule, hfrom, hknown⟩
    -- a rule for every state may give way, but only to a rule that leads to the same state
    by_cases hown : ∃ own ∈ rules.toList, own.fromSid = sid ∧ own.toSid = rule.toSid
    · obtain ⟨own, hmem, hleaves, hto⟩ := hown
      exact List.ne_nil_of_mem (mem_applying.2 ⟨husable, hmem, Or.inl hleaves, hto ▸ hknown⟩)
    · have happlies : rules.AppliesTo sid rule := hfrom.imp_right fun hevery =>
        ⟨hevery, fun own hmem hleaves hto => hown ⟨own, hmem, hleaves, hto⟩⟩
      exact List.ne_nil_of_mem (mem_applying.2 ⟨husable, hrule, happlies, hknown⟩)

/-! ## One rule for each state -/

/-- There is at most one rule for every two states. -/
def Single (rules : Rules) : Prop :=
  (rules.toList.map fun rule => (rule.fromSid, rule.toSid)).Nodup

instance (rules : Rules) : Decidable rules.Single :=
  inferInstanceAs (Decidable (List.Nodup _))

/-- Two rules for the same two states are one rule. -/
theorem Single.eq {first second : Rule} (hsingle : rules.Single) (hfirst : first ∈ rules.toList)
    (hsecond : second ∈ rules.toList) (hfrom : first.fromSid = second.fromSid)
    (hto : first.toSid = second.toSid) : first = second :=
  List.inj_on_of_nodup_map hsingle hfirst hsecond (Prod.ext hfrom hto)

/-- Two rules that apply to a state and lead to one state are one rule. -/
theorem Single.applying_unique {first second : Rule} (hsingle : rules.Single)
    (hfirst : first ∈ (rules.applying states sid).toList)
    (hsecond : second ∈ (rules.applying states sid).toList) (hto : first.toSid = second.toSid) :
    first = second := by
  obtain ⟨-, hfirst, happlies, -⟩ := mem_applying.1 hfirst
  obtain ⟨-, hsecond, happlies', -⟩ := mem_applying.1 hsecond
  rcases happlies with hown | ⟨hevery, hnone⟩ <;> rcases happlies' with hown' | ⟨hevery', hnone'⟩
  · exact hsingle.eq hfirst hsecond (hown.trans hown'.symm) hto
  · exact absurd hto (hnone' first hfirst hown)
  · exact absurd hto.symm (hnone second hsecond hown')
  · exact hsingle.eq hfirst hsecond (hevery.trans hevery'.symm) hto

/-- The rules that apply to a state stand in the strictly ascending order of the states that they
lead to. -/
theorem Single.applying_ascends (hsingle : rules.Single) (states : States) (sid : String) :
    (rules.applying states sid).toList.Pairwise fun first second =>
      states.Ascends first.toSid second.toSid := by
  have hnodup : (rules.applying states sid).toList.Nodup := by
    rw [applying]
    split
    · exact (List.mergeSort_perm _ _).nodup_iff.2 ((hsingle.of_map _).filter _)
    · exact List.Pairwise.nil
  refine (hnodup.and (pairwise_applying rules states sid)).imp_of_mem ?_
  rintro first second hfirst hsecond ⟨hother, hbefore⟩
  exact hbefore.ascends (mem_applying.1 hfirst).2.2.2 (mem_applying.1 hsecond).2.2.2
    fun hto => hother (hsingle.applying_unique hfirst hsecond hto)

/-- The own rules of a state that are selected and lead to known states stand in the strictly
ascending order of these states. -/
theorem Single.select_ascends (hsingle : rules.Single) (states : States) (sid : String) :
    ((rules.select states ⟨some sid, none⟩).toList.filter fun rule =>
      states.Known rule.toSid).Pairwise fun first second =>
        states.Ascends first.toSid second.toSid := by
  have hnodup : (rules.select states ⟨some sid, none⟩).toList.Nodup :=
    (List.mergeSort_perm _ _).nodup_iff.2 ((hsingle.of_map _).filter _)
  refine ((hnodup.and (pairwise_select rules states _)).filter _).imp_of_mem ?_
  rintro first second hfirst hsecond ⟨hother, hbefore⟩
  obtain ⟨hfirst, hknown⟩ := List.mem_filter.1 hfirst
  obtain ⟨hsecond, hknown'⟩ := List.mem_filter.1 hsecond
  obtain ⟨hfirst, -, hmatches, -⟩ := mem_select.1 hfirst
  obtain ⟨hsecond, -, hmatches', -⟩ := mem_select.1 hsecond
  have hfrom : first.fromSid = second.fromSid := (hmatches sid rfl).trans (hmatches' sid rfl).symm
  exact (hbefore.leads hfrom).ascends (of_decide_eq_true hknown) (of_decide_eq_true hknown')
    fun hto => hother (hsingle.eq hfirst hsecond hfrom hto)

/-- The list settles which rule takes items in the state to which state: to every known state that
a rule of the state or a rule for every state leads to, one rule does, the own one where there is
one; nothing else is listed; the list ascends strictly; and in it the own rules stand as they are
selected. -/
structure Settled (rules : Rules) (states : States) (sid : String) (listed : List Rule) : Prop where
  own : ∀ rule ∈ rules.toList, rule.fromSid = sid → states.Known rule.toSid →
    listed.filter (·.toSid = rule.toSid) = [rule]
  every : ∀ rule ∈ rules.toList, rule.fromSid = "" → states.Known rule.toSid →
    (∀ other ∈ rules.toList, other.fromSid = sid → other.toSid ≠ rule.toSid) →
    listed.filter (·.toSid = rule.toSid) = [rule]
  nothing_else : ∀ toSid, ¬ (states.Known toSid ∧ ∃ rule ∈ rules.toList,
      (rule.fromSid = sid ∨ rule.fromSid = "") ∧ rule.toSid = toSid) →
    listed.filter (·.toSid = toSid) = []
  ascends : listed.Pairwise fun first second => states.Ascends first.toSid second.toSid
  as_selected : listed.filter (·.fromSid = sid) =
    (rules.select states ⟨some sid, none⟩).toList.filter fun rule => states.Known rule.toSid

/-- A rule that applies to a state is the only one that applies and leads where it leads. -/
theorem Single.applying_only {rule : Rule} (hsingle : rules.Single)
    (hrule : rule ∈ (rules.applying states sid).toList) :
    (rules.applying states sid).toList.filter (·.toSid = rule.toSid) = [rule] := by
  refine Rule.eq_of_ascends ((hsingle.applying_ascends states sid).filter _)
    (List.pairwise_singleton _ _) fun other => ?_
  simp only [List.mem_filter, decide_eq_true_eq, List.mem_singleton]
  constructor
  · rintro ⟨hother, hto⟩
    exact hsingle.applying_unique hother hrule hto
  · rintro rfl
    exact ⟨hrule, rfl⟩

/-- Among states with different ids and rules of which there is at most one for every two states,
the rules that apply to a state are settled if the state is active or a creation state, and no rule
applies to any other state. -/
theorem applying_settled (hids : (states.toList.map (·.id)).Nodup) (hsingle : rules.Single)
    (sid : String) :
    ((∃ state ∈ states.toList, state.id = sid ∧ state.Usable) →
        rules.Settled states sid (rules.applying states sid).toList) ∧
      ((∀ state ∈ states.toList, state.id = sid → ¬ state.Usable) →
        (rules.applying states sid).toList = []) := by
  refine ⟨fun husable => ?_, fun hunusable => ?_⟩
  · have husable := (States.usable_from_iff hids).2 husable
    constructor
    case own =>
      intro rule hrule hfrom hknown
      exact hsingle.applying_only (mem_applying.2 ⟨husable, hrule, Or.inl hfrom, hknown⟩)
    case every =>
      intro rule hrule hevery hknown hnone
      exact hsingle.applying_only (mem_applying.2 ⟨husable, hrule, Or.inr ⟨hevery, hnone⟩, hknown⟩)
    case nothing_else =>
      intro toSid hnone
      refine List.filter_eq_nil_iff.2 fun rule hrule hto => ?_
      obtain ⟨-, hkept, happlies, hknown⟩ := mem_applying.1 hrule
      obtain rfl := of_decide_eq_true hto
      exact hnone ⟨hknown, rule, hkept, happlies.imp_right And.left, rfl⟩
    case ascends => exact hsingle.applying_ascends states sid
    case as_selected =>
      refine Rule.eq_of_ascends ((hsingle.applying_ascends states sid).filter _)
        (hsingle.select_ascends states sid) fun rule => ?_
      simp only [List.mem_filter, decide_eq_true_eq, mem_applying, mem_select]
      constructor
      · rintro ⟨⟨-, hrule, -, hknown⟩, rfl⟩
        exact ⟨⟨hrule, Or.inr husable, by simp [Rule.Matches]⟩, hknown⟩
      · rintro ⟨⟨hrule, -, hmatches, -⟩, hknown⟩
        have hfrom := hmatches sid rfl
        exact ⟨⟨husable, hrule, Or.inl hfrom, hknown⟩, hfrom⟩
  · rw [applying, if_neg]
    rw [States.usable_from_iff hids]
    rintro ⟨state, hstate, hid, husable⟩
    exact hunusable state hstate hid husable

/-- States of a news desk, one of which is out of use. -/
def deskStates : States :=
  ⟨[.creationOf "news", .ofLabel "news" "news_draft" "Draft" 1,
    .ofLabel "news" "news_review" "Review" 2, .ofLabel "news" "news_live" "Live" 3,
    { State.ofLabel "news" "news_old" "Old" 4 with active := false }]⟩

/-- Rules of a news desk: a state may have a rule of its own beside the rule for every state, and
rules may leave a state that is out of use and lead to one that is not known. -/
def desk : Rules :=
  ⟨[.between "news" "" "news_live", .between "news" "" "news_gone",
    .between "news" "news_draft" "news_live", .between "news" "news_draft" "news_review",
    .between "news" "news_old" "news_draft"]⟩

/-- At the news desk the rule for every state gives way to the draft's own rule, no rule leads to
the state that is not known, and none applies to the state that is out of use. -/
theorem applying_settled_desk :
    (deskStates.toList.map (·.id)).Nodup ∧ desk.Single ∧
      (∃ state ∈ deskStates.toList, state.id = "news_draft" ∧ state.Usable) ∧
      (desk.applying deskStates "news_draft").toList.filter (·.toSid = "news_live") =
        [.between "news" "news_draft" "news_live"] ∧
      (desk.applying deskStates "news_draft").toList.filter (·.toSid = "news_gone") = [] ∧
      (∀ state ∈ deskStates.toList, state.id = "news_old" → ¬ state.Usable) ∧
      (desk.applying deskStates "news_old").toList = [] := by
  have hids : (deskStates.toList.map (·.id)).Nodup := by decide
  have hsingle : desk.Single := by decide
  have hdraft : ∃ state ∈ deskStates.toList, state.id = "news_draft" ∧ state.Usable := by decide
  have hold : ∀ state ∈ deskStates.toList, state.id = "news_old" → ¬ state.Usable := by decide
  have hsettled := (applying_settled hids hsingle "news_draft").1 hdraft
  refine ⟨hids, hsingle, hdraft, ?_, ?_, hold, (applying_settled hids hsingle "news_old").2 hold⟩
  · exact hsettled.own (.between "news" "news_draft" "news_live") (by decide) rfl (by decide)
  · exact hsettled.nothing_else "news_gone" fun hknown => absurd hknown.1 (by decide)

end Rules

end ContentWorkflow
