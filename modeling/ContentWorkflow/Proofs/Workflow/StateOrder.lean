import ContentWorkflow.Store.States

/-!
# The order of the states

States are ordered when they stand by weight, and by id where the weights are equal. States that are
made of a list, filtered from States or listed by a store are sorted into that order. States that
are read from a JSON array keep the order of the array (`of_text_iff`), so they are ordered exactly
where the array lists them in order, and `read_unordered` reads an array that does not. The main
theorem, `ordered_made_iff`, says so of States from every `Source`.
-/

namespace ContentWorkflow

/-- The values are what the elements stand for, one after another. -/
theorem read_all_eq_some_iff {α : Type} [JsonForm α] {elements : List Json} {values : List α} :
    readAll elements = some values ↔ elements.map ofJson? = values.map some := by
  induction elements generalizing values with
  | nil => cases values <;> simp [readAll]
  | cons element elements ih =>
      simp only [readAll, Option.bind_eq_bind, Option.bind_eq_some_iff, List.map_cons]
      constructor
      · rintro ⟨first, hfirst, rest, hrest, hvalues⟩
        obtain rfl := Option.some.inj hvalues
        rw [hfirst, ih.1 hrest, List.map_cons]
      · intro hvalues
        cases values with
        | nil => cases hvalues
        | cons first rest =>
            obtain ⟨hfirst, hrest⟩ := List.cons.inj hvalues
            exact ⟨first, hfirst, rest, ih.2 hrest, rfl⟩

namespace States

variable {states : States} {elements : List Json} {text : String}

/-- Every state stands before those behind it. -/
def Ordered (states : States) : Prop :=
  states.toList.Pairwise State.Before

instance (states : States) : Decidable states.Ordered :=
  inferInstanceAs (Decidable (List.Pairwise _ _))

/-- Ordered states stand by their weights. -/
theorem Ordered.weights (h : states.Ordered) :
    (states.toList.map (·.weight)).Pairwise (· ≤ ·) := by
  refine List.pairwise_map.2 (h.imp fun {first second} hbefore => ?_)
  obtain hlighter | ⟨hequal, -⟩ := hbefore
  · exact Int.le_of_lt hlighter
  · exact Int.le_of_eq hequal

/-! ## States that are put in order -/

theorem ordered_of_list (list : List State) : (ofList list).Ordered :=
  pairwise_of_list list

/-- Putting states in order neither adds nor loses one. -/
theorem perm_of_list (list : List State) : (ofList list).toList.Perm list :=
  List.mergeSort_perm list _

/-! ## States that are read -/

/-- States are read from an array, one from each element and in the order of the elements. -/
theorem of_text_iff :
    JsonForm.ofText? text = some states ↔
      ∃ elements, Json.parse text = some (.array elements) ∧
        elements.map ofJson? = states.toList.map some := by
  rw [JsonForm.ofText?, Option.bind_eq_some_iff]
  constructor
  · rintro ⟨json, hparse, hread⟩
    obtain ⟨list, hlist, rfl⟩ := Option.map_eq_some_iff.1 hread
    cases json with
    | array elements => exact ⟨elements, hparse, read_all_eq_some_iff.1 hlist⟩
    | null | bool | number | string | object => cases hlist
  · rintro ⟨elements, hparse, hread⟩
    exact ⟨.array elements, hparse, Option.map_eq_some_iff.2
      ⟨states.toList, read_all_eq_some_iff.2 hread, rfl⟩⟩

/-! ## Where States come from -/

/-- What States are made from. -/
inductive Source
  | list (states : List State)
  | filtered (states : States) (filter : StateFilter)
  | listed (store : Store) (workflowId : String)
  | text (text : String)

namespace Source

/-- The States that are made. A text makes States only where it can be read. -/
def states? : Source → Option States
  | .list states => some (ofList states)
  | .filtered states filter => some (states.filter filter)
  | .listed store workflowId => some (store.statesOf workflowId)
  | .text text => JsonForm.ofText? text

/-- The states that States are made of, in the order in which they are found. -/
def given : Source → List State
  | .list states => states
  | .filtered states filter => states.toList.filter fun state => state.Matches filter
  | .listed store workflowId => store.states.filter (·.workflowId = workflowId)
  | .text text =>
      match Json.parse text with
      | some (.array elements) => elements.filterMap ofJson?
      | _ => []

/-- The states are sorted when States are made of them. Those of a text are not. -/
def Sorts : Source → Prop
  | .text _ => False
  | _ => True

/-- Where the states are sorted, States are made of them by putting them in order. -/
theorem states_of_sorts {source : Source} (h : source.Sorts) :
    source.states? = some (ofList source.given) := by
  cases source with
  | list | filtered | listed => rfl
  | text => exact h.elim

end Source

/-- States that are read are those that the text gives, in its order. -/
theorem given_of_read (h : JsonForm.ofText? text = some states) :
    (Source.text text).given = states.toList := by
  obtain ⟨elements, hparse, hread⟩ := of_text_iff.1 h
  have hgiven : (elements.map (ofJson? (α := State))).filterMap id = states.toList := by
    rw [hread, List.filterMap_map, Function.id_comp, List.filterMap_some]
  rw [Source.given, hparse, ← hgiven, List.filterMap_map, Function.id_comp]

/-- States have the states that they are made of. They are ordered exactly where these are sorted or
stand in order already, and only those of a text are not sorted. Ordered States stand by their
weights. -/
theorem ordered_made_iff (source : Source) (states : States) (h : source.states? = some states) :
    (states.Ordered ↔ source.Sorts ∨ source.given.Pairwise State.Before) ∧
    states.toList.Perm source.given ∧
    (states.Ordered → (states.toList.map (·.weight)).Pairwise (· ≤ ·)) := by
  by_cases hsorts : source.Sorts
  · obtain rfl := Option.some.inj (h.symm.trans (Source.states_of_sorts hsorts))
    exact ⟨iff_of_true (ordered_of_list _) (Or.inl hsorts), perm_of_list _, Ordered.weights⟩
  · cases source with
    | list | filtered | listed => exact absurd trivial hsorts
    | text text =>
        have hgiven := given_of_read h
        refine ⟨?_, hgiven ▸ .refl _, Ordered.weights⟩
        rw [hgiven, or_iff_right hsorts, Ordered]

/-- Two states are read in the order of their array, the heavier one first. -/
theorem read_unordered :
    ∃ states : States,
      JsonForm.ofText? ("[[\"wf_live\", \"wf\", \"Live\", 2, true, false], " ++
          "[\"wf_draft\", \"wf\", \"Draft\", 1, true, false]]") = some states ∧
        ¬ states.Ordered :=
  ⟨⟨[.ofLabel "wf" "wf_live" "Live" 2, .ofLabel "wf" "wf_draft" "Draft" 1]⟩, by decide +kernel,
    by decide⟩

/-- An array in order is read as ordered states, with their weights in order. -/
theorem ordered_made_iff_listed :
    ∃ states : States,
      JsonForm.ofText? ("[[\"wf_draft\", \"wf\", \"Draft\", 1, true, false], " ++
          "[\"wf_live\", \"wf\", \"Live\", 2, true, false]]") = some states ∧
        states.Ordered ∧ (states.toList.map (·.weight)).Pairwise (· ≤ ·) := by
  have hread : JsonForm.ofText? ("[[\"wf_draft\", \"wf\", \"Draft\", 1, true, false], " ++
      "[\"wf_live\", \"wf\", \"Live\", 2, true, false]]") =
        some (⟨[.ofLabel "wf" "wf_draft" "Draft" 1,
          .ofLabel "wf" "wf_live" "Live" 2]⟩ : States) := by
    decide +kernel
  obtain ⟨hordered, -, hweights⟩ := ordered_made_iff (.text _) _ hread
  have hlisted := hordered.2 (Or.inr (given_of_read hread ▸ by decide))
  exact ⟨_, hread, hlisted, hweights hlisted⟩

end States

end ContentWorkflow
