import ContentWorkflow.Access.Agent
import ContentWorkflow.Json.Form

/-!
# JSON forms of roles and agents

A set of roles is an array in the order of the set, and is read from an array in any order. An agent
is the name of its kind, with the number of a user.
-/

namespace ContentWorkflow

namespace RoleSet

theorem insert_name_last {role : String} {names : List String} (h : ∀ name ∈ names, name < role) :
    insertName role names = names ++ [role] := by
  induction names with
  | nil => rfl
  | cons first rest ih =>
      have hfirst : first < role := h first List.mem_cons_self
      have hnot : ¬ role < first := String.lt_asymm hfirst
      have hne : ¬ role = first := fun heq => String.lt_irrefl first (heq ▸ hfirst)
      have hrest : ∀ name ∈ rest, name < role := fun name hname =>
        h name (List.mem_cons_of_mem _ hname)
      rw [insertName, if_neg hnot, if_neg hne, ih hrest]
      rfl

theorem to_list_foldl_insert {names : List String} {roles : RoleSet}
    (h : (roles.toList ++ names).Pairwise (· < ·)) :
    (names.foldl insert roles).toList = roles.toList ++ names := by
  induction names generalizing roles with
  | nil => simp
  | cons first rest ih =>
      have hlast : (roles.insert first).toList = roles.toList ++ [first] :=
        insert_name_last fun name hname =>
          (List.pairwise_append.1 h).2.2 name hname first List.mem_cons_self
      rw [List.foldl_cons, ih (by rw [hlast]; simpa using h), hlast]
      simp

/-- A set is the set of its roles. -/
theorem of_list_to_list (roles : RoleSet) : ofList roles.toList = roles := by
  have htext : (ofList roles.toList).toList = roles.toList :=
    to_list_foldl_insert (by simpa [empty] using roles.increasing)
  cases h : ofList roles.toList
  cases roles
  simp_all

end RoleSet

instance : JsonForm RoleSet where
  toJson roles := toJson roles.toList
  ofJson? json := (ofJson? json).map RoleSet.ofList

instance : LawfulJsonForm RoleSet :=
  ⟨fun roles => by
    change (ofJson? (toJson roles.toList)).map RoleSet.ofList = some roles
    rw [of_json_to_json, Option.map_some, RoleSet.of_list_to_list]⟩

instance : JsonForm Agent where
  toJson
    | .anonymous => Json.ofString "Anonymous"
    | .user id => Json.ofFields [("User", toJson id)]
  ofJson? json :=
    match json.variant? with
    | some ("Anonymous", none) => some .anonymous
    | some ("Anonymous", some .null) => some .anonymous
    | some ("User", some id) => (ofJson? id).map .user
    | _ => none

end ContentWorkflow
