/-!
# Sets of roles

Roles are names that a site chooses. A set of them is kept in code point order, so that two sets
with the same roles are the same and a set has one text. `mem_insert` and `mem_erase` say what
membership becomes after a change.
-/

namespace ContentWorkflow

/-- Role names in strictly increasing order. -/
structure RoleSet where
  toList : List String
  increasing : toList.Pairwise (· < ·)
  deriving DecidableEq

namespace RoleSet

/-- The set without roles. -/
def empty : RoleSet :=
  ⟨[], List.Pairwise.nil⟩

instance : Inhabited RoleSet :=
  ⟨empty⟩

instance : Membership String RoleSet :=
  ⟨fun roles role => role ∈ roles.toList⟩

instance (role : String) (roles : RoleSet) : Decidable (role ∈ roles) :=
  inferInstanceAs (Decidable (role ∈ roles.toList))

/-- The names with the role in its place. -/
def insertName (role : String) : List String → List String
  | [] => [role]
  | first :: rest =>
      if role < first then role :: first :: rest
      else if role = first then first :: rest
      else first :: insertName role rest

theorem mem_insert_name {role other : String} {names : List String} :
    other ∈ insertName role names ↔ other = role ∨ other ∈ names := by
  induction names with
  | nil => simp [insertName]
  | cons first rest ih =>
      rw [insertName]
      split
      · simp
      · split
        · next heq => simp [heq]
        · simp only [List.mem_cons, ih]
          constructor
          · rintro (h | h | h)
            · exact Or.inr (Or.inl h)
            · exact Or.inl h
            · exact Or.inr (Or.inr h)
          · rintro (h | h | h)
            · exact Or.inr (Or.inl h)
            · exact Or.inl h
            · exact Or.inr (Or.inr h)

theorem pairwise_insert_name (role : String) {names : List String} (h : names.Pairwise (· < ·)) :
    (insertName role names).Pairwise (· < ·) := by
  induction names with
  | nil => simp [insertName]
  | cons first rest ih =>
      obtain ⟨hfirst, hrest⟩ := List.pairwise_cons.1 h
      rw [insertName]
      split
      · next hlt =>
          refine List.pairwise_cons.2 ⟨?_, h⟩
          intro other hother
          rcases List.mem_cons.1 hother with rfl | hother
          · exact hlt
          · exact String.lt_trans hlt (hfirst other hother)
      · split
        · exact h
        · next hge hne =>
            refine List.pairwise_cons.2 ⟨?_, ih hrest⟩
            intro other hother
            rcases mem_insert_name.1 hother with rfl | hother
            · exact Std.lt_of_le_of_ne (String.not_lt.1 hge) (Ne.symm hne)
            · exact hfirst other hother

/-- The set with the role in it. -/
def insert (roles : RoleSet) (role : String) : RoleSet :=
  ⟨insertName role roles.toList, pairwise_insert_name role roles.increasing⟩

/-- The set without the role. -/
def erase (roles : RoleSet) (role : String) : RoleSet :=
  ⟨roles.toList.filter (· ≠ role), roles.increasing.sublist List.filter_sublist⟩

/-- The set of the listed roles. -/
def ofList (names : List String) : RoleSet :=
  names.foldl insert empty

/-- Some role is in both sets. -/
def Intersects (roles other : RoleSet) : Prop :=
  ∃ role ∈ roles.toList, role ∈ other

instance (roles other : RoleSet) : Decidable (roles.Intersects other) :=
  inferInstanceAs (Decidable (∃ role ∈ roles.toList, role ∈ other))

/-- The roles with a comma and a blank between them. -/
def toText (roles : RoleSet) : String :=
  ", ".intercalate roles.toList

/-! ## Membership -/

theorem mem_def {role : String} {roles : RoleSet} : role ∈ roles ↔ role ∈ roles.toList :=
  Iff.rfl

@[simp] theorem not_mem_empty (role : String) : role ∉ empty := by
  simp [mem_def, empty]

@[simp] theorem mem_insert {role other : String} {roles : RoleSet} :
    other ∈ roles.insert role ↔ other = role ∨ other ∈ roles :=
  mem_insert_name

@[simp] theorem mem_erase {role other : String} {roles : RoleSet} :
    other ∈ roles.erase role ↔ other ∈ roles ∧ other ≠ role := by
  simp [mem_def, erase]

theorem mem_foldl_insert {role : String} {names : List String} {roles : RoleSet} :
    role ∈ names.foldl insert roles ↔ role ∈ names ∨ role ∈ roles := by
  induction names generalizing roles with
  | nil => simp
  | cons first rest ih =>
      rw [List.foldl_cons, ih, mem_insert, List.mem_cons]
      constructor
      · rintro (h | h | h)
        · exact Or.inl (Or.inr h)
        · exact Or.inl (Or.inl h)
        · exact Or.inr h
      · rintro ((h | h) | h)
        · exact Or.inr (Or.inl h)
        · exact Or.inl h
        · exact Or.inr (Or.inr h)

@[simp] theorem mem_of_list {role : String} {names : List String} :
    role ∈ ofList names ↔ role ∈ names := by
  simp [ofList, mem_foldl_insert]

end RoleSet

end ContentWorkflow
