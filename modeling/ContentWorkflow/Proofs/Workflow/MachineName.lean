import ContentWorkflow.Workflow.MachineName

/-!
# Machine names

A name has lower-case letters, digits and underscores, and is more than one underscore. Every label
makes a name (`is_name_of_label`), and a name makes itself (`of_label_of_is_name`), so the id that
is made from a label is also made from the name in it. A name has no hyphen, so two ids of one
workflow are told apart by their texts with a hyphen between them, whatever hyphens and underscores
stand in the id of the workflow (`Makes.pair_inj`).
-/

namespace ContentWorkflow.MachineName

variable {char : Char} {chars : List Char} {label name workflowId : String}

/-- The text is a name that an id may end with. -/
structure IsName (name : String) : Prop where
  nonempty : name ≠ ""
  not_bare : name ≠ "_"
  chars : ∀ char ∈ name.toList, isNameChar char = true

/-- The name of every creation state is a name. -/
theorem is_name_creation : IsName "creation" where
  nonempty := by simp
  not_bare := by simp
  chars := by simp [isNameChar]

/-- The name of a label without a character of a name is a name. -/
theorem is_name_state : IsName "state" where
  nonempty := by simp
  not_bare := by simp
  chars := by simp [isNameChar]

/-! ## Characters -/

theorem is_name_char_iff :
    isNameChar char = true ↔ 'a' ≤ char ∧ char ≤ 'z' ∨ '0' ≤ char ∧ char ≤ '9' ∨ char = '_' := by
  simp [isNameChar, or_assoc]

/-- No character of a name is a capital letter. -/
theorem not_capital (h : isNameChar char = true) :
    ¬ (char.val ≥ 'A'.val ∧ char.val ≤ 'Z'.val) := by
  rintro ⟨hstart, hend⟩
  obtain ⟨hletter, -⟩ | ⟨-, hdigit⟩ | rfl := is_name_char_iff.1 h
  · exact absurd (UInt32.le_trans hletter hend) (by decide)
  · exact absurd (UInt32.le_trans hstart hdigit) (by decide)
  · exact absurd hend (by decide)

/-- A character of a name is its own lower case. -/
theorem lower_of_is_name_char (h : isNameChar char = true) : lower char = [char] := by
  have hdotted : char ≠ '\u0130' := by
    rintro rfl
    exact absurd h (by decide)
  have hkelvin : char ≠ '\u212a' := by
    rintro rfl
    exact absurd h (by decide)
  have hsmall : char.toLower = char := dif_neg (not_capital h)
  rw [lower, if_neg hdotted, if_neg hkelvin, hsmall]

/-- Characters of a name are their own lower case. -/
theorem flat_map_lower (h : ∀ char ∈ chars, isNameChar char = true) :
    chars.flatMap lower = chars := by
  induction chars with
  | nil => rfl
  | cons first rest ih =>
      obtain ⟨hfirst, hrest⟩ := List.forall_mem_cons.1 h
      rw [List.flatMap_cons, lower_of_is_name_char hfirst, ih hrest, List.singleton_append]

/-! ## Names -/

/-- Only characters of a name are left of any text. -/
theorem is_name_char_of_mem_squeeze (replaced : Bool) (chars : List Char) :
    ∀ char ∈ squeeze replaced chars, isNameChar char = true := by
  fun_induction squeeze replaced chars with
  | case1 => simp
  | case2 _ first rest hfirst ih => exact List.forall_mem_cons.2 ⟨hfirst, ih⟩
  | case3 first rest _ ih => exact ih
  | case4 _ first rest _ _ ih => exact List.forall_mem_cons.2 ⟨by decide, ih⟩

/-- Characters of a name are left as they are. -/
theorem squeeze_of_is_name_char (replaced : Bool) (h : ∀ char ∈ chars, isNameChar char = true) :
    squeeze replaced chars = chars := by
  induction chars generalizing replaced with
  | nil => rfl
  | cons first rest ih =>
      obtain ⟨hfirst, hrest⟩ := List.forall_mem_cons.1 h
      rw [squeeze, if_pos hfirst, ih false hrest]

/-- Every label makes a name. -/
theorem is_name_of_label (label : String) : IsName (ofLabel label) := by
  rw [ofLabel]
  split
  · exact is_name_state
  · next hname =>
      rw [not_or] at hname
      refine ⟨?_, ?_, ?_⟩
      · exact fun h => hname.1 (String.ofList_injective h)
      · exact fun h => hname.2 (String.ofList_injective h)
      · rw [String.toList_ofList]
        exact is_name_char_of_mem_squeeze false _

/-- A name makes itself. -/
theorem of_label_of_is_name (h : IsName name) : ofLabel name = name := by
  have hsame : squeeze false (name.toList.flatMap lower) = name.toList := by
    rw [flat_map_lower h.chars, squeeze_of_is_name_char false h.chars]
  have hnonempty : name.toList ≠ [] := fun hnil => h.nonempty (String.toList_inj.1 hnil)
  have hmore : name.toList ≠ ['_'] := fun hbare => h.not_bare (String.toList_inj.1 hbare)
  rw [ofLabel, hsame, if_neg (not_or.2 ⟨hnonempty, hmore⟩), String.ofList_toList]

/-! ## Ids -/

/-- The id of a state is the id of its workflow, an underscore and a name. -/
theorem state_id_eq (workflowId name : String) :
    stateId workflowId name = workflowId ++ "_" ++ name :=
  rfl

/-- The id is made for a state of the workflow, from a label or for its creation state. -/
def Makes (workflowId sid : String) : Prop :=
  (∃ label, sid = stateIdOfLabel workflowId label) ∨ sid = creationStateId workflowId

/-- An id that is made for a state of the workflow ends with a name. -/
theorem Makes.exists_name {sid : String} (h : Makes workflowId sid) :
    ∃ name, IsName name ∧ sid = stateId workflowId name := by
  obtain ⟨label, rfl⟩ | rfl := h
  · exact ⟨ofLabel label, is_name_of_label label, rfl⟩
  · exact ⟨"creation", is_name_creation, rfl⟩

/-- What stands before the first hyphen of a text and what stands behind it. -/
theorem append_hyphen_inj {first second rest rest' : List Char} (hfirst : '-' ∉ first)
    (hsecond : '-' ∉ second) (h : first ++ '-' :: rest = second ++ '-' :: rest') :
    first = second ∧ rest = rest' := by
  induction first generalizing second with
  | nil =>
      cases second with
      | nil => exact ⟨rfl, (List.cons.inj h).2⟩
      | cons char second => exact absurd (List.cons.inj h).1 (List.ne_of_not_mem_cons hsecond)
  | cons char first ih =>
      cases second with
      | nil => exact absurd (List.cons.inj h).1.symm (List.ne_of_not_mem_cons hfirst)
      | cons other second =>
          obtain ⟨rfl, htail⟩ := List.cons.inj h
          obtain ⟨rfl, hrest⟩ := ih (List.not_mem_of_not_mem_cons hfirst)
            (List.not_mem_of_not_mem_cons hsecond) htail
          exact ⟨rfl, hrest⟩

/-- A hyphen has no place in a name. -/
theorem IsName.not_mem_hyphen (h : IsName name) : '-' ∉ name.toList :=
  fun hmem => absurd (h.chars '-' hmem) (by decide)

/-- An id of the workflow is known from a text in which a hyphen and more follow it, and so is what
follows. The first hyphen behind the id of the workflow is that one, because no name has one. -/
theorem Makes.pair_inj {first first' second second' : String} (hfirst : Makes workflowId first)
    (hfirst' : Makes workflowId first') (h : first ++ "-" ++ second = first' ++ "-" ++ second') :
    first = first' ∧ second = second' := by
  obtain ⟨name, hname, rfl⟩ := hfirst.exists_name
  obtain ⟨name', hname', rfl⟩ := hfirst'.exists_name
  have htail : name.toList ++ '-' :: second.toList = name'.toList ++ '-' :: second'.toList := by
    have hchars := congrArg String.toList h
    simpa [state_id_eq] using hchars
  obtain ⟨hsame, hrest⟩ := append_hyphen_inj hname.not_mem_hyphen hname'.not_mem_hyphen htail
  exact ⟨congrArg (stateId workflowId) (String.toList_inj.1 hsame), String.toList_inj.1 hrest⟩

end ContentWorkflow.MachineName
