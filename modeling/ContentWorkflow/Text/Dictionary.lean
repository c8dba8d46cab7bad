/-!
# Dictionaries ordered by key

A dictionary from strings to strings whose entries stand in the order of their keys, so that two
dictionaries with the same entries are the same. Strings are ordered by code point. `get_insert`
and `get_union` say what a look-up answers after a write.
-/

namespace ContentWorkflow

/-- Entries with strictly increasing keys. -/
structure Dictionary where
  entries : List (String × String)
  increasing : entries.Pairwise fun first second => first.1 < second.1
  deriving DecidableEq

namespace Dictionary

/-- The dictionary without entries. -/
def empty : Dictionary :=
  ⟨[], List.Pairwise.nil⟩

instance : Inhabited Dictionary :=
  ⟨empty⟩

/-- The value at the key. -/
def get? (dictionary : Dictionary) (key : String) : Option String :=
  dictionary.entries.lookup key

/-- The keys in increasing order. -/
def keys (dictionary : Dictionary) : List String :=
  dictionary.entries.map (·.1)

/-- There is no entry. -/
def isEmpty (dictionary : Dictionary) : Bool :=
  dictionary.entries.isEmpty

/-- The entries with the value at the key written in its place. -/
def insertEntry (key value : String) : List (String × String) → List (String × String)
  | [] => [(key, value)]
  | entry :: rest =>
      if key < entry.1 then (key, value) :: entry :: rest
      else if key = entry.1 then (key, value) :: rest
      else entry :: insertEntry key value rest

theorem mem_insert_entry {key value : String} {entries : List (String × String)}
    {entry : String × String} (h : entry ∈ insertEntry key value entries) :
    entry = (key, value) ∨ entry ∈ entries := by
  induction entries with
  | nil => simpa [insertEntry] using h
  | cons first rest ih =>
      rw [insertEntry] at h
      split at h
      · simpa using h
      · split at h
        · rcases List.mem_cons.1 h with h | h
          · exact Or.inl h
          · exact Or.inr (List.mem_cons_of_mem first h)
        · rcases List.mem_cons.1 h with h | h
          · exact Or.inr (h ▸ List.mem_cons_self)
          · exact (ih h).imp id (List.mem_cons_of_mem first)

theorem pairwise_insert_entry (key value : String) {entries : List (String × String)}
    (h : entries.Pairwise fun first second => first.1 < second.1) :
    (insertEntry key value entries).Pairwise fun first second => first.1 < second.1 := by
  induction entries with
  | nil => simp [insertEntry]
  | cons first rest ih =>
      obtain ⟨hfirst, hrest⟩ := List.pairwise_cons.1 h
      rw [insertEntry]
      split
      · next hlt =>
          refine List.pairwise_cons.2 ⟨?_, h⟩
          intro entry hentry
          rcases List.mem_cons.1 hentry with rfl | hentry
          · exact hlt
          · exact String.lt_trans hlt (hfirst entry hentry)
      · split
        · next heq =>
            refine List.pairwise_cons.2 ⟨?_, hrest⟩
            intro entry hentry
            exact heq ▸ hfirst entry hentry
        · next hge hne =>
            refine List.pairwise_cons.2 ⟨?_, ih hrest⟩
            intro entry hentry
            rcases mem_insert_entry hentry with rfl | hentry
            · exact Std.lt_of_le_of_ne (String.not_lt.1 hge) (Ne.symm hne)
            · exact hfirst entry hentry

/-- The dictionary with the value at the key, in place of the value it had. -/
def insert (dictionary : Dictionary) (key value : String) : Dictionary :=
  ⟨insertEntry key value dictionary.entries,
    pairwise_insert_entry key value dictionary.increasing⟩

/-- The dictionary of the pairs. Of two pairs with one key the later counts. -/
def ofList (pairs : List (String × String)) : Dictionary :=
  pairs.foldl (fun dictionary pair => dictionary.insert pair.1 pair.2) empty

/-- The dictionary with every entry of the other written over it. -/
def union (dictionary other : Dictionary) : Dictionary :=
  other.entries.foldl (fun written entry => written.insert entry.1 entry.2) dictionary

/-! ## Look-up after a write -/

theorem lookup_insert_entry (key value wanted : String) (entries : List (String × String)) :
    (insertEntry key value entries).lookup wanted =
      if wanted = key then some value else entries.lookup wanted := by
  induction entries with
  | nil =>
      by_cases h : wanted = key
      · simp [insertEntry, h]
      · have hbeq : (wanted == key) = false := by simpa using h
        simp [insertEntry, List.lookup_cons, h, hbeq]
  | cons first rest ih =>
      obtain ⟨name, text⟩ := first
      rw [insertEntry]
      split
      · by_cases h : wanted = key
        · simp [h]
        · have hbeq : (wanted == key) = false := by simpa using h
          simp [List.lookup_cons, h, hbeq]
      · split
        · next heq =>
            by_cases h : wanted = key
            · simp [h]
            · have hbeq : (wanted == key) = false := by simpa using h
              have hfirst : (wanted == name) = false := by
                simpa using fun hname => h (hname.trans heq.symm)
              simp [List.lookup_cons, h, hbeq, hfirst]
        · next hne =>
            by_cases h : wanted = name
            · have hkey : wanted ≠ key := fun hkey => hne (hkey ▸ h)
              subst h
              simp [hkey]
            · have hbeq : (wanted == name) = false := by simpa using h
              simp [List.lookup_cons, hbeq, ih]

@[simp] theorem get_insert (dictionary : Dictionary) (key value wanted : String) :
    (dictionary.insert key value).get? wanted =
      if wanted = key then some value else dictionary.get? wanted :=
  lookup_insert_entry key value wanted dictionary.entries

@[simp] theorem get_empty (wanted : String) : empty.get? wanted = none :=
  rfl

/-- Writing entries with different keys one by one puts each of them before what was there. -/
theorem get_foldl_insert {entries : List (String × String)} {dictionary : Dictionary}
    (h : entries.Pairwise fun first second => first.1 ≠ second.1) (wanted : String) :
    (entries.foldl (fun written entry => written.insert entry.1 entry.2) dictionary).get? wanted =
      (entries.lookup wanted).or (dictionary.get? wanted) := by
  induction entries generalizing dictionary with
  | nil => rfl
  | cons first rest ih =>
      obtain ⟨name, text⟩ := first
      obtain ⟨hfirst, hrest⟩ := List.pairwise_cons.1 h
      rw [List.foldl_cons, ih hrest, get_insert]
      by_cases hkey : wanted = name
      · subst hkey
        -- no later entry has the key of the first
        have hlater : rest.lookup wanted = none := by
          rw [List.lookup_eq_none_iff]
          intro entry hentry
          simpa using hfirst entry hentry
        simp [hlater]
      · have hbeq : (wanted == name) = false := by simpa using hkey
        simp [List.lookup_cons, hkey, hbeq]

/-- No two entries have the same key. -/
theorem keys_differ (dictionary : Dictionary) :
    dictionary.entries.Pairwise fun first second => first.1 ≠ second.1 := by
  refine dictionary.increasing.imp fun {first second} hlt heq => ?_
  rw [heq] at hlt
  exact String.lt_irrefl second.1 hlt

@[simp] theorem get_union (dictionary other : Dictionary) (wanted : String) :
    (dictionary.union other).get? wanted = (other.get? wanted).or (dictionary.get? wanted) :=
  get_foldl_insert other.keys_differ wanted

end Dictionary

end ContentWorkflow
