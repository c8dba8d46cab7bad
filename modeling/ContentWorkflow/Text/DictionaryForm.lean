import ContentWorkflow.Json.Form
import ContentWorkflow.Text.Dictionary

/-!
# The JSON form of a dictionary

A dictionary is an object with its entries in order. It is read from an object with the entries in
any order, where of two values for one key the later counts.
-/

namespace ContentWorkflow

namespace Dictionary

theorem insert_entry_last {key value : String} {entries : List (String × String)}
    (h : ∀ entry ∈ entries, entry.1 < key) :
    insertEntry key value entries = entries ++ [(key, value)] := by
  induction entries with
  | nil => rfl
  | cons first rest ih =>
      have hfirst : first.1 < key := h first List.mem_cons_self
      have hnot : ¬ key < first.1 := String.lt_asymm hfirst
      have hne : ¬ key = first.1 := fun heq => String.lt_irrefl first.1 (heq ▸ hfirst)
      rw [insertEntry, if_neg hnot, if_neg hne,
        ih fun entry hentry => h entry (List.mem_cons_of_mem _ hentry)]
      rfl

theorem entries_foldl_insert {pairs : List (String × String)} {dictionary : Dictionary}
    (h : (dictionary.entries ++ pairs).Pairwise fun first second => first.1 < second.1) :
    (pairs.foldl (fun dictionary pair => dictionary.insert pair.1 pair.2) dictionary).entries =
      dictionary.entries ++ pairs := by
  induction pairs generalizing dictionary with
  | nil => simp
  | cons first rest ih =>
      have hlast : (dictionary.insert first.1 first.2).entries = dictionary.entries ++ [first] :=
        insert_entry_last fun entry hentry =>
          (List.pairwise_append.1 h).2.2 entry hentry first List.mem_cons_self
      rw [List.foldl_cons, ih (by rw [hlast]; simpa using h), hlast]
      simp

/-- A dictionary is the dictionary of its entries. -/
theorem of_list_entries (dictionary : Dictionary) : ofList dictionary.entries = dictionary := by
  have hentries : (ofList dictionary.entries).entries = dictionary.entries :=
    entries_foldl_insert (by simpa [empty] using dictionary.increasing)
  cases h : ofList dictionary.entries
  cases dictionary
  simp_all

end Dictionary

/-- The fields of an object whose names and values are all texts. -/
def readTexts? : List (Option String × Json) → Option (List (String × String))
  | [] => some []
  | (some name, .string (some text)) :: rest => (readTexts? rest).map ((name, text) :: ·)
  | _ => none

theorem read_texts_map (entries : List (String × String)) :
    readTexts? (entries.map fun entry => (some entry.1, Json.ofString entry.2)) = some entries := by
  induction entries with
  | nil => rfl
  | cons entry rest ih => simp [readTexts?, Json.ofString, ← ih]

instance : JsonForm Dictionary where
  toJson dictionary := Json.ofFields (dictionary.entries.map fun entry => (entry.1, toJson entry.2))
  ofJson?
    | .object fields => (readTexts? fields).map Dictionary.ofList
    | _ => none

instance : LawfulJsonForm Dictionary :=
  ⟨fun dictionary => by
    have hread := read_texts_map dictionary.entries
    simp only [ofJson?, toJson, Json.ofFields, List.map_map, Function.comp_def] at hread ⊢
    rw [hread, Option.map_some, Dictionary.of_list_entries]⟩

end ContentWorkflow
