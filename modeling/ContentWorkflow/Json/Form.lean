import ContentWorkflow.Json.Reader

/-!
# JSON forms of values

How a type is written as JSON and read from it. A record is written as an object with its fields in
order. It is read from an object, where unknown fields are passed over, or from an array with the
values of the fields in order. `slots_of_fields` says that what is written for a record is read back
slot by slot.
-/

namespace ContentWorkflow

/-- A type whose values have a JSON form. -/
class JsonForm (α : Type) where
  toJson : α → Json
  ofJson? : Json → Option α

export JsonForm (toJson ofJson?)

/-- A type whose every value is read back from its JSON form. -/
class LawfulJsonForm (α : Type) [JsonForm α] : Prop where
  of_json_to_json (value : α) : ofJson? (toJson value) = some value

export LawfulJsonForm (of_json_to_json)

attribute [simp] LawfulJsonForm.of_json_to_json

namespace JsonForm

/-- The value that a JSON text stands for. -/
def ofText? {α : Type} [JsonForm α] (text : String) : Option α :=
  (Json.parse text).bind ofJson?

/-- The JSON text of a value. -/
def toText {α : Type} [JsonForm α] (value : α) : String :=
  Json.render (toJson value)

end JsonForm

/-! ## Plain values -/

instance : JsonForm Bool where
  toJson := .bool
  ofJson?
    | .bool flag => some flag
    | _ => none

instance : LawfulJsonForm Bool :=
  ⟨fun _ => rfl⟩

instance : JsonForm String where
  toJson := Json.ofString
  ofJson?
    | .string text => text
    | _ => none

instance : LawfulJsonForm String :=
  ⟨fun _ => rfl⟩

/-- A number is read from a whole number in the range of a signed 64-bit word. -/
instance : JsonForm Int where
  toJson := Json.ofInt
  ofJson?
    | .number (.whole integer) => if Numeral.FitsWord integer then some integer else none
    | _ => none

theorem of_json_to_json_int {integer : Int} (h : Numeral.FitsWord integer) :
    ofJson? (toJson integer) = some integer := by
  simp [ofJson?, toJson, Json.ofInt, h]

/-- A count is read from a whole number in the range of an unsigned 64-bit word. -/
instance : JsonForm Nat where
  toJson := Json.ofNat
  ofJson?
    | .number (.whole integer) =>
        if 0 ≤ integer ∧ Numeral.FitsUnsignedWord integer.toNat then some integer.toNat else none
    | _ => none

/-- A value that may be missing is null where it is. -/
instance {α : Type} [JsonForm α] : JsonForm (Option α) where
  toJson := Json.ofOption toJson
  ofJson?
    | .null => some none
    | json => (ofJson? json).map some

/-- The elements read one after another. -/
def readAll {α : Type} [JsonForm α] : List Json → Option (List α)
  | [] => some []
  | json :: rest => do
      let value ← ofJson? json
      let values ← readAll rest
      return value :: values

instance {α : Type} [JsonForm α] : JsonForm (List α) where
  toJson values := .array (values.map toJson)
  ofJson?
    | .array elements => readAll elements
    | _ => none

theorem read_all_map {α : Type} [JsonForm α] {values : List α}
    (h : ∀ value ∈ values, ofJson? (toJson value) = some value) :
    readAll (values.map toJson) = some values := by
  induction values with
  | nil => rfl
  | cons value rest ih =>
      have hvalue := h value List.mem_cons_self
      have hrest := ih fun other hother => h other (List.mem_cons_of_mem value hother)
      simp [readAll, hvalue, hrest]

instance {α : Type} [JsonForm α] [LawfulJsonForm α] : LawfulJsonForm (List α) :=
  ⟨fun _ => read_all_map fun value _ => of_json_to_json value⟩

/-! ## Records -/

namespace Json

/-- What stands for a field of a record. -/
inductive Slot where
  | given (value : Json)
  /-- The object has no such field. -/
  | missing
  /-- The array ends before the field. -/
  | cut

/-- The fields of an object whose names are all texts. -/
def namedFields? : List (Option String × Json) → Option (List (String × Json))
  | [] => some []
  | (none, _) :: _ => none
  | (some name, value) :: rest => (namedFields? rest).map ((name, value) :: ·)

/-- What stands for each named field of a record. An array may not be longer than the record, and an
object may give no field of the record twice. -/
def slots? (names : List String) : Json → Option (List Slot)
  | .array elements =>
      if elements.length ≤ names.length then
        some (elements.map .given ++ List.replicate (names.length - elements.length) .cut)
      else none
  | .object fields => do
      let fields ← namedFields? fields
      if names.all fun name => decide ((fields.filter (·.1 = name)).length ≤ 1) then
        return names.map fun name =>
          match fields.lookup name with
          | some value => .given value
          | none => .missing
      else none
  | _ => none

/-- Reading the fields of a record, one slot after another. -/
abbrev SlotReader (α : Type) : Type :=
  StateT (List Slot) Option α

namespace SlotReader

/-- The next slot. -/
def next : SlotReader Slot
  | [] => none
  | slot :: rest => some (slot, rest)

/-- A field that must be given. -/
def required {α : Type} [JsonForm α] : SlotReader α := do
  match ← next with
  | .given value => StateT.lift (ofJson? value)
  | _ => StateT.lift none

/-- A field that an object may leave out. -/
def optional {α : Type} [JsonForm α] : SlotReader (Option α) := do
  match ← next with
  | .given value => StateT.lift (ofJson? value)
  | .missing => pure none
  | .cut => StateT.lift none

/-- A field that stands for a value of its own where it is left out. -/
def withDefault {α : Type} [JsonForm α] (standard : α) : SlotReader α := do
  match ← next with
  | .given value => StateT.lift (ofJson? value)
  | _ => pure standard

/-- The record with the named fields. -/
def readRecord? {α : Type} (names : List String) (reader : SlotReader α) (json : Json) :
    Option α := do
  let slots ← slots? names json
  let (value, _) ← reader.run slots
  return value

end SlotReader

/-! ## Variants -/

/-- The name of a variant and what it carries. A variant stands by its name alone, or as the only
field of an object. -/
def variant? : Json → Option (String × Option Json)
  | .string (some name) => some (name, none)
  | .object [(some name, carried)] => some (name, some carried)
  | _ => none

/-- The name of a variant that carries nothing. -/
def bareVariant? (json : Json) : Option String :=
  match variant? json with
  | some (name, none) => some name
  | some (name, some .null) => some name
  | _ => none

/-! ## Reading back -/

theorem named_fields_of_fields (fields : List (String × Json)) :
    namedFields? (fields.map fun field => (some field.1, field.2)) = some fields := by
  induction fields with
  | nil => rfl
  | cons field rest ih => simp [namedFields?, ih]

theorem filter_eq_name {fields : List (String × Json)} (hnodup : (fields.map (·.1)).Nodup)
    (name : String) : (fields.filter (·.1 = name)).length ≤ 1 := by
  induction fields with
  | nil => simp
  | cons field rest ih =>
      obtain ⟨hnot, hrest⟩ := List.nodup_cons.1 hnodup
      by_cases h : field.1 = name
      · have hnone : rest.filter (·.1 = name) = [] := by
          rw [List.filter_eq_nil_iff]
          intro other hother
          simp only [decide_eq_true_eq]
          rintro rfl
          have hmem : other.1 ∈ rest.map (·.1) := List.mem_map_of_mem hother
          rw [← h] at hmem
          exact hnot hmem
        simp [h, hnone]
      · simpa [h] using ih hrest

theorem map_lookup {fields : List (String × Json)} (hnodup : (fields.map (·.1)).Nodup) :
    (fields.map (·.1)).map (fun name => fields.lookup name) =
      fields.map fun field => some field.2 := by
  induction fields with
  | nil => rfl
  | cons field rest ih =>
      obtain ⟨first, value⟩ := field
      obtain ⟨hnot, hrest⟩ := List.nodup_cons.1 hnodup
      have htail : ∀ name ∈ rest.map (·.1),
          ((first, value) :: rest).lookup name = rest.lookup name := by
        intro name hname
        have hne : (name == first) = false := by
          rw [beq_eq_false_iff_ne]
          rintro rfl
          exact hnot hname
        simp [List.lookup_cons, hne]
      rw [List.map_cons, List.map_cons, List.map_congr_left htail, ih hrest]
      simp

/-- Each field of a record that was written stands in its slot. -/
theorem slots_of_fields {fields : List (String × Json)} (hnodup : (fields.map (·.1)).Nodup) :
    slots? (fields.map (·.1)) (ofFields fields) =
      some (fields.map fun field => .given field.2) := by
  have hlookup := map_lookup hnodup
  simp only [slots?, ofFields, named_fields_of_fields, Option.bind_eq_bind, Option.bind_some]
  rw [if_pos]
  · have := congrArg (List.map fun found : Option Json =>
      match found with
      | some value => Slot.given value
      | none => Slot.missing) hlookup
    simpa [Function.comp_def] using this
  · simpa using fun name value _ => filter_eq_name hnodup name

namespace SlotReader

@[simp] theorem run_required_given {α : Type} [JsonForm α] (value : Json) (rest : List Slot) :
    (required : SlotReader α).run (.given value :: rest) = (ofJson? value).map (·, rest) := by
  cases h : (ofJson? value : Option α) <;>
    simp [required, next, StateT.run, bind, StateT.bind, StateT.lift, h]

@[simp] theorem run_optional_given {α : Type} [JsonForm α] (value : Json) (rest : List Slot) :
    (optional : SlotReader (Option α)).run (.given value :: rest) =
      (ofJson? value).map (·, rest) := by
  cases h : (ofJson? value : Option (Option α)) <;>
    simp [optional, next, StateT.run, bind, StateT.bind, StateT.lift, h]

@[simp] theorem run_with_default_given {α : Type} [JsonForm α] (standard : α) (value : Json)
    (rest : List Slot) :
    (withDefault standard).run (.given value :: rest) = (ofJson? value).map (·, rest) := by
  cases h : (ofJson? value : Option α) <;>
    simp [withDefault, next, StateT.run, bind, StateT.bind, StateT.lift, h]

/-- Reading what was written for a record reads the values of its fields. -/
theorem read_record_of_fields {α : Type} {names : List String} {fields : List (String × Json)}
    (hnames : fields.map (·.1) = names) (hnodup : names.Nodup) (reader : SlotReader α) :
    readRecord? names reader (ofFields fields) =
      (reader.run (fields.map fun field => .given field.2)).map (·.1) := by
  subst hnames
  rw [readRecord?, slots_of_fields hnodup]
  simp only [Option.bind_eq_bind, Option.bind_some]
  cases reader.run (fields.map fun field => .given field.2) <;> rfl

end SlotReader

end Json

end ContentWorkflow
