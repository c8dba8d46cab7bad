import ContentWorkflow.Access.Agent
import ContentWorkflow.Content.Item

/-!
# History records

A record keeps what an executed transition did. A query names the items and the field whose records
are asked for, their order in time, and the page of the answer.
-/

namespace ContentWorkflow

/-- An executed transition. -/
structure HistoryRecord where
  /-- The number of the record, zero for a record that was not stored yet. -/
  hid : Int
  workflowId : String
  target : Target
  fieldName : String
  fromSid : String
  toSid : String
  agent : Agent
  timestamp : Int
  comment : Option String
  deriving DecidableEq

namespace HistoryRecord

/-- The transition led to another state. -/
def ChangesState (record : HistoryRecord) : Prop :=
  record.fromSid ≠ record.toSid

instance (record : HistoryRecord) : Decidable record.ChangesState :=
  inferInstanceAs (Decidable (_ ≠ _))

/-- The record has the state at one of its ends. -/
def Touches (record : HistoryRecord) (sid : String) : Prop :=
  record.fromSid = sid ∨ record.toSid = sid

instance (record : HistoryRecord) (sid : String) : Decidable (record.Touches sid) :=
  inferInstanceAs (Decidable (_ ∨ _))

/-- The record in one line. -/
def toText (record : HistoryRecord) : String :=
  s!"#{record.hid} {record.target.toText} [{record.fieldName}] {record.fromSid} -> " ++
    s!"{record.toSid} at {record.timestamp}" ++
    match record.comment with
    | some comment => s!": {comment}"
    | none => ""

end HistoryRecord

/-- The order of records in time. -/
inductive HistoryOrder where
  | ascending
  | descending
  deriving DecidableEq

/-- Which history records are asked for. -/
structure HistoryQuery where
  entityType : String
  /-- The numbers of the entities, none for every entity of the type. -/
  entityIds : List Int
  fieldName : Option String
  order : HistoryOrder
  /-- The greatest number of records. A negative limit is none. -/
  limit : Option Int
  /-- How many records are passed over. A negative number passes over none. -/
  offset : Option Int
  deriving DecidableEq

namespace HistoryQuery

/-- How many variables the query binds: the type, each entity as often as it is listed, the field,
and the page. -/
def variableCount (query : HistoryQuery) : Nat :=
  1 + query.entityIds.length + (if query.fieldName.isSome then 1 else 0) +
    if query.limit.isSome || query.offset.isSome then 2 else 0

/-- Every record of the listed entities, the latest first. -/
def latestFirst (entityType : String) (entityIds : List Int) : HistoryQuery where
  entityType := entityType
  entityIds := entityIds
  fieldName := none
  order := .descending
  limit := none
  offset := none

/-- The query asks for the record, whatever the page. -/
def Selects (query : HistoryQuery) (record : HistoryRecord) : Prop :=
  record.target.entityType = query.entityType ∧
    (query.entityIds = [] ∨ record.target.entityId ∈ query.entityIds) ∧
    ∀ fieldName ∈ query.fieldName, record.fieldName = fieldName

instance (query : HistoryQuery) (record : HistoryRecord) : Decidable (query.Selects record) :=
  inferInstanceAs (Decidable (_ ∧ _))

/-- In the answer the first record stands before the second. Of records with one timestamp the one
with the greater number comes first in either order. -/
def Ranks (query : HistoryQuery) (first second : HistoryRecord) : Prop :=
  (match query.order with
    | .ascending => first.timestamp < second.timestamp
    | .descending => second.timestamp < first.timestamp) ∨
    first.timestamp = second.timestamp ∧ second.hid ≤ first.hid

instance (query : HistoryQuery) (first second : HistoryRecord) :
    Decidable (query.Ranks first second) :=
  match query with
  | ⟨_, _, _, .ascending, _, _⟩ => inferInstanceAs (Decidable (_ < _ ∨ _))
  | ⟨_, _, _, .descending, _, _⟩ => inferInstanceAs (Decidable (_ < _ ∨ _))

/-- The page of the records that the query asks for. -/
def page (query : HistoryQuery) (records : List HistoryRecord) : List HistoryRecord :=
  let remaining := records.drop (query.offset.getD 0).toNat
  match query.limit with
  | some limit => if limit < 0 then remaining else remaining.take limit.toNat
  | none => remaining

/-- The answer to the query from the records. -/
def answer (query : HistoryQuery) (records : List HistoryRecord) : List HistoryRecord :=
  query.page <|
    (records.filter fun record => query.Selects record).mergeSort
      fun first second => decide (query.Ranks first second)

theorem Ranks.trans {query : HistoryQuery} {first second third : HistoryRecord}
    (h : query.Ranks first second) (h' : query.Ranks second third) : query.Ranks first third := by
  rcases query with ⟨_, _, _, order, _, _⟩
  cases order <;> simp only [Ranks] at h h' ⊢ <;> omega

theorem ranks_total (query : HistoryQuery) (first second : HistoryRecord) :
    query.Ranks first second ∨ query.Ranks second first := by
  rcases query with ⟨_, _, _, order, _, _⟩
  cases order <;> simp only [Ranks] <;> omega

end HistoryQuery

end ContentWorkflow
