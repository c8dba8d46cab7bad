import ContentWorkflow.Log
import ContentWorkflow.Store.Basic

/-!
# Kept history records

Records are numbered in the order in which they are stored. A number is never given twice, also not
after its record was purged.
-/

namespace ContentWorkflow

/-- The first record is the later one. Of two records of one time that is the one with the greater
number. -/
def HistoryRecord.Later (first second : HistoryRecord) : Prop :=
  second.timestamp < first.timestamp ∨
    first.timestamp = second.timestamp ∧ second.hid ≤ first.hid

instance (first second : HistoryRecord) : Decidable (first.Later second) :=
  inferInstanceAs (Decidable (_ ∨ _))

namespace Store

/-- The record is stored under the next number. -/
def appendHistory (store : Store) (record : HistoryRecord) : Store :=
  { store with
    history := store.history ++ [{ record with hid := store.lastHid + 1 }]
    lastHid := store.lastHid + 1 }

/-- What is logged of a record that is to be stored and seems to be stored already. -/
def appendHistoryLog (record : HistoryRecord) : List LogLine :=
  if 0 < record.hid then
    [⟨.warn, s!"appending history record with existing hid {record.hid}"⟩]
  else []

/-- The record with the number. -/
def record? (store : Store) (hid : Int) : Option HistoryRecord :=
  store.history.find? (·.hid = hid)

/-- The latest record of the field. -/
def latest? (store : Store) (target : Target) (fieldName : String) : Option HistoryRecord :=
  ((store.history.filter fun record =>
      record.target = target ∧ record.fieldName = fieldName).mergeSort
    fun first second => decide (first.Later second)).head?

/-- The records that the query asks for. -/
def findHistory (store : Store) (query : HistoryQuery) : List HistoryRecord :=
  query.answer store.history

/-- The greatest number of variables that the database allows in a query. -/
def variableLimit : Nat :=
  32766

/-- The answer to the query, which is refused if it binds too many variables. -/
def queryHistory (store : Store) (query : HistoryQuery) :
    Except Constraint (List HistoryRecord) :=
  if variableLimit < query.variableCount then .error .variableLimit
  else .ok (store.findHistory query)

/-- The records that have the state at one of their ends. -/
def historyTouching (store : Store) (sid : String) : List HistoryRecord :=
  store.history.filter fun record => record.Touches sid

/-- No record with the state at one of its ends is kept any longer. -/
def purgeHistory (store : Store) (sid : String) : Store :=
  { store with history := store.history.filter fun record => ¬ record.Touches sid }

end Store

end ContentWorkflow
