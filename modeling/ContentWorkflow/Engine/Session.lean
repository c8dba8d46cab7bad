import ContentWorkflow.Engine.Fault
import ContentWorkflow.Log
import ContentWorkflow.Workflow.Rule

/-!
# Requests and sessions

A request remembers which transitions it has met, so that none takes effect twice, and which
choices it has worked out. A session is the store together with the request that is being served
and the log. An action works on a session; what it did before a fault stays done.
-/

namespace ContentWorkflow

/-- What tells a transition from the others of a request. -/
structure MarkerKey where
  target : Target
  fieldName : String
  label : String
  deriving DecidableEq

/-- What a list of choices was worked out for. -/
structure ChoicesKey where
  target : Target
  fieldName : String
  fromSid : String
  agent : Agent
  force : Bool
  deriving DecidableEq

/-- What is remembered for the length of a request. -/
structure RequestContext where
  /-- The state that each transition met so far left its item in. -/
  markers : List (MarkerKey × String)
  choices : List (ChoicesKey × List Choice)

/-- The key of the transition. -/
def Transition.markerKey (transition : Transition) : MarkerKey :=
  ⟨transition.target, transition.fieldName, transition.markerLabel⟩

namespace RequestContext

/-- A new request. -/
def empty : RequestContext :=
  ⟨[], []⟩

/-- The state remembered for the key. -/
def marker? (context : RequestContext) (key : MarkerKey) : Option String :=
  context.markers.lookup key

/-- The state is remembered for the key, in place of the one before. -/
def setMarker (context : RequestContext) (key : MarkerKey) (sid : String) : RequestContext :=
  { context with markers := (key, sid) :: context.markers.filter (·.1 ≠ key) }

/-- The choices remembered for the key. -/
def choices? (context : RequestContext) (key : ChoicesKey) : Option (List Choice) :=
  context.choices.lookup key

/-- The choices are remembered for the key. -/
def setChoices (context : RequestContext) (key : ChoicesKey) (choices : List Choice) :
    RequestContext :=
  { context with choices := (key, choices) :: context.choices.filter (·.1 ≠ key) }

/-- No choices are remembered any longer. -/
def clearChoices (context : RequestContext) : RequestContext :=
  { context with choices := [] }

/-- How many transitions are remembered. -/
def markerCount (context : RequestContext) : Nat :=
  context.markers.length

/-- A list in which the entry of a key was replaced finds the new value under the key, and under
every other key what it found before. -/
theorem lookup_replaced {κ ν : Type} [DecidableEq κ] (entries : List (κ × ν)) (key wanted : κ)
    (value : ν) :
    List.lookup wanted ((key, value) :: entries.filter (·.1 ≠ key)) =
      if wanted = key then some value else entries.lookup wanted := by
  by_cases h : wanted = key
  · simp [h]
  · have hbeq : (wanted == key) = false := by simpa using h
    simp only [List.lookup_cons, hbeq, h, if_false]
    induction entries with
    | nil => rfl
    | cons entry rest ih =>
        obtain ⟨name, remembered⟩ := entry
        by_cases hkey : name = key
        · have hentry : (wanted == name) = false := by simpa [hkey] using h
          simpa [hkey, List.lookup_cons, hbeq] using ih
        · simp only [List.filter_cons, ne_eq, hkey, not_false_eq_true, decide_true, if_true,
            List.lookup_cons]
          split
          · rfl
          · exact ih

@[simp] theorem marker_set_marker (context : RequestContext) (key wanted : MarkerKey)
    (sid : String) :
    (context.setMarker key sid).marker? wanted =
      if wanted = key then some sid else context.marker? wanted :=
  lookup_replaced context.markers key wanted sid

@[simp] theorem choices_set_choices (context : RequestContext) (key wanted : ChoicesKey)
    (choices : List Choice) :
    (context.setChoices key choices).choices? wanted =
      if wanted = key then some choices else context.choices? wanted :=
  lookup_replaced context.choices key wanted choices

end RequestContext

/-- What an operation works on. -/
structure Session where
  store : Store
  context : RequestContext
  log : List LogLine

namespace Session

/-- The line is logged. -/
def note (session : Session) (level : LogLevel) (message : String) : Session :=
  { session with log := session.log ++ [⟨level, message⟩] }

/-- The request remembers the state for the transition. -/
def mark (session : Session) (transition : Transition) (sid : String) : Session :=
  { session with context := session.context.setMarker transition.markerKey sid }

end Session

/-- An operation on a session that may end in a fault. -/
abbrev Action (α : Type) : Type :=
  ExceptT Fault (StateM Session) α

namespace Action

/-- The store as it is. -/
def store : Action Store :=
  return (← get).store

/-- The store is changed. -/
def change (change : Store → Store) : Action Unit :=
  modify fun session => { session with store := change session.store }

/-- The store is changed, unless that breaks a key. -/
def attempt (change : Store → Except Constraint Store) : Action Unit := do
  match change (← store) with
  | .ok store => modify fun session => { session with store := store }
  | .error constraint => throw (.constraint constraint)

/-- What the store answers, unless it refuses to. -/
def ask {α : Type} (question : Store → Except Constraint α) : Action α := do
  match question (← store) with
  | .ok answer => return answer
  | .error constraint => throw (.constraint constraint)

/-- The line is logged. -/
def log (level : LogLevel) (message : String) : Action Unit :=
  modify fun session => session.note level message

/-- The call makes no sense. -/
def refuse {α : Type} (misuse : Misuse) : Action α :=
  throw (.misuse misuse)

/-- The value, or a fault where there is none. -/
def demand {α : Type} (value : Option α) (misuse : Misuse) : Action α :=
  match value with
  | some value => pure value
  | none => refuse misuse

/-- The step of a session, which does nothing where it ends in a fault. -/
def ofStep {α : Type} (step : Session → Except Fault (α × Session)) : Action α := do
  match step (← get) with
  | .ok (answer, session) => set session; return answer
  | .error fault => throw fault

end Action

end ContentWorkflow
