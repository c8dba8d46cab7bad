/-!
# Workflows

A workflow is named by an id and carries settings. A field of an entity type that holds states is
bound to one workflow.
-/

namespace ContentWorkflow

/-- How the choice of the next state is shown to a person. -/
inductive ActionStyle where
  | radios
  | buttons
  | dropbutton
  | select
  deriving DecidableEq

namespace ActionStyle

/-- Every style. -/
def all : List ActionStyle :=
  [.radios, .buttons, .dropbutton, .select]

/-- The name of the style. -/
def name : ActionStyle → String
  | .radios => "radios"
  | .buttons => "buttons"
  | .dropbutton => "dropbutton"
  | .select => "select"

/-- The text with the ASCII letters in lower case. -/
def lowered (text : String) : String :=
  String.ofList (text.toList.map Char.toLower)

/-- The style of that name, in letters of either case. -/
def ofName? (text : String) : Option ActionStyle :=
  all.find? fun style => style.name = lowered text

/-- What is said of a text that names no style. -/
def unsupportedMessage (text : String) : String :=
  s!"unsupported value: {lowered text}"

/-- A style is read back from its name. -/
theorem of_name_name (style : ActionStyle) : ofName? style.name = some style := by
  cases style <;> decide

end ActionStyle

/-- What may be chosen for each workflow. -/
structure Settings where
  /-- Wrap the choice in a box of its own. -/
  fieldset : Bool
  options : ActionStyle
  scheduleEnable : Bool
  commentRequired : Bool
  /-- Every transition sets the changed time of its item. -/
  alwaysUpdateEntity : Bool
  /-- Executed transitions are logged as information, not as details. -/
  watchdogLog : Bool
  deriving DecidableEq

/-- The settings of a workflow for which nothing was chosen. -/
def Settings.standard : Settings where
  fieldset := false
  options := .radios
  scheduleEnable := true
  commentRequired := false
  alwaysUpdateEntity := false
  watchdogLog := true

/-- A workflow without its states and rules. -/
structure Workflow where
  id : String
  label : String
  settings : Settings
  deriving DecidableEq

/-- The field of the entity type holds states of the workflow. -/
structure FieldBinding where
  entityType : String
  fieldName : String
  workflowId : String
  deriving DecidableEq

end ContentWorkflow
