import ContentWorkflow.CommandLine.Grammar
import ContentWorkflow.Log
import ContentWorkflow.Transition.History
import ContentWorkflow.Workflow.Rule
import ContentWorkflow.Workflow.State

/-!
# The commands

The commands of the program with their arguments, the grammar in which they are written, and the
command that a line calls for.
-/

namespace ContentWorkflow.CommandLine

/-- What the program is told to do. -/
inductive Command where
  | addWorkflow (id label : String) (bulkImport : Bool)
  | listWorkflows
  | showWorkflow (id : String)
  | setSettings (id settings : String)
  | addState (workflowId label : String) (weight : Int)
  | listStates (workflowId : String) (filter : StateFilter)
  | deactivateState (workflowId sid : String) (reassignTo : Option String) (agent : Agent)
  | purgeState (workflowId sid : String)
  | addRule (workflowId fromSid toSid : String) (roles : List String) (label : Option String)
  | listRules (workflowId : String) (filter : RuleFilter)
  | bindField (entityType fieldName workflowId : String)
  | listFields (workflowId : Option String)
  | addContent (target : Target) (owner : Option Int)
  | showContent (target : Target)
  | execute (target : Target) (fieldName toSid : String) (agent : Agent) (comment : Option String)
      (force : Bool) (scheduleAt : Option Int)
  | showOptions (target : Target) (fieldName : String) (agent : Agent)
  | advance (target : Target) (fieldName : String) (agent : Agent)
  | showPending (target : Target) (fieldName : String)
  | listHistory (query : HistoryQuery)
  | revert (hid : Int) (agent : Agent)
  /-- Sweep, and again after each pause of so many seconds where one is given. -/
  | sweep (interval : Option Nat)

/-! ## How commands are written -/

/-- The option that names the user who acts. -/
def uidOption : Argument :=
  .option "uid" .integer

/-- A command with arguments. -/
def command (positionals options : List Argument) : CommandSpec :=
  .single ⟨positionals, options, true⟩

/-- A command that may stand without arguments. -/
def bareCommand (options : List Argument) : CommandSpec :=
  .single ⟨[], options, false⟩

/-- A group of commands. -/
def group (commands : List (String × CommandSpec)) : CommandSpec :=
  .group ⟨[], [], true⟩ commands

/-- The words that name an item. -/
def targetArguments : List Argument :=
  [.positional "entity_type" .text, .positional "entity_id" .integer]

/-- The words that name a field of an item. -/
def fieldArguments : List Argument :=
  targetArguments ++ [.positional "field_name" .text]

/-- The commands on workflows. -/
def workflowCommands : CommandSpec :=
  group [
    ("add", command [.positional "id" .text, .positional "label" .text] [.flag "bulk-import"]),
    ("list", bareCommand []),
    ("show", command [.positional "id" .text] []),
    ("settings", command [.positional "id" .text, .positional "settings" .text] [])]

/-- The commands on states. -/
def stateCommands : CommandSpec :=
  group [
    ("add", command [.positional "workflow_id" .text, .positional "label" .text]
      [.option "weight" .integer]),
    ("list", command [.positional "workflow_id" .text]
      [.option "filter" (.oneOf ["all", "active", "active-creation"])]),
    ("deactivate", command [.positional "workflow_id" .text, .positional "sid" .text]
      [.option "reassign-to" .text, uidOption]),
    ("purge", command [.positional "workflow_id" .text, .positional "sid" .text] [])]

/-- The commands on rules. -/
def ruleCommands : CommandSpec :=
  group [
    ("add", command
      [.positional "workflow_id" .text, .positional "from_sid" .text, .positional "to_sid" .text]
      [⟨"roles", none, .extend .text true, false⟩, .option "label" .text]),
    ("list", command [.positional "workflow_id" .text]
      [.option "from-sid" .text, .option "to-sid" .text])]

/-- The commands on bindings. -/
def fieldCommands : CommandSpec :=
  group [
    ("bind", command
      [.positional "entity_type" .text, .positional "field_name" .text,
        .positional "workflow_id" .text] []),
    ("list", bareCommand [.option "workflow-id" .text])]

/-- The commands on content items. -/
def contentCommands : CommandSpec :=
  group [
    ("add", command targetArguments [.option "owner" .integer]),
    ("show", command targetArguments [])]

/-- The commands on transitions. -/
def transitionCommands : CommandSpec :=
  group [
    ("execute", command (fieldArguments ++ [.positional "to_sid" .text])
      [uidOption, .option "comment" .text, .flag "force", .option "at" .integer]),
    ("options", command fieldArguments [uidOption]),
    ("next", command fieldArguments [uidOption]),
    ("pending", command fieldArguments [])]

/-- The commands on the history. -/
def historyCommands : CommandSpec :=
  group [
    ("list", command [.positional "entity_type" .text, .rest "entity_ids" .integer]
      [.option "field-name" .text, .option "order" (.oneOf ["asc", "desc"]),
        .option "limit" .integer, .option "offset" .integer]),
    ("revert", command [.positional "hid" .integer] [uidOption])]

/-- The options that come before every command. -/
def siteOptions : List Argument :=
  [.option "wf-auto-create-db" (.oneOf ["true", "false"]),
    { Argument.option "wf-db-url" .text with required := true },
    .option "wf-grants" .text,
    ⟨"verbose", some 'v', .count, false⟩]

/-- Everything that may be written. -/
def program : CommandSpec :=
  .group ⟨[], siteOptions, true⟩ [
    ("workflow", workflowCommands),
    ("state", stateCommands),
    ("rule", ruleCommands),
    ("field", fieldCommands),
    ("content", contentCommands),
    ("transition", transitionCommands),
    ("history", historyCommands),
    ("cron", bareCommand [.option "interval" .natural])]

/-! ## What a line calls for -/

namespace ParsedLine

variable (line : ParsedLine)

/-- The value of an argument that was given. -/
def text? (name : String) : Option String := do
  let values ← line.values.lookup name
  values.head?

/-- The number that was given. -/
def integer? (name : String) : Option Int := do
  Numeral.word? (← line.text? name)

/-- The option was given. -/
def has (name : String) : Bool :=
  (line.values.lookup name).isSome

/-- Every value that was given. -/
def texts (name : String) : List String :=
  (line.values.lookup name).getD []

/-- The agent that acts. -/
def agent : Agent :=
  Agent.ofUid? (line.integer? "uid")

/-- The item that is named. -/
def target? : Option Target := do
  return ⟨← line.text? "entity_type", ← line.integer? "entity_id"⟩

/-- The states that are asked for. -/
def stateFilter : StateFilter :=
  match line.text? "filter" with
  | some "active" => .active
  | some "active-creation" => .activeCreation
  | _ => .all

/-- The query of the history. -/
def historyQuery? : Option HistoryQuery := do
  return {
    entityType := ← line.text? "entity_type"
    entityIds := (line.texts "entity_ids").filterMap Numeral.word?
    fieldName := line.text? "field-name"
    order := if line.text? "order" = some "asc" then .ascending else .descending
    limit := line.integer? "limit"
    offset := line.integer? "offset" }

/-- The command that the line calls for, absent for the path of no command. -/
def command? : Option Command := do
  match line.path with
  | ["workflow", "add"] =>
      return .addWorkflow (← line.text? "id") (← line.text? "label") (line.has "bulk-import")
  | ["workflow", "list"] => return .listWorkflows
  | ["workflow", "show"] => return .showWorkflow (← line.text? "id")
  | ["workflow", "settings"] => return .setSettings (← line.text? "id") (← line.text? "settings")
  | ["state", "add"] =>
      return .addState (← line.text? "workflow_id") (← line.text? "label")
        ((line.integer? "weight").getD 0)
  | ["state", "list"] => return .listStates (← line.text? "workflow_id") line.stateFilter
  | ["state", "deactivate"] =>
      return .deactivateState (← line.text? "workflow_id") (← line.text? "sid")
        (line.text? "reassign-to") line.agent
  | ["state", "purge"] => return .purgeState (← line.text? "workflow_id") (← line.text? "sid")
  | ["rule", "add"] =>
      return .addRule (← line.text? "workflow_id") (← line.text? "from_sid")
        (← line.text? "to_sid") (line.texts "roles") (line.text? "label")
  | ["rule", "list"] =>
      return .listRules (← line.text? "workflow_id")
        ⟨line.text? "from-sid", line.text? "to-sid"⟩
  | ["field", "bind"] =>
      return .bindField (← line.text? "entity_type") (← line.text? "field_name")
        (← line.text? "workflow_id")
  | ["field", "list"] => return .listFields (line.text? "workflow-id")
  | ["content", "add"] => return .addContent (← line.target?) (line.integer? "owner")
  | ["content", "show"] => return .showContent (← line.target?)
  | ["transition", "execute"] =>
      return .execute (← line.target?) (← line.text? "field_name") (← line.text? "to_sid")
        line.agent (line.text? "comment") (line.has "force") (line.integer? "at")
  | ["transition", "options"] =>
      return .showOptions (← line.target?) (← line.text? "field_name") line.agent
  | ["transition", "next"] =>
      return .advance (← line.target?) (← line.text? "field_name") line.agent
  | ["transition", "pending"] =>
      return .showPending (← line.target?) (← line.text? "field_name")
  | ["history", "list"] => return .listHistory (← line.historyQuery?)
  | ["history", "revert"] => return .revert (← line.integer? "hid") line.agent
  | ["cron"] => return .sweep ((line.text? "interval").bind Numeral.unsignedWord?)
  | _ => none

end ParsedLine

/-- Where the site of a command is kept, and how much is told of what happens there. -/
structure SiteOptions where
  databaseUrl : String
  mayCreate : Bool
  /-- The file with the grants. -/
  grantsFile : Option String
  verbosity : Nat
  deriving DecidableEq

/-- What the line says of the site. Warnings are told in any case. -/
def ParsedLine.siteOptions? (line : ParsedLine) : Option SiteOptions := do
  return {
    databaseUrl := ← line.text? "wf-db-url"
    mayCreate := decide (line.text? "wf-auto-create-db" ≠ some "false")
    grantsFile := line.text? "wf-grants"
    verbosity := (line.texts "verbose").length + LogLevel.warn.verbosity }

/-- The command that the words call for, and the site that it is for. -/
def Command.ofWords (words : List String) : Except LineFault (Command × SiteOptions) := do
  let line ← program.parse words
  match line.command?, line.siteOptions? with
  | some command, some options => return (command, options)
  | _, _ => throw .missingSubcommand

end ContentWorkflow.CommandLine
