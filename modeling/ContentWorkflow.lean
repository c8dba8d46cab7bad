import ContentWorkflow.Access.Agent
import ContentWorkflow.Access.Enforcer
import ContentWorkflow.Access.Form
import ContentWorkflow.Access.Grant
import ContentWorkflow.Access.LinkedGrants
import ContentWorkflow.Access.Resolver
import ContentWorkflow.Access.RoleSet
import ContentWorkflow.Administration.Editorial
import ContentWorkflow.Administration.Rules
import ContentWorkflow.Administration.States
import ContentWorkflow.Administration.Workflows
import ContentWorkflow.CommandLine.Command
import ContentWorkflow.CommandLine.Grammar
import ContentWorkflow.CommandLine.Run
import ContentWorkflow.Content.Item
import ContentWorkflow.Engine.Choices
import ContentWorkflow.Engine.Examination
import ContentWorkflow.Engine.Execution
import ContentWorkflow.Engine.Fault
import ContentWorkflow.Engine.Hooks
import ContentWorkflow.Engine.Platform
import ContentWorkflow.Engine.Reversal
import ContentWorkflow.Engine.Session
import ContentWorkflow.Engine.Sweep
import ContentWorkflow.Json.Definite
import ContentWorkflow.Json.Document
import ContentWorkflow.Json.Form
import ContentWorkflow.Json.Printer
import ContentWorkflow.Json.Reader
import ContentWorkflow.Json.RoundTrip
import ContentWorkflow.Json.Value
import ContentWorkflow.Log
import ContentWorkflow.Main
import ContentWorkflow.Proofs.Access.Enforcement
import ContentWorkflow.Proofs.Access.GrantText
import ContentWorkflow.Proofs.Access.Granting
import ContentWorkflow.Proofs.Access.Resolution
import ContentWorkflow.Proofs.Administration.Counting
import ContentWorkflow.Proofs.Administration.Creation
import ContentWorkflow.Proofs.Administration.Founding
import ContentWorkflow.Proofs.Administration.Purging
import ContentWorkflow.Proofs.Administration.Reassignment
import ContentWorkflow.Proofs.Administration.Retirement
import ContentWorkflow.Proofs.Administration.Validity
import ContentWorkflow.Proofs.Engine.Agreement
import ContentWorkflow.Proofs.Engine.Choices
import ContentWorkflow.Proofs.Engine.Due
import ContentWorkflow.Proofs.Engine.Examination
import ContentWorkflow.Proofs.Engine.Execution
import ContentWorkflow.Proofs.Engine.Permission
import ContentWorkflow.Proofs.Engine.Rejection
import ContentWorkflow.Proofs.Engine.Update
import ContentWorkflow.Proofs.Json.Records
import ContentWorkflow.Proofs.Runs.Action
import ContentWorkflow.Proofs.Runs.Administration
import ContentWorkflow.Proofs.Runs.Advancement
import ContentWorkflow.Proofs.Runs.Answers
import ContentWorkflow.Proofs.Runs.Archive
import ContentWorkflow.Proofs.Runs.Authorization
import ContentWorkflow.Proofs.Runs.Confinement
import ContentWorkflow.Proofs.Runs.CreationStates
import ContentWorkflow.Proofs.Runs.Following
import ContentWorkflow.Proofs.Runs.Freshness
import ContentWorkflow.Proofs.Runs.Invariants
import ContentWorkflow.Proofs.Runs.Landing
import ContentWorkflow.Proofs.Runs.Markers
import ContentWorkflow.Proofs.Runs.Memory
import ContentWorkflow.Proofs.Runs.Offers
import ContentWorkflow.Proofs.Runs.Once
import ContentWorkflow.Proofs.Runs.Operation
import ContentWorkflow.Proofs.Runs.Persistence
import ContentWorkflow.Proofs.Runs.Placement
import ContentWorkflow.Proofs.Runs.Reachable
import ContentWorkflow.Proofs.Runs.Reentry
import ContentWorkflow.Proofs.Runs.References
import ContentWorkflow.Proofs.Runs.Registry
import ContentWorkflow.Proofs.Runs.Reversal
import ContentWorkflow.Proofs.Runs.Step
import ContentWorkflow.Proofs.Runs.Sweep
import ContentWorkflow.Proofs.Runs.Timeliness
import ContentWorkflow.Proofs.Runs.Tracking
import ContentWorkflow.Proofs.Runs.Trails
import ContentWorkflow.Proofs.Runs.Waiting
import ContentWorkflow.Proofs.Store.Items
import ContentWorkflow.Proofs.Store.Keys
import ContentWorkflow.Proofs.Store.Lookup
import ContentWorkflow.Proofs.Store.Pending
import ContentWorkflow.Proofs.Store.Queries
import ContentWorkflow.Proofs.Text.Trimming
import ContentWorkflow.Proofs.Workflow.MachineName
import ContentWorkflow.Proofs.Workflow.RuleTable
import ContentWorkflow.Proofs.Workflow.StateOrder
import ContentWorkflow.Setup
import ContentWorkflow.Store.Basic
import ContentWorkflow.Store.Form
import ContentWorkflow.Store.History
import ContentWorkflow.Store.Items
import ContentWorkflow.Store.Pending
import ContentWorkflow.Store.Rules
import ContentWorkflow.Store.States
import ContentWorkflow.Store.Workflows
import ContentWorkflow.Text.Blank
import ContentWorkflow.Text.Dictionary
import ContentWorkflow.Text.DictionaryForm
import ContentWorkflow.Text.Numeral
import ContentWorkflow.Transition.Basic
import ContentWorkflow.Transition.Form
import ContentWorkflow.Transition.History
import ContentWorkflow.Workflow.Definition
import ContentWorkflow.Workflow.Form
import ContentWorkflow.Workflow.MachineName
import ContentWorkflow.Workflow.Rule
import ContentWorkflow.Workflow.RuleTable
import ContentWorkflow.Workflow.State
