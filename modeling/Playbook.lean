import Playbook.CommandLine.Grammar
import Playbook.CommandLine.Invocation
import Playbook.CommandLine.Program
import Playbook.Conversation.Context
import Playbook.Conversation.Message
import Playbook.Conversation.Variables
import Playbook.Document.Block
import Playbook.Document.Comment
import Playbook.Document.Directive
import Playbook.Document.Fence
import Playbook.Document.Flag
import Playbook.Document.Listing
import Playbook.Document.Parse
import Playbook.Document.Reading
import Playbook.Document.Record
import Playbook.Document.Token
import Playbook.Execution.Boundary
import Playbook.Execution.Highlights
import Playbook.Execution.Machine
import Playbook.Execution.Phase
import Playbook.Failure
import Playbook.Main
import Playbook.Model.Body
import Playbook.Model.Client
import Playbook.Model.Echo
import Playbook.Model.Http
import Playbook.Model.LocalServer
import Playbook.Model.Plan
import Playbook.Model.Request
import Playbook.Model.Retry
import Playbook.Model.Service
import Playbook.Number.Decimals
import Playbook.Number.FloatText
import Playbook.Number.Numeral
import Playbook.Number.Shortest
import Playbook.Proofs.Conversation.Contexts
import Playbook.Proofs.Document.Append
import Playbook.Proofs.Document.Cover
import Playbook.Proofs.Document.Neighbours
import Playbook.Proofs.Document.Positions
import Playbook.Proofs.Document.Roundtrip
import Playbook.Proofs.Document.Shapes
import Playbook.Proofs.Execution.Machine
import Playbook.Proofs.Session.Admission
import Playbook.Proofs.Session.Announcement
import Playbook.Proofs.Session.Boundary
import Playbook.Proofs.Session.Consistency
import Playbook.Proofs.Session.Dispatch
import Playbook.Proofs.Session.Identity
import Playbook.Proofs.Session.Interruption
import Playbook.Proofs.Session.Isolation
import Playbook.Proofs.Session.Ledger
import Playbook.Proofs.Session.Mirror
import Playbook.Proofs.Session.Origin
import Playbook.Proofs.Session.Outcome
import Playbook.Proofs.Session.Ownership
import Playbook.Proofs.Session.Recording
import Playbook.Proofs.Session.Registry
import Playbook.Proofs.Session.Renewal
import Playbook.Proofs.Session.Stacks
import Playbook.Proofs.Session.Tenure
import Playbook.Proofs.Session.Turn
import Playbook.Proofs.Session.View
import Playbook.Proofs.Skill.Course
import Playbook.Proofs.Skill.Likeness
import Playbook.Session.Basic
import Playbook.Session.Record
import Playbook.Session.Report
import Playbook.Session.Run
import Playbook.Session.Workbench
import Playbook.Settings.Basic
import Playbook.Settings.Check
import Playbook.Settings.Library
import Playbook.Settings.Load
import Playbook.Settings.Values
import Playbook.Shell.Arithmetic
import Playbook.Shell.Brace
import Playbook.Shell.Commands
import Playbook.Shell.Control
import Playbook.Shell.Fault
import Playbook.Shell.Field
import Playbook.Shell.Launch
import Playbook.Shell.Pattern
import Playbook.Shell.Print
import Playbook.Shell.Process
import Playbook.Shell.Reader
import Playbook.Shell.Run
import Playbook.Shell.Syntax
import Playbook.Shell.Utilities
import Playbook.Skill.Api
import Playbook.Skill.Basic
import Playbook.Skill.Builtin
import Playbook.Skill.Execute
import Playbook.Skill.Files
import Playbook.Skill.Registry
import Playbook.Skill.Rehearsal
import Playbook.Skill.Task
import Playbook.Text.Base64
import Playbook.Text.Blank
import Playbook.Text.Composition
import Playbook.Text.Digit
import Playbook.Text.Direction
import Playbook.Text.Display
import Playbook.Text.Encoding
import Playbook.Text.Json
import Playbook.Text.JsonReader
import Playbook.Text.Lines
import Playbook.Text.Lower
import Playbook.Text.Mark
import Playbook.Text.Printable
import Playbook.Text.Quoted
import Playbook.Text.Ranges
import Playbook.Text.Search
import Playbook.Text.Utf8
import Playbook.Text.Wide
import Playbook.Text.Word
import Playbook.Web.Address
import Playbook.Web.Domain
import Playbook.Web.Neighbour
import Playbook.Web.Permitted
import Playbook.Web.Punycode
import Playbook.Web.Quoting
import Playbook.Web.Url
import Playbook.Workspace.Disk
import Playbook.Workspace.FileError
import Playbook.Workspace.Host
import Playbook.Workspace.Launch
import Playbook.Workspace.Path
import Playbook.Workspace.TextFile
import Playbook.Yaml.Content
import Playbook.Yaml.Lexer
import Playbook.Yaml.Node
import Playbook.Yaml.Resolve
import Playbook.Yaml.Scalar
import Playbook.Yaml.Source
import Playbook.Yaml.Token
import Playbook.Yaml.Value
import Playbook.Proofs.Execution.Transitions
import Playbook.Proofs.Execution.Waiters
import Playbook.Proofs.Document.Adjacency
import Playbook.Proofs.Session.Payload
import Playbook.Proofs.Session.Highlights
import Playbook.Proofs.Document.Fenced
import Playbook.Proofs.CommandLine.Stored
import Playbook.Proofs.Document.Checked
import Playbook.Proofs.Skill.Frame
import Playbook.Proofs.Conversation.Histories
import Playbook.Proofs.Conversation.Store
import Playbook.Proofs.Conversation.Placeholders
import Playbook.Proofs.Model.Answers
import Playbook.Proofs.Model.Attempts
import Playbook.Proofs.Model.Dealings
import Playbook.Proofs.Settings.Fields
import Playbook.Proofs.Settings.Sources
import Playbook.Proofs.Session.Opening
import Playbook.Proofs.Conversation.Prompts
import Playbook.Proofs.Skill.Asking
import Playbook.Proofs.Skill.Files
import Playbook.Proofs.Skill.Storing
import Playbook.Proofs.Workspace.Disk
import Playbook.Proofs.Session.Recall
import Playbook.Proofs.Document.FlagLines
import Playbook.Proofs.Document.Canonical
import Playbook.Proofs.Document.LineEnds
import Playbook.Proofs.Document.Listings
import Playbook.Proofs.Skill.Registration
import Playbook.Proofs.Skill.Parameters
import Playbook.Proofs.Skill.Dumping
