import Replica.Address.Basic
import Replica.Address.Escape
import Replica.Address.Internet
import Replica.Address.Reader
import Replica.Bridge.Client
import Replica.Bridge.Coding
import Replica.Bridge.Download
import Replica.Bridge.Message
import Replica.Bridge.Request
import Replica.Budget
import Replica.CommandLine.Copy
import Replica.CommandLine.Files
import Replica.CommandLine.Info
import Replica.CommandLine.Init
import Replica.CommandLine.Options
import Replica.CommandLine.Program
import Replica.CommandLine.Prompt
import Replica.CommandLine.Shell
import Replica.Comparison
import Replica.Compression.Block
import Replica.Compression.Checksum
import Replica.Compression.Code
import Replica.Compression.Expansion
import Replica.Compression.Wrapping
import Replica.Console
import Replica.Device.Node
import Replica.Device.Storage
import Replica.Display
import Replica.Domain.Direction
import Replica.Domain.Joining
import Replica.Domain.Label
import Replica.Domain.Name
import Replica.Domain.Permitted
import Replica.Domain.Punycode
import Replica.Domain.Script
import Replica.Failure
import Replica.FileSystem.Basic
import Replica.FileSystem.Change
import Replica.Journal
import Replica.Json.Basic
import Replica.Json.Display
import Replica.Json.Integer
import Replica.Json.Parser
import Replica.Json.Printer
import Replica.LocalDirectory
import Replica.Main
import Replica.Number.Binary64
import Replica.Number.Numeral
import Replica.Number.Rounding
import Replica.Number.Shortest
import Replica.Path
import Replica.Procedure
import Replica.Proofs.Agenda
import Replica.Proofs.Causes
import Replica.Proofs.Census
import Replica.Proofs.Coherence
import Replica.Proofs.Commands
import Replica.Proofs.Completion
import Replica.Proofs.Components
import Replica.Proofs.Confinement
import Replica.Proofs.Conservation
import Replica.Proofs.Containment
import Replica.Proofs.Contents
import Replica.Proofs.Contract
import Replica.Proofs.Correspondence
import Replica.Proofs.Course
import Replica.Proofs.Cycles
import Replica.Proofs.Descent
import Replica.Proofs.Descriptions
import Replica.Proofs.Directories
import Replica.Proofs.Documents
import Replica.Proofs.Downloads
import Replica.Proofs.Ensures
import Replica.Proofs.Explorations
import Replica.Proofs.Findings
import Replica.Proofs.Foothold
import Replica.Proofs.Hierarchy
import Replica.Proofs.Histories
import Replica.Proofs.Indifference
import Replica.Proofs.Inquiries
import Replica.Proofs.Isolation
import Replica.Proofs.Kinds
import Replica.Proofs.Limits
import Replica.Proofs.Losses
import Replica.Proofs.Messages
import Replica.Proofs.Moves
import Replica.Proofs.Numerals
import Replica.Proofs.Outcomes
import Replica.Proofs.Pagination
import Replica.Proofs.Pairs
import Replica.Proofs.Paths
import Replica.Proofs.Persistence
import Replica.Proofs.Proceedings
import Replica.Proofs.Progress
import Replica.Proofs.Reactions
import Replica.Proofs.Rearrangement
import Replica.Proofs.Recall
import Replica.Proofs.Recovery
import Replica.Proofs.Repetition
import Replica.Proofs.Replication
import Replica.Proofs.Resolution
import Replica.Proofs.Rounds
import Replica.Proofs.Searches
import Replica.Proofs.Selection
import Replica.Proofs.Sessions
import Replica.Proofs.Sizes
import Replica.Proofs.Tolerance
import Replica.Proofs.Tours
import Replica.Proofs.Trees
import Replica.Proofs.Turns
import Replica.Proofs.Walks
import Replica.Proofs.Whereabouts
import Replica.Rehearsal.Catalogue
import Replica.Rehearsal.Description
import Replica.Rehearsal.Performance
import Replica.Rehearsal.Reply
import Replica.Rehearsal.Script
import Replica.Rehearsal.Tree
import Replica.Remote.Basic
import Replica.Remote.InMemory
import Replica.Remote.Session
import Replica.Remote.Traversal
import Replica.Run
import Replica.Segment
import Replica.Settings
import Replica.Size
import Replica.Statistics
import Replica.Text.Unwritable
import Replica.Text.Base64
import Replica.Text.Blank
import Replica.Text.Case
import Replica.Text.Case.Context
import Replica.Text.Case.Lower
import Replica.Text.Case.Upper
import Replica.Text.CodePoint
import Replica.Text.Composite
import Replica.Text.Composition
import Replica.Text.Digit
import Replica.Text.Encoding
import Replica.Text.Letter
import Replica.Text.Lines
import Replica.Text.Mark
import Replica.Text.Printable
import Replica.Text.Quoted
import Replica.Text.Resemblance
import Replica.Trail
import Replica.Walk
import Replica.World
import Replica.Proofs.Magnitudes
