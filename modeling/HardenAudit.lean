import HardenAudit.CommandLine.Arguments
import HardenAudit.CommandLine.Execute
import HardenAudit.Diagnostic
import HardenAudit.ExtendedShell.Arithmetic
import HardenAudit.ExtendedShell.Arrays
import HardenAudit.ExtendedShell.Assignment
import HardenAudit.ExtendedShell.Braces
import HardenAudit.ExtendedShell.Builtin.Condition
import HardenAudit.ExtendedShell.Builtin.Declare
import HardenAudit.ExtendedShell.Builtin.Directory
import HardenAudit.ExtendedShell.Builtin.Input
import HardenAudit.ExtendedShell.Builtin.Options
import HardenAudit.ExtendedShell.Builtin.Output
import HardenAudit.ExtendedShell.Builtin.Process
import HardenAudit.ExtendedShell.Builtin.Variables
import HardenAudit.ExtendedShell.Calls
import HardenAudit.ExtendedShell.Commands
import HardenAudit.ExtendedShell.Evaluate
import HardenAudit.ExtendedShell.Expansion
import HardenAudit.ExtendedShell.Fields
import HardenAudit.ExtendedShell.Glob
import HardenAudit.ExtendedShell.Jobs
import HardenAudit.ExtendedShell.Lexer
import HardenAudit.ExtendedShell.Lookup
import HardenAudit.ExtendedShell.Loops
import HardenAudit.ExtendedShell.Parser
import HardenAudit.ExtendedShell.Pattern
import HardenAudit.ExtendedShell.Pipelines
import HardenAudit.ExtendedShell.Printing
import HardenAudit.ExtendedShell.Quoting
import HardenAudit.ExtendedShell.Redirect
import HardenAudit.ExtendedShell.Running
import HardenAudit.ExtendedShell.Session
import HardenAudit.ExtendedShell.Source
import HardenAudit.ExtendedShell.State
import HardenAudit.ExtendedShell.Syntax
import HardenAudit.ExtendedShell.Variables
import HardenAudit.Failure
import HardenAudit.FileSystem.Basic
import HardenAudit.FileSystem.Setup
import HardenAudit.FileSystem.Tree
import HardenAudit.Fixture
import HardenAudit.Host.Machine
import HardenAudit.Json.Cursor
import HardenAudit.Json.Ignored
import HardenAudit.Json.Record
import HardenAudit.Json.Scalar
import HardenAudit.Json.Value
import HardenAudit.Kernel.Course
import HardenAudit.Kernel.Files
import HardenAudit.Kernel.Request
import HardenAudit.Kernel.Run
import HardenAudit.Kernel.Serve
import HardenAudit.Kernel.Signal
import HardenAudit.Kernel.State
import HardenAudit.Launch.Bounded
import HardenAudit.Log
import HardenAudit.Main
import HardenAudit.Number.Binary64
import HardenAudit.Number.Shortest
import HardenAudit.Path
import HardenAudit.Pipeline
import HardenAudit.Program.Basic
import HardenAudit.Program.Calculate
import HardenAudit.Program.Calendar
import HardenAudit.Program.Calling
import HardenAudit.Program.Checksum
import HardenAudit.Program.Columns
import HardenAudit.Program.Compare
import HardenAudit.Program.Condition
import HardenAudit.Program.Copying
import HardenAudit.Program.Counting
import HardenAudit.Program.Describing
import HardenAudit.Program.Difference
import HardenAudit.Program.Digest
import HardenAudit.Program.Display
import HardenAudit.Program.Dump
import HardenAudit.Program.Edit.Run
import HardenAudit.Program.Edit.Script
import HardenAudit.Program.Encoding
import HardenAudit.Program.Files
import HardenAudit.Program.Format
import HardenAudit.Program.Grep
import HardenAudit.Program.Identity
import HardenAudit.Program.Installing
import HardenAudit.Program.Joining
import HardenAudit.Program.Launching
import HardenAudit.Program.Listing
import HardenAudit.Program.Mode
import HardenAudit.Program.Naming
import HardenAudit.Program.Numbering
import HardenAudit.Program.Order
import HardenAudit.Program.Parts
import HardenAudit.Program.Records.Evaluate
import HardenAudit.Program.Records.Expression
import HardenAudit.Program.Records.Library
import HardenAudit.Program.Records.Parser
import HardenAudit.Program.Records.Run
import HardenAudit.Program.Records.State
import HardenAudit.Program.Records.Streams
import HardenAudit.Program.Records.Syntax
import HardenAudit.Program.Records.Table
import HardenAudit.Program.Records.Token
import HardenAudit.Program.Records.Value
import HardenAudit.Program.Regex
import HardenAudit.Program.Relations
import HardenAudit.Program.Repeats
import HardenAudit.Program.RichRegex
import HardenAudit.Program.Splitting
import HardenAudit.Program.Stream
import HardenAudit.Program.Tabs
import HardenAudit.Program.Transfer
import HardenAudit.Program.Translate
import HardenAudit.Program.Version
import HardenAudit.Proofs.Aborting
import HardenAudit.Proofs.Additivity
import HardenAudit.Proofs.CapturedText
import HardenAudit.Proofs.Capturing
import HardenAudit.Proofs.Causes
import HardenAudit.Proofs.Comparing
import HardenAudit.Proofs.Consistency
import HardenAudit.Proofs.Containment
import HardenAudit.Proofs.Counting
import HardenAudit.Proofs.Dates
import HardenAudit.Proofs.Decoding
import HardenAudit.Proofs.Descendants
import HardenAudit.Proofs.Disjointness
import HardenAudit.Proofs.ExitStatus
import HardenAudit.Proofs.Grammar
import HardenAudit.Proofs.Grounding
import HardenAudit.Proofs.Ignoring
import HardenAudit.Proofs.Isolation
import HardenAudit.Proofs.Keeping
import HardenAudit.Proofs.KeyOrder
import HardenAudit.Proofs.Launching
import HardenAudit.Proofs.Limits
import HardenAudit.Proofs.Lineage
import HardenAudit.Proofs.Logging
import HardenAudit.Proofs.Lossless
import HardenAudit.Proofs.Mismatches
import HardenAudit.Proofs.Naming
import HardenAudit.Proofs.Obstacles
import HardenAudit.Proofs.Overriding
import HardenAudit.Proofs.Overwriting
import HardenAudit.Proofs.Passing
import HardenAudit.Proofs.Positional
import HardenAudit.Proofs.Preparing
import HardenAudit.Proofs.Printing
import HardenAudit.Proofs.Reading
import HardenAudit.Proofs.Records
import HardenAudit.Proofs.Reporting
import HardenAudit.Proofs.Rerunning
import HardenAudit.Proofs.Resolving
import HardenAudit.Proofs.Returning
import HardenAudit.Proofs.Rewriting
import HardenAudit.Proofs.Saving
import HardenAudit.Proofs.Scalars
import HardenAudit.Proofs.Sides
import HardenAudit.Proofs.Staging
import HardenAudit.Proofs.Stems
import HardenAudit.Proofs.UnknownKeys
import HardenAudit.Proofs.Waiting
import HardenAudit.Proofs.Writing
import HardenAudit.Report
import HardenAudit.Settings.Basic
import HardenAudit.Settings.Reader
import HardenAudit.Shell.Arithmetic
import HardenAudit.Shell.Builtin.Condition
import HardenAudit.Shell.Builtin.Directory
import HardenAudit.Shell.Builtin.Output
import HardenAudit.Shell.Builtin.Process
import HardenAudit.Shell.Builtin.Variables
import HardenAudit.Shell.Evaluate
import HardenAudit.Shell.Expansion
import HardenAudit.Shell.Fields
import HardenAudit.Shell.Format
import HardenAudit.Shell.Jobs
import HardenAudit.Shell.Lexer
import HardenAudit.Shell.Lookup
import HardenAudit.Shell.Number
import HardenAudit.Shell.Options
import HardenAudit.Shell.Parser
import HardenAudit.Shell.Pattern
import HardenAudit.Shell.Redirect
import HardenAudit.Shell.Session
import HardenAudit.Shell.Source
import HardenAudit.Shell.State
import HardenAudit.Shell.Syntax
import HardenAudit.Shell.Variables
import HardenAudit.SortedMap
import HardenAudit.Text.Basic
import HardenAudit.Text.Calendar
import HardenAudit.Text.Difference
import HardenAudit.Text.Printable
import HardenAudit.Text.Terminal
import HardenAudit.Text.Utf8
import HardenAudit.Time
import HardenAudit.Toolchain.External
import HardenAudit.Toolchain.Scripted
