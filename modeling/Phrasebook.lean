import Phrasebook.Candidate.Acceptance
import Phrasebook.Candidate.Basic
import Phrasebook.Candidate.Offsets
import Phrasebook.Candidate.Search
import Phrasebook.Candidate.Shape
import Phrasebook.Command.Basic
import Phrasebook.Command.Extract
import Phrasebook.Command.Init
import Phrasebook.Command.Line
import Phrasebook.Command.Replace
import Phrasebook.Command.Report
import Phrasebook.Dictionary.Basic
import Phrasebook.Dictionary.Documents
import Phrasebook.Dictionary.Messages
import Phrasebook.Dictionary.Propagation
import Phrasebook.Dictionary.Style
import Phrasebook.Failure
import Phrasebook.Formatting.Basic
import Phrasebook.Formatting.Filter
import Phrasebook.Formatting.Script
import Phrasebook.Glob
import Phrasebook.Json.Basic
import Phrasebook.Json.Decode
import Phrasebook.Json.Reader
import Phrasebook.Json.Relaxed
import Phrasebook.Json.Writer
import Phrasebook.Key.Derivation
import Phrasebook.Key.Naming
import Phrasebook.Main
import Phrasebook.Manifest
import Phrasebook.Notice
import Phrasebook.Number.Binary64
import Phrasebook.Project.Basic
import Phrasebook.Project.Path
import Phrasebook.Project.Selection
import Phrasebook.Proofs.Candidate.Lookups
import Phrasebook.Proofs.Candidate.Reading
import Phrasebook.Proofs.Candidate.Shapes
import Phrasebook.Proofs.Candidate.Standing
import Phrasebook.Proofs.Dictionary.Awaiting
import Phrasebook.Proofs.Dictionary.Bookkeeping
import Phrasebook.Proofs.Dictionary.Editing
import Phrasebook.Proofs.Dictionary.Flushing
import Phrasebook.Proofs.Dictionary.Leaves
import Phrasebook.Proofs.Dictionary.Messages
import Phrasebook.Proofs.Dictionary.Propagating
import Phrasebook.Proofs.Dictionary.Reaching
import Phrasebook.Proofs.Dictionary.Remembering
import Phrasebook.Proofs.Dictionary.Reordering
import Phrasebook.Proofs.Dictionary.Saving
import Phrasebook.Proofs.Dictionary.Setting
import Phrasebook.Proofs.Dictionary.Style
import Phrasebook.Proofs.Dictionary.Writing
import Phrasebook.Proofs.Json.Numbers
import Phrasebook.Proofs.Json.Reading
import Phrasebook.Proofs.Json.Values
import Phrasebook.Proofs.Json.Writing
import Phrasebook.Proofs.Key.Derivation
import Phrasebook.Proofs.Key.Forms
import Phrasebook.Proofs.Key.Naming
import Phrasebook.Proofs.Key.Stability
import Phrasebook.Proofs.Manifest.Order
import Phrasebook.Proofs.Manifest.Reloading
import Phrasebook.Proofs.Outcome
import Phrasebook.Proofs.Report.Records
import Phrasebook.Proofs.Rewrite.Accepting
import Phrasebook.Proofs.Rewrite.Accessors
import Phrasebook.Proofs.Rewrite.Asking
import Phrasebook.Proofs.Rewrite.Binding
import Phrasebook.Proofs.Rewrite.Claiming
import Phrasebook.Proofs.Rewrite.Contending
import Phrasebook.Proofs.Rewrite.Locating
import Phrasebook.Proofs.Rewrite.Planning
import Phrasebook.Proofs.Rewrite.Prologues
import Phrasebook.Proofs.Rewrite.Recorded
import Phrasebook.Proofs.Rewrite.Repetition
import Phrasebook.Proofs.Rewrite.Rescanning
import Phrasebook.Proofs.Rewrite.Unchanged
import Phrasebook.Proofs.Run.Accounting
import Phrasebook.Proofs.Run.Agreeing
import Phrasebook.Proofs.Run.Counting
import Phrasebook.Proofs.Run.Crews
import Phrasebook.Proofs.Run.Documents
import Phrasebook.Proofs.Run.History
import Phrasebook.Proofs.Run.Keeping
import Phrasebook.Proofs.Run.Overtaking
import Phrasebook.Proofs.Run.Replacing
import Phrasebook.Proofs.Run.Returning
import Phrasebook.Proofs.Run.Selecting
import Phrasebook.Proofs.Run.Stopping
import Phrasebook.Proofs.Run.Tallying
import Phrasebook.Proofs.Storage.Copies
import Phrasebook.Proofs.Storage.Independent
import Phrasebook.Proofs.Storage.Repeating
import Phrasebook.Proofs.Syntax.Calls
import Phrasebook.Proofs.Syntax.Documents
import Phrasebook.Proofs.Syntax.Lexemes
import Phrasebook.Proofs.Table
import Phrasebook.Proofs.Text.Blanks
import Phrasebook.Proofs.Text.Bytes
import Phrasebook.Proofs.Text.Parts
import Phrasebook.Proofs.Text.Positions
import Phrasebook.Proofs.Text.References
import Phrasebook.Proofs.Text.Slugs
import Phrasebook.Proofs.Text.Splicing
import Phrasebook.Proofs.Text.Weaving
import Phrasebook.Regex.Basic
import Phrasebook.Regex.Classes
import Phrasebook.Regex.Reader
import Phrasebook.Report.Basic
import Phrasebook.Report.Files
import Phrasebook.Report.Page
import Phrasebook.Report.Record
import Phrasebook.Report.Summary
import Phrasebook.Rewrite.Basic
import Phrasebook.Rewrite.Component
import Phrasebook.Rewrite.Head
import Phrasebook.Rewrite.Lookup
import Phrasebook.Rewrite.Plan
import Phrasebook.Run.Error
import Phrasebook.Run.Extraction
import Phrasebook.Run.Replacement
import Phrasebook.Run.Session
import Phrasebook.Settings.Basic
import Phrasebook.Settings.Check
import Phrasebook.Settings.Files
import Phrasebook.Settings.Reader
import Phrasebook.Storage.Backups
import Phrasebook.Storage.Basic
import Phrasebook.Storage.Disk
import Phrasebook.Storage.Shelf
import Phrasebook.Syntax.Grammar.Arguments
import Phrasebook.Syntax.Grammar.Arrows
import Phrasebook.Syntax.Grammar.Basic
import Phrasebook.Syntax.Grammar.Classes
import Phrasebook.Syntax.Grammar.Declarations
import Phrasebook.Syntax.Grammar.Exchange
import Phrasebook.Syntax.Grammar.Functions
import Phrasebook.Syntax.Grammar.Markup
import Phrasebook.Syntax.Grammar.Objects
import Phrasebook.Syntax.Grammar.Operands
import Phrasebook.Syntax.Grammar.Operators
import Phrasebook.Syntax.Grammar.Patterns
import Phrasebook.Syntax.Grammar.Statements
import Phrasebook.Syntax.Grammar.Types
import Phrasebook.Syntax.Grammar.Variables
import Phrasebook.Syntax.Lexing
import Phrasebook.Syntax.Module
import Phrasebook.Syntax.Reader
import Phrasebook.Syntax.Token
import Phrasebook.Syntax.Tree
import Phrasebook.Table
import Phrasebook.Text.Bytes
import Phrasebook.Text.Casing
import Phrasebook.Text.Encoding
import Phrasebook.Text.Entity
import Phrasebook.Text.Lines
import Phrasebook.Text.Shown
import Phrasebook.Text.Slug
import Phrasebook.Text.Spacing
import Phrasebook.Text.Splice
import Phrasebook.Text.Split
import Phrasebook.Unicode.Alphabetic
import Phrasebook.Unicode.Blank
import Phrasebook.Unicode.Category
import Phrasebook.Unicode.Decomposition
import Phrasebook.Unicode.Folding
import Phrasebook.Unicode.Identifier
import Phrasebook.Unicode.Lowercase
import Phrasebook.Unicode.Mark
import Phrasebook.Unicode.Normalization
import Phrasebook.Unicode.Ranges
import Phrasebook.Unicode.Script
import Phrasebook.Unicode.Uppercase
import Phrasebook.Unicode.Visible
