import Terrasmith.Cli.Arguments
import Terrasmith.Cli.Basic
import Terrasmith.Cli.Command
import Terrasmith.Config.Basic
import Terrasmith.Config.Declaration
import Terrasmith.Config.Order
import Terrasmith.Expr.Basic
import Terrasmith.Expr.Display
import Terrasmith.Expr.Eval
import Terrasmith.Expr.Fault
import Terrasmith.Expr.Grouping
import Terrasmith.Expr.Lazy
import Terrasmith.Expr.References
import Terrasmith.Expr.Strip
import Terrasmith.Function.Basic
import Terrasmith.Function.Fault
import Terrasmith.Json.Number
import Terrasmith.Json.Read
import Terrasmith.Json.Record
import Terrasmith.Json.Write
import Terrasmith.Layout
import Terrasmith.Main
import Terrasmith.Module.Basic
import Terrasmith.Module.Edit
import Terrasmith.Module.Kind
import Terrasmith.Module.Snapshot
import Terrasmith.Module.Value
import Terrasmith.Number.Basic
import Terrasmith.Number.Binary
import Terrasmith.Number.Shortest
import Terrasmith.Number.Text
import Terrasmith.Proofs.Additions
import Terrasmith.Proofs.Alignment
import Terrasmith.Proofs.Alike
import Terrasmith.Proofs.Appending
import Terrasmith.Proofs.AtRest
import Terrasmith.Proofs.Atomicity
import Terrasmith.Proofs.Backups
import Terrasmith.Proofs.BlockValues
import Terrasmith.Proofs.Bounds
import Terrasmith.Proofs.CellAlignment
import Terrasmith.Proofs.Cells
import Terrasmith.Proofs.Changes
import Terrasmith.Proofs.Columns
import Terrasmith.Proofs.Compact
import Terrasmith.Proofs.Completeness
import Terrasmith.Proofs.Confinement
import Terrasmith.Proofs.Consistency
import Terrasmith.Proofs.Conversion
import Terrasmith.Proofs.Course
import Terrasmith.Proofs.Cutting
import Terrasmith.Proofs.Dependencies
import Terrasmith.Proofs.Displays
import Terrasmith.Proofs.DistinctKeys
import Terrasmith.Proofs.EnsuredLocals
import Terrasmith.Proofs.Entries
import Terrasmith.Proofs.Evaluation
import Terrasmith.Proofs.Fallback
import Terrasmith.Proofs.Fields
import Terrasmith.Proofs.Filling
import Terrasmith.Proofs.Following
import Terrasmith.Proofs.Formatting
import Terrasmith.Proofs.Idempotence
import Terrasmith.Proofs.Insertion
import Terrasmith.Proofs.Invariants
import Terrasmith.Proofs.Inventory
import Terrasmith.Proofs.Keys
import Terrasmith.Proofs.LazyCalls
import Terrasmith.Proofs.Lexemes
import Terrasmith.Proofs.Literals
import Terrasmith.Proofs.Loading
import Terrasmith.Proofs.Locals
import Terrasmith.Proofs.Locations
import Terrasmith.Proofs.Merge
import Terrasmith.Proofs.MergeLaw
import Terrasmith.Proofs.Moving
import Terrasmith.Proofs.NestedRemoval
import Terrasmith.Proofs.Nesting
import Terrasmith.Proofs.Nodes
import Terrasmith.Proofs.Numerals
import Terrasmith.Proofs.Occurrences
import Terrasmith.Proofs.OnDemand
import Terrasmith.Proofs.Operations
import Terrasmith.Proofs.Outcomes
import Terrasmith.Proofs.Parts
import Terrasmith.Proofs.Patch
import Terrasmith.Proofs.Pieces
import Terrasmith.Proofs.Placement
import Terrasmith.Proofs.Positions
import Terrasmith.Proofs.Printing
import Terrasmith.Proofs.Queries
import Terrasmith.Proofs.Quotation
import Terrasmith.Proofs.Reading
import Terrasmith.Proofs.Recutting
import Terrasmith.Proofs.Reflow
import Terrasmith.Proofs.RegisteredValues
import Terrasmith.Proofs.Registry
import Terrasmith.Proofs.RenameRules
import Terrasmith.Proofs.Renaming
import Terrasmith.Proofs.Replacement
import Terrasmith.Proofs.Rereading
import Terrasmith.Proofs.Reset
import Terrasmith.Proofs.Resolution
import Terrasmith.Proofs.Retention
import Terrasmith.Proofs.Reworking
import Terrasmith.Proofs.Rounding
import Terrasmith.Proofs.Saving
import Terrasmith.Proofs.Scanning
import Terrasmith.Proofs.Scheduling
import Terrasmith.Proofs.Shapes
import Terrasmith.Proofs.SharedFiles
import Terrasmith.Proofs.Skipping
import Terrasmith.Proofs.Structures
import Terrasmith.Proofs.Templates
import Terrasmith.Proofs.TerraformBlocks
import Terrasmith.Proofs.Tidy
import Terrasmith.Proofs.Trace
import Terrasmith.Proofs.Unchanged
import Terrasmith.Proofs.Unloaded
import Terrasmith.Proofs.Update
import Terrasmith.Proofs.UpperBound
import Terrasmith.Proofs.Validation
import Terrasmith.Proofs.Variables
import Terrasmith.Proofs.WhiteSpace
import Terrasmith.Proofs.Writing
import Terrasmith.Provider.Schema
import Terrasmith.Provider.Tool
import Terrasmith.Query.Basic
import Terrasmith.Regex.Basic
import Terrasmith.Regex.Category
import Terrasmith.Regex.CharSet
import Terrasmith.Regex.Class
import Terrasmith.Regex.Escape
import Terrasmith.Regex.Match
import Terrasmith.Regex.Named
import Terrasmith.Regex.Parse
import Terrasmith.Regex.Property
import Terrasmith.Regex.Replace
import Terrasmith.Regex.Segment
import Terrasmith.Regex.Weight
import Terrasmith.Run.Basic
import Terrasmith.Source.Edit
import Terrasmith.Source.Expression
import Terrasmith.Source.Heredoc
import Terrasmith.Source.Lexeme
import Terrasmith.Source.Meaning
import Terrasmith.Source.Merge
import Terrasmith.Source.Page
import Terrasmith.Source.Parse
import Terrasmith.Source.Quote
import Terrasmith.Source.Tree
import Terrasmith.Source.Written
import Terrasmith.Text.Age
import Terrasmith.Text.Basic
import Terrasmith.Text.Case
import Terrasmith.Text.Category
import Terrasmith.Text.Escape
import Terrasmith.Text.FineCategory
import Terrasmith.Text.Identifier
import Terrasmith.Text.LineIndex
import Terrasmith.Text.Property
import Terrasmith.Text.Ranges
import Terrasmith.Text.Script
import Terrasmith.Transform.Basic
import Terrasmith.Transform.Decode
import Terrasmith.Transform.Element
import Terrasmith.Transform.Fields
import Terrasmith.Transform.Patch
import Terrasmith.Value.Basic
import Terrasmith.Value.Shape
import Terrasmith.Workspace.Backup
import Terrasmith.Workspace.Basic
import Terrasmith.Workspace.Load
import Terrasmith.Workspace.Manifest
import Terrasmith.Workspace.Path
import Terrasmith.Workspace.Transform
import Terrasmith.Yaml.Scalar
import Terrasmith.Yaml.Write
