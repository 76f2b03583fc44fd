import ScriptHost.Check.Exports
import ScriptHost.Check.Imports
import ScriptHost.Check.Names
import ScriptHost.Command.Arguments
import ScriptHost.Command.Run
import ScriptHost.CommonJS.Links
import ScriptHost.CommonJS.Module
import ScriptHost.Compile.Basic
import ScriptHost.Compile.Lint
import ScriptHost.Data.SortedMap
import ScriptHost.Decimal.Shortest
import ScriptHost.Decorator.Basic
import ScriptHost.Decorator.Experimental
import ScriptHost.Decorator.Member
import ScriptHost.Decorator.Standard
import ScriptHost.Decorator.TypeValue
import ScriptHost.Diagnostic.Basic
import ScriptHost.Diagnostic.Message
import ScriptHost.Diagnostic.Reading
import ScriptHost.Emit.File
import ScriptHost.Emit.Hygiene
import ScriptHost.Emit.Parens
import ScriptHost.Emit.Program
import ScriptHost.Erase.Enum
import ScriptHost.Erase.Field
import ScriptHost.Erase.Module
import ScriptHost.Erase.Types
import ScriptHost.Erase.Unused
import ScriptHost.Host.Files
import ScriptHost.Host.Path
import ScriptHost.Json.Basic
import ScriptHost.Json.Read
import ScriptHost.Json.Reader
import ScriptHost.Lint.Level
import ScriptHost.Lint.Message
import ScriptHost.Lint.Promise
import ScriptHost.Lint.Rules
import ScriptHost.Lower.Async
import ScriptHost.Lower.Basic
import ScriptHost.Lower.Block
import ScriptHost.Lower.Capture
import ScriptHost.Lower.Class
import ScriptHost.Lower.ClassField
import ScriptHost.Lower.Constructor
import ScriptHost.Lower.Edition
import ScriptHost.Lower.Function
import ScriptHost.Lower.Generator
import ScriptHost.Helper.Basic
import ScriptHost.Helper.Code
import ScriptHost.Lower.Hoist
import ScriptHost.Lower.Loop
import ScriptHost.Lower.ObjectRest
import ScriptHost.Lower.Operator
import ScriptHost.Lower.OptionalChain
import ScriptHost.Lower.Parameter
import ScriptHost.Lower.Pattern
import ScriptHost.Lower.Private
import ScriptHost.Lower.Reserved
import ScriptHost.Lower.Spelling
import ScriptHost.Lower.Spread
import ScriptHost.Lower.Step
import ScriptHost.Lower.StepValue
import ScriptHost.Main
import ScriptHost.Options.Basic
import ScriptHost.Options.Display
import ScriptHost.Options.Target
import ScriptHost.Parser.Declaration
import ScriptHost.Parser.Expression
import ScriptHost.Parser.Function
import ScriptHost.Parser.Markup
import ScriptHost.Parser.Module
import ScriptHost.Parser.ModuleItem
import ScriptHost.Parser.Name
import ScriptHost.Parser.Pattern
import ScriptHost.Parser.State
import ScriptHost.Parser.Statement
import ScriptHost.Parser.Type
import ScriptHost.Printer.Expression
import ScriptHost.Printer.Function
import ScriptHost.Printer.Literal
import ScriptHost.Printer.Module
import ScriptHost.Printer.Output
import ScriptHost.Printer.Statement
import ScriptHost.Printer.Type
import ScriptHost.Program.Ambient
import ScriptHost.Program.Basic
import ScriptHost.Program.Diagnostics
import ScriptHost.Program.Resolution
import ScriptHost.Proofs.Check.Exports
import ScriptHost.Proofs.Check.Imports
import ScriptHost.Proofs.Check.Names
import ScriptHost.Proofs.Compile.Lint
import ScriptHost.Proofs.Compile.Output
import ScriptHost.Proofs.Compile.Reports
import ScriptHost.Proofs.Compile.Rewriting
import ScriptHost.Proofs.Compile.Success
import ScriptHost.Proofs.Host.Canonical
import ScriptHost.Proofs.Host.OutputName
import ScriptHost.Proofs.Program.Complete
import ScriptHost.Proofs.Program.Files
import ScriptHost.Proofs.Program.Loading
import ScriptHost.Proofs.Program.Log
import ScriptHost.Proofs.Program.Order
import ScriptHost.Proofs.Program.Resolution
import ScriptHost.Result.Basic
import ScriptHost.Result.Failure
import ScriptHost.Scope.Declared
import ScriptHost.Scope.Resolve
import ScriptHost.Scope.Role
import ScriptHost.Snapshot.Collect
import ScriptHost.Snapshot.Store
import ScriptHost.Snapshot.Tree
import ScriptHost.Source.IdentChar
import ScriptHost.Source.Location
import ScriptHost.Source.LowerCase
import ScriptHost.Source.SourceFile
import ScriptHost.Source.Span
import ScriptHost.Text.Quoted
import ScriptHost.Token.Basic
import ScriptHost.Token.Issue
import ScriptHost.Token.Scanner
import ScriptHost.Transform.Action
import ScriptHost.Transform.Factory
import ScriptHost.Tree.Form
import ScriptHost.Tree.Node
import ScriptHost.Tree.Operator
import ScriptHost.Proofs.Host.Spelling
import ScriptHost.Proofs.Host.Uniform
import ScriptHost.Proofs.Compile.Repeated
import ScriptHost.Proofs.Host.Declaration
import ScriptHost.Proofs.Program.Roots
import ScriptHost.Proofs.Compile.Written
import ScriptHost.Proofs.Text.Slice
import ScriptHost.Proofs.Program.Slices
import ScriptHost.Proofs.Program.Answers
import ScriptHost.Proofs.Program.Spelled
import ScriptHost.Proofs.Snapshot.Collected
import ScriptHost.Proofs.Check.Places
import ScriptHost.Proofs.Compile.Places
import ScriptHost.Proofs.Program.Candidates
import ScriptHost.Proofs.Program.Scripts
import ScriptHost.Proofs.Host.Growth
import ScriptHost.Proofs.Program.Growth
import ScriptHost.Proofs.Host.Normal
import ScriptHost.Proofs.Program.Siblings
import ScriptHost.Proofs.Check.Listing
import ScriptHost.Proofs.Check.Effects
import ScriptHost.Proofs.Program.Respelled
import ScriptHost.Proofs.Compile.Silent
import ScriptHost.Proofs.Compile.Rewritten
import ScriptHost.Proofs.Json.Texts
import ScriptHost.Proofs.Snapshot.Disk
import ScriptHost.Proofs.Snapshot.Saved
import ScriptHost.Proofs.Text.ByteOrder
import ScriptHost.Proofs.Program.Aliases
import ScriptHost.Proofs.Source.Declared
import ScriptHost.Proofs.Check.ExportForms
import ScriptHost.Proofs.Check.Globals
import ScriptHost.Proofs.Check.TypePositions
import ScriptHost.Proofs.Data.StableSort
import ScriptHost.Proofs.Lint.Tables
import ScriptHost.Proofs.Lint.Promise
import ScriptHost.Proofs.Program.Nearest
import ScriptHost.Proofs.Program.Rooted
import ScriptHost.Proofs.Source.RoundTrip
import ScriptHost.Proofs.Snapshot.Packages
import ScriptHost.Proofs.Snapshot.Dependencies
import ScriptHost.Proofs.Json.Values
import ScriptHost.Proofs.Json.Refines
import ScriptHost.Proofs.Json.Nesting
import ScriptHost.Proofs.Options.Written
import ScriptHost.Proofs.Options.RoundTrip
import ScriptHost.Proofs.Data.Entries
import ScriptHost.Proofs.Diagnostic.RoundTrip
import ScriptHost.Proofs.Diagnostic.Layout
import ScriptHost.Proofs.Lint.Levels
import ScriptHost.Proofs.Host.NormalForm
