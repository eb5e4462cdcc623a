import DomainGen.Calendar
import DomainGen.Command.Arguments
import DomainGen.Command.Help
import DomainGen.Command.Input
import DomainGen.Command.Option
import DomainGen.Command.Run
import DomainGen.Command.Session
import DomainGen.Config.Basic
import DomainGen.Config.File
import DomainGen.Config.Merge
import DomainGen.Config.Policy
import DomainGen.Config.Resolution
import DomainGen.Config.Warnings
import DomainGen.Console.Line
import DomainGen.Console.Table
import DomainGen.Data.Arrangement
import DomainGen.Data.Basic
import DomainGen.Data.Entries
import DomainGen.Data.Sequence
import DomainGen.Data.Text
import DomainGen.Document
import DomainGen.Failure
import DomainGen.Fault
import DomainGen.FileTree
import DomainGen.Generation.FromText
import DomainGen.Generation.Generator
import DomainGen.Generation.Result
import DomainGen.Generation.Walk
import DomainGen.Json.Reader
import DomainGen.Json.Writer
import DomainGen.Loading.Address
import DomainGen.Loading.Source
import DomainGen.Logging
import DomainGen.Main
import DomainGen.Model.Basic
import DomainGen.Model.Context
import DomainGen.Model.Reading
import DomainGen.Naming
import DomainGen.Number.Binary64
import DomainGen.Number.Reading
import DomainGen.Number.Shortest
import DomainGen.Path
import DomainGen.Pipeline
import DomainGen.Proofs.Except
import DomainGen.Proofs.FileTree.Writing
import DomainGen.Proofs.Generation.Collision
import DomainGen.Proofs.Generation.Completeness
import DomainGen.Proofs.Generation.Decoration
import DomainGen.Proofs.Generation.Interruption
import DomainGen.Proofs.Generation.Overwriting
import DomainGen.Proofs.Generation.Plan
import DomainGen.Proofs.Generation.Simulation
import DomainGen.Proofs.Generation.Steps
import DomainGen.Proofs.Model.Fresh
import DomainGen.Proofs.Path.Normal
import DomainGen.Proofs.Path.Spelling
import DomainGen.Proofs.Pipeline.Atomicity
import DomainGen.Proofs.Pipeline.Host
import DomainGen.Proofs.Registry.Grouping
import DomainGen.Proofs.Sink.Acceptance
import DomainGen.Proofs.Sink.Directory
import DomainGen.Registry
import DomainGen.Sink.Basic
import DomainGen.Sink.Network
import DomainGen.Template.Builtin
import DomainGen.Template.Engine
import DomainGen.Template.Folding
import DomainGen.Template.Member
import DomainGen.Template.Operators
import DomainGen.Template.Preparation
import DomainGen.Template.Reading
import DomainGen.Template.Rendering
import DomainGen.Template.Syntax
import DomainGen.Template.Token
import DomainGen.Template.Value
import DomainGen.Text.Blank
import DomainGen.Text.Case
import DomainGen.Text.Case.Table
import DomainGen.Text.Cells
import DomainGen.Text.Cells.Table
import DomainGen.Text.CharacterName
import DomainGen.Text.Charmap
import DomainGen.Text.Charmap.Table
import DomainGen.Text.Digit
import DomainGen.Text.DoubleByte
import DomainGen.Text.DoubleByte.Basic
import DomainGen.Text.DoubleByte.Big
import DomainGen.Text.DoubleByte.Chinese
import DomainGen.Text.DoubleByte.Japanese
import DomainGen.Text.DoubleByte.Korean
import DomainGen.Text.Encoding
import DomainGen.Text.Escape
import DomainGen.Text.Identifier
import DomainGen.Text.Lines
import DomainGen.Text.Markup
import DomainGen.Text.Printable
import DomainGen.Text.Progression
import DomainGen.Text.Quoted
import DomainGen.Text.Utf7
import DomainGen.Yaml.Cursor
import DomainGen.Yaml.Node
import DomainGen.Yaml.Scalar
import DomainGen.Yaml.Tag
import DomainGen.Yaml.Token
import DomainGen.Yaml.Token.Lexer
import DomainGen.Yaml.Token.Scalar
import DomainGen.Yaml.Value
import DomainGen.Proofs.Generation.Agreement
import DomainGen.Proofs.Path.Descent
import DomainGen.Proofs.FileTree.Confinement
import DomainGen.Proofs.Naming.FileName
import DomainGen.Proofs.Generation.Confinement
import DomainGen.Proofs.Generation.ClassNames
import DomainGen.Proofs.Data.Overriding
import DomainGen.Proofs.Generation.Calls
import DomainGen.Proofs.Model.Summary
import DomainGen.Proofs.Generation.Contexts
import DomainGen.Proofs.Generation.Indexes
import DomainGen.Proofs.Generation.Specifiers
import DomainGen.Proofs.Template.Evaluation
import DomainGen.Proofs.Template.BuiltinText
import DomainGen.Proofs.Path.Cutting
import DomainGen.Proofs.Generation.KindPaths
import DomainGen.Proofs.Generation.Imports
import DomainGen.Proofs.Generation.Renaming
import DomainGen.Proofs.Template.Cache
import DomainGen.Proofs.Pipeline.Agreement
import DomainGen.Proofs.Pipeline.Isolation
import DomainGen.Proofs.Config.Warnings
import DomainGen.Proofs.Config.Resolution
import DomainGen.Proofs.Generation.Warned
import DomainGen.Proofs.Naming.Avoidance
import DomainGen.Proofs.Generation.IndexCollision
import DomainGen.Proofs.Generation.Unwarned
import DomainGen.Proofs.Pipeline.FromText
import DomainGen.Proofs.Config.Precedence
import DomainGen.Proofs.Config.Reloading
import DomainGen.Proofs.Config.SavedFile
import DomainGen.Proofs.Generation.Answers
import DomainGen.Proofs.Generation.BuiltinSets
import DomainGen.Proofs.Template.Replacement
import DomainGen.Proofs.Model.Grammar
import DomainGen.Proofs.Pipeline.Startup
import DomainGen.Proofs.Command.DryRun
import DomainGen.Proofs.Command.ExitCode
import DomainGen.Proofs.Sink.Buffering
import DomainGen.Proofs.Model.Mirror
import DomainGen.Proofs.Registry.Touring
import DomainGen.Proofs.Text.Case
import DomainGen.Proofs.Naming.Ending
import DomainGen.Proofs.Naming.Splitting
import DomainGen.Proofs.Naming.Prefixing
import DomainGen.Proofs.Generation.Prefixing
import DomainGen.Proofs.Path.Ways
import DomainGen.Proofs.Generation.Results
import DomainGen.Proofs.Data.Texts
import DomainGen.Proofs.Config.FileEntries
import DomainGen.Proofs.Config.Faults
import DomainGen.Proofs.Config.Outcome
import DomainGen.Proofs.Template.Unmarked
import DomainGen.Proofs.Template.Indifference
import DomainGen.Proofs.Template.Escaping
import DomainGen.Proofs.Template.Unnamed
import DomainGen.Proofs.Text.Pieces
import DomainGen.Proofs.Number.Digits
import DomainGen.Proofs.FileTree.Length
import DomainGen.Proofs.Pipeline.Readiness
import DomainGen.Proofs.Loading.Sources
import DomainGen.Proofs.Command.Expansion
import DomainGen.Proofs.Command.Turns
import DomainGen.Proofs.Yaml.Tokens
import DomainGen.Proofs.Yaml.Composition
import DomainGen.Proofs.Yaml.Integers
import DomainGen.Proofs.Yaml.Scalars
import DomainGen.Proofs.Yaml.Defects
import DomainGen.Proofs.Loading.Texts
import DomainGen.Proofs.Command.Extension
import DomainGen.Proofs.Pipeline.OnDisk
