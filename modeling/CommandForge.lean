import CommandForge.Command.Definition
import CommandForge.Command.EmitError
import CommandForge.Command.FieldType
import CommandForge.Command.Model
import CommandForge.CommandLine.Invocation
import CommandForge.CommandLine.Options
import CommandForge.CommandLine.Program
import CommandForge.Config
import CommandForge.Config.Read
import CommandForge.Declaration.AttributePath
import CommandForge.Declaration.Basic
import CommandForge.Declaration.Grammar
import CommandForge.Declaration.Grammar.Attribute
import CommandForge.Declaration.Grammar.Bound
import CommandForge.Declaration.Grammar.Function
import CommandForge.Declaration.Grammar.Item
import CommandForge.Declaration.Grammar.Member
import CommandForge.Declaration.Grammar.Operand
import CommandForge.Declaration.Grammar.Operator
import CommandForge.Declaration.Grammar.Path
import CommandForge.Declaration.Grammar.Pattern
import CommandForge.Declaration.Grammar.Reading
import CommandForge.Declaration.Grammar.Rules
import CommandForge.Declaration.Grammar.Statement
import CommandForge.Declaration.Grammar.Type
import CommandForge.Declaration.Implement
import CommandForge.Declaration.Literal
import CommandForge.Declaration.Reader
import CommandForge.Declaration.Settings
import CommandForge.Declaration.Token
import CommandForge.Files.OsError
import CommandForge.Files.Path
import CommandForge.Files.Tree
import CommandForge.Fixture
import CommandForge.Generation.Collision
import CommandForge.Generation.Generator
import CommandForge.Generation.Report
import CommandForge.Identifier.Basic
import CommandForge.Identifier.Words
import CommandForge.Json.Basic
import CommandForge.Json.Literal
import CommandForge.Json.Printer
import CommandForge.Json.Reader
import CommandForge.Main
import CommandForge.Number.Binary64
import CommandForge.Number.Decimal
import CommandForge.Patch.Edit
import CommandForge.Patch.Hunk
import CommandForge.Patch.Search
import CommandForge.Patch.Tidy
import CommandForge.Schema.Load
import CommandForge.Schema.Parse
import CommandForge.Session
import CommandForge.Target.Basic
import CommandForge.Target.CSharp
import CommandForge.Target.Cpp
import CommandForge.Target.Java
import CommandForge.Target.JavaScript
import CommandForge.Target.Python
import CommandForge.Target.Rust
import CommandForge.Target.Support.CSharp
import CommandForge.Target.Support.Cpp
import CommandForge.Target.Support.Java
import CommandForge.Target.Support.JavaScript
import CommandForge.Target.Support.Python
import CommandForge.Text.Blank
import CommandForge.Text.Canonical
import CommandForge.Text.Casing
import CommandForge.Text.Lines
import CommandForge.Text.Quoted
import CommandForge.Text.Replace
import CommandForge.Text.Table.Casing
import CommandForge.Text.Table.Identifier
import CommandForge.Text.Table.Visible
import CommandForge.Toml.Basic
import CommandForge.Toml.Document
import CommandForge.Toml.Reader
import CommandForge.Toml.Scalar
import CommandForge.Toml.Text
import CommandForge.Wire.Codec
import CommandForge.Wire.Fault
import CommandForge.Wire.Record
import CommandForge.Proofs.Lists
import CommandForge.Proofs.Command.Resolved
import CommandForge.Proofs.Json.Leaf
import CommandForge.Proofs.Json.Members
import CommandForge.Proofs.Json.FlatObject
import CommandForge.Proofs.Wire.Record
import CommandForge.Proofs.Generation.Pairs
import CommandForge.Proofs.Wire.RoundTrip
import CommandForge.Proofs.Generation.Overwrite
import CommandForge.Proofs.Target.Accepted
import CommandForge.Proofs.Target.DocLines
import CommandForge.Proofs.Target.JavaScript
import CommandForge.Proofs.Target.Rust
import CommandForge.Proofs.Target.CSharp
import CommandForge.Proofs.Target.Java
import CommandForge.Proofs.Target.Cpp
import CommandForge.Proofs.Target.EmitInjective
import CommandForge.Proofs.Generation.Rejection
import CommandForge.Proofs.Wire.Selection
import CommandForge.Proofs.Target.LineComments
import CommandForge.Proofs.Target.BlockComments
import CommandForge.Proofs.Files.Path
import CommandForge.Proofs.Files.Tree
import CommandForge.Proofs.Generation.Builtin
import CommandForge.Proofs.Generation.Independence
import CommandForge.Proofs.Json.Written
import CommandForge.Proofs.Schema.Loaded
import CommandForge.Proofs.Session.Generate
import CommandForge.Proofs.Schema.Format
import CommandForge.Proofs.Generation.Classification
import CommandForge.Proofs.Files.Made
import CommandForge.Proofs.Schema.Unchanged
import CommandForge.Proofs.Session.Verify
import CommandForge.Proofs.Text.Lowercase
import CommandForge.Proofs.Declaration.Keys
import CommandForge.Proofs.Identifier.Boundaries
import CommandForge.Proofs.Identifier.Joined
import CommandForge.Proofs.Target.Declarations
import CommandForge.Proofs.Target.Members
import CommandForge.Proofs.Target.MemberNames
import CommandForge.Proofs.Target.ClassScope
import CommandForge.Proofs.Target.TypeNames
import CommandForge.Proofs.Text.Trimmed
import CommandForge.Proofs.Command.OptionalText
import CommandForge.Proofs.Command.TypeSpelling
import CommandForge.Proofs.Target.Docstring
import CommandForge.Proofs.Patch.Script
import CommandForge.Proofs.Patch.Tidied
import CommandForge.Proofs.Patch.Blocks
import CommandForge.Proofs.Patch.Shown
import CommandForge.Proofs.Patch.Applied
import CommandForge.Proofs.Patch.Mismatch
import CommandForge.Proofs.Identifier.Valid
import CommandForge.Proofs.Command.Resolution
import CommandForge.Proofs.Text.Canonical
import CommandForge.Proofs.Identifier.RoundTrip
import CommandForge.Proofs.Files.Relisted
import CommandForge.Proofs.Schema.Directory
import CommandForge.Proofs.Command.Slices
import CommandForge.Proofs.Wire.FailureKinds
