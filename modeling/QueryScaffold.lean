import QueryScaffold.Class.Basic
import QueryScaffold.Class.Creation
import QueryScaffold.Class.Declaration
import QueryScaffold.Class.Exception
import QueryScaffold.Class.Making
import QueryScaffold.Class.Member
import QueryScaffold.Class.Standard
import QueryScaffold.CommandLine.Arguments
import QueryScaffold.CommandLine.Program
import QueryScaffold.Container.Declaration
import QueryScaffold.Container.Loaded
import QueryScaffold.Container.Module
import QueryScaffold.Container.Notation
import QueryScaffold.Container.Preloaded
import QueryScaffold.Container.Reading
import QueryScaffold.Container.Sample
import QueryScaffold.Container.Scope
import QueryScaffold.Container.Statement
import QueryScaffold.Container.Workspace
import QueryScaffold.Evaluation.Annotation
import QueryScaffold.Evaluation.Arithmetic
import QueryScaffold.Evaluation.Assignment
import QueryScaffold.Evaluation.Binding
import QueryScaffold.Evaluation.Bracket
import QueryScaffold.Evaluation.Builtin
import QueryScaffold.Evaluation.Comprehension
import QueryScaffold.Evaluation.Construction
import QueryScaffold.Evaluation.Conversion
import QueryScaffold.Evaluation.Creation
import QueryScaffold.Evaluation.Environment
import QueryScaffold.Evaluation.Evaluator
import QueryScaffold.Evaluation.Fault
import QueryScaffold.Evaluation.Formatting
import QueryScaffold.Evaluation.Interpreter
import QueryScaffold.Evaluation.Making
import QueryScaffold.Evaluation.Method.Argument
import QueryScaffold.Evaluation.Method.Call
import QueryScaffold.Evaluation.Method.Collection
import QueryScaffold.Evaluation.Method.Number
import QueryScaffold.Evaluation.Method.Text
import QueryScaffold.Evaluation.Operation
import QueryScaffold.Evaluation.Part
import QueryScaffold.Expression.Basic
import QueryScaffold.Expression.Constant
import QueryScaffold.Expression.Numeral
import QueryScaffold.Expression.Quotation
import QueryScaffold.Expression.Reader
import QueryScaffold.Expression.Rule
import QueryScaffold.Expression.Template
import QueryScaffold.Expression.Token
import QueryScaffold.Expression.Writing
import QueryScaffold.Files.Output
import QueryScaffold.Files.Path
import QueryScaffold.Files.Tree
import QueryScaffold.Json.Display
import QueryScaffold.Json.Equality
import QueryScaffold.Json.Reader
import QueryScaffold.Json.Value
import QueryScaffold.Json.Writer
import QueryScaffold.Main
import QueryScaffold.Name.Convention
import QueryScaffold.Name.Identifier
import QueryScaffold.Name.TypeName
import QueryScaffold.Number.Arithmetic
import QueryScaffold.Number.Binary64
import QueryScaffold.Number.Decimal
import QueryScaffold.Number.Literal
import QueryScaffold.Number.Power
import QueryScaffold.Number.Shortest
import QueryScaffold.Proofs.Container.Loads
import QueryScaffold.Proofs.Name.Brackets
import QueryScaffold.Proofs.Name.Identifier
import QueryScaffold.Proofs.Name.TypeArguments
import QueryScaffold.Proofs.Name.TypeLayout
import QueryScaffold.Proofs.Name.TypeName
import QueryScaffold.Proofs.Run.Acceptance
import QueryScaffold.Proofs.Run.GeneratedMethods
import QueryScaffold.Proofs.Schema.Matching
import QueryScaffold.Proofs.Schema.Pruning
import QueryScaffold.Proofs.Schema.Partition
import QueryScaffold.Proofs.Schema.Insertion
import QueryScaffold.Proofs.Schema.Description
import QueryScaffold.Proofs.Schema.Distinct
import QueryScaffold.Proofs.Container.Reading
import QueryScaffold.Proofs.Container.Annotations
import QueryScaffold.Proofs.Run.Registry
import QueryScaffold.Proofs.Source.Blocks
import QueryScaffold.Proofs.Run.Blocks
import QueryScaffold.Proofs.Run.MethodNames
import QueryScaffold.Proofs.Run.Description
import QueryScaffold.Proofs.Run.Matching
import QueryScaffold.Proofs.Run.Disclosure
import QueryScaffold.Proofs.Settings.Validation
import QueryScaffold.Proofs.Settings.Fields
import QueryScaffold.Proofs.Settings.Offenders
import QueryScaffold.Proofs.Settings.Reading
import QueryScaffold.Proofs.Settings.Spelling
import QueryScaffold.Proofs.Settings.Writing
import QueryScaffold.Proofs.Source.Faithful
import QueryScaffold.Proofs.Source.Imports
import QueryScaffold.Proofs.Source.Lines
import QueryScaffold.Proofs.Source.MethodHead
import QueryScaffold.Proofs.Source.Reading
import QueryScaffold.Proofs.Source.Validity
import QueryScaffold.Proofs.Text.Splitting
import QueryScaffold.Proofs.Text.Trimming
import QueryScaffold.Report.Failure
import QueryScaffold.Report.Notice
import QueryScaffold.Run.Generation
import QueryScaffold.Run.Inputs
import QueryScaffold.Run.Session
import QueryScaffold.Run.World
import QueryScaffold.Schema.Basic
import QueryScaffold.Schema.Description
import QueryScaffold.Schema.Fault
import QueryScaffold.Schema.Matching
import QueryScaffold.Settings.Basic
import QueryScaffold.Settings.Validation
import QueryScaffold.Source.Assembly
import QueryScaffold.Source.Basic
import QueryScaffold.Source.Imports
import QueryScaffold.Source.Rendering
import QueryScaffold.Source.Validity
import QueryScaffold.Text.Basic
import QueryScaffold.Text.Blank
import QueryScaffold.Text.Casing
import QueryScaffold.Text.CharacterName
import QueryScaffold.Text.CodeTable
import QueryScaffold.Text.Composition
import QueryScaffold.Text.Decomposition
import QueryScaffold.Text.Digit
import QueryScaffold.Text.Layout
import QueryScaffold.Text.Lowercase
import QueryScaffold.Text.NameCharacter
import QueryScaffold.Text.Newline
import QueryScaffold.Text.Printable
import QueryScaffold.Text.Quoted
import QueryScaffold.Text.Search
import QueryScaffold.Text.Utf8
import QueryScaffold.Value.Basic
import QueryScaffold.Value.ClassRef
import QueryScaffold.Value.Display
import QueryScaffold.Value.Equality
import QueryScaffold.Proofs.Run.Scopes
import QueryScaffold.Proofs.Container.Isolation
import QueryScaffold.Proofs.Run.Isolation
import QueryScaffold.Proofs.Run.Generation
import QueryScaffold.Proofs.Run.Import
import QueryScaffold.Proofs.Container.Lifetime
import QueryScaffold.Proofs.Run.Lifetime
import QueryScaffold.Proofs.Run.Relabelling
import QueryScaffold.Proofs.Source.Nesting
import QueryScaffold.Proofs.Source.Characters
import QueryScaffold.Proofs.Text.Encoding
import QueryScaffold.Proofs.Files.LastWrite
import QueryScaffold.Proofs.Files.Output
import QueryScaffold.Proofs.Run.GeneratedText
import QueryScaffold.Proofs.Run.DeclaredNames
import QueryScaffold.Proofs.Run.Output
import QueryScaffold.Proofs.Files.Path
import QueryScaffold.Proofs.CommandLine.Program
import QueryScaffold.Proofs.Text.Utf8
import QueryScaffold.Proofs.Text.Newline
import QueryScaffold.Proofs.Json.Scalars
import QueryScaffold.Proofs.Json.Layout
import QueryScaffold.Proofs.Json.RoundTrip
import QueryScaffold.Proofs.Json.Faults
import QueryScaffold.Proofs.Run.Inputs
import QueryScaffold.Proofs.Settings.Overriding
import QueryScaffold.Proofs.Run.Overriding
