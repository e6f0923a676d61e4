import ApiStubs.Character.Alphanumeric
import ApiStubs.Character.Case
import ApiStubs.Character.CaseTable
import ApiStubs.Character.Class
import ApiStubs.Character.Digit
import ApiStubs.Character.IdentifierContinue
import ApiStubs.Character.IdentifierStart
import ApiStubs.Character.Printable
import ApiStubs.Command
import ApiStubs.Descriptor
import ApiStubs.Desk
import ApiStubs.Document
import ApiStubs.Failure
import ApiStubs.FileTree
import ApiStubs.Generator
import ApiStubs.Issue
import ApiStubs.Json.Reader
import ApiStubs.Library.Files
import ApiStubs.Library.Generation
import ApiStubs.Library.Methods
import ApiStubs.Library.Models
import ApiStubs.Main
import ApiStubs.MethodName
import ApiStubs.Notice
import ApiStubs.Number.Calendar
import ApiStubs.Number.Double
import ApiStubs.Number.Numeral
import ApiStubs.Number.Shortest
import ApiStubs.Options
import ApiStubs.Options.Word
import ApiStubs.Proofs.Character.Case
import ApiStubs.Proofs.Character.Numbers
import ApiStubs.Proofs.Character.Ranges
import ApiStubs.Proofs.Command.FileEffects
import ApiStubs.Proofs.Command.Recalling
import ApiStubs.Proofs.Command.Reporting
import ApiStubs.Proofs.Command.Untouched
import ApiStubs.Proofs.Files.Saving
import ApiStubs.Proofs.Files.Tree
import ApiStubs.Proofs.Library.Accounting
import ApiStubs.Proofs.Library.AnyTypes
import ApiStubs.Proofs.Library.ArrayTypes
import ApiStubs.Proofs.Library.Attempts
import ApiStubs.Proofs.Library.Causes
import ApiStubs.Proofs.Library.ClassIdentifiers
import ApiStubs.Proofs.Library.ClassNames
import ApiStubs.Proofs.Library.Closure
import ApiStubs.Proofs.Library.CollidingVerbs
import ApiStubs.Proofs.Library.Collisions
import ApiStubs.Proofs.Library.Distinct
import ApiStubs.Proofs.Library.EmptiedModels
import ApiStubs.Proofs.Library.Fields
import ApiStubs.Proofs.Library.FileNames
import ApiStubs.Proofs.Library.FilePlaces
import ApiStubs.Proofs.Library.Isolation
import ApiStubs.Proofs.Library.Literals
import ApiStubs.Proofs.Library.ModuleNames
import ApiStubs.Proofs.Library.Package
import ApiStubs.Proofs.Library.PropertyNames
import ApiStubs.Proofs.Library.References
import ApiStubs.Proofs.Library.SchemaChanges
import ApiStubs.Proofs.Library.Selection
import ApiStubs.Proofs.Library.Signatures
import ApiStubs.Proofs.Library.TemplateNames
import ApiStubs.Proofs.Library.Warnings
import ApiStubs.Proofs.Naming.Identifier
import ApiStubs.Proofs.Naming.MethodName
import ApiStubs.Proofs.Naming.Runs
import ApiStubs.Proofs.Naming.Segments
import ApiStubs.Proofs.Naming.Usability
import ApiStubs.Proofs.Naming.Validity
import ApiStubs.Proofs.Naming.Words
import ApiStubs.Proofs.Package.FieldRows
import ApiStubs.Proofs.Package.Lines
import ApiStubs.Proofs.Package.Reading
import ApiStubs.Proofs.Package.Rows
import ApiStubs.Proofs.Package.WireNames
import ApiStubs.Proofs.Reference.Chain
import ApiStubs.Proofs.Reference.Denotation
import ApiStubs.Proofs.Reference.Inside
import ApiStubs.Proofs.Settings.Kept
import ApiStubs.Proofs.Settings.RoundTrip
import ApiStubs.Proofs.Settings.Saving
import ApiStubs.Proofs.Settings.Written
import ApiStubs.Proofs.Spec.Agreement
import ApiStubs.Proofs.Spec.Checking
import ApiStubs.Proofs.Spec.Components
import ApiStubs.Proofs.Spec.Descent
import ApiStubs.Proofs.Spec.Faults
import ApiStubs.Proofs.Spec.Looking
import ApiStubs.Proofs.Spec.Meeting
import ApiStubs.Proofs.Spec.Needs
import ApiStubs.Proofs.Spec.Parameters
import ApiStubs.Proofs.Spec.Routes
import ApiStubs.Proofs.Spec.Transparency
import ApiStubs.Proofs.Spec.Unfolding
import ApiStubs.Proofs.Spec.WellFormed
import ApiStubs.Proofs.Spec.WrittenPointers
import ApiStubs.Proofs.Text.Literal
import ApiStubs.Proofs.Text.LiteralValue
import ApiStubs.Proofs.Text.Order
import ApiStubs.Proofs.Text.Rows
import ApiStubs.Proofs.Toml.Bodies
import ApiStubs.Proofs.Toml.Escapes
import ApiStubs.Proofs.Toml.Joining
import ApiStubs.Proofs.Toml.Lines
import ApiStubs.Proofs.Toml.Misreads
import ApiStubs.Proofs.Toml.Numbers
import ApiStubs.Proofs.Toml.Pages
import ApiStubs.Proofs.Toml.Readings
import ApiStubs.Proofs.Toml.Rows
import ApiStubs.Proofs.Toml.Values
import ApiStubs.Proofs.Toml.Weights
import ApiStubs.Reference.Failure
import ApiStubs.Reference.Linked
import ApiStubs.Reference.Local
import ApiStubs.Reference.Pointer
import ApiStubs.Schema
import ApiStubs.Settings
import ApiStubs.Settings.File
import ApiStubs.Signature
import ApiStubs.Source
import ApiStubs.SourceFile
import ApiStubs.Spec
import ApiStubs.Spec.Document
import ApiStubs.Spec.Operation
import ApiStubs.Spec.Schema
import ApiStubs.Table
import ApiStubs.Target.CSharp
import ApiStubs.Target.Language
import ApiStubs.Target.Naming
import ApiStubs.Target.Outline
import ApiStubs.Target.Python
import ApiStubs.Target.Template
import ApiStubs.Text.Encoding
import ApiStubs.Text.Hex
import ApiStubs.Text.Lines
import ApiStubs.Text.Literal
import ApiStubs.Text.Order
import ApiStubs.Text.Percent
import ApiStubs.Text.Quoted
import ApiStubs.Text.Split
import ApiStubs.Text.Utf8
import ApiStubs.Toml.Layout
import ApiStubs.Toml.PlainValue
import ApiStubs.Toml.Reader
import ApiStubs.Toml.StringValue
import ApiStubs.Traced
import ApiStubs.Value
import ApiStubs.Value.Display
import ApiStubs.Yaml.Cursor
import ApiStubs.Yaml.Node
import ApiStubs.Yaml.Reader
import ApiStubs.Yaml.Resolution
import ApiStubs.Yaml.Scalar
import ApiStubs.Yaml.Token
