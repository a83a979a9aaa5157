import KotlinMeta.Text.Ranges
import KotlinMeta.Text.Letter
import KotlinMeta.Text.Numeral
import KotlinMeta.Text.Uppercase
import KotlinMeta.Text.Visible
import KotlinMeta.Text.Blank
import KotlinMeta.Text.Segments
import KotlinMeta.Text.Quoted
import KotlinMeta.Json.Text
import KotlinMeta.Json.Printer
import KotlinMeta.Json.Reader
import KotlinMeta.Modifier
import KotlinMeta.ClassName
import KotlinMeta.Node.Reader
import KotlinMeta.Node.Writer
import KotlinMeta.Header.Json
import KotlinMeta.TypeExpr.Notation
import KotlinMeta.TypeExpr.Writer
import KotlinMeta.Decl.Writer
import KotlinMeta.Decoding.TypeReference
import KotlinMeta.Decoding.Element
import KotlinMeta.CopyBuilder.Basic
import KotlinMeta.Source.Notation
import KotlinMeta.Source.Writer
import KotlinMeta.Run.Path
import KotlinMeta.Run.Sink
import KotlinMeta.Settings.Text
import KotlinMeta.Settings.Options
import KotlinMeta.LogFormat
import KotlinMeta.Proofs.Sequence
import KotlinMeta.Proofs.Entries
import KotlinMeta.Proofs.Json.Record
import KotlinMeta.Proofs.Flags.Bits
import KotlinMeta.Proofs.Text.Segments
import KotlinMeta.Proofs.Text.Words
import KotlinMeta.Proofs.ClassName.Spelling
import KotlinMeta.Proofs.ClassName.Guess
import KotlinMeta.Proofs.ClassName.Functions
import KotlinMeta.Proofs.Identifier
import KotlinMeta.Proofs.NameTable.Fresh
import KotlinMeta.Proofs.NameTable.Least
import KotlinMeta.Proofs.NameTable.Requests
import KotlinMeta.Proofs.TypeExpr.Variables
import KotlinMeta.Proofs.TypeExpr.Outline
import KotlinMeta.Proofs.TypeExpr.MapVariables
import KotlinMeta.Proofs.TypeExpr.Relabel
import KotlinMeta.Proofs.TypeExpr.WellFormed
import KotlinMeta.Proofs.TypeExpr.Parts
import KotlinMeta.Proofs.TypeNode.Form
import KotlinMeta.Proofs.TypeNode.Live
import KotlinMeta.Proofs.TypeNode.Json
import KotlinMeta.Proofs.Node.RoundTrip
import KotlinMeta.Proofs.TypeNode.Encoding
import KotlinMeta.Proofs.TypeNode.References
import KotlinMeta.Proofs.TypeNode.Slots
import KotlinMeta.Proofs.TypeNode.Grammar
import KotlinMeta.Proofs.TypeNode.FunctionTypes
import KotlinMeta.Proofs.TypeNode.FunctionNames
import KotlinMeta.Proofs.TypeNode.Renumber
import KotlinMeta.Proofs.Scope.Lookup
import KotlinMeta.Proofs.Scope.Steps
import KotlinMeta.Proofs.Decoding.Parts
import KotlinMeta.Proofs.Decoding.Scoping
import KotlinMeta.Proofs.Decoding.Checks
import KotlinMeta.Proofs.Decoding.Failures
import KotlinMeta.Proofs.Decoding.Places
import KotlinMeta.Proofs.Decoding.Bounds
import KotlinMeta.Proofs.Decoding.Renumber
import KotlinMeta.Proofs.Decoding.Members
import KotlinMeta.Proofs.Decoding.WellFormed
import KotlinMeta.Proofs.Run.Process
import KotlinMeta.Proofs.Run.Files
import KotlinMeta.Proofs.Run.Paths
import KotlinMeta.Proofs.Source.Evaluation
import KotlinMeta.Proofs.Source.Types
import KotlinMeta.Proofs.CopyBuilder.Backing
import KotlinMeta.Proofs.CopyBuilder.Names
import KotlinMeta.Proofs.CopyBuilder.Preconditions
import KotlinMeta.Proofs.CopyBuilder.RecordUpdate
import KotlinMeta.Proofs.CopyBuilder.TypeVariables
import KotlinMeta.Proofs.CopyBuilder.Rebinding
import KotlinMeta.Proofs.CopyBuilder.Members
import KotlinMeta.Proofs.CopyBuilder.Copies
import KotlinMeta.Proofs.Json.Text
import KotlinMeta.Proofs.Settings.Options
import KotlinMeta.Proofs.Settings.FrontEnds
import KotlinMeta.Proofs.Json.Same
import KotlinMeta.Proofs.TypeExpr.Json
import KotlinMeta.Proofs.Decl.Json
import KotlinMeta.Proofs.Source.Json
import KotlinMeta.Proofs.TypeExpr.Reader
import KotlinMeta.Proofs.TypeExpr.Reading
