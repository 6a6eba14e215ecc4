import DocApi.Annotation.Basic
import DocApi.Annotation.Error
import DocApi.Annotation.Lexer
import DocApi.Annotation.Line
import DocApi.Annotation.Token
import DocApi.Command.Arguments
import DocApi.Command.Run
import DocApi.Decimal.Binary64
import DocApi.Decimal.Notation
import DocApi.Decimal.Shortest
import DocApi.Document.Basic
import DocApi.Document.Json
import DocApi.Document.Method
import DocApi.Document.Text
import DocApi.Error
import DocApi.Json.Printer
import DocApi.Json.Reader
import DocApi.Json.Record
import DocApi.Json.Value
import DocApi.Keyed
import DocApi.Main
import DocApi.Project.Generate
import DocApi.Project.Path
import DocApi.Project.Scan
import DocApi.Project.Tree
import DocApi.Proofs.Annotation.GlobalLines
import DocApi.Proofs.Annotation.Joining
import DocApi.Proofs.Annotation.LocalLines
import DocApi.Proofs.Annotation.Outcomes
import DocApi.Proofs.Annotation.Pieces
import DocApi.Proofs.Annotation.Roles
import DocApi.Proofs.Annotation.Spelling
import DocApi.Proofs.Annotation.Tokens
import DocApi.Proofs.Annotation.TypeMarkers
import DocApi.Proofs.Annotation.TypeWords
import DocApi.Proofs.Annotation.Verbs
import DocApi.Proofs.Annotation.Words
import DocApi.Proofs.Document.RoundTrip
import DocApi.Proofs.Edits
import DocApi.Proofs.Json.Record
import DocApi.Proofs.Keyed
import DocApi.Proofs.Project.Padding
import DocApi.Proofs.Project.Reordering
import DocApi.Proofs.Project.Scan
import DocApi.Proofs.Schema.RoundTrip
import DocApi.Proofs.Schema.SchemaWords
import DocApi.Proofs.Schema.Types
import DocApi.Proofs.Schema.WellFormed
import DocApi.Proofs.Schema.Wrappers
import DocApi.Proofs.Source.CommaLists
import DocApi.Proofs.Source.DocText
import DocApi.Proofs.Source.Lexing
import DocApi.Proofs.Source.Names
import DocApi.Proofs.Source.Naming
import DocApi.Proofs.Source.Nesting
import DocApi.Proofs.Source.PathGrammar
import DocApi.Proofs.Source.Rules
import DocApi.Proofs.Source.Running
import DocApi.Proofs.Source.Serialization
import DocApi.Proofs.Source.TypeGrammar
import DocApi.Proofs.Source.TypeSyntax
import DocApi.Proofs.Source.TypeText
import DocApi.Proofs.Source.TypeTrees
import DocApi.Proofs.Spec.CommentForms
import DocApi.Proofs.Spec.Components
import DocApi.Proofs.Spec.Drafts
import DocApi.Proofs.Spec.EmptyLines
import DocApi.Proofs.Spec.FieldTypes
import DocApi.Proofs.Spec.ModelExamples
import DocApi.Proofs.Spec.ModelNames
import DocApi.Proofs.Spec.ModelProperties
import DocApi.Proofs.Spec.Operations
import DocApi.Proofs.Spec.Order
import DocApi.Proofs.Spec.Paths
import DocApi.Proofs.Spec.Phases
import DocApi.Proofs.Spec.Prose
import DocApi.Proofs.Spec.References
import DocApi.Proofs.Spec.Rewalk
import DocApi.Proofs.Spec.Routines
import DocApi.Proofs.Spec.SchemaNodes
import DocApi.Proofs.Spec.SecuritySchemes
import DocApi.Proofs.Text
import DocApi.Schema.Basic
import DocApi.Schema.Json
import DocApi.Schema.Resolve
import DocApi.Source.Declarations
import DocApi.Source.DocText
import DocApi.Source.Grammar.Attribute
import DocApi.Source.Grammar.Basic
import DocApi.Source.Grammar.Expression
import DocApi.Source.Grammar.Item
import DocApi.Source.Grammar.Path
import DocApi.Source.Grammar.Pattern
import DocApi.Source.Grammar.Record
import DocApi.Source.Grammar.Statement
import DocApi.Source.Grammar.Type
import DocApi.Source.Item
import DocApi.Source.Lexer
import DocApi.Source.Literal
import DocApi.Source.Naming
import DocApi.Source.Parser
import DocApi.Source.Rule
import DocApi.Source.Serialization
import DocApi.Source.Tree
import DocApi.Spec.Basic
import DocApi.Spec.Build
import DocApi.Spec.Model
import DocApi.Spec.Security
import DocApi.Spec.Walk
import DocApi.Text.Blank
import DocApi.Text.CaseTable
import DocApi.Text.Casing
import DocApi.Text.Letter
import DocApi.Text.LetterTable
import DocApi.Text.Lines
import DocApi.Text.Split
import DocApi.Text.Table
import DocApi.TypeExpr
import DocApi.Yaml.Plain
import DocApi.Yaml.Printer
import DocApi.Yaml.Scalar
