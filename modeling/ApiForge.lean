import ApiForge.Client.ErrorUnit
import ApiForge.Client.Generation
import ApiForge.Client.Method
import ApiForge.Client.MethodCode
import ApiForge.Client.Payload
import ApiForge.Client.Scaffold
import ApiForge.Client.Statement
import ApiForge.Client.UrlTemplate
import ApiForge.Code.Grammar
import ApiForge.Code.Token
import ApiForge.Config
import ApiForge.Decimal.Double
import ApiForge.Decimal.Notation
import ApiForge.Decimal.Shortest
import ApiForge.Document.Basic
import ApiForge.Document.Parsing
import ApiForge.Document.Reading
import ApiForge.Draft.Basic
import ApiForge.Draft.Record
import ApiForge.Emit.Codec
import ApiForge.Emit.Comment
import ApiForge.Emit.Enumeration
import ApiForge.Emit.Index
import ApiForge.Emit.Line
import ApiForge.Emit.Marker
import ApiForge.Emit.Record
import ApiForge.Emit.Unit
import ApiForge.Entries
import ApiForge.Generation
import ApiForge.Json.Number
import ApiForge.Json.Printer
import ApiForge.Json.Reader
import ApiForge.Json.Value
import ApiForge.Main
import ApiForge.Model.Cycle
import ApiForge.Model.Finding
import ApiForge.Model.Finish
import ApiForge.Model.Primitive
import ApiForge.Model.ReferenceGraph
import ApiForge.Model.Registry
import ApiForge.Model.Resolution
import ApiForge.Model.Run
import ApiForge.Model.Settling
import ApiForge.Model.Type
import ApiForge.Name.ClassNames
import ApiForge.Name.FileStem
import ApiForge.Name.Fresh
import ApiForge.Name.Identifier
import ApiForge.Name.Key
import ApiForge.Output.Command
import ApiForge.Output.FileTree
import ApiForge.Output.Layout
import ApiForge.Problem
import ApiForge.Proofs.Alignment
import ApiForge.Proofs.Arguments
import ApiForge.Proofs.BareNames
import ApiForge.Proofs.BodyNames
import ApiForge.Proofs.Boxing
import ApiForge.Proofs.Capital
import ApiForge.Proofs.ClassName
import ApiForge.Proofs.ClientAccount
import ApiForge.Proofs.CodeBits
import ApiForge.Proofs.CodeReading
import ApiForge.Proofs.CodecTemplate
import ApiForge.Proofs.CommentLines
import ApiForge.Proofs.Dangling
import ApiForge.Proofs.Decoding
import ApiForge.Proofs.DecodingLists
import ApiForge.Proofs.DecodingRule
import ApiForge.Proofs.DocumentOrder
import ApiForge.Proofs.DoubleText
import ApiForge.Proofs.Entries
import ApiForge.Proofs.EnumUnit
import ApiForge.Proofs.EnumValues
import ApiForge.Proofs.Failure
import ApiForge.Proofs.FieldNames
import ApiForge.Proofs.FileStem
import ApiForge.Proofs.FileTree
import ApiForge.Proofs.Filling
import ApiForge.Proofs.FinishOrder
import ApiForge.Proofs.FirstMade
import ApiForge.Proofs.FirstWriter
import ApiForge.Proofs.FreshName
import ApiForge.Proofs.GivenOut
import ApiForge.Proofs.GraphSearch
import ApiForge.Proofs.History
import ApiForge.Proofs.Identifier
import ApiForge.Proofs.InlineSchema
import ApiForge.Proofs.JsonReading
import ApiForge.Proofs.JsonText
import ApiForge.Proofs.KeyOrder
import ApiForge.Proofs.Layout
import ApiForge.Proofs.LeafWork
import ApiForge.Proofs.LetterKind
import ApiForge.Proofs.LiteralReading
import ApiForge.Proofs.Made
import ApiForge.Proofs.ModuleNames
import ApiForge.Proofs.NameOrder
import ApiForge.Proofs.NameOrigin
import ApiForge.Proofs.NullSpelling
import ApiForge.Proofs.Occurrences
import ApiForge.Proofs.OwnerName
import ApiForge.Proofs.Parameters
import ApiForge.Proofs.ParsedValue
import ApiForge.Proofs.Pieces
import ApiForge.Proofs.Pipeline
import ApiForge.Proofs.Planning
import ApiForge.Proofs.Potential
import ApiForge.Proofs.PrintedValue
import ApiForge.Proofs.Reachability
import ApiForge.Proofs.ReadTables
import ApiForge.Proofs.References
import ApiForge.Proofs.RenameLiterals
import ApiForge.Proofs.RenewedUnits
import ApiForge.Proofs.RepeatedKeys
import ApiForge.Proofs.Resolution
import ApiForge.Proofs.Rounding
import ApiForge.Proofs.Scopes
import ApiForge.Proofs.Segment
import ApiForge.Proofs.ShortestDecimal
import ApiForge.Proofs.Signature
import ApiForge.Proofs.SkippedOperation
import ApiForge.Proofs.SnakeIdent
import ApiForge.Proofs.Steady
import ApiForge.Proofs.TakenNames
import ApiForge.Proofs.Tasks
import ApiForge.Proofs.TypeIdentity
import ApiForge.Proofs.Units
import ApiForge.Proofs.UrlTemplate
import ApiForge.Proofs.VariantIdent
import ApiForge.Proofs.VariantsTable
import ApiForge.Proofs.VerbName
import ApiForge.Proofs.VerifiedUnits
import ApiForge.Proofs.Writing
import ApiForge.Schema.Basic
import ApiForge.Schema.Raw
import ApiForge.Schema.Reading
import ApiForge.Text.Alphanumeric
import ApiForge.Text.Blank
import ApiForge.Text.CodeRun
import ApiForge.Text.Digit
import ApiForge.Text.IdentifierChar
import ApiForge.Text.LetterCase
import ApiForge.Text.Literal
import ApiForge.Text.Segment
import ApiForge.Text.Unprintable
import ApiForge.Text.Words
import ApiForge.Union.Decoding
import ApiForge.Union.Derivation
import ApiForge.Union.Plan
import ApiForge.Yaml.Block
import ApiForge.Yaml.Cursor
import ApiForge.Yaml.Folding
import ApiForge.Yaml.Plain
import ApiForge.Yaml.Property
import ApiForge.Yaml.Quoted
import ApiForge.Yaml.Scanner
import ApiForge.Yaml.Token
import ApiForge.Yaml.Tree
import ApiForge.Yaml.Word
