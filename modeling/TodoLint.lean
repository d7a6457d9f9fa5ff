import TodoLint.Check
import TodoLint.CommandLine
import TodoLint.CommandLine.Run
import TodoLint.Config
import TodoLint.Config.Discovery
import TodoLint.Config.Document
import TodoLint.Config.Literal
import TodoLint.Diagnostic
import TodoLint.Failure
import TodoLint.FileFault
import TodoLint.FileNode
import TodoLint.FileTree
import TodoLint.FileTree.Edit
import TodoLint.Finding
import TodoLint.Group
import TodoLint.Input
import TodoLint.Language
import TodoLint.Link
import TodoLint.Log
import TodoLint.Log.Directive
import TodoLint.Log.Filter
import TodoLint.Log.ValuePattern
import TodoLint.Log.ValuePattern.CharSet
import TodoLint.Log.ValuePattern.Escape
import TodoLint.Log.ValuePattern.Options
import TodoLint.Main
import TodoLint.Position
import TodoLint.Program
import TodoLint.Registry
import TodoLint.Report
import TodoLint.Report.Layout
import TodoLint.Report.Style
import TodoLint.Rule
import TodoLint.Rule.Builtin
import TodoLint.Session
import TodoLint.Shape
import TodoLint.TagMatch
import TodoLint.Text.Alphanumeric
import TodoLint.Text.Blank
import TodoLint.Text.Bytes
import TodoLint.Text.CodePoints
import TodoLint.Text.Digit
import TodoLint.Text.Folding
import TodoLint.Text.Json
import TodoLint.Text.LetterCase
import TodoLint.Text.Line
import TodoLint.Text.Numeral
import TodoLint.Text.Pattern
import TodoLint.Text.Quoted
import TodoLint.Text.Reading
import TodoLint.Text.Substring
import TodoLint.Token
import TodoLint.Token.Lexeme
import TodoLint.Token.Stream
import TodoLint.Vocabulary
import TodoLint.Proofs.Position
import TodoLint.Proofs.Token.Context
import TodoLint.Proofs.Token.CommentScan
import TodoLint.Proofs.Token.Tiling
import TodoLint.Proofs.Token.Lossless
import TodoLint.Proofs.Token.CommentOrder
import TodoLint.Proofs.FindingOrder
import TodoLint.Proofs.TagSearch
import TodoLint.Proofs.Vocabulary
import TodoLint.Proofs.TaggedFinding
import TodoLint.Proofs.Gist
import TodoLint.Proofs.CanonicalTag
import TodoLint.Proofs.Shape
import TodoLint.Proofs.Token.LineBoundary
import TodoLint.Proofs.Token.LineEnding
import TodoLint.Proofs.CommandLine.Arguments
import TodoLint.Proofs.CommandLine.Load
import TodoLint.Proofs.Ignore
import TodoLint.Proofs.FileTree.Contents
import TodoLint.Proofs.Visit
import TodoLint.Proofs.Contribution
import TodoLint.Proofs.ExitStatus
import TodoLint.Proofs.Group
import TodoLint.Proofs.Registration
import TodoLint.Proofs.TagPlace
import TodoLint.Proofs.Annotation
import TodoLint.Proofs.TagForms
import TodoLint.Proofs.TagLetters
import TodoLint.Proofs.Text.LetterCase
import TodoLint.Proofs.Link
import TodoLint.Proofs.Token.LineBreak
import TodoLint.Proofs.Token.LineJoin
import TodoLint.Proofs.CaseAdvice
import TodoLint.Proofs.ConfigFault
import TodoLint.Proofs.Text.Json
import TodoLint.Proofs.Text.JsonReader
import TodoLint.Proofs.ReportJson
import TodoLint.Proofs.FindingLine
import TodoLint.Proofs.Text.Cut
import TodoLint.Proofs.Token.Indexed
import TodoLint.Proofs.Token.IndexedLine
import TodoLint.FileNode.Order
import TodoLint.Proofs.FileTree.Walk
import TodoLint.Proofs.Reach
