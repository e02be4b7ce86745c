import LogLint.Unicode.Table
import LogLint.Unicode.Age
import LogLint.Unicode.Graphic
import LogLint.Unicode.Letter
import LogLint.Unicode.Alphanumeric
import LogLint.Unicode.Cased
import LogLint.Unicode.CaseMapping
import LogLint.Unicode.GraphemeExtend
import LogLint.Unicode.Width
import LogLint.Text.Utf8
import LogLint.Text.Quoted
import LogLint.Go.StringLit
import LogLint.Go.Vendor
import LogLint.Catalog
import LogLint.Key.Words
import LogLint.Key.Case
import LogLint.Message.Style
import LogLint.Decimal.Binary64
import LogLint.Decimal.Shortest
import LogLint.Json.Value
import LogLint.Json.Number
import LogLint.Json.Error
import LogLint.Json.Scan
import LogLint.Json.Reader
import LogLint.Json.Decode
import LogLint.Json.Print
import LogLint.Syntax.Expr
import LogLint.Syntax.Decode
import LogLint.Syntax.Encode
import LogLint.Message.Static
import LogLint.Call.Keys
import LogLint.SourceText
import LogLint.Glob.Pattern
import LogLint.Options
import LogLint.Policy
import LogLint.Config
import LogLint.Config.Read
import LogLint.Syntax.Read
import LogLint.Issue
import LogLint.Analyzer
import LogLint.Report
import LogLint.Fs.Path
import LogLint.Fs.Disk
import LogLint.Fs.Tree
import LogLint.Fs.Walk
import LogLint.Glob.Match
import LogLint.Glob.Search
import LogLint.Text.Blank
import LogLint.Text.Jaro
import LogLint.Cli.Grammar
import LogLint.Cli.Help
import LogLint.Cli.Error
import LogLint.Cli.Parse
import LogLint.Session
import LogLint.Config.Load
import LogLint.Scan
import LogLint.Workspace
import LogLint.Fix
import LogLint.Cli.Program
import LogLint.Cli.Run
import LogLint.Main
import LogLint.Proofs.IssueOrder
import LogLint.Proofs.RuleIndependence
import LogLint.Proofs.SugarChain
import LogLint.Proofs.SourcePositions
import LogLint.Proofs.Utf8Codec
import LogLint.Proofs.QuotedLiteral
import LogLint.Proofs.LiteralGrammar
import LogLint.Proofs.FixIdempotence
import LogLint.Proofs.EditApplication
import LogLint.Proofs.VendorPath
import LogLint.Proofs.LineIndex
import LogLint.Proofs.KeyIterator
import LogLint.Proofs.ArgsLayout
import LogLint.Proofs.PreviewLines
