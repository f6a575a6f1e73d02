import FrontMatter.Block.Extract
import FrontMatter.Block.LineMap
import FrontMatter.Calendar.Date
import FrontMatter.Calendar.DateTime
import FrontMatter.Calendar.Read
import FrontMatter.Decimal.Binary64
import FrontMatter.Decimal.Read
import FrontMatter.Decimal.Shortest
import FrontMatter.Diagnostic.Basic
import FrontMatter.Diagnostic.Collector
import FrontMatter.Diagnostic.Draft
import FrontMatter.Document.Basic
import FrontMatter.Document.Kind
import FrontMatter.Document.Read
import FrontMatter.Main
import FrontMatter.Proofs.AllowedParts
import FrontMatter.Proofs.Batches
import FrontMatter.Proofs.BlockEnd
import FrontMatter.Proofs.ClaimedIds
import FrontMatter.Proofs.CleanRuns
import FrontMatter.Proofs.CollectorRuns
import FrontMatter.Proofs.CursorRuns
import FrontMatter.Proofs.DataLimits
import FrontMatter.Proofs.DataParts
import FrontMatter.Proofs.DataPlaces
import FrontMatter.Proofs.DocumentEntries
import FrontMatter.Proofs.DocumentPlaces
import FrontMatter.Proofs.DocumentShape
import FrontMatter.Proofs.DraftFields
import FrontMatter.Proofs.EntryNodes
import FrontMatter.Proofs.EntryTokens
import FrontMatter.Proofs.EntryValues
import FrontMatter.Proofs.ErrorPlaces
import FrontMatter.Proofs.EscapeSequences
import FrontMatter.Proofs.ExcerptWindows
import FrontMatter.Proofs.Excerpts
import FrontMatter.Proofs.FieldForms
import FrontMatter.Proofs.FindingLines
import FrontMatter.Proofs.ForgedLines
import FrontMatter.Proofs.FoundDocuments
import FrontMatter.Proofs.IdOwners
import FrontMatter.Proofs.Interleavings
import FrontMatter.Proofs.JsonReading
import FrontMatter.Proofs.JsonReports
import FrontMatter.Proofs.KeyLines
import FrontMatter.Proofs.LongNumbers
import FrontMatter.Proofs.Neighbours
import FrontMatter.Proofs.NodePlaces
import FrontMatter.Proofs.OneByOne
import FrontMatter.Proofs.PlainValues
import FrontMatter.Proofs.QuotedDates
import FrontMatter.Proofs.QuotedTexts
import FrontMatter.Proofs.RegistryClaims
import FrontMatter.Proofs.RepeatedRuns
import FrontMatter.Proofs.ReportTexts
import FrontMatter.Proofs.Results
import FrontMatter.Proofs.ReturnFeeds
import FrontMatter.Proofs.RuleFindings
import FrontMatter.Proofs.RuleTitles
import FrontMatter.Proofs.ScanPlaces
import FrontMatter.Proofs.SessionEnds
import FrontMatter.Proofs.ShownLines
import FrontMatter.Proofs.ShownValues
import FrontMatter.Proofs.SourceOrder
import FrontMatter.Proofs.StoredEntries
import FrontMatter.Proofs.StoredKeys
import FrontMatter.Proofs.StyledReports
import FrontMatter.Proofs.Tables
import FrontMatter.Proofs.TenetReferences
import FrontMatter.Proofs.TextLines
import FrontMatter.Proofs.TitleLines
import FrontMatter.Proofs.TokenPlaces
import FrontMatter.Proofs.Verdicts
import FrontMatter.Proofs.WrittenDays
import FrontMatter.Report.Json
import FrontMatter.Report.Text
import FrontMatter.Rules.Check
import FrontMatter.Rules.Field
import FrontMatter.Rules.Registry
import FrontMatter.Rules.Schema
import FrontMatter.Run.Batch
import FrontMatter.Run.Log
import FrontMatter.Run.Source
import FrontMatter.Session
import FrontMatter.Settings.Basic
import FrontMatter.Settings.EnvFile
import FrontMatter.Text.Ansi
import FrontMatter.Text.Blank
import FrontMatter.Text.Case
import FrontMatter.Text.CaseTable
import FrontMatter.Text.DecimalDigit
import FrontMatter.Text.Digits
import FrontMatter.Text.Integer
import FrontMatter.Text.Lines
import FrontMatter.Text.Path
import FrontMatter.Text.Printable
import FrontMatter.Text.Quoted
import FrontMatter.Text.Utf8
import FrontMatter.Tree.Basic
import FrontMatter.Tree.Discovery
import FrontMatter.Tree.Version
import FrontMatter.Value.Basic
import FrontMatter.Value.FieldFault
import FrontMatter.Value.Table
import FrontMatter.Value.Text
import FrontMatter.Yaml.Cursor
import FrontMatter.Yaml.Data.Basic
import FrontMatter.Yaml.Data.Build
import FrontMatter.Yaml.Data.Limits
import FrontMatter.Yaml.Data.Outcome
import FrontMatter.Yaml.Fault
import FrontMatter.Yaml.Node.Basic
import FrontMatter.Yaml.Node.Document
import FrontMatter.Yaml.Node.Grammar
import FrontMatter.Yaml.Scalar.Base64
import FrontMatter.Yaml.Scalar.Implicit
import FrontMatter.Yaml.Scalar.Number
import FrontMatter.Yaml.Scalar.Timestamp
import FrontMatter.Yaml.Tag
import FrontMatter.Yaml.Token.Basic
import FrontMatter.Yaml.Token.BlockText
import FrontMatter.Yaml.Token.Directive
import FrontMatter.Yaml.Token.Lexer
import FrontMatter.Yaml.Token.Plain
import FrontMatter.Yaml.Token.Quoted
import FrontMatter.Yaml.Token.Stream
import FrontMatter.Yaml.Token.Uri
