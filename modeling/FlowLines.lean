import FlowLines.Main
import FlowLines.Proofs.Feed.Fold
import FlowLines.Proofs.Host.Recent
import FlowLines.Proofs.Host.Reverse
import FlowLines.Proofs.Text.Digits
import FlowLines.Proofs.Time.Calendar
import FlowLines.Proofs.Time.Instant
import FlowLines.Proofs.Json.Takes
import FlowLines.Proofs.Json.Members
import FlowLines.Proofs.Flow.Sound
import FlowLines.Proofs.Flow.Written
import FlowLines.Proofs.Layout.JsonLines
import FlowLines.Proofs.Layout.Logfmt
import FlowLines.Proofs.Layout.Xml
import FlowLines.Proofs.Text.OneLine
import FlowLines.Proofs.Layout.OneLine
import FlowLines.Proofs.Reporter.Lines
import FlowLines.Proofs.Reporter.OneLine
import FlowLines.Proofs.Reporter.Limit
import FlowLines.Proofs.Feed.Limit
import FlowLines.Proofs.Feed.Interrupted
import FlowLines.Proofs.Feed.FailFast
import FlowLines.Proofs.Host.Spelling
import FlowLines.Proofs.Reporter.LineFeeds
import FlowLines.Proofs.Reporter.Sent
import FlowLines.Proofs.Feed.Batch
import FlowLines.Proofs.Layout.Comment
import FlowLines.Proofs.Feed.Total
import FlowLines.Proofs.CommandLine.Arguments
import FlowLines.Proofs.CommandLine.Reading
import FlowLines.Proofs.Settings.Given
import FlowLines.Proofs.CommandLine.Job
import FlowLines.Proofs.CommandLine.Accepted
import FlowLines.Proofs.Reporter.Isolation
import FlowLines.Proofs.Feed.Sayings
import FlowLines.Proofs.Feed.Terminators
import FlowLines.Proofs.Feed.PassedOver
import FlowLines.Proofs.Feed.LineLimit
import FlowLines.Proofs.Json.Grammar
import FlowLines.Proofs.Json.Literal
import FlowLines.Proofs.Json.Numeral
import FlowLines.Proofs.Json.Skip
import FlowLines.Proofs.Json.Reads
import FlowLines.Proofs.Json.Between
import FlowLines.Proofs.Flow.Tree
import FlowLines.Proofs.Flow.Meaning
import FlowLines.Proofs.Feed.Form
import FlowLines.Proofs.Layout.SameAttributes
import FlowLines.Proofs.Layout.LegalXml
import FlowLines.Proofs.Host.Listed
import FlowLines.Proofs.Settings.Members
import FlowLines.Proofs.Yaml.Keys
import FlowLines.Proofs.Host.Table
import FlowLines.Proofs.Settings.Memberwise
import FlowLines.Proofs.Settings.Added
import FlowLines.Proofs.Layout.Outside
import FlowLines.Proofs.Reporter.Controls
import FlowLines.Proofs.Host.Uses
import FlowLines.Proofs.Layout.FormatName
import FlowLines.Proofs.Time.Span
import FlowLines.Proofs.CommandLine.Timeout
import FlowLines.Proofs.Reporter.Start
import FlowLines.Proofs.CommandLine.Closed
