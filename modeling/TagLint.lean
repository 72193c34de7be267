import TagLint.Main
import TagLint.Service.Reading
import TagLint.Proofs.Text.Search
import TagLint.Proofs.Text.Words
import TagLint.Proofs.Text.Pieces
import TagLint.Proofs.Text.Case
import TagLint.Proofs.Text.LineEnds
import TagLint.Proofs.Struct.BraceScan
import TagLint.Proofs.Struct.BraceAutomaton
import TagLint.Proofs.Struct.Headers
import TagLint.Proofs.Struct.Sites
import TagLint.Proofs.Struct.Locality
import TagLint.Proofs.Struct.Positions
import TagLint.Proofs.Struct.LineDelta
import TagLint.Proofs.Struct.Source
import TagLint.Proofs.Struct.SourceWords
import TagLint.Proofs.Struct.SourceLines
import TagLint.Proofs.Struct.SourceBraces
import TagLint.Proofs.Struct.SourceFields
import TagLint.Proofs.Struct.SourceBody
import TagLint.Proofs.Struct.RoundTrip
import TagLint.Proofs.Struct.FlatSource
import TagLint.Proofs.Struct.LineEnds
import TagLint.Proofs.Struct.FieldTexts
import TagLint.Proofs.FileTree.Collect
import TagLint.Proofs.FileTree.Resolve
import TagLint.Proofs.FileTree.Walk
import TagLint.Proofs.Tag.Entry
import TagLint.Proofs.Tag.Marks
import TagLint.Proofs.Tag.Pairs
import TagLint.Proofs.Tag.Printed
import TagLint.Proofs.Rule.Value
import TagLint.Proofs.Rule.Anchors
import TagLint.Proofs.Locate.Header
import TagLint.Proofs.Locate.FirstHeader
import TagLint.Proofs.Locate.FieldLine
import TagLint.Proofs.Locate.Shown
import TagLint.Proofs.Locate.LineEnds
import TagLint.Proofs.Locate.Agreement
import TagLint.Proofs.Locate.SharedLine
import TagLint.Proofs.Service.Cap
import TagLint.Proofs.Service.Paths
import TagLint.Proofs.Service.Health
import TagLint.Proofs.Service.LineEnds
import TagLint.Proofs.Rule.Combination
import TagLint.Proofs.Text.Lowered
import TagLint.Proofs.Rule.FieldPass
import TagLint.Proofs.Rule.Mentions
import TagLint.Proofs.Rule.ColumnOwners
import TagLint.Proofs.Rule.IndexGroups
import TagLint.Proofs.Rule.Reorder
import TagLint.Proofs.Registry.Listing
import TagLint.Proofs.Rule.Isolation
import TagLint.Proofs.Registry.Tables
import TagLint.Proofs.Registry.RuleBook
import TagLint.Proofs.Registry.RuleTable
import TagLint.Proofs.Registry.Run
import TagLint.Proofs.Registry.Offers
import TagLint.Proofs.Registry.KeyOffers
import TagLint.Proofs.Registry.RuleOffers
import TagLint.Proofs.Plugin.Applied
import TagLint.Proofs.Plugin.Loading
import TagLint.Proofs.Plugin.FirstCome
import TagLint.Proofs.Plugin.Reset
import TagLint.Proofs.Plugin.Forms
import TagLint.Proofs.Plugin.Listening
import TagLint.Proofs.Service.Report
import TagLint.Proofs.Service.SpanTotals
import TagLint.Proofs.Service.Shares
import TagLint.Proofs.Service.Tally
import TagLint.Proofs.Service.Hooks
import TagLint.Proofs.Service.Collection
import TagLint.Proofs.Struct.PlainLine
import TagLint.Proofs.Struct.LinePlace
import TagLint.Proofs.Struct.NestedGroup
import TagLint.Proofs.Struct.Interchange
import TagLint.Proofs.Struct.LineNote
import TagLint.Proofs.Render.Markup
import TagLint.Proofs.Render.Succeeds
import TagLint.Proofs.Render.Telemetry
import TagLint.Proofs.Render.Operations
import TagLint.Proofs.Render.Answers
import TagLint.Proofs.Rule.OneLine
import TagLint.Proofs.Render.QuietLines
import TagLint.Proofs.Settings.Keys
import TagLint.Proofs.Command.Options
import TagLint.Proofs.Settings.Options
import TagLint.Proofs.Settings.Sources
import TagLint.Proofs.Rule.Quotes
import TagLint.Proofs.Rule.Casing
import TagLint.Proofs.Registry.NewKey
import TagLint.Proofs.Settings.Nearest
import TagLint.Proofs.Struct.QuotedLiteral
