import CourseFeed.Calendar.Date
import CourseFeed.Catalog.Basic
import CourseFeed.Catalog.Export
import CourseFeed.Catalog.Json
import CourseFeed.Catalog.Selection
import CourseFeed.Command.Arguments
import CourseFeed.Command.Request
import CourseFeed.Command.Run
import CourseFeed.Decimal.Binary64
import CourseFeed.Decimal.Layout
import CourseFeed.Decimal.Shortest
import CourseFeed.Fault
import CourseFeed.Feed.File
import CourseFeed.Feed.Reader
import CourseFeed.Feed.Records
import CourseFeed.Feed.Writer
import CourseFeed.Filter.Comparison
import CourseFeed.Filter.Criterion
import CourseFeed.Filter.Error
import CourseFeed.Filter.Extractors
import CourseFeed.Filter.Selection
import CourseFeed.Journal
import CourseFeed.Json.Cursor
import CourseFeed.Json.Decode
import CourseFeed.Json.Error
import CourseFeed.Json.Numeral
import CourseFeed.Json.Printer
import CourseFeed.Json.Shape
import CourseFeed.Json.Skip
import CourseFeed.Json.Text
import CourseFeed.Json.Tree
import CourseFeed.Main
import CourseFeed.Named
import CourseFeed.Pattern.CharClass
import CourseFeed.Pattern.Compiled
import CourseFeed.Pattern.Error
import CourseFeed.Pattern.Expr
import CourseFeed.Pattern.Grammar
import CourseFeed.Pattern.Lexeme
import CourseFeed.Pattern.Matching
import CourseFeed.Pattern.Node
import CourseFeed.Proofs.BracketedJson
import CourseFeed.Proofs.Buffering
import CourseFeed.Proofs.CallByCall
import CourseFeed.Proofs.ChangeList
import CourseFeed.Proofs.ChangeOrder
import CourseFeed.Proofs.CheckedFilters
import CourseFeed.Proofs.DecodedLines
import CourseFeed.Proofs.DiffReread
import CourseFeed.Proofs.DisplayedValues
import CourseFeed.Proofs.ElementColumns
import CourseFeed.Proofs.ElementKeys
import CourseFeed.Proofs.ElementOrder
import CourseFeed.Proofs.ElementRows
import CourseFeed.Proofs.EscapedTexts
import CourseFeed.Proofs.ExportReread
import CourseFeed.Proofs.ExportedRollovers
import CourseFeed.Proofs.FaultLines
import CourseFeed.Proofs.FeedLines
import CourseFeed.Proofs.FeedOrder
import CourseFeed.Proofs.FileSinks
import CourseFeed.Proofs.FilterGrammar
import CourseFeed.Proofs.FilterLists
import CourseFeed.Proofs.FilterScan
import CourseFeed.Proofs.FirstPlaces
import CourseFeed.Proofs.GivenOptions
import CourseFeed.Proofs.InputsFirst
import CourseFeed.Proofs.IntegerFilters
import CourseFeed.Proofs.IntegerTexts
import CourseFeed.Proofs.KeyedRows
import CourseFeed.Proofs.LayeredSettings
import CourseFeed.Proofs.LineByLine
import CourseFeed.Proofs.Lockstep
import CourseFeed.Proofs.MatchedLeaves
import CourseFeed.Proofs.MemoryPass
import CourseFeed.Proofs.NearestIntegers
import CourseFeed.Proofs.NegatedFilters
import CourseFeed.Proofs.Observing
import CourseFeed.Proofs.OrderedValues
import CourseFeed.Proofs.OrderingFilters
import CourseFeed.Proofs.Outcomes
import CourseFeed.Proofs.Patching
import CourseFeed.Proofs.QuotedTexts
import CourseFeed.Proofs.Rearranged
import CourseFeed.Proofs.RefusingSinks
import CourseFeed.Proofs.RolloverRows
import CourseFeed.Proofs.RowShape
import CourseFeed.Proofs.RowWidth
import CourseFeed.Proofs.SavedSettings
import CourseFeed.Proofs.SharedKeys
import CourseFeed.Proofs.SharedLines
import CourseFeed.Proofs.SharedSinks
import CourseFeed.Proofs.SpacedFilters
import CourseFeed.Proofs.StoredFeeds
import CourseFeed.Proofs.ValueTexts
import CourseFeed.Proofs.WrittenFeeds
import CourseFeed.Proofs.WrittenJson
import CourseFeed.Reconcile.Change
import CourseFeed.Reconcile.Files
import CourseFeed.Reconcile.Json
import CourseFeed.Reconcile.Keyed
import CourseFeed.Reconcile.Memory
import CourseFeed.Reconcile.Pass
import CourseFeed.Reconcile.Summary
import CourseFeed.Row.Basic
import CourseFeed.Row.Json
import CourseFeed.Row.Operation
import CourseFeed.Session
import CourseFeed.Settings.Basic
import CourseFeed.Settings.Json
import CourseFeed.Storage.Basic
import CourseFeed.Text.Age
import CourseFeed.Text.Blank
import CourseFeed.Text.Bytes
import CourseFeed.Text.Category
import CourseFeed.Text.CharSet
import CourseFeed.Text.CodeMap
import CourseFeed.Text.Folding
import CourseFeed.Text.Lowercase
import CourseFeed.Text.Property
import CourseFeed.Text.Quoted
import CourseFeed.Text.Script
import CourseFeed.Text.Segment
import CourseFeed.Value.Basic
import CourseFeed.Value.Relations
import CourseFeed.Value.Token
