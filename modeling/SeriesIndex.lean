import SeriesIndex.BufferPool
import SeriesIndex.FileSystem.Tree
import SeriesIndex.Main
import SeriesIndex.Proofs.Matcher
import SeriesIndex.Proofs.Search.Limit
import SeriesIndex.Proofs.Search.Indexed
import SeriesIndex.Proofs.Writer.Course
import SeriesIndex.Proofs.Writer.Recent
import SeriesIndex.Proofs.LabelRecord
import SeriesIndex.Proofs.Search.Labelled
import SeriesIndex.Proofs.Engine.Reached
import SeriesIndex.Proofs.Engine.Truncation
import SeriesIndex.Proofs.Search.Isolation
import SeriesIndex.Proofs.Filter.Selection
import SeriesIndex.Proofs.Pattern.Lines
import SeriesIndex.Proofs.Search.Presence
import SeriesIndex.Proofs.Filter.Anchoring
import SeriesIndex.Proofs.Pattern.Classes
import SeriesIndex.Proofs.Cursor
import SeriesIndex.Proofs.Search.Faults
import SeriesIndex.Proofs.Search.Bounds
import SeriesIndex.Proofs.Selector.Rendered
import SeriesIndex.Proofs.Filter.Polarity
import SeriesIndex.Proofs.Line.Written
import SeriesIndex.Proofs.Writer.OneByOne
import SeriesIndex.Proofs.Writer.Repeated
import SeriesIndex.Proofs.Search.Restriction
import SeriesIndex.Proofs.Search.Plan
import SeriesIndex.Proofs.Key.Windows
import SeriesIndex.Proofs.Key.PostingReader
import SeriesIndex.Proofs.Key.Series
import SeriesIndex.Proofs.CostCache.Remembered
import SeriesIndex.Proofs.Search.Trace
import SeriesIndex.Proofs.Search.Feedback
import SeriesIndex.Proofs.Row.NormalForm
import SeriesIndex.Proofs.TimeBound
import SeriesIndex.Proofs.Search.Expired
import SeriesIndex.Proofs.Engine.Import
import SeriesIndex.Proofs.Search.Cadence
import SeriesIndex.Proofs.IdentifierSet.History
import SeriesIndex.Proofs.Line.Closing
import SeriesIndex.Proofs.Config
