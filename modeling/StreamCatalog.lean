import StreamCatalog.Wkt.Reader
import StreamCatalog.Wkt.Builder
import StreamCatalog.Footprint.Operator
import StreamCatalog.Segment.Template
import StreamCatalog.Segment.Condition
import StreamCatalog.Config.Reader
import StreamCatalog.Catalog.Store
import StreamCatalog.Catalog.Updater
import StreamCatalog.Command.Workplace
import StreamCatalog.Main
import StreamCatalog.Proofs.Engine.Conservation
import StreamCatalog.Proofs.Codec.Calendar
import StreamCatalog.Proofs.Codec.Identifiers
import StreamCatalog.Proofs.Codec.Numerals
import StreamCatalog.Proofs.Codec.Stamps
import StreamCatalog.Proofs.Codec.Tokens
import StreamCatalog.Proofs.Codec.Structured
import StreamCatalog.Proofs.Codec.Records
import StreamCatalog.Proofs.Catalog.Stores
import StreamCatalog.Proofs.Catalog.Interchange
import StreamCatalog.Proofs.Catalog.Learning
import StreamCatalog.Proofs.Engine.Ledger
import StreamCatalog.Proofs.Engine.Books
import StreamCatalog.Proofs.Engine.Lineage
import StreamCatalog.Proofs.Engine.Custody
import StreamCatalog.Proofs.Engine.Shelf
import StreamCatalog.Proofs.Engine.Stock
import StreamCatalog.Proofs.Engine.Accord
import StreamCatalog.Proofs.Engine.Setbacks
import StreamCatalog.Proofs.Engine.Announcements
import StreamCatalog.Proofs.Engine.Closing
import StreamCatalog.Proofs.Segment.Snapshots
import StreamCatalog.Proofs.Wkt.Grammar
import StreamCatalog.Proofs.Wkt.Scanning
import StreamCatalog.Proofs.Decimal.Binary
import StreamCatalog.Proofs.Wkt.RoundTrip
import StreamCatalog.Proofs.Decimal.Nearest
import StreamCatalog.Proofs.Decimal.Naming
import StreamCatalog.Proofs.Decimal.ReadBack
import StreamCatalog.Proofs.Decimal.Marked
import StreamCatalog.Proofs.Wkt.Coordinates
import StreamCatalog.Proofs.Wkt.Collections
import StreamCatalog.Proofs.Wkt.Assembly
import StreamCatalog.Proofs.Catalog.Footprints
import StreamCatalog.Proofs.Catalog.Resilience
import StreamCatalog.Proofs.Engine.Timeline
import StreamCatalog.Proofs.Segment.Thresholds
import StreamCatalog.Proofs.Engine.Insistence
import StreamCatalog.Proofs.Engine.Chronology
import StreamCatalog.Proofs.Engine.Deliveries
import StreamCatalog.Proofs.Engine.Onlookers
import StreamCatalog.Proofs.Engine.Opening
import StreamCatalog.Proofs.Segment.Sessions
import StreamCatalog.Proofs.Codec.DateFormats
import StreamCatalog.Proofs.Segment.Expansion
import StreamCatalog.Proofs.Segment.Confinement
import StreamCatalog.Proofs.Segment.Templates
import StreamCatalog.Proofs.Segment.Counting
import StreamCatalog.Proofs.Decimal.Ordering
import StreamCatalog.Proofs.Decimal.Exceptions
import StreamCatalog.Proofs.Geometry.Parts
import StreamCatalog.Proofs.Geometry.Extents
import StreamCatalog.Proofs.Footprint.Waiting
import StreamCatalog.Proofs.Footprint.Elimination
import StreamCatalog.Proofs.Footprint.Trimming
import StreamCatalog.Proofs.Footprint.Simplifying
import StreamCatalog.Proofs.Region.Folding
import StreamCatalog.Proofs.Region.Enclosure
import StreamCatalog.Proofs.Region.Numbers
import StreamCatalog.Proofs.Footprint.Coverage
import StreamCatalog.Proofs.Footprint.Vanishing
import StreamCatalog.Proofs.Footprint.Rectangles
import StreamCatalog.Proofs.Footprint.Areas
import StreamCatalog.Proofs.Catalog.Contents
import StreamCatalog.Proofs.Catalog.TimeSpans
import StreamCatalog.Proofs.Catalog.Reordering
import StreamCatalog.Proofs.Catalog.Unplaced
import StreamCatalog.Proofs.Engine.Grouping
import StreamCatalog.Proofs.Catalog.Vacancies
import StreamCatalog.Proofs.Codec.SilentFormats
import StreamCatalog.Proofs.Segment.Extensions
