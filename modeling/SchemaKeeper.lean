import SchemaKeeper.Table.Records
import SchemaKeeper.Filter.Keywords
import SchemaKeeper.Filter.Rendering
import SchemaKeeper.Plan.Difference
import SchemaKeeper.PhysicalTable
import SchemaKeeper.Sql.Statement
import SchemaKeeper.Document.Json
import SchemaKeeper.Connection.Memory
import SchemaKeeper.Registry
import SchemaKeeper.MariaDb.Session
import SchemaKeeper.MariaDb.Settings
import SchemaKeeper.Connection.Traced
import SchemaKeeper.Connection.Watched
import SchemaKeeper.Sql.Reading
import SchemaKeeper.Command
import SchemaKeeper.Main
import SchemaKeeper.PhysicalTable.Evolution
import SchemaKeeper.Proofs.Declarations
import SchemaKeeper.Proofs.Operations
import SchemaKeeper.Proofs.Comparison
import SchemaKeeper.Proofs.Coherence
import SchemaKeeper.Proofs.Phases
import SchemaKeeper.Proofs.Realization
import SchemaKeeper.Proofs.Convergence
import SchemaKeeper.Proofs.Idempotence
import SchemaKeeper.Filter.Reading
import SchemaKeeper.Proofs.Quoting
import SchemaKeeper.Proofs.Legibility
import SchemaKeeper.Proofs.FilterReading
import SchemaKeeper.Sql.Outline
import SchemaKeeper.Proofs.StatementReading
import SchemaKeeper.Table.Actions
import SchemaKeeper.Proofs.Requests
import SchemaKeeper.Proofs.Refusals
import SchemaKeeper.Proofs.Restrictions
import SchemaKeeper.MariaDb.Catalogue
import SchemaKeeper.Proofs.Success
import SchemaKeeper.Proofs.Synchronization
import SchemaKeeper.Proofs.References
import SchemaKeeper.Registry.Actions
import SchemaKeeper.Proofs.Effects
import SchemaKeeper.Proofs.Registrations
import SchemaKeeper.Proofs.Outcomes
import SchemaKeeper.Proofs.Leaks
import SchemaKeeper.Proofs.Previews
import SchemaKeeper.Column.Range
import SchemaKeeper.MariaDb.Actions
import SchemaKeeper.Proofs.JsonText
import SchemaKeeper.Proofs.JsonNumbers
import SchemaKeeper.Proofs.JsonRecords
import SchemaKeeper.Proofs.JsonDocuments
import SchemaKeeper.Proofs.Lifecycle
import SchemaKeeper.Proofs.Rounding
import SchemaKeeper.Proofs.ByteCounts
import SchemaKeeper.Proofs.Capacity
import SchemaKeeper.Proofs.Arrangement
import SchemaKeeper.Proofs.IntegerBounds
import SchemaKeeper.Proofs.DigitCounts
import SchemaKeeper.Proofs.KindTexts
import SchemaKeeper.Proofs.ShortestDecimals
import SchemaKeeper.Proofs.DecimalRoom
import SchemaKeeper.Proofs.Agreement
import SchemaKeeper.Proofs.Writes
import SchemaKeeper.Proofs.Nulls
import SchemaKeeper.Proofs.ReadBack
import SchemaKeeper.Proofs.Collisions
import SchemaKeeper.Proofs.Compatibility
import SchemaKeeper.Proofs.Omissions
import SchemaKeeper.Proofs.FilterNodes
import SchemaKeeper.Proofs.Lookups
import SchemaKeeper.Proofs.Planning
import SchemaKeeper.Proofs.Reorderings
import SchemaKeeper.Proofs.Widths
import SchemaKeeper.Proofs.Minima
import SchemaKeeper.Proofs.LegalSizes
import SchemaKeeper.Proofs.DefaultReports
import SchemaKeeper.Proofs.VersionReports
import SchemaKeeper.Proofs.Disconnections
import SchemaKeeper.Proofs.UnsignedCells
