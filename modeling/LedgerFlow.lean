import LedgerFlow.Support.Interleaving
import LedgerFlow.Projections
import LedgerFlow.Store.PoisonRecords
import LedgerFlow.Store.Confluence
import LedgerFlow.Spark.Refinement
import LedgerFlow.Spark.DailyRuns
import LedgerFlow.SchemaGate.Bronze
import LedgerFlow.SchemaGate.Publication
import LedgerFlow.Spark.FinanceVisible
import LedgerFlow.Spark.Overflow
import LedgerFlow.Store.Replays
import LedgerFlow.Store.RawRecords
import LedgerFlow.Store.Redeliveries
import LedgerFlow.Store.Quarantine
import LedgerFlow.Store.Settlement
import LedgerFlow.PublishedContract
import LedgerFlow.LifecycleGrammar
import LedgerFlow.EndToEnd.BusinessDates
import LedgerFlow.EndToEnd.Ingestion
import LedgerFlow.Settlement.PublicationGate
import LedgerFlow.Settlement.VerifiedInput
import LedgerFlow.Settlement.ControlTotals
import LedgerFlow.Settlement.Exceptions
import LedgerFlow.Settlement.Verdicts
import LedgerFlow.Settlement.Validation
import LedgerFlow.Settlement.Evidence
import LedgerFlow.Settlement.GateAgreement
import LedgerFlow.SchemaGate.QuarantineKeys
import LedgerFlow.BalanceGates
import LedgerFlow.EntryIdentity
import LedgerFlow.Support.TextFiles
import LedgerFlow.Support.JsonReader
import LedgerFlow.Support.JsonText
import LedgerFlow.Manifest.RoundTrip
import LedgerFlow.Simulator.Measured
import LedgerFlow.SourceRegistry
import LedgerFlow.Spark.Marts
import LedgerFlow.Settlement.FinanceBuild
import LedgerFlow.Settlement.Attempts
import LedgerFlow.Store.EmailLeak
import LedgerFlow.Store.BalancedSummaries
import LedgerFlow.Store.InjectedFailures
import LedgerFlow.Simulator.Calendar
import LedgerFlow.Simulator.Sizes
import LedgerFlow.Simulator.ShippedRuns
import LedgerFlow.Simulator.Fixtures
import LedgerFlow.Evidence.Laboratory
import LedgerFlow.Evidence.SettlementChecks
import LedgerFlow.Evidence.InputChecks
import LedgerFlow.Evidence.Loads
import LedgerFlow.Evidence.FixtureRuns
import LedgerFlow.Evidence.Suite
