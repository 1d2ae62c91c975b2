import PgMaintainer.Interaction.Parties
import PgMaintainer.Properties.Accounting
import PgMaintainer.Properties.ActiveVacuums
import PgMaintainer.Properties.Autovacuum
import PgMaintainer.Properties.CatalogCoverage
import PgMaintainer.Properties.CleanExit
import PgMaintainer.Properties.ConnectionStrings
import PgMaintainer.Properties.Coverage
import PgMaintainer.Properties.DeadTuples
import PgMaintainer.Properties.Downgrade
import PgMaintainer.Properties.DryRun
import PgMaintainer.Properties.Escalation
import PgMaintainer.Properties.ExplicitTables
import PgMaintainer.Properties.Extraction
import PgMaintainer.Properties.GateOff
import PgMaintainer.Properties.HorizonBlockers
import PgMaintainer.Properties.Isolation
import PgMaintainer.Properties.LagGate
import PgMaintainer.Properties.Logbook
import PgMaintainer.Properties.LostConnection
import PgMaintainer.Properties.Merging
import PgMaintainer.Properties.MutualExclusion
import PgMaintainer.Properties.NoPanic
import PgMaintainer.Properties.PasswordFile
import PgMaintainer.Properties.PercentDecoding
import PgMaintainer.Properties.PortDetection
import PgMaintainer.Properties.Precedence
import PgMaintainer.Properties.Preview
import PgMaintainer.Properties.Redaction
import PgMaintainer.Properties.Repetition
import PgMaintainer.Properties.Retry
import PgMaintainer.Properties.RoundTrips
import PgMaintainer.Properties.SchemaLock
import PgMaintainer.Properties.Scope
import PgMaintainer.Properties.SettingsInForce
import PgMaintainer.Properties.SignalEffects
import PgMaintainer.Properties.Sources
import PgMaintainer.Properties.SqlText
import PgMaintainer.Properties.StopNext
import PgMaintainer.Properties.TableBudget
import PgMaintainer.Properties.Totals
import PgMaintainer.Properties.UriRedaction
import PgMaintainer.Properties.Validation
import PgMaintainer.Queries.Candidates
import PgMaintainer.Queries.NeedsVacuum
