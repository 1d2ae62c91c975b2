import Mathlib.Algebra.Order.Field.Rat

/-!
# Data types

The values a run works with, after `types.rs`. A `f64` is read as the exact rational it
stands for, a `SystemTime` as an integer, and a counter as a natural number.
-/

namespace PgMaintainer

/-- A table by schema and name: the key of every set of tables in the code. -/
abbrev TableKey := String × String

instance : LawfulBEq TableKey := inferInstance

/-- VACUUM operation options. -/
structure VacuumOptions where
  truncate : Bool
  disablePageSkipping : Bool
  skipLocked : Bool
  indexCleanup : Option Bool
  /-- Explicit `PARALLEL n` degree. -/
  parallel : Option Nat
  deriving DecidableEq, Repr, Inhabited

/-- Shared run-level policy flags threaded through every maintenance phase. -/
structure RunPolicy where
  dryRun : Bool
  force : Bool
  skipActiveVacuum : Bool
  checkXminHorizon : Bool
  lockTimeoutMs : Nat
  lockTimeoutRetries : Nat
  lockTimeoutRetryDelayMs : Nat
  deriving DecidableEq, Repr

/-- A table with the row counts of `pg_stat_user_tables`. -/
structure TableInfo where
  schemaName : String
  tableName : String
  nLiveTup : Int
  nDeadTup : Int
  sizeBytes : Int
  lastMaintained : Option Int
  deriving DecidableEq, Repr

/-- A table that is a candidate for anti-wraparound freezing. -/
structure FreezeTableInfo where
  schemaName : String
  tableName : String
  xidAge : Int
  freezeMaxAge : Int
  sizeBytes : Int
  lastMaintained : Option Int
  deriving DecidableEq, Repr

/-- A table that is a candidate for bloat cleanup. -/
structure BloatTableInfo where
  schemaName : String
  tableName : String
  nLiveTup : Int
  nDeadTup : Int
  sizeBytes : Int
  lastMaintained : Option Int
  deriving DecidableEq, Repr

/-- A table where dead tuples exceed the autovacuum threshold formula. -/
structure NeedsVacuumTableInfo where
  schemaName : String
  tableName : String
  nLiveTup : Int
  nDeadTup : Int
  sizeBytes : Int
  lastMaintained : Option Int
  /-- True when only the max-threshold discovery pass found this table. -/
  viaMaxThreshold : Bool
  deriving DecidableEq, Repr

/-- A table whose most recent VACUUM is older than the configured number of days. -/
structure OverdueVacuumTableInfo where
  schemaName : String
  tableName : String
  nLiveTup : Int
  nDeadTup : Int
  daysSinceVacuum : ℚ
  deriving DecidableEq, Repr

/-- A table whose most recent ANALYZE is older than the configured number of days. -/
structure OverdueAnalyzeTableInfo where
  schemaName : String
  tableName : String
  nLiveTup : Int
  nModSinceAnalyze : Int
  daysSinceAnalyze : ℚ
  deriving DecidableEq, Repr

/-- A table named explicitly on `--also-tables`. -/
structure ExplicitTable where
  schemaName : String
  tableName : String
  deriving DecidableEq, Repr

/-- The key of a candidate: its schema and its name. -/
def TableInfo.key (t : TableInfo) : TableKey := (t.schemaName, t.tableName)

@[inherit_doc TableInfo.key]
def FreezeTableInfo.key (t : FreezeTableInfo) : TableKey := (t.schemaName, t.tableName)

@[inherit_doc TableInfo.key]
def BloatTableInfo.key (t : BloatTableInfo) : TableKey := (t.schemaName, t.tableName)

@[inherit_doc TableInfo.key]
def NeedsVacuumTableInfo.key (t : NeedsVacuumTableInfo) : TableKey := (t.schemaName, t.tableName)

@[inherit_doc TableInfo.key]
def OverdueVacuumTableInfo.key (t : OverdueVacuumTableInfo) : TableKey :=
  (t.schemaName, t.tableName)

@[inherit_doc TableInfo.key]
def OverdueAnalyzeTableInfo.key (t : OverdueAnalyzeTableInfo) : TableKey :=
  (t.schemaName, t.tableName)

@[inherit_doc TableInfo.key]
def ExplicitTable.key (t : ExplicitTable) : TableKey := (t.schemaName, t.tableName)

/-- What to do with the running statement when a signal arrives. -/
inductive ShutdownMode where
  | finish
  | cancel
  | terminate
  deriving DecidableEq, Repr

/-- Maintenance mode: which phases to execute. -/
inductive Mode where
  | neverVacuumed
  | neverAnalyzed
  | preventWraparound
  | preventBloat
  | needsVacuum
  | vacuumOverdue
  | analyzeOverdue
  deriving DecidableEq, Repr

/-- Candidate priority order within a phase's already-qualified rows. -/
inductive OrderBy where
  | size
  | lastMaintained
  deriving DecidableEq, Repr

/-- SSL connection mode, matching libpq sslmode semantics. -/
inductive SslMode where
  | disable
  | require
  | verifyCa
  | verifyFull
  deriving DecidableEq, Repr, Inhabited

/-- Log output format. -/
inductive LogFormat where
  | text
  | json
  deriving DecidableEq, Repr

/-- Log file rotation strategy. -/
inductive LogRotation where
  | none
  | daily
  deriving DecidableEq, Repr

/-- Per-operation result counters. -/
structure OperationSummary where
  total : Nat := 0
  succeeded : Nat := 0
  failed : Nat := 0
  skipped : Nat := 0
  deriving DecidableEq, Repr

/-- One row of `pg_stat_replication`, reduced to what the lag gate needs. -/
structure StandbyLag where
  applicationName : String
  state : String
  syncState : String
  /-- `none` when the standby is caught up and there is no recent WAL to measure against. -/
  replayLagSeconds : Option ℚ
  deriving DecidableEq, Repr

/-- What a read of `pg_stat_replication` told us. -/
inductive LagObservation where
  | noReplicas
  | unobservable
  | observed (standbys : List StandbyLag)
  deriving DecidableEq, Repr

namespace LagObservation

/-- Worst replay lag across every standby, a caught-up `NULL` counting as zero. -/
def maxLagSeconds : LagObservation → Option ℚ
  | .noReplicas => some 0
  | .unobservable => none
  | .observed standbys =>
      some ((standbys.map fun s => s.replayLagSeconds.getD 0).foldl max 0)

/-- True only when lag is both observable and over the threshold. -/
def exceeds (observation : LagObservation) (thresholdSeconds : ℚ) : Bool :=
  match observation.maxLagSeconds with
  | some worst => decide (thresholdSeconds < worst)
  | none => false

end LagObservation

/-- Verdict from the per-table replication-lag gate. -/
inductive LagGateVerdict where
  | proceed
  | skipTable
  | shutdownRequested
  deriving DecidableEq, Repr

/-- The fixed part of the replication-lag gate. Its atomics are memory of the run, read and
written by operations of their own. -/
structure ReplicaLagGate where
  thresholdSeconds : ℚ
  maxWaitSeconds : Nat
  pollIntervalSeconds : Nat
  deriving DecidableEq, Repr

/-- `REPLICA_LAG_POLL_INTERVAL_SECONDS`. -/
def replicaLagPollIntervalSeconds : Nat := 5

/-- `ReplicaLagGate::new`. -/
def ReplicaLagGate.new (thresholdSeconds : ℚ) (maxWaitSeconds : Nat) : ReplicaLagGate :=
  ⟨thresholdSeconds, maxWaitSeconds, replicaLagPollIntervalSeconds⟩

/-- One thing currently holding back the cluster's vacuum (xmin) horizon. -/
structure XminHorizonBlocker where
  holderType : String
  identifier : String
  detail : Option String
  status : Option String
  xidAge : Int
  xactDurationSecs : Option Nat
  queryDurationSecs : Option Nat
  querySnippet : Option String
  deriving DecidableEq, Repr

/-- Result of probing the cluster's vacuum horizon. -/
inductive HorizonObservation where
  | unobservable
  | observed (blockers : List XminHorizonBlocker)
  deriving DecidableEq, Repr

/-- The tool's own logging schema, always excluded from maintenance. -/
def logbookSchemaName : String := "maintainer_logbook"

/-- `MAX_LOCK_TIMEOUT_RETRIES`. -/
def maxLockTimeoutRetries : Nat := 20

/-- `MAX_LOCK_TIMEOUT_RETRY_DELAY_MS`. -/
def maxLockTimeoutRetryDelayMs : Nat := 60000

/-- Everything `run` works with once arguments, file and connection string are merged and
validated; the last fields are what the validation checked. The two day counts are required
by, and only read under, their own modes. -/
structure RunSettings where
  schema : Option String
  discoverAllSchemas : Bool
  table : Option String
  enabledModes : List Mode
  dryRun : Bool
  force : Bool
  skipActiveVacuum : Bool
  limit : Option Int
  orderBy : Option OrderBy
  vacuumOlderThanDays : Int
  analyzeOlderThanDays : Int
  bloatThresholdPct : ℚ
  vacuumThreshold : Option Int
  vacuumScaleFactor : Option ℚ
  minBytes : Int
  maxBytes : Int
  wraparoundMinAge : Int
  wraparoundPct : Option ℚ
  statementTimeoutSeconds : Nat
  maintenanceWorkMemGb : Nat
  vacuumCostDelayMs : Option ℚ
  vacuumCostLimit : Option Int
  lockTimeoutMs : Nat
  lockTimeoutRetries : Nat
  lockTimeoutRetryDelayMs : Nat
  maxReplicaLagSeconds : Option ℚ
  maxReplicaLagWaitSeconds : Nat
  skipXminHorizonCheck : Bool
  alsoTables : List ExplicitTable
  vacuumOptions : VacuumOptions
  shutdownMode : ShutdownMode
  limitPos : ∀ n ∈ limit, 0 < n
  forceOrSkip : ¬(force = true ∧ skipActiveVacuum = true)
  retriesLe : lockTimeoutRetries ≤ maxLockTimeoutRetries
  retryDelay : 1 ≤ lockTimeoutRetryDelayMs ∧ lockTimeoutRetryDelayMs ≤ maxLockTimeoutRetryDelayMs

end PgMaintainer
