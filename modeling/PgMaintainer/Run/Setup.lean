import PgMaintainer.Binary64
import PgMaintainer.Operations.Discovery
import PgMaintainer.Operations.Gates
import PgMaintainer.Operations.Statements
import PgMaintainer.Text

/-!
# The start of a run

Everything `run` does on its session before the first phase: the connection and its session
settings, the schema list and the lock derived from it, the logbook schema, the throttling,
and the observations made once up front. What comes out is the `Plan` of the phases.
-/

namespace PgMaintainer

open Binary64 Interaction

/-! ## Connection -/

/-- `MIN_SUPPORTED_PG_VERSION_NUM`. -/
def minSupportedPgVersionNum : Int := 140000

/-- Format a `server_version_num` for display. -/
def formatPgVersion (versionNum : Int) : String :=
  if 100000 ≤ versionNum then
    s!"{versionNum.tdiv 10000}.{versionNum.tmod 10000}"
  else
    s!"{versionNum.tdiv 10000}.{(versionNum.tdiv 100).tmod 100}.{versionNum.tmod 100}"

/-- The server's numeric version. -/
def getServerVersionNum : RunM Int :=
  queryContext .getServerVersionNum "Failed to read server_version_num"

/-- The error for a server that is too old. -/
def unsupportedServer (versionNum : Int) : AnyError :=
  .new (s!"pg-maintainer requires PostgreSQL 14+ — connected server reports " ++
    s!"{formatPgVersion versionNum}. Session settings this tool depends on " ++
    "(e.g. idle_session_timeout) were introduced in PostgreSQL 14; older servers are not " ++
    "supported.")

/-- The error for a standby. -/
def standbyServer : AnyError :=
  .new ("pg-maintainer refuses to run against a standby: this connection is to a server in " ++
    "recovery (pg_is_in_recovery() = true), not a primary. Point --host/--dsn (or the " ++
    "connection's load balancer/proxy) at the primary instead.")

/-- Open a connection, check the server, then set basic session parameters. -/
def connect (statementTimeoutSeconds : Nat) : RunM Unit := do
  queryContext .connect "Failed to connect to PostgreSQL"
  let versionNum ← getServerVersionNum
  if versionNum < minSupportedPgVersionNum then
    .fail (unsupportedServer versionNum)
  else if ← queryContext .getIsInRecovery "Failed to read pg_is_in_recovery()" then
    .fail standbyServer
  else
    queryContext (.setStatementTimeout statementTimeoutSeconds)
      "Failed to set statement_timeout"
    queryContext .setIdleSessionTimeout "Failed to set idle_session_timeout"
    queryContext .setApplicationName "Failed to set application_name"

/-- Set `vacuum_buffer_usage_limit` to 1/16 of `shared_buffers`. -/
def setVacuumBufferUsageLimit : RunM Unit := do
  let sharedBuffersBytes ← queryContext .getSharedBuffers "Failed to read shared_buffers"
  let limitBytes := max (sharedBuffersBytes.tdiv 16) (128 * 1024)
  queryContext (.setVacuumBufferUsageLimit (limitBytes.tdiv 1024))
    "Failed to set vacuum_buffer_usage_limit"

/-- The whole `max_parallel_workers` pool, unless a degree was asked for. -/
def effectiveParallelWorkers (requested : Option Nat) (maxParallelWorkers : Int) : Int :=
  match requested with
  | some n => min (min n (2 ^ 31 - 1)) maxParallelWorkers
  | none => maxParallelWorkers

/-- Set `max_parallel_maintenance_workers`. -/
def setMaxParallelMaintenanceWorkers (requested : Option Nat) : RunM Unit := do
  let maxParallelWorkers ← queryContext .getMaxParallelWorkers
    "Failed to read max_parallel_workers"
  queryContext
    (.setMaxParallelMaintenanceWorkers (effectiveParallelWorkers requested maxParallelWorkers))
    "Failed to set max_parallel_maintenance_workers"

/-! ## The logbook schema -/

/-- Create the logbook schema and its table unless they exist. The comments are best effort. -/
def ensureLogbookSchema : RunM Unit := do
  let found ← withContext
    (queryContext (.schemaExists logbookSchemaName) "Failed to check if schema exists")
    "Failed to check logbook schema existence"
  if !found then
    queryContext .createSchema "Failed to create logbook schema"
  queryContext .createLogbookTable "Failed to create logbook table"
  queryContext .createIndexTable "Failed to create logbook table index"
  queryContext .createIndexTime "Failed to create logbook timestamp index"
  let _ ← call .commentBefore
  let _ ← call .commentRemoved
  pure ()

/-! ## Schemas and thresholds -/

/-- The entries of `--schema`: split at commas, trimmed, the empty ones dropped. -/
def splitSchemas (schema : String) : List String :=
  (((schema.toList.splitOn ',').map Text.trim).filter (· ≠ [])).map String.ofList

/-- The schemas asked for: discovered, or given. -/
def requestedSchemas (settings : RunSettings) : RunM (List String) := do
  if settings.discoverAllSchemas && settings.schema.isNone then
    let discovered ← discoverAllUserSchemas
    if discovered.isEmpty then
      .fail (.new "No user schemas found. System schemas are excluded.")
    else
      pure discovered
  else
    pure (splitSchemas (settings.schema.getD ""))

/-- The schemas of a run: those asked for, without the logbook schema. -/
def resolveSchemas (settings : RunSettings) : RunM (List String) := do
  let schemas := (← requestedSchemas settings).filter (· ≠ logbookSchemaName)
  if schemas.isEmpty then
    .fail (.new "No schemas to process.")
  else
    pure schemas

/-- The XID age from which a table is a wraparound candidate. The part of the server's limit is
computed in `f64` and cut to an integer. -/
def effectiveWraparoundMinAge (settings : RunSettings) : RunM Int := do
  match settings.wraparoundPct with
  | some pct => do
    let freezeMaxAge ← getFreezeMaxAge
    pure (F64.round (pct / 100) * F64.round freezeMaxAge).toI64
  | none => pure settings.wraparoundMinAge

/-- The replication-lag gate, with the state of the cluster observed once. -/
def openLagGate (settings : RunSettings) : RunM (Option ReplicaLagGate) := do
  match settings.maxReplicaLagSeconds with
  | some threshold => do
    withContext logInitialReplicaLag "Failed to read replication lag"
    pure (some (.new threshold settings.maxReplicaLagWaitSeconds))
  | none => pure none

/-! ## The plan -/

/-- What the phases work with. -/
structure Plan where
  settings : RunSettings
  schemas : List String
  wraparoundMinAge : Int
  lagGate : Option ReplicaLagGate
  alsoTables : List ExplicitTable

/-- Set the cost delay and the cost limit, where they are given. -/
def applyThrottle (settings : RunSettings) : RunM Unit := do
  if let some delayMs := settings.vacuumCostDelayMs then
    queryContext (.setVacuumCostDelay delayMs) "Failed to set vacuum_cost_delay"
  if let some costLimit := settings.vacuumCostLimit then
    queryContext (.setVacuumCostLimit costLimit) "Failed to set vacuum_cost_limit"

/-- Set the buffer limit and the parallel workers, best effort. The limits of the server are
read for a log line only. -/
def applyBestEffort (parallel : Option Nat) : RunM Unit := do
  let _ ← (setVacuumBufferUsageLimit.attempt : RunM (Except AnyError Unit))
  match ← ((setMaxParallelMaintenanceWorkers parallel).attempt : RunM (Except AnyError Unit)) with
  | .ok _ =>
    if parallel.isSome then
      let _ ← call .getParallelLimits
      pure ()
    else
      pure ()
  | .error _ => pure ()

/-- Set what throttles and bounds the session's statements. -/
def applySessionSettings (settings : RunSettings) : RunM Unit := do
  queryContext (.setMaintenanceWorkMem settings.maintenanceWorkMemGb)
    "Failed to set maintenance_work_mem"
  applyThrottle settings
  applyBestEffort settings.vacuumOptions.parallel
  queryContext (.setLockTimeout settings.lockTimeoutMs) "Failed to set lock_timeout"

/-- Check what holds the vacuum horizon back, unless told not to. -/
def checkXminHorizon (settings : RunSettings) : RunM Unit := do
  if settings.skipXminHorizonCheck then
    pure ()
  else
    let _ ← withContext observeXminHorizon "Failed to check the vacuum horizon"
    pure ()

/-- `run`, up to the first phase. -/
def setup (settings : RunSettings) : RunM Plan := do
  withContext (connect settings.statementTimeoutSeconds) "Failed to connect to PostgreSQL"
  let _ ← queryContext .getBackendPid "Failed to read pg_backend_pid()"
  let schemas ← resolveSchemas settings
  withContext (tryAcquireSchemaLock schemas) "Failed to acquire concurrency guard"
  -- without the logbook the run goes on
  let _ ← (ensureLogbookSchema.attempt : RunM (Except AnyError Unit))
  applySessionSettings settings
  let wraparoundMinAge ← effectiveWraparoundMinAge settings
  let lagGate ← openLagGate settings
  checkXminHorizon settings
  let alsoTables ← withContext (resolveExplicitTables settings.alsoTables schemas)
    "Failed to resolve --also-tables entries"
  pure ⟨settings, schemas, wraparoundMinAge, lagGate, alsoTables⟩

end PgMaintainer
