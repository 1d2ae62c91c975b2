import PgMaintainer.Session

/-!
# The gates before a table

The replication-lag gate and the active-vacuum gate, after `operations.rs`. Both may skip a
table; neither runs a maintenance statement.
-/

namespace PgMaintainer

open Interaction

/-! ## Replication lag -/

/-- Read every standby's replay lag from the primary. -/
def observeReplicaLag : RunM LagObservation := do
  let canRead ← queryContext .getCanReadReplicationStats
    "Failed to check replication-stats privileges"
  if !canRead then
    pure .unobservable
  else
    let rows ← queryContext .getReplicationLag "Failed to read pg_stat_replication"
    if rows.isEmpty then
      pure .noReplicas
    else
      pure (.observed rows)

/-- A number of seconds, in nanoseconds. -/
def fromSecs (seconds : Nat) : Nat := seconds * 1000000000

/-- Add the time since `started` to the gate's total. The narrowing to 64 bits (`as u64`) and the
wrap of the gate's counters are left out: only the last log line reads them. -/
def addWaited (started : Nat) : RunM Unit := do
  let waited := (← now) - started
  gateAddWaited (waited / 1000000)

/-- The wait for a table is over: it is skipped. -/
def giveUpWaiting (started : Nat) : RunM LagGateVerdict := do
  addWaited started
  gateRecordSkip
  pure .skipTable

/-- The polling loop of `wait_for_replica_lag`. Every round sleeps for at least one second of
the budget or for what is left of it, so after `maxWaitSeconds` rounds the budget is spent and
the test at the loop's head holds: that is the case `0`. -/
def waitForReplicaLagLoop (gate : ReplicaLagGate) (table : TableKey) (started : Nat) :
    Nat → RunM LagGateVerdict
  | 0 => giveUpWaiting started
  | rounds + 1 => do
    let deadline := fromSecs gate.maxWaitSeconds
    let poll := fromSecs (max gate.pollIntervalSeconds 1)
    -- never sleep past the deadline
    let remaining := deadline - ((← now) - started)
    if remaining = 0 then
      giveUpWaiting started
    else
      match ← sleepOrShutdown (min poll remaining) with
      | .shutdown => do
        addWaited started
        pure .shutdownRequested
      | .slept => do
        let current ← observeReplicaLag
        if !current.exceeds gate.thresholdSeconds then
          addWaited started
          log (.lagRecovered table)
          pure .proceed
        else if deadline ≤ (← now) - started then
          giveUpWaiting started
        else
          waitForReplicaLagLoop gate table started rounds

/-- Hold maintenance on one table until replication lag falls under the threshold. -/
def waitForReplicaLag (gate : ReplicaLagGate) (table : TableKey) (policy : RunPolicy) :
    RunM LagGateVerdict := do
  if ← gateIsDisabled then
    pure .proceed
  else
    let observation ← observeReplicaLag
    match observation with
    | .unobservable => do
      gateDisable
      pure .proceed
    | .noReplicas => do
      gateDisable
      pure .proceed
    | .observed _ =>
      if !observation.exceeds gate.thresholdSeconds then
        pure .proceed
      else if policy.dryRun then
        pure .proceed
      else if gate.maxWaitSeconds = 0 then do
        gateRecordSkip
        pure .skipTable
      else do
        let started ← now
        waitForReplicaLagLoop gate table started gate.maxWaitSeconds

/-- Observe the cluster's replication state once, before any maintenance runs. -/
def logInitialReplicaLag : RunM Unit := do
  match ← observeReplicaLag with
  | .unobservable => gateDisable
  | .noReplicas => gateDisable
  | .observed _ => pure ()

/-! ## Active vacuums -/

/-- `BACKEND_TYPE_AUTOVACUUM_WORKER`. -/
def backendTypeAutovacuumWorker : String := "autovacuum worker"

/-- The sessions that run a VACUUM on the table, each with its backend type. The error is
formatted into a new message. -/
def findActiveVacuums (table : TableKey) : RunM (List (Int × String)) := do
  match ← call (.findActiveVacuums table) with
  | .ok rows => pure rows
  | .error err =>
    .fail (.new
      s!"Failed to check active vacuums on \"{table.1}\".\"{table.2}\" : {err.display}")

/-- Terminate the given backends, one after the other. -/
def terminateBackends : List Int → RunM Unit
  | [] => pure ()
  | pid :: pids => do
    let _ ← queryContext (.terminateBackend pid) s!"pg_terminate_backend({pid}) failed"
    terminateBackends pids

/-- Terminate the given backends; a dry run only says that it would. -/
def terminateInRealRun (policy : RunPolicy) (pids : List Int) : RunM Unit :=
  if policy.dryRun then pure () else terminateBackends pids

/-- Count a table as skipped. -/
def skipTable (summary : OperationSummary) (table : TableKey) (reason : SkipReason) :
    RunM OperationSummary := do
  mark (.tally table (.skipped reason))
  pure { summary with skipped := summary.skipped + 1 }

/-- Check for active vacuums on a table: whether to proceed, and the summary. Autovacuum
workers are terminated always, manual sessions under `force` only. -/
def handleActiveVacuums (table : TableKey) (policy : RunPolicy) (summary : OperationSummary) :
    RunM (Bool × OperationSummary) := do
  let activeSessions ← findActiveVacuums table
  if activeSessions.isEmpty then
    pure (true, summary)
  else if policy.skipActiveVacuum then
    pure (false, ← skipTable summary table .activeVacuum)
  else
    let autovacuumPids :=
      (activeSessions.filter fun s => s.2 == backendTypeAutovacuumWorker).map Prod.fst
    let manualPids :=
      (activeSessions.filter fun s => s.2 != backendTypeAutovacuumWorker).map Prod.fst
    terminateInRealRun policy autovacuumPids
    if manualPids.isEmpty then
      pure (true, summary)
    else if policy.force then
      terminateInRealRun policy manualPids
      pure (true, summary)
    else
      pure (false, ← skipTable summary table .activeVacuum)

end PgMaintainer
