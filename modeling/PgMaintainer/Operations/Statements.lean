import PgMaintainer.Session

/-!
# One table's statement

The four statements with their dead-tuple readings, the lock-timeout retry around them, and
the classification of their errors, after `operations.rs` and `vacuum_output.rs`.
-/

namespace PgMaintainer

open Interaction

/-- Result of a table maintenance operation. -/
structure OperationResult where
  deadTuplesBefore : Option Int
  deadTuplesReducedApprox : Option Int
  deriving DecidableEq, Repr

/-- `i64::saturating_sub`. -/
def saturatingSub (a b : Int) : Int := max (-(2 ^ 63)) (min (2 ^ 63 - 1) (a - b))

/-- Estimate how much the dead-tuple count decreased across a VACUUM. -/
def estimateDeadTuplesReduced (nDeadBefore nDeadAfter : Int) : Option Int :=
  let reduced := saturatingSub nDeadBefore nDeadAfter
  if reduced = 0 ∧ 0 < nDeadBefore then some 0
  else if 0 < reduced then some reduced
  else none

/-- Run `statement` between two reads of the dead-tuple count. -/
def betweenDeadTupleCounts (statement : Statement) (table : TableKey) : PgM OperationResult := do
  let deadBefore ← query (.getDeadTupleCount table)
  let _ ← query (.maintain statement table)
  let deadAfter ← query (.getDeadTupleCount table)
  let reduced := estimateDeadTuplesReduced deadBefore deadAfter
  pure ⟨if 0 < deadBefore then some deadBefore else none, reduced⟩

/-- Run `statement` alone. -/
def withoutDeadTupleCounts (statement : Statement) (table : TableKey) : PgM OperationResult := do
  let _ ← query (.maintain statement table)
  pure ⟨none, none⟩

/-- `vacuum_table`. -/
def vacuumTable (options : VacuumOptions) (table : TableKey) : PgM OperationResult :=
  betweenDeadTupleCounts (.vacuum options) table

/-- `vacuum_analyze_table`. -/
def vacuumAnalyzeTable (options : VacuumOptions) (table : TableKey) : PgM OperationResult :=
  betweenDeadTupleCounts (.vacuumAnalyze options) table

/-- `freeze_table`. -/
def freezeTable (options : VacuumOptions) (table : TableKey) : PgM OperationResult :=
  withoutDeadTupleCounts (.freeze options) table

/-- `analyze_table`. -/
def analyzeTable (table : TableKey) : PgM OperationResult :=
  withoutDeadTupleCounts .analyze table

/-- True when a table operation error was caused by `lock_timeout`. -/
def isLockTimeout (err : PgError) : Bool := err.code == some lockNotAvailable

/-- How a failed table operation should be handled. -/
inductive OpErrorKind where
  | lockTimeout
  | connectionLost
  | shutdownInterrupted
  | other
  deriving DecidableEq, Repr

/-- Classify a table-operation error. With a shutdown requested, a cancelled statement or a
dropped session is the expected outcome and takes priority over the lost connection. -/
def classifyOpError (err : PgError) (shutdownRequested : Bool) : OpErrorKind :=
  let lost := isConnectionLostPg err
  if shutdownRequested && (lost || err.code == some queryCanceled) then .shutdownInterrupted
  else if lost then .connectionLost
  else if isLockTimeout err then .lockTimeout
  else .other

/-- An outcome without a shutdown is never an interruption. -/
theorem classify_op_error_calm (err : PgError) :
    classifyOpError err false ≠ .shutdownInterrupted := by
  simp only [classifyOpError, Bool.false_and, Bool.false_eq_true, if_false]
  split
  · nofun
  · split <;> nofun

/-- `u64::saturating_mul(2)`. -/
def saturatingDouble (n : Nat) : Nat := min (2 * n) (2 ^ 64 - 1)

/-- A number of milliseconds, in nanoseconds. -/
def fromMillis (milliseconds : Nat) : Nat := milliseconds * 1000000

/-- The loop of `with_lock_timeout_retry`, with so many retries to go. -/
def retryLoop (op : PgM OperationResult) : Nat → Nat → PgM OperationResult
  -- no retry is left: the last attempt ends the loop as it ended
  | 0, _ => op
  | left + 1, delayMs => do
    match ← (op.attempt : PgM (Except PgError OperationResult)) with
    | .ok result => pure result
    | .error err =>
      if !isLockTimeout err then .fail err
      else if ← shutdownRequested then .fail err
      else
        match ← sleepOrShutdown (fromMillis delayMs) with
        | .shutdown => .fail err
        | .slept => retryLoop op left (saturatingDouble delayMs)

/-- Retry `op` when it fails on `lock_timeout`, up to `lockTimeoutRetries` times, doubling the
delay after each retry. -/
def withLockTimeoutRetry (policy : RunPolicy) (op : PgM OperationResult) :
    PgM OperationResult :=
  retryLoop op policy.lockTimeoutRetries policy.lockTimeoutRetryDelayMs

/-- Insert a maintenance log entry, unless this is a dry run. Failures are ignored. -/
def logMaintenanceOperation (dryRun : Bool) (entry : LogEntry) : RunM Unit := do
  if dryRun then pure ()
  else
    let _ ← call (.insertMaintenanceLog entry)
    pure ()

/-- Log the lost connection once and build the error that aborts the run. -/
def connectionLostError (operation : String) (table : TableKey) (position : Option (Nat × Nat))
    (cause : String) : RunM AnyError := do
  let lost : ConnectionLost := ⟨operation, table.1, table.2, position, cause⟩
  log (.connectionLost lost)
  pure (.ofConnectionLost lost)

/-! ## Vacuum-horizon diagnostics -/

/-- Probe the cluster for what is holding back the vacuum (xmin) horizon. -/
def observeXminHorizon : RunM HorizonObservation := do
  let canRead ← queryContext .getCanReadActivityXmin "Failed to check activity/xmin privileges"
  if !canRead then
    pure .unobservable
  else
    let rows ← queryContext .findXminHorizonBlockers "Failed to read xmin horizon blockers"
    pure (.observed rows)

/-- `{:02}`: at least two digits. -/
def twoDigits (n : Nat) : String := if n < 10 then s!"0{n}" else s!"{n}"

/-- Format a duration for human readability. -/
def formatDuration (totalSecs : Nat) : String :=
  let hours := totalSecs / 3600
  let minutes := totalSecs % 3600 / 60
  let secs := totalSecs % 60
  if 0 < hours then s!"{hours}h{twoDigits minutes}m{twoDigits secs}s"
  else if 0 < minutes then s!"{minutes}m{twoDigits secs}s"
  else s!"{secs}s"

/-- Format an XID age for human readability. -/
def formatXidAge (age : Int) : String := s!"{age} XIDs"

/-- Format a single xmin horizon blocker for a log line. -/
def describeXminBlocker (b : XminHorizonBlocker) : String :=
  if b.holderType = "backend" then
    let detail := b.detail.getD "<unknown>"
    let status := b.status.getD "unknown"
    match b.xactDurationSecs, b.queryDurationSecs with
    | some xactDur, some queryDur =>
      let queryText := b.querySnippet.getD ""
      let xactStr := formatDuration xactDur
      let queryStr := formatDuration queryDur
      if status = "idle" then
        s!"backend PID {b.identifier} ({detail}), idle in transaction {xactStr} " ++
          s!"(last query {queryStr} ago)"
      else
        s!"backend PID {b.identifier} ({detail}), running for {xactStr}: {queryText}"
    | some xactDur, none =>
      s!"backend PID {b.identifier} ({detail}), transaction open for {formatDuration xactDur}"
    | _, _ => s!"backend PID {b.identifier}"
  else if b.holderType = "replication_slot" then
    let slotType := b.detail.getD "unknown"
    let active := b.status.getD "unknown"
    s!"replication slot '{b.identifier}' ({slotType}, active: {active}), " ++
      s!"XID age {formatXidAge b.xidAge}"
  else if b.holderType = "prepared_xact" then
    let owner := b.detail.getD "unknown"
    s!"prepared transaction '{b.identifier}' (owner: {owner}), XID age {formatXidAge b.xidAge}"
  else
    s!"{b.holderType} {b.identifier}"

/-- Check the vacuum horizon and describe the worst blocker, if any. -/
def describeWorstXminBlocker : RunM (Option String) := do
  match ← observeXminHorizon with
  | .unobservable => pure none
  | .observed [] => pure none
  | .observed (worst :: _) => pure (some (describeXminBlocker worst))

end PgMaintainer
