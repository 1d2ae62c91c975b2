import PgMaintainer.DbError
import PgMaintainer.Interaction.Prog
import PgMaintainer.Types

/-!
# What a run does outside itself

The operations of the main program, one for every point at which it awaits something or reads
state it shares: a database call on its one session, the two shared shutdown flags, a sleep
that a shutdown may cut short, the clock, the lag gate's atomics, and the log.

`Op.mark` is the one operation without a counterpart in the source. It records where a runner
stands (its candidate list, the table it turns to, the counter it changes), answers nothing
and changes nothing, so that a trace shows them.
-/

namespace PgMaintainer

open Interaction

/-- Which candidates a discovery query returns: all, ordered and limited, or one table by
name, in which case the code passes neither order nor limit. -/
inductive DiscoveryScope where
  | table (name : String)
  | all (orderBy : Option OrderBy) (limit : Int)
  deriving DecidableEq, Repr

/-- The parameters every discovery query has. -/
structure Discovery where
  schemas : List String
  scope : DiscoveryScope
  minBytes : Int
  maxBytes : Int
  deriving DecidableEq, Repr

/-- A row for the maintenance logbook. -/
structure LogEntry where
  schema : String
  table : String
  operation : String
  mode : String
  status : String
  deadTuplesBefore : Option Int
  deadTuplesReducedApprox : Option Int
  durationMs : Int
  errorMessage : Option String
  deriving DecidableEq, Repr

/-- The statements that maintain a table. -/
inductive Statement where
  | vacuum (options : VacuumOptions)
  | freeze (options : VacuumOptions)
  | vacuumAnalyze (options : VacuumOptions)
  | analyze
  deriving DecidableEq, Repr

namespace Statement

/-- VACUUM, VACUUM FREEZE and VACUUM (ANALYZE). -/
def isVacuum : Statement → Bool
  | .analyze => false
  | _ => true

/-- ANALYZE and VACUUM (ANALYZE). -/
def isAnalyze : Statement → Bool
  | .vacuumAnalyze _ | .analyze => true
  | _ => false

end Statement

/-- A database call on the main session. -/
inductive Call where
  -- opening the session
  | connect
  | getServerVersionNum
  | getIsInRecovery
  | setStatementTimeout (seconds : Nat)
  | setIdleSessionTimeout
  | setApplicationName
  | getBackendPid
  -- schemas and the concurrency guard
  | getAllUserSchemas
  | hashtext (text : String)
  | tryAdvisoryLock (lockId : Int32)
  -- the logbook schema
  | schemaExists (name : String)
  | createSchema
  | createLogbookTable
  | createIndexTable
  | createIndexTime
  | commentBefore
  | commentRemoved
  -- session settings
  | setMaintenanceWorkMem (gb : Nat)
  | setVacuumCostDelay (ms : ℚ)
  | setVacuumCostLimit (limit : Int)
  | getSharedBuffers
  | setVacuumBufferUsageLimit (kb : Int)
  | getMaxParallelWorkers
  | setMaxParallelMaintenanceWorkers (workers : Int)
  | getParallelLimits
  | setLockTimeout (ms : Nat)
  -- settings reads
  | getFreezeMaxAge
  | getVacuumSettings
  | getVacuumMaxThreshold
  -- discovery
  | findNeverVacuumed (query : Discovery)
  | findNeverAnalyzed (query : Discovery)
  | findWraparoundCandidates (minAge : Int) (query : Discovery)
  | findBloatCandidates (thresholdPct : ℚ) (minDeadTup : Int) (query : Discovery)
  | findNeedsVacuum (threshold : Int) (scaleFactor : ℚ) (query : Discovery)
  | findNeedsVacuumMaxThr (pg18 : Bool) (schemas : List String) (maxThreshold : ℚ)
      (minBytes maxBytes : Int) (table : Option String)
  | findVacuumOverdue (days : Int) (query : Discovery)
  | findAnalyzeOverdue (days : Int) (query : Discovery)
  | findExplicitTables (schemas tables : List String)
  -- the gates before a table
  | getCanReadReplicationStats
  | getReplicationLag
  | findActiveVacuums (table : TableKey)
  | terminateBackend (pid : Int)
  -- one table
  | getDeadTupleCount (table : TableKey)
  | maintain (statement : Statement) (table : TableKey)
  | insertMaintenanceLog (entry : LogEntry)
  -- the vacuum horizon
  | getCanReadActivityXmin
  | findXminHorizonBlockers
  deriving DecidableEq, Repr

/-- What a call that succeeds returns. -/
abbrev Call.Row : Call → Type
  | .getServerVersionNum | .getBackendPid | .getSharedBuffers | .getMaxParallelWorkers
  | .getFreezeMaxAge | .getVacuumMaxThreshold | .getDeadTupleCount _ => Int
  | .getIsInRecovery | .tryAdvisoryLock _ | .schemaExists _ | .getCanReadReplicationStats
  | .getCanReadActivityXmin => Bool
  | .getAllUserSchemas => List String
  | .hashtext _ => Int32
  | .getParallelLimits => String × String
  | .getVacuumSettings => Int × ℚ
  | .findNeverVacuumed _ | .findNeverAnalyzed _ => List TableInfo
  | .findWraparoundCandidates _ _ => List FreezeTableInfo
  | .findBloatCandidates _ _ _ => List BloatTableInfo
  | .findNeedsVacuum _ _ _ | .findNeedsVacuumMaxThr _ _ _ _ _ _ => List NeedsVacuumTableInfo
  | .findVacuumOverdue _ _ => List OverdueVacuumTableInfo
  | .findAnalyzeOverdue _ _ => List OverdueAnalyzeTableInfo
  | .findExplicitTables _ _ => List TableKey
  | .getReplicationLag => List StandbyLag
  | .findActiveVacuums _ => List (Int × String)
  | .findXminHorizonBlockers => List XminHorizonBlocker
  | _ => Unit

/-- The eight phases of a run: the seven modes and `--also-tables`. -/
inductive Phase where
  | neverVacuumed
  | neverAnalyzed
  | preventWraparound
  | preventBloat
  | needsVacuum
  | vacuumOverdue
  | analyzeOverdue
  | alsoTables
  deriving DecidableEq, Repr

/-- The log lines that report what a run did, as data. -/
inductive LogLine where
  /-- The `═══ … ═══` header of a phase. -/
  | phaseStarted (phase : Phase)
  /-- `[DRY RUN] Would run: …` -/
  | wouldRun (operation : String) (table : TableKey)
  /-- The change of the dead-tuple estimate, a warning when it is zero. -/
  | deadTupleChange (operation : String) (table : TableKey) (reduced : Int)
      (blockedBy : Option String)
  | lagRecovered (table : TableKey)
  | connectionLost (lost : ConnectionLost)
  | completed (total succeeded failed : Nat)
  | terminatedBySignal
  deriving DecidableEq, Repr

/-- Why a table was counted as skipped. -/
inductive SkipReason where
  | alreadyHandled
  | replicaLag
  | activeVacuum
  | lockTimeout
  | interrupted
  deriving DecidableEq, Repr

/-- The counter of the summary that a table went into. -/
inductive Tally where
  | succeeded
  | failed
  | skipped (reason : SkipReason)
  deriving DecidableEq, Repr

/-- Where a runner stands. -/
inductive Mark where
  /-- The runner of this phase was called with these candidates. -/
  | candidates (phase : Phase) (tables : List TableKey)
  /-- The runner's loop turned to this table. -/
  | visit (table : TableKey)
  /-- A counter went up by one for this table. -/
  | tally (table : TableKey) (tally : Tally)
  deriving DecidableEq, Repr

/-- How a `select!` between a sleep and a change of the shutdown flag ended. -/
inductive Wake where
  | slept
  | shutdown
  deriving DecidableEq, Repr

/-- The operations of the main program. -/
inductive Op where
  | call (call : Call)
  /-- `client.is_closed()` -/
  | isClosed
  /-- `*shutdown_rx.borrow()` -/
  | shutdownRequested
  /-- `shutdown::is_requested()` -/
  | isRequested
  /-- `select!` of a sleep of so many nanoseconds and `shutdown_rx.changed()` -/
  | sleepOrShutdown (nanoseconds : Nat)
  /-- `Instant::now()`, in nanoseconds -/
  | now
  /-- The atomics of `ReplicaLagGate`. -/
  | gateIsDisabled
  | gateDisable
  | gateAddWaited (milliseconds : Nat)
  | gateRecordSkip
  | log (line : LogLine)
  | mark (mark : Mark)
  deriving DecidableEq

/-- What each operation answers. -/
abbrev Op.Answer : Op → Type
  | .call c => Except PgError c.Row
  | .isClosed | .shutdownRequested | .isRequested | .gateIsDisabled => Bool
  | .sleepOrShutdown _ => Wake
  | .now => Nat
  | .gateDisable | .gateAddWaited _ | .gateRecordSkip | .log _ | .mark _ => Unit

/-- The signature of the main program. -/
abbrev session : Signature := ⟨Op, Op.Answer⟩

instance : DecidableEq session.Op := inferInstanceAs (DecidableEq Op)

/-- A part of the main program that may fail with an `anyhow` error. -/
abbrev RunM := Prog session AnyError

/-- A part of the main program that may fail with a driver error. -/
abbrev PgM := Prog session PgError

section Requests

variable {ε : Type}

/-- Make a database call and keep its outcome. -/
def call (c : Call) : Prog session ε (Except PgError c.Row) := .request (S := session) (.call c)

/-- Make a database call; its error goes up as it is. -/
def query (c : Call) : PgM c.Row := do
  Prog.ofExcept (← call c)

/-- Make a database call; its error goes up with a context on top. -/
def queryContext (c : Call) (context : String) : RunM c.Row := do
  match ← call c with
  | .ok row => pure row
  | .error err => .fail ((AnyError.ofPg err).context context)

/-- Whether the driver knows the session to be closed. -/
def isClosed : Prog session ε Bool := .request (S := session) .isClosed

/-- The shutdown flag the phase loops watch. -/
def shutdownRequested : Prog session ε Bool := .request (S := session) .shutdownRequested

/-- The flag the exit code depends on. -/
def isRequested : Prog session ε Bool := .request (S := session) .isRequested

/-- Sleep, or be woken by a change of the shutdown flag. -/
def sleepOrShutdown (nanoseconds : Nat) : Prog session ε Wake :=
  .request (S := session) (.sleepOrShutdown nanoseconds)

/-- The clock. -/
def now : Prog session ε Nat := .request (S := session) .now

/-- `ReplicaLagGate::is_disabled`. -/
def gateIsDisabled : Prog session ε Bool := .request (S := session) .gateIsDisabled

/-- `ReplicaLagGate::disable`. -/
def gateDisable : Prog session ε Unit := .request (S := session) .gateDisable

/-- `ReplicaLagGate::add_waited`. -/
def gateAddWaited (milliseconds : Nat) : Prog session ε Unit :=
  .request (S := session) (.gateAddWaited milliseconds)

/-- `ReplicaLagGate::record_skip`. -/
def gateRecordSkip : Prog session ε Unit := .request (S := session) .gateRecordSkip

/-- Write a log line. -/
def log (line : LogLine) : Prog session ε Unit := .request (S := session) (.log line)

/-- Record where a runner stands. -/
def mark (m : Mark) : Prog session ε Unit := .request (S := session) (.mark m)

end Requests

/-- `.context(text)` on the result of a part of the program. -/
def withContext {α : Type} (p : RunM α) (text : String) : RunM α := do
  match ← (p.attempt : RunM (Except AnyError α)) with
  | .ok value => pure value
  | .error err => .fail (err.context text)

end PgMaintainer
