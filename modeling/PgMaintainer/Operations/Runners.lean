import PgMaintainer.Interaction.Loop
import PgMaintainer.Operations.Gates
import PgMaintainer.Operations.Statements

/-!
# The eight phase runners

Each runner of `operations.rs` is a loop over its candidates. What the eight have in common is
written once: the checks at the head of a pass (`visitTable`), the set of tables to leave out
(`unlessHandled`), the two gates, and the statement with the handling of its outcome
(`maintainTable`). A `Runner` holds what tells them apart, and each runner keeps its own
definition with the source's values.
-/

namespace PgMaintainer

open Interaction

/-- What tells the runners apart: the name of the operation in messages, its operation and mode
in the logbook, the operation itself, and what is logged about its result. -/
structure Runner where
  name : String
  logOperation : String
  logMode : String
  operation : TableKey → PgM OperationResult
  report : TableKey → OperationResult → RunM Unit

/-- What a pass of a runner's loop leaves behind. -/
abbrev Pass := RunM (Flow OperationSummary)

/-- Record a table whose statement was stopped by a shutdown. The logbook row is written only
if the session survived. -/
def handleShutdownInterrupt (r : Runner) (policy : RunPolicy) (summary : OperationSummary)
    (table : TableKey) (durationMs : Int) : RunM OperationSummary := do
  let summary ← skipTable summary table .interrupted
  if ← isClosed then
    pure summary
  else
    logMaintenanceOperation policy.dryRun
      { schema := table.1, table := table.2, operation := r.logOperation, mode := r.logMode,
        status := "cancelled", deadTuplesBefore := none, deadTuplesReducedApprox := none,
        durationMs := durationMs, errorMessage := some "cancelled by shutdown" }
    pure summary

/-- The head of a pass: a closed session aborts the run, a requested shutdown ends the loop. -/
def visitTable (r : Runner) (count i : Nat) (table : TableKey) (summary : OperationSummary)
    (body : Pass) : Pass := do
  mark (.visit table)
  if ← isClosed then
    .fail (← connectionLostError r.name table (some (i + 1, count)) "connection closed")
  else if ← shutdownRequested then
    pure (.stop summary)
  else
    body

/-- Leave out the tables that an earlier phase handled. `none` is a runner without a set. -/
def unlessHandled (already : Option (List TableKey)) (table : TableKey)
    (summary : OperationSummary) (body : Pass) : Pass :=
  match already with
  | none => body
  | some handled => do
    if table ∈ handled then
      pure (.next (← skipTable summary table .alreadyHandled))
    else
      body

/-- Wait for the replicas, if the gate is on. -/
def afterLagGate (gate : Option ReplicaLagGate) (policy : RunPolicy) (table : TableKey)
    (summary : OperationSummary) (body : Pass) : Pass :=
  match gate with
  | none => body
  | some gate => do
    match ← waitForReplicaLag gate table policy with
    | .proceed => body
    | .skipTable => do pure (.next (← skipTable summary table .replicaLag))
    | .shutdownRequested => pure (.stop summary)

/-- Deal with the sessions that are vacuuming the table. -/
def afterActiveVacuums (policy : RunPolicy) (table : TableKey) (summary : OperationSummary)
    (body : OperationSummary → Pass) : Pass := do
  let (proceed, summary) ← handleActiveVacuums table policy summary
  if proceed then body summary else pure (.next summary)

/-- The statement succeeded: report, write the logbook row, count. -/
def recordSuccess (r : Runner) (policy : RunPolicy) (summary : OperationSummary)
    (table : TableKey) (result : OperationResult) (durationMs : Int) : Pass := do
  r.report table result
  logMaintenanceOperation policy.dryRun
    { schema := table.1, table := table.2, operation := r.logOperation, mode := r.logMode,
      status := "success", deadTuplesBefore := result.deadTuplesBefore,
      deadTuplesReducedApprox := result.deadTuplesReducedApprox,
      durationMs := durationMs, errorMessage := none }
  mark (.tally table .succeeded)
  pure (.next { summary with succeeded := summary.succeeded + 1 })

/-- The statement failed, and neither the session nor a shutdown is the reason: a lock timeout
skips the table, anything else fails it. -/
def recordFailure (r : Runner) (policy : RunPolicy) (summary : OperationSummary)
    (table : TableKey) (err : PgError) (durationMs : Int) : Pass := do
  if isLockTimeout err then
    pure (.next (← skipTable summary table .lockTimeout))
  else
    logMaintenanceOperation policy.dryRun
      { schema := table.1, table := table.2, operation := r.logOperation, mode := r.logMode,
        status := "error", deadTuplesBefore := none, deadTuplesReducedApprox := none,
        durationMs := durationMs, errorMessage := some err.display }
    mark (.tally table .failed)
    pure (.next { summary with failed := summary.failed + 1 })

/-- Maintain one table, or say what would be done. -/
def maintainTable (r : Runner) (policy : RunPolicy) (count i : Nat) (table : TableKey)
    (summary : OperationSummary) : Pass := do
  if policy.dryRun then
    log (.wouldRun r.name table)
    pure (.next summary)
  else
    let start ← now
    let outcome ←
      ((withLockTimeoutRetry policy (r.operation table)).attempt : RunM (Except PgError _))
    let durationMs : Int := (((← now) - start) / 1000000 : Nat)
    match outcome with
    | .ok result => recordSuccess r policy summary table result durationMs
    | .error err =>
      match classifyOpError err (← shutdownRequested) with
      | .connectionLost =>
        .fail (← connectionLostError r.name table (some (i + 1, count)) (describePgError err))
      | .shutdownInterrupted => do
        pure (.stop (← handleShutdownInterrupt r policy summary table durationMs))
      | .lockTimeout | .other => recordFailure r policy summary table err durationMs

/-- A runner's loop over its candidates. -/
def runTables (phase : Phase) (body : Nat → TableKey → OperationSummary → Pass)
    (tables : List TableKey) : RunM OperationSummary := do
  mark (.candidates phase tables)
  Prog.sweep body 0 tables { total := tables.length }

/-- A pass with one lag gate. -/
def gatedPass (r : Runner) (policy : RunPolicy) (gate : Option ReplicaLagGate)
    (already : Option (List TableKey)) (count i : Nat) (table : TableKey)
    (summary : OperationSummary) : Pass :=
  visitTable r count i table summary <|
  unlessHandled already table summary <|
  afterLagGate gate policy table summary <|
  afterActiveVacuums policy table summary fun summary =>
  maintainTable r policy count i table summary

/-! ## What is logged about a success -/

/-- Nothing. -/
def reportNothing (_ : TableKey) (_ : OperationResult) : RunM Unit := pure ()

/-- The change of the dead-tuple estimate. -/
def reportChange (table : TableKey) (result : OperationResult) : RunM Unit := do
  match result.deadTuplesReducedApprox with
  | some n => log (.deadTupleChange "VACUUM" table n none)
  | none => pure ()

/-- The change of the estimate and, if it did not decrease, what holds the horizon back. -/
def reportChangeOrBlocker (policy : RunPolicy) (table : TableKey) (result : OperationResult) :
    RunM Unit := do
  match result.deadTuplesReducedApprox with
  | some n =>
    if n = 0 then
      if policy.checkXminHorizon then
        match ← (describeWorstXminBlocker.attempt : RunM (Except AnyError (Option String))) with
        | .ok (some blocker) => log (.deadTupleChange "VACUUM" table n (some blocker))
        | _ => log (.deadTupleChange "VACUUM" table n none)
      else
        log (.deadTupleChange "VACUUM" table n none)
    else
      log (.deadTupleChange "VACUUM" table n none)
  | none => pure ()

/-- The change of the estimate, if it decreased. -/
def reportDecrease (table : TableKey) (result : OperationResult) : RunM Unit := do
  match result.deadTuplesReducedApprox with
  | some n =>
    if 0 < n then log (.deadTupleChange "VACUUM (ANALYZE)" table n none) else pure ()
  | none => pure ()

/-! ## The runners -/

/-- Vacuum all tables that have never been vacuumed. -/
def runVacuumNeverVacuumed (tables : List TableInfo) (policy : RunPolicy)
    (options : VacuumOptions) (gate : Option ReplicaLagGate) : RunM OperationSummary :=
  runTables .neverVacuumed
    (gatedPass ⟨"VACUUM", "VACUUM", "never-vacuumed", vacuumTable options, reportChange⟩
      policy gate none tables.length)
    (tables.map TableInfo.key)

/-- Analyze all tables that have never been analyzed. -/
def runAnalyzeNeverAnalyzed (tables : List TableInfo) (policy : RunPolicy)
    (gate : Option ReplicaLagGate) : RunM OperationSummary :=
  runTables .neverAnalyzed
    (gatedPass ⟨"ANALYZE", "ANALYZE", "never-analyzed", analyzeTable, reportNothing⟩
      policy gate none tables.length)
    (tables.map TableInfo.key)

/-- Run VACUUM FREEZE on all wraparound candidates. -/
def runFreezeWraparound (tables : List FreezeTableInfo) (policy : RunPolicy)
    (options : VacuumOptions) (gate : Option ReplicaLagGate) : RunM OperationSummary :=
  runTables .preventWraparound
    (gatedPass ⟨"VACUUM FREEZE", "FREEZE", "prevent-wraparound", freezeTable options,
      reportNothing⟩ policy gate none tables.length)
    (tables.map FreezeTableInfo.key)

/-- Run VACUUM on all tables with excessive dead tuples, except those already handled. -/
def runBloatVacuum (tables : List BloatTableInfo) (policy : RunPolicy)
    (alreadyHandled : List TableKey) (options : VacuumOptions) (gate : Option ReplicaLagGate) :
    RunM OperationSummary :=
  runTables .preventBloat
    (gatedPass ⟨"VACUUM (BLOAT)", "VACUUM", "prevent-bloat", vacuumTable options,
      reportChangeOrBlocker policy⟩ policy gate (some alreadyHandled) tables.length)
    (tables.map BloatTableInfo.key)

/-- Run VACUUM on all tables where dead tuples exceed the threshold formula, except those
already vacuumed. -/
def runNeedsVacuum (tables : List NeedsVacuumTableInfo) (policy : RunPolicy)
    (alreadyVacuumed : List TableKey) (options : VacuumOptions) (gate : Option ReplicaLagGate) :
    RunM OperationSummary :=
  runTables .needsVacuum
    (gatedPass ⟨"VACUUM (NEEDS VACUUM)", "VACUUM", "needs-vacuum", vacuumTable options,
      reportChangeOrBlocker policy⟩ policy gate (some alreadyVacuumed) tables.length)
    (tables.map NeedsVacuumTableInfo.key)

/-- Run VACUUM on all tables overdue for vacuuming, except those already vacuumed. -/
def runVacuumOverdue (tables : List OverdueVacuumTableInfo) (policy : RunPolicy)
    (alreadyVacuumed : List TableKey) (options : VacuumOptions) (gate : Option ReplicaLagGate) :
    RunM OperationSummary :=
  runTables .vacuumOverdue
    (gatedPass ⟨"VACUUM (OVERDUE)", "VACUUM", "vacuum-overdue", vacuumTable options,
      reportNothing⟩ policy gate (some alreadyVacuumed) tables.length)
    (tables.map OverdueVacuumTableInfo.key)

/-- Run ANALYZE on all tables overdue for analysis, except those already analyzed. -/
def runAnalyzeOverdue (tables : List OverdueAnalyzeTableInfo) (policy : RunPolicy)
    (alreadyAnalyzed : List TableKey) (gate : Option ReplicaLagGate) : RunM OperationSummary :=
  runTables .analyzeOverdue
    (gatedPass ⟨"ANALYZE (OVERDUE)", "ANALYZE", "analyze-overdue", analyzeTable, reportNothing⟩
      policy gate (some alreadyAnalyzed) tables.length)
    (tables.map OverdueAnalyzeTableInfo.key)

/-- Run VACUUM (ANALYZE) on every explicitly listed table, except those already handled. This
runner's pass goes through the lag gate twice. -/
def runAlsoTables (tables : List ExplicitTable) (policy : RunPolicy)
    (alreadyHandled : List TableKey) (options : VacuumOptions) (gate : Option ReplicaLagGate) :
    RunM OperationSummary :=
  let r : Runner :=
    ⟨"VACUUM ANALYZE", "VACUUM ANALYZE", "also-tables", vacuumAnalyzeTable options,
      reportDecrease⟩
  let count := tables.length
  runTables .alsoTables
    (fun i table summary =>
      visitTable r count i table summary <|
      unlessHandled (some alreadyHandled) table summary <|
      afterLagGate gate policy table summary <|
      afterLagGate gate policy table summary <|
      afterActiveVacuums policy table summary fun summary =>
      maintainTable r policy count i table summary)
    (tables.map ExplicitTable.key)

end PgMaintainer
