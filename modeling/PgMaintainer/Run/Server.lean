import PgMaintainer.Interaction.World
import PgMaintainer.Run.Phases

/-!
# Undisturbed runs

`calm` is the world in which no shutdown is requested; everything else may answer anything. A
`Server` answers every call from fixed lists: runs against it are executions in `calm`, which is
how a property of all runs is shown to fail.
-/

namespace PgMaintainer

open Interaction

/-- No shutdown is requested, and so no sleep is cut short. -/
def Op.Undisturbed : (op : Op) → op.Answer → Prop
  | .shutdownRequested, requested | .isRequested, requested => requested = false
  | .sleepOrShutdown _, wake => wake = .slept
  | _, _ => True

/-- The world without shutdowns. -/
def calm : World session where
  State := Unit
  Drift _ _ := False
  Answers _ op answer _ := op.Undisturbed answer

/-- Playing a program against answers without a disturbance is an execution. -/
theorem exec_answers {ε α : Type} {answer : (op : Op) → op.Answer}
    (h : ∀ op : Op, op.Undisturbed (answer op)) (p : Prog session ε α) :
    Exec calm () p (p.play calm (fun _ op => (answer op, ())) ()).1 ()
      (.ofExcept (p.play calm (fun _ op => (answer op, ())) ()).2.2) :=
  Prog.exec_play (W := calm) (fun _ op => (answer op, ())) (fun _ op => h op) p ()

/-- What the server returns to the queries for candidates, and which of the explicit tables it
knows. -/
structure Server where
  neverVacuumed : List TableInfo := []
  neverAnalyzed : List TableInfo := []
  wraparound : List FreezeTableInfo := []
  bloat : List BloatTableInfo := []
  needsVacuum : List NeedsVacuumTableInfo := []
  needsVacuumMaxThr : List NeedsVacuumTableInfo := []
  vacuumOverdue : List OverdueVacuumTableInfo := []
  analyzeOverdue : List OverdueAnalyzeTableInfo := []
  existing : List TableKey := []

namespace Server

/-- The row of every call. Nothing is vacuuming, lagging or dead. -/
def row (server : Server) : (c : Call) → c.Row
  | .getServerVersionNum => (160000 : Int)
  | .getBackendPid | .getSharedBuffers | .getMaxParallelWorkers | .getFreezeMaxAge
  | .getVacuumMaxThreshold | .getDeadTupleCount _ => (0 : Int)
  | .getIsInRecovery => false
  | .tryAdvisoryLock _ | .schemaExists _ | .getCanReadReplicationStats
  | .getCanReadActivityXmin => true
  | .getAllUserSchemas => ([] : List String)
  | .hashtext _ => (0 : Int32)
  | .getParallelLimits => ("", "")
  | .getVacuumSettings => ((50, 1 / 5) : Int × ℚ)
  | .findNeverVacuumed _ => server.neverVacuumed
  | .findNeverAnalyzed _ => server.neverAnalyzed
  | .findWraparoundCandidates _ _ => server.wraparound
  | .findBloatCandidates _ _ _ => server.bloat
  | .findNeedsVacuum _ _ _ => server.needsVacuum
  | .findNeedsVacuumMaxThr _ _ _ _ _ _ => server.needsVacuumMaxThr
  | .findVacuumOverdue _ _ => server.vacuumOverdue
  | .findAnalyzeOverdue _ _ => server.analyzeOverdue
  | .findExplicitTables _ _ => server.existing
  | .getReplicationLag => ([] : List StandbyLag)
  | .findActiveVacuums _ => ([] : List (Int × String))
  | .findXminHorizonBlockers => ([] : List XminHorizonBlocker)
  | .connect | .setStatementTimeout _ | .setIdleSessionTimeout | .setApplicationName
  | .createSchema | .createLogbookTable | .createIndexTable | .createIndexTime | .commentBefore
  | .commentRemoved | .setMaintenanceWorkMem _ | .setVacuumCostDelay _ | .setVacuumCostLimit _
  | .setVacuumBufferUsageLimit _ | .setMaxParallelMaintenanceWorkers _ | .setLockTimeout _
  | .terminateBackend _ | .maintain _ _ | .insertMaintenanceLog _ => ()

/-- The answer to every operation: the calls succeed, and no shutdown is requested. -/
def answer (server : Server) : (op : Op) → op.Answer
  | .call c => .ok (server.row c)
  | .isClosed | .shutdownRequested | .isRequested | .gateIsDisabled => false
  | .sleepOrShutdown _ => .slept
  | .now => (0 : Nat)
  | .gateDisable | .gateAddWaited _ | .gateRecordSkip | .log _ | .mark _ => ()

/-- No answer is a disturbance. -/
theorem answer_undisturbed (server : Server) (op : Op) : op.Undisturbed (server.answer op) := by
  cases op <;> simp [answer, Op.Undisturbed]

/-- The server as a script. -/
def script (server : Server) : Unit → (op : Op) → op.Answer × Unit :=
  fun _ op => (server.answer op, ())

/-- The trace of a run against the server. -/
def trace (server : Server) (settings : RunSettings) : Trace calm :=
  ((run settings).play calm server.script ()).1

/-- How the run ends. -/
def result (server : Server) (settings : RunSettings) : Except AnyError Nat :=
  ((run settings).play calm server.script ()).2.2

/-- A run against the server is an execution. -/
theorem exec (server : Server) (settings : RunSettings) :
    Exec calm () (run settings) (server.trace settings) () (.ofExcept (server.result settings)) :=
  exec_answers server.answer_undisturbed (run settings)

/-- The execution, cut at one of its operations. -/
theorem exec_at (server : Server) (settings : RunSettings) {i : Nat} {m : Moment calm}
    (hi : (server.trace settings)[i]? = some m) :
    Exec calm () (run settings)
      ((server.trace settings).take i ++ m :: (server.trace settings).drop (i + 1)) ()
      (.ofExcept (server.result settings)) :=
  trace_split hi ▸ server.exec settings

end Server

/-- Settings with the modes and explicit tables given, and the defaults of the command line. -/
def defaultSettings (modes : List Mode) (alsoTables : List ExplicitTable) : RunSettings where
  schema := some "public"
  discoverAllSchemas := false
  table := none
  enabledModes := modes
  dryRun := false
  force := false
  skipActiveVacuum := false
  limit := none
  orderBy := none
  vacuumOlderThanDays := 1
  analyzeOlderThanDays := 1
  bloatThresholdPct := 80
  vacuumThreshold := none
  vacuumScaleFactor := none
  minBytes := 0
  maxBytes := 2 ^ 63 - 1
  wraparoundMinAge := 200000000
  wraparoundPct := none
  statementTimeoutSeconds := 0
  maintenanceWorkMemGb := 1
  vacuumCostDelayMs := none
  vacuumCostLimit := none
  lockTimeoutMs := 10
  lockTimeoutRetries := 0
  lockTimeoutRetryDelayMs := 50
  maxReplicaLagSeconds := none
  maxReplicaLagWaitSeconds := 300
  skipXminHorizonCheck := true
  alsoTables := alsoTables
  vacuumOptions := ⟨true, false, false, none, none⟩
  shutdownMode := .cancel
  limitPos := by simp
  forceOrSkip := by simp
  retriesLe := by decide
  retryDelay := by decide

/-- A server with one never-vacuumed table. -/
def oneTable : Server where
  neverVacuumed := [⟨"public", "t", 10, 0, 8192, none⟩]

end PgMaintainer
