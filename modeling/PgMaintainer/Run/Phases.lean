import PgMaintainer.Operations.Runners
import PgMaintainer.Run.Setup

/-!
# The eight phases and the end of a run

Each phase asks for its candidates and hands them to its runner. Three sets of tables connect
the phases; a phase's insertions come before or after its runner as in the source, which
decides what the runner itself consults.
-/

namespace PgMaintainer

open Interaction

/-- The tables already handled, vacuumed and analyzed. A set is a list read through `∈`. -/
structure Seen where
  handled : List TableKey := []
  vacuumed : List TableKey := []
  analyzed : List TableKey := []

namespace Seen

/-- Insert into `already_handled` and `already_vacuumed`. -/
def addVacuumed (seen : Seen) (tables : List TableKey) : Seen :=
  { seen with handled := seen.handled ++ tables, vacuumed := seen.vacuumed ++ tables }

/-- Insert into `already_handled` and `already_analyzed`. -/
def addAnalyzed (seen : Seen) (tables : List TableKey) : Seen :=
  { seen with handled := seen.handled ++ tables, analyzed := seen.analyzed ++ tables }

/-- Insert into `already_handled`. -/
def addHandled (seen : Seen) (tables : List TableKey) : Seen :=
  { seen with handled := seen.handled ++ tables }

end Seen

/-- What a phase returns: its summary, and the sets after it. -/
abbrev PhaseM := RunM (OperationSummary × Seen)

/-- Run a phase if it is enabled and no shutdown was requested. -/
def phaseGuard (enabled : Bool) (seen : Seen) (phase : PhaseM) : PhaseM := do
  if enabled then
    if ← shutdownRequested then pure ({}, seen) else phase
  else
    pure ({}, seen)

section Plan

variable (plan : Plan)

/-- Whether a mode is enabled. -/
def Plan.enabled (mode : Mode) : Bool := plan.settings.enabledModes.contains mode

/-- `limit_n`: no limit is `i64::MAX`. -/
def Plan.limitN : Int := plan.settings.limit.getD (2 ^ 63 - 1)

/-- The policy flags of the run. -/
def Plan.policy : RunPolicy where
  dryRun := plan.settings.dryRun
  force := plan.settings.force
  skipActiveVacuum := plan.settings.skipActiveVacuum
  checkXminHorizon := !plan.settings.skipXminHorizonCheck
  lockTimeoutMs := plan.settings.lockTimeoutMs
  lockTimeoutRetries := plan.settings.lockTimeoutRetries
  lockTimeoutRetryDelayMs := plan.settings.lockTimeoutRetryDelayMs

/-- Phase 1: VACUUM never-vacuumed tables. -/
def phaseNeverVacuumed (seen : Seen) : PhaseM :=
  phaseGuard (plan.enabled .neverVacuumed) seen do
    log (.phaseStarted .neverVacuumed)
    let s := plan.settings
    let candidates ← withContext
      (findNeverVacuumed plan.schemas s.table s.minBytes s.maxBytes plan.limitN s.orderBy)
      "Failed to query never-vacuumed tables"
    let seen := seen.addVacuumed (candidates.map TableInfo.key)
    let summary ← withContext
      (runVacuumNeverVacuumed candidates plan.policy s.vacuumOptions plan.lagGate)
      "VACUUM phase failed"
    pure (summary, seen)

/-- Phase 2: ANALYZE never-analyzed tables. -/
def phaseNeverAnalyzed (seen : Seen) : PhaseM :=
  phaseGuard (plan.enabled .neverAnalyzed) seen do
    log (.phaseStarted .neverAnalyzed)
    let s := plan.settings
    let candidates ← withContext
      (findNeverAnalyzed plan.schemas s.table s.minBytes s.maxBytes plan.limitN s.orderBy)
      "Failed to query never-analyzed tables"
    let seen := seen.addAnalyzed (candidates.map TableInfo.key)
    let summary ← withContext
      (runAnalyzeNeverAnalyzed candidates plan.policy plan.lagGate)
      "ANALYZE phase failed"
    pure (summary, seen)

/-- Phase 3: VACUUM FREEZE wraparound candidates. -/
def phasePreventWraparound (seen : Seen) : PhaseM :=
  phaseGuard (plan.enabled .preventWraparound) seen do
    log (.phaseStarted .preventWraparound)
    let s := plan.settings
    let candidates ← withContext
      (findWraparoundCandidates plan.schemas plan.wraparoundMinAge s.table s.minBytes
        s.maxBytes plan.limitN s.orderBy)
      "Failed to query wraparound candidates"
    let seen := seen.addVacuumed (candidates.map FreezeTableInfo.key)
    let summary ← withContext
      (runFreezeWraparound candidates plan.policy s.vacuumOptions plan.lagGate)
      "VACUUM FREEZE phase failed"
    pure (summary, seen)

/-- Phase 4: VACUUM bloat candidates. -/
def phasePreventBloat (seen : Seen) : PhaseM :=
  phaseGuard (plan.enabled .preventBloat) seen do
    log (.phaseStarted .preventBloat)
    let s := plan.settings
    let candidates ← withContext
      (findBloatCandidates plan.schemas s.table s.bloatThresholdPct defaultBloatMinDeadTup
        s.minBytes s.maxBytes plan.limitN s.orderBy)
      "Failed to query bloat candidates"
    let summary ← withContext
      (runBloatVacuum candidates plan.policy seen.handled s.vacuumOptions plan.lagGate)
      "VACUUM BLOAT phase failed"
    pure (summary, seen.addVacuumed (candidates.map BloatTableInfo.key))

/-- The result of a settings read, or the fallback if it failed. -/
def orElse {α : Type} (p : RunM α) (fallback : α) : RunM α := do
  match ← (p.attempt : RunM (Except AnyError α)) with
  | .ok value => pure value
  | .error _ => pure fallback

/-- The candidates of phase 5: the classic list, and the max-threshold pass merged in. Only
the classic query's error ends the run. -/
def discoverNeedsVacuum : RunM (List NeedsVacuumTableInfo) := do
  let s := plan.settings
  let (serverThreshold, serverScaleFactor) ← orElse getVacuumSettings
    (defaultVacuumThreshold, defaultVacuumScaleFactor)
  let classic ← withContext
    (findNeedsVacuumCandidates plan.schemas s.table (s.vacuumThreshold.getD serverThreshold)
      (s.vacuumScaleFactor.getD serverScaleFactor) s.minBytes s.maxBytes plan.limitN s.orderBy)
    "Failed to query needs-vacuum candidates"
  let serverVersionNum ← orElse getServerVersionNum 0
  let maxThreshold ← orElse (getVacuumMaxThreshold serverVersionNum)
    (deriveMaxThreshold (some defaultVacuumMaxThresholdPre18))
  let maxThrCandidates ← orElse
    (findNeedsVacuumMaxThresholdCandidates plan.schemas s.table maxThreshold serverVersionNum
      s.minBytes s.maxBytes) []
  pure (mergeNeedsVacuumCandidates classic maxThrCandidates s.orderBy plan.limitN)

/-- Phase 5: VACUUM needs-vacuum candidates. -/
def phaseNeedsVacuum (seen : Seen) : PhaseM :=
  phaseGuard (plan.enabled .needsVacuum) seen do
    log (.phaseStarted .needsVacuum)
    let candidates ← discoverNeedsVacuum plan
    let summary ← withContext
      (runNeedsVacuum candidates plan.policy seen.vacuumed plan.settings.vacuumOptions
        plan.lagGate)
      "VACUUM NEEDS VACUUM phase failed"
    pure (summary, seen.addVacuumed (candidates.map NeedsVacuumTableInfo.key))

/-- Phase 6: VACUUM overdue candidates. -/
def phaseVacuumOverdue (seen : Seen) : PhaseM :=
  phaseGuard (plan.enabled .vacuumOverdue) seen do
    log (.phaseStarted .vacuumOverdue)
    let s := plan.settings
    let candidates ← withContext
      (findVacuumOverdueCandidates plan.schemas s.table s.vacuumOlderThanDays s.minBytes
        s.maxBytes plan.limitN)
      "Failed to query vacuum-overdue candidates"
    let summary ← withContext
      (runVacuumOverdue candidates plan.policy seen.vacuumed s.vacuumOptions plan.lagGate)
      "VACUUM OVERDUE phase failed"
    pure (summary, seen.addHandled (candidates.map OverdueVacuumTableInfo.key))

/-- Phase 7: ANALYZE overdue candidates. -/
def phaseAnalyzeOverdue (seen : Seen) : PhaseM :=
  phaseGuard (plan.enabled .analyzeOverdue) seen do
    log (.phaseStarted .analyzeOverdue)
    let s := plan.settings
    let candidates ← withContext
      (findAnalyzeOverdueCandidates plan.schemas s.table s.analyzeOlderThanDays s.minBytes
        s.maxBytes plan.limitN)
      "Failed to query analyze-overdue candidates"
    let summary ← withContext
      (runAnalyzeOverdue candidates plan.policy seen.analyzed plan.lagGate)
      "ANALYZE OVERDUE phase failed"
    pure (summary, seen.addHandled (candidates.map OverdueAnalyzeTableInfo.key))

/-- Phase 8: VACUUM (ANALYZE) explicitly listed tables. -/
def phaseAlsoTables (seen : Seen) : PhaseM :=
  phaseGuard (!plan.alsoTables.isEmpty) seen do
    log (.phaseStarted .alsoTables)
    let summary ← withContext
      (runAlsoTables plan.alsoTables plan.policy seen.handled plan.settings.vacuumOptions
        plan.lagGate)
      "VACUUM ANALYZE (--also-tables) phase failed"
    pure (summary, seen)

/-- The exit code of a run that went through its phases. -/
def verdict (failed : Nat) : RunM Nat := do
  if ← shutdownRequested then
    log .terminatedBySignal
    pure 130
  else if 0 < failed then
    .fail (.new s!"pg-maintainer completed with {failed} error(s)")
  else
    pure 0

/-- The final summary and the exit code. -/
def finish (total : OperationSummary) : RunM Nat := do
  log (.completed total.total total.succeeded total.failed)
  verdict total.failed

/-- The sum of two summaries. -/
def OperationSummary.add (a b : OperationSummary) : OperationSummary :=
  ⟨a.total + b.total, a.succeeded + b.succeeded, a.failed + b.failed, a.skipped + b.skipped⟩

/-- The phases in their order. -/
def phases : List (Seen → PhaseM) :=
  [phaseNeverVacuumed plan, phaseNeverAnalyzed plan, phasePreventWraparound plan,
    phasePreventBloat plan, phaseNeedsVacuum plan, phaseVacuumOverdue plan,
    phaseAnalyzeOverdue plan, phaseAlsoTables plan]

/-- Run phases one after the other, adding up their summaries. -/
def runInOrder : List (Seen → PhaseM) → OperationSummary → Seen → RunM OperationSummary
  | [], total, _ => pure total
  | phase :: rest, total, seen => do
    let (summary, seen) ← phase seen
    runInOrder rest (total.add summary) seen

/-- `run`, from the first phase on. -/
def runPhases : RunM Nat := do
  finish (← runInOrder (phases plan) {} {})

end Plan

/-- `run`. -/
def run (settings : RunSettings) : RunM Nat := do
  runPhases (← setup settings)

/-- `main` from a `run` on: the exit code of the process. -/
def exitWith (p : RunM Nat) : Prog session Empty Nat := do
  match ← (p.attempt : Prog session Empty (Except AnyError Nat)) with
  | .ok code => pure code
  | .error err => pure (exitCode err (← isRequested))

/-- `main`. -/
def main (settings : RunSettings) : Prog session Empty Nat := exitWith (run settings)

end PgMaintainer
