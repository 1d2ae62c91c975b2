import PgMaintainer.Run.Severed
import PgMaintainer.Run.Shape

/-!
# The calls of a run and their parameters

What each part of a run may send to the server, with the values it sends. A table is maintained by
few calls (`Call.OfTable`); a phase adds its own query for candidates (`Plan.Allows`); everything
that opens the session, sets it up or locks belongs to the start (`Call.Opens`), so that no phase
can touch it.
-/

namespace PgMaintainer

open Interaction

/-! ## One table -/

/-- How the statement of a row in the logbook ended. -/
inductive LogEntry.Ends (entry : LogEntry) : Prop where
  | success : entry.status = "success" → entry.errorMessage = none → entry.Ends
  | error (message : String) : entry.status = "error" → entry.errorMessage = some message →
      entry.deadTuplesBefore = none → entry.deadTuplesReducedApprox = none → entry.Ends
  | cancelled : entry.status = "cancelled" → entry.errorMessage = some "cancelled by shutdown" →
      entry.deadTuplesBefore = none → entry.deadTuplesReducedApprox = none → entry.Ends

/-- A row of the logbook as a runner writes it, for its operation and its mode. -/
structure LogEntry.Sound (entry : LogEntry) (book : String × String) : Prop where
  columns : (entry.operation, entry.mode) = book
  ends : entry.Ends
  duration : 0 ≤ entry.durationMs
  reduced : ∀ n ∈ entry.deadTuplesReducedApprox, 0 ≤ n
  before : ∀ n ∈ entry.deadTuplesBefore, 0 < n

/-- The figures that a statement may return. -/
def OperationResult.Plausible (result : OperationResult) : Prop :=
  (∀ n ∈ result.deadTuplesReducedApprox, 0 ≤ n) ∧ ∀ n ∈ result.deadTuplesBefore, 0 < n

/-- What the runner of each phase writes into the columns `operation` and `mode`. -/
def Phase.book : Phase → String × String
  | .neverVacuumed => ("VACUUM", "never-vacuumed")
  | .neverAnalyzed => ("ANALYZE", "never-analyzed")
  | .preventWraparound => ("FREEZE", "prevent-wraparound")
  | .preventBloat => ("VACUUM", "prevent-bloat")
  | .needsVacuum => ("VACUUM", "needs-vacuum")
  | .vacuumOverdue => ("VACUUM", "vacuum-overdue")
  | .analyzeOverdue => ("ANALYZE", "analyze-overdue")
  | .alsoTables => ("VACUUM ANALYZE", "also-tables")

/-- What a runner does with each of its tables: its policy and lag gate, its statement, and the
operation and the mode that it writes into the logbook. -/
structure Job where
  policy : RunPolicy
  gate : Option ReplicaLagGate
  statement : Statement
  book : String × String

/-- The calls of a pass of a runner over a table. -/
def Call.OfTable (job : Job) (table : TableKey) : Call → Prop
  | .findActiveVacuums t => t = table
  | .getCanReadReplicationStats | .getReplicationLag => job.gate.isSome = true
  | .terminateBackend _ => job.policy.dryRun = false ∧ job.policy.skipActiveVacuum = false
  | .maintain s t => job.policy.dryRun = false ∧ s = job.statement ∧ t = table
  | .getDeadTupleCount t => job.policy.dryRun = false ∧ t = table
  | .insertMaintenanceLog entry =>
    job.policy.dryRun = false ∧ entry.Sound job.book ∧ (entry.schema, entry.table) = table
  | .getCanReadActivityXmin | .findXminHorizonBlockers =>
    job.policy.dryRun = false ∧ job.policy.checkXminHorizon = true
  | _ => False

/-- The operations of a pass of a runner over a table. -/
def Op.OfTable (job : Job) (table : TableKey) : Op → Prop
  | .call c => c.OfTable job table
  | _ => True

/-- The operations of a runner over its tables. -/
def Op.OfTables (job : Job) (tables : List TableKey) : Op → Prop
  | .call c => ∃ table ∈ tables, c.OfTable job table
  | _ => True

attribute [local simp] Call.OfTable Op.OfTable Op.OfTables

section Table

variable {job : Job} {table : TableKey} {summary : OperationSummary} {body : Pass} {r : Runner}

/-- A skipped table needs no call. -/
theorem skip_table_of_table (reason : SkipReason) :
    (skipTable summary table reason).Only (Op.OfTable job table) := by
  simp [skipTable]

/-- The head of a pass adds no call to those of its body. -/
theorem visit_table_of_table (hbody : body.Only (Op.OfTable job table)) (count i : Nat) :
    (visitTable r count i table summary body).Only (Op.OfTable job table) := by
  refine Prog.Only.bind (by simp) fun _ => ?_
  refine Prog.Only.bind (by simp) fun closed => ?_
  simp only [Prog.Only, Prog.all_ite]
  refine ⟨fun _ => by simp [connectionLostError], fun _ => ?_⟩
  refine Prog.Only.bind (by simp) fun requested => ?_
  simp only [Prog.Only, Prog.all_ite]
  exact ⟨fun _ => trivial, fun _ => hbody⟩

/-- Nor does the set of the tables that were handled before. -/
theorem unless_handled_of_table {already : Option (List TableKey)}
    (hbody : body.Only (Op.OfTable job table)) :
    (unlessHandled already table summary body).Only (Op.OfTable job table) := by
  cases already with
  | none => exact hbody
  | some handled =>
      simp only [unlessHandled, Prog.Only, Prog.all_ite]
      exact ⟨fun _ => (skip_table_of_table _).bind fun _ => trivial, fun _ => hbody⟩

/-! ### The lag gate -/

/-- A job with a gate may observe the standbys. -/
theorem observe_replica_lag_of_table (hgate : job.gate.isSome = true) :
    observeReplicaLag.Only (Op.OfTable job table) := by
  simp [observeReplicaLag, hgate]

/-- To give up a wait needs no call. -/
theorem give_up_waiting_of_table (started : Nat) :
    (giveUpWaiting started).Only (Op.OfTable job table) := by
  simp [giveUpWaiting, addWaited]

/-- By induction on the rounds left. -/
theorem wait_for_replica_lag_loop_of_table (hgate : job.gate.isSome = true) (gate : ReplicaLagGate)
    (started rounds : Nat) :
    (waitForReplicaLagLoop gate table started rounds).Only (Op.OfTable job table) := by
  have hwaited : (addWaited started).Only (Op.OfTable job table) := by
    simp [addWaited]
  induction rounds with
  | zero => exact give_up_waiting_of_table started
  | succ rounds ih =>
      refine Prog.Only.bind (by simp) fun time => ?_
      simp only [Prog.Only, Prog.all_ite]
      refine ⟨fun _ => give_up_waiting_of_table started, fun _ => ?_⟩
      refine Prog.Only.bind (by simp) fun wake => ?_
      cases wake with
      | shutdown => exact hwaited.bind fun _ => trivial
      | slept =>
          refine (observe_replica_lag_of_table hgate).bind fun current => ?_
          simp only [Prog.Only, Prog.all_ite]
          refine ⟨fun _ => hwaited.bind fun _ => by simp, fun _ => ?_⟩
          refine Prog.Only.bind (by simp) fun time => ?_
          simp only [Prog.Only, Prog.all_ite]
          exact ⟨fun _ => give_up_waiting_of_table started, fun _ => ih⟩

/-- The polling of a gate calls for nothing but observations. -/
theorem wait_for_replica_lag_of_table (hgate : job.gate.isSome = true) (gate : ReplicaLagGate) :
    (waitForReplicaLag gate table job.policy).Only (Op.OfTable job table) := by
  refine Prog.Only.bind (by simp) fun disabled => ?_
  simp only [Prog.Only, Prog.all_ite]
  refine ⟨fun _ => trivial, fun _ => (observe_replica_lag_of_table hgate).bind
    fun observation => ?_⟩
  cases observation with
  | noReplicas => simp
  | unobservable => simp
  | observed standbys =>
      simp only [Prog.Only, Prog.all_ite]
      refine ⟨fun _ => trivial, fun _ => ⟨fun _ => trivial, fun _ => ⟨fun _ => ?_, fun _ => ?_⟩⟩⟩
      · simp
      · exact Prog.Only.bind (by simp) fun _ => wait_for_replica_lag_loop_of_table hgate ..

/-- Only a job with a gate asks about the standbys. -/
theorem after_lag_gate_of_table (hbody : body.Only (Op.OfTable job table)) :
    (afterLagGate job.gate job.policy table summary body).Only (Op.OfTable job table) := by
  cases hgate : job.gate with
  | none => exact hbody
  | some gate =>
      have hsome : job.gate.isSome = true := by rw [hgate]; rfl
      refine (wait_for_replica_lag_of_table hsome gate).bind fun verdict => ?_
      cases verdict with
      | proceed => exact hbody
      | skipTable => exact (skip_table_of_table _).bind fun _ => trivial
      | shutdownRequested => trivial

/-! ### The active-vacuum gate -/

/-- Nothing is terminated under `--skip-active-vacuum`. -/
theorem handle_active_vacuums_of_table :
    (handleActiveVacuums table job.policy summary).Only (Op.OfTable job table) := by
  have hskip : (do pure (false, ← skipTable summary table .activeVacuum) : RunM _).Only
      (Op.OfTable job table) := (skip_table_of_table _).bind fun _ => trivial
  refine Prog.Only.bind ?_ fun sessions => ?_
  · refine Prog.Only.bind (by simp) fun answer => ?_
    cases answer <;> trivial
  simp only [Prog.Only, Prog.all_ite]
  refine ⟨fun _ => trivial, fun _ => ⟨fun _ => hskip, fun hdisturb => ?_⟩⟩
  have hterminate : ∀ pids, (terminateInRealRun job.policy pids).Only (Op.OfTable job table) :=
    fun pids => terminate_in_real_run_only (fun hreal _ => ⟨hreal, by simpa using hdisturb⟩) pids
  refine (hterminate _).bind fun _ => ?_
  simp only [Prog.Only, Prog.all_ite]
  refine ⟨fun _ => trivial, fun _ => ⟨fun _ => ?_, fun _ => hskip⟩⟩
  exact (hterminate _).bind fun _ => trivial

/-- The second gate asks about the table, and may terminate what it is told of. -/
theorem after_active_vacuums_of_table {body : OperationSummary → Pass}
    (hbody : ∀ summary, (body summary).Only (Op.OfTable job table)) :
    (afterActiveVacuums job.policy table summary body).Only (Op.OfTable job table) := by
  refine handle_active_vacuums_of_table.bind fun verdict => ?_
  simp only [Prog.Only, Prog.all_ite]
  exact ⟨fun _ => hbody _, fun _ => trivial⟩

/-! ### The statement -/

/-- A runner that does a job: it maintains with its statement and, in a real run, reports with the
calls of a pass. -/
structure Runner.Sends (r : Runner) (job : Job) : Prop where
  of : r.Of job.statement
  columns : (r.logOperation, r.logMode) = job.book
  report : job.policy.dryRun = false → ∀ table result,
    (r.report table result).Only (Op.OfTable job table)

/-- A decrease is no negative number. -/
theorem estimate_dead_tuples_reduced_nonneg (before after : Int) :
    ∀ n ∈ estimateDeadTuplesReduced before after, 0 ≤ n := by
  intro n hn
  simp only [estimateDeadTuplesReduced] at hn
  split at hn
  · obtain rfl := Option.some.inj hn
    exact le_rfl
  · split at hn
    · next hpos =>
        obtain rfl := Option.some.inj hn
        exact hpos.le
    · cases hn

/-- The operation of a statement makes three calls about its table, or one. -/
theorem operation_of_table (hreal : job.policy.dryRun = false) :
    (job.statement.operation table).All (Op.OfTable job table) OperationResult.Plausible
      (fun _ => True) := by
  have hbetween : ∀ s, job.statement = s → (betweenDeadTupleCounts s table).All
      (Op.OfTable job table) OperationResult.Plausible (fun _ => True) := by
    intro s hs
    refine Prog.all_bind.2 (all_query.2 ⟨⟨hreal, rfl⟩, fun before => ?_, by simp⟩)
    refine Prog.all_bind.2 (all_query.2 ⟨⟨hreal, hs.symm, rfl⟩, fun _ => ?_, by simp⟩)
    refine Prog.all_bind.2 (all_query.2 ⟨⟨hreal, rfl⟩, fun after => ?_, by simp⟩)
    refine ⟨estimate_dead_tuples_reduced_nonneg before after, fun n hn => ?_⟩
    -- only a table with dead tuples has a percentage
    by_cases hbefore : 0 < before
    · simp only [hbefore, if_true, Option.mem_def] at hn
      obtain rfl := Option.some.inj hn
      exact hbefore
    · simp [hbefore] at hn
  have halone : ∀ s, job.statement = s → (withoutDeadTupleCounts s table).All
      (Op.OfTable job table) OperationResult.Plausible (fun _ => True) := by
    intro s hs
    refine Prog.all_bind.2 (all_query.2 ⟨⟨hreal, hs.symm, rfl⟩, fun _ => ?_, by simp⟩)
    exact ⟨fun n hn => by simp at hn, fun n hn => by simp at hn⟩
  cases hstatement : job.statement with
  | vacuum options => exact hbetween _ hstatement
  | vacuumAnalyze options => exact hbetween _ hstatement
  | freeze options => exact halone _ hstatement
  | analyze => exact halone _ hstatement

/-- What is returned after retries, was returned by the last attempt. By induction on the retries
left. -/
theorem retry_loop_all {φ : Op → Prop} {R : OperationResult → Prop} {op : PgM OperationResult}
    (hop : op.All φ R fun _ => True) (hrequested : φ .shutdownRequested)
    (hsleep : ∀ nanoseconds, φ (.sleepOrShutdown nanoseconds)) (left delayMs : Nat) :
    (retryLoop op left delayMs).All φ R fun _ => True := by
  induction left generalizing delayMs with
  | zero => exact hop
  | succ left ih =>
      refine Prog.all_bind.2 (Prog.all_attempt.2 (hop.mono (fun _ h => h) (fun _ h => h) ?_))
      intro err _
      simp only [Prog.all_ite]
      refine ⟨fun _ => trivial, fun _ => ?_⟩
      refine Prog.all_bind.2 (all_shutdownRequested.2 ⟨hrequested, fun requested => ?_⟩)
      simp only [Prog.all_ite]
      refine ⟨fun _ => trivial, fun _ => ?_⟩
      refine Prog.all_bind.2 (all_sleepOrShutdown.2 ⟨hsleep _, fun wake => ?_⟩)
      cases wake with
      | shutdown => trivial
      | slept => exact ih _

/-- A row about the table may be inserted, if it is sound. -/
theorem log_of_table (hreal : job.policy.dryRun = false) {entry : LogEntry}
    (hentry : entry.Sound job.book) (htable : (entry.schema, entry.table) = table) :
    (logMaintenanceOperation job.policy.dryRun entry).Only (Op.OfTable job table) := by
  simp [logMaintenanceOperation, hreal, hentry, htable]

/-- The statement, its retries, its report and its row. -/
theorem maintain_table_of_table (hr : r.Sends job) (count i : Nat) :
    (maintainTable r job.policy count i table summary).Only (Op.OfTable job table) := by
  simp only [maintainTable, Prog.Only, Prog.all_ite]
  refine ⟨fun _ => by simp, fun hdry => ?_⟩
  have hreal : job.policy.dryRun = false := by simpa using hdry
  -- a failure is recorded in the same way from two of the four branches
  have hrecord : ∀ err (durationMs : Nat),
      (recordFailure r job.policy summary table err durationMs).Only (Op.OfTable job table) := by
    intro err durationMs
    simp only [recordFailure, Prog.Only, Prog.all_ite]
    refine ⟨fun _ => (skip_table_of_table _).bind fun _ => trivial, fun _ => ?_⟩
    refine (log_of_table hreal ⟨hr.columns, .error _ rfl rfl rfl rfl, ?_, by simp, by simp⟩
      rfl).bind fun _ => ?_
    · exact Int.natCast_nonneg durationMs
    · simp
  refine Prog.Only.bind (by simp) fun start => ?_
  have hretry : (withLockTimeoutRetry job.policy (r.operation table)).All (Op.OfTable job table)
      OperationResult.Plausible (fun _ => True) := by
    rw [hr.of.operation]
    exact retry_loop_all (operation_of_table hreal) trivial (fun _ => trivial) _ _
  refine Prog.all_bind.2 (Prog.all_attempt.2 (hretry.mono (fun _ h => h) ?_ ?_))
  · intro result hplausible
    refine Prog.Only.bind (by simp) fun time => ?_
    refine (hr.report hreal table result).bind fun _ => ?_
    refine Prog.Only.bind (log_of_table hreal ?_ rfl) fun _ => by simp
    exact ⟨hr.columns, .success rfl rfl, Int.natCast_nonneg _, hplausible.1, hplausible.2⟩
  · intro err _
    refine Prog.Only.bind (by simp) fun time => ?_
    refine Prog.Only.bind (by simp) fun requested => ?_
    cases classifyOpError err requested with
    | connectionLost => simp [connectionLostError]
    | shutdownInterrupted =>
        refine Prog.Only.bind ?_ fun _ => trivial
        refine (skip_table_of_table _).bind fun summary => ?_
        refine Prog.Only.bind (by simp) fun closed => ?_
        simp only [Prog.Only, Prog.all_ite]
        refine ⟨fun _ => trivial, fun _ => (log_of_table hreal ?_ rfl).bind fun _ => trivial⟩
        refine ⟨hr.columns, .cancelled rfl rfl rfl rfl, ?_, by simp, by simp⟩
        exact Int.natCast_nonneg _
    | lockTimeout => exact hrecord err _
    | other => exact hrecord err _

/-! ### The loop -/

/-- What a pass does with one of the tables. -/
theorem Op.OfTable.ofTables {tables : List TableKey} (htable : table ∈ tables) {op : Op}
    (h : op.OfTable job table) : op.OfTables job tables := by
  cases op with
  | call c => exact ⟨table, htable, h⟩
  | _ => trivial

/-- The passes of a loop that does a job: with one lag gate, or with two. -/
inductive Job.Does (job : Job) : PassBody → Prop where
  | once (r : Runner) (already : Option (List TableKey)) (count : Nat) : r.Sends job →
      job.Does (gatedPass r job.policy job.gate already count)
  | twice (r : Runner) (already : Option (List TableKey)) (count : Nat) : r.Sends job →
      job.Does fun i table summary =>
        visitTable r count i table summary <|
        unlessHandled already table summary <|
        afterLagGate job.gate job.policy table summary <|
        afterLagGate job.gate job.policy table summary <|
        afterActiveVacuums job.policy table summary fun summary =>
        maintainTable r job.policy count i table summary

/-- A loop over tables that does a job. -/
def Job.Runs (job : Job) (phase : Phase) (tables : List TableKey) (loop : RunM OperationSummary) :
    Prop := ∃ pass, job.Does pass ∧ loop = runTables phase pass tables

/-- Such a pass makes the calls of its table. -/
theorem Job.Does.of_table {pass : PassBody} (h : job.Does pass) (i : Nat) (table : TableKey)
    (summary : OperationSummary) : (pass i table summary).Only (Op.OfTable job table) := by
  cases h with
  | once r already count hr =>
      refine visit_table_of_table (unless_handled_of_table (after_lag_gate_of_table ?_)) _ _
      exact after_active_vacuums_of_table fun summary => maintain_table_of_table hr _ _
  | twice r already count hr =>
      refine visit_table_of_table (unless_handled_of_table ?_) _ _
      refine after_lag_gate_of_table (after_lag_gate_of_table ?_)
      exact after_active_vacuums_of_table fun summary => maintain_table_of_table hr _ _

/-- And the loop those of its tables. -/
theorem Job.Does.sweep_of_tables {pass : PassBody} (h : job.Does pass) (tables : List TableKey)
    (summary : OperationSummary) :
    (Prog.sweep pass 0 tables summary).Only (Op.OfTables job tables) :=
  Prog.only_sweep fun i table summary htable =>
    (h.of_table i table summary).mono (fun _ => Op.OfTable.ofTables htable) (fun _ h => h)
      fun _ h => h

/-- A runner works on its own tables. -/
theorem Job.Runs.of_tables {phase : Phase} {tables : List TableKey} {loop : RunM OperationSummary}
    (h : job.Runs phase tables loop) : loop.Only (Op.OfTables job tables) := by
  obtain ⟨pass, hpass, rfl⟩ := h
  exact Prog.Only.bind (by simp) fun _ => hpass.sweep_of_tables tables _

/-! ### Reports -/

/-- No report, no call. -/
theorem report_nothing_of_table (table : TableKey) (result : OperationResult) :
    (reportNothing table result).Only (Op.OfTable job table) := trivial

/-- A report of the change of the estimate needs no call. -/
theorem report_change_of_table (result : OperationResult) :
    (reportChange table result).Only (Op.OfTable job table) := by
  unfold reportChange
  cases result.deadTuplesReducedApprox <;> simp

/-- A decrease is reported from the two counts that were read. -/
theorem report_decrease_of_table (result : OperationResult) :
    (reportDecrease table result).Only (Op.OfTable job table) := by
  unfold reportDecrease
  cases result.deadTuplesReducedApprox <;> simp

/-- A report of what blocks the horizon reads it. -/
theorem report_change_or_blocker_of_table (hreal : job.policy.dryRun = false)
    (result : OperationResult) :
    (reportChangeOrBlocker job.policy table result).Only (Op.OfTable job table) := by
  unfold reportChangeOrBlocker
  cases result.deadTuplesReducedApprox with
  | none => trivial
  | some n =>
      simp only [Prog.Only, Prog.all_ite]
      refine ⟨fun _ => ⟨fun hcheck => ?_, fun _ => by simp⟩, fun _ => by simp⟩
      have hobserve : observeXminHorizon.Only (Op.OfTable job table) := by
        simp [observeXminHorizon, hreal, hcheck]
      have hdescribe : describeWorstXminBlocker.Only (Op.OfTable job table) := by
        refine hobserve.bind fun observation => ?_
        rcases observation with _ | (_ | _) <;> trivial
      refine hdescribe.attempt.bind fun blocker => ?_
      rcases blocker with _ | (_ | _) <;> simp

end Table

/-! ## The runners -/

/-- The job of the runner of a phase. -/
def Phase.job (phase : Phase) (policy : RunPolicy) (options : VacuumOptions)
    (gate : Option ReplicaLagGate) : Job :=
  ⟨policy, gate, (phase.spec options).statement, phase.book⟩

section Runners

variable (policy : RunPolicy) (options : VacuumOptions) (gate : Option ReplicaLagGate)

/-- Phase 1 does its job. -/
theorem run_vacuum_never_vacuumed_runs (tables : List TableInfo) :
    (Phase.neverVacuumed.job policy options gate).Runs .neverVacuumed (tables.map TableInfo.key)
      (runVacuumNeverVacuumed tables policy options gate) :=
  ⟨_, .once _ _ _ ⟨⟨rfl, fun hφ => hφ.report_change⟩, rfl,
    fun _ _ => report_change_of_table⟩, rfl⟩

/-- Phase 2 does its job. -/
theorem run_analyze_never_analyzed_runs (tables : List TableInfo) :
    (Phase.neverAnalyzed.job policy options gate).Runs .neverAnalyzed (tables.map TableInfo.key)
      (runAnalyzeNeverAnalyzed tables policy gate) :=
  ⟨_, .once _ _ _ ⟨⟨rfl, fun _ => Op.AdmitsReport.report_nothing⟩, rfl,
    fun _ => report_nothing_of_table⟩, rfl⟩

/-- Phase 3 does its job. -/
theorem run_freeze_wraparound_runs (tables : List FreezeTableInfo) :
    (Phase.preventWraparound.job policy options gate).Runs .preventWraparound
      (tables.map FreezeTableInfo.key) (runFreezeWraparound tables policy options gate) :=
  ⟨_, .once _ _ _ ⟨⟨rfl, fun _ => Op.AdmitsReport.report_nothing⟩, rfl,
    fun _ => report_nothing_of_table⟩, rfl⟩

/-- Phase 4 does its job. -/
theorem run_bloat_vacuum_runs (tables : List BloatTableInfo) (handled : List TableKey) :
    (Phase.preventBloat.job policy options gate).Runs .preventBloat (tables.map BloatTableInfo.key)
      (runBloatVacuum tables policy handled options gate) :=
  ⟨_, .once _ _ _ ⟨⟨rfl, fun hφ => hφ.report_change_or_blocker policy⟩, rfl,
    fun hreal _ => report_change_or_blocker_of_table hreal⟩, rfl⟩

/-- Phase 5 does its job. -/
theorem run_needs_vacuum_runs (tables : List NeedsVacuumTableInfo) (vacuumed : List TableKey) :
    (Phase.needsVacuum.job policy options gate).Runs .needsVacuum
      (tables.map NeedsVacuumTableInfo.key)
      (runNeedsVacuum tables policy vacuumed options gate) :=
  ⟨_, .once _ _ _ ⟨⟨rfl, fun hφ => hφ.report_change_or_blocker policy⟩, rfl,
    fun hreal _ => report_change_or_blocker_of_table hreal⟩, rfl⟩

/-- Phase 6 does its job. -/
theorem run_vacuum_overdue_runs (tables : List OverdueVacuumTableInfo) (vacuumed : List TableKey) :
    (Phase.vacuumOverdue.job policy options gate).Runs .vacuumOverdue
      (tables.map OverdueVacuumTableInfo.key)
      (runVacuumOverdue tables policy vacuumed options gate) :=
  ⟨_, .once _ _ _ ⟨⟨rfl, fun _ => Op.AdmitsReport.report_nothing⟩, rfl,
    fun _ => report_nothing_of_table⟩, rfl⟩

/-- Phase 7 does its job. -/
theorem run_analyze_overdue_runs (tables : List OverdueAnalyzeTableInfo)
    (analyzed : List TableKey) :
    (Phase.analyzeOverdue.job policy options gate).Runs .analyzeOverdue
      (tables.map OverdueAnalyzeTableInfo.key)
      (runAnalyzeOverdue tables policy analyzed gate) :=
  ⟨_, .once _ _ _ ⟨⟨rfl, fun _ => Op.AdmitsReport.report_nothing⟩, rfl,
    fun _ => report_nothing_of_table⟩, rfl⟩

/-- Phase 8 does its job. -/
theorem run_also_tables_runs (tables : List ExplicitTable) (handled : List TableKey) :
    (Phase.alsoTables.job policy options gate).Runs .alsoTables (tables.map ExplicitTable.key)
      (runAlsoTables tables policy handled options gate) :=
  ⟨_, .twice _ _ _ ⟨⟨rfl, fun hφ => hφ.report_decrease⟩, rfl,
    fun _ _ => report_decrease_of_table⟩, rfl⟩

end Runners

/-! ## The phases -/

/-- The parameters that the discovery queries of a plan share. -/
def Plan.discovery (plan : Plan) (orderBy : Option OrderBy) : Discovery :=
  ⟨plan.schemas, discoveryScope plan.settings.table orderBy plan.limitN, plan.settings.minBytes,
    plan.settings.maxBytes⟩

/-- The job of the runner of a phase in a plan. -/
def Plan.job (plan : Plan) (phase : Phase) : Job :=
  phase.job plan.policy plan.settings.vacuumOptions plan.lagGate

/-- The calls that the phases of a plan may make, with their parameters. -/
def Plan.Allows (plan : Plan) : Call → Prop
  | .findNeverVacuumed q =>
    plan.enables .neverVacuumed = true ∧ q = plan.discovery plan.settings.orderBy
  | .findNeverAnalyzed q =>
    plan.enables .neverAnalyzed = true ∧ q = plan.discovery plan.settings.orderBy
  | .findWraparoundCandidates minAge q =>
    plan.enables .preventWraparound = true ∧ minAge = plan.wraparoundMinAge ∧
      q = plan.discovery plan.settings.orderBy
  | .findBloatCandidates pct minDeadTup q =>
    plan.enables .preventBloat = true ∧ pct = plan.settings.bloatThresholdPct ∧
      minDeadTup = defaultBloatMinDeadTup ∧ q = plan.discovery plan.settings.orderBy
  | .findNeedsVacuum threshold scaleFactor q =>
    plan.enables .needsVacuum = true ∧ (∀ n ∈ plan.settings.vacuumThreshold, threshold = n) ∧
      (∀ f ∈ plan.settings.vacuumScaleFactor, scaleFactor = f) ∧
      q = plan.discovery plan.settings.orderBy
  | .findNeedsVacuumMaxThr _ schemas _ minBytes maxBytes table =>
    plan.enables .needsVacuum = true ∧ schemas = plan.schemas ∧
      minBytes = plan.settings.minBytes ∧ maxBytes = plan.settings.maxBytes ∧
      table = plan.settings.table
  | .getVacuumSettings | .getServerVersionNum | .getVacuumMaxThreshold =>
    plan.enables .needsVacuum = true
  | .findVacuumOverdue days q =>
    plan.enables .vacuumOverdue = true ∧ days = plan.settings.vacuumOlderThanDays ∧
      q = plan.discovery none
  | .findAnalyzeOverdue days q =>
    plan.enables .analyzeOverdue = true ∧ days = plan.settings.analyzeOlderThanDays ∧
      q = plan.discovery none
  | c => ∃ phase table, plan.enables phase = true ∧ c.OfTable (plan.job phase) table

/-- The operations of the phases of a plan. -/
def Op.OfPlan (plan : Plan) : Op → Prop
  | .call c => plan.Allows c
  | _ => True

attribute [local simp] Plan.Allows Op.OfPlan

section Phases

variable {plan : Plan} {phase : Phase}

/-- What maintains the tables of an enabled phase is allowed. -/
theorem Op.OfTables.ofPlan (henabled : plan.enables phase = true) {tables : List TableKey} {op : Op}
    (h : op.OfTables (plan.job phase) tables) : op.OfPlan plan := by
  cases op with
  | call c =>
      obtain ⟨table, -, hpass⟩ := h
      cases c with
      | findActiveVacuums | getCanReadReplicationStats | getReplicationLag | terminateBackend
      | maintain | getDeadTupleCount | insertMaintenanceLog | getCanReadActivityXmin
      | findXminHorizonBlockers => exact ⟨phase, table, henabled, hpass⟩
      | _ => exact hpass.elim
  | _ => trivial

/-- A phase makes its own query and then what maintains its tables. -/
theorem phase_guard_of_plan (phase : Phase) {α : Type} {enabled : Bool} {discover : RunM α}
    {seen : Seen} {runner : α → RunM OperationSummary} (text : String) (update : α → Seen)
    (henables : enabled = plan.enables phase)
    (hdiscover : enabled = true → discover.Only (Op.OfPlan plan))
    (hrunner : ∀ found, ∃ tables, (runner found).Only (Op.OfTables (plan.job phase) tables)) :
    (phaseGuard enabled seen do
      log (.phaseStarted phase)
      let found ← discover
      let summary ← withContext (runner found) text
      pure (summary, update found)).Only (Op.OfPlan plan) := by
  simp only [phaseGuard, Prog.Only, Prog.all_ite]
  refine ⟨fun henabled => ?_, fun _ => trivial⟩
  refine Prog.Only.bind (by simp) fun requested => ?_
  simp only [Prog.Only, Prog.all_ite]
  refine ⟨fun _ => trivial, fun _ => ?_⟩
  refine Prog.Only.bind (by simp) fun _ => ?_
  refine (hdiscover henabled).bind fun found => ?_
  refine Prog.Only.bind (only_withContext ?_) fun _ => trivial
  obtain ⟨tables, hof⟩ := hrunner found
  exact hof.mono (fun _ => Op.OfTables.ofPlan (henables ▸ henabled)) (fun _ h => h) fun _ h => h

end Phases

section Run

variable (plan : Plan) (seen : Seen)

/-- Phase 1 asks and works as the plan says. -/
theorem phase_never_vacuumed_of_plan : (phaseNeverVacuumed plan seen).Only (Op.OfPlan plan) := by
  refine phase_guard_of_plan .neverVacuumed _ _ rfl (fun henabled => ?_) fun found => ?_
  · simp [findNeverVacuumed, Plan.discovery, Plan.enables, henabled]
  · exact ⟨_, (run_vacuum_never_vacuumed_runs ..).of_tables⟩

/-- Phase 2 asks and works as the plan says. -/
theorem phase_never_analyzed_of_plan : (phaseNeverAnalyzed plan seen).Only (Op.OfPlan plan) := by
  refine phase_guard_of_plan .neverAnalyzed _ _ rfl (fun henabled => ?_) fun found => ?_
  · simp [findNeverAnalyzed, Plan.discovery, Plan.enables, henabled]
  · exact ⟨_, (run_analyze_never_analyzed_runs ..).of_tables⟩

/-- Phase 3 asks and works as the plan says. -/
theorem phase_prevent_wraparound_of_plan :
    (phasePreventWraparound plan seen).Only (Op.OfPlan plan) := by
  refine phase_guard_of_plan .preventWraparound _ _ rfl (fun henabled => ?_)
    fun found => ?_
  · simp [findWraparoundCandidates, Plan.discovery, Plan.enables, henabled]
  · exact ⟨_, (run_freeze_wraparound_runs ..).of_tables⟩

/-- Phase 4 asks and works as the plan says. -/
theorem phase_prevent_bloat_of_plan : (phasePreventBloat plan seen).Only (Op.OfPlan plan) := by
  refine phase_guard_of_plan .preventBloat _ _ rfl (fun henabled => ?_) fun found => ?_
  · simp [findBloatCandidates, Plan.discovery, Plan.enables, henabled]
  · exact ⟨_, (run_bloat_vacuum_runs ..).of_tables⟩

/-- A default in the place of an error adds no call. -/
theorem or_else_of_plan {α : Type} {p : RunM α} (hp : p.Only (Op.OfPlan plan)) (fallback : α) :
    (orElse p fallback).Only (Op.OfPlan plan) := by
  refine hp.attempt.bind fun result => ?_
  cases result <;> trivial

/-- The settings of the command line, where given, replace those of the server. -/
theorem discover_needs_vacuum_of_plan (henabled : plan.enabled .needsVacuum = true) :
    (discoverNeedsVacuum plan).Only (Op.OfPlan plan) := by
  have henables : plan.enables .needsVacuum = true := henabled
  refine (or_else_of_plan plan (by simp [getVacuumSettings, henables]) _).bind fun found => ?_
  refine Prog.Only.bind (only_withContext ?_) fun classic => ?_
  · refine Prog.Only.bind (all_queryContext.2 ⟨⟨henables, ?_, ?_, rfl⟩, by simp⟩) fun _ => trivial
    · intro n hn
      rw [Option.mem_def.1 hn, Option.getD_some]
    · intro f hf
      rw [Option.mem_def.1 hf, Option.getD_some]
  refine (or_else_of_plan plan (by simp [getServerVersionNum, henables]) _).bind fun version => ?_
  refine (or_else_of_plan plan (by simp [getVacuumMaxThreshold, henables]) _).bind fun cap => ?_
  refine (or_else_of_plan plan ?_ _).bind fun _ => trivial
  refine Prog.Only.bind (by simp [henables]) fun answer => ?_
  cases answer <;> trivial

/-- Phase 5 asks twice, and works as the plan says. -/
theorem phase_needs_vacuum_of_plan : (phaseNeedsVacuum plan seen).Only (Op.OfPlan plan) := by
  refine phase_guard_of_plan .needsVacuum _ _ rfl (fun henabled => ?_) fun found => ?_
  · exact discover_needs_vacuum_of_plan plan henabled
  · exact ⟨_, (run_needs_vacuum_runs ..).of_tables⟩

/-- Phase 6 asks and works as the plan says. -/
theorem phase_vacuum_overdue_of_plan : (phaseVacuumOverdue plan seen).Only (Op.OfPlan plan) := by
  refine phase_guard_of_plan .vacuumOverdue _ _ rfl (fun henabled => ?_) fun found => ?_
  · simp [findVacuumOverdueCandidates, Plan.discovery, Plan.enables, henabled]
  · exact ⟨_, (run_vacuum_overdue_runs ..).of_tables⟩

/-- Phase 7 asks and works as the plan says. -/
theorem phase_analyze_overdue_of_plan :
    (phaseAnalyzeOverdue plan seen).Only (Op.OfPlan plan) := by
  refine phase_guard_of_plan .analyzeOverdue _ _ rfl (fun henabled => ?_) fun found => ?_
  · simp [findAnalyzeOverdueCandidates, Plan.discovery, Plan.enables, henabled]
  · exact ⟨_, (run_analyze_overdue_runs ..).of_tables⟩

/-- Phase 8 asks for nothing, and works as the plan says. -/
theorem phase_also_tables_of_plan : (phaseAlsoTables plan seen).Only (Op.OfPlan plan) := by
  have hpure : (pure () : RunM Unit).Only (Op.OfPlan plan) := trivial
  exact phase_guard_of_plan .alsoTables "VACUUM ANALYZE (--also-tables) phase failed"
    (fun _ => seen) rfl (fun _ => hpure) fun _ =>
    ⟨_, (run_also_tables_runs ..).of_tables⟩

/-- Every operation of the phases and of the end of a run is one the plan allows. -/
theorem run_phases_of_plan : (runPhases plan).Only (Op.OfPlan plan) := by
  have horder : ∀ (ps : List (Seen → PhaseM)) (total : OperationSummary) (seen : Seen),
      (∀ p ∈ ps, ∀ seen, (p seen).Only (Op.OfPlan plan)) →
      (runInOrder ps total seen).Only (Op.OfPlan plan) := by
    intro ps
    induction ps with
    | nil => exact fun _ _ _ => trivial
    | cons p ps ih =>
        intro total seen hps
        refine (hps p (List.mem_cons_self ..) seen).bind fun result => ?_
        exact ih _ _ fun q hq => hps q (List.mem_cons_of_mem _ hq)
  refine (horder _ _ _ fun p hp seen => ?_).bind fun total => by simp [finish, verdict]
  simp only [phases, List.mem_cons, List.not_mem_nil, or_false] at hp
  obtain rfl | rfl | rfl | rfl | rfl | rfl | rfl | rfl := hp
  · exact phase_never_vacuumed_of_plan plan seen
  · exact phase_never_analyzed_of_plan plan seen
  · exact phase_prevent_wraparound_of_plan plan seen
  · exact phase_prevent_bloat_of_plan plan seen
  · exact phase_needs_vacuum_of_plan plan seen
  · exact phase_vacuum_overdue_of_plan plan seen
  · exact phase_analyze_overdue_of_plan plan seen
  · exact phase_also_tables_of_plan plan seen

end Run

/-! ## The start -/

/-- The calls before the first phase, with their parameters. -/
def Call.Opens (settings : RunSettings) : Call → Prop
  | .connect | .getServerVersionNum | .getIsInRecovery | .setIdleSessionTimeout
  | .setApplicationName | .getBackendPid | .hashtext _ | .tryAdvisoryLock _ | .createSchema
  | .createLogbookTable | .createIndexTable | .createIndexTime | .commentBefore
  | .commentRemoved | .getSharedBuffers | .getMaxParallelWorkers => True
  | .setStatementTimeout seconds => seconds = settings.statementTimeoutSeconds
  | .getAllUserSchemas => settings.discoverAllSchemas = true ∧ settings.schema = none
  | .schemaExists name => name = logbookSchemaName
  | .setMaintenanceWorkMem gb => gb = settings.maintenanceWorkMemGb
  | .setVacuumCostDelay ms => settings.vacuumCostDelayMs = some ms
  | .setVacuumCostLimit limit => settings.vacuumCostLimit = some limit
  | .setVacuumBufferUsageLimit kb => 128 ≤ kb
  | .setMaxParallelMaintenanceWorkers workers => ∀ n ∈ settings.vacuumOptions.parallel, workers ≤ n
  | .getParallelLimits => settings.vacuumOptions.parallel.isSome = true
  | .setLockTimeout ms => ms = settings.lockTimeoutMs
  | .getFreezeMaxAge => settings.wraparoundPct.isSome = true
  | .getCanReadReplicationStats | .getReplicationLag => settings.maxReplicaLagSeconds.isSome = true
  | .getCanReadActivityXmin | .findXminHorizonBlockers => settings.skipXminHorizonCheck = false
  | .findExplicitTables schemas tables =>
    ∀ t ∈ schemas.zip tables, ∃ listed ∈ settings.alsoTables, t = listed.key
  | .getVacuumSettings | .getVacuumMaxThreshold | .findNeverVacuumed _ | .findNeverAnalyzed _
  | .findWraparoundCandidates _ _ | .findBloatCandidates _ _ _ | .findNeedsVacuum _ _ _
  | .findNeedsVacuumMaxThr _ _ _ _ _ _ | .findVacuumOverdue _ _ | .findAnalyzeOverdue _ _
  | .findActiveVacuums _ | .terminateBackend _ | .getDeadTupleCount _ | .maintain _ _
  | .insertMaintenanceLog _ => False

/-- The operations before the first phase. -/
def Op.OfStart (settings : RunSettings) : Op → Prop
  | .call c => c.Opens settings
  | .mark _ => False
  | _ => True

attribute [local simp] Call.Opens Op.OfStart

section Start

variable {settings : RunSettings}

/-- The session is opened with the statement timeout of the settings. -/
theorem connect_of_start :
    (connect settings.statementTimeoutSeconds).Only (Op.OfStart settings) := by
  simp [connect, getServerVersionNum]

/-- All schemas are asked for only where the settings want them. -/
theorem requested_schemas_of_start :
    (requestedSchemas settings).Only (Op.OfStart settings) := by
  simp [requestedSchemas, discoverAllUserSchemas]

/-- The throttling that is sent is that of the settings. -/
theorem apply_throttle_of_start : (applyThrottle settings).Only (Op.OfStart settings) := by
  unfold applyThrottle
  cases hdelay : settings.vacuumCostDelayMs <;> cases hlimit : settings.vacuumCostLimit <;>
    simp [hdelay, hlimit]

/-- A sixteenth of the shared buffers, but no less than the server's own minimum of 128 kB. -/
theorem set_vacuum_buffer_usage_limit_of_start :
    setVacuumBufferUsageLimit.Only (Op.OfStart settings) := by
  refine Prog.Only.bind (by simp) fun bytes => ?_
  refine all_queryContext.2 ⟨?_, by simp⟩
  have hmin : 128 * 1024 ≤ max (bytes.tdiv 16) (128 * 1024) := le_max_right ..
  have hdiv : (128 * 1024 : Int).tdiv 1024 ≤ (max (bytes.tdiv 16) (128 * 1024)).tdiv 1024 :=
    Int.tdiv_le_tdiv (by decide) hmin
  exact hdiv

/-- No more workers than were asked for. -/
theorem effective_parallel_workers_le {n : Nat} (maxParallelWorkers : Int) :
    effectiveParallelWorkers (some n) maxParallelWorkers ≤ n :=
  (min_le_left _ _).trans (min_le_left _ _)

/-- What may fail is sent once, and computed from answers. -/
theorem apply_best_effort_of_start :
    (applyBestEffort settings.vacuumOptions.parallel).Only (Op.OfStart settings) := by
  refine set_vacuum_buffer_usage_limit_of_start.attempt.bind fun _ => ?_
  refine Prog.Only.bind (Prog.Only.attempt ?_) fun workers => ?_
  · refine Prog.Only.bind (by simp) fun maxParallelWorkers => ?_
    refine all_queryContext.2 ⟨?_, by simp⟩
    intro n hn
    rw [Option.mem_def.1 hn]
    exact effective_parallel_workers_le maxParallelWorkers
  · cases workers <;> simp

/-- The session gets the values of the settings. -/
theorem apply_session_settings_of_start :
    (applySessionSettings settings).Only (Op.OfStart settings) := by
  refine Prog.Only.bind (by simp) fun _ => ?_
  refine apply_throttle_of_start.bind fun _ => ?_
  refine apply_best_effort_of_start.bind fun _ => ?_
  simp

/-- Only a lag in the settings makes the start look at the standbys. -/
theorem open_lag_gate_of_start : (openLagGate settings).Only (Op.OfStart settings) := by
  unfold openLagGate
  cases hlag : settings.maxReplicaLagSeconds with
  | none => trivial
  | some threshold =>
      have hobserve : observeReplicaLag.Only (Op.OfStart settings) := by
        simp [observeReplicaLag, hlag]
      refine Prog.Only.bind (only_withContext ?_) fun _ => trivial
      refine hobserve.bind fun observation => ?_
      cases observation <;> simp

/-- The horizon is looked at unless the settings say not to. -/
theorem check_xmin_horizon_of_start : (checkXminHorizon settings).Only (Op.OfStart settings) := by
  simp only [checkXminHorizon, Prog.Only, Prog.all_ite]
  refine ⟨fun _ => trivial, fun hcheck => Prog.Only.bind (only_withContext ?_) fun _ => trivial⟩
  simp only [Bool.not_eq_true] at hcheck
  simp [observeXminHorizon, hcheck]

/-- Only listed tables are looked up. -/
theorem resolve_explicit_tables_of_start (schemas : List String) :
    (resolveExplicitTables settings.alsoTables schemas).Only (Op.OfStart settings) := by
  simp only [resolveExplicitTables, Prog.Only, Prog.all_ite]
  refine ⟨fun _ => trivial, fun _ => Prog.Only.bind (all_queryContext.2 ⟨?_, by simp⟩) fun _ =>
    trivial⟩
  intro t ht
  rw [List.zip_map'] at ht
  obtain ⟨listed, hlisted, rfl⟩ := List.mem_map.1 ht
  exact ⟨listed, List.mem_of_mem_filter hlisted, rfl⟩

/-- Every operation before the first phase is one of these. -/
theorem setup_of_start : (setup settings).Only (Op.OfStart settings) := by
  refine Prog.Only.bind (only_withContext connect_of_start) fun _ => ?_
  refine Prog.Only.bind (by simp) fun _ => ?_
  refine Prog.Only.bind ?_ fun schemas => ?_
  · exact requested_schemas_of_start.bind fun requested => by simp
  refine Prog.Only.bind (only_withContext (by simp [tryAcquireSchemaLock])) fun _ => ?_
  refine Prog.Only.bind (Prog.Only.attempt (by simp [ensureLogbookSchema])) fun _ => ?_
  refine apply_session_settings_of_start.bind fun _ => ?_
  refine Prog.Only.bind ?_ fun minAge => ?_
  · unfold effectiveWraparoundMinAge
    cases hpct : settings.wraparoundPct <;> simp [getFreezeMaxAge, hpct]
  refine open_lag_gate_of_start.bind fun gate => ?_
  refine check_xmin_horizon_of_start.bind fun _ => ?_
  exact Prog.Only.bind (only_withContext (resolve_explicit_tables_of_start _)) fun _ => trivial

section Run

variable {W : World session} {start : W.State} {good : Plan → Trace W → Trace W → Moment W → Prop}

/-- A step of a run belongs to its start, or it meets `good` for the plan that the start has
returned: with what was done at the start, and with what the phases have done so far. -/
def Staged (start : W.State) (settings : RunSettings)
    (good : Plan → Trace W → Trace W → Moment W → Prop) (past : Trace W) (m : Moment W) : Prop :=
  m.op.OfStart settings ∨ ∃ plan opening middle ready, past = opening ++ middle ∧
    Exec W start (setup settings) opening ready (.pure plan) ∧ good plan opening middle m

/-- A fact about the steps of the phases is one about the steps of a run. -/
theorem run_staged
    (h : ∀ plan opening ready, Exec W start (setup settings) opening ready (.pure plan) →
      wp W (good plan opening) (runPhases plan) (fun _ _ _ => True) (fun _ _ _ => True) [] ready) :
    wp W (Staged start settings good) (run settings) (fun _ _ _ => True) (fun _ _ _ => True) []
      start := by
  have hsetup : wp W (Staged start settings good) (setup settings)
      (fun plan past ready => ∃ work, past = [] ++ work ∧
        Exec W start (setup settings) work ready (.pure plan))
      (fun _ _ _ => True) [] start :=
    wp_mono (wp_safe setup_of_start Prog.wp_exec fun _ _ hm => .inl hm) (fun _ _ _ h => h)
      fun _ _ _ _ => trivial
  refine wp_bind.2 (wp_mono hsetup (fun plan opening ready hexec => ?_) fun _ _ _ _ => trivial)
  obtain ⟨_, rfl, hexec⟩ := hexec
  have hshift : wp W (Staged start settings good) (runPhases plan) (fun _ _ _ => True)
      (fun _ _ _ => True) (opening ++ []) ready := by
    refine wp_shift (wp_weaken (h plan opening ready hexec) fun middle m hm => ?_)
    exact .inr ⟨plan, opening, middle, ready, rfl, hexec, hm⟩
  rwa [List.append_nil] at hshift

/-- And one about the steps of the process. -/
theorem main_staged
    (h : ∀ plan opening ready, Exec W start (setup settings) opening ready (.pure plan) →
      wp W (good plan opening) (runPhases plan) (fun _ _ _ => True) (fun _ _ _ => True) [] ready) :
    wp W (Staged start settings good) (main settings) (fun _ _ _ => True) (fun _ _ _ => True) []
      start := by
  refine wp_seq_attempt (run_staged h) (fun _ _ _ _ => trivial) fun err past state _ => ?_
  exact fun now _ requested after _ => ⟨.inl trivial, trivial⟩

end Run

end Start

end PgMaintainer
