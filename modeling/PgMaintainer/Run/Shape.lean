import PgMaintainer.Run.Footprint

/-!
# The common shape of runners and phases

The eight runners and the eight phases are instances of one shape each. Properties of a run are
proved once for the shape; the instances say what tells the phases apart: the statement, the
set of tables the runner leaves out, and what the phase adds to the sets.
-/

namespace PgMaintainer

open Interaction

attribute [local simp] Op.Inert Call.Writes

/-- The statement with what surrounds it: VACUUM and VACUUM (ANALYZE) stand between two reads of
the dead-tuple count, VACUUM FREEZE and ANALYZE alone. -/
def Statement.operation : Statement → TableKey → PgM OperationResult
  | .vacuum options => betweenDeadTupleCounts (.vacuum options)
  | .vacuumAnalyze options => betweenDeadTupleCounts (.vacuumAnalyze options)
  | .freeze options => withoutDeadTupleCounts (.freeze options)
  | .analyze => withoutDeadTupleCounts .analyze

/-- `r` maintains a table with `statement`, and reports without touching a table or failing. -/
structure Runner.Performs (r : Runner) (statement : Statement) : Prop where
  operation : r.operation = statement.operation
  report : ∀ table result,
    (r.report table result).All Op.Reporting (fun _ => True) (fun _ => False)

/-- A report that never fails is still a report. -/
theorem Runner.Performs.reporting {r : Runner} {statement : Statement} (hr : r.Performs statement)
    (table : TableKey) (result : OperationResult) :
    (r.report table result).Only Op.Reporting :=
  (hr.report table result).mono (fun _ h => h) (fun _ h => h) fun _ _ => trivial

/-- What one pass of a runner's loop does with a table. -/
abbrev PassBody := Nat → TableKey → OperationSummary → Pass

/-- The two forms of a pass: with one lag gate, and with two. -/
inductive IsPass (policy : RunPolicy) (statement : Statement) (already : Option (List TableKey)) :
    PassBody → Prop where
  | once (r : Runner) (gate : Option ReplicaLagGate) (count : Nat) :
      r.Performs statement →
      IsPass policy statement already (gatedPass r policy gate already count)
  | twice (r : Runner) (gate : Option ReplicaLagGate) (count : Nat) :
      r.Performs statement →
      IsPass policy statement already fun i table summary =>
        visitTable r count i table summary <|
        unlessHandled already table summary <|
        afterLagGate gate policy table summary <|
        afterLagGate gate policy table summary <|
        afterActiveVacuums policy table summary fun summary =>
        maintainTable r policy count i table summary

/-- A runner of `phase` over `tables`. -/
inductive IsRunner (policy : RunPolicy) (phase : Phase) (statement : Statement)
    (already : Option (List TableKey)) (tables : List TableKey) :
    RunM OperationSummary → Prop where
  | intro (pass : PassBody) :
      IsPass policy statement already pass →
      IsRunner policy phase statement already tables (runTables phase pass tables)

/-- Whether a runner leaves a table out. -/
def LeavesOut (already : Option (List TableKey)) (table : TableKey) : Prop :=
  ∃ tables ∈ already, table ∈ tables

section LeavesOut

variable {already : Option (List TableKey)} {table : TableKey} {summary : OperationSummary}
  {body : Pass}

/-- A table that is left out is skipped as handled. -/
theorem unless_handled_left_out (h : LeavesOut already table) :
    unlessHandled already table summary body =
      (do pure (.next (← skipTable summary table .alreadyHandled))) := by
  obtain ⟨tables, rfl, hmem⟩ := h
  simp only [unlessHandled, hmem, if_true]

/-- Any other goes on. -/
theorem unless_handled_taken (h : ¬LeavesOut already table) :
    unlessHandled already table summary body = body := by
  cases already with
  | none => rfl
  | some tables =>
      have hmem : table ∉ tables := fun hmem => h ⟨tables, rfl, hmem⟩
      simp only [unlessHandled, hmem, if_false]

end LeavesOut

/-! ## What a pass performs -/

/-- `φ` admits a pass but for its statement: what is inert, the marks of the pass and, in a real
run, the terminations. -/
structure Op.AdmitsPass (φ : Op → Prop) (dryRun : Bool) : Prop where
  inert : ∀ op : Op, op.Inert → φ op
  visit : ∀ table, φ (.mark (.visit table))
  tally : ∀ table tally, φ (.mark (.tally table tally))
  terminate : dryRun = false → ∀ pid, φ (.call (.terminateBackend pid))

namespace Op.AdmitsPass

variable {φ : Op → Prop} {r : Runner} {statement : Statement} {policy : RunPolicy}
  {table : TableKey} {summary : OperationSummary} {body : Pass}

/-- What is inert may stand anywhere in a pass. -/
theorem only {ε α : Type} {p : Prog session ε α} (hφ : AdmitsPass φ policy.dryRun)
    (hp : p.Only Op.Inert) : p.Only φ :=
  hp.mono hφ.inert (fun _ h => h) (fun _ h => h)

/-- A skipped table is counted. -/
theorem skip_table (hφ : AdmitsPass φ policy.dryRun) (reason : SkipReason) :
    (skipTable summary table reason).Only φ := by
  simp [skipTable, hφ.tally]

/-- The head of a pass. -/
theorem visit_table (hφ : AdmitsPass φ policy.dryRun) (hbody : body.Only φ) (count i : Nat) :
    (visitTable r count i table summary body).Only φ := by
  refine Prog.Only.bind (by simp [hφ.visit]) fun _ => ?_
  refine (hφ.only (by simp)).bind fun closed => ?_
  simp only [Prog.Only, Prog.all_ite]
  refine ⟨fun _ => ?_, fun _ => ?_⟩
  · exact (hφ.only (by simp [connectionLostError])).bind fun _ => trivial
  refine (hφ.only (by simp)).bind fun requested => ?_
  simp only [Prog.Only, Prog.all_ite]
  exact ⟨fun _ => trivial, fun _ => hbody⟩

/-- The replica-lag gate comes before the rest of a pass. -/
theorem after_lag_gate (hφ : AdmitsPass φ policy.dryRun) (hbody : body.Only φ)
    (gate : Option ReplicaLagGate) : (afterLagGate gate policy table summary body).Only φ := by
  cases gate with
  | none => exact hbody
  | some gate =>
      refine (hφ.only (wait_for_replica_lag_inert gate table policy)).bind fun verdict => ?_
      cases verdict with
      | proceed => exact hbody
      | skipTable => exact (hφ.skip_table _).bind fun _ => trivial
      | shutdownRequested => trivial

/-- The second gate probes, counts and, in a real run, terminates. -/
theorem handle_active_vacuums (hφ : AdmitsPass φ policy.dryRun) :
    (handleActiveVacuums table policy summary).Only φ :=
  handle_active_vacuums_only (hφ.inert _ (by simp)) hφ.terminate
    (hφ.tally table)

/-- It comes before the statement. -/
theorem after_active_vacuums {body : OperationSummary → Pass} (hφ : AdmitsPass φ policy.dryRun)
    (hbody : ∀ summary, (body summary).Only φ) :
    (afterActiveVacuums policy table summary body).Only φ := by
  refine hφ.handle_active_vacuums.bind fun verdict => ?_
  obtain ⟨proceed, summary⟩ := verdict
  cases proceed
  · trivial
  · exact hbody summary

/-- A pass performs nothing but what surrounds the statement and, unless the table is left out,
the statement. -/
theorem pass {already : Option (List TableKey)} {pass : PassBody} (hφ : AdmitsPass φ policy.dryRun)
    (hpass : IsPass policy statement already pass)
    (hmaintain : ¬LeavesOut already table → ∀ r count i summary, r.Performs statement →
      (maintainTable r policy count i table summary).Only φ) (i : Nat) :
    (pass i table summary).Only φ := by
  -- a table that is left out never comes to the gates
  by_cases hout : LeavesOut already table
  · have hskip : ∀ body, (unlessHandled already table summary body).Only φ := by
      intro body
      rw [unless_handled_left_out hout]
      exact (hφ.skip_table _).bind fun _ => trivial
    cases hpass with
    | once r gate count hr => exact hφ.visit_table (hskip _) count i
    | twice r gate count hr => exact hφ.visit_table (hskip _) count i
  · cases hpass with
    | once r gate count hr =>
        refine hφ.visit_table ?_ count i
        rw [unless_handled_taken hout]
        refine hφ.after_lag_gate (hφ.after_active_vacuums fun summary => ?_) gate
        exact hmaintain hout r count i summary hr
    | twice r gate count hr =>
        refine hφ.visit_table ?_ count i
        rw [unless_handled_taken hout]
        refine hφ.after_lag_gate (hφ.after_lag_gate ?_ gate) gate
        exact hφ.after_active_vacuums fun summary => hmaintain hout r count i summary hr

end Op.AdmitsPass

/-- The operations of one pass: with the statement and the table it may maintain, if any. -/
def Op.OfPass (target : Option (Statement × TableKey)) : Op → Prop
  | .call (.maintain statement table) => target = some (statement, table)
  | .mark (.candidates _ _) | .log (.completed ..) => False
  | _ => True

attribute [local simp] Op.OfPass

/-- What may happen around a statement may happen in any pass. -/
theorem Op.Record.ofPass {target : Option (Statement × TableKey)} {op : Op} (h : op.Record) :
    op.OfPass target := by
  unfold Op.Record at h
  unfold Op.OfPass
  split at h <;> simp_all

section OfPass

variable {target : Option (Statement × TableKey)} {r : Runner} {statement : Statement}
  {policy : RunPolicy} {table : TableKey} {summary : OperationSummary}

/-- A statement is one call, with a read before and after it or without. -/
theorem operation_only {φ : Op → Prop} (hmaintain : φ (.call (.maintain statement table)))
    (hcount : φ (.call (.getDeadTupleCount table))) : (statement.operation table).Only φ := by
  cases statement <;>
    simp [Statement.operation, betweenDeadTupleCounts, withoutDeadTupleCounts, hmaintain, hcount]

/-- A statement with what surrounds it: `P` holds up to the statement, and `M` from there on. -/
theorem wp_operation {W : World session} {ok : Trace W → Moment W → Prop}
    {P M : Trace W → W.State → Prop} {F : PgError → Trace W → W.State → Prop}
    {past : Trace W} {state : W.State}
    (hread : ∀ past state, P past state →
      wp W ok (query (.getDeadTupleCount table)) (fun _ => P) F past state)
    (hmaintain : ∀ past state, P past state →
      wp W ok (query (.maintain statement table)) (fun _ => M) F past state)
    (hagain : ∀ past state, M past state →
      wp W ok (query (.getDeadTupleCount table)) (fun _ => M) F past state)
    (h : P past state) : wp W ok (statement.operation table) (fun _ => M) F past state := by
  have hbetween : wp W ok (betweenDeadTupleCounts statement table) (fun _ => M) F past state := by
    refine wp_seq (hread past state h) fun before past state h => ?_
    refine wp_seq (hmaintain past state h) fun _ past state h => ?_
    exact wp_seq (hagain past state h) fun _ _ _ h => h
  have hwithout : wp W ok (withoutDeadTupleCounts statement table) (fun _ => M) F past state :=
    wp_seq (hmaintain past state h) fun _ _ _ h => h
  cases statement with
  | vacuum => exact hbetween
  | vacuumAnalyze => exact hbetween
  | freeze => exact hwithout
  | analyze => exact hwithout

/-- The retries add a read of the flag and a sleep. By induction on the retries left. -/
theorem retry_loop_only {φ : Op → Prop} {op : PgM OperationResult} (hop : op.Only φ)
    (hrequested : φ .shutdownRequested) (hsleep : ∀ nanoseconds, φ (.sleepOrShutdown nanoseconds))
    (left delayMs : Nat) : (retryLoop op left delayMs).Only φ := by
  induction left generalizing delayMs with
  | zero => exact hop
  | succ left ih =>
      refine hop.attempt.bind fun result => ?_
      cases result with
      | ok => trivial
      | error err =>
          simp only [Prog.Only, Prog.all_ite]
          refine ⟨fun _ => trivial, fun _ => ?_⟩
          refine Prog.Only.bind (by simp [hrequested]) fun requested => ?_
          simp only [Prog.Only, Prog.all_ite]
          refine ⟨fun _ => trivial, fun _ => ?_⟩
          refine Prog.Only.bind (by simp [hsleep]) fun wake => ?_
          cases wake with
          | shutdown => trivial
          | slept => exact ih _

/-- A table whose turn it is: its statement with the reads around it, and what counts. -/
theorem maintain_table_only {φ : Op → Prop} (hr : r.Performs statement)
    (hrecord : ∀ op : Op, op.Record → φ op) (hmaintain : φ (.call (.maintain statement table)))
    (hcount : φ (.call (.getDeadTupleCount table))) (count i : Nat) :
    (maintainTable r policy count i table summary).Only φ := by
  have honly : ∀ {ε α : Type} {p : Prog session ε α}, p.Only Op.Record → p.Only φ :=
    fun hp => hp.mono hrecord (fun _ h => h) fun _ h => h
  simp only [maintainTable, Prog.Only, Prog.all_ite]
  refine ⟨fun _ => honly (by simp [Op.Record]), fun _ => ?_⟩
  refine (honly (by simp [Op.Record])).bind fun start => ?_
  have hoperation : (r.operation table).Only φ := by
    rw [hr.operation]
    exact operation_only hmaintain hcount
  have hretry : (withLockTimeoutRetry policy (r.operation table)).Only φ :=
    retry_loop_only hoperation (hrecord _ trivial) (fun _ => hrecord _ trivial) _ _
  refine hretry.attempt.bind fun outcome => ?_
  refine (honly (by simp [Op.Record])).bind fun time => ?_
  -- what is recorded of the end, in the order in which the source tells them apart
  cases outcome with
  | ok result =>
      exact (record_success_record hr.report result _).mono hrecord (fun _ _ => trivial)
        (fun _ _ => trivial)
  | error err =>
      refine (honly (by simp [Op.Record])).bind fun requested => ?_
      cases classifyOpError err requested with
      | connectionLost =>
          exact (honly (only_record (connection_lost_error_aside ..))).bind fun _ => trivial
      | shutdownInterrupted =>
          exact (honly (handle_shutdown_interrupt_record _)).bind fun _ => trivial
      | lockTimeout =>
          exact (record_failure_record err _).mono hrecord (fun _ _ => trivial)
            (fun _ _ => trivial)
      | other =>
          exact (record_failure_record err _).mono hrecord (fun _ _ => trivial)
            (fun _ _ => trivial)

/-- The statement of a pass is that of its target. -/
theorem maintain_table_of_pass (hr : r.Performs statement) (count i : Nat) :
    (maintainTable r policy count i table summary).Only
      (Op.OfPass (some (statement, table))) :=
  maintain_table_only hr (fun _ => Op.Record.ofPass) rfl trivial count i

/-- A pass maintains its own table, with the runner's statement, unless it is left out. -/
theorem pass_of_pass {already : Option (List TableKey)} {pass : PassBody}
    (hpass : IsPass policy statement already pass) (i : Nat) :
    (pass i table summary).Only fun op => op.OfPass none ∨
      ¬LeavesOut already table ∧ op.OfPass (some (statement, table)) := by
  have hφ : Op.AdmitsPass (fun op => op.OfPass none ∨
      ¬LeavesOut already table ∧ op.OfPass (some (statement, table))) policy.dryRun :=
    ⟨fun _ h => .inl h.aside.record.ofPass, fun _ => .inl trivial, fun _ _ => .inl trivial,
      fun _ _ => .inl trivial⟩
  refine hφ.pass hpass (fun hout r count i summary hr => ?_) i
  exact (maintain_table_of_pass hr count i).mono (fun _ h => .inr ⟨hout, h⟩) (fun _ h => h)
    (fun _ h => h)

end OfPass

/-- The operations of a runner's loop: only its candidates are maintained, only with its
statement, and none that is left out. -/
def Op.OfRunner (statement : Statement) (already : Option (List TableKey))
    (tables : List TableKey) : Op → Prop
  | .call (.maintain s table) => s = statement ∧ table ∈ tables ∧ ¬LeavesOut already table
  | .mark (.candidates _ _) | .log (.completed ..) => False
  | _ => True

/-- The loop of a runner performs nothing else. -/
theorem sweep_of_runner {policy : RunPolicy} {statement : Statement}
    {already : Option (List TableKey)} {tables : List TableKey} {pass : PassBody}
    (hpass : IsPass policy statement already pass) (summary : OperationSummary) :
    (Prog.sweep pass 0 tables summary).Only (Op.OfRunner statement already tables) := by
  refine Prog.only_sweep fun i table summary htable => ?_
  refine (pass_of_pass hpass i).mono ?_ (fun _ h => h) (fun _ h => h)
  rintro op (h | ⟨hout, h⟩)
  · unfold Op.OfPass at h
    split at h <;> simp_all [Op.OfRunner]
  · unfold Op.OfPass at h
    split at h <;> simp_all [Op.OfRunner]

section Runners

variable (policy : RunPolicy) (options : VacuumOptions) (gate : Option ReplicaLagGate)

/-- Phase 1's runner vacuums and leaves nothing out. -/
theorem run_vacuum_never_vacuumed_is_runner (tables : List TableInfo) :
    IsRunner policy .neverVacuumed (.vacuum options) none (tables.map TableInfo.key)
      (runVacuumNeverVacuumed tables policy options gate) :=
  ⟨_, .once _ _ _ ⟨rfl, reporting_admits_report.report_change⟩⟩

/-- Phase 2's runner analyzes and leaves nothing out. -/
theorem run_analyze_never_analyzed_is_runner (tables : List TableInfo) :
    IsRunner policy .neverAnalyzed .analyze none (tables.map TableInfo.key)
      (runAnalyzeNeverAnalyzed tables policy gate) :=
  ⟨_, .once _ _ _ ⟨rfl, Op.AdmitsReport.report_nothing⟩⟩

/-- Phase 3's runner freezes and leaves nothing out. -/
theorem run_freeze_wraparound_is_runner (tables : List FreezeTableInfo) :
    IsRunner policy .preventWraparound (.freeze options) none (tables.map FreezeTableInfo.key)
      (runFreezeWraparound tables policy options gate) :=
  ⟨_, .once _ _ _ ⟨rfl, Op.AdmitsReport.report_nothing⟩⟩

/-- Phase 4's runner vacuums, without the tables that were handled before. -/
theorem run_bloat_vacuum_is_runner (tables : List BloatTableInfo) (handled : List TableKey) :
    IsRunner policy .preventBloat (.vacuum options) (some handled)
      (tables.map BloatTableInfo.key) (runBloatVacuum tables policy handled options gate) :=
  ⟨_, .once _ _ _ ⟨rfl, reporting_admits_report.report_change_or_blocker policy⟩⟩

/-- Phase 5's runner vacuums, without the tables that were vacuumed before. -/
theorem run_needs_vacuum_is_runner (tables : List NeedsVacuumTableInfo)
    (vacuumed : List TableKey) :
    IsRunner policy .needsVacuum (.vacuum options) (some vacuumed)
      (tables.map NeedsVacuumTableInfo.key) (runNeedsVacuum tables policy vacuumed options gate) :=
  ⟨_, .once _ _ _ ⟨rfl, reporting_admits_report.report_change_or_blocker policy⟩⟩

/-- Phase 6's runner vacuums, without the tables that were vacuumed before. -/
theorem run_vacuum_overdue_is_runner (tables : List OverdueVacuumTableInfo)
    (vacuumed : List TableKey) :
    IsRunner policy .vacuumOverdue (.vacuum options) (some vacuumed)
      (tables.map OverdueVacuumTableInfo.key)
      (runVacuumOverdue tables policy vacuumed options gate) :=
  ⟨_, .once _ _ _ ⟨rfl, Op.AdmitsReport.report_nothing⟩⟩

/-- Phase 7's runner analyzes, without the tables that were analyzed before. -/
theorem run_analyze_overdue_is_runner (tables : List OverdueAnalyzeTableInfo)
    (analyzed : List TableKey) :
    IsRunner policy .analyzeOverdue .analyze (some analyzed)
      (tables.map OverdueAnalyzeTableInfo.key) (runAnalyzeOverdue tables policy analyzed gate) :=
  ⟨_, .once _ _ _ ⟨rfl, Op.AdmitsReport.report_nothing⟩⟩

/-- Phase 8's runner does both, without the tables that were handled before. -/
theorem run_also_tables_is_runner (tables : List ExplicitTable) (handled : List TableKey) :
    IsRunner policy .alsoTables (.vacuumAnalyze options) (some handled)
      (tables.map ExplicitTable.key) (runAlsoTables tables policy handled options gate) :=
  ⟨_, .twice _ _ _ ⟨rfl, reporting_admits_report.report_decrease⟩⟩

end Runners

/-- One of the eight runners over these tables, as a function of the policy. -/
inductive PhaseRunner : Phase → List TableKey → (RunPolicy → RunM OperationSummary) → Prop where
  | neverVacuumed (tables : List TableInfo) (options : VacuumOptions)
      (gate : Option ReplicaLagGate) :
      PhaseRunner .neverVacuumed (tables.map TableInfo.key) fun policy =>
        runVacuumNeverVacuumed tables policy options gate
  | neverAnalyzed (tables : List TableInfo) (gate : Option ReplicaLagGate) :
      PhaseRunner .neverAnalyzed (tables.map TableInfo.key) fun policy =>
        runAnalyzeNeverAnalyzed tables policy gate
  | preventWraparound (tables : List FreezeTableInfo) (options : VacuumOptions)
      (gate : Option ReplicaLagGate) :
      PhaseRunner .preventWraparound (tables.map FreezeTableInfo.key) fun policy =>
        runFreezeWraparound tables policy options gate
  | preventBloat (tables : List BloatTableInfo) (handled : List TableKey)
      (options : VacuumOptions) (gate : Option ReplicaLagGate) :
      PhaseRunner .preventBloat (tables.map BloatTableInfo.key) fun policy =>
        runBloatVacuum tables policy handled options gate
  | needsVacuum (tables : List NeedsVacuumTableInfo) (vacuumed : List TableKey)
      (options : VacuumOptions) (gate : Option ReplicaLagGate) :
      PhaseRunner .needsVacuum (tables.map NeedsVacuumTableInfo.key) fun policy =>
        runNeedsVacuum tables policy vacuumed options gate
  | vacuumOverdue (tables : List OverdueVacuumTableInfo) (vacuumed : List TableKey)
      (options : VacuumOptions) (gate : Option ReplicaLagGate) :
      PhaseRunner .vacuumOverdue (tables.map OverdueVacuumTableInfo.key) fun policy =>
        runVacuumOverdue tables policy vacuumed options gate
  | analyzeOverdue (tables : List OverdueAnalyzeTableInfo) (analyzed : List TableKey)
      (gate : Option ReplicaLagGate) :
      PhaseRunner .analyzeOverdue (tables.map OverdueAnalyzeTableInfo.key) fun policy =>
        runAnalyzeOverdue tables policy analyzed gate
  | alsoTables (tables : List ExplicitTable) (handled : List TableKey)
      (options : VacuumOptions) (gate : Option ReplicaLagGate) :
      PhaseRunner .alsoTables (tables.map ExplicitTable.key) fun policy =>
        runAlsoTables tables policy handled options gate

/-- Each of them has the common shape. -/
theorem PhaseRunner.isRunner {phase : Phase} {tables : List TableKey}
    {runner : RunPolicy → RunM OperationSummary} (h : PhaseRunner phase tables runner) :
    ∃ statement already, ∀ policy,
      IsRunner policy phase statement already tables (runner policy) := by
  cases h with
  | neverVacuumed tables options gate =>
      exact ⟨_, _, fun policy => run_vacuum_never_vacuumed_is_runner policy options gate tables⟩
  | neverAnalyzed tables gate =>
      exact ⟨_, _, fun policy => run_analyze_never_analyzed_is_runner policy gate tables⟩
  | preventWraparound tables options gate =>
      exact ⟨_, _, fun policy => run_freeze_wraparound_is_runner policy options gate tables⟩
  | preventBloat tables handled options gate =>
      exact ⟨_, _, fun policy => run_bloat_vacuum_is_runner policy options gate tables handled⟩
  | needsVacuum tables vacuumed options gate =>
      exact ⟨_, _, fun policy => run_needs_vacuum_is_runner policy options gate tables vacuumed⟩
  | vacuumOverdue tables vacuumed options gate =>
      exact ⟨_, _, fun policy => run_vacuum_overdue_is_runner policy options gate tables vacuumed⟩
  | analyzeOverdue tables analyzed gate =>
      exact ⟨_, _, fun policy => run_analyze_overdue_is_runner policy gate tables analyzed⟩
  | alsoTables tables handled options gate =>
      exact ⟨_, _, fun policy => run_also_tables_is_runner policy options gate tables handled⟩

/-- `r` maintains a table with `statement`, and reports with a change of the estimate at most. -/
structure Runner.Of (r : Runner) (statement : Statement) : Prop where
  operation : r.operation = statement.operation
  report : ∀ {φ : Op → Prop}, Op.AdmitsReport φ → ∀ table result,
    (r.report table result).All φ (fun _ => True) (fun _ => False)

/-- A runner whose report any admitting predicate admits performs its statement. -/
theorem Runner.Of.performs {r : Runner} {statement : Statement} (hr : r.Of statement) :
    r.Performs statement :=
  ⟨hr.operation, hr.report reporting_admits_report⟩

/-- The loop of `r` over `tables`, with one lag gate or with two. -/
inductive Runner.Loops (r : Runner) (policy : RunPolicy) (phase : Phase)
    (already : Option (List TableKey)) (tables : List TableKey) : RunM OperationSummary → Prop where
  | once (gate : Option ReplicaLagGate) (count : Nat) :
      r.Loops policy phase already tables
        (runTables phase (gatedPass r policy gate already count) tables)
  | twice (gate : Option ReplicaLagGate) (count : Nat) :
      r.Loops policy phase already tables
        (runTables phase (fun i table summary =>
          visitTable r count i table summary <|
          unlessHandled already table summary <|
          afterLagGate gate policy table summary <|
          afterLagGate gate policy table summary <|
          afterActiveVacuums policy table summary fun summary =>
          maintainTable r policy count i table summary) tables)

/-- Each of the eight is such a loop. -/
theorem PhaseRunner.loops {phase : Phase} {tables : List TableKey}
    {runner : RunPolicy → RunM OperationSummary} (h : PhaseRunner phase tables runner)
    (policy : RunPolicy) : ∃ r statement already, Runner.Of r statement ∧
      r.Loops policy phase already tables (runner policy) := by
  cases h with
  | neverVacuumed tables options gate =>
      exact ⟨_, .vacuum options, _, ⟨rfl, fun hφ => hφ.report_change⟩, .once _ _⟩
  | neverAnalyzed tables gate =>
      exact ⟨_, .analyze, _, ⟨rfl, fun _ => Op.AdmitsReport.report_nothing⟩, .once _ _⟩
  | preventWraparound tables options gate =>
      exact ⟨_, .freeze options, _, ⟨rfl, fun _ => Op.AdmitsReport.report_nothing⟩, .once _ _⟩
  | preventBloat tables handled options gate =>
      exact ⟨_, .vacuum options, _, ⟨rfl, fun hφ => hφ.report_change_or_blocker policy⟩,
        .once _ _⟩
  | needsVacuum tables vacuumed options gate =>
      exact ⟨_, .vacuum options, _, ⟨rfl, fun hφ => hφ.report_change_or_blocker policy⟩,
        .once _ _⟩
  | vacuumOverdue tables vacuumed options gate =>
      exact ⟨_, .vacuum options, _, ⟨rfl, fun _ => Op.AdmitsReport.report_nothing⟩, .once _ _⟩
  | analyzeOverdue tables analyzed gate =>
      exact ⟨_, .analyze, _, ⟨rfl, fun _ => Op.AdmitsReport.report_nothing⟩, .once _ _⟩
  | alsoTables tables handled options gate =>
      exact ⟨_, .vacuumAnalyze options, _, ⟨rfl, fun hφ => hφ.report_decrease⟩, .twice _ _⟩

/-- What tells the phases apart: the statement of the phase, the set its runner leaves out, and
what the phase adds to the sets. -/
structure PhaseSpec where
  statement : Statement
  consults : Seen → Option (List TableKey)
  update : Seen → List TableKey → Seen

/-- The spec of each phase, with the VACUUM options of the run. -/
def Phase.spec (options : VacuumOptions) : Phase → PhaseSpec
  | .neverVacuumed => ⟨.vacuum options, fun _ => none, Seen.addVacuumed⟩
  | .neverAnalyzed => ⟨.analyze, fun _ => none, Seen.addAnalyzed⟩
  | .preventWraparound => ⟨.freeze options, fun _ => none, Seen.addVacuumed⟩
  | .preventBloat => ⟨.vacuum options, fun seen => some seen.handled, Seen.addVacuumed⟩
  | .needsVacuum => ⟨.vacuum options, fun seen => some seen.vacuumed, Seen.addVacuumed⟩
  | .vacuumOverdue => ⟨.vacuum options, fun seen => some seen.vacuumed, Seen.addHandled⟩
  | .analyzeOverdue => ⟨.analyze, fun seen => some seen.analyzed, Seen.addHandled⟩
  | .alsoTables =>
    ⟨.vacuumAnalyze options, fun seen => some seen.handled, fun seen _ => seen⟩

/-- Whether a phase is enabled: its mode is, or there are explicit tables. -/
def Plan.enables (plan : Plan) : Phase → Bool
  | .neverVacuumed => plan.enabled .neverVacuumed
  | .neverAnalyzed => plan.enabled .neverAnalyzed
  | .preventWraparound => plan.enabled .preventWraparound
  | .preventBloat => plan.enabled .preventBloat
  | .needsVacuum => plan.enabled .needsVacuum
  | .vacuumOverdue => plan.enabled .vacuumOverdue
  | .analyzeOverdue => plan.enabled .analyzeOverdue
  | .alsoTables => !plan.alsoTables.isEmpty

/-- A phase: candidates are found without a write, the runner gets them, and the sets
grow by them. -/
inductive IsPhase (plan : Plan) (phase : Phase) : (Seen → PhaseM) → Prop where
  | intro {α : Type} (discover : RunM α) (keys : α → List TableKey)
      (runner : Seen → α → RunM OperationSummary) (text : String) :
      discover.Only Op.Inert →
      (∀ seen found, IsRunner plan.policy phase (phase.spec plan.settings.vacuumOptions).statement
        ((phase.spec plan.settings.vacuumOptions).consults seen) (keys found)
        (runner seen found)) →
      IsPhase plan phase fun seen => phaseGuard (plan.enables phase) seen do
        log (.phaseStarted phase)
        let found ← discover
        let summary ← withContext (runner seen found) text
        pure (summary, (phase.spec plan.settings.vacuumOptions).update seen (keys found))

section Phases

variable (plan : Plan)

/-- One query, then the vacuum of phase 1. -/
theorem phase_never_vacuumed_is_phase :
    IsPhase plan .neverVacuumed (phaseNeverVacuumed plan) :=
  .intro _ (List.map TableInfo.key) _ _ (by simp [findNeverVacuumed])
    fun _ _ => run_vacuum_never_vacuumed_is_runner ..

/-- One query, then the analyze of phase 2. -/
theorem phase_never_analyzed_is_phase :
    IsPhase plan .neverAnalyzed (phaseNeverAnalyzed plan) :=
  .intro _ (List.map TableInfo.key) _ _ (by simp [findNeverAnalyzed])
    fun _ _ => run_analyze_never_analyzed_is_runner ..

/-- One query, then the freeze of phase 3. -/
theorem phase_prevent_wraparound_is_phase :
    IsPhase plan .preventWraparound (phasePreventWraparound plan) :=
  .intro _ (List.map FreezeTableInfo.key) _ _
    (by simp [findWraparoundCandidates])
    fun _ _ => run_freeze_wraparound_is_runner ..

/-- One query, then the vacuum of phase 4. -/
theorem phase_prevent_bloat_is_phase :
    IsPhase plan .preventBloat (phasePreventBloat plan) :=
  .intro _ (List.map BloatTableInfo.key) _ _ (by simp [findBloatCandidates])
    fun _ _ => run_bloat_vacuum_is_runner ..

/-- Up to two queries, then the vacuum of phase 5. -/
theorem phase_needs_vacuum_is_phase :
    IsPhase plan .needsVacuum (phaseNeedsVacuum plan) :=
  .intro _ (List.map NeedsVacuumTableInfo.key) _ _ (discover_needs_vacuum_inert plan)
    fun _ _ => run_needs_vacuum_is_runner ..

/-- One query, then the vacuum of phase 6. -/
theorem phase_vacuum_overdue_is_phase :
    IsPhase plan .vacuumOverdue (phaseVacuumOverdue plan) :=
  .intro _ (List.map OverdueVacuumTableInfo.key) _ _
    (by simp [findVacuumOverdueCandidates])
    fun _ _ => run_vacuum_overdue_is_runner ..

/-- One query, then the analyze of phase 7. -/
theorem phase_analyze_overdue_is_phase :
    IsPhase plan .analyzeOverdue (phaseAnalyzeOverdue plan) :=
  .intro _ (List.map OverdueAnalyzeTableInfo.key) _ _
    (by simp [findAnalyzeOverdueCandidates])
    fun _ _ => run_analyze_overdue_is_runner ..

/-- No query, then phase 8 over the explicit tables of the plan. -/
theorem phase_also_tables_is_phase :
    IsPhase plan .alsoTables (phaseAlsoTables plan) :=
  .intro (pure ()) (fun _ => plan.alsoTables.map ExplicitTable.key) _ _ trivial
    fun _ _ => run_also_tables_is_runner ..

end Phases

end PgMaintainer
