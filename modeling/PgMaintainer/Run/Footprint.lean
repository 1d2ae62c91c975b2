import PgMaintainer.Rules
import PgMaintainer.Run.Phases

/-!
# What the parts of a run perform

`Aside` is every operation that is neither on the table of a pass nor a mark. Most of a run is
aside: the start, the queries for candidates, the gates, the reports. What is left, the
statement with its two dead-tuple reads and the marks, is in `maintainTable` and around it.
-/

namespace PgMaintainer

open Interaction

/-- Operations that neither maintain a table, nor read its dead tuples, nor mark, nor report the
end of the run. -/
def Op.Aside : Op → Prop
  | .call (.maintain _ _) | .call (.getDeadTupleCount _) | .mark _ | .log (.completed ..) => False
  | _ => True

/-- Statements that change the database or another session: DDL, COMMENT, INSERT, VACUUM and
ANALYZE, and `pg_terminate_backend`. -/
def Call.Writes : Call → Prop
  | .createSchema | .createLogbookTable | .createIndexTable | .createIndexTime
  | .commentBefore | .commentRemoved | .insertMaintenanceLog _ | .maintain _ _
  | .terminateBackend _ => True
  | _ => False

/-- Operations that are aside and write nothing. The query that precedes the set-up of the
logbook is not among them. -/
def Op.Inert : Op → Prop
  | .call (.schemaExists _) | .call (.getDeadTupleCount _) | .mark _ | .log (.completed ..) => False
  | .call c => ¬c.Writes
  | _ => True

attribute [local simp] Op.Aside Call.Writes Op.Inert

/-- What writes nothing is aside. -/
theorem Op.Inert.aside {op : Op} (h : op.Inert) : op.Aside := by
  unfold Op.Aside
  split
  · exact h trivial
  · exact h
  · exact h
  · exact h
  · trivial

/-- The calls whose failure the program ignores by design: the rows of the logbook, and what
describes a blocker of the vacuum horizon. -/
def Call.BestEffort : Call → Prop
  | .insertMaintenanceLog _ | .getCanReadActivityXmin | .findXminHorizonBlockers => True
  | _ => False

/-- The calls that a table's statement consists of. -/
def Call.OfStatement (table : TableKey) : Call → Prop
  | .maintain _ name | .getDeadTupleCount name => name = table
  | _ => False

/-- What a report consists of: log lines and best-effort calls. -/
def Op.Reporting : Op → Prop
  | .call c => c.BestEffort
  | .log (.completed ..) => False
  | .log _ => True
  | _ => False

/-- A program that writes nothing. -/
theorem only_aside {ε α : Type} {p : Prog session ε α} (h : p.Only Op.Inert) : p.Only Op.Aside :=
  h.mono (fun _ => Op.Inert.aside) (fun _ h => h) (fun _ h => h)

/-- A report of a success is aside. -/
theorem Op.Reporting.aside {op : Op} (h : op.Reporting) : op.Aside := by
  unfold Op.Aside
  split
  · exact h
  · exact h
  · exact h
  · exact h
  · trivial

section Gates

/-- An observation of the standbys only reads. -/
theorem observe_replica_lag_inert : observeReplicaLag.Only Op.Inert := by
  simp [observeReplicaLag]

/-- The total of the waits is no part of the database. -/
theorem add_waited_inert (started : Nat) : (addWaited started).Only Op.Inert := by
  simp [addWaited]

/-- To give up a wait changes the gate alone. -/
theorem give_up_waiting_inert (started : Nat) : (giveUpWaiting started).Only Op.Inert :=
  (add_waited_inert started).bind fun _ => by simp

/-- By induction on the rounds left. -/
theorem wait_for_replica_lag_loop_inert (gate : ReplicaLagGate) (table : TableKey)
    (started rounds : Nat) :
    (waitForReplicaLagLoop gate table started rounds).Only Op.Inert := by
  induction rounds with
  | zero => exact give_up_waiting_inert started
  | succ rounds ih =>
      refine Prog.Only.bind (by simp) fun time => ?_
      simp only [Prog.Only, Prog.all_ite]
      refine ⟨fun _ => give_up_waiting_inert started, fun _ => ?_⟩
      refine Prog.Only.bind (by simp) fun wake => ?_
      cases wake with
      | shutdown => exact (add_waited_inert started).bind fun _ => trivial
      | slept =>
          refine observe_replica_lag_inert.bind fun current => ?_
          simp only [Prog.Only, Prog.all_ite]
          refine ⟨fun _ => (add_waited_inert started).bind fun _ => by simp, fun _ => ?_⟩
          refine Prog.Only.bind (by simp) fun time => ?_
          simp only [Prog.Only, Prog.all_ite]
          exact ⟨fun _ => give_up_waiting_inert started, fun _ => ih⟩

/-- The replica-lag gate reads, sleeps and counts, and writes nothing. -/
theorem wait_for_replica_lag_inert (gate : ReplicaLagGate) (table : TableKey)
    (policy : RunPolicy) : (waitForReplicaLag gate table policy).Only Op.Inert := by
  refine Prog.Only.bind (by simp) fun disabled => ?_
  simp only [Prog.Only, Prog.all_ite]
  refine ⟨fun _ => trivial, fun _ => observe_replica_lag_inert.bind fun observation => ?_⟩
  cases observation with
  | noReplicas => simp
  | unobservable => simp
  | observed standbys =>
      simp only [Prog.Only, Prog.all_ite]
      refine ⟨fun _ => trivial, fun _ => ⟨fun _ => trivial, fun _ => ⟨fun _ => ?_, fun _ => ?_⟩⟩⟩
      · simp
      · exact Prog.Only.bind (by simp) fun _ => wait_for_replica_lag_loop_inert ..

/-- The probe for running VACUUMs only reads. -/
theorem find_active_vacuums_inert (table : TableKey) :
    (findActiveVacuums table).Only Op.Inert := by
  refine Prog.Only.bind (by simp) fun answer => ?_
  cases answer <;> trivial

section ActiveVacuums

variable {φ : Op → Prop} {policy : RunPolicy}

/-- By induction on the backends. -/
theorem terminate_backends_only (hterminate : ∀ pid, φ (.call (.terminateBackend pid)))
    (pids : List Int) : (terminateBackends pids).Only φ := by
  induction pids with
  | nil => trivial
  | cons pid pids ih => exact Prog.Only.bind (by simp [hterminate]) fun _ => ih

/-- A dry run terminates nothing. -/
theorem terminate_in_real_run_only
    (hterminate : policy.dryRun = false → ∀ pid, φ (.call (.terminateBackend pid)))
    (pids : List Int) : (terminateInRealRun policy pids).Only φ := by
  simp only [terminateInRealRun, Prog.Only, Prog.all_ite]
  refine ⟨fun _ => trivial, fun hreal => ?_⟩
  exact terminate_backends_only (hterminate (by simpa using hreal)) pids

/-- The gate performs one query, the terminations, and the count of a skipped table. -/
theorem handle_active_vacuums_only {table : TableKey} {summary : OperationSummary}
    (hfind : φ (.call (.findActiveVacuums table)))
    (hterminate : policy.dryRun = false → ∀ pid, φ (.call (.terminateBackend pid)))
    (htally : ∀ tally, φ (.mark (.tally table tally))) :
    (handleActiveVacuums table policy summary).Only φ := by
  have hskip : (do pure (false, ← skipTable summary table .activeVacuum) : RunM _).Only φ := by
    simp [skipTable, htally]
  refine Prog.Only.bind ?_ fun sessions => ?_
  · refine Prog.Only.bind (by simp [hfind]) fun answer => ?_
    cases answer <;> trivial
  simp only [Prog.Only, Prog.all_ite]
  refine ⟨fun _ => trivial, fun _ => ⟨fun _ => hskip, fun _ => ?_⟩⟩
  refine (terminate_in_real_run_only hterminate _).bind fun _ => ?_
  simp only [Prog.Only, Prog.all_ite]
  refine ⟨fun _ => trivial, fun _ => ⟨fun _ => ?_, fun _ => hskip⟩⟩
  exact (terminate_in_real_run_only hterminate _).bind fun _ => trivial

end ActiveVacuums

/-- Terminations touch sessions and no table. -/
theorem terminate_in_real_run_aside (policy : RunPolicy) (pids : List Int) :
    (terminateInRealRun policy pids).Only Op.Aside :=
  terminate_in_real_run_only (fun _ _ => trivial) pids

end Gates

section Reports

/-- The logbook is written beside the tables that are maintained. -/
theorem log_maintenance_operation_aside (dryRun : Bool) (entry : LogEntry) :
    (logMaintenanceOperation dryRun entry).Only Op.Aside := by
  simp [logMaintenanceOperation]

/-- The report of a lost connection is a log line. -/
theorem connection_lost_error_aside (operation : String) (table : TableKey)
    (position : Option (Nat × Nat)) (cause : String) :
    (connectionLostError operation table position cause).Only Op.Aside := by
  simp [connectionLostError]

/-- An observation of the vacuum horizon only reads. -/
theorem observe_xmin_horizon_inert : observeXminHorizon.Only Op.Inert := by
  simp [observeXminHorizon]

/-- `φ` admits what is logged about a success. -/
structure Op.AdmitsReport (φ : Op → Prop) : Prop where
  change : ∀ operation table reduced blockedBy,
    φ (.log (.deadTupleChange operation table reduced blockedBy))
  canRead : φ (.call .getCanReadActivityXmin)
  blockers : φ (.call .findXminHorizonBlockers)

namespace Op.AdmitsReport

variable {φ : Op → Prop} (hφ : AdmitsReport φ) (policy : RunPolicy) (table : TableKey)
  (result : OperationResult)

include hφ

/-- What the description of a blocker performs is admitted by whatever admits a report. -/
theorem describe_worst_xmin_blocker : describeWorstXminBlocker.Only φ := by
  have hobserve : observeXminHorizon.Only φ := by
    simp [observeXminHorizon, hφ.canRead, hφ.blockers]
  refine hobserve.bind fun observation => ?_
  rcases observation with _ | (_ | _) <;> trivial

omit hφ in
/-- The runners that report nothing perform nothing. -/
theorem report_nothing :
    (reportNothing table result).All φ (fun _ => True) (fun _ => False) := trivial

/-- The report of the change performs what a report may, and it never fails. -/
theorem report_change : (reportChange table result).All φ (fun _ => True) (fun _ => False) := by
  unfold reportChange
  cases result.deadTuplesReducedApprox <;> simp [hφ.change]

/-- An error of the diagnostics is ignored. -/
theorem report_change_or_blocker :
    (reportChangeOrBlocker policy table result).All φ (fun _ => True) (fun _ => False) := by
  unfold reportChangeOrBlocker
  cases result.deadTuplesReducedApprox with
  | none => trivial
  | some n =>
      simp only [Prog.all_ite]
      refine ⟨fun _ => ⟨fun _ => ?_, fun _ => ?_⟩, fun _ => ?_⟩
      · refine Prog.all_bind.2 (Prog.all_attempt.2 ?_)
        refine hφ.describe_worst_xmin_blocker.mono (fun _ h => h) (fun blocker _ => ?_)
          (fun _ _ => by simp [hφ.change])
        cases blocker <;> simp [hφ.change]
      · simp [hφ.change]
      · simp [hφ.change]

/-- The report of a decrease is a log line, or nothing. -/
theorem report_decrease :
    (reportDecrease table result).All φ (fun _ => True) (fun _ => False) := by
  unfold reportDecrease
  cases result.deadTuplesReducedApprox <;> simp [hφ.change]

end Op.AdmitsReport

/-- Reports are made of the operations of reports. -/
theorem reporting_admits_report : Op.AdmitsReport Op.Reporting :=
  ⟨fun _ _ _ _ => trivial, trivial, trivial⟩

end Reports

/-! ## Counting -/

/-- Operations that are aside, and the counters. -/
def Op.Record : Op → Prop
  | .call (.maintain _ _) | .call (.getDeadTupleCount _) => False
  | .mark (.candidates _ _) | .mark (.visit _) | .log (.completed ..) => False
  | _ => True

attribute [local simp] Op.Record

/-- What is aside may happen around a statement. -/
theorem Op.Aside.record {op : Op} (h : op.Aside) : op.Record := by
  unfold Op.Aside at h
  unfold Op.Record
  split at h <;> simp_all

section Record

variable {policy : RunPolicy} {table : TableKey} {summary : OperationSummary}

/-- Whatever is aside may be part of a record. -/
theorem only_record {ε α : Type} {p : Prog session ε α} (h : p.Only Op.Aside) :
    p.Only Op.Record :=
  h.mono (fun _ => Op.Aside.record) (fun _ h => h) (fun _ h => h)

/-- A skipped table is counted, and that is all. -/
theorem skip_table_record (reason : SkipReason) :
    (skipTable summary table reason).Only Op.Record := by
  simp [skipTable]

variable {r : Runner}

/-- A success is counted and the loop goes on. -/
theorem record_success_record
    (hreport : ∀ table result,
      (r.report table result).All Op.Reporting (fun _ => True) (fun _ => False))
    (result : OperationResult) (durationMs : Int) :
    (recordSuccess r policy summary table result durationMs).All Op.Record Flow.GoesOn
      (fun _ => False) := by
  refine Prog.all_bind.2 ((hreport table result).mono (fun _ h => h.aside.record) (fun _ _ => ?_)
    (fun _ h => h))
  simp [logMaintenanceOperation, Flow.Sat]

/-- So is a failure. -/
theorem record_failure_record (err : PgError) (durationMs : Int) :
    (recordFailure r policy summary table err durationMs).All Op.Record Flow.GoesOn
      (fun _ => False) := by
  simp only [recordFailure, Prog.all_ite]
  refine ⟨fun _ => ?_, fun _ => ?_⟩
  · simp [skipTable, Flow.Sat]
  · simp [logMaintenanceOperation, Flow.Sat]

/-- The clean-up after an interruption counts the table and may write its row. -/
theorem handle_shutdown_interrupt_record (durationMs : Int) :
    (handleShutdownInterrupt r policy summary table durationMs).Only Op.Record := by
  refine (skip_table_record _).bind fun summary => ?_
  refine Prog.Only.bind (by simp) fun closed => ?_
  simp only [Prog.Only, Prog.all_ite]
  refine ⟨fun _ => trivial, fun _ => ?_⟩
  exact (only_record (log_maintenance_operation_aside ..)).bind fun _ => trivial

end Record

section Discovery

/-- A default in the place of an error adds no step. -/
theorem or_else_inert {α : Type} {p : RunM α} (hp : p.Only Op.Inert) (fallback : α) :
    (orElse p fallback).Only Op.Inert := by
  refine hp.attempt.bind fun result => ?_
  cases result <;> trivial

/-- The cap on the threshold is read or known. -/
theorem get_vacuum_max_threshold_inert (serverVersionNum : Int) :
    (getVacuumMaxThreshold serverVersionNum).Only Op.Inert := by
  simp [getVacuumMaxThreshold]

/-- The second query of phase 5 only reads. -/
theorem find_needs_vacuum_max_threshold_candidates_inert (schemas : List String)
    (table : Option String) (maxThreshold : ℚ) (serverVersionNum minBytes maxBytes : Int) :
    (findNeedsVacuumMaxThresholdCandidates schemas table maxThreshold serverVersionNum minBytes
      maxBytes).Only Op.Inert := by
  refine Prog.Only.bind (by simp) fun answer => ?_
  cases answer <;> trivial

/-- All queries of phase 5 only read. -/
theorem discover_needs_vacuum_inert (plan : Plan) :
    (discoverNeedsVacuum plan).Only Op.Inert := by
  refine (or_else_inert (by simp [getVacuumSettings]) _).bind fun _ => ?_
  refine Prog.Only.bind (by simp [findNeedsVacuumCandidates]) fun _ => ?_
  refine (or_else_inert (by simp [getServerVersionNum]) _).bind fun _ => ?_
  refine (or_else_inert (get_vacuum_max_threshold_inert _) _).bind fun _ => ?_
  exact (or_else_inert (find_needs_vacuum_max_threshold_candidates_inert ..) _).bind
    fun _ => trivial

end Discovery

section Setup

/-- A context around an error adds no step. -/
theorem only_withContext {α : Type} {φ : Op → Prop} {p : RunM α} {text : String}
    (hp : p.Only φ) : (withContext p text).Only φ :=
  all_withContext.2 hp

/-- To connect writes nothing to the database. -/
theorem connect_inert (statementTimeoutSeconds : Nat) :
    (connect statementTimeoutSeconds).Only Op.Inert := by
  simp [connect, getServerVersionNum]

/-- The schemas are read, or taken from the command line. -/
theorem resolve_schemas_inert (settings : RunSettings) :
    (resolveSchemas settings).Only Op.Inert := by
  simp [resolveSchemas, requestedSchemas, discoverAllUserSchemas]

/-- An advisory lock is no change of the database. -/
theorem try_acquire_schema_lock_inert (schemas : List String) :
    (tryAcquireSchemaLock schemas).Only Op.Inert := by
  simp [tryAcquireSchemaLock]

/-- The DDL of the logbook is beside the tables that are maintained. -/
theorem ensure_logbook_schema_aside : ensureLogbookSchema.Only Op.Aside := by
  simp [ensureLogbookSchema]

/-- Throttling is a matter of the session. -/
theorem apply_throttle_inert (settings : RunSettings) :
    (applyThrottle settings).Only Op.Inert := by
  unfold applyThrottle
  cases settings.vacuumCostDelayMs <;> cases settings.vacuumCostLimit <;>
    simp

/-- So are the settings that may fail. -/
theorem apply_best_effort_inert (parallel : Option Nat) :
    (applyBestEffort parallel).Only Op.Inert := by
  refine Prog.Only.bind (Prog.Only.attempt ?_) fun _ => ?_
  · simp [setVacuumBufferUsageLimit]
  refine Prog.Only.bind (Prog.Only.attempt ?_) fun workers => ?_
  · simp [setMaxParallelMaintenanceWorkers]
  cases workers <;> simp

/-- All settings change the session alone. -/
theorem apply_session_settings_inert (settings : RunSettings) :
    (applySessionSettings settings).Only Op.Inert := by
  refine Prog.Only.bind (by simp) fun _ => ?_
  refine (apply_throttle_inert settings).bind fun _ => ?_
  refine (apply_best_effort_inert _).bind fun _ => ?_
  simp

/-- The age of phase 3 is read or given. -/
theorem effective_wraparound_min_age_inert (settings : RunSettings) :
    (effectiveWraparoundMinAge settings).Only Op.Inert := by
  unfold effectiveWraparoundMinAge
  cases settings.wraparoundPct <;> simp [getFreezeMaxAge]

/-- The first observation of the standbys only reads. -/
theorem log_initial_replica_lag_inert : logInitialReplicaLag.Only Op.Inert := by
  refine observe_replica_lag_inert.bind fun observation => ?_
  cases observation <;> simp

/-- The gate is made after at most an observation. -/
theorem open_lag_gate_inert (settings : RunSettings) :
    (openLagGate settings).Only Op.Inert := by
  unfold openLagGate
  cases settings.maxReplicaLagSeconds with
  | none => trivial
  | some threshold =>
      exact (only_withContext log_initial_replica_lag_inert).bind fun _ => trivial

/-- The check of the horizon reads and logs. -/
theorem check_xmin_horizon_inert (settings : RunSettings) :
    (checkXminHorizon settings).Only Op.Inert := by
  simp only [checkXminHorizon, Prog.Only, Prog.all_ite]
  exact ⟨fun _ => trivial,
    fun _ => (only_withContext observe_xmin_horizon_inert).bind fun _ => trivial⟩

/-- The explicit tables are looked up with one query. -/
theorem resolve_explicit_tables_inert (requested : List ExplicitTable) (schemas : List String) :
    (resolveExplicitTables requested schemas).Only Op.Inert := by
  simp [resolveExplicitTables]

/-- Before the first phase nothing is maintained, and the plan carries the settings. -/
theorem setup_all (settings : RunSettings) :
    (setup settings).All Op.Aside (fun plan => plan.settings = settings) (fun _ => True) := by
  have hseq : ∀ {α β : Type} {p : RunM α} {f : α → RunM β} {R : β → Prop}, p.Only Op.Aside →
      (∀ value, (f value).All Op.Aside R (fun _ => True)) →
      (p >>= f).All Op.Aside R (fun _ => True) := fun hp hf =>
    Prog.all_bind.2 (hp.mono (fun _ h => h) (fun value _ => hf value) (fun _ h => h))
  refine hseq (only_aside (only_withContext (connect_inert _))) fun _ => ?_
  refine hseq (by simp) fun _ => ?_
  refine hseq (only_aside (resolve_schemas_inert settings)) fun schemas => ?_
  refine hseq (only_aside (only_withContext (try_acquire_schema_lock_inert schemas))) fun _ => ?_
  refine hseq ensure_logbook_schema_aside.attempt fun _ => ?_
  refine hseq (only_aside (apply_session_settings_inert settings)) fun _ => ?_
  refine hseq (only_aside (effective_wraparound_min_age_inert settings)) fun _ => ?_
  refine hseq (only_aside (open_lag_gate_inert settings)) fun _ => ?_
  refine hseq (only_aside (check_xmin_horizon_inert settings)) fun _ => ?_
  exact hseq (only_aside (only_withContext (resolve_explicit_tables_inert ..))) fun _ => rfl

/-- The plan carries the settings. -/
theorem setup_settings {W : World session} {settings : RunSettings} {plan : Plan}
    {before : Trace W} {start middle : W.State}
    (h : Exec W start (setup settings) before middle (.pure plan)) : plan.settings = settings := by
  have hkeep : W.Keeps (fun _ _ => True) Op.Aside fun _ _ => True := fun _ _ _ _ _ _ _ _ _ _ =>
    ⟨trivial, trivial⟩
  obtain ⟨_, _, hplan, _⟩ := h.returned (wp_of_all (setup_all settings) hkeep trivial)
  exact hplan

/-- The whole start maintains no table, counts none and does not end the run. -/
theorem setup_aside (settings : RunSettings) : (setup settings).Only Op.Aside :=
  (setup_all settings).mono (fun _ h => h) (fun _ _ => trivial) (fun _ h => h)

/-- The exit code follows from what was counted and from the flag. -/
theorem verdict_aside (failed : Nat) : (verdict failed).Only Op.Aside := by
  simp [verdict]

/-- Operations that are aside, and the report of the end. -/
def Op.Closing : Op → Prop
  | .log (.completed ..) => True
  | op => op.Aside

attribute [local simp] Op.Closing

/-- What is aside may also happen when the run ends. -/
theorem Op.Aside.closing {op : Op} (h : op.Aside) : op.Closing := by
  unfold Op.Closing
  split
  · trivial
  · exact h

/-- Nor is anything maintained after the last phase. -/
theorem finish_closing (total : OperationSummary) : (finish total).Only Op.Closing := by
  simp [finish, verdict]

end Setup

end PgMaintainer
