import PgMaintainer.Interaction.Compose
import PgMaintainer.Run.Shape

/-!
# A run around the replication-lag gate

A whole run observes the standbys in two places, once at the start and in the wait before a table.
Everything else consists of operations that have nothing to do with the gate. So an invariant of the
gate is proved for these two places alone.
-/

namespace PgMaintainer

open Interaction

/-- Operations that are not the gate's own: they neither read the standbys nor the gate's state. -/
def Op.Unwatched : Op → Prop
  | .call .getCanReadReplicationStats | .call .getReplicationLag | .gateIsDisabled | .gateDisable
  | .gateAddWaited _ | .gateRecordSkip | .log (.lagRecovered _) => False
  | _ => True

attribute [local simp] Op.Unwatched

/-- The wait before a table. -/
inductive LagBlock : (ε α : Type) → Prog session ε α → Prop where
  | wait (gate : ReplicaLagGate) (table : TableKey) (policy : RunPolicy) :
      LagBlock AnyError LagGateVerdict (waitForReplicaLag gate table policy)

/-- A program that has to do with the gate in its waits only. -/
abbrev Watched {ε α : Type} (p : Prog session ε α) : Prop := Composed Op.Unwatched LagBlock p

section Requests

variable {α : Type}

/-- A context around an error keeps the watch. -/
theorem watched_withContext {p : RunM α} {text : String} (hp : Watched p) :
    Watched (withContext p text) := by
  refine .bind (.attempt hp) fun result => ?_
  cases result with
  | ok => exact .only trivial
  | error => exact .only trivial

end Requests

/-! ## One table -/

section Pass

variable {r : Runner} {policy : RunPolicy} {table : TableKey} {summary : OperationSummary}
  {body : Pass}

/-- A runner whose operation and report have nothing to do with the gate. -/
structure Runner.Unwatched (r : Runner) : Prop where
  operation : ∀ table, (r.operation table).Only Op.Unwatched
  report : ∀ table result, (r.report table result).Only Op.Unwatched

/-- A skipped table does not look at the gate. -/
theorem skip_table_unwatched (reason : SkipReason) :
    (skipTable summary table reason).Only Op.Unwatched := by
  simp [skipTable]

/-- Nor does a row of the logbook. -/
theorem log_maintenance_operation_unwatched (dryRun : Bool) (entry : LogEntry) :
    (logMaintenanceOperation dryRun entry).Only Op.Unwatched := by
  simp [logMaintenanceOperation]

/-- Nor does the report of a lost connection. -/
theorem connection_lost_error_unwatched (operation : String) (position : Option (Nat × Nat))
    (detail : String) :
    (connectionLostError operation table position detail).Only Op.Unwatched := by
  simp [connectionLostError]

/-- The head of a pass leaves the gate to its body. -/
theorem visit_table_watched (hbody : Watched body) (count i : Nat) :
    Watched (visitTable r count i table summary body) := by
  refine .bind (.only (by simp)) fun _ => ?_
  refine .bind (.only (by simp)) fun closed => .ite (fun _ => ?_) fun _ => ?_
  · exact .bind (.only (connection_lost_error_unwatched ..)) fun _ => .only trivial
  refine .bind (.only (by simp)) fun requested => .ite (fun _ => ?_) fun _ => ?_
  · exact .only trivial
  · exact hbody

/-- So does the set of the tables that were handled before. -/
theorem unless_handled_watched {already : Option (List TableKey)} (hbody : Watched body) :
    Watched (unlessHandled already table summary body) := by
  cases already with
  | none => exact hbody
  | some handled =>
      refine .ite (fun _ => ?_) fun _ => hbody
      exact .bind (.only (skip_table_unwatched _)) fun _ => .only trivial

/-- The gate itself is watched. -/
theorem after_lag_gate_watched {gate : Option ReplicaLagGate} (hbody : Watched body) :
    Watched (afterLagGate gate policy table summary body) := by
  cases gate with
  | none => exact hbody
  | some gate =>
      refine .bind (.block (.wait gate table policy)) fun verdict => ?_
      cases verdict with
      | proceed => exact hbody
      | skipTable => exact .bind (.only (skip_table_unwatched _)) fun _ => .only trivial
      | shutdownRequested => exact .only trivial

/-- The second gate does not look at the first. -/
theorem after_active_vacuums_watched {body : OperationSummary → Pass}
    (hbody : ∀ summary, Watched (body summary)) :
    Watched (afterActiveVacuums policy table summary body) := by
  refine .bind (.only (handle_active_vacuums_only trivial (fun _ _ => trivial) fun _ => trivial))
    fun result => .ite (fun _ => ?_) fun _ => ?_
  · exact hbody _
  · exact .only trivial

/-- What a success leads to is no matter of the gate. -/
theorem record_success_unwatched (hr : r.Unwatched) (result : OperationResult)
    (durationMs : Int) :
    (recordSuccess r policy summary table result durationMs).Only Op.Unwatched := by
  refine (hr.report table result).bind fun _ => ?_
  refine (log_maintenance_operation_unwatched _ _).bind fun _ => ?_
  simp

/-- Nor is what a failure leads to. -/
theorem record_failure_unwatched (err : PgError) (durationMs : Int) :
    (recordFailure r policy summary table err durationMs).Only Op.Unwatched := by
  simp only [recordFailure, Prog.Only, Prog.all_ite]
  refine ⟨fun _ => (skip_table_unwatched _).bind fun _ => trivial, fun _ => ?_⟩
  refine (log_maintenance_operation_unwatched _ _).bind fun _ => ?_
  simp

/-- Nor is the clean-up after an interruption. -/
theorem handle_shutdown_interrupt_unwatched (durationMs : Int) :
    (handleShutdownInterrupt r policy summary table durationMs).Only Op.Unwatched := by
  refine (skip_table_unwatched _).bind fun summary => ?_
  refine Prog.Only.bind (by simp) fun closed => ?_
  simp only [Prog.Only, Prog.all_ite]
  refine ⟨fun _ => trivial, fun _ => ?_⟩
  exact (log_maintenance_operation_unwatched _ _).bind fun _ => trivial

/-- The statement comes after the gates. -/
theorem maintain_table_unwatched (hr : r.Unwatched) (count i : Nat) :
    (maintainTable r policy count i table summary).Only Op.Unwatched := by
  simp only [maintainTable, Prog.Only, Prog.all_ite]
  refine ⟨fun _ => by simp, fun _ => ?_⟩
  refine Prog.Only.bind (by simp) fun start => ?_
  have hretry : (withLockTimeoutRetry policy (r.operation table)).Only Op.Unwatched :=
    retry_loop_only (hr.operation table) trivial (fun _ => trivial) _ _
  refine hretry.attempt.bind fun outcome => ?_
  refine Prog.Only.bind (by simp) fun time => ?_
  cases outcome with
  | ok result => exact record_success_unwatched hr result _
  | error err =>
      refine Prog.Only.bind (by simp) fun requested => ?_
      cases classifyOpError err requested with
      | connectionLost => exact (connection_lost_error_unwatched ..).bind fun _ => trivial
      | shutdownInterrupted =>
          exact (handle_shutdown_interrupt_unwatched _).bind fun _ => trivial
      | lockTimeout => exact record_failure_unwatched err _
      | other => exact record_failure_unwatched err _

end Pass

/-! ## The runners -/

section Runners

variable (policy : RunPolicy) (options : VacuumOptions) (gate : Option ReplicaLagGate)

/-- A runner that maintains with `statement`. -/
theorem Runner.unwatched {r : Runner} (statement : Statement)
    (hoperation : r.operation = statement.operation)
    (hreport : ∀ table result,
      (r.report table result).All Op.Unwatched (fun _ => True) (fun _ => False)) :
    r.Unwatched where
  operation table := by
    rw [hoperation]
    exact operation_only trivial trivial
  report table result :=
    (hreport table result).mono (fun _ h => h) (fun _ h => h) fun _ _ => trivial

/-- A report does not look at the gate. -/
theorem unwatched_admits_report : Op.AdmitsReport Op.Unwatched :=
  ⟨fun _ _ _ _ => trivial, trivial, trivial⟩

variable {policy gate}

/-- A pass looks at the gate only where it is watched. -/
theorem gated_pass_watched {r : Runner} (hr : r.Unwatched) (already : Option (List TableKey))
    (count i : Nat) (table : TableKey) (summary : OperationSummary) :
    Watched (gatedPass r policy gate already count i table summary) := by
  refine visit_table_watched (unless_handled_watched (after_lag_gate_watched ?_)) count i
  exact after_active_vacuums_watched fun summary => .only (maintain_table_unwatched hr count i)

/-- So does the loop over the tables. -/
theorem run_tables_watched {phase : Phase} {body : PassBody}
    (hbody : ∀ i table summary, Watched (body i table summary)) (tables : List TableKey) :
    Watched (runTables phase body tables) := by
  refine .bind (.only (by simp)) fun _ => ?_
  exact .sweep (fun i table summary _ => hbody i table summary) 0 _

/-- Phase 1's runner is watched. -/
theorem run_vacuum_never_vacuumed_watched (tables : List TableInfo) :
    Watched (runVacuumNeverVacuumed tables policy options gate) :=
  run_tables_watched (gated_pass_watched
    (Runner.unwatched (.vacuum options) rfl unwatched_admits_report.report_change) none _) _

/-- Phase 2's runner is watched. -/
theorem run_analyze_never_analyzed_watched (tables : List TableInfo) :
    Watched (runAnalyzeNeverAnalyzed tables policy gate) :=
  run_tables_watched (gated_pass_watched
    (Runner.unwatched .analyze rfl Op.AdmitsReport.report_nothing) none _) _

/-- Phase 3's runner is watched. -/
theorem run_freeze_wraparound_watched (tables : List FreezeTableInfo) :
    Watched (runFreezeWraparound tables policy options gate) :=
  run_tables_watched (gated_pass_watched
    (Runner.unwatched (.freeze options) rfl Op.AdmitsReport.report_nothing) none _) _

/-- Phase 4's runner is watched. -/
theorem run_bloat_vacuum_watched (tables : List BloatTableInfo) (handled : List TableKey) :
    Watched (runBloatVacuum tables policy handled options gate) :=
  run_tables_watched (gated_pass_watched
    (Runner.unwatched (.vacuum options) rfl
      (unwatched_admits_report.report_change_or_blocker policy)) _ _) _

/-- Phase 5's runner is watched. -/
theorem run_needs_vacuum_watched (tables : List NeedsVacuumTableInfo)
    (vacuumed : List TableKey) :
    Watched (runNeedsVacuum tables policy vacuumed options gate) :=
  run_tables_watched (gated_pass_watched
    (Runner.unwatched (.vacuum options) rfl
      (unwatched_admits_report.report_change_or_blocker policy)) _ _) _

/-- Phase 6's runner is watched. -/
theorem run_vacuum_overdue_watched (tables : List OverdueVacuumTableInfo)
    (vacuumed : List TableKey) :
    Watched (runVacuumOverdue tables policy vacuumed options gate) :=
  run_tables_watched (gated_pass_watched
    (Runner.unwatched (.vacuum options) rfl Op.AdmitsReport.report_nothing) _ _) _

/-- Phase 7's runner is watched. -/
theorem run_analyze_overdue_watched (tables : List OverdueAnalyzeTableInfo)
    (analyzed : List TableKey) :
    Watched (runAnalyzeOverdue tables policy analyzed gate) :=
  run_tables_watched (gated_pass_watched
    (Runner.unwatched .analyze rfl Op.AdmitsReport.report_nothing) _ _) _

/-- Phase 8's runner goes through the gate twice, and is watched both times. -/
theorem run_also_tables_watched (tables : List ExplicitTable) (handled : List TableKey) :
    Watched (runAlsoTables tables policy handled options gate) := by
  refine run_tables_watched (fun i table summary => ?_) _
  have hr : Runner.Unwatched ⟨"VACUUM ANALYZE", "VACUUM ANALYZE", "also-tables",
      vacuumAnalyzeTable options, reportDecrease⟩ :=
    Runner.unwatched (.vacuumAnalyze options) rfl unwatched_admits_report.report_decrease
  refine visit_table_watched (unless_handled_watched (after_lag_gate_watched
    (after_lag_gate_watched ?_))) _ i
  exact after_active_vacuums_watched fun summary => .only (maintain_table_unwatched hr _ i)

end Runners

/-! ## The phases and the start -/

section Run

variable (plan : Plan) (seen : Seen)

/-- A phase, from its discovery and its runner. -/
theorem phase_watched {α : Type} {enabled : Bool} {phase : Phase} (discover : RunM α)
    (runner : α → RunM OperationSummary) (update : α → Seen) {text : String}
    (hdiscover : discover.Only Op.Unwatched) (hrunner : ∀ found, Watched (runner found)) :
    Watched (phaseGuard enabled seen do
      log (.phaseStarted phase)
      let found ← discover
      let summary ← withContext (runner found) text
      pure (summary, update found)) := by
  refine .ite (fun _ => ?_) fun _ => .only trivial
  refine .bind (.only (by simp)) fun requested => .ite (fun _ => ?_) fun _ => ?_
  · exact .only trivial
  refine .bind (.only (by simp)) fun _ => ?_
  refine .bind (.only hdiscover) fun found => ?_
  exact .bind (watched_withContext (hrunner found)) fun _ => .only trivial

/-- A default in the place of an error does not look at the gate. -/
theorem or_else_unwatched {α : Type} {p : RunM α} (hp : p.Only Op.Unwatched) (fallback : α) :
    (orElse p fallback).Only Op.Unwatched := by
  refine hp.attempt.bind fun result => ?_
  cases result <;> trivial

/-- The queries of phase 5 are no matter of the gate. -/
theorem discover_needs_vacuum_unwatched : (discoverNeedsVacuum plan).Only Op.Unwatched := by
  refine (or_else_unwatched (by simp [getVacuumSettings]) _).bind fun _ => ?_
  refine Prog.Only.bind (by simp [findNeedsVacuumCandidates]) fun _ => ?_
  refine (or_else_unwatched (by simp [getServerVersionNum]) _).bind fun _ => ?_
  refine (or_else_unwatched (by simp [getVacuumMaxThreshold]) _).bind fun _ => ?_
  refine Prog.Only.bind (or_else_unwatched ?_ _) fun _ => trivial
  refine Prog.Only.bind (by simp) fun answer => ?_
  cases answer <;> trivial

/-- Each phase. -/
theorem phases_watched {phase : Seen → PhaseM} (h : phase ∈ phases plan) :
    Watched (phase seen) := by
  simp only [phases, List.mem_cons, List.not_mem_nil, or_false] at h
  obtain rfl | rfl | rfl | rfl | rfl | rfl | rfl | rfl := h
  · exact phase_watched seen _ _ _ (by simp [findNeverVacuumed])
      fun found => run_vacuum_never_vacuumed_watched _ found
  · exact phase_watched seen _ _ _ (by simp [findNeverAnalyzed])
      fun found => run_analyze_never_analyzed_watched found
  · exact phase_watched seen _ _ _ (by simp [findWraparoundCandidates])
      fun found => run_freeze_wraparound_watched _ found
  · exact phase_watched seen _ _ _ (by simp [findBloatCandidates])
      fun found => run_bloat_vacuum_watched _ found _
  · exact phase_watched seen _ _ _ (discover_needs_vacuum_unwatched plan)
      fun found => run_needs_vacuum_watched _ found _
  · exact phase_watched seen _ _ _ (by simp [findVacuumOverdueCandidates])
      fun found => run_vacuum_overdue_watched _ found _
  · exact phase_watched seen _ _ _ (by simp [findAnalyzeOverdueCandidates])
      fun found => run_analyze_overdue_watched found _
  · exact phase_watched seen (pure ()) (fun _ => runAlsoTables plan.alsoTables plan.policy
      seen.handled plan.settings.vacuumOptions plan.lagGate) (fun _ => seen) trivial
      fun _ => run_also_tables_watched _ plan.alsoTables _

/-- The phases one after the other. By induction on the phases left. -/
theorem run_in_order_watched {ps : List (Seen → PhaseM)}
    (hphases : ∀ phase ∈ ps, ∀ seen, Watched (phase seen)) (total : OperationSummary)
    (seen : Seen) : Watched (runInOrder ps total seen) := by
  induction ps generalizing total seen with
  | nil => exact .only trivial
  | cons phase rest ih =>
      refine .bind (hphases phase List.mem_cons_self seen) fun result => ?_
      exact ih (fun phase hphase => hphases phase (List.mem_cons_of_mem _ hphase)) _ _

/-- Nor are the settings of the session. -/
theorem apply_session_settings_unwatched (settings : RunSettings) :
    (applySessionSettings settings).Only Op.Unwatched := by
  have hthrottle : (applyThrottle settings).Only Op.Unwatched := by
    unfold applyThrottle
    cases settings.vacuumCostDelayMs <;> cases settings.vacuumCostLimit <;> simp
  have hbest : ∀ parallel, (applyBestEffort parallel).Only Op.Unwatched := by
    intro parallel
    refine Prog.Only.bind (Prog.Only.attempt ?_) fun _ => ?_
    · simp [setVacuumBufferUsageLimit]
    refine Prog.Only.bind (Prog.Only.attempt ?_) fun workers => ?_
    · simp [setMaxParallelMaintenanceWorkers]
    cases workers <;> simp
  refine Prog.Only.bind (by simp) fun _ => ?_
  refine hthrottle.bind fun _ => (hbest _).bind fun _ => ?_
  simp

/-- Nor is the end of the run. -/
theorem finish_unwatched (total : OperationSummary) : (finish total).Only Op.Unwatched := by
  simp [finish, verdict]

/-- All phases look at the gate only where it is watched. -/
theorem run_phases_watched : Watched (runPhases plan) := by
  refine .bind (run_in_order_watched (fun phase h seen => phases_watched plan seen h) {} {}) ?_
  exact fun total => .only (finish_unwatched total)

end Run

/-! ## The rule for a run -/

section Rule

variable {W : World session} {ok : Trace W → Moment W → Prop} {J I : Trace W → W.State → Prop}
  {past : Trace W} {state : W.State}

/-- What a property of the gate needs: `J` holds until the standbys are first looked at, and `I`
from then on. -/
structure WatchRules (W : World session) (ok : Trace W → Moment W → Prop)
    (J I : Trace W → W.State → Prop) : Prop where
  weaken : ∀ past state, J past state → I past state
  before : W.Keeps ok Op.Unwatched J
  aside : W.Keeps ok Op.Unwatched I
  initial : ∀ past state, J past state →
    wp W ok logInitialReplicaLag (fun _ => I) (fun _ => I) past state
  wait : ∀ gate table policy past state, I past state →
    wp W ok (waitForReplicaLag gate table policy) (fun _ => I) (fun _ => I) past state

namespace WatchRules

/-- Before the first look. -/
theorem early {α : Type} {p : RunM α} (rules : WatchRules W ok J I) (hp : p.Only Op.Unwatched)
    (hJ : J past state) : wp W ok p (fun _ => J) (fun _ => I) past state :=
  wp_of_only hp rules.before (fun _ past state h => rules.weaken past state h) hJ

/-- After it. -/
theorem late {ε α : Type} {p : Prog session ε α} (rules : WatchRules W ok J I) (hp : Watched p)
    (hI : I past state) : wp W ok p (fun _ => I) (fun _ => I) past state := by
  refine hp.keeps rules.aside (fun ε α p hblock past state hI => ?_) hI
  cases hblock with
  | wait gate table policy => exact rules.wait gate table policy past state hI

/-- The gate is opened by one observation, which the rules cover. -/
theorem open_lag_gate (rules : WatchRules W ok J I) (settings : RunSettings) (hJ : J past state) :
    wp W ok (openLagGate settings) (fun _ => I) (fun _ => I) past state := by
  unfold openLagGate
  cases settings.maxReplicaLagSeconds with
  | none => exact rules.weaken past state hJ
  | some threshold =>
      exact wp_seq (wp_withContext.2 (rules.initial past state hJ)) fun _ _ _ h => h

/-- So is the start as a whole. -/
theorem setup (rules : WatchRules W ok J I) (settings : RunSettings) (hJ : J past state) :
    wp W ok (PgMaintainer.setup settings) (fun _ => I) (fun _ => I) past state := by
  refine wp_seq (rules.early (only_withContext ?_) hJ) fun _ past state hJ => ?_
  · simp [connect, getServerVersionNum]
  refine wp_seq (rules.early (by simp) hJ) fun _ past state hJ => ?_
  refine wp_seq (rules.early ?_ hJ) fun schemas past state hJ => ?_
  · simp [resolveSchemas, requestedSchemas, discoverAllUserSchemas]
  refine wp_seq (rules.early (only_withContext ?_) hJ) fun _ past state hJ => ?_
  · simp [tryAcquireSchemaLock]
  refine wp_seq (rules.early (Prog.Only.attempt ?_) hJ) fun _ past state hJ => ?_
  · simp [ensureLogbookSchema]
  refine wp_seq (rules.early (apply_session_settings_unwatched settings) hJ) ?_
  intro _ past state hJ
  refine wp_seq (rules.early ?_ hJ) fun minAge past state hJ => ?_
  · unfold effectiveWraparoundMinAge
    cases settings.wraparoundPct <;> simp [getFreezeMaxAge]
  refine wp_seq (rules.open_lag_gate settings hJ) fun gate past state hI => ?_
  refine wp_seq (rules.late (.only ?_) hI) fun _ past state hI => ?_
  · simp [checkXminHorizon, observeXminHorizon]
  refine wp_seq (rules.late (.only (only_withContext ?_)) hI) fun _ past state hI => hI
  simp [resolveExplicitTables]

/-- The whole program. -/
theorem main (rules : WatchRules W ok J I) (settings : RunSettings) (hJ : J past state) :
    wp W ok (PgMaintainer.main settings) (fun _ => I) (fun _ => I) past state := by
  refine wp_seq_attempt (A := fun _ => I) (B := fun _ => I) ?_ ?_ ?_
  · refine wp_seq (rules.setup settings hJ) fun plan past state hI => ?_
    exact rules.late (run_phases_watched plan) hI
  · exact fun code past state hI => hI
  · exact fun err past state hI => rules.late (.only (by simp)) hI

end WatchRules

end Rule

end PgMaintainer
