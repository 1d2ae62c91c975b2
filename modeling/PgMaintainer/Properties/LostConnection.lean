import PgMaintainer.Run.Severed
import PgMaintainer.Run.Shape

/-!
# A lost connection and the exit code

Almost every call of the phases passes its error on with the driver error in the chain, so a
lost connection ends the process with code 3. Two places do not. The probe for active vacuums
formats the error into a new message, which ends the run with code 1. The max-threshold pass
swallows the error; then the next table or phase finds the session closed, if there is one.
-/

namespace PgMaintainer

open Interaction

attribute [local simp] Op.Local

/-- The calls of the max-threshold pass, whose errors are swallowed. -/
def Call.Tolerated : Call → Prop
  | .getServerVersionNum | .getVacuumMaxThreshold | .findNeedsVacuumMaxThr .. => True
  | _ => False

/-- A phase after the max-threshold pass has something to do. -/
def Plan.GoesOn (plan : Plan) : Prop :=
  plan.enabled .vacuumOverdue = true ∨ plan.enabled .analyzeOverdue = true ∨ plan.alsoTables ≠ []

/-- The loss at this call is reported as one: it is not the probe's, and after the
max-threshold pass there is still a table to visit or a phase to run. -/
def Reported (plan : Plan) (classic : List NeedsVacuumTableInfo) : Call → Prop
  | .findActiveVacuums _ => False
  | .getServerVersionNum | .getVacuumMaxThreshold | .findNeedsVacuumMaxThr .. =>
    classic ≠ [] ∨ plan.GoesOn
  | _ => True

/-- A driver error carries the loss there was. -/
def Carries (plan : Plan) (err : PgError) (_ : Trace severed) (link : Link) : Prop :=
  ∀ c ∈ link.lost, isConnectionLostPg err = true ∧ Reported plan link.classic c

/-- An error is a lost connection if and only if the loss there was is to be reported. -/
def Tells (plan : Plan) (err : AnyError) (_ : Trace severed) (link : Link) : Prop :=
  ∀ c ∈ link.lost, (isConnectionLost err = true ↔ Reported plan link.classic c)

/-- The limit of a run is positive. -/
theorem Plan.limit_n_pos (plan : Plan) : 0 < plan.limitN := by
  unfold Plan.limitN
  cases h : plan.settings.limit with
  | none => decide
  | some n => exact plan.settings.limitPos n h

section Alive

variable {plan : Plan} {past : Trace severed} {link : Link} {α : Type}

/-- While the session is alive there is nothing to tell. -/
theorem Tells.of_alive {err : AnyError} (h : link.lost = none) : Tells plan err past link := by
  simp [Tells, h]

@[simp] theorem tells_context {err : AnyError} {text : String} :
    Tells plan (err.context text) past link ↔ Tells plan err past link := by
  simp [Tells]

/-- A query that runs into a dead session carries the loss in its driver error. -/
theorem wp_query_alive {c : Call} (hc : ∀ classic, Reported plan classic c)
    (h : link.lost = none) : wp severed unchecked (query c) Alive (Carries plan) past link := by
  refine wp_query.2 (wp_call_alive h ?_ fun _ err past hlost => ?_)
  · rintro (err | row) past
    · simp [Carries]
    · rfl
  · simp [Carries, hlost, hc]

/-- A call whose error goes up. -/
theorem wp_queryContext_alive {c : Call} {text : String}
    (hc : ∀ classic, Reported plan classic c) (h : link.lost = none) :
    wp severed unchecked (queryContext c text) Alive (Tells plan) past link := by
  refine wp_queryContext.2 (wp_call_alive h ?_ fun _ err past hlost => ?_)
  · rintro (err | row) past
    · exact .of_alive rfl
    · rfl
  · simp [Tells, is_connection_lost_of_pg hlost, hc]

/-- What makes no call keeps the session alive. -/
theorem wp_local_alive {p : RunM α} (hp : p.Only Op.Local) (h : link.lost = none) :
    wp severed unchecked p Alive (Tells plan) past link :=
  wp_mono (wp_local hp fun _ _ _ => .of_alive h) (fun _ _ _ hlink => hlink ▸ h) (fun _ _ _ h => h)

end Alive

/-! ## The gates -/

section Gates

variable {plan : Plan} {past : Trace severed} {link : Link}

/-- An observation of the standbys tells of a loss. -/
theorem observe_replica_lag_alive (h : link.lost = none) :
    wp severed unchecked observeReplicaLag Alive (Tells plan) past link := by
  refine wp_seq (wp_queryContext_alive (fun _ => trivial) h) fun canRead past link h => ?_
  refine wp_ite.2 ⟨fun _ => h, fun _ => ?_⟩
  refine wp_seq (wp_queryContext_alive (fun _ => trivial) h) fun rows past link h => ?_
  exact wp_ite.2 ⟨fun _ => h, fun _ => h⟩

/-- To give up a wait makes no call. -/
theorem give_up_waiting_local (started : Nat) : (giveUpWaiting started).Only Op.Local := by
  simp [giveUpWaiting, addWaited]

/-- By induction on the rounds left. -/
theorem wait_for_replica_lag_loop_alive (gate : ReplicaLagGate) (table : TableKey)
    (started rounds : Nat) (h : link.lost = none) :
    wp severed unchecked (waitForReplicaLagLoop gate table started rounds) Alive (Tells plan)
      past link := by
  have hgive : ∀ past link, link.lost = none →
      wp severed unchecked (giveUpWaiting started) Alive (Tells plan) past link := fun _ _ h =>
    wp_local_alive (give_up_waiting_local started) h
  induction rounds generalizing past link with
  | zero => exact hgive _ _ h
  | succ rounds ih =>
      refine wp_seq (wp_local_alive (by simp) h) fun time past link h => ?_
      dsimp only
      refine wp_ite.2 ⟨fun _ => hgive _ _ h, fun _ => ?_⟩
      refine wp_seq (wp_local_alive (by simp) h) fun wake past link h => ?_
      cases wake with
      | shutdown => exact wp_local_alive (by simp [addWaited]) h
      | slept =>
          refine wp_seq (observe_replica_lag_alive h) fun current past link h => ?_
          refine wp_ite.2 ⟨fun _ => ?_, fun _ => ?_⟩
          · exact wp_local_alive (by simp [addWaited]) h
          refine wp_seq (wp_local_alive (by simp) h) fun time past link h => ?_
          exact wp_ite.2 ⟨fun _ => hgive _ _ h, fun _ => ih h⟩

/-- So does the gate as a whole. -/
theorem wait_for_replica_lag_alive (gate : ReplicaLagGate) (table : TableKey)
    (policy : RunPolicy) (h : link.lost = none) :
    wp severed unchecked (waitForReplicaLag gate table policy) Alive (Tells plan) past link := by
  refine wp_seq (wp_local_alive (by simp) h) fun disabled past link h => ?_
  refine wp_ite.2 ⟨fun _ => h, fun _ => ?_⟩
  refine wp_seq (observe_replica_lag_alive h) fun observation past link h => ?_
  cases observation with
  | noReplicas => exact wp_local_alive (by simp) h
  | unobservable => exact wp_local_alive (by simp) h
  | observed standbys =>
      refine wp_ite.2 ⟨fun _ => h, fun _ => wp_ite.2 ⟨fun _ => h, fun _ => ?_⟩⟩
      refine wp_ite.2 ⟨fun _ => wp_local_alive (by simp) h, fun _ => ?_⟩
      refine wp_seq (wp_local_alive (by simp) h) fun time past link h => ?_
      exact wait_for_replica_lag_loop_alive gate table time _ h

/-- The probe's error is a new message, whatever the driver error was. -/
theorem find_active_vacuums_alive (table : TableKey) (h : link.lost = none) :
    wp severed unchecked (findActiveVacuums table) Alive (Tells plan) past link := by
  refine wp_bind.2 (wp_call_alive h ?_ fun _ err past hlost => ?_)
  · rintro (err | rows) past
    · exact .of_alive rfl
    · rfl
  · simp [Tells, Reported]

/-- A termination that finds the session dead tells of it. By induction on the backends. -/
theorem terminate_backends_alive (pids : List Int) (h : link.lost = none) :
    wp severed unchecked (terminateBackends pids) Alive (Tells plan) past link := by
  induction pids generalizing past link with
  | nil => exact h
  | cons pid pids ih =>
      exact wp_seq (wp_queryContext_alive (fun _ => trivial) h) fun _ past link h => ih h

/-- A dry run terminates nothing, so there is nothing to tell. -/
theorem terminate_in_real_run_alive (policy : RunPolicy) (pids : List Int)
    (h : link.lost = none) :
    wp severed unchecked (terminateInRealRun policy pids) Alive (Tells plan) past link :=
  wp_ite.2 ⟨fun _ => h, fun _ => terminate_backends_alive pids h⟩

/-- A skipped table makes no call. -/
theorem skip_table_local (summary : OperationSummary) (table : TableKey) (reason : SkipReason) :
    (skipTable summary table reason).Only Op.Local := by
  simp [skipTable]

/-- The second gate tells of a loss, the probe's excepted. -/
theorem handle_active_vacuums_alive (table : TableKey) (policy : RunPolicy)
    (summary : OperationSummary) (h : link.lost = none) :
    wp severed unchecked (handleActiveVacuums table policy summary) Alive (Tells plan)
      past link := by
  have hskip : ∀ past link, link.lost = none →
      wp severed unchecked (do pure (false, ← skipTable summary table .activeVacuum)) Alive
        (Tells plan) past link := fun _ _ h =>
    wp_seq (wp_local_alive (skip_table_local ..) h) fun _ _ _ h => h
  refine wp_seq (find_active_vacuums_alive table h) fun sessions past link h => ?_
  refine wp_ite.2 ⟨fun _ => h, fun _ => wp_ite.2 ⟨fun _ => hskip _ _ h, fun _ => ?_⟩⟩
  refine wp_seq (terminate_in_real_run_alive policy _ h) fun _ past link h => ?_
  refine wp_ite.2 ⟨fun _ => h, fun _ => wp_ite.2 ⟨fun _ => ?_, fun _ => hskip _ _ h⟩⟩
  exact wp_seq (terminate_in_real_run_alive policy _ h) fun _ _ _ h => h

end Gates

/-! ## One table -/

section Pass

variable {plan : Plan} {past : Trace severed} {link : Link} {r : Runner} {statement : Statement}
  {policy : RunPolicy} {table : TableKey} {summary : OperationSummary}

/-- The driver error of a statement carries the loss, whether a read or the statement met it. -/
theorem operation_alive (hr : r.Performs statement) (h : link.lost = none) :
    wp severed unchecked (r.operation table) Alive (Carries plan) past link := by
  have hcall : ∀ {c : Call}, (∀ classic, Reported plan classic c) → ∀ (past : Trace severed)
      (link : Link), link.lost = none →
      wp severed unchecked (query c) Alive (Carries plan) past link :=
    fun hc _ _ h => wp_query_alive hc h
  rw [hr.operation]
  exact wp_operation (hcall fun _ => trivial) (hcall fun _ => trivial) (hcall fun _ => trivial) h

/-- A lost connection is no lock timeout, so it is never retried. By induction on the retries
left. -/
theorem retry_loop_alive {op : PgM OperationResult}
    (hop : ∀ past link, link.lost = none →
      wp severed unchecked op Alive (Carries plan) past link)
    (left delayMs : Nat) (h : link.lost = none) :
    wp severed unchecked (retryLoop op left delayMs) Alive (Carries plan) past link := by
  induction left generalizing delayMs past link with
  | zero => exact hop _ _ h
  | succ left ih =>
      refine wp_seq_attempt (hop _ _ h) (fun _ _ _ h => h) fun err past link herr => ?_
      refine wp_ite.2 ⟨fun _ => herr, fun hlock => ?_⟩
      have halive : link.lost = none := by
        refine Option.eq_none_iff_forall_not_mem.2 fun c hc => ?_
        exact code_ne_lock_of_lost (herr c hc).1 (by simpa [isLockTimeout] using hlock)
      refine wp_seq shutdown_requested_severed ?_
      rintro requested past link ⟨rfl, rfl⟩
      refine wp_ite.2 ⟨fun hrequested => absurd hrequested Bool.false_ne_true, fun _ => ?_⟩
      refine wp_seq (wp_local_total (by simp)) ?_
      rintro wake past link rfl
      cases wake with
      | shutdown => exact herr
      | slept => exact ih _ halive

/-- What is reported about a success may fail without a trace. -/
theorem wp_reporting_alive {α : Type} {p : RunM α} (hp : p.Only Op.Reporting)
    (h : link.lost = none) : wp severed unchecked p Alive (Tells plan) past link := by
  refine wp_of_only hp ?_ (fun _ _ _ h => .of_alive h) h
  intro past link now h hnow op answer after hop hstep
  obtain rfl := severed_drifts hnow
  refine ⟨trivial, ?_⟩
  obtain ⟨_, hstep⟩ := hstep
  rw [h] at hstep
  rcases hstep with rfl | ⟨c, hsevers, _⟩
  · rfl
  · cases op with
    | call => exact absurd hop hsevers.2.1
    | _ => exact hsevers.elim

/-- A row of the logbook is sent and its failure logged. -/
theorem log_maintenance_operation_reporting (dryRun : Bool) (entry : LogEntry) :
    (logMaintenanceOperation dryRun entry).Only Op.Reporting := by
  simp [logMaintenanceOperation, Op.Reporting, Call.BestEffort]

/-- What is reported about a success tells of a loss in the end. -/
theorem record_success_alive (hr : r.Performs statement) (result : OperationResult)
    (durationMs : Int) (h : link.lost = none) :
    wp severed unchecked (recordSuccess r policy summary table result durationMs) Alive
      (Tells plan) past link := by
  refine wp_seq (wp_reporting_alive (hr.reporting table result) h) fun _ past link h => ?_
  refine wp_seq (wp_reporting_alive (log_maintenance_operation_reporting ..) h)
    fun _ past link h => ?_
  exact wp_local_alive (by simp) h

/-- So does what is recorded about a failure. -/
theorem record_failure_alive (err : PgError) (durationMs : Int) (h : link.lost = none) :
    wp severed unchecked (recordFailure r policy summary table err durationMs) Alive
      (Tells plan) past link := by
  refine wp_ite.2 ⟨fun _ => ?_, fun _ => ?_⟩
  · exact wp_local_alive (by simp [skipTable]) h
  refine wp_seq (wp_reporting_alive (log_maintenance_operation_reporting ..) h)
    fun _ past link h => ?_
  exact wp_local_alive (by simp) h

/-- So does the clean-up after an interruption. -/
theorem handle_shutdown_interrupt_alive (durationMs : Int) (h : link.lost = none) :
    wp severed unchecked (handleShutdownInterrupt r policy summary table durationMs) Alive
      (Tells plan) past link := by
  refine wp_seq (wp_local_alive (skip_table_local ..) h) fun summary past link h => ?_
  refine wp_seq (wp_local_alive (by simp) h) fun closed past link h => ?_
  refine wp_ite.2 ⟨fun _ => h, fun _ => ?_⟩
  refine wp_seq (wp_reporting_alive (log_maintenance_operation_reporting ..) h)
    fun _ past link h => ?_
  exact h

/-- Without a shutdown, an error of another class is no lost connection. -/
theorem not_lost_of_classify {err : PgError}
    (h : classifyOpError err false ≠ .connectionLost) : isConnectionLostPg err ≠ true := by
  intro hlost
  exact h (by simp [classifyOpError, hlost])

/-- The statement of a pass: a loss during it aborts the run. -/
theorem maintain_table_alive (hr : r.Performs statement) (count i : Nat) (h : link.lost = none) :
    wp severed unchecked (maintainTable r policy count i table summary) Alive (Tells plan)
      past link := by
  refine wp_ite.2 ⟨fun _ => wp_local_alive (by simp) h, fun _ => ?_⟩
  refine wp_seq (wp_local_alive (by simp) h) fun start past link h => ?_
  have hretry : wp severed unchecked (withLockTimeoutRetry policy (r.operation table)) Alive
      (Carries plan) past link := retry_loop_alive (fun _ _ => operation_alive hr) _ _ h
  refine wp_seq_attempt hretry (fun result past link h => ?_) fun err past link herr => ?_
  · refine wp_seq (wp_local_alive (by simp) h) fun time past link h => ?_
    exact record_success_alive hr result _ h
  refine wp_seq (wp_local_total (by simp)) ?_
  rintro time past link rfl
  refine wp_seq shutdown_requested_severed ?_
  rintro requested past link ⟨rfl, rfl⟩
  -- a failure of another class is none of the connection
  have halive : classifyOpError err false ≠ .connectionLost → link.lost = none := fun hclass =>
    Option.eq_none_iff_forall_not_mem.2 fun c hc =>
      not_lost_of_classify hclass (herr c hc).1
  generalize classifyOpError err false = kind at halive
  cases kind with
  | connectionLost =>
      refine wp_seq (R := fun lost _ after => after = link ∧ isConnectionLost lost = true) ?_ ?_
      · exact wp_seq (wp_local_total (by simp)) fun _ _ _ hlink => ⟨hlink, rfl⟩
      · rintro lost past link ⟨rfl, hlost⟩ c hc
        simp [hlost, (herr c hc).2]
  | shutdownInterrupted =>
      exact wp_seq (handle_shutdown_interrupt_alive _ (halive (by decide))) fun _ _ _ h => h
  | lockTimeout => exact record_failure_alive err _ (halive (by decide))
  | other => exact record_failure_alive err _ (halive (by decide))

/-- The head of a pass finds a dead session closed. -/
theorem visit_table_dead {body : Pass} (count i : Nat) (h : link.lost.isSome) :
    wp severed unchecked (visitTable r count i table summary body) (fun _ _ _ => False)
      (fun err _ after => after = link ∧ isConnectionLost err = true) past link := by
  refine wp_seq (wp_local_total (by simp)) ?_
  rintro _ past link rfl
  refine wp_seq (is_closed_dead h) ?_
  rintro closed past link ⟨rfl, rfl⟩
  refine wp_ite.2 ⟨fun _ => ?_, fun hopen => absurd rfl hopen⟩
  refine wp_seq (R := fun lost _ after => after = link ∧ isConnectionLost lost = true) ?_ ?_
  · exact wp_seq (wp_local_total (by simp)) fun _ _ _ hlink => ⟨hlink, rfl⟩
  · exact fun _ _ _ h => h

/-- The head of a pass tells of a loss if its body does. -/
theorem visit_table_alive {body : Pass} (count i : Nat)
    (hbody : ∀ past link, link.lost = none →
      wp severed unchecked body Alive (Tells plan) past link) (h : link.lost = none) :
    wp severed unchecked (visitTable r count i table summary body) Alive (Tells plan) past
      link := by
  refine wp_seq (wp_local_alive (by simp) h) fun _ past link h => ?_
  refine wp_seq (wp_local_alive (by simp) h) fun closed past link h => ?_
  refine wp_ite.2 ⟨fun _ => ?_, fun _ => ?_⟩
  · exact wp_seq (wp_local_alive (by simp [connectionLostError]) h)
      fun _ _ _ h => .of_alive h
  refine wp_seq (wp_local_alive (by simp) h) fun requested past link h => ?_
  exact wp_ite.2 ⟨fun _ => h, fun _ => hbody _ _ h⟩

/-- A table that was handled before is skipped without a call. -/
theorem unless_handled_alive {body : Pass} (already : Option (List TableKey))
    (hbody : ∀ past link, link.lost = none →
      wp severed unchecked body Alive (Tells plan) past link) (h : link.lost = none) :
    wp severed unchecked (unlessHandled already table summary body) Alive (Tells plan)
      past link := by
  by_cases hout : LeavesOut already table
  · rw [unless_handled_left_out hout]
    exact wp_seq (wp_local_alive (skip_table_local ..) h) fun _ _ _ h => h
  · rw [unless_handled_taken hout]
    exact hbody _ _ h

/-- The replica-lag gate tells of a loss, and the rest of the pass goes on. -/
theorem after_lag_gate_alive {body : Pass} (gate : Option ReplicaLagGate)
    (hbody : ∀ past link, link.lost = none →
      wp severed unchecked body Alive (Tells plan) past link) (h : link.lost = none) :
    wp severed unchecked (afterLagGate gate policy table summary body) Alive (Tells plan)
      past link := by
  cases gate with
  | none => exact hbody _ _ h
  | some gate =>
      refine wp_seq (wait_for_replica_lag_alive gate table policy h) fun verdict past link h => ?_
      cases verdict with
      | proceed => exact hbody _ _ h
      | skipTable => exact wp_seq (wp_local_alive (skip_table_local ..) h) fun _ _ _ h => h
      | shutdownRequested => exact h

/-- So does the second gate. -/
theorem after_active_vacuums_alive {body : OperationSummary → Pass}
    (hbody : ∀ summary past link, link.lost = none →
      wp severed unchecked (body summary) Alive (Tells plan) past link) (h : link.lost = none) :
    wp severed unchecked (afterActiveVacuums policy table summary body) Alive (Tells plan)
      past link := by
  refine wp_seq (handle_active_vacuums_alive table policy summary h) fun verdict past link h => ?_
  exact wp_ite.2 ⟨fun _ => hbody _ _ _ h, fun _ => h⟩

/-- A pass on a live session. -/
theorem pass_alive {already : Option (List TableKey)} {pass : PassBody}
    (hpass : IsPass policy statement already pass) (i : Nat) (h : link.lost = none) :
    wp severed unchecked (pass i table summary) Alive (Tells plan) past link := by
  cases hpass with
  | once r gate count hr =>
      refine visit_table_alive _ _ (fun past link h => ?_) h
      refine unless_handled_alive _ (fun past link h => ?_) h
      refine after_lag_gate_alive _ (fun past link h => ?_) h
      refine after_active_vacuums_alive (fun summary past link h => ?_) h
      exact maintain_table_alive hr _ _ h
  | twice r gate count hr =>
      refine visit_table_alive _ _ (fun past link h => ?_) h
      refine unless_handled_alive _ (fun past link h => ?_) h
      refine after_lag_gate_alive _ (fun past link h => ?_) h
      refine after_lag_gate_alive _ (fun past link h => ?_) h
      refine after_active_vacuums_alive (fun summary past link h => ?_) h
      exact maintain_table_alive hr _ _ h

/-- A pass on a dead one. -/
theorem pass_dead {already : Option (List TableKey)} {pass : PassBody}
    (hpass : IsPass policy statement already pass) (i : Nat) (h : link.lost.isSome) :
    wp severed unchecked (pass i table summary) (fun _ _ _ => False)
      (fun err _ after => after = link ∧ isConnectionLost err = true) past link := by
  cases hpass <;> exact visit_table_dead _ _ h

end Pass

/-! ## Runners and phases -/

section Phase

variable {plan : Plan} {past : Trace severed} {link : Link} {policy : RunPolicy} {phase : Phase}
  {statement : Statement} {already : Option (List TableKey)} {tables : List TableKey}
  {runner : RunM OperationSummary}

/-- The loop of a runner tells of a loss. -/
theorem runner_alive (hrunner : IsRunner policy phase statement already tables runner)
    (h : link.lost = none) : wp severed unchecked runner Alive (Tells plan) past link := by
  obtain ⟨pass, hpass⟩ := hrunner
  refine wp_seq (wp_local_alive (by simp) h) fun _ past link h => ?_
  refine wp_mono (wp_sweep (I := fun _ => Alive) (D := Alive)
    (fun _ table _ _ i summary past link h => ?_) h)
    (fun _ _ _ h => h.elim id id) (fun _ _ _ h => h)
  refine wp_mono (pass_alive hpass i h) (fun flow _ _ h => ?_) (fun _ _ _ h => h)
  cases flow <;> exact h

/-- A runner on a dead session fails at its first table, if it has one. -/
theorem runner_dead (hrunner : IsRunner policy phase statement already tables runner)
    (h : link.lost.isSome) :
    wp severed unchecked runner (fun _ _ after => after = link ∧ tables = [])
      (fun err _ after => after = link ∧ tables ≠ [] ∧ isConnectionLost err = true) past link := by
  obtain ⟨pass, hpass⟩ := hrunner
  refine wp_seq (wp_local_total (by simp)) ?_
  rintro _ past link rfl
  cases tables with
  | nil => exact ⟨rfl, rfl⟩
  | cons table tables =>
      refine wp_seq (R := fun _ _ _ => False) ?_ (fun _ _ _ => False.elim)
      exact wp_mono (pass_dead hpass 0 h) (fun _ _ _ h => h)
        (fun _ _ _ h => ⟨h.1, by simp, h.2⟩)

/-- A context around an error hides no loss. -/
theorem wp_withContext_tells {α : Type} {p : RunM α} {text : String}
    {Q : α → Trace severed → Link → Prop} (hp : wp severed unchecked p Q (Tells plan) past link) :
    wp severed unchecked (withContext p text) Q (Tells plan) past link :=
  wp_withContext.2 (wp_mono hp (fun _ _ _ h => h) (fun _ _ _ h => tells_context.2 h))

/-- A phase on a live session. -/
theorem phase_alive {α : Type} {enabled : Bool} {discover : RunM α} {keys : α → List TableKey}
    {run : α → RunM OperationSummary} {text : String} {seen : Seen} {update : α → Seen}
    (hdiscover : ∀ past link, link.lost = none →
      wp severed unchecked discover Alive (Tells plan) past link)
    (hrun : ∀ found, IsRunner policy phase statement already (keys found) (run found))
    (h : link.lost = none) :
    wp severed unchecked (phaseGuard enabled seen do
      log (.phaseStarted phase)
      let found ← discover
      let summary ← withContext (run found) text
      pure (summary, update found)) Alive (Tells plan) past link := by
  cases enabled with
  | false => exact h
  | true =>
      refine wp_seq (wp_local_alive (by simp) h) fun requested past link h => ?_
      refine wp_ite.2 ⟨fun _ => h, fun _ => ?_⟩
      refine wp_seq (wp_local_alive (by simp) h) fun _ past link h => ?_
      refine wp_seq (hdiscover _ _ h) fun found past link h => ?_
      exact wp_seq (wp_withContext_tells (runner_alive (hrun found) h)) fun _ _ _ h => h

/-- A query for candidates, with the two contexts it gets. -/
theorem discovery_alive {c : Call} {text context : String}
    (hc : ∀ classic, Reported plan classic c) (h : link.lost = none) :
    wp severed unchecked (withContext (queryContext c text) context) Alive (Tells plan) past link :=
  wp_withContext_tells (wp_queryContext_alive hc h)

/-- Phase 1 tells of a loss. -/
theorem phase_never_vacuumed_alive (seen : Seen) (h : link.lost = none) :
    wp severed unchecked (phaseNeverVacuumed plan seen) Alive (Tells plan) past link :=
  phase_alive (fun _ _ h => discovery_alive (fun _ => trivial) h)
    (fun _ => run_vacuum_never_vacuumed_is_runner ..) h

/-- Phase 2 tells of a loss. -/
theorem phase_never_analyzed_alive (seen : Seen) (h : link.lost = none) :
    wp severed unchecked (phaseNeverAnalyzed plan seen) Alive (Tells plan) past link :=
  phase_alive (fun _ _ h => discovery_alive (fun _ => trivial) h)
    (fun _ => run_analyze_never_analyzed_is_runner ..) h

/-- Phase 3 tells of a loss. -/
theorem phase_prevent_wraparound_alive (seen : Seen) (h : link.lost = none) :
    wp severed unchecked (phasePreventWraparound plan seen) Alive (Tells plan) past link :=
  phase_alive (fun _ _ h => discovery_alive (fun _ => trivial) h)
    (fun _ => run_freeze_wraparound_is_runner ..) h

/-- Phase 4 tells of a loss. -/
theorem phase_prevent_bloat_alive (seen : Seen) (h : link.lost = none) :
    wp severed unchecked (phasePreventBloat plan seen) Alive (Tells plan) past link :=
  phase_alive (fun _ _ h => discovery_alive (fun _ => trivial) h)
    (fun _ => run_bloat_vacuum_is_runner ..) h

/-- The max-threshold pass leaves the rows of the classic query, and only its own calls may
have found the session dead. -/
def Scanned {α : Type} (classic : List NeedsVacuumTableInfo) (_ : α) (_ : Trace severed)
    (link : Link) : Prop :=
  link.classic = classic ∧ ∀ c ∈ link.lost, c.Tolerated

variable {classic : List NeedsVacuumTableInfo}

/-- Only the classic query changes what is remembered of it. -/
theorem classic_after_tolerated {c : Call} (hc : c.Tolerated) (answer : Except PgError c.Row) :
    link.classicAfter (.call c) answer = link.classic := by
  unfold Call.Tolerated at hc
  split at hc
  · rfl
  · rfl
  · rfl
  · exact hc.elim

/-- A call of the max-threshold pass may lose the session, and answers with an error then. -/
theorem wp_call_scanned {ε : Type} {c : Call} {E : ε → Trace severed → Link → Prop}
    (hc : c.Tolerated) (h : Scanned classic () past link) :
    wp severed unchecked (call c : Prog session ε _)
      (fun answer past link => Scanned classic answer past link ∧
        (link.lost ≠ none → ∃ err, answer = .error err)) E past link := by
  cases hlost : link.lost with
  | some lost =>
      refine wp_call_dead (by simp [hlost]) fun err past _ => ?_
      exact ⟨h, fun _ => ⟨err, rfl⟩⟩
  | none =>
      refine wp_call_alive hlost (fun answer past => ?_) fun _ err past _ => ?_
      · exact ⟨⟨(classic_after_tolerated hc answer).trans h.1, by simp⟩, fun hne => absurd rfl hne⟩
      · refine ⟨⟨h.1, ?_⟩, fun _ => ⟨err, rfl⟩⟩
        rintro _ ⟨⟩
        exact hc

/-- The error of such a call goes up, and is caught further up. -/
theorem wp_queryContext_scanned {c : Call} {text : String} (hc : c.Tolerated)
    (h : Scanned classic () past link) :
    wp severed unchecked (queryContext c text) (Scanned classic) (Scanned classic) past link := by
  refine wp_queryContext.2 (wp_mono (wp_call_scanned hc h) ?_ (fun _ _ _ h => h))
  rintro (err | row) past link ⟨hscanned, _⟩
  · exact hscanned
  · exact hscanned

/-- A settings read that may fall back. -/
theorem or_else_scanned {α : Type} {p : RunM α} {fallback : α}
    (hp : wp severed unchecked p (Scanned classic) (Scanned classic) past link) :
    wp severed unchecked (orElse p fallback) (Scanned classic) (Tells plan) past link :=
  wp_seq_attempt hp (fun _ _ _ h => h) (fun _ _ _ h => h)

/-- The cap on the threshold is one such call, or none. -/
theorem get_vacuum_max_threshold_scanned (serverVersionNum : Int)
    (h : Scanned classic () past link) :
    wp severed unchecked (getVacuumMaxThreshold serverVersionNum) (Scanned classic)
      (Scanned classic) past link :=
  wp_ite.2 ⟨fun _ => h, fun _ =>
    wp_seq (wp_queryContext_scanned trivial h) fun _ _ _ h => h⟩

/-- The max-threshold pass finds nothing on a dead session. -/
theorem find_max_threshold_scanned {schemas : List String} {table : Option String}
    {maxThreshold : ℚ} {serverVersionNum minBytes maxBytes : Int}
    (h : Scanned classic () past link) :
    wp severed unchecked
      (orElse (findNeedsVacuumMaxThresholdCandidates schemas table maxThreshold serverVersionNum
        minBytes maxBytes) [])
      (fun found past link => Scanned classic found past link ∧ (link.lost ≠ none → found = []))
      (Tells plan) past link := by
  have hfind : wp severed unchecked (findNeedsVacuumMaxThresholdCandidates schemas table
      maxThreshold serverVersionNum minBytes maxBytes)
      (fun found past link => Scanned classic found past link ∧ link.lost = none)
      (Scanned classic) past link := by
    refine wp_seq (wp_call_scanned trivial h) ?_
    rintro (err | rows) past link ⟨hscanned, hlost⟩
    · exact hscanned
    · refine ⟨hscanned, by_contra fun hne => ?_⟩
      obtain ⟨err, ⟨⟩⟩ := hlost hne
  refine wp_seq_attempt hfind (fun found past link h => ?_) (fun err past link h => ?_)
  · exact ⟨h.1, fun hlost => absurd h.2 hlost⟩
  · exact ⟨h, fun _ => rfl⟩

/-- The classic query: its error ends the run, also when the read before it was lost. -/
theorem find_needs_vacuum_candidates_tells {schemas : List String} {table : Option String}
    {threshold : Int} {scaleFactor : ℚ} {minBytes maxBytes limit : Int}
    {orderBy : Option OrderBy} {context : String}
    (h : ∀ c ∈ link.lost, ∀ classic, Reported plan classic c) :
    wp severed unchecked (withContext (findNeedsVacuumCandidates schemas table threshold
        scaleFactor minBytes maxBytes limit orderBy) context)
      (fun found _ link => link.lost = none ∧ (found = [] ↔ link.classic = []))
      (Tells plan) past link := by
  refine wp_withContext_tells ?_
  cases hlost : link.lost with
  | some lost =>
      refine wp_seq (R := fun _ _ _ => False) ?_ (fun _ _ _ => False.elim)
      refine wp_queryContext.2 (wp_call_dead (by simp [hlost]) fun err past herr c hc => ?_)
      simp [is_connection_lost_of_pg herr, h c hc]
  | none =>
      refine wp_seq (R := fun rows _ (link : Link) => link.classic = rows ∧ link.lost = none) ?_ ?_
      · refine wp_queryContext.2 (wp_call_alive hlost ?_ fun _ err past herr => ?_)
        · rintro (err | rows) past
          · exact .of_alive rfl
          · exact ⟨rfl, rfl⟩
        · simp [Tells, Reported, is_connection_lost_of_pg herr]
      · rintro rows past link ⟨rfl, halive⟩
        exact ⟨halive, List.map_eq_nil_iff⟩

/-- The candidates of the needs-vacuum phase: a loss during the max-threshold pass leaves the
classic ones. -/
theorem discover_needs_vacuum_tells (h : link.lost = none) :
    wp severed unchecked (discoverNeedsVacuum plan)
      (fun found _ link => (∀ c ∈ link.lost, c.Tolerated) ∧
        (link.lost ≠ none → (found = [] ↔ link.classic = []))) (Tells plan) past link := by
  refine wp_seq (R := fun _ _ (link : Link) => ∀ c ∈ link.lost, ∀ classic,
    Reported plan classic c) ?_ ?_
  · refine wp_seq_attempt (A := Alive)
      (B := fun _ _ (link : Link) => ∀ c ∈ link.lost, ∀ classic, Reported plan classic c) ?_ ?_ ?_
    · refine wp_queryContext.2 (wp_call_alive h ?_ fun _ err past _ => ?_)
      · rintro (err | row) past
        · simp
        · rfl
      · rintro _ ⟨⟩ _
        trivial
    · intro _ _ link h c hc
      simp [h] at hc
    · exact fun _ _ _ h => h
  rintro ⟨serverThreshold, serverScaleFactor⟩ past link h
  refine wp_seq (find_needs_vacuum_candidates_tells h) ?_
  rintro classic past link ⟨halive, hclassic⟩
  have hscanned : Scanned link.classic () past link := ⟨rfl, by simp [halive]⟩
  refine wp_seq (or_else_scanned (wp_queryContext_scanned trivial hscanned))
    fun serverVersionNum past link hscanned => ?_
  refine wp_seq (or_else_scanned (get_vacuum_max_threshold_scanned _ hscanned))
    fun maxThreshold past link hscanned => ?_
  refine wp_seq (find_max_threshold_scanned hscanned) ?_
  -- an error of the second query left its list empty
  rintro maxThrCandidates past after ⟨hscanned, hfound⟩
  refine ⟨hscanned.2, fun hlost => ?_⟩
  rw [hfound hlost, merge_without_max_threshold_eq_nil plan.limit_n_pos, hclassic, hscanned.1]

/-- A loss in the max-threshold pass is reported as soon as something is left to do. -/
theorem reported_of_tolerated {c : Call} (hc : c.Tolerated) :
    Reported plan classic c ↔ classic ≠ [] ∨ plan.GoesOn := by
  unfold Call.Tolerated at hc
  split at hc
  · rfl
  · rfl
  · rfl
  · exact hc.elim

/-- The phases from the fifth on return on a dead session only if the max-threshold pass lost
it, there was no classic candidate, and nothing was left to do since. -/
def Resumable (passed : Prop) {α : Type} (_ : α) (_ : Trace severed) (link : Link) : Prop :=
  ∀ c ∈ link.lost, c.Tolerated ∧ link.classic = [] ∧ ¬passed

/-- While the session is alive the phases simply go on. -/
theorem Resumable.of_alive {passed : Prop} {α : Type} {value : α} (h : link.lost = none) :
    Resumable passed value past link := by
  simp [Resumable, h]

/-- Phase 5 may return although its max-threshold pass lost the session. -/
theorem phase_needs_vacuum_resumable (seen : Seen) (h : link.lost = none) :
    wp severed unchecked (phaseNeedsVacuum plan seen) (Resumable False) (Tells plan)
      past link := by
  refine wp_ite.2 ⟨fun _ => ?_, fun _ => .of_alive h⟩
  refine wp_seq (wp_local_alive (by simp) h) fun requested past link h => ?_
  refine wp_ite.2 ⟨fun _ => .of_alive h, fun _ => ?_⟩
  refine wp_seq (wp_local_alive (by simp) h) fun _ past link h => ?_
  refine wp_seq (discover_needs_vacuum_tells h) ?_
  rintro found past link ⟨htolerated, hfound⟩
  refine wp_seq (R := Resumable False) (wp_withContext_tells ?_) fun _ _ _ h => h
  have hrunner := run_needs_vacuum_is_runner plan.policy plan.settings.vacuumOptions plan.lagGate
    found seen.vacuumed
  cases hlost : link.lost with
  | none =>
      exact wp_mono (runner_alive hrunner hlost) (fun _ _ _ h => .of_alive h) (fun _ _ _ h => h)
  | some c =>
      have hclassic := hfound (by simp [hlost])
      refine wp_mono (runner_dead hrunner (by simp [hlost])) ?_ ?_
      · rintro _ _ _ ⟨rfl, hnil⟩ c hc
        exact ⟨htolerated c hc, hclassic.1 (by simpa using hnil), id⟩
      · rintro err _ link ⟨rfl, hne, hlost⟩ c hc
        have hreported : link.classic ≠ [] := fun hnil => hne (by simp [hclassic.2 hnil])
        simp [hlost, reported_of_tolerated (htolerated c hc), hreported]

/-- A later phase on a live or dead session: if it is enabled, it finds the loss. -/
theorem phase_resumable {α : Type} {enabled : Bool} {passed : Prop} (discover : RunM α)
    {keys : α → List TableKey} {run : α → RunM OperationSummary} {text : String} {seen : Seen}
    (update : α → Seen)
    (hdiscover : ∀ past link, link.lost = none →
      wp severed unchecked discover Alive (Tells plan) past link)
    (hdead : enabled = true → ∀ past link, link.lost.isSome →
      wp severed unchecked discover (fun found _ after => after = link ∧ keys found ≠ [])
        (fun err _ after => after = link ∧ isConnectionLost err = true) past link)
    (hrun : ∀ found, IsRunner policy phase statement already (keys found) (run found))
    (hgoes : enabled = true → plan.GoesOn) (h : Resumable passed () past link) :
    wp severed unchecked (phaseGuard enabled seen do
      log (.phaseStarted phase)
      let found ← discover
      let summary ← withContext (run found) text
      pure (summary, update found)) (Resumable (passed ∨ enabled = true)) (Tells plan)
      past link := by
  cases hlost : link.lost with
  | none =>
      exact wp_mono (phase_alive hdiscover hrun hlost) (fun _ _ _ h => .of_alive h)
        (fun _ _ _ h => h)
  | some lost =>
    cases enabled with
    | false => exact fun c hc => ⟨(h c hc).1, (h c hc).2.1, by simpa using (h c hc).2.2⟩
    | true =>
      have htells : ∀ err past, isConnectionLost err = true → Tells plan err past link := by
        intro err past herr c hc
        simp [herr, reported_of_tolerated (h c hc).1, hgoes rfl]
      refine wp_seq shutdown_requested_severed ?_
      rintro requested past link ⟨rfl, rfl⟩
      refine wp_ite.2 ⟨fun hrequested => absurd hrequested Bool.false_ne_true, fun _ => ?_⟩
      refine wp_seq (wp_local_total (by simp)) ?_
      rintro _ past link rfl
      refine wp_seq (wp_mono (hdead rfl past link (by simp [hlost])) (fun _ _ _ h => h) ?_) ?_
      · rintro err past _ ⟨rfl, herr⟩
        exact htells err past herr
      rintro found past link ⟨rfl, hkeys⟩
      refine wp_seq (R := fun _ _ _ => False) (wp_withContext_tells ?_) (fun _ _ _ => False.elim)
      refine wp_mono (runner_dead (hrun found) (by simp [hlost])) (fun _ _ _ h => hkeys h.2) ?_
      rintro err past _ ⟨rfl, _, herr⟩
      exact htells err past herr

/-- On a dead session a query for candidates fails. -/
theorem discovery_dead {c : Call} {text context : String} {keys : c.Row → List TableKey}
    (h : link.lost.isSome) :
    wp severed unchecked (withContext (queryContext c text) context)
      (fun found _ after => after = link ∧ keys found ≠ [])
      (fun err _ after => after = link ∧ isConnectionLost err = true) past link := by
  refine wp_withContext.2 (wp_queryContext.2 (wp_call_dead h fun err past hlost => ?_))
  simp [is_connection_lost_of_pg hlost]

variable {passed : Prop}

/-- Phase 6 finds a session that was lost before it, where it is enabled. -/
theorem phase_vacuum_overdue_resumable (seen : Seen) (h : Resumable passed () past link) :
    wp severed unchecked (phaseVacuumOverdue plan seen)
      (Resumable (passed ∨ plan.enabled .vacuumOverdue = true)) (Tells plan) past link :=
  phase_resumable _ _ (fun _ _ h => discovery_alive (fun _ => trivial) h)
    (fun _ _ _ h => discovery_dead h) (fun _ => run_vacuum_overdue_is_runner ..) .inl h

/-- Phase 7 finds a session that was lost before it, where it is enabled. -/
theorem phase_analyze_overdue_resumable (seen : Seen) (h : Resumable passed () past link) :
    wp severed unchecked (phaseAnalyzeOverdue plan seen)
      (Resumable (passed ∨ plan.enabled .analyzeOverdue = true)) (Tells plan) past link :=
  phase_resumable _ _ (fun _ _ h => discovery_alive (fun _ => trivial) h)
    (fun _ _ _ h => discovery_dead h) (fun _ => run_analyze_overdue_is_runner ..)
    (fun h => .inr (.inl h)) h

/-- Phase 8 finds a session that was lost before it, where it has tables. -/
theorem phase_also_tables_resumable (seen : Seen) (h : Resumable passed () past link) :
    wp severed unchecked (phaseAlsoTables plan seen)
      (Resumable (passed ∨ (!plan.alsoTables.isEmpty) = true)) (Tells plan) past link := by
  have hne : (!plan.alsoTables.isEmpty) = true → plan.alsoTables ≠ [] := by simp
  have hdiscover : ∀ past (link : Link), link.lost = none →
      wp severed unchecked (pure () : RunM Unit) Alive (Tells plan) past link := fun _ _ h => h
  have hdead : (!plan.alsoTables.isEmpty) = true → ∀ past (link : Link), link.lost.isSome →
      wp severed unchecked (pure () : RunM Unit)
        (fun _ _ after => after = link ∧ plan.alsoTables.map ExplicitTable.key ≠ [])
        (fun err _ after => after = link ∧ isConnectionLost err = true) past link :=
    fun henabled _ _ _ => ⟨rfl, by simpa using hne henabled⟩
  exact phase_resumable (pure ()) (fun _ => seen) hdiscover hdead
    (fun _ => run_also_tables_is_runner ..)
    (fun h => .inr (.inr (hne h))) h

end Phase

/-! ## The exit code -/

section Run

variable {plan : Plan} {past : Trace severed} {link : Link}

/-- The exit code is 3 if and only if the loss there was is to be reported. -/
def Exits (plan : Plan) (code : Nat) (_ : Trace severed) (link : Link) : Prop :=
  ∀ c ∈ link.lost, (code = 3 ↔ Reported plan link.classic c)

/-- All phases in order: a loss they return with is one that was not to be reported. -/
theorem run_in_order_resumable (h : link.lost = none) :
    wp severed unchecked (runInOrder (phases plan) {} {}) (Resumable plan.GoesOn) (Tells plan)
      past link := by
  refine wp_seq (phase_never_vacuumed_alive _ h) fun _ past link h => ?_
  refine wp_seq (phase_never_analyzed_alive _ h) fun _ past link h => ?_
  refine wp_seq (phase_prevent_wraparound_alive _ h) fun _ past link h => ?_
  refine wp_seq (phase_prevent_bloat_alive _ h) fun _ past link h => ?_
  refine wp_seq (phase_needs_vacuum_resumable _ h) fun _ past link h => ?_
  refine wp_seq (phase_vacuum_overdue_resumable _ h) fun _ past link h => ?_
  refine wp_seq (phase_analyze_overdue_resumable _ h) fun _ past link h => ?_
  refine wp_seq (phase_also_tables_resumable _ h) fun _ past link h c hc => ?_
  obtain ⟨htolerated, hclassic, hpassed⟩ := h c hc
  refine ⟨htolerated, hclassic, fun hgoes => hpassed ?_⟩
  simpa [Plan.GoesOn, or_assoc] using hgoes

/-- A run that came to its end did not report the loss, and does not exit with 3. -/
theorem finish_exits (total : OperationSummary) (h : Resumable plan.GoesOn total past link) :
    wp severed unchecked (finish total) (Exits plan) (Tells plan) past link := by
  have hunreported : ∀ c ∈ link.lost, ¬Reported plan link.classic c := by
    intro c hc
    obtain ⟨htolerated, hclassic, hgoes⟩ := h c hc
    simp [reported_of_tolerated htolerated, hclassic, hgoes]
  refine wp_seq (wp_local_total (by simp)) ?_
  rintro _ past link rfl
  refine wp_seq shutdown_requested_severed ?_
  rintro requested past link ⟨rfl, rfl⟩
  refine wp_ite.2 ⟨fun hrequested => absurd hrequested Bool.false_ne_true, fun _ => ?_⟩
  refine wp_ite.2 ⟨fun _ c hc => ?_, fun _ c hc => ?_⟩
  · simp [hunreported c hc]
  · simp [hunreported c hc]

/-- The exit code of the phases tells whether a loss was reported. -/
theorem exit_with_exits (h : link.lost = none) :
    wp severed unchecked (exitWith (runPhases plan)) (Exits plan) (fun _ _ _ => True)
      past link := by
  refine wp_seq_attempt (wp_seq (run_in_order_resumable h) fun total _ _ h => finish_exits total h)
    (fun _ _ _ h => h) fun err past link htells => ?_
  refine wp_seq is_requested_severed ?_
  rintro requested past link ⟨rfl, rfl⟩ c hc
  rw [← htells c hc, exit_code_not_requested, exitCodeFor]
  cases isConnectionLost err <;> simp

/-- A call that loses the connection in the phases of a run: the process exits with 3 if and
only if the loss is one that is reported. -/
theorem lost_connection_exit_code {settings : RunSettings} {start middle : Link}
    {before after : Trace severed} {classic : List NeedsVacuumTableInfo} {c : Call} {code : Nat}
    (hsetup : Exec severed start (setup settings) before middle (.pure plan))
    (hmiddle : middle.lost = none)
    (hphases : Exec severed middle (exitWith (runPhases plan)) after ⟨classic, some c⟩
      (.pure code)) :
    Exec severed start (main settings) (before ++ after) ⟨classic, some c⟩ (.pure code) ∧
      (code = 3 ↔ Reported plan classic c) := by
  refine ⟨exec_exit_with hsetup hphases, ?_⟩
  obtain ⟨last, hlast, hexits⟩ := hphases.returned (exit_with_exits hmiddle)
  obtain rfl := severed_drifts hlast
  exact hexits c rfl

end Run

/-- The plan of a run against it. -/
def onePlan : Plan where
  settings := defaultSettings [.neverVacuumed] []
  schemas := ["public"]
  wraparoundMinAge := 200000000
  lagGate := none
  alsoTables := []

/-- The statement on its table. -/
def oneStatement : Call :=
  .maintain (.vacuum ⟨true, false, false, none, none⟩) ("public", "t")

/-- The probe before it. -/
def oneProbe : Call := .findActiveVacuums ("public", "t")

/-- The trace of its setup. -/
def oneSetup (target : Call) : Trace severed :=
  ((setup onePlan.settings).play severed (oneTable.lostAt target) {}).1

/-- The trace of its phases. -/
def onePhases (target : Call) : Trace severed :=
  ((exitWith (runPhases onePlan)).play severed (oneTable.lostAt target) {}).1

/-- A session lost during the statement ends the process with code 3. -/
theorem lost_statement_exit_code :
    Exec severed {} (main onePlan.settings) (oneSetup oneStatement ++ onePhases oneStatement)
        ⟨[], some oneStatement⟩ (.pure 3) ∧ (3 = 3 ↔ Reported onePlan [] oneStatement) :=
  lost_connection_exit_code (oneTable.exec_lost_at id (setup onePlan.settings) {}) rfl
    (oneTable.exec_lost_at id (exitWith (runPhases onePlan)) {})

/-- A session lost during the probe for active vacuums ends it with code 1. -/
theorem lost_probe_exits_with_one :
    ¬∀ (settings : RunSettings) (plan : Plan) (start middle : Link) (before after : Trace severed)
      (classic : List NeedsVacuumTableInfo) (c : Call) (code : Nat),
      Exec severed start (setup settings) before middle (.pure plan) → middle.lost = none →
      Exec severed middle (exitWith (runPhases plan)) after ⟨classic, some c⟩ (.pure code) →
      code = 3 := by
  intro h
  have hsetup : Exec severed {} (setup onePlan.settings) (oneSetup oneProbe) {} (.pure onePlan) :=
    oneTable.exec_lost_at id _ _
  have hphases : Exec severed {} (exitWith (runPhases onePlan)) (onePhases oneProbe)
      ⟨[], some oneProbe⟩ (.pure 1) := oneTable.exec_lost_at id (exitWith (runPhases onePlan)) {}
  have hcode : 1 = 3 := h _ _ _ _ _ _ _ _ _ hsetup rfl hphases
  exact absurd hcode (by decide)

end PgMaintainer
