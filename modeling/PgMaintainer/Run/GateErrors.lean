import PgMaintainer.Interaction.Abort
import PgMaintainer.Run.Shape

/-!
# Errors of the gates

A call of the gates that fails ends the runner: the error goes up with `?` through the pass and
the loop, so nothing is performed after it. Conversely the gates and the head of a pass fail only
where such a call failed, or where the session was found closed.
-/

namespace PgMaintainer

open Interaction

/-- The calls of the gates. -/
def Call.OfGate : Call → Prop
  | .getCanReadReplicationStats | .getReplicationLag | .findActiveVacuums _
  | .terminateBackend _ => True
  | _ => False

/-- The operations of the gates and of the head of a pass. -/
def Op.Gating : Op → Prop
  | .call c => c.OfGate
  | .log (.lagRecovered _) | .log (.connectionLost _) => True
  | .log _ | .mark _ | .isRequested => False
  | _ => True

/-- The gates do nothing that counts a table. -/
theorem Op.Gating.aside {op : Op} (h : op.Gating) : op.Aside := by
  unfold Op.Aside
  split
  · exact h
  · exact h
  · exact h
  · exact h
  · trivial

/-- The operations of the gates that cannot tell of a shutdown. -/
def Op.Deaf : Op → Prop
  | .shutdownRequested | .sleepOrShutdown _ => False
  | op => op.Gating

/-- What cannot tell of a shutdown is still the gates'. -/
theorem Op.Deaf.gating {op : Op} (h : op.Deaf) : op.Gating := by
  unfold Op.Deaf at h
  split at h
  · exact h.elim
  · exact h.elim
  · exact h

/-- A call of the gates fails. -/
def Op.GateFails : (op : Op) → op.Answer → Prop
  | .call c, answer => c.OfGate ∧ ∃ err, answer = .error err
  | _, _ => False

/-- A call of the gates fails, or the session is found closed. -/
def Op.Fatal : (op : Op) → op.Answer → Prop
  | .isClosed, closed => closed = true
  | op, answer => op.GateFails answer

/-- A failed call of the gates is fatal. -/
theorem Op.GateFails.fatal {op : Op} {answer : op.Answer} (h : op.GateFails answer) :
    op.Fatal answer := by
  unfold Op.Fatal
  split
  · exact h.elim
  · exact h

/-- Operations that are no calls of the gates. -/
def Op.Ungated (op : Op) : Prop := ∀ c, op = .call c → ¬c.OfGate

attribute [local simp] Op.Deaf Op.Gating Call.OfGate Op.Ungated

/-- What is no call of the gates fails none. -/
theorem Op.Ungated.not_fails {op : Op} (h : op.Ungated) (answer : op.Answer) :
    ¬op.GateFails answer := by
  unfold Op.GateFails
  split
  · exact fun hfails => h _ rfl hfails.1
  · exact id

/-- A program without a call of the gates. -/
theorem only_ungated {ε α : Type} {p : Prog session ε α} (hp : p.Only Op.Ungated) :
    p.Aborts Op.GateFails :=
  hp.aborts fun _ answer h => h.not_fails answer

section Requests

/-- A call of the gates fails the program. -/
theorem query_context_aborts (c : Call) (text : String) :
    (queryContext c text).Aborts Op.GateFails := by
  intro answer
  cases answer with
  | ok row => exact ⟨fun ⟨_, err, h⟩ => (nomatch h), trivial⟩
  | error err => exact ⟨fun _ => ⟨_, rfl⟩, trivial⟩

/-- A call of the gates fails for no other reason. -/
theorem query_context_honest (c : Call) (hc : c.OfGate) (text : String) :
    (queryContext c text).Honest Op.Fatal := by
  intro answer
  cases answer with
  | ok row => exact .inr trivial
  | error err =>
      have hfails : (Op.call c).GateFails (.error err) := ⟨hc, err, rfl⟩
      exact .inl ⟨hfails.fatal, _, rfl⟩

end Requests

section Gates

variable {policy : RunPolicy} {table : TableKey} {summary : OperationSummary}

/-- An observation of the standbys does not look at the flag. -/
theorem observe_replica_lag_deaf : observeReplicaLag.Only Op.Deaf := by
  simp [observeReplicaLag]

/-- A failed observation aborts the wait. -/
theorem observe_replica_lag_aborts : observeReplicaLag.Aborts Op.GateFails := by
  refine (query_context_aborts _ _).bind fun canRead => ?_
  refine Prog.aborts_ite.2 ⟨fun _ => trivial, fun _ => ?_⟩
  refine (query_context_aborts _ _).bind fun rows => ?_
  exact Prog.aborts_ite.2 ⟨fun _ => trivial, fun _ => trivial⟩

/-- An observation fails for no other reason. -/
theorem observe_replica_lag_honest : observeReplicaLag.Honest Op.Fatal := by
  refine (query_context_honest .getCanReadReplicationStats trivial _).bind fun canRead => ?_
  refine Prog.honest_ite.2 ⟨fun _ => trivial, fun _ => ?_⟩
  refine (query_context_honest .getReplicationLag trivial _).bind fun rows => ?_
  exact Prog.honest_ite.2 ⟨fun _ => trivial, fun _ => trivial⟩

/-- To give up a wait calls nothing. -/
theorem give_up_waiting_aborts (started : Nat) :
    (giveUpWaiting started).Aborts Op.GateFails :=
  only_ungated (by simp [giveUpWaiting, addWaited])

/-- By induction on the rounds left. -/
theorem wait_for_replica_lag_loop_aborts (gate : ReplicaLagGate) (started rounds : Nat) :
    (waitForReplicaLagLoop gate table started rounds).Aborts Op.GateFails := by
  have hwaited : (addWaited started).Aborts Op.GateFails :=
    only_ungated (by simp [addWaited])
  induction rounds with
  | zero => exact give_up_waiting_aborts started
  | succ rounds ih =>
      refine (only_ungated (by simp)).bind fun time => ?_
      refine Prog.aborts_ite.2 ⟨fun _ => give_up_waiting_aborts started, fun _ => ?_⟩
      refine (only_ungated (by simp)).bind fun wake => ?_
      cases wake with
      | shutdown => exact hwaited.bind fun _ => trivial
      | slept =>
          refine observe_replica_lag_aborts.bind fun current => ?_
          refine Prog.aborts_ite.2 ⟨fun _ => ?_, fun _ => ?_⟩
          · exact hwaited.bind fun _ => only_ungated (by simp)
          · refine (only_ungated (by simp)).bind fun time => ?_
            exact Prog.aborts_ite.2 ⟨fun _ => give_up_waiting_aborts started, fun _ => ih⟩

/-- A failed observation aborts the gate. -/
theorem wait_for_replica_lag_aborts (gate : ReplicaLagGate) :
    (waitForReplicaLag gate table policy).Aborts Op.GateFails := by
  refine (only_ungated (by simp)).bind fun disabled => ?_
  refine Prog.aborts_ite.2 ⟨fun _ => trivial, fun _ => ?_⟩
  refine observe_replica_lag_aborts.bind fun observation => ?_
  cases observation with
  | noReplicas => exact only_ungated (by simp)
  | unobservable => exact only_ungated (by simp)
  | observed standbys =>
      refine Prog.aborts_ite.2 ⟨fun _ => trivial, fun _ => Prog.aborts_ite.2
        ⟨fun _ => trivial, fun _ => Prog.aborts_ite.2 ⟨fun _ => ?_, fun _ => ?_⟩⟩⟩
      · exact only_ungated (by simp)
      · exact (only_ungated (by simp)).bind fun _ =>
          wait_for_replica_lag_loop_aborts ..

/-- A failed probe aborts the second gate. -/
theorem find_active_vacuums_aborts : (findActiveVacuums table).Aborts Op.GateFails := by
  intro answer
  cases answer with
  | ok rows => exact ⟨fun ⟨_, err, h⟩ => (nomatch h), trivial⟩
  | error err => exact ⟨fun _ => ⟨_, rfl⟩, trivial⟩

/-- A failed termination aborts the loop over the backends. By induction on them. -/
theorem terminate_backends_aborts (pids : List Int) :
    (terminateBackends pids).Aborts Op.GateFails := by
  induction pids with
  | nil => trivial
  | cons pid pids ih => exact (query_context_aborts _ _).bind fun _ => ih

/-- A dry run terminates nothing. -/
theorem terminate_in_real_run_aborts (pids : List Int) :
    (terminateInRealRun policy pids).Aborts Op.GateFails :=
  Prog.aborts_ite.2 ⟨fun _ => trivial, fun _ => terminate_backends_aborts pids⟩

/-- By induction on the backends. -/
theorem terminate_in_real_run_deaf (pids : List Int) :
    (terminateInRealRun policy pids).Only Op.Deaf := by
  refine Prog.all_ite.2 ⟨fun _ => trivial, fun _ => ?_⟩
  induction pids with
  | nil => trivial
  | cons pid pids ih => exact Prog.Only.bind (by simp) fun _ => ih

/-- By induction on the backends. -/
theorem terminate_in_real_run_honest (pids : List Int) :
    (terminateInRealRun policy pids).Honest Op.Fatal := by
  refine Prog.honest_ite.2 ⟨fun _ => trivial, fun _ => ?_⟩
  induction pids with
  | nil => trivial
  | cons pid pids ih =>
      exact (query_context_honest (.terminateBackend pid) trivial _).bind fun _ => ih

/-- A skipped table calls nothing. -/
theorem skip_table_aborts (reason : SkipReason) :
    (skipTable summary table reason).Aborts Op.GateFails :=
  only_ungated (by simp [skipTable])

/-- The second gate is aborted by its probe and by its terminations. -/
theorem handle_active_vacuums_aborts :
    (handleActiveVacuums table policy summary).Aborts Op.GateFails := by
  refine find_active_vacuums_aborts.bind fun sessions => ?_
  refine Prog.aborts_ite.2 ⟨fun _ => trivial, fun _ => Prog.aborts_ite.2
    ⟨fun _ => (skip_table_aborts _).bind fun _ => trivial, fun _ => ?_⟩⟩
  refine (terminate_in_real_run_aborts _).bind fun _ => ?_
  refine Prog.aborts_ite.2 ⟨fun _ => trivial, fun _ => Prog.aborts_ite.2 ⟨fun _ => ?_, fun _ => ?_⟩⟩
  · exact (terminate_in_real_run_aborts _).bind fun _ => trivial
  · exact (skip_table_aborts _).bind fun _ => trivial

end Gates

section Pass

variable {r : Runner} {statement : Statement} {policy : RunPolicy} {table : TableKey}
  {summary : OperationSummary}

/-- A report is no call of the gates. -/
theorem Op.Reporting.ungated {op : Op} (h : op.Reporting) : op.Ungated := by
  rintro c rfl
  cases c <;> first | exact id | exact h.elim

/-- The statement and its outcome make no call of the gates. -/
theorem maintain_table_ungated (hr : r.Performs statement) (count i : Nat) :
    (maintainTable r policy count i table summary).Only Op.Ungated := by
  have hlog : ∀ row, (logMaintenanceOperation policy.dryRun row).Only Op.Ungated := fun row => by
    simp [logMaintenanceOperation]
  have hoperation : (r.operation table).Only Op.Ungated := by
    rw [hr.operation]
    exact operation_only (by simp) (by simp)
  have hretry : (withLockTimeoutRetry policy (r.operation table)).Only Op.Ungated :=
    retry_loop_only hoperation (by simp) (by simp) _ _
  have hreport : ∀ result, (r.report table result).Only Op.Ungated := fun result =>
    (hr.reporting table result).mono (fun _ h => h.ungated) (fun _ h => h) fun _ h => h
  have hfailure : ∀ err durationMs,
      (recordFailure r policy summary table err durationMs).Only Op.Ungated := fun err _ =>
    Prog.all_ite.2 ⟨fun _ => by simp [skipTable],
      fun _ => (hlog _).bind fun _ => by simp⟩
  refine Prog.all_ite.2 ⟨fun _ => by simp, fun _ => ?_⟩
  refine Prog.Only.bind (by simp) fun started => ?_
  refine hretry.attempt.bind fun outcome => ?_
  refine Prog.Only.bind (by simp) fun time => ?_
  cases outcome with
  | ok result =>
      refine (hreport result).bind fun _ => (hlog _).bind fun _ => ?_
      simp
  | error err =>
      refine Prog.Only.bind (by simp) fun requested => ?_
      cases classifyOpError err requested with
      | connectionLost =>
          exact Prog.Only.bind (by simp [connectionLostError]) fun _ => trivial
      | shutdownInterrupted =>
          refine Prog.Only.bind (Prog.Only.bind (by simp [skipTable]) fun summary => ?_)
            fun _ => trivial
          refine Prog.Only.bind (by simp) fun closed => ?_
          exact Prog.all_ite.2 ⟨fun _ => trivial, fun _ => (hlog _).bind fun _ => trivial⟩
      | lockTimeout => exact hfailure err _
      | other => exact hfailure err _

/-- The report of a lost connection is one log line. -/
theorem connection_lost_error_deaf (operation : String) (position : Option (Nat × Nat))
    (cause : String) : (connectionLostError operation table position cause).Only Op.Deaf := by
  simp [connectionLostError]

/-- The head of a pass is aborted where its body is. -/
theorem visit_table_aborts {body : Pass} (hbody : body.Aborts Op.GateFails) (count i : Nat) :
    (visitTable r count i table summary body).Aborts Op.GateFails := by
  refine (only_ungated (by simp)).bind fun _ => ?_
  refine (only_ungated (by simp)).bind fun closed => ?_
  refine Prog.aborts_ite.2 ⟨fun _ => ?_, fun _ => ?_⟩
  · exact (only_ungated (by simp [connectionLostError])).bind fun _ => trivial
  refine (only_ungated (by simp)).bind fun requested => ?_
  exact Prog.aborts_ite.2 ⟨fun _ => trivial, fun _ => hbody⟩

/-- So is a pass that looks at the handled tables first. -/
theorem unless_handled_aborts {already : Option (List TableKey)} {body : Pass}
    (hbody : body.Aborts Op.GateFails) :
    (unlessHandled already table summary body).Aborts Op.GateFails := by
  by_cases hout : LeavesOut already table
  · rw [unless_handled_left_out hout]
    exact (skip_table_aborts _).bind fun _ => trivial
  · rwa [unless_handled_taken hout]

/-- The replica-lag gate aborts the pass, or its rest is reached. -/
theorem after_lag_gate_aborts {body : Pass} (hbody : body.Aborts Op.GateFails)
    (gate : Option ReplicaLagGate) :
    (afterLagGate gate policy table summary body).Aborts Op.GateFails := by
  cases gate with
  | none => exact hbody
  | some gate =>
      refine (wait_for_replica_lag_aborts gate).bind fun verdict => ?_
      cases verdict with
      | proceed => exact hbody
      | skipTable => exact (skip_table_aborts _).bind fun _ => trivial
      | shutdownRequested => trivial

/-- So does the second gate. -/
theorem after_active_vacuums_aborts {body : OperationSummary → Pass}
    (hbody : ∀ summary, (body summary).Aborts Op.GateFails) :
    (afterActiveVacuums policy table summary body).Aborts Op.GateFails := by
  refine handle_active_vacuums_aborts.bind fun verdict => ?_
  obtain ⟨proceed, summary⟩ := verdict
  exact Prog.aborts_ite.2 ⟨fun _ => hbody summary, fun _ => trivial⟩

/-- A pass is aborted by every failed call of its gates. -/
theorem pass_aborts {already : Option (List TableKey)} {body : PassBody}
    (hpass : IsPass policy statement already body) (i : Nat) :
    (body i table summary).Aborts Op.GateFails := by
  cases hpass with
  | once r gate count hr =>
      refine visit_table_aborts (unless_handled_aborts ?_) count i
      refine after_lag_gate_aborts (after_active_vacuums_aborts fun summary => ?_) gate
      exact only_ungated (maintain_table_ungated hr count i)
  | twice r gate count hr =>
      refine visit_table_aborts (unless_handled_aborts ?_) count i
      refine after_lag_gate_aborts (after_lag_gate_aborts ?_ gate) gate
      exact after_active_vacuums_aborts fun summary =>
        only_ungated (maintain_table_ungated hr count i)

end Pass

/-- An error of the gates ends the runner. -/
theorem runner_aborts {policy : RunPolicy} {phase : Phase} {statement : Statement}
    {already : Option (List TableKey)} {tables : List TableKey} {runner : RunM OperationSummary}
    (h : IsRunner policy phase statement already tables runner) :
    runner.Aborts Op.GateFails := by
  obtain ⟨body, hbody⟩ := h
  refine (only_ungated (by simp)).bind fun _ => ?_
  exact .sweep (fun i table summary => pass_aborts hbody i) 0 tables _

end PgMaintainer
