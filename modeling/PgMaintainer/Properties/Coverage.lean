import PgMaintainer.Run.History
import PgMaintainer.Run.Server

/-!
# No VACUUM work is lost

In a real run that nothing disturbs, a candidate of a VACUUM phase is vacuumed, skipped by a
gate, or left out because an earlier phase had it as a candidate. The sets do not tell the two
kinds of work apart: a candidate of an ANALYZE phase is left out of the bloat phase and of
`--also-tables` too, and the bloat phase then records it as vacuumed. So such a table is lost.
-/

namespace PgMaintainer

open Interaction

attribute [local simp] Op.Aside

/-- A VACUUM-kind statement was attempted on the table, or a gate skipped it. -/
def Served {W : World session} (past : Trace W) (table : TableKey) : Prop :=
  Attempted past Statement.isVacuum table ∨ GateSkipped past table

/-- The table was served, or its dead tuples could not be read, which keeps the statement from
being sent. -/
def Done {W : World session} (past : Trace W) (table : TableKey) : Prop :=
  Served past table ∨ CountRead past table false

section Append

variable {W : World session} {past more : Trace W} {table : TableKey}

/-- A table that was served stays so. -/
theorem Served.append (h : Served past table) : Served (past ++ more) table :=
  h.imp (fun h => attempted_append.2 (.inl h)) (fun h => gate_skipped_append.2 (.inl h))

/-- A table that is done stays so. -/
theorem Done.append (h : Done past table) : Done (past ++ more) table :=
  h.imp Served.append (fun h => count_read_append.2 (.inl h))

end Append

/-! ## The gates in a calm world -/

section Calm

variable {past : Trace calm} {state : Unit}

/-- A call that has to answer nothing in particular. -/
abbrev anything : Trace calm → Moment calm → Prop := fun _ _ => True

/-- Without a shutdown every sleep ends by itself. -/
theorem sleep_calm {ε : Type} {E : ε → Trace calm → Unit → Prop} (nanoseconds : Nat) :
    wp calm anything (sleepOrShutdown nanoseconds) (fun wake _ _ => wake = .slept) E past state :=
  fun _ _ _ _ hwake => ⟨trivial, hwake⟩

/-- Without a shutdown the flag is not set. -/
theorem shutdown_requested_calm {ε : Type} {E : ε → Trace calm → Unit → Prop} :
    wp calm anything shutdownRequested (fun requested _ _ => requested = false) E past state :=
  fun _ _ _ _ hrequested => ⟨trivial, hrequested⟩

/-- The wait for the replicas is not interrupted. By induction on the rounds left. -/
theorem wait_for_replica_lag_loop_calm (gate : ReplicaLagGate) (table : TableKey)
    (started rounds : Nat) :
    wp calm anything (waitForReplicaLagLoop gate table started rounds)
      (fun verdict _ _ => verdict ≠ .shutdownRequested) (fun _ _ _ => True) past state := by
  have hgive : ∀ past state, wp calm anything (giveUpWaiting started)
      (fun verdict _ _ => verdict ≠ .shutdownRequested) (fun _ _ _ => True) past state :=
    fun _ _ => wp_seq wp_true fun _ _ _ _ => wp_seq wp_true fun _ _ _ _ => nofun
  induction rounds generalizing past state with
  | zero => exact hgive _ _
  | succ rounds ih =>
      refine wp_seq wp_true fun time past state _ => ?_
      dsimp only
      refine wp_ite.2 ⟨fun _ => hgive _ _, fun _ => ?_⟩
      refine wp_seq (sleep_calm _) ?_
      rintro wake past state rfl
      refine wp_seq wp_true fun current past state _ => ?_
      refine wp_ite.2 ⟨fun _ => ?_, fun _ => wp_seq wp_true fun time past state _ => ?_⟩
      · exact wp_seq wp_true fun _ _ _ _ => wp_seq wp_true fun _ _ _ _ => nofun
      · exact wp_ite.2 ⟨fun _ => hgive _ _, fun _ => ih⟩

/-- Without a shutdown the gate lets the table through or skips it. -/
theorem wait_for_replica_lag_calm (gate : ReplicaLagGate) (table : TableKey)
    (policy : RunPolicy) :
    wp calm anything (waitForReplicaLag gate table policy)
      (fun verdict _ _ => verdict ≠ .shutdownRequested) (fun _ _ _ => True) past state := by
  refine wp_seq wp_true fun disabled past state _ => wp_ite.2 ⟨fun _ => nofun, fun _ => ?_⟩
  refine wp_seq wp_true fun observation past state _ => ?_
  cases observation with
  | noReplicas => exact wp_seq wp_true fun _ _ _ _ => nofun
  | unobservable => exact wp_seq wp_true fun _ _ _ _ => nofun
  | observed standbys =>
      refine wp_ite.2 ⟨fun _ => nofun, fun _ => wp_ite.2 ⟨fun _ => nofun, fun _ => ?_⟩⟩
      refine wp_ite.2 ⟨fun _ => wp_seq wp_true fun _ _ _ _ => nofun, fun _ => ?_⟩
      exact wp_seq wp_true fun _ _ _ _ => wait_for_replica_lag_loop_calm ..

/-! ## One pass -/

/-- Whose dead tuples were read, a VACUUM was attempted on it. This holds between any two
statements: the first read of a table comes right before its statement. -/
def Reads (past : Trace calm) : Prop :=
  ∀ table, CountRead past table true → Attempted past Statement.isVacuum table

/-- What a pass with this statement owes its table. -/
def Goal (statement : Statement) (table : TableKey) (past : Trace calm) : Prop :=
  match statement with
  | .analyze => True
  | .freeze _ => Served past table
  | .vacuum _ | .vacuumAnalyze _ => Done past table

/-- What a pass owes is not lost again. -/
theorem goal_lasting (statement : Statement) (table : TableKey) :
    Lasting (Goal statement table) := by
  intro past more h
  cases statement with
  | analyze => trivial
  | freeze => exact Served.append h
  | vacuum => exact Done.append h
  | vacuumAnalyze => exact Done.append h

/-- A table skipped by a gate is owed nothing more. -/
theorem goal_of_gate_skipped {statement : Statement} {table : TableKey}
    (h : GateSkipped past table) : Goal statement table past := by
  cases statement with
  | analyze => trivial
  | freeze => exact .inr h
  | vacuum => exact .inl (.inr h)
  | vacuumAnalyze => exact .inl (.inr h)

variable {P : Trace calm → Prop}

/-- An operation that reads no dead tuples. -/
def Op.NoRead (op : Op) : Prop := ∀ table, op ≠ .call (.getDeadTupleCount table)

attribute [local simp] Op.NoRead

/-- What is aside reads no dead tuples. -/
theorem Op.Aside.noRead {op : Op} (h : op.Aside) : op.NoRead := by
  rintro _ rfl
  exact h

/-- Nor does what happens around a statement. -/
theorem Op.Record.noRead {op : Op} (h : op.Record) : op.NoRead := by
  rintro _ rfl
  exact h

/-- Such a step is no read. -/
theorem count_read_singleton {m : Moment calm} {table : TableKey} {succeeded : Bool}
    (h : Op.NoRead m.op) : ¬CountRead [m] table succeeded := by
  rintro ⟨_, hm, hread⟩
  obtain rfl := List.mem_singleton.1 hm
  unfold countRead at hread
  split at hread
  · exact h _ rfl
  · exact h _ rfl
  · simp at hread

/-- Everything but a read keeps `Reads` and what lasts. -/
theorem keeps_reads (hP : Lasting P) :
    calm.Keeps anything Op.NoRead fun past _ => Reads past ∧ P past := by
  rintro past _ now ⟨hreads, h⟩ _ op answer after hop _
  refine ⟨trivial, fun table hread => ?_, hP _ _ h⟩
  rcases count_read_append.1 hread with hread | hread
  · exact attempted_append.2 (.inl (hreads table hread))
  · exact absurd hread (count_read_singleton hop)

/-- Between two statements every read has its statement. -/
theorem keeps_reads_aside (hP : Lasting P) :
    calm.Keeps anything Op.Aside fun past _ => Reads past ∧ P past :=
  fun past state now h hdrift op answer after hop hanswer =>
    keeps_reads hP past state now h hdrift op answer after hop.noRead hanswer

/-- A read of one table, where an attempt on that table excuses it. -/
theorem reads_append_read {table : TableKey} {m : Moment calm}
    (hop : m.op = .call (.getDeadTupleCount table)) {other : TableKey}
    (hread : CountRead (past ++ [m]) other true) : CountRead past other true ∨ other = table := by
  refine (count_read_append.1 hread).imp id ?_
  rintro ⟨_, hm, hm'⟩
  obtain rfl := List.mem_singleton.1 hm
  unfold countRead at hm'
  split at hm' <;> simp_all

/-- VACUUM between its two reads: if the first read fails, nothing was attempted, otherwise the
statement was. -/
theorem between_calm {statement : Statement} (hstatement : statement.isVacuum = true)
    (table : TableKey) (hP : Lasting P) (hreads : Reads past) (h : P past) :
    wp calm anything (betweenDeadTupleCounts statement table)
      (fun _ past _ => Reads past ∧ P past ∧ Done past table)
      (fun _ past _ => Reads past ∧ P past ∧ Done past table) past state := by
  -- between the first read and the statement the table is the only one not excused
  refine wp_seq (R := fun _ past _ => P past ∧
    ∀ other, CountRead past other true →
      Attempted past Statement.isVacuum other ∨ other = table) (wp_query.2 ?_) ?_
  · rintro now - (err | count) after -
    · refine ⟨trivial, fun other hread => ?_, hP _ _ h, .inr ?_⟩
      · rcases count_read_append.1 hread with hread | ⟨_, hm, hm'⟩
        · exact attempted_append.2 (.inl (hreads other hread))
        · obtain rfl := List.mem_singleton.1 hm
          simp [countRead] at hm'
      · exact count_read_append.2 (.inr ⟨_, List.mem_singleton_self _, rfl⟩)
    · refine ⟨trivial, hP _ _ h, fun other hread => ?_⟩
      exact (reads_append_read rfl hread).imp
        (fun hread => attempted_append.2 (.inl (hreads other hread))) id
  rintro count past state ⟨h, hreads⟩
  -- the statement excuses the table of the first read
  have hattempt : ∀ m : Moment calm, m.op = .call (.maintain statement table) →
      Reads (past ++ [m]) ∧ P (past ++ [m]) ∧
        Attempted (past ++ [m]) Statement.isVacuum table := by
    intro m hop
    have hattempted : Attempted (past ++ [m]) Statement.isVacuum table :=
      attempted_append.2 (.inr (attempted_singleton.2 ⟨statement, hop, hstatement⟩))
    refine ⟨fun other hread => ?_, hP _ _ h, hattempted⟩
    rcases count_read_append.1 hread with hread | hread
    · rcases hreads other hread with h | rfl
      · exact attempted_append.2 (.inl h)
      · exact hattempted
    · exact absurd hread (count_read_singleton (by rw [hop]; rintro _ ⟨⟩))
  refine wp_seq (R := fun _ past _ => Reads past ∧ P past ∧
    Attempted past Statement.isVacuum table) (wp_query.2 ?_) ?_
  · rintro now - answer after -
    obtain ⟨hreads, h, hattempted⟩ := hattempt ⟨now, _, answer⟩ rfl
    cases answer with
    | error => exact ⟨trivial, hreads, h, .inl (.inl hattempted)⟩
    | ok => exact ⟨trivial, hreads, h, hattempted⟩
  rintro _ past state ⟨hreads, h, hattempted⟩
  have hread : ∀ m : Moment calm, m.op = .call (.getDeadTupleCount table) →
      Reads (past ++ [m]) ∧ P (past ++ [m]) ∧ Done (past ++ [m]) table := by
    intro m hop
    have hattempted' : Attempted (past ++ [m]) Statement.isVacuum table :=
      attempted_append.2 (.inl hattempted)
    refine ⟨fun other hread => ?_, hP _ _ h, .inl (.inl hattempted')⟩
    rcases reads_append_read hop hread with hread | rfl
    · exact attempted_append.2 (.inl (hreads other hread))
    · exact hattempted'
  refine wp_seq (R := fun _ past _ => Reads past ∧ P past ∧ Done past table) (wp_query.2 ?_)
    fun _ _ _ h => h
  rintro now - answer after -
  have hdone := hread ⟨now, _, answer⟩ rfl
  cases answer with
  | error => exact ⟨trivial, hdone⟩
  | ok => exact ⟨trivial, hdone⟩

/-- The statement alone: it was attempted. -/
theorem without_calm (statement : Statement) (table : TableKey) (hP : Lasting P)
    (hreads : Reads past) (h : P past) :
    wp calm anything (withoutDeadTupleCounts statement table)
      (fun _ past _ => Reads past ∧ P past ∧ Attempted past (· == statement) table)
      (fun _ past _ => Reads past ∧ P past ∧ Attempted past (· == statement) table)
      past state := by
  have hattempt : ∀ m : Moment calm, m.op = .call (.maintain statement table) →
      Reads (past ++ [m]) ∧ P (past ++ [m]) ∧ Attempted (past ++ [m]) (· == statement) table := by
    intro m hop
    refine ⟨fun other hread => ?_, hP _ _ h,
      attempted_append.2 (.inr (attempted_singleton.2 ⟨statement, hop, by simp⟩))⟩
    rcases count_read_append.1 hread with hread | hread
    · exact attempted_append.2 (.inl (hreads other hread))
    · exact absurd hread (count_read_singleton (by rw [hop]; rintro _ ⟨⟩))
  refine wp_seq (R := fun _ past _ => Reads past ∧ P past ∧
    Attempted past (· == statement) table) (wp_query.2 ?_) fun _ _ _ h => h
  rintro now - answer after -
  have hdone := hattempt ⟨now, _, answer⟩ rfl
  cases answer with
  | error => exact ⟨trivial, hdone⟩
  | ok => exact ⟨trivial, hdone⟩

/-- The statement with what surrounds it does what it owes, also when it fails. -/
theorem operation_calm (statement : Statement) (table : TableKey) (hP : Lasting P)
    (hreads : Reads past) (h : P past) :
    wp calm anything (statement.operation table)
      (fun _ past _ => Reads past ∧ P past ∧ Goal statement table past)
      (fun _ past _ => Reads past ∧ P past ∧ Goal statement table past) past state := by
  cases statement with
  | vacuum => exact between_calm rfl table hP hreads h
  | vacuumAnalyze => exact between_calm rfl table hP hreads h
  | freeze options =>
      have hgoal : ∀ past, Attempted past (· == .freeze options) table →
          Goal (.freeze options) table past := by
        rintro past ⟨m, hm, statement, hop, hk⟩
        obtain rfl := eq_of_beq hk
        exact .inl ⟨m, hm, _, hop, rfl⟩
      exact wp_mono (without_calm _ table hP hreads h)
        (fun _ past _ h => ⟨h.1, h.2.1, hgoal past h.2.2⟩)
        (fun _ past _ h => ⟨h.1, h.2.1, hgoal past h.2.2⟩)
  | analyze =>
      exact wp_mono (without_calm _ table hP hreads h)
        (fun _ past _ h => ⟨h.1, h.2.1, trivial⟩) (fun _ past _ h => ⟨h.1, h.2.1, trivial⟩)

/-- What reads no dead tuples keeps what lasts. -/
theorem quiet_calm {ε α : Type} {p : Prog session ε α} {E : ε → Trace calm → Unit → Prop}
    (hp : p.Only Op.NoRead) (hP : Lasting P) (h : Reads past ∧ P past)
    (herr : ∀ err past state, Reads past ∧ P past → E err past state) :
    wp calm anything p (fun _ past _ => Reads past ∧ P past) E past state :=
  wp_of_only hp (keeps_reads hP) herr h

/-- A program of such steps keeps it so. -/
theorem aside_calm {ε α : Type} {p : Prog session ε α} {E : ε → Trace calm → Unit → Prop}
    (hp : p.Only Op.Aside) (hP : Lasting P) (h : Reads past ∧ P past)
    (herr : ∀ err past state, Reads past ∧ P past → E err past state) :
    wp calm anything p (fun _ past _ => Reads past ∧ P past) E past state :=
  wp_of_only hp (keeps_reads_aside hP) herr h

section Pass

variable {statement : Statement} {table : TableKey} {already : Option (List TableKey)}

/-- With retries the statement does what it owes. By induction on the retries left. -/
theorem retry_loop_calm (hP : Lasting P) (left delayMs : Nat) (h : Reads past ∧ P past) :
    wp calm anything (retryLoop (statement.operation table) left delayMs)
      (fun _ past _ => Reads past ∧ P past ∧ Goal statement table past)
      (fun _ past _ => Reads past ∧ P past ∧ Goal statement table past) past state := by
  induction left generalizing delayMs past state with
  | zero => exact operation_calm statement table hP h.1 h.2
  | succ left ih =>
      have hlasting := hP.and (goal_lasting statement table)
      refine wp_seq_attempt (operation_calm statement table hP h.1 h.2) (fun _ _ _ h => h)
        fun err past state h => ?_
      refine wp_ite.2 ⟨fun _ => h, fun _ => ?_⟩
      refine wp_seq (aside_calm (by simp) hlasting h fun _ _ _ h => h)
        fun _ past state h => ?_
      refine wp_ite.2 ⟨fun _ => h, fun _ => ?_⟩
      refine wp_seq (aside_calm (by simp) hlasting h fun _ _ _ h => h)
        fun wake past state h => ?_
      cases wake with
      | shutdown => exact h
      | slept => exact ih _ ⟨h.1, h.2.1⟩

/-- What holds after a pass that went on; no pass breaks off. -/
abbrev Went (P : Trace calm → Prop) (flow : Flow OperationSummary) (past : Trace calm) : Prop :=
  flow.Sat (fun _ => Reads past ∧ P past) (fun _ => False)

/-- Maintaining a table in a real run. -/
theorem maintain_table_calm {r : Runner} {policy : RunPolicy} {summary : OperationSummary}
    {count i : Nat} (hr : r.Performs statement) (hreal : policy.dryRun = false) (hP : Lasting P)
    (h : Reads past ∧ P past) :
    wp calm anything (maintainTable r policy count i table summary)
      (fun flow past _ => Went (fun past => P past ∧ Goal statement table past) flow past)
      (fun _ _ _ => True) past state := by
  have hlasting := hP.and (goal_lasting statement table)
  have hnext : ∀ {p : Pass} {past : Trace calm} {state : Unit},
      p.All Op.Record Flow.GoesOn (fun _ => False) →
      Reads past ∧ P past ∧ Goal statement table past →
      wp calm anything p
        (fun flow past _ => Went (fun past => P past ∧ Goal statement table past) flow past)
        (fun _ _ _ => True) past state := by
    intro p past state hp h
    refine wp_mono (wp_of_all (hp.mono (fun _ => Op.Record.noRead) (fun _ h => h) fun _ h => h)
      (keeps_reads hlasting) h) ?_ (fun _ _ _ _ => trivial)
    rintro (next | stop) past state ⟨hflow, h⟩
    · exact h
    · exact hflow.elim
  simp only [maintainTable, hreal, Bool.false_eq_true, if_false]
  refine wp_seq (aside_calm (by simp) hP h fun _ _ _ _ => trivial)
    fun start past state h => ?_
  rw [hr.operation]
  have houtcome : ∀ past state, Reads past ∧ P past → wp calm anything
      (withLockTimeoutRetry policy (statement.operation table))
      (fun _ past _ => Reads past ∧ P past ∧ Goal statement table past)
      (fun _ past _ => Reads past ∧ P past ∧ Goal statement table past) past state :=
    fun _ _ h => retry_loop_calm hP _ _ h
  have htime : ∀ past state, Reads past ∧ P past ∧ Goal statement table past →
      wp calm anything (now : RunM Nat) (fun _ past _ => Reads past ∧ P past ∧
        Goal statement table past) (fun _ _ _ => True) past state :=
    fun _ _ h => aside_calm (by simp) hlasting h fun _ _ _ _ => trivial
  -- the goal is met by the statement, whether it succeeded or failed
  refine wp_seq_attempt (houtcome _ _ h) (fun result past state h => ?_) fun err past state h => ?_
  · exact wp_seq (htime _ _ h) fun time past state h =>
      hnext (record_success_record hr.report result _) h
  · refine wp_seq (htime _ _ h) fun time past state h => ?_
    refine wp_seq (wp_also (aside_calm (by simp) hlasting h fun _ _ _ _ => trivial)
      shutdown_requested_calm) ?_
    rintro _ past state ⟨h, rfl⟩
    have hnot := classify_op_error_calm err
    cases hkind : classifyOpError err false with
    | connectionLost => exact wp_seq wp_true fun _ _ _ _ => trivial
    | shutdownInterrupted => exact absurd hkind hnot
    | lockTimeout => exact hnext (record_failure_record err _) h
    | other => exact hnext (record_failure_record err _) h

variable {Q : Trace calm → Prop} {body : Pass} {summary : OperationSummary} {policy : RunPolicy}

/-- A counted skip, where the pass owes nothing more. -/
theorem skip_calm (reason : SkipReason) (h : Reads past ∧ P past)
    (hP : ∀ past m, P past → m.op = .mark (.tally table (.skipped reason)) → Q (past ++ [m])) :
    wp calm anything (do pure (.next (← skipTable summary table reason)) : Pass)
      (fun flow past _ => Went Q flow past) (fun _ _ _ => True) past state := by
  rintro now - answer after -
  refine ⟨trivial, ?_, hP _ _ h.2 rfl⟩
  exact ((keeps_reads (P := fun _ => True) (fun _ _ h => h)) past _ now ⟨h.1, trivial⟩ .refl
    (.mark (.tally table (.skipped reason))) answer after nofun trivial).2.1

/-- The lag gate: it skips the table, or goes on. -/
theorem after_lag_gate_calm (gate : Option ReplicaLagGate) (hP : Lasting P)
    (h : Reads past ∧ P past)
    (hbody : ∀ past state, Reads past ∧ P past → wp calm anything body
      (fun flow past _ => Went (fun past => P past ∧ Goal statement table past) flow past)
      (fun _ _ _ => True) past state) :
    wp calm anything (afterLagGate gate policy table summary body)
      (fun flow past _ => Went (fun past => P past ∧ Goal statement table past) flow past)
      (fun _ _ _ => True) past state := by
  cases gate with
  | none => exact hbody _ _ h
  | some gate =>
      have hwait := only_aside (wait_for_replica_lag_inert gate table policy)
      refine wp_seq (wp_also (aside_calm hwait hP h
        fun _ _ _ _ => trivial) (wait_for_replica_lag_calm gate table policy)) ?_
      rintro verdict past state ⟨h, hverdict⟩
      cases verdict with
      | proceed => exact hbody _ _ h
      | shutdownRequested => exact absurd rfl hverdict
      | skipTable =>
          refine skip_calm _ h fun past m h hop => ?_
          exact ⟨hP _ _ h, goal_of_gate_skipped ⟨m, by simp, .inl hop⟩⟩

/-- The active-vacuum gate: where it does not proceed, it has counted the table as skipped. -/
theorem handle_active_vacuums_calm (hP : Lasting P) (h : Reads past ∧ P past) :
    wp calm anything (handleActiveVacuums table policy summary)
      (fun verdict past _ => (Reads past ∧ P past) ∧
        (verdict.1 = false → GateSkipped past table)) (fun _ _ _ => True) past state := by
  have hskip : ∀ past state, Reads past ∧ P past → wp calm anything
      (do pure (false, ← skipTable summary table .activeVacuum) : RunM (Bool × _))
      (fun verdict past _ => (Reads past ∧ P past) ∧
        (verdict.1 = false → GateSkipped past table)) (fun _ _ _ => True) past state := by
    rintro past state h now - answer after -
    exact ⟨trivial, ((keeps_reads hP) past _ now h .refl
      (.mark (.tally table (.skipped .activeVacuum))) answer after nofun trivial).2,
      fun _ => ⟨_, List.mem_append_right _ (List.mem_singleton_self _), .inr rfl⟩⟩
  refine wp_seq
    (aside_calm (only_aside (find_active_vacuums_inert table)) hP h fun _ _ _ _ => trivial)
    fun sessions past state h => wp_ite.2 ⟨fun _ => ⟨h, nofun⟩, fun _ => ?_⟩
  refine wp_ite.2 ⟨fun _ => hskip _ _ h, fun _ => ?_⟩
  refine wp_seq (aside_calm (terminate_in_real_run_aside policy _) hP h fun _ _ _ _ => trivial)
    fun _ past state h => wp_ite.2 ⟨fun _ => ⟨h, nofun⟩, fun _ => ?_⟩
  refine wp_ite.2 ⟨fun _ => ?_, fun _ => hskip _ _ h⟩
  exact wp_seq (aside_calm (terminate_in_real_run_aside policy _) hP h fun _ _ _ _ => trivial)
    fun _ past state h => ⟨h, nofun⟩

/-- The second gate skips the table, which is served then, or lets it through. -/
theorem after_active_vacuums_calm {body : OperationSummary → Pass} (hP : Lasting P)
    (h : Reads past ∧ P past)
    (hbody : ∀ summary past state, Reads past ∧ P past → wp calm anything (body summary)
      (fun flow past _ => Went (fun past => P past ∧ Goal statement table past) flow past)
      (fun _ _ _ => True) past state) :
    wp calm anything (afterActiveVacuums policy table summary body)
      (fun flow past _ => Went (fun past => P past ∧ Goal statement table past) flow past)
      (fun _ _ _ => True) past state := by
  refine wp_seq (handle_active_vacuums_calm hP h) ?_
  rintro ⟨proceed, summary⟩ past state ⟨h, hskipped⟩
  cases proceed with
  | true => exact hbody _ _ _ h
  | false => exact ⟨h.1, h.2, goal_of_gate_skipped (hskipped rfl)⟩

/-- The head of a pass: neither a closed session nor a shutdown lets the loop break. -/
theorem visit_table_calm {r : Runner} (count i : Nat) (hP : Lasting P) (h : Reads past ∧ P past)
    (hbody : ∀ past state, Reads past ∧ P past →
      wp calm anything body (fun flow past _ => Went Q flow past) (fun _ _ _ => True) past state) :
    wp calm anything (visitTable r count i table summary body)
      (fun flow past _ => Went Q flow past) (fun _ _ _ => True) past state := by
  have hquiet : ∀ {α : Type} {p : RunM α} {past state}, p.Only Op.NoRead →
      Reads past ∧ P past → wp calm anything p (fun _ past _ => Reads past ∧ P past)
        (fun _ _ _ => True) past state :=
    fun hp h => quiet_calm hp hP h fun _ _ _ _ => trivial
  refine wp_seq (hquiet (by simp) h) fun _ past state h => ?_
  refine wp_seq (hquiet (by simp) h) fun closed past state h => ?_
  refine wp_ite.2 ⟨fun _ => wp_seq wp_true fun _ _ _ _ => trivial, fun _ => ?_⟩
  refine wp_seq (wp_also (hquiet (by simp) h) shutdown_requested_calm) ?_
  rintro _ past state ⟨h, rfl⟩
  exact hbody _ _ h

/-- A pass: it leaves its table out, or does what it owes. -/
theorem pass_calm {pass : PassBody} (hpass : IsPass policy statement already pass)
    (hreal : policy.dryRun = false) (i : Nat) (hP : Lasting P) (h : Reads past ∧ P past) :
    wp calm anything (pass i table summary)
      (fun flow past _ => Went
        (fun past => P past ∧ (LeavesOut already table ∨ Goal statement table past)) flow past)
      (fun _ _ _ => True) past state := by
  by_cases hout : LeavesOut already table
  · have hskip : ∀ body past state, Reads past ∧ P past → wp calm anything
        (unlessHandled already table summary body)
        (fun flow past _ => Went
          (fun past => P past ∧ (LeavesOut already table ∨ Goal statement table past)) flow past)
        (fun _ _ _ => True) past state := by
      intro body past state h
      rw [unless_handled_left_out hout]
      exact skip_calm _ h fun past m h _ => ⟨hP _ _ h, .inl hout⟩
    cases hpass with
    | once => exact visit_table_calm _ _ hP h (hskip _)
    | twice => exact visit_table_calm _ _ hP h (hskip _)
  · -- it is not left out: both kinds of pass come to the statement, or a gate skips the table
    suffices hgoal : wp calm anything (pass i table summary)
        (fun flow past _ => Went (fun past => P past ∧ Goal statement table past) flow past)
        (fun _ _ _ => True) past state by
      refine wp_mono hgoal ?_ (fun _ _ _ h => h)
      rintro (next | stop) past state h
      · exact ⟨h.1, h.2.1, .inr h.2.2⟩
      · exact h
    cases hpass with
    | once r gate count hr =>
        refine visit_table_calm _ _ hP h fun past state h => ?_
        rw [unless_handled_taken hout]
        refine after_lag_gate_calm gate hP h fun past state h => ?_
        refine after_active_vacuums_calm hP h fun summary past state h => ?_
        exact maintain_table_calm hr hreal hP h
    | twice r gate count hr =>
        refine visit_table_calm _ _ hP h fun past state h => ?_
        rw [unless_handled_taken hout]
        refine after_lag_gate_calm gate hP h fun past state h => ?_
        refine after_lag_gate_calm gate hP h fun past state h => ?_
        refine after_active_vacuums_calm hP h fun summary past state h => ?_
        exact maintain_table_calm hr hreal hP h

end Pass

/-! ## Runners and phases -/

/-- A runner leaves every candidate out, or does what it owes to it. -/
theorem runner_calm {policy : RunPolicy} {phase : Phase} {statement : Statement}
    {already : Option (List TableKey)} {tables : List TableKey} {runner : RunM OperationSummary}
    (hrunner : IsRunner policy phase statement already tables runner)
    (hreal : policy.dryRun = false) (hP : Lasting P) (h : Reads past ∧ P past) :
    wp calm anything runner
      (fun _ past _ => Reads past ∧ P past ∧
        ∀ table ∈ tables, LeavesOut already table ∨ Goal statement table past)
      (fun _ _ _ => True) past state := by
  obtain ⟨pass, hpass⟩ := hrunner
  have hquiet : wp calm anything (mark (.candidates phase tables) : RunM Unit)
      (fun _ past _ => Reads past ∧ P past) (fun _ _ _ => True) past state :=
    quiet_calm (by simp) hP h fun _ _ _ _ => trivial
  refine wp_seq hquiet fun _ past state h => ?_
  -- every table visited so far is left out or has got what it is owed
  refine wp_mono (wp_sweep (I := fun done _ past _ => Reads past ∧ P past ∧
    ∀ table ∈ done, LeavesOut already table ∨ Goal statement table past)
    (D := fun _ _ _ => False) ?_ ⟨h.1, h.2, by simp⟩) ?_ (fun _ _ _ h => h)
  · rintro done table rest - i summary past state ⟨hreads, h, hdone⟩
    have hlasting : Lasting fun past => P past ∧
        ∀ table ∈ done, LeavesOut already table ∨ Goal statement table past :=
      hP.and fun past more h table htable => (h table htable).imp_right (goal_lasting _ _ _ _)
    refine wp_mono (pass_calm hpass hreal i hlasting ⟨hreads, h, hdone⟩) ?_ (fun _ _ _ h => h)
    rintro (next | stop) past state h
    · refine ⟨h.1, h.2.1.1, fun other hother => ?_⟩
      rcases List.mem_append.1 hother with hother | hother
      · exact h.2.1.2 other hother
      · obtain rfl := List.mem_singleton.1 hother
        exact h.2.2
    · exact h
  · rintro summary past state (h | h)
    · exact h
    · exact h.elim

end Calm

/-! ## The whole run -/

/-- The earlier phases whose candidates a phase leaves out. -/
def Phase.defersTo (phase earlier : Phase) : Bool :=
  match phase with
  | .neverVacuumed | .neverAnalyzed | .preventWraparound => false
  | .preventBloat | .alsoTables => earlier.fillsHandled && decide (earlier.index < phase.index)
  | .needsVacuum | .vacuumOverdue =>
    earlier.fillsVacuumed && decide (earlier.index < phase.index)
  | .analyzeOverdue => earlier.fillsAnalyzed && decide (earlier.index < phase.index)

/-- What a phase owes a candidate it does not leave out. -/
def Phase.Owes (phase : Phase) (table : TableKey) (past : Trace calm) : Prop :=
  match phase with
  | .neverAnalyzed | .analyzeOverdue => True
  | .preventWraparound => Served past table
  | _ => Done past table

/-- What a pass owes its table is what its phase does. -/
theorem goal_iff_owes (options : VacuumOptions) (phase : Phase) (table : TableKey)
    (past : Trace calm) :
    Goal (phase.spec options).statement table past ↔ phase.Owes table past := by
  cases phase <;> rfl

/-- What a phase owes is not lost again. -/
theorem owes_lasting (phase : Phase) (table : TableKey) : Lasting (phase.Owes table) := by
  intro past more
  simp only [← goal_iff_owes default]
  exact goal_lasting _ _ past more

/-- What holds of every candidate so far: it is a candidate of an earlier phase that its own
phase defers to, or it got what it is owed. -/
structure Ledger (done : List Phase) (seen : Seen) (past : Trace calm) : Prop where
  recorded : Recorded seen past
  known : ∀ phase table, Candidate past phase table → phase ∈ done
  reads : Reads past
  owed : ∀ (phase : Phase) (table : TableKey), Candidate past phase table →
    (∃ earlier : Phase, phase.defersTo earlier = true ∧ Candidate past earlier table) ∨
      phase.Owes table past

section Ledger

variable {done : List Phase} {seen : Seen} {past : Trace calm} {phase : Phase}

/-- What a runner leaves out is a candidate of a phase it defers to. -/
theorem Ledger.deferred {options : VacuumOptions} (h : Ledger done seen past)
    (hdone : ∀ earlier ∈ done, earlier.index < phase.index) {table : TableKey}
    (hout : LeavesOut ((phase.spec options).consults seen) table) :
    ∃ earlier : Phase, phase.defersTo earlier = true ∧ Candidate past earlier table := by
  obtain ⟨tables, htables, hmem⟩ := hout
  have hlt : ∀ earlier, Candidate past earlier table → earlier.index < phase.index :=
    fun earlier hcandidate => hdone _ (h.known _ _ hcandidate)
  have hhandled : table ∈ seen.handled → ∃ earlier : Phase, earlier.fillsHandled = true ∧
      earlier.index < phase.index ∧ Candidate past earlier table := fun h' =>
    ((h.recorded.handled table).1 h').imp fun earlier h => ⟨h.1, hlt _ h.2, h.2⟩
  have hvacuumed : table ∈ seen.vacuumed → ∃ earlier : Phase, earlier.fillsVacuumed = true ∧
      earlier.index < phase.index ∧ Candidate past earlier table := fun h' =>
    ((h.recorded.vacuumed table).1 h').imp fun earlier h => ⟨h.1, hlt _ h.2, h.2⟩
  have hanalyzed : table ∈ seen.analyzed → ∃ earlier : Phase, earlier.fillsAnalyzed = true ∧
      earlier.index < phase.index ∧ Candidate past earlier table := fun h' =>
    ((h.recorded.analyzed table).1 h').imp fun earlier h => ⟨h.1, hlt _ h.2, h.2⟩
  cases phase <;> simp_all [Phase.spec, Phase.defersTo, and_assoc]

/-- Whatever is aside leaves the ledger as it is. -/
theorem Ledger.keeps : calm.Keeps anything Op.Aside fun past _ => Ledger done seen past := by
  intro past state now h hdrift op answer after hop hanswer
  have hsame : ∀ phase table, Candidate (past ++ [⟨now, op, answer⟩]) phase table ↔
      Candidate past phase table := by
    intro phase table
    rw [candidate_append, or_iff_left]
    refine not_candidate_of_quiet fun m hm => ?_
    obtain rfl := List.mem_singleton.1 hm
    rintro ⟨_, _, rfl⟩
    exact hop
  refine ⟨trivial, h.recorded.congr hsame, fun phase table => ?_, ?_, fun phase table => ?_⟩
  · rw [hsame]
    exact h.known phase table
  · exact (keeps_reads_aside (P := fun _ => True) (fun _ _ h => h) past state now
      ⟨h.reads, trivial⟩ hdrift op answer after hop hanswer).2.1
  · simp only [hsame]
    exact fun hcandidate => (h.owed phase table hcandidate).imp_right (owes_lasting _ _ _ _)

/-- A phase that does not run leaves the ledger as it is. -/
theorem Ledger.skip (h : Ledger done seen past) (phase : Phase) :
    Ledger (done ++ [phase]) seen past :=
  { h with known := fun other table hcandidate => by simp [h.known other table hcandidate] }

/-- A runner enters its candidates. -/
theorem Ledger.next {policy : RunPolicy} {options : VacuumOptions} {tables : List TableKey}
    {runner : RunM OperationSummary} {state : Unit} (h : Ledger done seen past)
    (hdone : ∀ earlier ∈ done, earlier.index < phase.index) (hreal : policy.dryRun = false)
    (hrunner : IsRunner policy phase (phase.spec options).statement
      ((phase.spec options).consults seen) tables runner) :
    wp calm anything runner
      (fun _ past _ => Ledger (done ++ [phase]) ((phase.spec options).update seen tables) past)
      (fun _ _ _ => True) past state := by
  -- what was owed before the runner lasts
  have hlasting : Lasting fun past' => ∀ (other : Phase) (table : TableKey),
      Candidate past other table →
      (∃ earlier : Phase, other.defersTo earlier = true ∧ Candidate past earlier table) ∨
        other.Owes table past' :=
    fun _ _ h other table hcandidate =>
      (h other table hcandidate).imp_right (owes_lasting _ _ _ _)
  refine wp_mono (wp_also (wp_mono (@wp_isRunner _ anything _ _ _ _ _ _ _ _ hrunner
    (fun _ _ => trivial) fun _ _ _ _ _ _ => trivial) (fun _ _ _ h => h) fun _ _ _ _ => trivial)
    (runner_calm hrunner hreal hlasting ⟨h.reads, h.owed⟩)) ?_ (fun _ _ _ h => h)
  rintro summary past' state ⟨⟨start, run, rfl, hstart, hrun⟩, hreads, howed, htables⟩
  have hcandidates := @candidate_after_runner _ past _ _ _ _ _ _ hstart hrun
  refine ⟨h.recorded.update hcandidates, fun other table hcandidate => ?_, hreads, ?_⟩
  · rcases (hcandidates other table).1 hcandidate with hcandidate | ⟨rfl, -⟩
    · simp [h.known other table hcandidate]
    · simp
  · intro other table hcandidate
    have hbefore : ∀ phase : Phase,
        (∃ earlier : Phase, phase.defersTo earlier = true ∧ Candidate past earlier table) →
        ∃ earlier : Phase, phase.defersTo earlier = true ∧
          Candidate (past ++ start :: run) earlier table := fun phase h =>
      h.imp fun earlier h => ⟨h.1, candidate_append.2 (.inl h.2)⟩
    rcases (hcandidates other table).1 hcandidate with hcandidate | ⟨rfl, hmem⟩
    · exact (howed other table hcandidate).imp_left (hbefore other)
    · refine (htables table hmem).imp (fun hout => ?_) fun hgoal => ?_
      · exact hbefore other (h.deferred hdone hout)
      · exact (goal_iff_owes options other table _).1 hgoal

end Ledger

/-- When the run reports its end, the ledger has all eight phases. -/
def Closed (past : Trace calm) (m : Moment calm) : Prop :=
  Op.Completes m.op → ∃ seen, Ledger Phase.order seen past

/-- The phases of a real run enter all their candidates. -/
theorem phases_ledger (plan : Plan) (hreal : plan.settings.dryRun = false) {past : Trace calm}
    {state : Unit} (h : Ledger [] {} past) :
    wp calm anything (runInOrder (phases plan) {} {})
      (fun _ past _ => ∃ seen, Ledger Phase.order seen past) (fun _ _ _ => True) past state := by
  refine wp_runInOrder (I := fun done _ seen past _ => Ledger done seen past) ?_ h
  intro done phase rest horder p hp _ _ past state hI
  refine wp_phase hp (Q := fun _ seen past _ => Ledger (done ++ [phase]) seen past)
    Ledger.keeps (fun _ _ _ _ => trivial) (fun _ _ h => h.skip phase) ?_ hI
  intro tables runner past state hrunner hI
  exact wp_mono (hI.next (fun _ => index_lt_of_done horder) hreal hrunner) (fun _ _ _ h => h)
    fun _ _ _ _ _ => trivial

/-- A real run has entered all its candidates when it reports its end. -/
theorem run_closed (settings : RunSettings) (hreal : settings.dryRun = false) :
    wp calm Closed (run settings) (fun _ _ _ => True) (fun _ _ _ => True) [] () := by
  have hquiet : ∀ {α : Type} {p : RunM α} {past state}, p.Only Op.Aside →
      wp calm Closed p (fun _ _ _ => True) (fun _ _ _ => True) past state := fun hp =>
    wp_safe hp wp_true fun _ _ haside hcompletes => absurd hcompletes haside.not_completes
  have hempty : Ledger [] {} [] :=
    ⟨.empty, by simp [Candidate, candidates], by simp [Reads, CountRead],
      by simp [Candidate, candidates]⟩
  have hsetup : wp calm Closed (setup settings)
      (fun plan past _ => plan.settings = settings ∧ Ledger [] {} past) (fun _ _ _ => True)
      [] () := by
    refine wp_safe (setup_aside settings) ?_
      fun _ _ haside hcompletes => absurd hcompletes haside.not_completes
    exact wp_mono (wp_of_all (setup_all settings) Ledger.keeps hempty) (fun _ _ _ h => h)
      fun _ _ _ _ => trivial
  refine wp_seq hsetup ?_
  rintro plan past state ⟨rfl, hledger⟩
  refine wp_seq (wp_safe (run_in_order_not_completes plan (phases_are_phases plan) _ _)
    (phases_ledger plan hreal hledger) fun _ _ hnot hcompletes => absurd hcompletes hnot) ?_
  intro total past state hclosed
  refine wp_seq (R := fun _ _ _ => True) ?_ fun _ _ _ _ => hquiet (verdict_aside _)
  exact fun now _ answer after _ => ⟨fun _ => hclosed, trivial⟩

/-- The VACUUM-kind phases: those with a VACUUM, VACUUM FREEZE or VACUUM (ANALYZE). -/
def Phase.isVacuumPhase : Phase → Bool
  | .neverAnalyzed | .analyzeOverdue => false
  | _ => true

/-- The table was found to need a VACUUM of some kind. -/
def VacuumFound (tr : Trace calm) (table : TableKey) : Prop :=
  ∃ phase ∈ [Phase.neverVacuumed, .preventWraparound, .preventBloat, .needsVacuum,
    .vacuumOverdue], Candidate tr phase table

instance (tr : Trace calm) (table : TableKey) : Decidable (VacuumFound tr table) :=
  inferInstanceAs (Decidable (∃ phase ∈ [Phase.neverVacuumed, .preventWraparound, .preventBloat,
    .needsVacuum, .vacuumOverdue], Candidate tr phase table))

/-- When a candidate is sure to be served: if it is a bloat candidate that was never analyzed, it
is also never vacuumed or near wraparound; if it is an explicit table and a candidate for
ANALYZE, it was found to need a VACUUM too; and if its dead tuples could not be read, they could
another time, or it is frozen, which reads none. -/
structure KeptApart (tr : Trace calm) (table : TableKey) : Prop where
  bloat : Candidate tr .preventBloat table → Candidate tr .neverAnalyzed table →
    Candidate tr .neverVacuumed table ∨ Candidate tr .preventWraparound table
  also : Candidate tr .alsoTables table →
    Candidate tr .neverAnalyzed table ∨ Candidate tr .analyzeOverdue table →
    VacuumFound tr table
  counts : CountRead tr table false →
    CountRead tr table true ∨ Candidate tr .preventWraparound table

instance (tr : Trace calm) (table : TableKey) : Decidable (KeptApart tr table) :=
  @decidable_of_iff _ (_ ∧ _ ∧ _)
    ⟨fun h => ⟨h.1, h.2.1, h.2.2⟩, fun h => ⟨h.bloat, h.also, h.counts⟩⟩
    (@instDecidableAnd _ _ inferInstance (@instDecidableAnd _ _ inferInstance inferInstance))

section Served

variable {seen : Seen} {tr : Trace calm} {table : TableKey}

/-- What is done under these conditions is served. -/
theorem served_of_done (h : Ledger Phase.order seen tr) (hapart : KeptApart tr table)
    (hdone : Done tr table) : Served tr table := by
  rcases hdone with hserved | hread
  · exact hserved
  rcases hapart.counts hread with hcount | hfreeze
  · exact .inl (h.reads table hcount)
  · rcases h.owed _ _ hfreeze with ⟨earlier, hdefers, -⟩ | hserved
    · simp [Phase.defersTo] at hdefers
    · exact hserved

/-- Such a candidate of a VACUUM phase is served. Each phase rests on those before it. -/
theorem served_of_ledger (h : Ledger Phase.order seen tr) (hapart : KeptApart tr table)
    {phase : Phase} (hphase : phase.isVacuumPhase = true) (hcandidate : Candidate tr phase table) :
    Served tr table := by
  have hdone : Done tr table → Served tr table := served_of_done h hapart
  -- phase by phase, since a candidate may have been left to an earlier phase
  have hnever : Candidate tr .neverVacuumed table → Served tr table := by
    intro hcandidate
    rcases h.owed _ _ hcandidate with ⟨earlier, hdefers, -⟩ | howed
    · simp [Phase.defersTo] at hdefers
    · exact hdone howed
  have hfreeze : Candidate tr .preventWraparound table → Served tr table := by
    intro hcandidate
    rcases h.owed _ _ hcandidate with ⟨earlier, hdefers, -⟩ | howed
    · simp [Phase.defersTo] at hdefers
    · exact howed
  have hbloat : Candidate tr .preventBloat table → Served tr table := by
    intro hcandidate
    rcases h.owed _ _ hcandidate with ⟨earlier, hdefers, hearlier⟩ | howed
    · cases earlier <;> simp [Phase.defersTo, Phase.index, Phase.fillsHandled] at hdefers
      case neverVacuumed => exact hnever hearlier
      case neverAnalyzed =>
        rcases hapart.bloat hcandidate hearlier with h | h
        · exact hnever h
        · exact hfreeze h
      case preventWraparound => exact hfreeze hearlier
    · exact hdone howed
  have hneeds : Candidate tr .needsVacuum table → Served tr table := by
    intro hcandidate
    rcases h.owed _ _ hcandidate with ⟨earlier, hdefers, hearlier⟩ | howed
    · cases earlier <;> simp [Phase.defersTo, Phase.index, Phase.fillsVacuumed] at hdefers
      case neverVacuumed => exact hnever hearlier
      case preventWraparound => exact hfreeze hearlier
      case preventBloat => exact hbloat hearlier
    · exact hdone howed
  have hoverdue : Candidate tr .vacuumOverdue table → Served tr table := by
    intro hcandidate
    rcases h.owed _ _ hcandidate with ⟨earlier, hdefers, hearlier⟩ | howed
    · cases earlier <;> simp [Phase.defersTo, Phase.index, Phase.fillsVacuumed] at hdefers
      case neverVacuumed => exact hnever hearlier
      case preventWraparound => exact hfreeze hearlier
      case preventBloat => exact hbloat hearlier
      case needsVacuum => exact hneeds hearlier
    · exact hdone howed
  have hfound : VacuumFound tr table → Served tr table := by
    intro hfound
    simp only [VacuumFound, List.mem_cons, List.not_mem_nil, or_false, exists_eq_or_imp,
      exists_eq_left] at hfound
    rcases hfound with h | h | h | h | h
    exacts [hnever h, hfreeze h, hbloat h, hneeds h, hoverdue h]
  cases phase with
  | neverVacuumed => exact hnever hcandidate
  | neverAnalyzed => simp [Phase.isVacuumPhase] at hphase
  | preventWraparound => exact hfreeze hcandidate
  | preventBloat => exact hbloat hcandidate
  | needsVacuum => exact hneeds hcandidate
  | vacuumOverdue => exact hoverdue hcandidate
  | analyzeOverdue => simp [Phase.isVacuumPhase] at hphase
  | alsoTables =>
      rcases h.owed _ _ hcandidate with ⟨earlier, hdefers, hearlier⟩ | howed
      · have hfound' : earlier ∈ [Phase.neverVacuumed, .preventWraparound, .preventBloat,
            .needsVacuum, .vacuumOverdue] → Served tr table := fun hmem =>
          hfound ⟨earlier, hmem, hearlier⟩
        cases earlier <;> simp [Phase.defersTo, Phase.index, Phase.fillsHandled] at hdefers
        case neverAnalyzed => exact hfound (hapart.also hcandidate (.inl hearlier))
        case analyzeOverdue => exact hfound (hapart.also hcandidate (.inr hearlier))
        all_goals exact hfound' (by decide)
      · exact hdone howed

end Served

/-- In every undisturbed real run that reaches its summary, a candidate of a VACUUM phase that is
kept apart had a VACUUM-kind statement attempted on it, unless a gate skipped it. -/
theorem no_vacuum_work_lost {settings : RunSettings} (hreal : settings.dryRun = false)
    {tr more : Trace calm} {summary : Moment calm} {last : Unit} {rest : RunM Nat}
    (h : Exec calm () (run settings) (tr ++ summary :: more) last rest)
    (hsummary : Op.Completes summary.op) {phase : Phase} (hphase : phase.isVacuumPhase = true)
    {table : TableKey} (hcandidate : Candidate tr phase table) (hapart : KeptApart tr table) :
    Attempted tr Statement.isVacuum table ∨ GateSkipped tr table := by
  obtain ⟨seen, hledger⟩ := h.safe (run_closed settings hreal) hsummary
  exact served_of_ledger hledger hapart hphase hcandidate

/-- A server with a never-analyzed table `t`, which is also the explicit table. -/
def unanalyzed : Server where
  neverAnalyzed := [⟨"public", "t", 100, 0, 8192, none⟩]
  bloat := [⟨"public", "u", 100, 5000, 8192, none⟩]
  existing := [("public", "t")]

/-- The modes that meet on it, with the explicit table. -/
def unanalyzedSettings : RunSettings :=
  defaultSettings [.neverAnalyzed, .preventBloat] [⟨"public", "t"⟩]

/-- The run reports its end at this place. -/
theorem unanalyzed_summary : (unanalyzed.trace unanalyzedSettings)[57]? =
    some ⟨(), .log (.completed 3 2 0), ()⟩ := rfl

/-- The bloated table is vacuumed. -/
theorem bloated_table_is_vacuumed :
    Attempted ((unanalyzed.trace unanalyzedSettings).take 57) Statement.isVacuum ("public", "u") ∨
      GateSkipped ((unanalyzed.trace unanalyzedSettings).take 57) ("public", "u") := by
  have hbloat : Candidate ((unanalyzed.trace unanalyzedSettings).take 57) .preventBloat
      ("public", "u") := by decide
  have hreal : unanalyzedSettings.dryRun = false := rfl
  exact no_vacuum_work_lost hreal (unanalyzed.exec_at unanalyzedSettings unanalyzed_summary)
    trivial rfl hbloat (by decide)

/-- The explicit table is only analyzed. -/
theorem analyzed_explicit_table_is_not_vacuumed :
    ¬∀ (settings : RunSettings), settings.dryRun = false →
      ∀ (tr more : Trace calm) (summary : Moment calm) (last : Unit) (rest : RunM Nat),
      Exec calm () (run settings) (tr ++ summary :: more) last rest →
      Op.Completes summary.op → ∀ phase : Phase, phase.isVacuumPhase = true →
      ∀ table, Candidate tr phase table →
      Attempted tr Statement.isVacuum table ∨ GateSkipped tr table := by
  intro h
  have halso : Candidate ((unanalyzed.trace unanalyzedSettings).take 57) .alsoTables
      ("public", "t") := by decide
  have hserved := h unanalyzedSettings rfl _ _ _ _ _
    (unanalyzed.exec_at unanalyzedSettings unanalyzed_summary) trivial .alsoTables rfl _ halso
  exact absurd hserved (by decide)

end PgMaintainer
