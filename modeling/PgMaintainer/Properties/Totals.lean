import PgMaintainer.Interaction.Observer
import PgMaintainer.Properties.Accounting
import PgMaintainer.Run.Programs
import PgMaintainer.Run.Requests

/-!
# The final line and the logbook

A run counts in its summaries what it books in the logbook, and adds the summaries up. So the
numbers of its last line can be read off what it has sent: the candidates it was given, the rows
of successes and of failures.
-/

namespace PgMaintainer

open Interaction

/-! ## The ledger -/

/-- The counter that a row of the logbook stands for. -/
def LogEntry.tally (row : LogEntry) : Option Tally :=
  if row.status = "success" then some .succeeded
  else if row.status = "error" then some .failed
  else none

/-- What an operation adds: its candidates, a row of a success or of a failure, a skipped table. -/
def Op.books (s : OperationSummary) : Op → OperationSummary
  | .mark (.candidates _ tables) => { s with total := s.total + tables.length }
  | .mark (.tally _ (.skipped reason)) => s.count (.skipped reason)
  | .call (.insertMaintenanceLog row) => row.tally.elim s s.count
  | _ => s

/-- The counters as they can be read off a history. -/
def ledger : Observer session OperationSummary where
  start := {}
  step s op _ := op.books s

/-- Operations that the ledger does not count, and not the report of the end. -/
def Op.Uncounted : Op → Prop
  | .mark (.candidates _ _) | .mark (.tally _ (.skipped _)) => False
  | .call (.insertMaintenanceLog _) | .log (.completed ..) => False
  | _ => True

attribute [local simp] Op.Uncounted Op.Inert Call.Writes

/-- Reports are not counted. -/
theorem uncounted_admits_report : Op.AdmitsReport Op.Uncounted :=
  ⟨fun _ _ _ _ => trivial, trivial, trivial⟩

/-- The gates count nothing. -/
theorem Op.Gating.uncounted {op : Op} (h : op.Gating) : op.Uncounted := by
  unfold Op.Uncounted
  split
  · exact h
  · exact h
  · exact h
  · exact h
  · trivial

/-- Nor does what writes nothing. -/
theorem Op.Inert.uncounted {op : Op} (h : op.Inert) : op.Uncounted := by
  unfold Op.Uncounted
  split
  · exact h
  · exact h
  · exact h trivial
  · exact h
  · trivial

/-- What writes nothing is not counted. -/
theorem only_uncounted {ε α : Type} {p : Prog session ε α} (h : p.Only Op.Inert) :
    p.Only Op.Uncounted :=
  h.mono (fun _ => Op.Inert.uncounted) (fun _ h => h) (fun _ h => h)

/-- The ledger ignores what is not counted. -/
theorem ledger_ignores : ledger.Ignores Op.Uncounted := by
  intro s op answer hop
  show op.books s = s
  unfold Op.books
  split
  · exact hop.elim
  · exact hop.elim
  · exact hop.elim
  · rfl

namespace OperationSummary

/-- The tables that went into a counter. -/
def counted (s : OperationSummary) : Nat := s.succeeded + s.failed + s.skipped

/-- No more tables are counted than there were candidates. -/
def Balanced (s : OperationSummary) : Prop := s.counted ≤ s.total

/-- At most one counter went up, by one. -/
def CountsOn (s after : OperationSummary) : Prop := after = s ∨ ∃ tally, after = s.count tally

/-- To count in a sum is to count in its second part. -/
theorem add_count (a b : OperationSummary) (tally : Tally) :
    (a.add b).count tally = a.add (b.count tally) := by
  cases tally <;> simp [add, count, Nat.add_assoc]

/-- A count leaves the total as it is. -/
theorem CountsOn.total {s after : OperationSummary} (h : s.CountsOn after) :
    after.total = s.total := by
  rcases h with rfl | ⟨tally, rfl⟩
  · rfl
  · cases tally <;> rfl

/-- A count adds at most one table. -/
theorem CountsOn.counted {s after : OperationSummary} (h : s.CountsOn after) :
    after.counted ≤ s.counted + 1 := by
  rcases h with rfl | ⟨tally, rfl⟩
  · exact Nat.le_succ _
  · cases tally <;> simp only [count, OperationSummary.counted] <;> omega

/-- Balanced counters add up to balanced ones. -/
theorem Balanced.add {a b : OperationSummary} (ha : a.Balanced) (hb : b.Balanced) :
    (a.add b).Balanced := by
  simp only [Balanced, counted, OperationSummary.add] at *
  omega

end OperationSummary

section Rules

variable {W : World session} {past : Trace W} {state : W.State} {base summary s : OperationSummary}

/-- The last line of a run reports what the ledger says. -/
def LastLineHolds (past : Trace W) (m : Moment W) : Prop :=
  ∀ total succeeded failed, m.op = .log (.completed total succeeded failed) →
    ∃ skipped, ledger.after past = ⟨total, succeeded, failed, skipped⟩ ∧
      succeeded + failed + skipped ≤ total

/-- The ledger holds `base` and the counters of a runner. -/
abbrev InLedger (base summary : OperationSummary) (past : Trace W) (_ : W.State) : Prop :=
  ledger.after past = base.add summary

/-- What is not counted leaves the ledger where it is. -/
theorem keeps_ledger (P : OperationSummary → Prop) :
    W.Keeps LastLineHolds Op.Uncounted fun past _ => P (ledger.after past) :=
  ledger_ignores.keeps fun _ _ _ hop _ _ _ hline => by
    rw [hline] at hop
    exact hop.elim

/-- A program that is not counted leaves the ledger where it is. -/
theorem wp_uncounted {ε α : Type} {p : Prog session ε α} (hp : p.Only Op.Uncounted)
    (h : InLedger base summary past state) :
    wp W LastLineHolds p (fun _ => InLedger base summary) (fun _ _ _ => True) past state :=
  wp_of_only hp (keeps_ledger (· = base.add summary)) (fun _ _ _ _ => trivial) h

/-- One operation moves the ledger by what it books. -/
theorem wp_books {ε : Type} {E : ε → Trace W → W.State → Prop} (op : Op)
    (hop : ¬op.Completes) (h : ledger.after past = s) :
    wp W LastLineHolds (.request (S := session) op : Prog session ε _)
      (fun _ past _ => ledger.after past = op.books s) E past state := by
  intro now _ answer after _
  refine ⟨fun total succeeded failed hline => ?_, ?_⟩
  · have hline : op = .log (.completed total succeeded failed) := hline
    rw [hline] at hop
    exact (hop trivial).elim
  · show ledger.after (past ++ [_]) = _
    rw [Observer.after_snoc, h]
    rfl

/-! ## A pass -/

section Pass

variable {r : Runner} {statement : Statement} {policy : RunPolicy} {table : TableKey}

/-- How a pass ends. -/
def PassBooks (base summary : OperationSummary) (flow : Flow OperationSummary) (past : Trace W)
    (state : W.State) : Prop :=
  InLedger base flow.state past state ∧ summary.CountsOn flow.state

/-- A skipped table is counted by its mark. -/
theorem skip_table_books (reason : SkipReason) (h : InLedger base summary past state) :
    wp W LastLineHolds (skipTable summary table reason)
      (fun after past state => InLedger base after past state ∧ summary.CountsOn after)
      (fun _ _ _ => True) past state := by
  refine wp_seq (wp_books _ id h) fun _ past state h => ?_
  refine ⟨?_, .inr ⟨.skipped reason, rfl⟩⟩
  show ledger.after past = base.add (summary.count (.skipped reason))
  rw [h, ← OperationSummary.add_count]
  rfl

/-- In a real run a row is offered to the logbook. -/
theorem log_books (hreal : policy.dryRun = false) (row : LogEntry)
    (h : InLedger base summary past state) :
    wp W LastLineHolds (logMaintenanceOperation policy.dryRun row)
      (fun _ => InLedger base (row.tally.elim summary summary.count)) (fun _ _ _ => True) past
      state := by
  rw [hreal]
  refine wp_seq (wp_books (.call (.insertMaintenanceLog row)) id h) fun _ past state h => ?_
  show ledger.after past = _
  rw [h]
  show row.tally.elim (base.add summary) (base.add summary).count = _
  cases row.tally with
  | none => rfl
  | some tally => exact OperationSummary.add_count base summary tally

/-- A mark of a success or of a failure is no more than a mark: the row has been booked. -/
theorem wp_tally {tally : Tally} (htally : ∀ reason, tally ≠ .skipped reason)
    (h : InLedger base summary past state) :
    wp W LastLineHolds (mark (.tally table tally) : RunM Unit) (fun _ => InLedger base summary)
      (fun _ _ _ => True) past state := by
  refine wp_uncounted ?_ h
  cases tally with
  | skipped reason => exact (htally reason rfl).elim
  | succeeded => simp
  | failed => simp

/-- A success is counted by its row. -/
theorem record_success_books (hreal : policy.dryRun = false) (hr : r.Of statement)
    (result : OperationResult) (durationMs : Int) (h : InLedger base summary past state) :
    wp W LastLineHolds (recordSuccess r policy summary table result durationMs)
      (PassBooks base summary) (fun _ _ _ => True) past state := by
  have hreport : (r.report table result).Only Op.Uncounted :=
    (hr.report uncounted_admits_report table result).mono (fun _ h => h) (fun _ h => h)
      fun _ _ => trivial
  refine wp_seq (wp_uncounted hreport h) fun _ past state h => ?_
  refine wp_seq (log_books hreal _ h) fun _ past state h => ?_
  refine wp_seq (wp_tally (by simp) h) fun _ past state h => ?_
  exact ⟨h, .inr ⟨.succeeded, rfl⟩⟩

/-- A failure is counted by its row, or ends the run. -/
theorem record_failure_books (hreal : policy.dryRun = false) (err : PgError) (durationMs : Int)
    (h : InLedger base summary past state) :
    wp W LastLineHolds (recordFailure r policy summary table err durationMs)
      (PassBooks base summary) (fun _ _ _ => True) past state := by
  refine wp_ite.2 ⟨fun _ => ?_, fun _ => ?_⟩
  · exact wp_seq (skip_table_books .lockTimeout h) fun _ _ _ h => h
  · refine wp_seq (log_books hreal _ h) fun _ past state h => ?_
    refine wp_seq (wp_tally (by simp) h) fun _ past state h => ?_
    exact ⟨h, .inr ⟨.failed, rfl⟩⟩

/-- The row of a cancelled statement stands for no counter. -/
theorem handle_shutdown_interrupt_books (hreal : policy.dryRun = false) (durationMs : Int)
    (h : InLedger base summary past state) :
    wp W LastLineHolds (handleShutdownInterrupt r policy summary table durationMs)
      (fun after past state => InLedger base after past state ∧ summary.CountsOn after)
      (fun _ _ _ => True) past state := by
  refine wp_seq (skip_table_books .interrupted h) fun after past state h => ?_
  obtain ⟨hbooks, hon⟩ := h
  refine wp_seq (wp_uncounted (by simp) hbooks) fun closed past state hbooks => ?_
  refine wp_ite.2 ⟨fun _ => ⟨hbooks, hon⟩, fun _ => ?_⟩
  refine wp_seq (log_books hreal _ hbooks) fun _ past state hbooks => ?_
  exact ⟨hbooks, hon⟩

/-- A table is counted once, whatever happens to its statement. -/
theorem maintain_table_books (hr : r.Of statement) (count i : Nat)
    (h : InLedger base summary past state) :
    wp W LastLineHolds (maintainTable r policy count i table summary) (PassBooks base summary)
      (fun _ _ _ => True) past state := by
  refine wp_ite.2 ⟨fun _ => ?_, fun hdry => ?_⟩
  · exact wp_seq (wp_uncounted (by simp) h) fun _ _ _ h => ⟨h, .inl rfl⟩
  have hreal : policy.dryRun = false := by simpa using hdry
  refine wp_seq (wp_uncounted (by simp) h) fun start past state h => ?_
  have hretry : (withLockTimeoutRetry policy (r.operation table)).Only Op.Uncounted := by
    rw [hr.operation]
    exact retry_loop_only (operation_only trivial trivial) trivial (fun _ => trivial) _ _
  refine wp_seq (wp_uncounted hretry.attempt h) fun outcome past state h => ?_
  refine wp_seq (wp_uncounted (by simp) h) fun time past state h => ?_
  cases outcome with
  | ok result => exact record_success_books hreal hr result _ h
  | error err =>
      refine wp_seq (wp_uncounted (by simp) h) fun requested past state h => ?_
      cases classifyOpError err requested with
      | connectionLost =>
          have hlost : (connectionLostError r.name table (some (i + 1, count))
            (describePgError err)).Only Op.Uncounted := by simp [connectionLostError]
          exact wp_seq (wp_uncounted hlost h) fun _ _ _ _ => trivial
      | shutdownInterrupted =>
          exact wp_seq (handle_shutdown_interrupt_books hreal _ h) fun _ _ _ h => h
      | lockTimeout => exact record_failure_books hreal err _ h
      | other => exact record_failure_books hreal err _ h

/-- The gates book nothing. -/
theorem gate_rules_books :
    GateRules W LastLineHolds (InLedger base summary) (InLedger base summary)
      (fun _ _ _ => True) := by
  have hgates : W.Keeps LastLineHolds Op.Gating (InLedger base summary) :=
    (keeps_ledger (· = base.add summary)).mono fun _ => Op.Gating.uncounted
  refine ⟨hgates, hgates, fun past state now nanoseconds after h hnow hanswer => ?_,
    fun _ _ _ _ _ => trivial⟩
  exact (hgates past state now h hnow (.sleepOrShutdown nanoseconds) .shutdown after trivial
    hanswer).2

variable {phase : Phase} {already : Option (List TableKey)} {tables : List TableKey}

/-- A loop whose passes move at most one counter each. -/
theorem run_tables_books {body : PassBody}
    (hbody : ∀ i table summary past state, InLedger base summary past state →
      wp W LastLineHolds (body i table summary) (PassBooks base summary) (fun _ _ _ => True) past
        state)
    (h : ledger.after past = base) :
    wp W LastLineHolds (runTables phase body tables)
      (fun summary past state => InLedger base summary past state ∧ summary.Balanced)
      (fun _ _ _ => True) past state := by
  refine wp_seq (wp_books _ id h) fun _ past state h => ?_
  have hfirst : InLedger base { total := tables.length } past state := h
  -- no more tables are counted than were visited
  refine wp_mono (wp_sweep (I := fun done summary past state => InLedger base summary past state ∧
      summary.total = tables.length ∧ summary.counted ≤ done.length)
    (D := fun summary past state => InLedger base summary past state ∧ summary.Balanced)
    (E := fun _ _ _ => True) ?_ ⟨hfirst, rfl, Nat.zero_le _⟩) ?_ fun _ _ _ h => h
  · intro done table rest htables i summary past state hI
    obtain ⟨hbooks, htotal, hcounted⟩ := hI
    refine wp_mono (hbody i table summary past state hbooks) ?_ fun _ _ _ h => h
    intro flow past state hpass
    obtain ⟨hbooks, hon⟩ := hpass
    have hmore : flow.state.counted ≤ (done ++ [table]).length := by
      rw [List.length_append, List.length_singleton]
      exact hon.counted.trans (Nat.add_le_add_right hcounted 1)
    have hsame : flow.state.total = tables.length := hon.total.trans htotal
    cases flow with
    | next after => exact ⟨hbooks, hsame, hmore⟩
    | stop after =>
        refine ⟨hbooks, ?_⟩
        show after.counted ≤ after.total
        calc after.counted ≤ (done ++ [table]).length := hmore
          _ ≤ tables.length := by
              rw [htables]
              simp
          _ = after.total := hsame.symm
  · intro summary past state h
    rcases h with ⟨hbooks, htotal, hcounted⟩ | h
    · exact ⟨hbooks, hcounted.trans htotal.ge⟩
    · exact h

section Parts

variable {i : Nat}

/-- The flag is read at the head of a pass. -/
theorem wp_requested_books (past : Trace W) (state : W.State)
    (h : InLedger base summary past state) :
    wp W LastLineHolds (shutdownRequested : RunM Bool)
      (fun requested past state =>
        if requested = true then InLedger base summary past state
        else InLedger base summary past state)
      (fun _ _ _ => True) past state := by
  refine wp_mono (wp_uncounted (by simp) h) (fun requested _ _ h => ?_) fun _ _ _ h => h
  rwa [ite_self]

/-- So is one that a gate skips. -/
theorem skip_pass_books (reason : SkipReason) (past : Trace W) (state : W.State)
    (h : InLedger base summary past state) (_ : SkipsFor W policy already table reason) :
    wp W LastLineHolds (skipTable summary table reason)
      (fun after => PassBooks base summary (.next after)) (fun _ _ _ => True) past state :=
  skip_table_books reason h

/-- To turn to a table counts nothing. -/
theorem visit_books (h : InLedger base summary past state) :
    wp W LastLineHolds (mark (.visit table) : RunM Unit) (fun _ => InLedger base summary)
      (fun _ _ _ => True) past state :=
  wp_uncounted (by simp) h

/-- A pass counts its table at most once. -/
theorem gated_pass_books (hr : r.Of statement) (gate : Option ReplicaLagGate) (count : Nat)
    (h : InLedger base summary past state) :
    wp W LastLineHolds (gatedPass r policy gate already count i table summary)
      (PassBooks base summary) (fun _ _ _ => True) past state :=
  gate_rules_books.passRules.gated_pass gate_rules_books.passRules.aside
    gate_rules_books.passRules.err wp_requested_books (fun _ _ h => ⟨h, .inl rfl⟩)
    skip_pass_books (visit_books h) (fun _ _ h _ _ => maintain_table_books hr count i h) gate

end Parts

/-- The eight runners. -/
theorem runner_books {runner : RunPolicy → RunM OperationSummary}
    (hrunner : PhaseRunner phase tables runner) (h : ledger.after past = base) :
    wp W LastLineHolds (runner policy)
      (fun summary past state => InLedger base summary past state ∧ summary.Balanced)
      (fun _ _ _ => True) past state := by
  obtain ⟨r, statement, already, hr, hloops⟩ := hrunner.loops policy
  generalize runner policy = loop at hloops
  cases hloops with
  | once gate count =>
      refine run_tables_books (fun i table summary past state h => ?_) h
      exact gated_pass_books hr gate count h
  | twice gate count =>
      refine run_tables_books (fun i table summary past state h => ?_) h
      exact gate_rules_books.passRules.twice_gated_pass gate_rules_books.passRules.aside
        gate_rules_books.passRules.err wp_requested_books (fun _ _ h => ⟨h, .inl rfl⟩)
        skip_pass_books (visit_books h) (fun _ _ h _ _ => maintain_table_books hr count i h) gate

end Pass

/-! ## A run -/

/-- The ledger says what the phases add up to. -/
def Tallies (total : OperationSummary) (past : Trace W) (_ : W.State) : Prop :=
  ledger.after past = total ∧ total.Balanced

/-- Between the phases nothing is counted. -/
theorem wp_aside_tallies {ε α : Type} {p : Prog session ε α} {total : OperationSummary}
    (hp : p.Only Op.Uncounted) (h : Tallies total past state) :
    wp W LastLineHolds p (fun _ => Tallies total) (fun _ _ _ => True) past state :=
  wp_of_only hp (keeps_ledger fun s => s = total ∧ total.Balanced) (fun _ _ _ _ => trivial) h

/-- A phase adds its summary. -/
theorem phase_tallies {plan : Plan} (phase : Phase) {total : OperationSummary} {seen : Seen}
    (h : Tallies total past state) :
    wp W LastLineHolds (phase.program plan seen) (fun result => Tallies (total.add result.1))
      (fun _ _ _ => True) past state := by
  have hannounces : W.Keeps LastLineHolds Op.Announces (Tallies total) :=
    (keeps_ledger fun s => s = total ∧ total.Balanced).mono fun _ h => h.inert.uncounted
  refine wp_program (Q := fun summary _ => Tallies (total.add summary)) hannounces
    (fun _ _ _ _ => trivial) (fun _ _ h => h)
    (fun _ past state h => wp_aside_tallies (only_uncounted (discover_inert phase)) h) ?_ h
  intro found past state h
  refine wp_mono (runner_books (phase_runner phase seen found) h.1) ?_ fun _ _ _ _ => trivial
  intro summary past state hrun
  exact ⟨hrun.1, h.2.add hrun.2⟩

/-- Nothing is counted before the first phase. -/
theorem setup_uncounted {settings : RunSettings} : (setup settings).Only Op.Uncounted := by
  refine (setup_of_start.and (setup_aside settings)).mono (fun op h => ?_) (fun _ h => h.1)
    fun _ h => h.1
  obtain ⟨hstart, haside⟩ := h
  unfold Op.Uncounted
  split
  · exact hstart
  · exact hstart
  · exact hstart
  · exact haside
  · trivial

/-- The last line says what the ledger says. -/
theorem finish_reports {total : OperationSummary} (h : Tallies total past state) :
    wp W LastLineHolds (finish total) (fun _ _ _ => True) (fun _ _ _ => True) past state := by
  refine wp_seq (R := fun _ _ _ => True) ?_ fun _ past state _ => ?_
  · intro now _ answer after _
    refine ⟨fun all succeeded failed hline => ?_, trivial⟩
    obtain ⟨rfl, rfl, rfl⟩ : total.total = all ∧ total.succeeded = succeeded ∧
      total.failed = failed := by simpa using hline
    exact ⟨total.skipped, h.1, h.2⟩
  · refine wp_safe (φ := Op.Uncounted) (by simp [verdict]) wp_true fun past m hm => ?_
    intro all succeeded failed hline
    rw [hline] at hm
    exact hm.elim

end Rules

/-- In every execution of a run, a last line that reports `total`, `succeeded` and `failed` tables
is true of what was done before it: so many candidates were handed to the runners, so many rows of a
success and of a failure were given to the logbook, and together with the skipped tables these are
no more than the candidates. -/
theorem final_line_agrees_with_logbook {W : World session} {settings : RunSettings}
    {state last : W.State} {before after : Trace W} {now : Moment W} {q : RunM Nat}
    (h : Exec W state (run settings) (before ++ now :: after) last q)
    {total succeeded failed : Nat} (hline : now.op = .log (.completed total succeeded failed)) :
    ∃ skipped, ledger.after before = ⟨total, succeeded, failed, skipped⟩ ∧
      succeeded + failed + skipped ≤ total := by
  have hstart : Tallies {} ([] : Trace W) state := ⟨rfl, Nat.le_refl 0⟩
  have hrun : wp W LastLineHolds (run settings) (fun _ _ _ => True) (fun _ _ _ => True) []
      state := by
    refine wp_seq (wp_aside_tallies setup_uncounted hstart) fun plan past state h => ?_
    refine wp_seq (wp_phases (I := fun total _ => Tallies total)
      (fun phase total seen past state h => phase_tallies phase h) h) ?_
    intro total past state h
    obtain ⟨_, h⟩ := h
    exact finish_reports h
  exact h.safe hrun _ _ _ hline

/-- A server with two never-vacuumed tables, of which one cannot be vacuumed. The other is overdue,
too. -/
def reluctantServer : (op : Op) → op.Answer
  | .call (.findNeverVacuumed _) =>
    .ok [⟨"public", "t", 10, 0, 8192, none⟩, ⟨"public", "u", 10, 0, 8192, none⟩]
  | .call (.findVacuumOverdue _ _) => .ok [⟨"public", "t", 10, 0, 3⟩]
  | .call (.maintain _ table) =>
    if table = ("public", "u") then .error (.db "42501" "permission denied") else .ok ()
  | op => Server.answer {} op

/-- The server neither loses the connection nor hears of a shutdown. -/
theorem reluctant_server_undisturbed (op : Op) : op.Undisturbed (reluctantServer op) := by
  unfold reluctantServer
  split
  · trivial
  · trivial
  · trivial
  · exact Server.answer_undisturbed {} _

/-- Never-vacuumed tables and tables whose VACUUM is overdue. -/
def twoPhases : RunSettings := defaultSettings [.neverVacuumed, .vacuumOverdue] []

/-- What a run in these two modes does there. -/
def twoPhasesTrace : Trace calm :=
  ((run twoPhases).play calm (fun _ op => (reluctantServer op, ())) ()).1

/-- One table is vacuumed and then skipped, the other failed. -/
theorem two_phases_agree_with_logbook : ∃ skipped,
    ledger.after (twoPhasesTrace.take 55) = ⟨3, 1, 1, skipped⟩ ∧ 1 + 1 + skipped ≤ 3 := by
  have hsome : (twoPhasesTrace[55]?.map (·.op)) = some (.log (.completed 3 1 1)) := by
    decide
  obtain ⟨m, hm, hop⟩ := Option.map_eq_some_iff.1 hsome
  have hexec := exec_answers reluctant_server_undisturbed (run twoPhases)
  change Exec calm () (run twoPhases) twoPhasesTrace () _ at hexec
  rw [trace_split hm] at hexec
  exact final_line_agrees_with_logbook hexec hop

end PgMaintainer
