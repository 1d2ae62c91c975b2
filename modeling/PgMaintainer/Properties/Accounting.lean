import PgMaintainer.Run.Visits

/-!
# The accounts of a runner

A visit comes to one of six outcomes. The counters of the summary and the rows of the logbook are
both read off these outcomes, and all but the last visit go on to the next.
-/

namespace PgMaintainer

open Interaction

attribute [local simp] Op.Unbooked

/-! ## Outcomes -/

/-- A row about this table, with this status. -/
def LogEntry.IsFor (row : LogEntry) (table : TableKey) (status : String) : Prop :=
  row.schema = table.1 ∧ row.table = table.2 ∧ row.status = status

/-- What a visit may come to: whether it was cut short, the counters and the rows. -/
inductive VisitOutcome (table : TableKey) : Bool → List Tally → List LogEntry → Prop where
  | cut : VisitOutcome table true [] []
  | succeeded {row : LogEntry} : row.IsFor table "success" → VisitOutcome table false [.succeeded] [row]
  | failed {row : LogEntry} : row.IsFor table "error" → VisitOutcome table false [.failed] [row]
  | unrecorded : VisitOutcome table false [.skipped .interrupted] []
  | cancelled {row : LogEntry} :
      row.IsFor table "cancelled" → VisitOutcome table false [.skipped .interrupted] [row]
  | skipped {reason : SkipReason} :
      reason ≠ .interrupted → VisitOutcome table false [.skipped reason] []

/-- What the visit came to. -/
def Visit.Accounted {W : World session} (v : Visit W) : Prop :=
  VisitOutcome v.table v.cutShort v.counted v.rows

/-- The loop ends with this visit. -/
def Visit.breaks {W : World session} (v : Visit W) : Bool :=
  v.cutShort || v.counted = [.skipped .interrupted]

/-! ## A pass -/

section Pass

variable {W : World session} {table : TableKey} {counted : List Tally} {rows : List LogEntry}
  {past : Trace W} {state : W.State} {policy : RunPolicy} {summary : OperationSummary}
  {r : Runner} {statement : Statement}

/-- The summary, with one table more. -/
def OperationSummary.count (summary : OperationSummary) : Tally → OperationSummary
  | .succeeded => { summary with succeeded := summary.succeeded + 1 }
  | .failed => { summary with failed := summary.failed + 1 }
  | .skipped _ => { summary with skipped := summary.skipped + 1 }

/-- A pass ends with the visit accounted for, in the summary as well, and goes on unless the visit
broke off. -/
def Settles (table : TableKey) (summary : OperationSummary) (flow : Flow OperationSummary)
    (past : Trace W) : Prop :=
  ∃ v : Visit W, past = v.trace ∧ v.table = table ∧ v.Accounted ∧
    flow.state = v.counted.foldl OperationSummary.count summary ∧
    (v.breaks = true ↔ ∃ summary, flow = .stop summary)

/-- A visit that has ended settles its table, if its counts and rows are those of an outcome. -/
theorem VisitEnded.settles {cut : Bool} {flow : Flow OperationSummary}
    (h : VisitEnded table cut counted rows past) (houtcome : VisitOutcome table cut counted rows)
    (hsummary : flow.state = counted.foldl OperationSummary.count summary)
    (hflow : (cut || counted = [.skipped .interrupted]) = true ↔ ∃ summary, flow = .stop summary) :
    Settles table summary flow past := by
  obtain ⟨v, rfl, rfl, rfl, rfl, rfl⟩ := h
  exact ⟨v, rfl, rfl, houtcome, hsummary, hflow⟩

/-- The gates of a visit. -/
theorem pass_rules_at_gates : PassRules W (fun _ _ => True) (fun past _ => AtGates table false past)
    (fun past _ => AtGates table true past) (fun _ _ _ => True) where
  aside := keeps_at_gates
  stopped := keeps_at_gates
  sleep := by
    intro nanoseconds past state h now _ wake after _
    refine ⟨trivial, ?_⟩
    have hnext := h.next (m := ⟨now, .sleepOrShutdown nanoseconds, wake⟩) trivial
    cases wake with
    | shutdown => exact hnext
    | slept => exact hnext
  err _ _ _ _ _ := trivial

/-- The first call of a statement. -/
theorem wp_query_working {c : Call} (hc : ∀ m : Moment W, m.op = .call c → Moment.starts m = true)
    (h : AtGates table false past) :
    wp W (fun _ _ => True) (query c) (fun _ past _ => Working table [] [] past)
      (fun _ past _ => Working table [] [] past) past state := by
  refine wp_bind.2 ?_
  intro now _ answer after _
  have hstarts := hc ⟨now, .call c, answer⟩ rfl
  have hnext : Working table [] [] (past ++ [⟨now, .call c, answer⟩]) := by
    cases c with
    | getDeadTupleCount table => exact h.start rfl hstarts rfl rfl
    | maintain statement table => exact h.start rfl hstarts rfl rfl
    | _ => cases hstarts
  refine ⟨trivial, ?_⟩
  cases answer with
  | ok row => exact hnext
  | error err => exact hnext

/-- What neither counts nor books anything, once the statement has begun. -/
theorem wp_working {ε α : Type} {p : Prog session ε α} (hp : p.Only Op.Unbooked)
    (h : Working table counted rows past) :
    wp W (fun _ _ => True) p (fun _ past _ => Working table counted rows past)
      (fun _ past _ => Working table counted rows past) past state :=
  wp_of_only hp keeps_working (fun _ _ _ h => h) h

/-- The operation of a statement begins with the statement, or with a read of the table's dead
tuples. -/
theorem wp_operation_working (statement : Statement) (h : AtGates table false past) :
    wp W (fun _ _ => True) (statement.operation table) (fun _ past _ => Working table [] [] past)
      (fun _ past _ => Working table [] [] past) past state := by
  have hcount : ∀ m : Moment W, m.op = .call (.getDeadTupleCount table) →
      Moment.starts m = true := by
    intro m hm
    rw [Moment.starts, hm]
  have hmaintain : ∀ m : Moment W, m.op = .call (.maintain statement table) →
      Moment.starts m = true := by
    intro m hm
    rw [Moment.starts, hm]
  refine wp_operation (P := fun past _ => AtGates table false past ∨ Working table [] [] past)
    ?_ ?_ (fun _ _ h => wp_working (by simp) h) (.inl h)
  · rintro past state (h | h)
    · exact wp_mono (wp_query_working hcount h) (fun _ _ _ h => .inr h) fun _ _ _ h => h
    · exact wp_mono (wp_working (by simp) h) (fun _ _ _ h => .inr h) fun _ _ _ h => h
  · rintro past state (h | h)
    · exact wp_query_working hmaintain h
    · exact wp_working (by simp) h

/-- So do the retries. -/
theorem wp_retry_working (statement : Statement) (left delayMs : Nat)
    (h : AtGates table false past) :
    wp W (fun _ _ => True) (retryLoop (statement.operation table) left delayMs)
      (fun _ past _ => Working table [] [] past) (fun _ past _ => Working table [] [] past)
      past state := by
  cases left with
  | zero => exact wp_operation_working statement h
  | succ left =>
      refine wp_seq_attempt (wp_operation_working statement h) (fun _ _ _ h => h) ?_
      intro err past state h
      refine wp_ite.2 ⟨fun _ => h, fun _ => ?_⟩
      refine wp_seq (wp_working (by simp) h) fun requested past state h => ?_
      refine wp_ite.2 ⟨fun _ => h, fun _ => ?_⟩
      refine wp_seq (wp_working (by simp) h) fun wake past state h => ?_
      cases wake with
      | shutdown => exact h
      | slept =>
          exact wp_working (retry_loop_only (operation_only trivial trivial) trivial
            (fun _ => trivial) _ _) h

/-- A row of the logbook is offered, in a real run. -/
theorem wp_log_working (hreal : policy.dryRun = false) (row : LogEntry)
    (h : Working table counted rows past) :
    wp W (fun _ _ => True) (logMaintenanceOperation policy.dryRun row)
      (fun _ past _ => Working table counted (rows ++ [row]) past) (fun _ _ _ => True) past
      state := by
  rw [hreal]
  intro now _ answer after _
  exact ⟨trivial, h.book rfl⟩

/-- A counter goes up. -/
theorem wp_count_working {ε : Type} {E : ε → Trace W → W.State → Prop} (tally : Tally)
    (h : Working table counted rows past) :
    wp W (fun _ _ => True) (mark (.tally table tally) : Prog session ε Unit)
      (fun _ past _ => Working table (counted ++ [tally]) rows past) E past state := by
  intro now _ answer after _
  exact ⟨trivial, h.count rfl⟩

/-- A skipped table is counted once. -/
theorem wp_skip_working (reason : SkipReason) (h : Working table counted rows past) :
    wp W (fun _ _ => True) (skipTable summary table reason)
      (fun after past _ => after = summary.count (.skipped reason) ∧
        Working table (counted ++ [.skipped reason]) rows past) (fun _ _ _ => True) past state :=
  wp_seq (wp_count_working (.skipped reason) h) fun _ _ _ h => ⟨rfl, h⟩

/-- A statement that succeeded. -/
theorem record_success_settles (hreal : policy.dryRun = false) (hr : r.Of statement)
    (result : OperationResult) (durationMs : Int) (h : Working table [] [] past) :
    wp W (fun _ _ => True) (recordSuccess r policy summary table result durationMs)
      (fun flow past _ => Settles table summary flow past) (fun _ _ _ => True) past state := by
  have hreport : (r.report table result).Only Op.Unbooked :=
    (hr.report unbooked_admits_report table result).mono (fun _ h => h) (fun _ h => h)
      fun _ _ => trivial
  refine wp_seq (wp_mono (wp_working hreport h) (fun _ _ _ h => h) fun _ _ _ _ => trivial) ?_
  intro _ past state h
  refine wp_seq (wp_log_working hreal _ h) fun _ past state h => ?_
  refine wp_seq (wp_count_working .succeeded h) fun _ past state h => ?_
  exact h.ended.settles (.succeeded ⟨rfl, rfl, rfl⟩) rfl (by simp)

/-- A statement that failed. -/
theorem record_failure_settles (hreal : policy.dryRun = false) (err : PgError) (durationMs : Int)
    (h : Working table [] [] past) :
    wp W (fun _ _ => True) (recordFailure r policy summary table err durationMs)
      (fun flow past _ => Settles table summary flow past) (fun _ _ _ => True) past state := by
  refine wp_ite.2 ⟨fun _ => ?_, fun _ => ?_⟩
  · refine wp_seq (wp_skip_working .lockTimeout h) fun after past state h => ?_
    obtain ⟨rfl, h⟩ := h
    exact h.ended.settles (.skipped (by decide)) rfl (by simp)
  · refine wp_seq (wp_log_working hreal _ h) fun _ past state h => ?_
    refine wp_seq (wp_count_working .failed h) fun _ past state h => ?_
    exact h.ended.settles (.failed ⟨rfl, rfl, rfl⟩) rfl (by simp)

/-- A statement that a shutdown stopped. -/
theorem handle_shutdown_interrupt_settles (hreal : policy.dryRun = false) (durationMs : Int)
    (h : Working table [] [] past) :
    wp W (fun _ _ => True) (handleShutdownInterrupt r policy summary table durationMs)
      (fun after past _ => Settles table summary (.stop after) past) (fun _ _ _ => True) past
      state := by
  refine wp_seq (wp_skip_working .interrupted h) fun after past state h => ?_
  obtain ⟨rfl, h⟩ := h
  refine wp_seq (wp_mono (wp_working (by simp) h) (fun _ _ _ h => h)
    fun _ _ _ _ => trivial) fun closed past state h => ?_
  refine wp_ite.2 ⟨fun _ => ?_, fun _ => ?_⟩
  · exact h.ended.settles .unrecorded rfl (by simp)
  · refine wp_seq (wp_log_working hreal _ h) fun _ past state h => ?_
    exact h.ended.settles (.cancelled ⟨rfl, rfl, rfl⟩) rfl (by simp)

/-- A table whose turn it is, in a real run. -/
theorem maintain_table_settles (hreal : policy.dryRun = false) (hr : r.Of statement)
    (count i : Nat) (h : AtGates table false past) :
    wp W (fun _ _ => True) (maintainTable r policy count i table summary)
      (fun flow past _ => Settles table summary flow past) (fun _ _ _ => True) past state := by
  refine wp_ite.2 ⟨fun hdry => ?_, fun _ => ?_⟩
  · rw [hreal] at hdry
    cases hdry
  refine wp_seq (pass_rules_at_gates.total (by simp [Op.Deaf, Op.Gating]) h)
    fun start past state h => ?_
  have hretry : wp W (fun _ _ => True) (withLockTimeoutRetry policy (r.operation table))
      (fun _ past _ => Working table [] [] past) (fun _ past _ => Working table [] [] past)
      past state := by
    rw [hr.operation]
    exact wp_retry_working statement _ _ h
  refine wp_seq (R := fun _ past _ => Working table [] [] past) (wp_attempt.2 hretry) ?_
  intro outcome past state h
  refine wp_seq (wp_mono (wp_working (by simp) h) (fun _ _ _ h => h)
    fun _ _ _ _ => trivial) fun time past state h => ?_
  cases outcome with
  | ok result => exact record_success_settles hreal hr result _ h
  | error err =>
      refine wp_seq (wp_mono (wp_working (by simp) h) (fun _ _ _ h => h)
        fun _ _ _ _ => trivial) fun requested past state h => ?_
      cases classifyOpError err requested with
      | connectionLost => exact wp_seq (R := fun _ _ _ => True) wp_true fun _ _ _ _ => trivial
      | shutdownInterrupted =>
          exact wp_seq (handle_shutdown_interrupt_settles hreal _ h) fun _ _ _ h => h
      | lockTimeout => exact record_failure_settles hreal err _ h
      | other => exact record_failure_settles hreal err _ h

section Turn

variable {already : Option (List TableKey)}

/-- The flag is read at the head of a pass. -/
theorem at_gates_read (past : Trace W) (state : W.State) (h : AtGates table false past) :
    wp W (fun _ _ => True) (shutdownRequested : RunM Bool)
      (fun requested past _ =>
        if requested = true then AtGates table true past else AtGates table false past)
      (fun _ _ _ => True) past state := by
  intro now _ requested after _
  have hnext := h.next (m := ⟨now, .shutdownRequested, requested⟩) trivial
  refine ⟨trivial, ?_⟩
  cases requested with
  | true => exact hnext
  | false => exact hnext

/-- Where a shutdown is learnt of before the statement, the loop ends. -/
theorem at_gates_stop (past : Trace W) (_ : W.State) (h : AtGates table true past) :
    Settles table summary (.stop summary) past :=
  h.ended.settles .cut rfl (by simp)

/-- A table that is skipped before its statement. -/
theorem at_gates_skip (reason : SkipReason) (past : Trace W) (state : W.State)
    (h : AtGates table false past) (hskips : SkipsFor W policy already table reason) :
    wp W (fun _ _ => True) (skipTable summary table reason)
      (fun after past _ => Settles table summary (.next after) past) (fun _ _ _ => True) past
      state := by
  have hreason : reason ≠ .interrupted := by
    rintro rfl
    exact hskips
  intro now _ answer after _
  exact ⟨trivial, (h.count rfl).settles (.skipped hreason) rfl (by simp [hreason])⟩

/-- The loop turns to a table. -/
theorem at_gates_visit (state : W.State) :
    wp W (fun _ _ => True) (mark (.visit table) : RunM Unit)
      (fun _ past _ => AtGates table false past) (fun _ _ _ => True) [] state := by
  intro now _ answer after _
  refine ⟨trivial, ⟨table, ⟨now, .mark (.visit table), answer⟩, [], rfl, ?_⟩, rfl, rfl, ?_, rfl⟩
  · exact fun m hm => absurd hm List.not_mem_nil
  · exact fun m hm => absurd hm List.not_mem_nil

end Turn

end Pass

/-! ## A run -/

section Run

variable {W : World session} {phase : Phase} {tables : List TableKey} {summary : OperationSummary}
  {visits : List (Visit W)} {past : Trace W} {policy : RunPolicy}

/-- A counter of the skipped tables. -/
def Tally.skips : Tally → Bool
  | .skipped _ => true
  | _ => false

/-- A run of a runner as a list of visits, each with its outcome, and the summary they add up to.
Only the last visit may have ended the loop. -/
structure Account (phase : Phase) (tables : List TableKey) (summary : OperationSummary)
    (visits : List (Visit W)) (tr : Trace W) : Prop where
  trace : ∃ first : Moment W, first.op = .mark (.candidates phase tables) ∧
    tr = first :: visits.flatMap Visit.trace
  candidates : visits.map Visit.table <+: tables
  outcomes : ∀ v ∈ visits, v.Accounted
  goesOn : ∀ v ∈ visits.dropLast, v.breaks = false
  total : summary.total = tables.length
  succeeded : summary.succeeded = visits.countP fun v => v.counted = [.succeeded]
  failed : summary.failed = visits.countP fun v => v.counted = [.failed]
  skipped : summary.skipped = visits.countP fun v => v.counted.any Tally.skips

/-- The counters of a visit: one, or none where it was cut short. -/
theorem Visit.Accounted.one {v : Visit W} (h : v.Accounted) :
    v.cutShort = true ∧ v.counted = [] ∨ v.cutShort = false ∧
      (v.counted = [.succeeded] ∨ v.counted = [.failed] ∨ ∃ reason, v.counted = [.skipped reason]) := by
  unfold Visit.Accounted at h
  generalize v.cutShort = cut, v.counted = counted, v.rows = rows at h ⊢
  cases h with
  | cut => exact .inl ⟨rfl, rfl⟩
  | succeeded => exact .inr ⟨rfl, .inl rfl⟩
  | failed => exact .inr ⟨rfl, .inr (.inl rfl)⟩
  | unrecorded => exact .inr ⟨rfl, .inr (.inr ⟨_, rfl⟩)⟩
  | cancelled => exact .inr ⟨rfl, .inr (.inr ⟨_, rfl⟩)⟩
  | skipped => exact .inr ⟨rfl, .inr (.inr ⟨_, rfl⟩)⟩

/-- One visit more. -/
theorem Account.add (h : Account phase tables summary visits past)
    (hon : ∀ v ∈ visits, v.breaks = false) {v : Visit W} (hv : v.Accounted)
    (hcandidates : visits.map Visit.table ++ [v.table] <+: tables) :
    Account phase tables (v.counted.foldl OperationSummary.count summary) (visits ++ [v])
      (past ++ v.trace) := by
  obtain ⟨first, hfirst, rfl⟩ := h.trace
  have hone := hv.one
  constructor
  · refine ⟨first, hfirst, ?_⟩
    rw [List.flatMap_append, List.flatMap_singleton, List.cons_append]
  · rw [List.map_append]
    exact hcandidates
  · intro u hu
    obtain hu | hu := List.mem_append.1 hu
    · exact h.outcomes u hu
    · rwa [List.mem_singleton.1 hu]
  · rw [List.dropLast_concat]
    exact hon
  · -- the four counters, by what the visit has counted
    obtain ⟨-, hcounted⟩ | ⟨-, hcounted | hcounted | ⟨reason, hcounted⟩⟩ := hone <;>
      rw [hcounted] <;> exact h.total
  · obtain ⟨-, hcounted⟩ | ⟨-, hcounted | hcounted | ⟨reason, hcounted⟩⟩ := hone <;>
      simp [hcounted, OperationSummary.count, h.succeeded]
  · obtain ⟨-, hcounted⟩ | ⟨-, hcounted | hcounted | ⟨reason, hcounted⟩⟩ := hone <;>
      simp [hcounted, OperationSummary.count, h.failed]
  · obtain ⟨-, hcounted⟩ | ⟨-, hcounted | hcounted | ⟨reason, hcounted⟩⟩ := hone <;>
      simp [hcounted, OperationSummary.count, h.skipped, Tally.skips]

/-- The counters add up to the visits that were not cut short. By induction on the visits. -/
theorem count_of_accounted (h : ∀ v ∈ visits, v.Accounted) :
    visits.countP (fun v => v.counted = [.succeeded]) + visits.countP (fun v => v.counted = [.failed]) +
      visits.countP (fun v => v.counted.any Tally.skips) = visits.countP (fun v => !v.cutShort) := by
  induction visits with
  | nil => rfl
  | cons v visits ih =>
      obtain ⟨hv, hrest⟩ := List.forall_mem_cons.1 h
      have hsum := ih hrest
      obtain ⟨hcut, hcounted⟩ | ⟨hcut, hcounted | hcounted | ⟨reason, hcounted⟩⟩ := hv.one <;>
        simp [hcut, hcounted, Tally.skips] <;> omega

/-- The visit is a run of the pass. -/
def Visit.Of (body : PassBody) (v : Visit W) : Prop :=
  ∃ i summary start last flow, Exec W start (body i v.table summary) v.trace last (.pure flow)

/-- What a pass by itself comes to, behind what was done before. -/
theorem wp_settles_behind {body : PassBody} {i : Nat} {table : TableKey} {state : W.State}
    (h : wp W (fun _ _ => True) (body i table summary)
      (fun flow past _ => Settles table summary flow past) (fun _ _ _ => True) [] state) :
    wp W (fun _ _ => True) (body i table summary)
      (fun flow past' _ => ∃ tr last, past' = past ++ tr ∧ Settles table summary flow tr ∧
        Exec W state (body i table summary) tr last (.pure flow))
      (fun _ _ _ => True) past state := by
  have hexec : wp W (fun _ _ => True) (body i table summary)
      (fun flow tr last => Exec W state (body i table summary) tr last (.pure flow))
      (fun _ _ _ => True) [] state := by
    refine wp_mono Prog.wp_exec ?_ fun _ _ _ _ => trivial
    intro flow past' last h
    obtain ⟨tr, rfl, hexec⟩ := h
    exact hexec
  have hbehind : wp W (fun _ _ => True) (body i table summary)
      (fun flow past' _ => ∃ tr last, past' = past ++ tr ∧ Settles table summary flow tr ∧
        Exec W state (body i table summary) tr last (.pure flow))
      (fun _ _ _ => True) (past ++ []) state :=
    wp_shift (wp_mono (wp_also h hexec)
      (fun flow tr last h => ⟨tr, last, rfl, h.1, h.2⟩) fun _ _ _ h => h)
  rwa [List.append_nil] at hbehind

/-- The loop, from its passes. Before a pass, every visit so far has gone on. -/
theorem wp_account {body : PassBody} {state : W.State}
    (hbody : ∀ i table summary state, wp W (fun _ _ => True) (body i table summary)
      (fun flow past _ => Settles table summary flow past) (fun _ _ _ => True) [] state) :
    wp W (fun _ _ => True) (runTables phase body tables)
      (fun summary past _ => ∃ visits, Account phase tables summary visits past ∧
        ∀ v ∈ visits, v.Of body)
      (fun _ _ _ => True) [] state := by
  have hstart : wp W (fun _ _ => True) (mark (.candidates phase tables) : RunM Unit)
      (fun _ past _ => ∃ visits, (Account phase tables { total := tables.length } visits past ∧
        ∀ v ∈ visits, v.Of body) ∧ visits.map Visit.table = [] ∧ ∀ v ∈ visits, v.breaks = false)
      (fun _ _ _ => True) [] state := by
    intro now _ answer after _
    refine ⟨trivial, [], ⟨⟨⟨_, rfl, rfl⟩, List.nil_prefix, ?_, ?_, rfl, rfl, rfl, rfl⟩, ?_⟩, rfl,
      ?_⟩
    · exact fun v hv => absurd hv List.not_mem_nil
    · exact fun v hv => absurd hv List.not_mem_nil
    · exact fun v hv => absurd hv List.not_mem_nil
    · exact fun v hv => absurd hv List.not_mem_nil
  refine wp_seq hstart fun _ past state h => ?_
  -- the account so far is that of the visited tables, none of which broke off
  refine wp_mono (wp_sweep (I := fun done summary past _ =>
      ∃ visits, (Account phase tables summary visits past ∧ ∀ v ∈ visits, v.Of body) ∧
        visits.map Visit.table = done ∧ ∀ v ∈ visits, v.breaks = false)
    (D := fun summary past _ => ∃ visits, Account phase tables summary visits past ∧
      ∀ v ∈ visits, v.Of body) ?_ h) ?_ fun _ _ _ h => h
  · intro done table rest htables i summary past state h
    obtain ⟨visits, ⟨haccount, hof⟩, hdone, hon⟩ := h
    refine wp_mono (wp_settles_behind (hbody i table summary state)) ?_ fun _ _ _ h => h
    intro flow past' _ h
    obtain ⟨tr, last, rfl, hsettles, hexec⟩ := h
    obtain ⟨v, rfl, rfl, hv, hsummary, hbreaks⟩ := hsettles
    have hmore : visits.map Visit.table ++ [v.table] <+: tables := by
      rw [hdone, htables]
      exact ⟨rest, List.append_assoc ..⟩
    have hadd := haccount.add hon hv hmore
    rw [← hsummary] at hadd
    have hofs : ∀ u ∈ visits ++ [v], u.Of body := by
      intro u hu
      obtain hu | hu := List.mem_append.1 hu
      · exact hof u hu
      · rw [List.mem_singleton.1 hu]
        exact ⟨i, summary, state, last, flow, hexec⟩
    cases flow with
    | stop after => exact ⟨_, hadd, hofs⟩
    | next after =>
        have hgoes : v.breaks = false := by
          rw [Bool.eq_false_iff]
          intro hv
          obtain ⟨_, hstop⟩ := hbreaks.1 hv
          cases hstop
        refine ⟨_, ⟨hadd, hofs⟩, ?_, fun u hu => ?_⟩
        · rw [List.map_append, hdone]
          rfl
        · obtain hu | hu := List.mem_append.1 hu
          · exact hon u hu
          · rwa [List.mem_singleton.1 hu]
  · intro summary past _ h
    obtain ⟨visits, haccount, -⟩ | h := h
    · exact ⟨visits, haccount⟩
    · exact h

/-- A pass with one lag gate. -/
theorem gated_pass_settles (hreal : policy.dryRun = false) {r : Runner} {statement : Statement}
    (hr : r.Of statement) (gate : Option ReplicaLagGate) (already : Option (List TableKey))
    (count i : Nat) (table : TableKey) (state : W.State) :
    wp W (fun _ _ => True) (gatedPass r policy gate already count i table summary)
      (fun flow past _ => Settles table summary flow past) (fun _ _ _ => True) [] state :=
  pass_rules_at_gates.gated_pass keeps_at_gates (fun _ _ _ _ _ => trivial) at_gates_read
    at_gates_stop at_gates_skip (at_gates_visit state)
    (fun _ _ h _ _ => maintain_table_settles hreal hr count i h) gate

/-- Every table of a runner is settled. -/
theorem runner_settles (hreal : policy.dryRun = false) {runner : RunPolicy → RunM OperationSummary}
    (h : PhaseRunner phase tables runner) (state : W.State) :
    wp W (fun _ _ => True) (runner policy)
      (fun summary past _ => ∃ visits, Account phase tables summary visits past)
      (fun _ _ _ => True) [] state := by
  obtain ⟨r, statement, already, hr, hloops⟩ := h.loops policy
  generalize runner policy = loop at hloops
  have haccount : ∀ {body}, (∀ i table summary state, wp W (fun _ _ => True) (body i table summary)
      (fun flow past _ => Settles table summary flow past) (fun _ _ _ => True) [] state) →
      wp W (fun _ _ => True) (runTables phase body tables)
        (fun summary past _ => ∃ visits, Account phase tables summary visits past)
        (fun _ _ _ => True) [] state := by
    intro body hbody
    refine wp_mono (wp_account hbody) ?_ fun _ _ _ h => h
    intro summary past _ h
    obtain ⟨visits, haccount, -⟩ := h
    exact ⟨visits, haccount⟩
  cases hloops with
  | once gate count =>
      exact haccount fun i table summary state => gated_pass_settles hreal hr gate already count i
        table state
  | twice gate count =>
      refine haccount fun i table summary state => ?_
      exact pass_rules_at_gates.twice_gated_pass keeps_at_gates (fun _ _ _ _ _ => trivial)
        at_gates_read at_gates_stop at_gates_skip (at_gates_visit state)
        (fun _ _ h _ _ => maintain_table_settles hreal hr count i h) gate

end Run

/-- In every run of one of the eight runners that is no dry run and returns a summary, the tables
that the loop turned to are visits with one outcome each: the counters of the summary are the numbers
of visits with these outcomes, and they add up to the visits that no shutdown cut short before the
statement, which are never more than the total. The outcome also says what the logbook was offered:
one row for a table that succeeded or failed, at most one for a table that was interrupted, which is
the last one, and none for any other. -/
theorem runner_accounts {W : World session} {policy : RunPolicy} (hreal : policy.dryRun = false)
    {phase : Phase} {tables : List TableKey} {runner : RunPolicy → RunM OperationSummary}
    (h : PhaseRunner phase tables runner) {start last : W.State} {tr : Trace W}
    {summary : OperationSummary}
    (hexec : Exec W start (runner policy) tr last (.pure summary)) :
    ∃ visits, Account phase tables summary visits tr ∧
      summary.succeeded + summary.failed + summary.skipped = visits.countP (fun v => !v.cutShort) ∧
      summary.succeeded + summary.failed + summary.skipped ≤ summary.total := by
  obtain ⟨_, -, visits, haccount⟩ := hexec.returned (runner_settles hreal h start)
  have hsum : summary.succeeded + summary.failed + summary.skipped =
      visits.countP (fun v => !v.cutShort) := by
    rw [haccount.succeeded, haccount.failed, haccount.skipped]
    exact count_of_accounted haccount.outcomes
  refine ⟨visits, haccount, hsum, ?_⟩
  calc summary.succeeded + summary.failed + summary.skipped
      = visits.countP (fun v => !v.cutShort) := hsum
    _ ≤ visits.length := List.countP_le_length
    _ = (visits.map Visit.table).length := (List.length_map _).symm
    _ ≤ tables.length := haccount.candidates.length_le
    _ = summary.total := haccount.total.symm

/-- One statement succeeds, one fails, and the last is cancelled by a shutdown. -/
def threeAnswers (asked : Bool) : (op : Op) → op.Answer × Bool
  | .call (.maintain _ table) =>
    if table.2 = "a" then (.ok (), asked)
    else if table.2 = "b" then (.error (.db "42501" "permission denied"), asked)
    else (.error (.db queryCanceled "canceling statement due to user request"), true)
  | .call (.findActiveVacuums _) => (.ok [], asked)
  | .call _ => (.error .closed, asked)
  | .now => (0, asked)
  | .sleepOrShutdown _ => (.slept, asked)
  | .shutdownRequested => (asked, asked)
  | .isClosed | .isRequested | .gateIsDisabled => (false, asked)
  | .gateDisable | .gateAddWaited _ | .gateRecordSkip | .log _ | .mark _ => ((), asked)

/-- An ANALYZE of three tables. -/
def overThree (policy : RunPolicy) : RunM OperationSummary :=
  runAnalyzeNeverAnalyzed [⟨"public", "a", 0, 0, 0, none⟩, ⟨"public", "b", 0, 0, 0, none⟩,
    ⟨"public", "c", 0, 0, 0, none⟩] policy none

/-- One visit of each kind. -/
theorem three_tables_accounted : ∃ visits,
    Account .neverAnalyzed [("public", "a"), ("public", "b"), ("public", "c")] ⟨3, 1, 1, 1⟩ visits
      ((overThree ⟨false, false, false, false, 10, 0, 50⟩).play (World.recalling session Bool)
        threeAnswers false).1 ∧
      visits.countP (fun v => !v.cutShort) = 3 := by
  have hexec := Prog.exec_play (W := World.recalling session Bool) threeAnswers
    (fun _ _ => trivial) (overThree ⟨false, false, false, false, 10, 0, 50⟩) false
  have hend : ((overThree ⟨false, false, false, false, 10, 0, 50⟩).play
      (World.recalling session Bool) threeAnswers false).2.2 = .ok ⟨3, 1, 1, 1⟩ := by
    decide
  rw [hend] at hexec
  obtain ⟨visits, haccount, hsum, -⟩ :=
    runner_accounts rfl (.neverAnalyzed _ none) hexec
  exact ⟨visits, haccount, hsum.symm⟩

end PgMaintainer
