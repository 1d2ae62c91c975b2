import PgMaintainer.Properties.Attribution
import PgMaintainer.Properties.Retry

/-!
# The rows of the logbook

What a run writes into `maintainer_logbook.maintenance_logbook`: a row is about the last attempt at
the statement of its table, in the loop of the phase that it names, and it says how that attempt
was answered. Every row fits the columns that `ensure_logbook_schema` creates.
-/

namespace PgMaintainer

open Interaction

attribute [local simp] Op.Tableless Call.table?

/-! ## How a statement was answered -/

/-- Whether a statement stands between two reads of the dead-tuple count. -/
def Statement.counted : Statement → Bool
  | .vacuum _ | .vacuumAnalyze _ => true
  | .freeze _ | .analyze => false

section Attempt

variable {W : World session} {statement : Statement} {table : TableKey}

/-- One attempt at a statement over a table, with the answers to its calls, and how it ended. -/
inductive Statement.Attempted (statement : Statement) (table : TableKey) :
    Trace W → AttemptEnd → Prop where
  | alone (first : W.State) : statement.counted = false →
      statement.Attempted table [⟨first, .call (.maintain statement table), .ok ()⟩]
        (.ok ⟨none, none⟩)
  | counted (first second third : W.State) (before after : Int) : statement.counted = true →
      statement.Attempted table
        [⟨first, .call (.getDeadTupleCount table), .ok before⟩,
          ⟨second, .call (.maintain statement table), .ok ()⟩,
          ⟨third, .call (.getDeadTupleCount table), .ok after⟩]
        (.ok ⟨if 0 < before then some before else none, estimateDeadTuplesReduced before after⟩)
  | refused (first : W.State) (err : PgError) : statement.counted = false →
      statement.Attempted table [⟨first, .call (.maintain statement table), .error err⟩]
        (.error err)
  | uncounted (first : W.State) (err : PgError) : statement.counted = true →
      statement.Attempted table [⟨first, .call (.getDeadTupleCount table), .error err⟩]
        (.error err)
  | failed (first second : W.State) (before : Int) (err : PgError) : statement.counted = true →
      statement.Attempted table
        [⟨first, .call (.getDeadTupleCount table), .ok before⟩,
          ⟨second, .call (.maintain statement table), .error err⟩] (.error err)
  | unread (first second third : W.State) (before : Int) (err : PgError) :
      statement.counted = true →
      statement.Attempted table
        [⟨first, .call (.getDeadTupleCount table), .ok before⟩,
          ⟨second, .call (.maintain statement table), .ok ()⟩,
          ⟨third, .call (.getDeadTupleCount table), .error err⟩] (.error err)

/-- A statement between two reads. -/
theorem between_attempted (hcounted : statement.counted = true) {state : W.State} :
    wp W (fun _ _ => True) (betweenDeadTupleCounts statement table)
      (fun result tr _ => statement.Attempted table tr (.ok result))
      (fun err tr _ => statement.Attempted table tr (.error err)) [] state := by
  intro first _ before _ _
  refine ⟨trivial, ?_⟩
  -- the attempt ends at the first of its three calls that fails
  cases before with
  | error err => exact .uncounted first err hcounted
  | ok before =>
      intro second _ done _ _
      refine ⟨trivial, ?_⟩
      cases done with
      | error err => exact .failed first second before err hcounted
      | ok _ =>
          intro third _ after _ _
          refine ⟨trivial, ?_⟩
          cases after with
          | error err => exact .unread first second third before err hcounted
          | ok after => exact .counted first second third before after hcounted

/-- A statement alone. -/
theorem alone_attempted (halone : statement.counted = false) {state : W.State} :
    wp W (fun _ _ => True) (withoutDeadTupleCounts statement table)
      (fun result tr _ => statement.Attempted table tr (.ok result))
      (fun err tr _ => statement.Attempted table tr (.error err)) [] state := by
  intro first _ done _ _
  refine ⟨trivial, ?_⟩
  cases done with
  | error err => exact .refused first err halone
  | ok _ => exact .alone first halone

/-- A run of an operation is an attempt at its statement. -/
theorem Ran.attempted {tr : Trace W} {e : AttemptEnd} (h : Ran W (statement.operation table) tr e) :
    statement.Attempted table tr e := by
  obtain ⟨start, last, hexec⟩ := h
  have hwp : wp W (fun _ _ => True) (statement.operation table)
      (fun result tr _ => statement.Attempted table tr (.ok result))
      (fun err tr _ => statement.Attempted table tr (.error err)) [] start := by
    cases statement with
    | vacuum options => exact between_attempted rfl
    | vacuumAnalyze options => exact between_attempted rfl
    | freeze options => exact alone_attempted rfl
    | analyze => exact alone_attempted rfl
  cases e with
  | ok result =>
      obtain ⟨_, _, h⟩ := hexec.returned hwp
      exact h
  | error err =>
      obtain ⟨_, _, h⟩ := hexec.failed hwp
      exact h

/-- All attempts at a statement, of which the last ended so. Behind it there may be a wait that was
cut short. -/
def Statement.Tried (statement : Statement) (table : TableKey) (tr : Trace W)
    (outcome : AttemptEnd) : Prop :=
  ∃ earlier attempt waited, tr = earlier ++ attempt ++ waited ∧
    statement.Attempted table attempt outcome ∧ ∀ m ∈ waited, m.op.Tableless

/-- By induction on the rounds. -/
theorem Rounds.tried {ends : List AttemptEnd} {waits : List Nat} {stopped : Bool} {tr : Trace W}
    {outcome : AttemptEnd} (h : Rounds W (statement.operation table) ends waits stopped tr)
    (hlast : ends.getLast? = some outcome) : statement.Tried table tr outcome := by
  induction h with
  | last hran =>
      obtain rfl := Option.some.inj hlast
      exact ⟨[], _, [], (List.append_nil _).symm, hran.attempted, by simp⟩
  | told now hran =>
      obtain rfl := Option.some.inj hlast
      exact ⟨[], _, _, rfl, hran.attempted, by simp⟩
  | woken now later duration hran =>
      obtain rfl := Option.some.inj hlast
      exact ⟨[], _, _, rfl, hran.attempted, by simp⟩
  | @again e ends waits stopped tr rest now later duration hran hrounds ih =>
      cases ends with
      | nil => cases hrounds
      | cons first ends =>
          obtain ⟨earlier, attempt, waited, rfl, hattempted, hwaited⟩ := ih hlast
          refine ⟨tr ++ [⟨now, .shutdownRequested, false⟩,
            ⟨later, .sleepOrShutdown duration, .slept⟩] ++ earlier, attempt, waited, ?_, hattempted,
            hwaited⟩
          simp only [List.append_assoc]

end Attempt

/-! ## What a row says -/

/-- Operations that are no row. -/
def Op.WritesNoRow : Op → Prop
  | .call (.insertMaintenanceLog _) => False
  | _ => True

attribute [local simp] Op.WritesNoRow

/-- What is about no table is no row. -/
theorem Op.Tableless.writesNoRow {op : Op} (h : op.Tableless) : op.WritesNoRow := by
  unfold Op.WritesNoRow
  split
  · cases h
  · trivial

/-- An error that counts as a lock timeout is one. -/
theorem is_lock_timeout_of_classified {err : PgError} {requested : Bool}
    (h : classifyOpError err requested = .lockTimeout) : isLockTimeout err = true := by
  simp only [classifyOpError] at h
  split at h
  · cases h
  · split at h
    · cases h
    · split at h
      · assumption
      · cases h

section Row

variable {W : World session}

/-- What a row says about an outcome, where `behind` is what was done since. The shutdown flag is
read after an error, and decides with the error whether the row says `error` or `cancelled`. -/
inductive LogEntry.Reports (entry : LogEntry) (behind : Trace W) : AttemptEnd → Prop where
  | success (result : OperationResult) : entry.status = "success" → entry.errorMessage = none →
      entry.deadTuplesBefore = result.deadTuplesBefore →
      entry.deadTuplesReducedApprox = result.deadTuplesReducedApprox →
      entry.Reports behind (.ok result)
  | error (err : PgError) (state : W.State) (requested : Bool) :
      ⟨state, .shutdownRequested, requested⟩ ∈ behind →
      classifyOpError err requested = .other →
      entry.status = "error" → entry.errorMessage = some err.display →
      entry.deadTuplesBefore = none → entry.deadTuplesReducedApprox = none →
      entry.Reports behind (.error err)
  | cancelled (err : PgError) (state : W.State) :
      ⟨state, .shutdownRequested, true⟩ ∈ behind →
      classifyOpError err true = .shutdownInterrupted →
      entry.status = "cancelled" → entry.errorMessage = some "cancelled by shutdown" →
      entry.deadTuplesBefore = none → entry.deadTuplesReducedApprox = none →
      entry.Reports behind (.error err)

/-- A row is about the last thing that was done to a table: the attempts at the statement of the job
over the table of the row, between two looks at the clock that tell the duration. -/
def Booked (job : Job) (past : Trace W) (entry : LogEntry) : Prop :=
  ∃ (front attempts behind : Trace W) (first second : W.State) (begun ended : Nat)
    (outcome : AttemptEnd),
    past = front ++ ⟨first, .now, begun⟩ :: attempts ++ ⟨second, .now, ended⟩ :: behind ∧
    job.statement.Tried (entry.schema, entry.table) attempts outcome ∧
    (∀ m ∈ behind, m.op.Tableless) ∧
    entry.durationMs = ((ended - begun) / 1000000 : Nat) ∧ entry.Reports behind outcome

/-- The rows of a job are such rows. -/
def BooksRows (job : Job) (past : Trace W) (m : Moment W) : Prop :=
  ∀ entry, m.op = .call (.insertMaintenanceLog entry) → Booked job past entry

/-- What is no row needs no record. -/
theorem books_of_writesNoRow {job : Job} {past : Trace W} {m : Moment W} (h : m.op.WritesNoRow) :
    BooksRows job past m := by
  intro entry hop
  rw [hop] at h
  exact h.elim

end Row

/-! ## The rows of a runner -/

section Runner

variable {W : World session} {job : Job} {r : Runner} {table : TableKey}
  {summary : OperationSummary} {past : Trace W} {state : W.State}

/-- What is no row may be done at any time. -/
theorem wp_writesNoRow {ε α : Type} {p : Prog session ε α} (hp : p.Only Op.WritesNoRow) :
    wp W (BooksRows job) p (fun _ _ _ => True) (fun _ _ _ => True) past state :=
  wp_safe hp wp_true fun _ _ => books_of_writesNoRow

/-- The clock is read. -/
theorem wp_now_books {E : AnyError → Trace W → W.State → Prop} :
    wp W (BooksRows job) (now : RunM Nat)
      (fun time past' _ => ∃ state, past' = past ++ [(⟨state, .now, time⟩ : Moment W)]) E past
      state :=
  fun now _ _ _ _ => ⟨books_of_writesNoRow trivial, now, rfl⟩

/-- The attempts at a statement, and how the last one ended. -/
theorem wp_tried (hr : r.Sends job) :
    wp W (BooksRows job)
      ((withLockTimeoutRetry job.policy (r.operation table)).attempt : RunM (Except PgError _))
      (fun outcome past' _ => ∃ attempts, past' = past ++ attempts ∧
        job.statement.Tried table attempts outcome) (fun _ _ _ => True) past state := by
  have hsilent : (retryLoop (job.statement.operation table) job.policy.lockTimeoutRetries
      job.policy.lockTimeoutRetryDelayMs).Only Op.WritesNoRow :=
    retry_loop_only (operation_only trivial trivial) trivial (fun _ => trivial) _ _
  rw [hr.of.operation]
  refine wp_attempt.2 (wp_safe hsilent (wp_mono (wp_retry_rounds _ _) ?_ ?_) fun _ _ =>
    books_of_writesNoRow)
  · intro result past' state h
    obtain ⟨attempts, ends, waits, stopped, rfl, hrounds, hretried⟩ := h
    exact ⟨attempts, rfl, hrounds.tried hretried.returned⟩
  · intro err past' state h
    obtain ⟨attempts, ends, waits, stopped, rfl, hrounds, hretried⟩ := h
    exact ⟨attempts, rfl, hrounds.tried hretried.returned⟩

/-- The attempts and the time that they took, behind what was done before. -/
def TriedBehind (job : Job) (table : TableKey) (outcome : AttemptEnd) (durationMs : Int)
    (behind past : Trace W) : Prop :=
  ∃ (front attempts : Trace W) (first second : W.State) (begun ended : Nat),
    past = front ++ ⟨first, .now, begun⟩ :: attempts ++ ⟨second, .now, ended⟩ :: behind ∧
    job.statement.Tried table attempts outcome ∧ durationMs = ((ended - begun) / 1000000 : Nat)

/-- What is done to no table comes behind them. -/
theorem TriedBehind.append {outcome : AttemptEnd} {durationMs : Int} {behind more : Trace W}
    (h : TriedBehind job table outcome durationMs behind past) :
    TriedBehind job table outcome durationMs (behind ++ more) (past ++ more) := by
  obtain ⟨front, attempts, first, second, begun, ended, rfl, htried, hduration⟩ := h
  refine ⟨front, attempts, first, second, begun, ended, ?_, htried, hduration⟩
  simp only [List.append_assoc, List.cons_append]

/-- Where the attempts are, with what was done since. -/
def Since (job : Job) (table : TableKey) (outcome : AttemptEnd) (durationMs : Int)
    (facts : Trace W → Prop) (past : Trace W) : Prop :=
  ∃ behind, TriedBehind job table outcome durationMs behind past ∧
    (∀ m ∈ behind, m.op.Tableless) ∧ facts behind

/-- What is done to no table keeps them the last. -/
theorem wp_since {α : Type} {p : RunM α} {outcome : AttemptEnd} {durationMs : Int}
    {facts : Trace W → Prop} (hp : p.Only Op.Tableless) (hfacts : Lasting facts)
    (h : Since job table outcome durationMs facts past) :
    wp W (BooksRows job) p (fun _ past _ => Since job table outcome durationMs facts past)
      (fun _ _ _ => True) past state := by
  obtain ⟨behind, htried, htableless, hbehind⟩ := h
  refine wp_mono (wp_appends hp fun _ _ hop => books_of_writesNoRow hop.writesNoRow) ?_
    fun _ _ _ _ => trivial
  intro _ past' state h
  obtain ⟨more, rfl, hmore⟩ := h
  refine ⟨behind ++ more, htried.append, fun m hm => ?_, hfacts behind more hbehind⟩
  rcases List.mem_append.1 hm with hm | hm
  · exact htableless m hm
  · exact hmore m hm

/-- A row that reports the outcome may be written. -/
theorem wp_log_books {outcome : AttemptEnd} {durationMs : Int} {facts : Trace W → Prop}
    {entry : LogEntry} (htable : (entry.schema, entry.table) = table)
    (hduration : entry.durationMs = durationMs)
    (hreports : ∀ behind, facts behind → entry.Reports behind outcome)
    (h : Since job table outcome durationMs facts past) :
    wp W (BooksRows job) (logMaintenanceOperation job.policy.dryRun entry) (fun _ _ _ => True)
      (fun _ _ _ => True) past state := by
  refine wp_ite.2 ⟨fun _ => trivial, fun _ => ?_⟩
  obtain ⟨behind, htried, htableless, hbehind⟩ := h
  obtain ⟨front, attempts, first, second, begun, ended, rfl, htried, rfl⟩ := htried
  refine fun now _ answer after _ => ⟨fun other hop => ?_, trivial⟩
  obtain rfl : entry = other := by simpa using hop
  exact ⟨front, attempts, behind, first, second, begun, ended, outcome, rfl, htable ▸ htried,
    htableless, hduration, hreports behind hbehind⟩

/-- The row of a success. -/
theorem record_success_books_row (hr : r.Sends job) (result : OperationResult) (durationMs : Int)
    (h : Since job table (.ok result) durationMs (fun _ => True) past) :
    wp W (BooksRows job) (recordSuccess r job.policy summary table result durationMs)
      (fun _ _ _ => True) (fun _ _ _ => True) past state := by
  have hadmits : Op.AdmitsReport Op.Tableless := ⟨fun _ _ _ _ => trivial, rfl, rfl⟩
  have hreport : (r.report table result).Only Op.Tableless :=
    (hr.of.report hadmits table result).mono (fun _ h => h) (fun _ h => h) fun _ _ => trivial
  refine wp_seq (wp_since hreport (Lasting.const True) h) fun _ past state h => ?_
  refine wp_seq (wp_log_books rfl rfl (fun _ _ => .success result rfl rfl rfl rfl) h)
    fun _ past state _ => ?_
  exact wp_writesNoRow (by simp)

/-- The row of an error, which is no lock timeout. -/
theorem record_failure_books_row {err : PgError} {requested : Bool} {kind : OpErrorKind}
    (hkind : classifyOpError err requested = kind) (hother : kind = .lockTimeout ∨ kind = .other)
    (durationMs : Int)
    (h : Since job table (.error err) durationMs (fun behind => ∃ state,
      ⟨state, .shutdownRequested, requested⟩ ∈ behind) past) :
    wp W (BooksRows job) (recordFailure r job.policy summary table err durationMs)
      (fun _ _ _ => True) (fun _ _ _ => True) past state := by
  refine wp_ite.2 ⟨fun _ => wp_writesNoRow (by simp [skipTable]), fun htimeout => ?_⟩
  have hclassified : classifyOpError err requested = .other := by
    rw [hkind]
    refine hother.resolve_left fun hlock => ?_
    rw [hlock] at hkind
    exact htimeout (is_lock_timeout_of_classified hkind)
  refine wp_seq (wp_log_books rfl rfl (fun behind hread => ?_) h) fun _ past state _ => ?_
  · obtain ⟨state, hread⟩ := hread
    exact .error err state requested hread hclassified rfl rfl rfl rfl
  · exact wp_writesNoRow (by simp)

/-- The row of a statement that a shutdown has stopped. -/
theorem handle_shutdown_interrupt_books_row {err : PgError} {requested : Bool}
    (hkind : classifyOpError err requested = .shutdownInterrupted) (durationMs : Int)
    (h : Since job table (.error err) durationMs (fun behind => ∃ state,
      ⟨state, .shutdownRequested, requested⟩ ∈ behind) past) :
    wp W (BooksRows job) (handleShutdownInterrupt r job.policy summary table durationMs)
      (fun _ _ _ => True) (fun _ _ _ => True) past state := by
  have hfacts : Lasting fun behind : Trace W => ∃ state,
      ⟨state, .shutdownRequested, requested⟩ ∈ behind :=
    Lasting.any fun _ => fun _ _ hmem => List.mem_append_left _ hmem
  refine wp_seq (wp_since (by simp [skipTable]) hfacts h) fun _ past state h => ?_
  refine wp_seq (wp_since (by simp) hfacts h) fun closed past state h => ?_
  refine wp_ite.2 ⟨fun _ => trivial, fun _ => ?_⟩
  refine wp_seq (wp_log_books rfl rfl (fun behind hread => ?_) h) fun _ _ _ _ => trivial
  obtain ⟨state, hread⟩ := hread
  cases requested with
  | false => exact (classify_op_error_calm err hkind).elim
  | true => exact .cancelled err state hread hkind rfl rfl rfl rfl

/-- The statement, its retries and its row. -/
theorem maintain_table_books_row (hr : r.Sends job) (count i : Nat) :
    wp W (BooksRows job) (maintainTable r job.policy count i table summary) (fun _ _ _ => True)
      (fun _ _ _ => True) past state := by
  refine wp_ite.2 ⟨fun _ => wp_writesNoRow (by simp), fun _ => ?_⟩
  refine wp_seq wp_now_books fun begun past' state hbegun => ?_
  obtain ⟨first, rfl⟩ := hbegun
  refine wp_seq (wp_tried hr) fun outcome past' state htried => ?_
  obtain ⟨attempts, rfl, htried⟩ := htried
  refine wp_seq wp_now_books fun ended past' state hended => ?_
  obtain ⟨second, rfl⟩ := hended
  -- the attempts stand between the two readings of the clock
  have hbehind : TriedBehind job table outcome ((ended - begun) / 1000000 : Nat) []
      (past ++ [⟨first, .now, begun⟩] ++ attempts ++ [⟨second, .now, ended⟩]) := by
    refine ⟨past, attempts, first, second, begun, ended, ?_, htried, rfl⟩
    simp only [List.append_assoc, List.cons_append, List.nil_append]
  cases outcome with
  | ok result => exact record_success_books_row hr result _ ⟨[], hbehind, by simp, trivial⟩
  | error err =>
      refine wp_seq (R := fun requested past state => Since job table (.error err)
        ((ended - begun) / 1000000 : Nat) (fun behind => ∃ state,
          ⟨state, .shutdownRequested, requested⟩ ∈ behind) past) ?_
        fun requested past state h => ?_
      · exact fun now _ requested after _ => ⟨books_of_writesNoRow trivial,
          [⟨now, .shutdownRequested, requested⟩], hbehind.append, by simp,
          now, List.mem_singleton_self _⟩
      cases hkind : classifyOpError err requested with
      | connectionLost =>
          refine wp_writesNoRow ?_
          exact Prog.Only.bind (by simp [connectionLostError]) fun _ => trivial
      | shutdownInterrupted =>
          exact wp_seq (handle_shutdown_interrupt_books_row hkind _ h) fun _ _ _ _ => trivial
      | lockTimeout => exact record_failure_books_row hkind (.inl rfl) _ h
      | other => exact record_failure_books_row hkind (.inr rfl) _ h

/-- The gates write no row. -/
theorem Op.Deaf.writesNoRow {op : Op} (h : op.Deaf) : op.WritesNoRow := by
  cases op with
  | call c =>
      cases c with
      | insertMaintenanceLog entry => exact h.elim
      | _ => simp
  | _ => simp

/-- The gates write no row. -/
theorem pass_rules_books : PassRules W (BooksRows job) (fun _ _ => True) (fun _ _ => True)
    (fun _ _ _ => True) := by
  have hdeaf : W.Keeps (BooksRows job) Op.Deaf fun _ _ => True := by
    intro past state now _ _ op answer after hop _
    exact ⟨books_of_writesNoRow hop.writesNoRow, trivial⟩
  refine ⟨hdeaf, hdeaf, fun nanoseconds past state _ => ?_, fun _ _ _ _ _ => trivial⟩
  refine fun now _ wake after _ => ⟨books_of_writesNoRow trivial, ?_⟩
  cases wake <;> trivial

/-- A pass of the loop writes no other row. -/
theorem Job.Does.books {pass : PassBody} (h : job.Does pass) (i : Nat) :
    wp W (BooksRows job) (pass i table summary) (fun _ _ _ => True) (fun _ _ _ => True) past
      state := by
  have hread : ∀ (past : Trace W) (state : W.State), True → wp W (BooksRows job)
      (shutdownRequested : RunM Bool)
      (fun requested _ _ => if requested = true then True else True) (fun _ _ _ => True) past
      state := fun past state _ =>
    wp_mono (wp_writesNoRow (by simp)) (fun requested _ _ _ => by rw [ite_self]; trivial)
      fun _ _ _ h => h
  have hskip : ∀ (already : Option (List TableKey)) reason (past : Trace W) (state : W.State),
      True →
      SkipsFor W job.policy already table reason →
      wp W (BooksRows job) (skipTable summary table reason)
        (fun _ _ _ => True) (fun _ _ _ => True) past state :=
    fun _ _ _ _ _ _ => wp_writesNoRow (by simp [skipTable])
  have hvisit : ∀ (past : Trace W) (state : W.State), wp W (BooksRows job)
      (mark (.visit table) : RunM Unit) (fun _ _ _ => True) (fun _ _ _ => True) past state :=
    fun _ _ => wp_writesNoRow (by simp)
  have rules : PassRules W (BooksRows job) (fun _ _ => True) (fun _ _ => True) fun _ _ _ => True :=
    pass_rules_books
  -- one check of the lag gate or two, and neither sends a row
  cases h with
  | once r already count hr =>
      exact rules.gated_pass rules.aside rules.err hread (fun _ _ _ => trivial) (hskip already)
        (hvisit past state) (fun _ _ _ _ _ => maintain_table_books_row hr count i) job.gate
  | twice r already count hr =>
      exact rules.twice_gated_pass rules.aside rules.err hread (fun _ _ _ => trivial)
        (hskip already) (hvisit past state) (fun _ _ _ _ _ => maintain_table_books_row hr count i)
        job.gate

/-- Nor does the loop. -/
theorem Job.Does.sweep_books {pass : PassBody} (h : job.Does pass) (tables : List TableKey) :
    wp W (BooksRows job) (Prog.sweep pass 0 tables summary) (fun _ _ _ => True)
      (fun _ _ _ => True) past state := by
  refine wp_mono (wp_sweep (I := fun _ _ _ _ => True) (D := fun _ _ _ => True) ?_ trivial)
    (fun _ _ _ _ => trivial) fun _ _ _ h => h
  intro done table rest _ i summary past state _
  refine wp_mono (h.books i) (fun flow _ _ _ => ?_) fun _ _ _ h => h
  cases flow <;> trivial

end Runner

/-! ## The rows of a run -/

/-- The widths of `operation`, `mode` and `status` in `CREATE_LOGBOOK_TABLE_SQL`. -/
def LogEntry.Fits (entry : LogEntry) : Prop :=
  entry.operation.length ≤ 32 ∧ entry.mode.length ≤ 32 ∧ entry.status.length ≤ 16

/-- A row about a statement of a phase fits the columns. -/
theorem LogEntry.Sound.fits {entry : LogEntry} {phase : Phase} (h : entry.Sound phase.book) :
    entry.Fits := by
  obtain ⟨hoperation, hmode⟩ := Prod.mk.inj h.columns
  have hstatus : entry.status.length ≤ 16 := by
    cases h.ends with
    | success hstatus => rw [hstatus]; decide
    | error _ hstatus => rw [hstatus]; decide
    | cancelled hstatus => rw [hstatus]; decide
  rw [Fits, hoperation, hmode]
  exact ⟨by cases phase <;> decide, by cases phase <;> decide, hstatus⟩

section Run

variable {W : World session} {settings : RunSettings} {start last : W.State}

/-- What the loops of a run do, and what they book. -/
def DoesJob (job : Job) (tables : List TableKey) (work : Trace W) (m : Moment W) : Prop :=
  m.op.OfTables job tables ∧ BooksRows job work m

/-- Every step of a run is at its start, is about no table, or is such a step of a loop. -/
theorem run_attributed : wp W (Staged start settings fun plan opening =>
      Attributed plan opening DoesJob) (run settings)
    (fun _ _ _ => True) (fun _ _ _ => True) [] start := by
  refine run_staged fun plan opening ready hexec => ?_
  obtain ⟨_, _, hlists⟩ := hexec.returned (setup_lists settings)
  refine run_phases_attributed hlists fun phase pass tables state hpass => ?_
  have hof : wp W (fun _ m => m.op.OfTables (plan.job phase) tables)
      (Prog.sweep pass 0 tables { total := tables.length }) (fun _ _ _ => True)
      (fun _ _ _ => True) [] state :=
    wp_safe (hpass.sweep_of_tables tables _) wp_true fun _ _ h => h
  exact wp_and_safe hof (hpass.sweep_books tables)

/-- A row that a run inserts is one of a real run, in the loop of an enabled phase of its own plan
and about a table that the phase has found: its operation and mode are the phase's, it reports how
the last attempt at the statement of the phase on that table was answered, which is the last thing
that was done to any table, and it fits the columns of the logbook. -/
theorem logbook_row_is_sound {before after : Trace W} {now : Moment W} {q : RunM Nat}
    {entry : LogEntry} (h : Exec W start (run settings) (before ++ now :: after) last q)
    (hrow : now.op = .call (.insertMaintenanceLog entry)) :
    settings.dryRun = false ∧ entry.Fits ∧
      ∃ (plan : Plan) (opening : Trace W) (ready : W.State) (phase : Phase) (found : phase.Found)
        (front : Trace W) (begin : Moment W) (work : Trace W),
        Exec W start (setup settings) opening ready (.pure plan) ∧ plan.settings = settings ∧
        before = opening ++ (front ++ begin :: work) ∧
        begin.op = .mark (.candidates phase (phase.keys plan found)) ∧
        plan.enables phase = true ∧ phase.FoundIn plan opening front found ∧
        (entry.schema, entry.table) ∈ phase.keys plan found ∧ entry.Sound phase.book ∧
        Booked (plan.job phase) work entry := by
  rcases h.safe run_attributed with hopens | ⟨plan, opening, middle, ready, hpast, hexec, hplaced⟩
  · rw [hrow] at hopens
    exact hopens.elim
  obtain htableless | hloop := hplaced
  · rw [hrow] at htableless
    cases htableless
  obtain ⟨phase, found, front, begin, work, hmiddle, hbegin, henabled, hfound, hof, hbooks⟩ := hloop
  rw [hrow] at hof
  have hmem := hof.mem rfl
  obtain ⟨table, -, hreal, hsound, -⟩ := hof
  have hplan := setup_settings hexec
  refine ⟨?_, hsound.fits, plan, opening, ready, phase, found, front, begin, work, hexec, hplan,
    ?_, hbegin, henabled, hfound, hmem, hsound, hbooks entry hrow⟩
  · rw [← hplan]
    exact hreal
  · rw [hpast, hmiddle]

end Run

/-- The row about the only table of a run. -/
def onlyRow : LogEntry :=
  ⟨"public", "t", "VACUUM", "never-vacuumed", "success", none, none, 0, none⟩

/-- It is inserted, fits, and reports how the statement ended. -/
theorem logbook_row_of_one_table : ∃ (before : Trace calm) (m : Moment calm) (after : Trace calm)
    (plan : Plan) (phase : Phase) (work : Trace calm),
    oneTable.trace (defaultSettings [.neverVacuumed] []) = before ++ m :: after ∧
      m.op = .call (.insertMaintenanceLog onlyRow) ∧ onlyRow.Fits ∧
      plan.enables phase = true ∧ Booked (plan.job phase) work onlyRow := by
  have hsome : ((oneTable.trace (defaultSettings [.neverVacuumed] []))[34]?.map (·.op)) =
      some (.call (.insertMaintenanceLog onlyRow)) := by
    decide
  obtain ⟨m, hm, hop⟩ := Option.map_eq_some_iff.1 hsome
  obtain ⟨-, hfits, plan, _, _, phase, _, _, _, work, -, -, -, -, henabled, -, -, -, hbooked⟩ :=
    logbook_row_is_sound (oneTable.exec_at _ hm) hop
  exact ⟨_, m, _, plan, phase, work, trace_split hm, hop, hfits, henabled, hbooked⟩

end PgMaintainer
