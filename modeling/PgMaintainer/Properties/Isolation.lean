import PgMaintainer.Run.GateErrors
import PgMaintainer.Run.Marks
import PgMaintainer.Run.Server

/-!
# One table's failure

Without a shutdown, a statement that fails costs its own table only: it is tried again after a
lock timeout, or its table is counted as skipped or failed, and the loop turns to the next one.
An error of the gates before the statement is a different matter: it ends the run.
-/

namespace PgMaintainer

open Interaction

attribute [local simp] Op.Aside

/-- A call of the statement on `table` fails. -/
def StatementFails {W : World session} (table : TableKey) (err : PgError) (m : Moment W) : Prop :=
  ∃ (state : W.State) (c : Call), m = ⟨state, .call c, .error err⟩ ∧ c.OfStatement table

/-- What follows a statement that failed: it is tried again after a pause, or the table is counted
as skipped, both after a lock timeout only, or the table is counted as failed. -/
inductive Recovers (table : TableKey) (err : PgError) : List Op → Prop where
  | again (nanoseconds : Nat) (c : Call) : isLockTimeout err = true → c.OfStatement table →
      Recovers table err [.shutdownRequested, .sleepOrShutdown nanoseconds, .call c]
  | skipped : isLockTimeout err = true →
      Recovers table err [.now, .shutdownRequested, .mark (.tally table (.skipped .lockTimeout))]
  | failed (row : LogEntry) : isLockTimeout err = false →
      Recovers table err
        [.now, .shutdownRequested, .call (.insertMaintenanceLog row), .mark (.tally table .failed)]

section Trace

variable {W : World session}

/-- The operations of a trace. -/
abbrev ops (tr : Trace W) : List Op := tr.map fun m => m.op

/-- With `next` to come, every statement that failed, and not for a lost connection, except the
one at `but`, is recovered from. -/
def RecoveredBut (but : Option Nat) (past : Trace W) (next : List Op) : Prop :=
  ∀ front m back table err, past = front ++ m :: back → some front.length ≠ but →
    StatementFails table err m → isConnectionLostPg err = false →
    ∃ steps, Recovers table err steps ∧ steps <+: ops back ++ next

/-- Every statement that failed, and not for a lost connection, is recovered from. -/
abbrev Recovered (past : Trace W) : Prop := RecoveredBut none past []

/-- A statement on `table` may come: then all are recovered from. -/
def Armed (table : TableKey) (past : Trace W) : Prop :=
  ∀ c : Call, c.OfStatement table → RecoveredBut none past [.call c]

/-- The statement on `table` failed with `err`, and `since` has followed. -/
def Pending (table : TableKey) (err : PgError) (since : List Op) (past : Trace W) : Prop :=
  ∃ front m back, past = front ++ m :: back ∧ StatementFails table err m ∧ ops back = since ∧
    RecoveredBut (some front.length) past []

variable {past : Trace W} {m : Moment W} {table : TableKey} {err : PgError} {since : List Op}
  {but : Option Nat}

/-- What is excepted may go on. -/
theorem RecoveredBut.more (h : RecoveredBut but past []) (next : List Op) :
    RecoveredBut but past next := by
  intro front m back table err hpast hbut hfails hlost
  obtain ⟨steps, hsteps, hprefix⟩ := h front m back table err hpast hbut hfails hlost
  exact ⟨steps, hsteps, (by simpa using hprefix : steps <+: ops back).trans
    (List.prefix_append _ _)⟩

/-- One more step, which fails no statement that would have to be recovered from. -/
theorem RecoveredBut.step (h : RecoveredBut but past [m.op])
    (hm : ∀ table err, StatementFails table err m → isConnectionLostPg err = false →
      but = some past.length) : RecoveredBut but (past ++ [m]) [] := by
  intro front n back table err hpast hbut hfails hlost
  rcases List.append_eq_append_iff.1 hpast with ⟨gap, rfl, hgap⟩ | ⟨gap, hfront, hgap⟩
  · obtain ⟨rfl, rfl, rfl⟩ : gap = [] ∧ m = n ∧ back = [] := by
      cases gap with
      | nil => simpa [eq_comm] using hgap
      | cons first gap => simp at hgap
    exact (hbut (by simpa using (hm table err hfails hlost).symm)).elim
  · cases gap with
    | nil =>
        obtain ⟨rfl, rfl⟩ : n = m ∧ back = [] := by simpa using hgap
        obtain rfl : past = front := by simpa using hfront
        exact (hbut (hm table err hfails hlost).symm).elim
    | cons first gap =>
        obtain ⟨rfl, rfl⟩ : n = first ∧ back = gap ++ [m] := by simpa using hgap
        obtain ⟨steps, hsteps, hprefix⟩ := h front n gap table err hfront hbut hfails hlost
        exact ⟨steps, hsteps, by simpa [ops] using hprefix⟩

/-- A step that is no failure leaves nothing to recover from. -/
theorem Recovered.next (h : Recovered past) (hm : ∀ table err, ¬StatementFails table err m) :
    Recovered (past ++ [m]) :=
  (h.more _).step fun table err hfails => (hm table err hfails).elim

/-- Where there is nothing to recover from, a statement may come. -/
theorem Recovered.armed (h : Recovered past) : Armed table past := fun _ _ => h.more _

/-- The statement fails. -/
theorem Pending.begin (h : RecoveredBut none past [m.op]) (hfails : StatementFails table err m) :
    Pending table err [] (past ++ [m]) := by
  refine ⟨past, m, [], rfl, hfails, rfl, RecoveredBut.step ?_ fun _ _ _ _ => rfl⟩
  exact fun front n back table err hpast _ => h front n back table err hpast (by simp)

/-- One more step of the recovery. -/
theorem Pending.next (h : Pending table err since past)
    (hm : ∀ table err, ¬StatementFails table err m) :
    Pending table err (since ++ [m.op]) (past ++ [m]) := by
  obtain ⟨front, n, back, rfl, hfails, rfl, hothers⟩ := h
  exact ⟨front, n, back ++ [m], by simp, hfails, by simp,
    (hothers.more _).step fun table err hfails => (hm table err hfails).elim⟩

/-- With what is still to come, it is recovered from. -/
theorem Pending.settled (h : Pending table err since past) {next : List Op}
    (hsteps : Recovers table err (since ++ next)) : RecoveredBut none past next := by
  obtain ⟨front, m, back, rfl, ⟨_, c, hm, hc⟩, rfl, hothers⟩ := h
  intro front' m' back' table' err' hpast _ hfails' hlost'
  by_cases hlength : front'.length = front.length
  · obtain ⟨rfl, hrest⟩ := List.append_inj hpast hlength.symm
    obtain ⟨rfl, rfl⟩ := List.cons.inj hrest
    obtain ⟨_, c', hm', hc'⟩ := hfails'
    obtain ⟨_, hop, herr⟩ := Moment.mk.inj (hm.symm.trans hm')
    obtain rfl : c = c' := Op.call.inj hop
    obtain rfl : err = err' := by simpa using herr
    have htable : table = table' := by
      unfold Call.OfStatement at hc hc'
      split at hc
      · exact hc.symm.trans hc'
      · exact hc.symm.trans hc'
      · exact hc.elim
    exact ⟨_, htable ▸ hsteps, List.prefix_refl _⟩
  · exact hothers.more next front' m' back' table' err' hpast (by simpa using hlength) hfails'
      hlost'

/-- Nothing but a call on a table fails a statement. -/
theorem StatementFails.not_record (h : StatementFails table err m) : ¬m.op.Record := by
  obtain ⟨_, c, rfl, hc⟩ := h
  unfold Call.OfStatement at hc
  split at hc
  · exact id
  · exact id
  · exact hc.elim

end Trace

section Calm

variable {past front : Trace calm} {start : Moment calm} {state : calm.State}
  {entries : List Entry} {table : TableKey} {statement : Statement} {policy : RunPolicy}
  {summary : OperationSummary} {r : Runner} {ε α : Type}

/-- The loop is in the pass over `table`, and every statement so far is recovered from. -/
abbrev Settled (front : Trace calm) (start : Moment calm) (entries : List Entry)
    (table : TableKey) (past : Trace calm) : Prop :=
  Within front start entries table past ∧ Recovered past

/-- What is aside leaves a table settled. -/
theorem keeps_settled : calm.Keeps (fun _ _ => True) Op.Aside fun past _ =>
    Settled front start entries table past := by
  rintro past state now ⟨hwithin, hrecovered⟩ _ op answer after hop _
  exact ⟨trivial, hwithin.next hop.unmarked,
    hrecovered.next fun _ _ hfails => hfails.not_record hop.record⟩

/-- A statement of the pass failed: for a lost connection, or it has to be recovered from. -/
abbrev Failed (front : Trace calm) (start : Moment calm) (entries : List Entry) (table : TableKey)
    (err : PgError) (past : Trace calm) : Prop :=
  Within front start entries table past ∧
    (isConnectionLostPg err = true ∧ Recovered past ∨
      isConnectionLostPg err = false ∧ Pending table err [] past)

/-- A call of the statement. -/
theorem query_failed {c : Call} (hc : c.OfStatement table)
    (hwithin : Within front start entries table past) (h : Armed table past) :
    wp calm (fun _ _ => True) (query c) (fun _ past _ => Settled front start entries table past)
      (fun err past _ => Failed front start entries table err past) past state := by
  refine wp_query.2 fun now _ answer after _ => ⟨trivial, ?_⟩
  have hnext : ∀ answer, Within front start entries table (past ++ [⟨now, .call c, answer⟩]) :=
    fun answer => hwithin.next (by simp [Op.Unmarked])
  cases answer with
  | ok row =>
      refine ⟨hnext _, RecoveredBut.step (h c hc) ?_⟩
      rintro other err ⟨_, c', heq, _⟩
      obtain ⟨-, hop, hanswer⟩ := Moment.mk.inj heq
      obtain rfl : c = c' := Op.call.inj hop
      simp at hanswer
  | error err =>
      refine ⟨hnext _, ?_⟩
      -- a lost connection asks for no recovery
      cases hlost : isConnectionLostPg err with
      | true =>
          refine .inl ⟨rfl, RecoveredBut.step (h c hc) ?_⟩
          rintro other err' ⟨_, c', heq, _⟩ hlost'
          obtain ⟨-, hop, hanswer⟩ := Moment.mk.inj heq
          obtain rfl : c = c' := Op.call.inj hop
          obtain rfl : err = err' := by simpa using hanswer
          simp [hlost] at hlost'
      | false => exact .inr ⟨rfl, .begin (h c hc) ⟨now, c, rfl, hc⟩⟩

/-- A statement fails as the first failure of its table. -/
theorem operation_failed (statement : Statement)
    (hwithin : Within front start entries table past) (h : Armed table past) :
    wp calm (fun _ _ => True) (statement.operation table)
      (fun _ past _ => Settled front start entries table past)
      (fun err past _ => Failed front start entries table err past) past state := by
  have hcall : ∀ {c : Call}, c.OfStatement table → ∀ (past : Trace calm) (state : calm.State),
      Within front start entries table past ∧ Armed table past →
      wp calm (fun _ _ => True) (query c)
        (fun _ past _ => Settled front start entries table past)
        (fun err past _ => Failed front start entries table err past) past state :=
    fun hc _ _ h => query_failed hc h.1 h.2
  have hcount := hcall (c := .getDeadTupleCount table) rfl
  have harmed : ∀ {past : Trace calm}, Settled front start entries table past →
      Within front start entries table past ∧ Armed table past := fun h => ⟨h.1, h.2.armed⟩
  refine wp_operation (P := fun past _ => Within front start entries table past ∧
    Armed table past) (fun past state h => ?_) (hcall rfl) (fun past state h => ?_) ⟨hwithin, h⟩
  · exact wp_mono (hcount past state h) (fun _ _ _ h => harmed h) fun _ _ _ h => h
  · exact hcount past state (harmed h)

/-- A pending statement, and what the clean-up after it has done so far. -/
abbrev Owed (front : Trace calm) (start : Moment calm) (entries : List Entry) (table : TableKey)
    (err : PgError) (since : List Op) (past : Trace calm) : Prop :=
  Within front start entries table past ∧ Pending table err since past

/-- One operation of the clean-up. -/
theorem owed_next {err : PgError} {since : List Op} (op : Op) (hop : op.Aside)
    (h : Owed front start entries table err since past) {E : ε → Trace calm → calm.State → Prop} :
    wp calm (fun _ _ => True) (.request (S := session) op : Prog session ε op.Answer)
      (fun answer past _ => op.Undisturbed answer ∧
        Owed front start entries table err (since ++ [op]) past) E past state :=
  fun _ _ _ _ hanswer => ⟨trivial, hanswer, h.1.next hop.unmarked,
    h.2.next fun _ _ hfails => hfails.not_record hop.record⟩

/-- A lock timeout is tried again after a pause. By induction on the retries left. -/
theorem retry_loop_failed (statement : Statement) (left delayMs : Nat)
    (hwithin : Within front start entries table past) (h : Armed table past) :
    wp calm (fun _ _ => True) (retryLoop (statement.operation table) left delayMs)
      (fun _ past _ => Settled front start entries table past)
      (fun err past _ => Failed front start entries table err past) past state := by
  induction left generalizing delayMs past state with
  | zero => exact operation_failed statement hwithin h
  | succ left ih =>
      refine wp_seq_attempt (operation_failed statement hwithin h) (fun _ _ _ h => h)
        fun err past state h => ?_
      refine wp_ite.2 ⟨fun _ => h, fun hlock => ?_⟩
      replace hlock : isLockTimeout err = true := by simpa using hlock
      obtain ⟨hwithin, ⟨hlost, _⟩ | ⟨hlost, hpending⟩⟩ := h
      · simp [isLockTimeout, code_ne_lock_of_lost hlost] at hlock
      refine wp_seq (owed_next .shutdownRequested trivial ⟨hwithin, hpending⟩) ?_
      rintro requested past state ⟨rfl, howed⟩
      refine wp_ite.2 ⟨fun hrequested => absurd hrequested Bool.false_ne_true, fun _ => ?_⟩
      refine wp_seq (owed_next (.sleepOrShutdown (fromMillis delayMs)) trivial howed) ?_
      rintro wake past state ⟨rfl, hwithin, hpending⟩
      exact ih _ hwithin fun c hc => hpending.settled (.again _ c hlock hc)

/-- A pass that went on: its table is counted, or this is a dry run. -/
def PassDone (policy : RunPolicy) (front : Trace calm) (start : Moment calm)
    (entries : List Entry) (table : TableKey) (past : Trace calm) : Prop :=
  (∃ tally, (tally = none → policy.dryRun = true) ∧
    Stands front start (entries ++ [(table, tally)]) past) ∧ Recovered past

/-- A success settles its table. -/
theorem record_success_settled (hr : r.Performs statement) (result : OperationResult)
    (durationMs : Int) (h : Settled front start entries table past) :
    wp calm (fun _ _ => True) (recordSuccess r policy summary table result durationMs)
      (fun flow past _ => flow.Sat (fun _ => PassDone policy front start entries table past)
        fun _ => False)
      (fun _ past _ => Settled front start entries table past) past state := by
  have hreport : (r.report table result).Only Op.Aside :=
    (hr.reporting table result).mono (fun _ h => h.aside) (fun _ h => h) fun _ h => h
  refine wp_seq (wp_of_only hreport keeps_settled (fun _ _ _ h => h) h) fun _ past state h => ?_
  refine wp_seq (wp_of_only (log_maintenance_operation_aside ..) keeps_settled (fun _ _ _ h => h) h)
    fun _ past state h => ?_
  intro now _ answer after _
  have hrecovered : Recovered (past ++ [⟨now, .mark (.tally table .succeeded), answer⟩]) :=
    h.2.next fun _ _ hfails => hfails.not_record trivial
  exact ⟨trivial, ⟨some .succeeded, nofun, h.1.count rfl⟩, hrecovered⟩

/-- The counter that settles a failed statement. -/
theorem tally_settled {err : PgError} {since : List Op} {tally : Tally}
    (howed : Owed front start entries table err since past)
    (hsteps : Recovers table err (since ++ [.mark (.tally table tally)])) :
    wp calm (fun _ _ => True)
      (.request (S := session) (.mark (.tally table tally)) : RunM Unit)
      (fun _ past _ => PassDone policy front start entries table past)
      (fun _ past _ => Settled front start entries table past) past state := by
  intro now _ answer after _
  have hnext := howed.2.settled hsteps
  have hrecovered : Recovered (past ++ [⟨now, .mark (.tally table tally), answer⟩]) :=
    RecoveredBut.step hnext fun _ _ hfails => (hfails.not_record trivial).elim
  exact ⟨trivial, ⟨some tally, nofun, howed.1.count rfl⟩, hrecovered⟩

/-- A failed statement is counted as skipped after a lock timeout, and as failed otherwise. -/
theorem record_failure_settled (err : PgError) (durationMs : Int) (hreal : policy.dryRun = false)
    (howed : Owed front start entries table err [.now, .shutdownRequested] past) :
    wp calm (fun _ _ => True) (recordFailure r policy summary table err durationMs)
      (fun flow past _ => flow.Sat (fun _ => PassDone policy front start entries table past)
        fun _ => False)
      (fun _ past _ => Settled front start entries table past) past state := by
  refine wp_ite.2 ⟨fun hlock => ?_, fun hlock => ?_⟩
  · have hskip : wp calm (fun _ _ => True) (skipTable summary table .lockTimeout)
        (fun _ past _ => PassDone policy front start entries table past)
        (fun _ past _ => Settled front start entries table past) past state :=
      wp_seq (tally_settled howed (.skipped hlock)) fun _ _ _ h => h
    exact wp_seq hskip fun _ _ _ h => h
  · replace hlock : isLockTimeout err = false := by simpa using hlock
    have hlog : ∀ row, wp calm (fun _ _ => True) (logMaintenanceOperation policy.dryRun row)
        (fun _ past _ => Owed front start entries table err
          [.now, .shutdownRequested, .call (.insertMaintenanceLog row)] past)
        (fun _ past _ => Settled front start entries table past) past state := by
      intro row
      rw [hreal]
      exact wp_seq (owed_next (.call (.insertMaintenanceLog row)) trivial howed)
        fun _ _ _ h => h.2
    refine wp_seq (hlog _) fun _ past state howed => ?_
    exact wp_seq (tally_settled howed (.failed _ hlock)) fun _ _ _ h => h

/-- One table: a pass that goes on, unless the connection is lost. -/
theorem maintain_table_settled (hr : r.Performs statement) (count i : Nat)
    (h : Settled front start entries table past) :
    wp calm (fun _ _ => True) (maintainTable r policy count i table summary)
      (fun flow past _ => flow.Sat (fun _ => PassDone policy front start entries table past)
        fun _ => False)
      (fun _ past _ => Settled front start entries table past) past state := by
  refine wp_ite.2 ⟨fun hdry => ?_, fun hreal => ?_⟩
  · refine wp_seq (wp_of_only (by simp) keeps_settled (fun _ _ _ h => h) h)
      fun _ past state h => ?_
    exact ⟨⟨none, fun _ => hdry, h.1.uncounted⟩, h.2⟩
  refine wp_seq (wp_of_only (by simp) keeps_settled (fun _ _ _ h => h) h)
    fun begun past state h => ?_
  rw [withLockTimeoutRetry, hr.operation]
  refine wp_seq_attempt (retry_loop_failed statement _ _ h.1 h.2.armed)
    (fun result past state h => ?_) fun err past state h => ?_
  · refine wp_seq (wp_of_only (by simp) keeps_settled (fun _ _ _ h => h) h)
      fun ended past state h => ?_
    exact record_success_settled hr result _ h
  -- a lost connection is not recovered from: it ends the run
  obtain ⟨hwithin, ⟨hlost, hrecovered⟩ | ⟨hlost, hpending⟩⟩ := h
  · refine wp_seq (wp_of_only (by simp) keeps_settled (fun _ _ _ h => h)
      ⟨hwithin, hrecovered⟩) fun ended past state h => ?_
    refine wp_seq (R := fun requested past _ => requested = false ∧
      Settled front start entries table past) ?_ ?_
    · intro now hnow answer after hanswer
      exact ⟨trivial, hanswer, (keeps_settled past state now h hnow .shutdownRequested answer after
        trivial hanswer).2⟩
    rintro requested past state ⟨rfl, h⟩
    have hkind : classifyOpError err false = .connectionLost := by simp [classifyOpError, hlost]
    simp only [hkind]
    exact wp_seq (wp_of_only (connection_lost_error_aside ..) keeps_settled (fun _ _ _ h => h) h)
      fun _ _ _ h => h
  · refine wp_seq (owed_next .now trivial ⟨hwithin, hpending⟩) fun ended past state h => ?_
    refine wp_seq (owed_next .shutdownRequested trivial h.2) ?_
    rintro requested past state ⟨rfl, howed⟩
    have hreal : policy.dryRun = false := by simpa using hreal
    have hcalm := classify_op_error_calm err
    cases hkind : classifyOpError err false with
    | connectionLost => simp [classifyOpError, hlost] at hkind; split at hkind <;> simp at hkind
    | shutdownInterrupted => exact (hcalm hkind).elim
    | lockTimeout => exact record_failure_settled err _ hreal howed
    | other => exact record_failure_settled err _ hreal howed

/-- The gates keep all this, and no shutdown cuts their sleep short. -/
theorem settled_rules : GateRules calm (fun _ _ => True)
    (fun past _ => Settled front start entries table past) (fun _ _ => False)
    (fun _ past _ => Settled front start entries table past) where
  aside := keeps_settled.mono fun _ => Op.Gating.aside
  stopped := fun _ _ _ h => h.elim
  wake := by
    intro past state now nanoseconds after _ _ hanswer
    exact absurd (show Wake.shutdown = .slept from hanswer) (by decide)
  err := fun _ _ _ h _ => h

/-- One pass. -/
theorem pass_settled {already : Option (List TableKey)} {body : PassBody} {i : Nat}
    (hpass : IsPass policy statement already body) (hstands : Stands front start entries past)
    (h : Recovered past) :
    wp calm (fun _ _ => True) (body i table summary)
      (fun flow past _ => flow.Sat (fun _ => PassDone policy front start entries table past)
        fun _ => False)
      (fun _ past _ => Settled front start entries table past) past state := by
  refine settled_rules.pass hpass settled_rules.aside settled_rules.err ?_ (fun _ _ h => h.elim)
    ?_ (fun r count past state hr h _ _ => maintain_table_settled hr count i h) ?_
  · intro past state h now hnow answer after hanswer
    obtain rfl : answer = false := hanswer
    exact keeps_settled past state now h hnow .shutdownRequested _ after trivial rfl
  · intro reason past state h _ now _ answer after _
    have hrecovered : Recovered (past ++ [⟨now, .mark (.tally table (.skipped reason)), answer⟩]) :=
      h.2.next fun _ _ hfails => hfails.not_record trivial
    exact ⟨trivial, ⟨some (.skipped reason), nofun, h.1.count rfl⟩, hrecovered⟩
  · intro now _ answer after _
    refine ⟨trivial, hstands.visit rfl, h.next ?_⟩
    rintro other err ⟨_, c, heq, -⟩
    cases heq

end Calm

/-- Every table of `entries` went into a counter, unless this is a dry run. -/
def AllCounted (policy : RunPolicy) (entries : List Entry) : Prop :=
  ∀ e ∈ entries, e.2 = none → policy.dryRun = true

/-- A runner that returned has turned to every candidate and counted it; one that failed did so
with all candidates before the one it failed at. -/
def Turned (policy : RunPolicy) (phase : Phase) (tables : List TableKey) (tr : Trace calm)
    (result : Except AnyError OperationSummary) : Prop :=
  ∃ entries, AllCounted policy entries ∧
    match result with
    | .ok _ => entries.map Prod.fst = tables ∧
        tr.filterMap marked = .candidates phase tables :: loopMarks entries
    | .error _ => ∃ table rest, tables = entries.map Prod.fst ++ table :: rest ∧
        tr.filterMap marked =
          .candidates phase tables :: (loopMarks entries ++ [.visit table])

/-- The loop of a runner, before its next table. -/
def AtTurn (policy : RunPolicy) (phase : Phase) (tables done : List TableKey)
    (past : Trace calm) : Prop :=
  ∃ start entries, start.op = .mark (.candidates phase tables) ∧ entries.map Prod.fst = done ∧
    AllCounted policy entries ∧ Stands [] start entries past ∧ Recovered past

/-- The loop of a runner, after an error in one of its tables. -/
def BrokenOff (policy : RunPolicy) (phase : Phase) (tables : List TableKey)
    (past : Trace calm) : Prop :=
  ∃ start entries table rest, start.op = .mark (.candidates phase tables) ∧
    tables = entries.map Prod.fst ++ table :: rest ∧ AllCounted policy entries ∧
    Settled [] start entries table past

/-- Without a shutdown, every execution of a runner to its end is one of these. -/
theorem runner_settled {phase : Phase} {tables : List TableKey}
    {runner : RunPolicy → RunM OperationSummary} (hrunner : PhaseRunner phase tables runner)
    {policy : RunPolicy} {tr : Trace calm} {result : Except AnyError OperationSummary}
    (h : Exec calm () (runner policy) tr () (.ofExcept result)) :
    Recovered tr ∧ Turned policy phase tables tr result := by
  obtain ⟨statement, already, hisRunner⟩ := hrunner.isRunner
  have hwp : wp calm (fun _ _ => True) (runner policy)
      (fun _ past _ => AtTurn policy phase tables tables past ∨ False)
      (fun _ past _ => BrokenOff policy phase tables past) [] () := by
    refine wp_runner (I := fun done _ past _ => AtTurn policy phase tables done past)
      (D := fun _ _ _ => False) (hisRunner policy) ?_ ?_
    · intro now _ answer after _
      refine ⟨trivial, _, [], rfl, rfl, by simp [AllCounted], .begin [] _, ?_⟩
      have hnone : Recovered ([] : Trace calm) := by
        intro front m back _ _ heq
        simp at heq
      refine hnone.next ?_
      rintro other err ⟨_, c, heq, -⟩
      cases heq
    · rintro body hbody done table rest rfl i summary past state
        ⟨start, entries, hstart, rfl, hcounted, hstands, hrecovered⟩
      refine wp_mono (pass_settled hbody hstands hrecovered) ?_ ?_
      · -- the pass went on, so its table is settled
        rintro (_ | _) past state h
        · obtain ⟨⟨tally, htally, hstands⟩, hrecovered⟩ := h
          refine ⟨start, entries ++ [(table, tally)], hstart, by simp, ?_, hstands, hrecovered⟩
          intro e he
          rcases List.mem_append.1 he with he | he
          · exact hcounted e he
          · obtain rfl := List.mem_singleton.1 he
            exact htally
        · exact h.elim
      · exact fun _ past state h => ⟨start, entries, table, rest, hstart, rfl, hcounted, h⟩
  cases result with
  | ok summary =>
      obtain ⟨_, _, ⟨start, entries, hstart, hdone, hcounted, ⟨run, rfl, hrun⟩, hrecovered⟩ | h⟩ :=
        h.returned hwp
      · exact ⟨hrecovered, entries, hcounted, hdone, by simp [marked_of_op hstart, hrun]⟩
      · exact h.elim
  | error err =>
      obtain ⟨_, _, start, entries, table, rest, hstart, htables, hcounted, ⟨run, rfl, hrun⟩,
        hrecovered⟩ := h.failed hwp
      exact ⟨hrecovered, entries, hcounted, table, rest, htables,
        by simp [marked_of_op hstart, hrun]⟩

/-- Without a shutdown, whatever statement of a runner fails, unless the connection is lost: it is
tried again, or its table is counted as skipped or failed, and the loop turns to the next table.
A call of the gates that fails ends the runner. This is so in every execution of each runner. -/
theorem one_failure_costs_one_table {phase : Phase} {tables : List TableKey}
    {runner : RunPolicy → RunM OperationSummary} (hrunner : PhaseRunner phase tables runner)
    (policy : RunPolicy) (tr : Trace calm) (result : Except AnyError OperationSummary)
    (h : Exec calm () (runner policy) tr () (.ofExcept result)) :
    Recovered tr ∧ Turned policy phase tables tr result ∧
      ∀ front m back, tr = front ++ m :: back → m.op.GateFails m.answer →
        back = [] ∧ ∃ err, result = .error err := by
  obtain ⟨hrecovered, hturned⟩ := runner_settled hrunner h
  refine ⟨hrecovered, hturned, ?_⟩
  rintro front m back rfl hfails
  obtain ⟨statement, already, hisRunner⟩ := hrunner.isRunner
  obtain ⟨hnil, err, herr⟩ := h.aborted (runner_aborts (hisRunner policy)) hfails
  refine ⟨hnil, err, ?_⟩
  cases result with
  | ok summary => cases herr
  | error error => exact congrArg Except.error (Prog.fail.inj herr)

/-- Two tables that were never vacuumed. -/
def neverVacuumed : List TableInfo :=
  [⟨"public", "t", 10, 0, 8192, none⟩, ⟨"public", "u", 10, 0, 8192, none⟩]

/-- A real run that does not retry. -/
def onceOnly : RunPolicy := ⟨false, false, false, false, 10, 0, 50⟩

/-- The runner over the two tables. -/
def overBoth (policy : RunPolicy) : RunM OperationSummary :=
  runVacuumNeverVacuumed neverVacuumed policy ⟨true, false, false, none, none⟩ none

/-- An error that is neither a lost connection nor a lock timeout. -/
def denied : PgError := .db "42501" "permission denied"

/-- A server that refuses to vacuum the first table. -/
def refusing : (op : Op) → op.Answer
  | .call (.maintain _ ("public", "t")) => .error denied
  | op => oneTable.answer op

/-- The server neither loses the connection nor hears of a shutdown. -/
theorem refusing_undisturbed (op : Op) : op.Undisturbed (refusing op) := by
  unfold refusing
  split
  · trivial
  · exact oneTable.answer_undisturbed _

/-- A server that refuses to show its sessions. -/
def unreadable : (op : Op) → op.Answer
  | .call (.findActiveVacuums _) => .error denied
  | op => oneTable.answer op

/-- Nor does the second one. -/
theorem unreadable_undisturbed (op : Op) : op.Undisturbed (unreadable op) := by
  unfold unreadable
  split
  · trivial
  · exact oneTable.answer_undisturbed _

/-- The refused statement is counted, and the second table is vacuumed. -/
theorem refused_table_is_counted : ∃ tr : Trace calm,
    Recovered tr ∧ tr.filterMap marked =
      [.candidates .neverVacuumed [("public", "t"), ("public", "u")], .visit ("public", "t"),
        .tally ("public", "t") .failed, .visit ("public", "u"),
        .tally ("public", "u") .succeeded] := by
  have hexec := exec_answers refusing_undisturbed (overBoth onceOnly)
  exact ⟨_, (one_failure_costs_one_table (.neverVacuumed neverVacuumed _ none) onceOnly _ _
    hexec).1, rfl⟩

/-- A probe that fails costs the other tables too: the first is not counted, and the second is
never visited. -/
theorem failed_probe_costs_the_rest : ∃ (tr : Trace calm) (err : AnyError),
    Exec calm () (overBoth onceOnly) tr () (.fail err) ∧
      ⟨(), .call (.findActiveVacuums ("public", "t")), .error denied⟩ ∈ tr ∧
      isConnectionLostPg denied = false ∧
      tr.filterMap marked =
        [.candidates .neverVacuumed [("public", "t"), ("public", "u")],
          .visit ("public", "t")] := by
  have hexec := exec_answers unreadable_undisturbed (overBoth onceOnly)
  exact ⟨_, _, hexec, List.mem_iff_getElem?.2 ⟨4, rfl⟩, rfl, rfl⟩

end PgMaintainer
