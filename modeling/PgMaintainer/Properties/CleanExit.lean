import PgMaintainer.Run.Marks
import PgMaintainer.Shutdown.System

/-!
# Exit code 0 is sound

A runner's loop ends early only when the shutdown flag was seen, and a flag that was seen is
still set at the final check. So a run that exits with 0 has counted every candidate of every
enabled phase, none of them as failed.
-/

namespace PgMaintainer

open Interaction

attribute [local simp] Op.Unmarked

section Trace

variable {W : World session}

/-- The table was maintained, or was left out for a reason of its own. -/
def Tally.Fine : Tally → Prop
  | .succeeded => True
  | .failed => False
  | .skipped reason => reason ≠ .interrupted

/-- The pass counted its table, and not as failed or interrupted. -/
def Entry.Fine (e : Entry) : Prop := ∃ tally, e.2 = some tally ∧ tally.Fine

/-- The loop of a runner over `tables`, whose steps begin `rest`, visited and counted each of
them once and in order, none as failed or interrupted. -/
def Complete (tables : List TableKey) (rest : Trace W) : Prop :=
  ∃ run back entries, rest = run ++ back ∧ run.filterMap marked = loopMarks entries ∧
    entries.map Prod.fst = tables ∧ ∀ e ∈ entries, e.Fine

/-- Every runner that started is complete. -/
def AllComplete (past : Trace W) : Prop :=
  ∀ front start rest phase tables, past = front ++ start :: rest →
    start.op = .mark (.candidates phase tables) → Complete tables rest

/-- The phase's runner was started. -/
def Started (past : Trace W) (phase : Phase) : Prop :=
  ∃ m ∈ past, ∃ tables, m.op = .mark (.candidates phase tables)

variable {past front : Trace W} {start m : Moment W} {tables : List TableKey}
  {entries : List Entry} {table : TableKey} {tally : Tally}

/-- A list that was complete stays so. -/
theorem Complete.append {rest more : Trace W} (h : Complete tables rest) :
    Complete tables (rest ++ more) := by
  obtain ⟨run, back, entries, rfl, hrun⟩ := h
  exact ⟨run, back ++ more, entries, by simp, hrun⟩

/-- A trace with no new start. -/
theorem AllComplete.append (h : AllComplete past) {more : Trace W}
    (hmore : ∀ m ∈ more, ¬StartsRunner m) : AllComplete (past ++ more) := by
  intro front start rest phase tables heq hstart
  rcases List.append_eq_append_iff.1 heq with ⟨gap, rfl, hmore'⟩ | ⟨gap, hpast, hgap⟩
  · exact (hmore start (by simp [hmore']) ⟨_, _, hstart⟩).elim
  · cases gap with
    | nil =>
        obtain rfl : more = start :: rest := by simpa using hgap.symm
        exact (hmore start (by simp) ⟨_, _, hstart⟩).elim
    | cons first gap =>
        obtain ⟨rfl, rfl⟩ : start = first ∧ rest = gap ++ more := by simpa using hgap
        exact (h front start gap phase tables hpast hstart).append

/-- The passes of a loop start no runner. -/
theorem not_starts_of_loop {run : Trace W} (h : run.filterMap marked = loopMarks entries) :
    ∀ m ∈ run, ¬StartsRunner m := by
  rintro m hm ⟨phase, tables, hop⟩
  have hmem : Mark.candidates phase tables ∈ loopMarks entries :=
    h ▸ List.mem_filterMap.2 ⟨m, hm, marked_of_op hop⟩
  obtain ⟨⟨_, tally⟩, _, hmem⟩ := List.mem_flatMap.1 hmem
  cases tally <;> simp at hmem

/-- A runner that has counted all its tables is complete, and so are the ones before it. -/
theorem Stands.allComplete {phase : Phase} (h : Stands front start entries past)
    (hfront : AllComplete front) (hstart : start.op = .mark (.candidates phase tables))
    (htables : entries.map Prod.fst = tables) (hfine : ∀ e ∈ entries, e.Fine) :
    AllComplete past := by
  obtain ⟨run, rfl, hrun⟩ := h
  have hcomplete : Complete tables run := ⟨run, [], entries, by simp, hrun, htables, hfine⟩
  intro front' start' rest phase' tables' heq hstart'
  have hsame : ∀ {last : Trace W}, start = start' ∧ run = last → Complete tables' last := by
    rintro _ ⟨rfl, rfl⟩
    obtain ⟨_, rfl⟩ : phase = phase' ∧ tables = tables' := by simpa [hstart] using hstart'
    exact hcomplete
  rcases List.append_eq_append_iff.1 heq with ⟨gap, rfl, hgap⟩ | ⟨gap, hpast, hgap⟩
  · cases gap with
    | nil => exact hsame (by simpa using hgap)
    | cons first gap =>
        obtain ⟨_, rfl⟩ : start = first ∧ run = gap ++ start' :: rest := by simpa using hgap
        exact (not_starts_of_loop hrun start' (by simp) ⟨_, _, hstart'⟩).elim
  · cases gap with
    | nil => exact hsame (by simpa [eq_comm] using hgap)
    | cons first gap =>
        obtain ⟨rfl, rfl⟩ : start' = first ∧ rest = gap ++ start :: run := by simpa using hgap
        exact (hfront front' start' gap phase' tables' hpast hstart').append

/-- Every pass so far is fine, or the summary tells of a failure. -/
def Told (summary : OperationSummary) (entries : List Entry) : Prop :=
  0 < summary.failed ∨ ∀ e ∈ entries, e.Fine

/-- Before a pass: the passes `done` went on. -/
def Counting (front : Trace W) (start : Moment W) (done : List TableKey)
    (summary : OperationSummary) (past : Trace W) : Prop :=
  ∃ entries, entries.map Prod.fst = done ∧ Stands front start entries past ∧ Told summary entries

variable {summary after : OperationSummary}

/-- The table is counted: fine, or as failed, and then the summary says so. -/
theorem Within.counting (h : Within front start entries table past)
    (htold : Told summary entries) (hm : m.op = .mark (.tally table tally))
    (hle : summary.failed ≤ after.failed) (htally : 0 < after.failed ∨ tally.Fine) :
    Counting front start (entries.map Prod.fst ++ [table]) after (past ++ [m]) := by
  refine ⟨entries ++ [(table, some tally)], by simp, h.count hm, ?_⟩
  rcases htally with htally | htally
  · exact .inl htally
  refine htold.imp (fun h => Nat.lt_of_lt_of_le h hle) fun hfine e he => ?_
  rcases List.mem_append.1 he with he | he
  · exact hfine e he
  · exact List.mem_singleton.1 he ▸ ⟨tally, rfl, htally⟩

end Trace

section Rules

variable {mode : ShutdownMode} {past front : Trace (system mode)} {state : (system mode).State}
  {start : Moment (system mode)} {entries : List Entry} {table : TableKey}
  {summary : OperationSummary} {ε α : Type}

/-- Nothing is asked of single operations. -/
abbrev unasked : Trace (system mode) → Moment (system mode) → Prop := fun _ _ => True

/-- The flag is set. -/
abbrev Flagged (_ : Trace (system mode)) (state : Process) : Prop := state.flag = true

/-- The flag stays set. -/
theorem keeps_flagged {φ : Op → Prop} : (system mode).Keeps unasked φ Flagged :=
  fun _ _ _ hflag hdrift _ _ _ _ hanswer =>
    ⟨trivial, (Process.le_of_answers hanswer).flag ((Process.le_of_drifts hdrift).flag hflag)⟩

/-- The flag stays set, whatever a program does. -/
theorem flagged_stays {p : Prog session ε α} {E : ε → Trace (system mode) → Process → Prop}
    (herr : ∀ err past state, E err past state) (h : Flagged past state) :
    wp (system mode) unasked p (fun _ => Flagged) E past state := by
  have hall : p.Only fun _ => True := by
    induction p with
    | pure => trivial
    | fail => trivial
    | perform op next ih => exact ⟨trivial, fun answer => ih answer⟩
  exact wp_of_only hall keeps_flagged (fun err past state _ => herr err past state) h

/-- A read of the flag as set finds it set. -/
theorem requested_flagged {I : Trace (system mode) → Process → Prop}
    {E : ε → Trace (system mode) → Process → Prop}
    (hI : (system mode).Keeps unasked Op.Gating I) (h : I past state) :
    wp (system mode) unasked (shutdownRequested : Prog session ε Bool)
      (fun requested past state => (requested = true → Flagged past state) ∧ I past state) E
      past state := by
  intro now hdrift requested after hanswer
  have hkeep := hI past state now h hdrift .shutdownRequested requested after trivial hanswer
  obtain ⟨hflag, rfl⟩ := hanswer
  exact ⟨trivial, fun hrequested => hflag.symm.trans hrequested, hkeep.2⟩

/-- The gates as a rule of one pass. -/
theorem gate_rules_within : GateRules (system mode) unasked
    (fun past _ => Within front start entries table past) Flagged (fun _ _ _ => True) where
  aside := keeps_within.mono fun _ h => Op.Aside.unmarked h.aside
  stopped := keeps_flagged.mono fun _ => Op.Gating.aside
  wake _ _ _ _ _ _ _ := fun ⟨hwoken, hafter⟩ => hafter ▸ hwoken rfl
  err _ _ _ _ _ := trivial

/-- How a pass ends: the table is counted, or the flag is set. -/
abbrev Counted (front : Trace (system mode)) (start : Moment (system mode))
    (entries : List Entry) (table : TableKey) (flow : Flow OperationSummary)
    (past : Trace (system mode))
    (state : Process) : Prop :=
  flow.Sat (fun summary => Counting front start (entries.map Prod.fst ++ [table]) summary past)
    (fun _ => Flagged past state)

variable {r : Runner} {statement : Statement} {policy : RunPolicy}

/-- A part of a pass that does not mark. -/
theorem unmarked_within {p : Prog session ε α} (hp : p.Only Op.Unmarked)
    (h : Within front start entries table past) :
    wp (system mode) unasked p (fun _ past _ => Within front start entries table past)
      (fun _ _ _ => True) past state :=
  wp_of_only hp keeps_within (fun _ _ _ _ => trivial) h

/-- The mark of a counter. -/
theorem tally_counting {tally : Tally} {after : OperationSummary}
    (htold : Told summary entries) (hle : summary.failed ≤ after.failed)
    (htally : 0 < after.failed ∨ tally.Fine) (h : Within front start entries table past) :
    wp (system mode) unasked (mark (.tally table tally) : RunM Unit)
      (fun _ past _ => Counting front start (entries.map Prod.fst ++ [table]) after past)
      (fun _ _ _ => True) past state :=
  fun _ _ _ _ _ => ⟨trivial, h.counting htold rfl hle htally⟩

/-- A skipped table is entered into the counts. -/
theorem skip_table_counting {reason : SkipReason} (htold : Told summary entries)
    (hreason : reason ≠ .interrupted) (h : Within front start entries table past) :
    wp (system mode) unasked (skipTable summary table reason)
      (fun summary past _ => Counting front start (entries.map Prod.fst ++ [table]) summary past)
      (fun _ _ _ => True) past state :=
  wp_seq (tally_counting htold le_rfl (.inr hreason) h) fun _ _ _ h => h

/-- So is a table whose statement succeeded. -/
theorem record_success_counted
    (hreport : ∀ table result, (r.report table result).Only Op.Reporting)
    (result : OperationResult) (durationMs : Int) (htold : Told summary entries)
    (h : Within front start entries table past) :
    wp (system mode) unasked (recordSuccess r policy summary table result durationMs)
      (Counted front start entries table) (fun _ _ _ => True) past state := by
  have haside : (r.report table result).Only Op.Aside :=
    (hreport table result).mono (fun _ => Op.Reporting.aside) (fun _ h => h) fun _ h => h
  refine wp_seq (unmarked_within (only_unmarked haside) h) fun _ past state h => ?_
  refine wp_seq (unmarked_within (only_unmarked (log_maintenance_operation_aside ..)) h)
    fun _ past state h => ?_
  exact wp_seq (tally_counting htold le_rfl (.inr trivial) h) fun _ _ _ h => h

/-- So is one whose statement failed, unless the run ends. -/
theorem record_failure_counted (err : PgError) (durationMs : Int) (htold : Told summary entries)
    (h : Within front start entries table past) :
    wp (system mode) unasked (recordFailure r policy summary table err durationMs)
      (Counted front start entries table) (fun _ _ _ => True) past state := by
  refine wp_ite.2 ⟨fun _ => ?_, fun _ => ?_⟩
  · exact wp_seq (skip_table_counting htold (by decide) h) fun _ _ _ h => h
  refine wp_seq (unmarked_within (only_unmarked (log_maintenance_operation_aside ..)) h)
    fun _ past state h => ?_
  exact wp_seq (tally_counting htold (Nat.le_succ _) (.inl (Nat.succ_pos _)) h) fun _ _ _ h => h

/-- However its statement ends, the table is counted, or the flag is set. -/
theorem maintain_table_counted (hr : r.Performs statement) (hreal : policy.dryRun = false)
    (count i : Nat) (htold : Told summary entries) (h : Within front start entries table past) :
    wp (system mode) unasked (maintainTable r policy count i table summary)
      (Counted front start entries table) (fun _ _ _ => True) past state := by
  refine wp_ite.2 ⟨fun hdry => by simp [hreal] at hdry, fun _ => ?_⟩
  refine wp_seq (unmarked_within (by simp) h) fun time past state h => ?_
  have hretry := with_lock_timeout_retry_unmarked policy hr table
  refine wp_seq (unmarked_within hretry.attempt h) fun outcome past state h => ?_
  refine wp_seq (unmarked_within (by simp) h) fun time past state h => ?_
  cases outcome with
  | ok result => exact record_success_counted hr.reporting result _ htold h
  | error err =>
      refine wp_seq (requested_flagged gate_rules_within.aside h) ?_
      rintro requested past state ⟨hflag, h⟩
      cases hkind : classifyOpError err requested with
      | connectionLost =>
          exact wp_seq (unmarked_within (only_unmarked (connection_lost_error_aside ..)) h)
            fun _ _ _ _ => trivial
      | shutdownInterrupted =>
          -- only a request makes an error an interruption
          have hset : requested = true := by
            by_contra hclear
            simp only [Bool.not_eq_true] at hclear
            exact classify_op_error_calm err (hclear ▸ hkind)
          exact wp_seq (flagged_stays (fun _ _ _ => trivial) (hflag hset)) fun _ _ _ h => h
      | lockTimeout => exact record_failure_counted err _ htold h
      | other => exact record_failure_counted err _ htold h

/-- Each pass counts its table, or the flag is set. -/
theorem pass_counted {already : Option (List TableKey)} {body : PassBody}
    (hpass : IsPass policy statement already body) (hreal : policy.dryRun = false) (i : Nat)
    (htold : Told summary entries) (h : Stands front start entries past) :
    wp (system mode) unasked (body i table summary) (Counted front start entries table)
      (fun _ _ _ => True) past state := by
  refine gate_rules_within.pass (J := fun past _ => Within front start entries table past)
    hpass gate_rules_within.aside (fun _ _ _ _ _ => trivial) ?_ (fun _ _ h => h) ?_
    (fun r count past state hr h _ _ => maintain_table_counted hr hreal count i htold h) ?_
  · intro past state h
    refine wp_mono (requested_flagged gate_rules_within.aside h) ?_ fun _ _ _ h => h
    rintro requested past state ⟨hflag, h⟩
    cases requested with
    | true => exact hflag rfl
    | false => exact h
  · intro reason past state h hreason
    refine skip_table_counting htold ?_ h
    rintro rfl
    exact hreason
  · exact fun _ _ _ _ _ => ⟨trivial, h.visit rfl⟩

/-- A runner over `tables`, from a trace whose runners are complete. -/
theorem runner_counted {phase : Phase} {already : Option (List TableKey)}
    {tables : List TableKey} {runner : RunM OperationSummary}
    (hrunner : IsRunner policy phase statement already tables runner)
    (hreal : policy.dryRun = false) (h : AllComplete past) :
    wp (system mode) unasked runner
      (fun summary past' state => Flagged past' state ∨ 0 < summary.failed ∨
        AllComplete past' ∧ Started past' phase ∧ ∀ other, Started past other → Started past' other)
      (fun _ _ _ => True) past state := by
  obtain ⟨body, hbody⟩ := hrunner
  intro now _ answer after _
  refine ⟨trivial, ?_⟩
  let start : Moment (system mode) := ⟨now, .mark (.candidates phase tables), answer⟩
  have hfirst : Counting past start [] { total := tables.length } (past ++ [start]) :=
    ⟨[], rfl, .begin past start, .inr (by simp)⟩
  -- the counts follow the list, or the flag has stopped it
  refine wp_mono (wp_sweep (I := fun done summary trace _ => Counting past start done summary trace)
    (D := fun _ => Flagged) (E := fun _ _ _ => True) ?_ hfirst) ?_ fun _ _ _ h => h
  · rintro _ table _ _ i summary trace _ ⟨entries, rfl, hstands, htold⟩
    exact pass_counted hbody hreal i htold hstands
  · rintro summary trace state (⟨entries, htables, hstands, htold⟩ | hflag)
    · refine htold.elim (fun hfailed => .inr (.inl hfailed)) fun hfine => .inr (.inr ⟨?_, ?_⟩)
      · exact hstands.allComplete h rfl htables hfine
      · obtain ⟨run, rfl, _⟩ := hstands
        refine ⟨⟨start, by simp, tables, rfl⟩, ?_⟩
        rintro other ⟨m, hm, hstart⟩
        exact ⟨m, by simp [hm], hstart⟩
    · exact .inl hflag

/-- Between the phases: unless the flag is set or a table failed, every runner that started is
complete, and the enabled ones of the phases `done` did start. -/
def Accounted (plan : Plan) (done : List Phase) (total : OperationSummary)
    (past : Trace (system mode)) (state : Process) : Prop :=
  Flagged past state ∨ 0 < total.failed ∨
    AllComplete past ∧ ∀ phase ∈ done, plan.enables phase = true → Started past phase

/-- Between the phases nothing is marked. -/
theorem keeps_accounted {plan : Plan} {done : List Phase} {total : OperationSummary} :
    (system mode).Keeps unasked Op.Unmarked (Accounted plan done total) := by
  intro past state now h hdrift op answer after hop hanswer
  refine ⟨trivial, ?_⟩
  rcases h with h | h | ⟨hcomplete, hstarted⟩
  · exact .inl (keeps_flagged past state now h hdrift op answer after hop hanswer).2
  · exact .inr (.inl h)
  · refine .inr (.inr ⟨hcomplete.append ?_, fun phase hphase henabled => ?_⟩)
    · intro m hm
      obtain rfl := List.mem_singleton.1 hm
      rintro ⟨_, _, heq⟩
      exact hop _ heq
    · obtain ⟨m, hm, hstart⟩ := hstarted phase hphase henabled
      exact ⟨m, by simp [hm], hstart⟩

/-- An enabled phase starts and counts all its candidates. -/
theorem phase_accounted {plan : Plan} {done : List Phase} {total : OperationSummary}
    {phase : Phase} {p : Seen → PhaseM} (hp : IsPhase plan phase p)
    (hreal : plan.settings.dryRun = false) (seen : Seen)
    (h : Accounted plan done total past state) :
    wp (system mode) unasked (p seen)
      (fun result => Accounted plan (done ++ [phase]) (total.add result.1)) (fun _ _ _ => True)
      past state := by
  have haside : (system mode).Keeps unasked Op.Aside (Accounted plan done total) :=
    keeps_accounted.mono fun _ => Op.Aside.unmarked
  refine wp_phase_guarded hp (K := Accounted plan done total)
    (Q := fun summary _ => Accounted plan (done ++ [phase]) (total.add summary)) ?_ haside
    (fun _ _ _ _ => trivial) ?_ ?_ h
  · intro past state h
    refine wp_mono (requested_flagged (haside.mono fun _ => Op.Gating.aside) h) ?_ fun _ _ _ h => h
    rintro requested past state ⟨hflag, h⟩
    cases requested with
    | true => exact .inl (hflag rfl)
    | false => exact h
  · -- a disabled phase marks nothing, and none is asked of it
    rintro hdisabled past state (h | h | ⟨hcomplete, hstarted⟩)
    · exact .inl h
    · exact .inr (.inl (Nat.lt_of_lt_of_le h (Nat.le_add_right _ _)))
    · refine .inr (.inr ⟨hcomplete, fun other hother henabled => ?_⟩)
      rcases List.mem_append.1 hother with hother | hother
      · exact hstarted other hother henabled
      · obtain rfl := List.mem_singleton.1 hother
        simp [hdisabled] at henabled
  · rintro tables runner past state hrunner (h | h | ⟨hcomplete, hstarted⟩)
    · exact wp_mono (flagged_stays (fun _ _ _ => trivial) h) (fun _ _ _ h => .inl h)
        fun _ _ _ h _ => h
    · exact wp_mono wp_true
        (fun _ _ _ _ => .inr (.inl (Nat.lt_of_lt_of_le h (Nat.le_add_right _ _))))
        fun _ _ _ h _ => h
    · refine wp_mono (runner_counted hrunner hreal hcomplete) ?_ fun _ _ _ h _ => h
      rintro summary past' state (h | h | ⟨hcomplete, hphase, hothers⟩)
      · exact .inl h
      · exact .inr (.inl (Nat.lt_of_lt_of_le h (Nat.le_add_left _ _)))
      · refine .inr (.inr ⟨hcomplete, fun other hother henabled => ?_⟩)
        rcases List.mem_append.1 hother with hother | hother
        · exact hothers other (hstarted other hother henabled)
        · exact List.mem_singleton.1 hother ▸ hphase

/-- The final check sees the flag, a failure is an error, and 0 is left for the rest. -/
theorem finish_accounted {plan : Plan} {total : OperationSummary}
    (h : Accounted plan Phase.order total past state) :
    wp (system mode) unasked (finish total)
      (fun code past _ => code = 0 → AllComplete past ∧
        ∀ phase, plan.enables phase = true → Started past phase) (fun _ _ _ => True)
      past state := by
  have hkeep : ∀ {p : RunM Unit} {past : Trace (system mode)} {state : Process},
      p.Only Op.Unmarked → Accounted plan Phase.order total past state →
      wp (system mode) unasked p (fun _ => Accounted plan Phase.order total) (fun _ _ _ => True)
        past state := fun hp h => wp_of_only hp keeps_accounted (fun _ _ _ _ => trivial) h
  refine wp_seq (hkeep (by simp) h) fun _ past state h => ?_
  intro now hdrift requested after hanswer
  -- the flag is read as it is, and decides on 130
  have hnext := (keeps_accounted past state now h hdrift .shutdownRequested requested after
    (by simp) hanswer).2
  obtain ⟨hflag, rfl⟩ := hanswer
  refine ⟨trivial, ?_⟩
  cases requested with
  | true => exact fun _ _ _ _ _ => ⟨trivial, fun hzero => by simp at hzero⟩
  | false =>
      refine wp_ite.2 ⟨fun _ => trivial, fun hnone _ => ?_⟩
      rcases hnext with hset | hfailed | ⟨hcomplete, hstarted⟩
      · exact (Bool.false_ne_true (hflag.trans hset)).elim
      · exact (hnone hfailed).elim
      · exact ⟨hcomplete, fun phase => hstarted phase (by cases phase <;> decide)⟩

/-- With the exit code 0 every enabled phase has started and is complete. -/
theorem run_phases_accounted {plan : Plan} (hreal : plan.settings.dryRun = false) :
    wp (system mode) unasked (exitWith (runPhases plan))
      (fun code past _ => code = 0 → AllComplete past ∧
        ∀ phase, plan.enables phase = true → Started past phase) (fun _ _ _ => True) [] state := by
  refine wp_seq_attempt (B := fun _ _ _ => True) ?_ (fun _ _ _ h => h) fun err past state _ => ?_
  · have hfirst : Accounted plan [] {} ([] : Trace (system mode)) state :=
      .inr (.inr ⟨by simp [AllComplete], by simp⟩)
    refine wp_seq (R := fun total => Accounted plan Phase.order total) ?_
      fun total past state h => finish_accounted h
    refine wp_mono (wp_runInOrder (I := fun done total _ => Accounted plan done total)
      (E := fun _ _ _ => True) ?_ hfirst) (fun _ _ _ ⟨_, h⟩ => h) fun _ _ _ h => h
    exact fun done phase _ _ p hp total seen past state h => phase_accounted hp hreal seen h
  · exact fun now _ requested after _ => ⟨trivial, fun hzero => (exit_code_ne_zero _ _ hzero).elim⟩

/-- The process ends as its run does; the second part of a sequence is reached by a value. -/
theorem exit_with_bind {α : Type} (p : RunM α) (f : α → RunM Nat) :
    exitWith (p >>= f) = p.attempt >>= fun result =>
      match result with
      | .ok value => exitWith (f value)
      | .error err => exitWith (.fail err) := by
  simp only [exitWith, Prog.attempt_bind, Prog.bind_assoc]
  refine congrArg (p.attempt >>= ·) (funext fun result => ?_)
  cases result <;> rfl

/-- A process that exits with 0 has been through the setup of the run. -/
theorem split_main {W : World session} {settings : RunSettings} {tr : Trace W}
    {start last : W.State} (h : Exec W start (main settings) tr last (.pure 0)) :
    ∃ plan before after middle, tr = before ++ after ∧
      Exec W start (setup settings) before middle (.pure plan) ∧
      Exec W middle (exitWith (runPhases plan)) after last (.pure 0) := by
  have hseq : main settings = _ := exit_with_bind (setup settings) runPhases
  rw [hseq] at h
  obtain ⟨before, after, middle, result, rfl, hsetup, hrest⟩ := h.split_bind
  cases result with
  | ok plan => exact ⟨plan, before, after, middle, rfl, hsetup.of_attempt, hrest⟩
  | error err =>
      have hcode : wp W (fun _ _ => True) (exitWith (.fail err)) (fun code _ _ => code ≠ 0)
          (fun _ _ _ => True) [] middle :=
        fun _ _ requested _ _ => ⟨trivial, exit_code_ne_zero err requested⟩
      obtain ⟨_, _, hzero⟩ := hrest.returned hcode
      exact (hzero rfl).elim

/-- If the process exits with 0 in a run that is no dry run, then each enabled phase has started
its runner, and each runner that was started has visited and counted all its candidates, in
order and each of them once, none as failed and none as interrupted. -/
theorem exit_zero_is_sound {settings : RunSettings} {start last : Process}
    {tr : Trace (system mode)} (hreal : settings.dryRun = false)
    (h : Exec (system mode) start (main settings) tr last (.pure 0)) :
    ∃ plan before after middle, tr = before ++ after ∧
      Exec (system mode) start (setup settings) before middle (.pure plan) ∧
      (∀ phase, plan.enables phase = true → Started after phase) ∧ AllComplete after := by
  obtain ⟨plan, before, after, middle, rfl, hsetup, hphases⟩ := split_main h
  have hplan : plan.settings = settings := setup_settings hsetup
  obtain ⟨_, _, hsound⟩ := hphases.returned (run_phases_accounted (by rw [hplan, hreal]))
  exact ⟨plan, before, after, middle, rfl, hsetup, (hsound rfl).2, (hsound rfl).1⟩

end Rules

/-- The settings of a run of two phases, and one more for an explicit table. -/
def quietSettings : RunSettings := defaultSettings [.neverVacuumed, .needsVacuum] [⟨"public", "v"⟩]

/-- A server where both phases find `t`, which the second skips, and where the last knows `v`. -/
def quietServer : Server where
  neverVacuumed := [⟨"public", "t", 10, 100, 8192, none⟩]
  needsVacuum := [⟨"public", "t", 10, 100, 8192, none, false⟩]
  needsVacuumMaxThr := [⟨"public", "u", 10000000000, 150000000, 8192, some 0, false⟩,
    ⟨"public", "t", 10, 100, 8192, none, false⟩]
  existing := [("public", "v")]

/-- The trace of a run against this server, without a signal. -/
def quietTrace : Trace (system .finish) :=
  ((main quietSettings).enact (system .finish) ((undisturbed .finish).script quietServer) {}).1

/-- It exits with 0, and its tables are visited and counted. -/
theorem quiet_run_is_sound :
    ∃ (plan : Plan) (before after : Trace (system .finish)) (middle : Process),
      quietTrace = before ++ after ∧
      Exec (system .finish) {} (setup quietSettings) before middle (.pure plan) ∧
      (∀ phase, plan.enables phase = true → Started after phase) ∧ AllComplete after := by
  have hrun : Exec (system .finish) {} (main quietSettings) quietTrace {} (.pure 0) :=
    (undisturbed .finish).exec quietServer quietSettings
  exact exit_zero_is_sound rfl hrun

end PgMaintainer
