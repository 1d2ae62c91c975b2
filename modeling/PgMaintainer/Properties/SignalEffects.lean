import PgMaintainer.Run.Passes
import PgMaintainer.Shutdown.System

/-!
# A signal's own effects are no failures

The watcher acts only after the handlers have set both flags. So a statement that it cancelled,
or whose session it terminated, fails with the shutdown flag set: the table is counted as
skipped, the loop ends, no later phase starts, and the final check sees the flag.
-/

namespace PgMaintainer

open Interaction

attribute [local simp] Op.Record

variable {mode : ShutdownMode}

/-- The statement on `table` fails because the watcher cancelled it or terminated its session. -/
def Stricken (table : TableKey) (m : Moment (system mode)) : Prop :=
  ∃ (state : Process) (c : Call) (err : PgError), m = ⟨state, .call c, .error err⟩ ∧
    c.OfStatement table ∧
    (err.code = some queryCanceled ∧ state.cancelled = true ∨
      isConnectionLostPg err = true ∧ state.terminated = true)

/-- Operations that neither work on a table, nor mark, nor report a lost connection. -/
def Op.Untold : Op → Prop
  | .call c => ∀ table, ¬c.OfStatement table
  | .mark _ | .log (.connectionLost _) => False
  | _ => True

/-- What the `n`-th operation after a stricken statement is: the table is counted as skipped, and
then nothing is told of any table. -/
def Aftermath (table : TableKey) (n : Nat) (op : Op) : Prop :=
  match n with
  | 0 => op = .now
  | 1 => op = .shutdownRequested
  | 2 => op = .mark (.tally table (.skipped .interrupted))
  | _ => op.Untold

/-- This step follows every stricken statement as it should. -/
def Heeds (past : Trace (system mode)) (m : Moment (system mode)) : Prop :=
  ∀ (i : Nat) (s : Moment (system mode)) (table : TableKey), past[i]? = some s →
    Stricken table s → Aftermath table (past.length - i - 1) m.op

/-- The final check of the flag finds it set. -/
def CheckedSet (past : Trace (system mode)) : Prop :=
  ∃ (i : Nat) (line check : Moment (system mode)), past[i]? = some line ∧ line.op.Completes ∧
    past[i + 1]? = some check ∧ check.op = .shutdownRequested ∧ check.state.flag = true

/-- No statement was stricken, and the end of the run was not reported. -/
structure Unstruck (past : Trace (system mode)) : Prop where
  spared : ∀ m ∈ past, ∀ table, ¬Stricken table m
  open_ : ∀ m ∈ past, ¬m.op.Completes

/-- The statement on `table` was stricken, as the only one, `n` operations ago. -/
structure Struck (table : TableKey) (n : Nat) (past : Trace (system mode)) (state : Process) :
    Prop where
  flag : state.flag = true
  split : ∃ front s gap, past = front ++ s :: gap ∧ Unstruck front ∧ Stricken table s ∧
    Unstruck gap ∧ gap.length = n

section Trace

variable {past : Trace (system mode)} {m : Moment (system mode)} {table other : TableKey}
  {state : Process}

/-- A statement is one table's. -/
theorem Stricken.same (h : Stricken table m) (h' : Stricken other m) : table = other := by
  obtain ⟨_, c, _, rfl, hc, _⟩ := h
  obtain ⟨_, c', _, heq, hc', _⟩ := h'
  obtain ⟨-, hop, -⟩ := Moment.mk.inj heq
  obtain rfl : c = c' := Op.call.inj hop
  unfold Call.OfStatement at hc hc'
  split at hc
  · exact hc.symm.trans hc'
  · exact hc.symm.trans hc'
  · exact hc.elim

/-- Only a call on a table can be stricken. -/
theorem Stricken.not_record (h : Stricken table m) : ¬m.op.Record := by
  obtain ⟨_, c, _, rfl, hc, _⟩ := h
  unfold Call.OfStatement at hc
  split at hc
  · exact id
  · exact id
  · exact hc.elim

/-- At first nothing was stricken. -/
theorem Unstruck.nil : Unstruck ([] : Trace (system mode)) := ⟨by simp, by simp⟩

/-- A step that strikes no statement and does not end the run. -/
theorem Unstruck.next (h : Unstruck past) (hspared : ∀ table, ¬Stricken table m)
    (hopen : ¬m.op.Completes) : Unstruck (past ++ [m]) where
  spared n hn := by
    rcases List.mem_append.1 hn with hn | hn
    · exact h.spared n hn
    · exact List.mem_singleton.1 hn ▸ hspared
  open_ n hn := by
    rcases List.mem_append.1 hn with hn | hn
    · exact h.open_ n hn
    · exact List.mem_singleton.1 hn ▸ hopen

/-- What happens around a statement does not report the end of the run. -/
theorem Op.Record.not_completes {op : Op} (h : op.Record) : ¬op.Completes := by
  unfold Op.Completes
  split
  · exact fun _ => h
  · exact id

/-- Nor does it strike a statement. -/
theorem Unstruck.record (h : Unstruck past) (hm : m.op.Record) : Unstruck (past ++ [m]) :=
  h.next (fun _ hstricken => hstricken.not_record hm) hm.not_completes

/-- Without a stricken statement there is nothing to heed. -/
theorem Unstruck.heeds (h : Unstruck past) : Heeds past m := fun _ s table hi hs =>
  (h.spared s (List.mem_of_getElem? hi) table hs).elim

/-- There is one stricken statement to heed. -/
theorem Struck.heeds {n : Nat} (h : Struck table n past state) (hm : Aftermath table n m.op) :
    Heeds past m := by
  obtain ⟨front, s, gap, rfl, hfront, hs, hgap, rfl⟩ := h.split
  intro i s' other hi hs'
  rcases Nat.lt_trichotomy i front.length with hlt | rfl | hlt
  · rw [List.getElem?_append_left hlt] at hi
    exact (hfront.spared s' (List.mem_of_getElem? hi) other hs').elim
  · obtain rfl : s = s' := by simpa using hi
    obtain rfl := hs.same hs'
    simpa using hm
  · rw [List.getElem?_append_right (by omega), List.getElem?_cons, if_neg (by omega)] at hi
    exact (hgap.spared s' (List.mem_of_getElem? hi) other hs').elim

/-- One operation later the statement is still the only one that was stricken. -/
theorem Struck.next {n : Nat} {after : Process} (h : Struck table n past state)
    (hle : state.Le after) (hspared : ∀ table, ¬Stricken table m) (hopen : ¬m.op.Completes) :
    Struck table (n + 1) (past ++ [m]) after := by
  obtain ⟨front, s, gap, rfl, hfront, hs, hgap, rfl⟩ := h.split
  exact ⟨hle.flag h.flag, front, s, gap ++ [m], by simp, hfront, hs, hgap.next hspared hopen,
    by simp⟩

/-- Every stricken statement has been dealt with. -/
def Dealt (past : Trace (system mode)) : Prop :=
  ∀ (i : Nat) (s : Moment (system mode)) (table : TableKey), past[i]? = some s →
    Stricken table s → i + 3 < past.length

/-- Where nothing was stricken there is nothing to deal with. -/
theorem Unstruck.dealt (h : Unstruck past) : Dealt past := fun _ s table hi hs =>
  (h.spared s (List.mem_of_getElem? hi) table hs).elim

/-- After three operations a stricken statement has been dealt with. -/
theorem Struck.dealt {n : Nat} (h : Struck table n past state) (hn : 3 ≤ n) : Dealt past := by
  obtain ⟨front, s, gap, rfl, hfront, -, hgap, rfl⟩ := h.split
  intro i s' other hi hs'
  rcases Nat.lt_trichotomy i front.length with hlt | rfl | hlt
  · rw [List.getElem?_append_left hlt] at hi
    exact (hfront.spared s' (List.mem_of_getElem? hi) other hs').elim
  · simp
    omega
  · rw [List.getElem?_append_right (by omega), List.getElem?_cons, if_neg (by omega)] at hi
    exact (hgap.spared s' (List.mem_of_getElem? hi) other hs').elim

/-- Whatever tells of no table may follow then. -/
theorem Dealt.heeds (h : Dealt past) (hm : m.op.Untold) : Heeds past m := by
  intro i s table hi hs
  have hlt := h i s table hi hs
  obtain ⟨n, hn⟩ : ∃ n, past.length - i - 1 = n + 3 := ⟨past.length - i - 4, by omega⟩
  rw [hn]
  exact hm

/-- The next step leaves nothing to deal with, unless it is stricken itself. -/
theorem Dealt.next (h : Dealt past) (hspared : ∀ table, ¬Stricken table m) :
    Dealt (past ++ [m]) := by
  intro i s table hi hs
  have hlt : i < past.length := by
    by_contra hge
    rw [List.getElem?_append_right (by omega)] at hi
    exact hspared table (List.mem_singleton.1 (List.mem_of_getElem? hi) ▸ hs)
  rw [List.getElem?_append_left hlt] at hi
  have := h i s table hi hs
  simp
  omega

end Trace

section Rules

variable {past : Trace (system mode)} {state : (system mode).State} {table : TableKey} {ε α : Type}

/-- Nothing was stricken so far. -/
abbrev Spared (past : Trace (system mode)) (state : Process) : Prop :=
  state.Sound ∧ Unstruck past

/-- A statement was stricken, and dealt with. -/
def Over (past : Trace (system mode)) (state : Process) : Prop :=
  ∃ table n, 3 ≤ n ∧ Struck table n past state

/-- What happens around a statement strikes none. -/
theorem keeps_spared : (system mode).Keeps Heeds Op.Record Spared := by
  rintro past state now ⟨hsound, hunstruck⟩ hdrift op answer after hop hanswer
  exact ⟨hunstruck.heeds, (hsound.drifts hdrift).answers hanswer, hunstruck.record hop⟩

/-- An operation that tells nothing, after a statement was stricken. -/
theorem keeps_over : (system mode).Keeps Heeds (fun op => op.Aside ∧ op.Untold) Over := by
  rintro past state now ⟨table, n, hn, hstruck⟩ hdrift op answer after ⟨haside, huntold⟩ hanswer
  have hle := (Process.le_of_drifts hdrift).trans (Process.le_of_answers hanswer)
  refine ⟨(hstruck.dealt hn).heeds huntold, table, n + 1, by omega, hstruck.next hle ?_ ?_⟩
  · exact fun _ hstricken => hstricken.not_record haside.record
  · exact haside.not_completes

/-- How a table's statement fails. -/
def Fails (table : TableKey) (err : PgError) (past : Trace (system mode)) (state : Process) :
    Prop :=
  Spared past state ∨ Struck table 0 past state ∧
    (err.code = some queryCanceled ∨ isConnectionLostPg err = true)

/-- A stricken statement is not tried again. -/
theorem not_lock_timeout {err : PgError}
    (h : err.code = some queryCanceled ∨ isConnectionLostPg err = true) :
    isLockTimeout err = false := by
  rcases h with h | h
  · simp [isLockTimeout, h, queryCanceled, lockNotAvailable]
  · simp [isLockTimeout, code_ne_lock_of_lost h]

/-- A call of a statement. If it is stricken, the watcher has acted, so the flag is set. -/
theorem query_fails {c : Call} (hc : c.OfStatement table) (h : Spared past state) :
    wp (system mode) Heeds (query c) (fun _ => Spared) (Fails table) past state := by
  obtain ⟨hsound, hunstruck⟩ := h
  refine wp_query.2 fun now hdrift answer after hanswer => ⟨hunstruck.heeds, ?_⟩
  have hnow := hsound.drifts hdrift
  have hafter := hnow.answers hanswer
  have hopen : ¬Op.Completes (.call c) := id
  cases answer with
  | ok row =>
      refine ⟨hafter, hunstruck.next ?_ hopen⟩
      rintro other ⟨_, c', err, heq, _⟩
      obtain ⟨-, hop, hanswer⟩ := Moment.mk.inj heq
      obtain rfl : c = c' := Op.call.inj hop
      simp at hanswer
  | error err =>
      -- an error is the watcher's doing, or any other
      by_cases hstricken : ∃ other, Stricken other ⟨now, .call c, .error err⟩
      · obtain ⟨other, hstricken⟩ := hstricken
        have hself := hstricken
        obtain ⟨_, c', err', heq, hc', hby⟩ := hstricken
        obtain ⟨rfl, hop, herr⟩ := Moment.mk.inj heq
        obtain rfl : c = c' := Op.call.inj hop
        obtain rfl : err = err' := by simpa using herr
        have hother : other = table := by
          unfold Call.OfStatement at hc hc'
          split at hc
          · exact hc'.symm.trans hc
          · exact hc'.symm.trans hc
          · exact hc.elim
        subst hother
        have hflag := hnow.acted (hby.imp And.right And.right)
        exact .inr ⟨⟨(Process.le_of_answers hanswer).flag hflag, past, _, [], rfl, hunstruck, hself,
          .nil, rfl⟩, hby.imp And.left And.left⟩
      · exact .inl ⟨hafter, hunstruck.next (fun other h => hstricken ⟨other, h⟩) hopen⟩

/-- A statement fails stricken, or nothing was. -/
theorem operation_fails (statement : Statement) (h : Spared past state) :
    wp (system mode) Heeds (statement.operation table) (fun _ => Spared) (Fails table) past
      state := by
  have hcall : ∀ {c : Call}, c.OfStatement table → ∀ past state, Spared past state →
      wp (system mode) Heeds (query c) (fun _ => Spared) (Fails table) past state :=
    fun hc _ _ h => query_fails hc h
  exact wp_operation (hcall rfl) (hcall rfl) (hcall rfl) h

/-- By induction on the retries left. -/
theorem retry_loop_fails (statement : Statement) (table : TableKey) (left delayMs : Nat)
    (h : Spared past state) :
    wp (system mode) Heeds (retryLoop (statement.operation table) left delayMs) (fun _ => Spared)
      (Fails table) past state := by
  induction left generalizing delayMs past state with
  | zero => exact operation_fails statement h
  | succ left ih =>
      refine wp_seq_attempt (operation_fails statement h) (fun _ _ _ h => h)
        fun err past state h => ?_
      refine wp_ite.2 ⟨fun _ => h, fun hlock => ?_⟩
      rcases h with h | ⟨_, hkind⟩
      · refine wp_seq (wp_of_only (by simp) keeps_spared (fun _ _ _ => .inl) h)
          fun requested past state h => ?_
        refine wp_ite.2 ⟨fun _ => .inl h, fun _ => ?_⟩
        refine wp_seq (wp_of_only (by simp) keeps_spared (fun _ _ _ => .inl) h)
          fun wake past state h => ?_
        cases wake with
        | shutdown => exact .inl h
        | slept => exact ih _ h
      · simp [not_lock_timeout hkind] at hlock

/-- How a pass ends. -/
abbrev PassEnd (flow : Flow OperationSummary) (past : Trace (system mode)) (state : Process) :
    Prop :=
  flow.Sat (fun _ => Spared past state) (fun _ => Spared past state ∨ Over past state)

variable {r : Runner} {statement : Statement} {policy : RunPolicy} {summary : OperationSummary}

/-- A program of records, without a stricken statement. -/
theorem record_spared {p : Prog session AnyError α} (hp : p.Only Op.Record)
    (h : Spared past state) :
    wp (system mode) Heeds p (fun _ => Spared) (fun _ => Spared) past state :=
  wp_of_only hp keeps_spared (fun _ _ _ h => h) h

/-- The outcome of a statement that was not stricken. -/
theorem record_outcome
    (hreport : ∀ table result,
      (r.report table result).All Op.Reporting (fun _ => True) (fun _ => False))
    (outcome : Except PgError OperationResult) (count i : Nat) (durationMs : Int)
    (h : Spared past state) :
    wp (system mode) Heeds
      (match outcome with
        | .ok result => recordSuccess r policy summary table result durationMs
        | .error err => do
          match classifyOpError err (← shutdownRequested) with
          | .connectionLost =>
            .fail (← connectionLostError r.name table (some (i + 1, count)) (describePgError err))
          | .shutdownInterrupted => do
            pure (.stop (← handleShutdownInterrupt r policy summary table durationMs))
          | .lockTimeout | .other => recordFailure r policy summary table err durationMs)
      PassEnd (fun _ => Spared) past state := by
  have hnext : ∀ {p : Pass}, p.All Op.Record Flow.GoesOn (fun _ => False) →
      ∀ {past : Trace (system mode)} {state : Process}, Spared past state →
      wp (system mode) Heeds p PassEnd (fun _ => Spared) past state := by
    intro p hp past state h
    refine wp_mono (wp_of_all hp keeps_spared h) (fun flow past state h => ?_) fun _ _ _ h => h.2
    cases flow with
    | next => exact h.2
    | stop => exact h.1.elim
  cases outcome with
  | ok result => exact hnext (record_success_record hreport result _) h
  | error err =>
      refine wp_seq (record_spared (by simp) h) fun requested past state h => ?_
      cases classifyOpError err requested with
      | connectionLost =>
          exact wp_seq (record_spared (only_record (connection_lost_error_aside ..)) h)
            fun _ _ _ h => h
      | shutdownInterrupted =>
          exact wp_seq (record_spared (handle_shutdown_interrupt_record _) h) fun _ _ _ h => .inl h
      | lockTimeout => exact hnext (record_failure_record err _) h
      | other => exact hnext (record_failure_record err _) h

/-- The next operation after a stricken statement. -/
theorem struck_next {n : Nat} {op : Op} {answer : op.Answer} {now after : Process}
    (h : Struck table n past state) (hdrift : (system mode).Drifts state now)
    (hanswer : now.Answers mode op answer after) (hop : op.Record) :
    Struck table (n + 1) (past ++ [⟨now, op, answer⟩]) after :=
  h.next ((Process.le_of_drifts hdrift).trans (Process.le_of_answers hanswer))
    (fun _ hstricken => hstricken.not_record hop) (Op.Record.not_completes hop)

/-- The flag is set, and is read as set. -/
theorem struck_requested {E : ε → Trace (system mode) → Process → Prop}
    (h : Struck table 1 past state) :
    wp (system mode) Heeds (shutdownRequested : Prog session ε Bool)
      (fun requested past state => requested = true ∧ Struck table 2 past state) E past state := by
  intro now hdrift answer after hanswer
  refine ⟨h.heeds rfl, ?_, struck_next h hdrift hanswer trivial⟩
  exact hanswer.1.trans ((Process.le_of_drifts hdrift).flag h.flag)

/-- With the flag set, the error counts as an interruption. -/
theorem classify_stricken {err : PgError}
    (h : err.code = some queryCanceled ∨ isConnectionLostPg err = true) :
    classifyOpError err true = .shutdownInterrupted := by
  rcases h with h | h <;> simp [classifyOpError, h]

/-- The interruption is counted, and recorded if the session survived. -/
theorem handle_shutdown_interrupt_over (durationMs : Int) (h : Struck table 2 past state) :
    wp (system mode) Heeds (handleShutdownInterrupt r policy summary table durationMs)
      (fun _ => Over) (fun _ => Spared) past state := by
  refine wp_seq (R := fun _ => Over) ?_ fun summary past state h => ?_
  · intro now hdrift answer after hanswer
    exact ⟨h.heeds rfl, table, 3, le_rfl, struck_next h hdrift hanswer trivial⟩
  have hover : ∀ {α : Type} {p : RunM α} {past : Trace (system mode)} {state : Process},
      p.All (fun op => op.Aside ∧ op.Untold) (fun _ => True) (fun _ => False) → Over past state →
      wp (system mode) Heeds p (fun _ => Over) (fun _ => Spared) past state :=
    fun hp h => wp_mono (wp_of_all hp keeps_over h) (fun _ _ _ h => h.2) fun _ _ _ h => h.1.elim
  refine wp_seq (hover (by simp [Op.Aside, Op.Untold]) h) fun closed past state h => ?_
  refine wp_ite.2 ⟨fun _ => h, fun _ => ?_⟩
  refine wp_seq (hover ?_ h) fun _ _ _ h => h
  simp [logMaintenanceOperation, Op.Aside, Op.Untold, Call.OfStatement]

/-- After its statement a pass goes on, or breaks off with the table counted as interrupted. -/
theorem maintain_table_ends (hr : r.Performs statement) (count i : Nat) (h : Spared past state) :
    wp (system mode) Heeds (maintainTable r policy count i table summary) PassEnd
      (fun _ => Spared) past state := by
  refine wp_ite.2 ⟨fun _ => ?_, fun _ => ?_⟩
  · exact wp_seq (record_spared (by simp) h) fun _ _ _ h => h
  refine wp_seq (record_spared (by simp) h) fun start past state h => ?_
  have hretry := retry_loop_fails statement table policy.lockTimeoutRetries
    policy.lockTimeoutRetryDelayMs h
  rw [← hr.operation] at hretry
  refine wp_seq_attempt (A := fun _ => Spared) (B := Fails table) hretry
    (fun result past state h => ?_) fun err past state h => ?_
  · refine wp_seq (record_spared (by simp) h) fun time past state h => ?_
    exact record_outcome hr.report (.ok result) count i _ h
  rcases h with h | ⟨hstruck, hkind⟩
  · refine wp_seq (record_spared (by simp) h) fun time past state h => ?_
    exact record_outcome hr.report (.error err) count i _ h
  refine wp_seq (R := fun _ => Struck table 1) ?_ fun time past state h => ?_
  · intro now hdrift answer after hanswer
    exact ⟨hstruck.heeds rfl, struck_next hstruck hdrift hanswer trivial⟩
  refine wp_seq (struck_requested h) ?_
  rintro _ past state ⟨rfl, h⟩
  rw [classify_stricken hkind]
  exact wp_seq (handle_shutdown_interrupt_over _ h) fun _ _ _ h => .inr h

/-- The gates strike nothing. -/
theorem gate_rules_spared : GateRules (system mode) Heeds Spared Spared (fun _ => Spared) where
  aside := keeps_spared.mono fun _ h => h.aside.record
  stopped := keeps_spared.mono fun _ h => h.aside.record
  wake past state now nanoseconds after h hdrift hanswer :=
    (keeps_spared past state now h hdrift (.sleepOrShutdown nanoseconds) .shutdown after trivial
      hanswer).2
  err _ _ _ h _ := h

/-- A mark strikes nothing. -/
theorem mark_spared {m : Mark} (h : Spared past state) :
    wp (system mode) Heeds (mark m : RunM Unit) (fun _ => Spared) (fun _ => Spared) past state := by
  intro now hdrift answer after (hanswer : Process.Answers mode now (.mark m) answer after)
  refine ⟨h.2.heeds, (h.1.drifts hdrift).answers hanswer, h.2.next ?_ id⟩
  rintro _ ⟨_, _, _, heq, _⟩
  obtain ⟨-, hop, -⟩ := Moment.mk.inj heq
  exact Op.noConfusion hop

/-- A pass goes on only where nothing was stricken. -/
theorem pass_ends {already : Option (List TableKey)} {body : PassBody}
    (hpass : IsPass policy statement already body) (i : Nat) (h : Spared past state) :
    wp (system mode) Heeds (body i table summary) PassEnd (fun _ => Spared) past state := by
  refine gate_rules_spared.pass (J := Spared) hpass gate_rules_spared.aside gate_rules_spared.err ?_
    (fun _ _ => .inl) ?_ (fun r count past state hr h _ _ => maintain_table_ends hr count i h)
    (mark_spared h)
  · intro past state h
    refine wp_mono (record_spared (by simp) h) (fun requested past state h => ?_)
      fun _ _ _ h => h
    cases requested <;> exact h
  · exact fun reason past state h _ => record_spared (skip_table_record reason) h

/-- Between the phases. -/
abbrev Between (past : Trace (system mode)) (state : Process) : Prop :=
  Spared past state ∨ Over past state

/-- No phase starts after a stricken statement, since the flag is set. -/
theorem phase_between {plan : Plan} {phase : Phase} {p : Seen → PhaseM}
    (hp : IsPhase plan phase p) (seen : Seen) (h : Between past state) :
    wp (system mode) Heeds (p seen) (fun _ => Between) (fun _ => Spared) past state := by
  refine wp_phase_guarded hp (K := Spared) (Q := fun _ _ => Between) ?_
    (keeps_spared.mono fun _ => Op.Aside.record)
    (fun _ _ _ h => h) (fun _ _ _ h => h) ?_ h
  · rintro past state (h | h)
    · refine wp_mono (record_spared (by simp) h) (fun requested past state h => ?_)
        fun _ _ _ h => h
      cases requested with
      | true => exact .inl h
      | false => exact h
    · intro now hdrift answer after hanswer
      -- a statement was stricken, so the flag is set and the guard finds it
      have hkeep := keeps_over past state now h hdrift .shutdownRequested answer after
        ⟨trivial, trivial⟩ hanswer
      obtain ⟨_, _, _, hstruck⟩ := h
      obtain rfl : answer = true :=
        hanswer.1.trans ((Process.le_of_drifts hdrift).flag hstruck.flag)
      exact ⟨hkeep.1, .inr hkeep.2⟩
  · intro tables runner past state hrunner h
    refine wp_mono (wp_runner (I := fun _ _ => Spared) (D := fun _ => Between)
      (E := fun _ => Spared) hrunner (mark_spared h) ?_) (fun _ _ _ h => ?_) fun _ _ _ h _ => h
    · intro body hbody _ table _ _ i summary past state h
      exact pass_ends hbody i h
    · exact h.elim .inl id

/-- Through all phases, nothing was stricken or it has been dealt with. -/
theorem phases_between (plan : Plan) (h : Spared past state) :
    wp (system mode) Heeds (runInOrder (phases plan) {} {}) (fun _ => Between) (fun _ => Spared)
      past state := by
  refine wp_mono (wp_runInOrder (I := fun _ _ _ => Between) ?_ (.inl h)) (fun _ _ _ ⟨_, h⟩ => h)
    fun _ _ _ h => h
  exact fun _ phase _ _ p hp _ seen past state h => phase_between hp seen h

/-- The end of the run is not reported yet, and no stricken statement is left to deal with. -/
structure Ready (past : Trace (system mode)) : Prop where
  dealt : Dealt past
  open_ : ∀ m ∈ past, ¬m.op.Completes

/-- Either way the end of the run may be reported. -/
theorem Between.ready (h : Between past state) : Ready past := by
  rcases h with h | ⟨table, n, hn, hstruck⟩
  · exact ⟨h.2.dealt, h.2.open_⟩
  · refine ⟨hstruck.dealt hn, ?_⟩
    obtain ⟨front, s, gap, rfl, hfront, ⟨_, _, _, rfl, _⟩, hgap, _⟩ := hstruck.split
    intro m hm
    rcases List.mem_append.1 hm with hm | hm
    · exact hfront.open_ m hm
    · rcases List.mem_cons.1 hm with rfl | hm
      · exact id
      · exact hgap.open_ m hm

/-- The final check comes after that report. -/
theorem Ready.not_checked (h : Ready past) : ¬CheckedSet past := by
  rintro ⟨i, line, _, hi, hline, _⟩
  exact h.open_ line (List.mem_of_getElem? hi) hline

/-- A check that is not there yet is the next read of the flag. -/
theorem CheckedSet.before {m : Moment (system mode)} (h : CheckedSet (past ++ [m]))
    (hm : ¬(m.op = .shutdownRequested ∧ m.state.flag = true)) : CheckedSet past := by
  obtain ⟨i, line, check, hi, hline, hcheck, hop, hflag⟩ := h
  have hlt : i + 1 < past.length := by
    by_contra hge
    rw [List.getElem?_append_right (by omega)] at hcheck
    obtain rfl := List.mem_singleton.1 (List.mem_of_getElem? hcheck)
    exact hm ⟨hop, hflag⟩
  rw [List.getElem?_append_left (by omega)] at hi hcheck
  exact ⟨i, line, check, hi, hline, hcheck, hop, hflag⟩

/-- How a run ends: with the exit code 130 if its final check found the flag set. -/
structure Ends (code : Nat) (past : Trace (system mode)) : Prop where
  dealt : Dealt past
  checked : CheckedSet past → code = 130
  silent : ∀ m, past.getLast? = some m → m.op ≠ .isRequested

/-- How a run fails. -/
def Breaks (past : Trace (system mode)) : Prop := Dealt past ∧ ¬CheckedSet past

/-- The last lines of `run` end with 130 if the final check found the flag set. -/
theorem finish_ends (total : OperationSummary) (h : Ready past) :
    wp (system mode) Heeds (finish total) (fun code past _ => Ends code past)
      (fun _ past _ => Breaks past) past state := by
  have hspared : ∀ {m : Moment (system mode)}, (∀ c, m.op ≠ .call c) →
      ∀ table, ¬Stricken table m := by
    rintro _ hop table ⟨_, c, _, rfl, _⟩
    exact hop c rfl
  intro now _ answer after _
  refine ⟨h.dealt.heeds trivial, ?_⟩
  have hdealt := h.dealt.next (hspared (m := ⟨now, .log (.completed total.total total.succeeded
    total.failed), answer⟩) (by simp))
  -- the line is the last step, so no check has come after it
  have hopen : ¬CheckedSet (past ++ [⟨now, .log (.completed total.total total.succeeded
      total.failed), answer⟩]) := fun hset => h.not_checked (hset.before (by simp))
  generalize past ++ [_] = past at hdealt hopen ⊢
  intro now _ requested after hanswer
  refine ⟨hdealt.heeds trivial, ?_⟩
  have hdealt' := hdealt.next (hspared (m := ⟨now, .shutdownRequested, requested⟩) (by simp))
  cases requested with
  | true =>
      intro now _ answer after _
      refine ⟨hdealt'.heeds trivial, hdealt'.next (hspared (by simp)), fun _ => rfl, ?_⟩
      simp
  | false =>
      have hclear : ¬CheckedSet (past ++ [⟨now, .shutdownRequested, false⟩]) := by
        refine fun hset => hopen (hset.before ?_)
        rintro ⟨-, hflag⟩
        exact Bool.false_ne_true (hanswer.1.trans hflag)
      refine wp_ite.2 ⟨fun _ => ⟨hdealt', hclear⟩, fun _ => ⟨hdealt', fun h => (hclear h).elim, ?_⟩⟩
      simp

/-- How the process ends. -/
structure ProcessExits (code : Nat) (past : Trace (system mode)) : Prop where
  dealt : Dealt past
  checked : CheckedSet past → code = 130
  requested : ∀ m, past.getLast? = some m → m.op = .isRequested → m.state.requested = true →
    code = 130

/-- The process exits with 130 if the watcher had asked for it, too. -/
theorem main_exits (settings : RunSettings) :
    wp (system mode) Heeds (main settings) (fun code past _ => ProcessExits code past)
      (fun _ _ _ => True) [] {} := by
  have hrun : wp (system mode) Heeds (run settings) (fun code past _ => Ends code past)
      (fun _ past _ => Breaks past) [] {} := by
    -- an error leaves `run` before the end is reported
    have herr : ∀ (err : AnyError) (past : Trace (system mode)) (state : Process),
        Spared past state → Breaks past := fun _ _ _ h =>
      ⟨h.2.dealt, Ready.not_checked ⟨h.2.dealt, h.2.open_⟩⟩
    have hsetup : wp (system mode) Heeds (setup settings) (fun _ => Spared) (fun _ => Spared) []
        {} := record_spared (only_record (setup_aside settings)) ⟨Process.Sound.start, .nil⟩
    refine wp_seq (wp_mono hsetup (fun _ _ _ h => h) herr) fun plan past state h => ?_
    refine wp_seq (wp_mono (phases_between plan h) (fun _ _ _ h => h) herr)
      fun total past state h => ?_
    exact finish_ends total h.ready
  refine wp_seq_attempt hrun (fun code past state h => ?_) fun err past state h => ?_
  · exact ⟨h.dealt, h.checked, fun m hm hop => (h.silent m hm hop).elim⟩
  · intro now _ requested after hanswer
    refine ⟨h.1.heeds trivial, h.1.next ?_, fun hset => (h.2 (hset.before (by simp))).elim, ?_⟩
    · rintro table ⟨_, _, _, heq, _⟩
      obtain ⟨-, hop, -⟩ := Moment.mk.inj heq
      exact Op.noConfusion hop
    · intro m hm _ hrequested
      obtain rfl : (⟨now, .isRequested, requested⟩ : Moment (system mode)) = m := by simpa using hm
      obtain rfl : requested = true := hanswer.1.trans hrequested
      rfl

end Rules

/-- In every run: what follows a statement that the watcher cancelled or whose session it
terminated is that its table is counted as skipped, and then nothing is told of any table. When
the process has ended, that has happened, and its exit code is 130 if the final check found the
flag set, or if a shutdown was requested before the error came up that `main` then looks at. -/
theorem signal_effects_are_no_failures {settings : RunSettings} {tr : Trace (system mode)}
    {last : Process} {rest : Prog session Empty Nat}
    (h : Exec (system mode) {} (main settings) tr last rest) :
    (∀ (i j : Nat) (s m : Moment (system mode)) (table : TableKey), i < j → tr[i]? = some s →
      tr[j]? = some m → Stricken table s → Aftermath table (j - i - 1) m.op) ∧
    ∀ code, rest = .pure code →
      (∀ (i : Nat) (s : Moment (system mode)) (table : TableKey), tr[i]? = some s →
        Stricken table s → i + 3 < tr.length) ∧
      (CheckedSet tr → code = 130) ∧
      ((∃ m ∈ tr, m.state.requested = true) →
        (∃ n, tr.getLast? = some n ∧ n.op = .isRequested) → code = 130) := by
  constructor
  · intro i j s m table hij hi hj hs
    have haccept := (h.sound .refl (main_exits settings)).1.get hj
    have hlength : (tr.take j).length = j := by
      have hlt := (List.getElem?_eq_some_iff.1 hj).1
      rw [List.length_take]
      omega
    have hstep := haccept i s table (by rw [List.getElem?_take_of_lt hij, hi]) hs
    rwa [hlength] at hstep
  · rintro code rfl
    obtain ⟨_, _, hexits⟩ := h.returned (main_exits settings)
    refine ⟨hexits.dealt, hexits.checked, ?_⟩
    rintro ⟨m, hm, hrequested⟩ ⟨n, hn, hop⟩
    -- once it is requested it stays so up to the last step
    refine hexits.requested n hn hop ?_
    obtain ⟨front, rfl⟩ := List.getLast?_eq_some_iff.1 hn
    rcases List.mem_append.1 hm with hm | hm
    · exact ((List.pairwise_append.1 (exec_le h).2.2).2.2 m hm n (by simp)).requested hrequested
    · exact List.mem_singleton.1 hm ▸ hrequested

/-- SIGTERM arrives while a statement runs; the watcher takes it and cancels the statement. -/
def cancelling : Disturbance .cancel where
  before
    | p, .call (.maintain _ _) =>
      (·.watched ⟨true, true, none, fun _ => rfl⟩)^[6] (p.forwarded .sigterm)
    | p, _ => p
  fails
    | .maintain _ _ => some (.db queryCanceled "canceling statement due to user request")
    | _ => none
  drifts p op := by
    split
    · exact (Process.drifts_forwarded .cancel p .sigterm).trans
        (Process.drifts_iterate_watched .cancel _ 6 _)
    · exact .refl

/-- The settings of a run with one table to vacuum. -/
def cancelledSettings : RunSettings := defaultSettings [.neverVacuumed] []

/-- The run whose statement is cancelled. -/
def cancelledTrace : Trace (system .cancel) :=
  ((main cancelledSettings).enact (system .cancel) (cancelling.script oneTable) {}).1

/-- The table of the cancelled statement is skipped, and the exit code is 130. -/
theorem cancelled_table_is_skipped :
    (∀ m, cancelledTrace[34]? = some m →
      m.op = .mark (.tally ("public", "t") (.skipped .interrupted))) ∧
    ((main cancelledSettings).enact (system .cancel) (cancelling.script oneTable) {}).2.2 =
      .ok 130 := by
  have hrun := signal_effects_are_no_failures (cancelling.exec oneTable cancelledSettings)
  refine ⟨fun m hm => hrun.1 31 34 _ m ("public", "t") (by decide) rfl hm ?_, rfl⟩
  exact ⟨_, _, _, rfl, rfl, .inl ⟨rfl, rfl⟩⟩

end PgMaintainer
