import Mathlib.Algebra.Order.BigOperators.Group.List
import PgMaintainer.Run.Clock
import PgMaintainer.Run.Shape

/-!
# Retries on a lock timeout

`with_lock_timeout_retry` is a loop around an operation that it knows nothing about. A run of it
consists of attempts, each a run of the operation with an outcome, and of what stands between two
attempts: a look at the shutdown flag and a wait.
-/

namespace PgMaintainer

open Interaction

/-! ## Attempts and waits -/

/-- How an attempt ends. -/
abbrev AttemptEnd := Except PgError OperationResult

/-- The attempt failed on `lock_timeout`. -/
def AttemptEnd.timedOut (e : AttemptEnd) : Bool :=
  match e with
  | .ok _ => false
  | .error err => isLockTimeout err

section Rounds

variable {W : World session}

/-- A piece of a trace that is one run of the operation, to its end. -/
def Ran (W : World session) (op : PgM OperationResult) (tr : Trace W) (e : AttemptEnd) : Prop :=
  ∃ start last, Exec W start op tr last (.ofExcept e)

/-- A trace that consists of attempts with these ends and, between them, of waits of these lengths.
The flag says whether a shutdown ended it: it was seen behind an attempt, or cut the last wait. -/
inductive Rounds (W : World session) (op : PgM OperationResult) :
    List AttemptEnd → List Nat → Bool → Trace W → Prop where
  | last {e : AttemptEnd} {tr : Trace W} : Ran W op tr e → Rounds W op [e] [] false tr
  | told {e : AttemptEnd} {tr : Trace W} (now : W.State) :
      Ran W op tr e → Rounds W op [e] [] true (tr ++ [⟨now, .shutdownRequested, true⟩])
  | woken {e : AttemptEnd} {tr : Trace W} (now later : W.State) (duration : Nat) :
      Ran W op tr e → Rounds W op [e] [duration] true
        (tr ++ [⟨now, .shutdownRequested, false⟩, ⟨later, .sleepOrShutdown duration, .shutdown⟩])
  | again {e : AttemptEnd} {ends : List AttemptEnd} {waits : List Nat} {stopped : Bool}
      {tr rest : Trace W} (now later : W.State) (duration : Nat) :
      Ran W op tr e → Rounds W op ends waits stopped rest →
      Rounds W op (e :: ends) (duration :: waits) stopped (tr ++
        [⟨now, .shutdownRequested, false⟩, ⟨later, .sleepOrShutdown duration, .slept⟩] ++ rest)

end Rounds

/-- The waits of so many retries: the first delay, doubled after each. -/
def delays (delayMs : Nat) : Nat → List Nat
  | 0 => []
  | n + 1 => fromMillis delayMs :: delays (saturatingDouble delayMs) n

@[simp] theorem length_delays (delayMs n : Nat) : (delays delayMs n).length = n := by
  induction n generalizing delayMs with
  | zero => rfl
  | succ n ih => rw [delays, List.length_cons, ih]

/-- Doubling a delay that is at most the largest number. -/
theorem saturating_double_pow (delayMs j : Nat) :
    min (saturatingDouble delayMs * 2 ^ j) (2 ^ 64 - 1) =
      min (delayMs * 2 ^ (j + 1)) (2 ^ 64 - 1) := by
  have hpow : 1 ≤ 2 ^ j := Nat.one_le_two_pow
  have hdouble : delayMs * 2 ^ (j + 1) = 2 * delayMs * 2 ^ j := by rw [Nat.pow_succ]; ring
  rw [saturatingDouble, hdouble]
  by_cases h : 2 * delayMs ≤ 2 ^ 64 - 1
  · rw [Nat.min_eq_left h]
  · have hlarge : 2 ^ 64 - 1 ≤ (2 ^ 64 - 1) * 2 ^ j := Nat.le_mul_of_pos_right _ hpow
    have hlarger : (2 ^ 64 - 1) * 2 ^ j ≤ 2 * delayMs * 2 ^ j :=
      Nat.mul_le_mul_right _ (Nat.le_of_not_le h)
    rw [Nat.min_eq_right (Nat.le_of_not_le h), Nat.min_eq_right hlarge,
      Nat.min_eq_right (hlarge.trans hlarger)]

/-- The waits in closed form. By induction on the number of the wait. -/
theorem get_delays {delayMs n j : Nat} (hdelay : delayMs ≤ 2 ^ 64 - 1) (hj : j < n) :
    (delays delayMs n)[j]? = some (fromMillis (min (delayMs * 2 ^ j) (2 ^ 64 - 1))) := by
  induction j generalizing delayMs n with
  | zero =>
      obtain ⟨n, rfl⟩ := Nat.exists_eq_add_one.2 hj
      rw [delays, List.getElem?_cons_zero, Nat.pow_zero, Nat.mul_one, Nat.min_eq_left hdelay]
  | succ j ih =>
      obtain ⟨n, rfl⟩ := Nat.exists_eq_add_one.2 (Nat.zero_lt_of_lt hj)
      have hrest : (delays (saturatingDouble delayMs) n)[j]? =
          some (fromMillis (min (saturatingDouble delayMs * 2 ^ j) (2 ^ 64 - 1))) :=
        ih (Nat.min_le_right _ _) (Nat.lt_of_succ_lt_succ hj)
      rw [delays, List.getElem?_cons_succ, hrest, saturating_double_pow]

/-! ## What the loop does -/

/-- What the loop keeps, with so many retries to go and this delay: only lock timeouts are retried,
and the last end is returned. -/
structure Retried (left delayMs : Nat) (ends : List AttemptEnd) (waits : List Nat)
    (stopped : Bool) (result : AttemptEnd) : Prop where
  timeouts : ∀ e ∈ ends.dropLast, e.timedOut = true
  returned : ends.getLast? = some result
  bounded : ends.length ≤ left + 1
  schedule : waits = delays delayMs waits.length
  paused : waits.length ≤ left ∧ (stopped = false → waits.length + 1 = ends.length)
  exhausted : stopped = false → result.timedOut = false ∨ ends.length = left + 1

namespace Retried

variable {left delayMs : Nat} {ends : List AttemptEnd} {waits : List Nat} {stopped : Bool}
  {result : AttemptEnd}

/-- The last attempt. -/
theorem last (h : result.timedOut = false ∨ left = 0) :
    Retried left delayMs [result] [] false result where
  timeouts := by simp
  returned := rfl
  bounded := Nat.le_add_left 1 left
  schedule := rfl
  paused := ⟨Nat.zero_le _, fun _ => rfl⟩
  exhausted := by
    intro _
    obtain hother | rfl := h
    · exact .inl hother
    · exact .inr rfl

/-- An attempt behind which a shutdown was seen. -/
theorem stop (hwaits : waits = [] ∨ waits = [fromMillis delayMs]) :
    Retried (left + 1) delayMs [result] waits true result where
  timeouts := by simp
  returned := rfl
  bounded := by simp
  schedule := by obtain rfl | rfl := hwaits <;> rfl
  paused := by
    refine ⟨?_, fun hstopped => by cases hstopped⟩
    obtain rfl | rfl := hwaits
    · exact Nat.zero_le _
    · exact Nat.le_add_left 1 left
  exhausted hstopped := by cases hstopped

/-- A lock timeout and a wait in front. -/
theorem again {err : PgError} (herr : isLockTimeout err = true)
    (h : Retried left (saturatingDouble delayMs) ends waits stopped result) :
    Retried (left + 1) delayMs (.error err :: ends) (fromMillis delayMs :: waits) stopped
      result := by
  obtain ⟨e, more, rfl⟩ := List.exists_cons_of_ne_nil (l := ends) (by
    rintro rfl
    cases h.returned)
  constructor
  · intro e' he'
    rw [List.dropLast_cons_of_ne_nil (List.cons_ne_nil _ _)] at he'
    obtain rfl | he' := List.mem_cons.1 he'
    · exact herr
    · exact h.timeouts e' he'
  · rw [List.getLast?_cons_cons]
    exact h.returned
  · have hbounded := h.bounded
    rw [List.length_cons]
    omega
  · rw [List.length_cons, delays, ← h.schedule]
  · obtain ⟨hle, hcount⟩ := h.paused
    simp only [List.length_cons] at hle hcount ⊢
    exact ⟨by omega, fun hstopped => by rw [hcount hstopped]⟩
  · intro hstopped
    obtain hother | hall := h.exhausted hstopped
    · exact .inl hother
    · exact .inr (by rw [List.length_cons, hall])

end Retried

section Loop

variable {W : World session} {op : PgM OperationResult}

/-- What a run of the loop came to, behind what was done before. -/
def RetriedBehind (W : World session) (op : PgM OperationResult) (left delayMs : Nat)
    (past : Trace W) (result : AttemptEnd) (past' : Trace W) : Prop :=
  ∃ tr ends waits stopped, past' = past ++ tr ∧ Rounds W op ends waits stopped tr ∧
    Retried left delayMs ends waits stopped result

/-- By induction on the retries left. -/
theorem wp_retry_rounds (left delayMs : Nat) {past : Trace W} {state : W.State} :
    wp W (fun _ _ => True) (retryLoop op left delayMs)
      (fun value past' _ => RetriedBehind W op left delayMs past (.ok value) past')
      (fun err past' _ => RetriedBehind W op left delayMs past (.error err) past') past state := by
  induction left generalizing delayMs past state with
  | zero =>
      refine wp_mono Prog.wp_exec ?_ ?_
      · intro value past' last h
        obtain ⟨tr, rfl, hexec⟩ := h
        exact ⟨tr, _, _, _, rfl, .last ⟨_, _, hexec⟩, .last (.inr rfl)⟩
      · intro err past' last h
        obtain ⟨tr, rfl, hexec⟩ := h
        exact ⟨tr, _, _, _, rfl, .last ⟨_, _, hexec⟩, .last (.inr rfl)⟩
  | succ left ih =>
      refine wp_seq_attempt Prog.wp_exec ?_ ?_
      · intro value past' last h
        obtain ⟨tr, rfl, hexec⟩ := h
        exact ⟨tr, _, _, _, rfl, .last ⟨_, _, hexec⟩, .last (.inl rfl)⟩
      intro err past' last h
      obtain ⟨tr, rfl, hexec⟩ := h
      have hran : Ran W op tr (.error err) := ⟨_, _, hexec⟩
      refine wp_ite.2 ⟨fun hother => ?_, fun htimeout => ?_⟩
      · have hother : isLockTimeout err = false := by simpa using hother
        exact ⟨tr, _, _, _, rfl, .last hran, .last (.inl hother)⟩
      have htimeout : isLockTimeout err = true := by simpa using htimeout
      intro now _ requested after _
      refine ⟨trivial, wp_ite.2 ⟨fun hrequested => ?_, fun hrequested => ?_⟩⟩
      · subst hrequested
        refine ⟨_, _, _, _, List.append_assoc .., .told now hran, .stop (.inl rfl)⟩
      obtain rfl : requested = false := by simpa using hrequested
      intro later _ wake after' _
      refine ⟨trivial, ?_⟩
      cases wake with
      | shutdown =>
          refine ⟨_, _, _, _, ?_, .woken now later _ hran, .stop (.inr rfl)⟩
          simp
      | slept =>
          -- one more round, with the doubled delay
          refine wp_mono (ih (saturatingDouble delayMs)) ?_ ?_
          · intro value past' last h
            obtain ⟨rest, ends, waits, stopped, rfl, hrounds, hretried⟩ := h
            refine ⟨_, _, _, stopped, ?_, .again now later _ hran hrounds, hretried.again htimeout⟩
            simp
          · intro err' past' last h
            obtain ⟨rest, ends, waits, stopped, rfl, hrounds, hretried⟩ := h
            refine ⟨_, _, _, stopped, ?_, .again now later _ hran hrounds, hretried.again htimeout⟩
            simp

end Loop

/-! ## How many attempts there are -/

/-- The position, counted from one, of the first end that is no lock timeout. -/
def FirstOther (ends : Nat → AttemptEnd) (k : Nat) : Prop :=
  1 ≤ k ∧ (ends (k - 1)).timedOut = false ∧ ∀ i, i + 1 < k → (ends i).timedOut = true

/-- The list is a beginning of the sequence. -/
def Begins (ends : List AttemptEnd) (sequence : Nat → AttemptEnd) : Prop :=
  ∀ i, i < ends.length → ends[i]? = some (sequence i)

namespace Retried

variable {left delayMs : Nat} {ends : List AttemptEnd} {waits : List Nat} {stopped : Bool}
  {result : AttemptEnd} {sequence : Nat → AttemptEnd}

/-- All ends but the last are lock timeouts. -/
theorem timed_out (h : Retried left delayMs ends waits stopped result)
    (hbegins : Begins ends sequence) {i : Nat} (hi : i + 1 < ends.length) :
    (sequence i).timedOut = true := by
  refine h.timeouts _ (List.mem_of_getElem? (i := i) ?_)
  rw [List.getElem?_dropLast, if_pos (by omega)]
  exact hbegins i (by omega)

/-- The result is the last end. -/
theorem last_eq (h : Retried left delayMs ends waits stopped result)
    (hbegins : Begins ends sequence) : 0 < ends.length ∧ sequence (ends.length - 1) = result := by
  have hresult := h.returned
  rw [List.getLast?_eq_getElem?] at hresult
  obtain ⟨hlt, -⟩ := List.getElem?_eq_some_iff.1 hresult
  refine ⟨by omega, ?_⟩
  rw [hbegins _ hlt] at hresult
  exact Option.some.inj hresult

/-- Not one attempt more than up to the first other end. -/
theorem le_first (h : Retried left delayMs ends waits stopped result)
    (hbegins : Begins ends sequence) {k : Nat} (hk : FirstOther sequence k) :
    ends.length ≤ min k (left + 1) := by
  refine Nat.le_min.2 ⟨?_, h.bounded⟩
  obtain ⟨hpos, hother, -⟩ := hk
  by_contra hlt
  have hbefore : k - 1 + 1 < ends.length := by omega
  have htimeout := h.timed_out hbegins hbefore
  rw [hother] at htimeout
  cases htimeout

/-- And, without a shutdown, not one less. -/
theorem eq_first (h : Retried left delayMs ends waits false result)
    (hbegins : Begins ends sequence) {k : Nat} (hk : FirstOther sequence k) :
    ends.length = min k (left + 1) := by
  have hle := h.le_first hbegins hk
  obtain ⟨hpos, hlast⟩ := h.last_eq hbegins
  obtain hother | hall := h.exhausted rfl
  · refine Nat.le_antisymm hle ?_
    by_contra hlt
    have htimeout := hk.2.2 (ends.length - 1) (by omega)
    rw [hlast, hother] at htimeout
    cases htimeout
  · omega

/-- Where every end is a lock timeout, all retries are made. -/
theorem eq_all (h : Retried left delayMs ends waits false result) (hbegins : Begins ends sequence)
    (hall : ∀ i, (sequence i).timedOut = true) : ends.length = left + 1 := by
  obtain ⟨-, hlast⟩ := h.last_eq hbegins
  refine (h.exhausted rfl).resolve_left fun hother => ?_
  rw [← hlast, hall] at hother
  cases hother

end Retried

/-- A run of the retry loop consists of attempts and waits. It returns what the last attempt came
to; wait number `j` is the first delay times `2 ^ j`, up to the largest number of milliseconds; and
for every sequence of ends that its attempts begin, there are as many attempts as it takes to the
first end that is no lock timeout, but at most one more than there are retries. A shutdown makes the
attempts fewer, if anything. -/
theorem lock_timeout_retry {W : World session} {policy : RunPolicy} {op : PgM OperationResult}
    {start last : W.State} {tr : Trace W} {result : AttemptEnd}
    (hdelay : policy.lockTimeoutRetryDelayMs < 2 ^ 64)
    (hexec : Exec W start (withLockTimeoutRetry policy op) tr last (.ofExcept result)) :
    ∃ ends waits stopped, Rounds W op ends waits stopped tr ∧ ends.getLast? = some result ∧
      (∀ j < waits.length, waits[j]? =
        some (fromMillis (min (policy.lockTimeoutRetryDelayMs * 2 ^ j) (2 ^ 64 - 1)))) ∧
      (stopped = false → waits.length + 1 = ends.length) ∧
      ∀ sequence, Begins ends sequence →
        (∀ k, FirstOther sequence k → ends.length ≤ min k (policy.lockTimeoutRetries + 1) ∧
          (stopped = false → ends.length = min k (policy.lockTimeoutRetries + 1))) ∧
        ((∀ i, (sequence i).timedOut = true) → ends.length ≤ policy.lockTimeoutRetries + 1 ∧
          (stopped = false → ends.length = policy.lockTimeoutRetries + 1)) := by
  have hloop : wp W (fun _ _ => True) (withLockTimeoutRetry policy op)
      (fun value past _ => RetriedBehind W op policy.lockTimeoutRetries
        policy.lockTimeoutRetryDelayMs [] (.ok value) past)
      (fun err past _ => RetriedBehind W op policy.lockTimeoutRetries
        policy.lockTimeoutRetryDelayMs [] (.error err) past) [] start := wp_retry_rounds _ _
  have hbehind : RetriedBehind W op policy.lockTimeoutRetries policy.lockTimeoutRetryDelayMs []
      result tr := by
    cases result with
    | ok value =>
        obtain ⟨_, -, h⟩ := hexec.returned hloop
        exact h
    | error err =>
        obtain ⟨_, -, h⟩ := hexec.failed hloop
        exact h
  obtain ⟨tr', ends, waits, stopped, htr, hrounds, h⟩ := hbehind
  rw [List.nil_append] at htr
  subst htr
  refine ⟨ends, waits, stopped, hrounds, h.returned, fun j hj => ?_, h.paused.2, ?_⟩
  · rw [h.schedule]
    exact get_delays (by omega) hj
  · intro sequence hbegins
    refine ⟨fun k hk => ⟨h.le_first hbegins hk, ?_⟩, fun hall => ⟨h.bounded, ?_⟩⟩
    · rintro rfl
      exact h.eq_first hbegins hk
    · rintro rfl
      exact h.eq_all hbegins hall

/-- The lock on a table is not free for the first statements, as many as `n`. -/
def lockedFor (n count : Nat) : (op : Op) → op.Answer × Nat
  | .call (.maintain _ _) =>
    if count < n then
      (.error (.db lockNotAvailable "canceling statement due to lock timeout"), count + 1)
    else
      (.ok (), count + 1)
  | .call _ => (.error .closed, count)
  | .now => (0, count)
  | .sleepOrShutdown _ => (.slept, count)
  | .isClosed | .shutdownRequested | .isRequested | .gateIsDisabled => (false, count)
  | .gateDisable | .gateAddWaited _ | .gateRecordSkip | .log _ | .mark _ => ((), count)

/-- An ANALYZE that may be retried three times, first after 50 milliseconds. -/
def retriedAnalyze : PgM OperationResult :=
  withLockTimeoutRetry ⟨false, false, false, false, 0, 3, 50⟩
    (Statement.operation .analyze ("public", "t"))

/-- The lock is free the third time. -/
theorem third_attempt_succeeds : ∃ ends waits stopped,
    Rounds (World.recalling session Nat) (Statement.operation .analyze ("public", "t")) ends waits
      stopped (retriedAnalyze.play (World.recalling session Nat) (lockedFor 2) (0 : Nat)).1 ∧
      ends.getLast? = some (.ok ⟨none, none⟩) := by
  have hexec := Prog.exec_play (W := World.recalling session Nat) (lockedFor 2)
    (fun _ _ => trivial) retriedAnalyze (0 : Nat)
  have hend : (retriedAnalyze.play (World.recalling session Nat) (lockedFor 2) (0 : Nat)).2.2 =
      .ok ⟨none, none⟩ := by
    decide
  rw [hend] at hexec
  obtain ⟨ends, waits, stopped, hrounds, hlast, -⟩ := lock_timeout_retry (by decide) hexec
  exact ⟨ends, waits, stopped, hrounds, hlast⟩

/-! ## How long the waits are -/

section Waits

variable {W : World session} {past : Trace W} {state : W.State} {statement : Statement}
  {table : TableKey}

/-- The waits asked for so far are the first of these. -/
def WaitsAmong (schedule : List Nat) (past : Trace W) (m : Moment W) : Prop :=
  sleeps (past ++ [m]) <+: schedule

/-- The waits are those of the schedule, up to the last that was asked for. By induction on the
retries left. -/
theorem wp_waits (left delayMs : Nat) {schedule : List Nat}
    (h : sleeps past ++ delays delayMs left = schedule) :
    wp W (WaitsAmong schedule) (retryLoop (statement.operation table) left delayMs)
      (fun _ _ _ => True) (fun _ _ _ => True) past state := by
  have hkeep : ∀ waited : List Nat, waited <+: schedule →
      W.Keeps (WaitsAmong schedule) (fun op => ∃ c, op = .call c)
        fun past _ => sleeps past = waited := by
    rintro waited hwaited past _ now rfl _ op answer _ ⟨c, rfl⟩ _
    have hsame : sleeps (past ++ [⟨now, .call c, answer⟩]) = sleeps past := by
      rw [sleeps_append]
      exact List.append_nil _
    refine ⟨?_, hsame⟩
    rw [WaitsAmong, hsame]
    exact hwaited
  have hcalls : (statement.operation table).Only fun op => ∃ c, op = .call c :=
    operation_only ⟨_, rfl⟩ ⟨_, rfl⟩
  have hbefore : sleeps past <+: schedule := ⟨_, h⟩
  have hattempt : wp W (WaitsAmong schedule) (statement.operation table)
      (fun _ past' _ => sleeps past' = sleeps past) (fun _ past' _ => sleeps past' = sleeps past)
      past state :=
    wp_of_only hcalls (hkeep _ hbefore) (fun _ _ _ h => h) rfl
  -- on the retries left: what was slept so far is a start of the schedule
  induction left generalizing delayMs past state with
  | zero => exact wp_mono hattempt (fun _ _ _ _ => trivial) fun _ _ _ _ => trivial
  | succ left ih =>
      refine wp_seq_attempt hattempt (fun _ _ _ _ => trivial) ?_
      intro err past' state' hsame
      refine wp_ite.2 ⟨fun _ => trivial, fun _ => ?_⟩
      intro now _ requested after _
      have hread : sleeps (past' ++ [⟨now, .shutdownRequested, requested⟩]) = sleeps past := by
        rw [sleeps_append, hsame]
        exact List.append_nil _
      have hamong : WaitsAmong schedule past' ⟨now, .shutdownRequested, requested⟩ := by
        rw [WaitsAmong, hread]
        exact hbefore
      refine ⟨hamong, wp_ite.2 ⟨fun _ => trivial, fun _ => ?_⟩⟩
      intro later _ wake after' _
      have hslept : sleeps (past' ++ [⟨now, .shutdownRequested, requested⟩] ++
          [⟨later, .sleepOrShutdown (fromMillis delayMs), wake⟩]) =
          sleeps past ++ [fromMillis delayMs] := by
        rw [sleeps_append, hread]
        rfl
      have hnext : sleeps (past' ++ [⟨now, .shutdownRequested, requested⟩] ++
          [⟨later, .sleepOrShutdown (fromMillis delayMs), wake⟩]) ++
          delays (saturatingDouble delayMs) left = schedule := by
        rw [hslept, List.append_assoc]
        exact h
      refine ⟨⟨_, hnext⟩, ?_⟩
      cases wake with
      | shutdown => trivial
      | slept =>
          refine ih _ hnext ⟨_, hnext⟩ ?_
          exact wp_of_only hcalls (hkeep _ ⟨_, hnext⟩) (fun _ _ _ h => h) rfl

/-- Whatever a run of the loop has done so far, its waits are the first of the schedule. -/
theorem waits_of_exec {left delayMs : Nat} {start last : W.State} {tr : Trace W}
    {q : PgM OperationResult}
    (hexec : Exec W start (retryLoop (statement.operation table) left delayMs) tr last q) :
    sleeps tr <+: delays delayMs left := by
  have hloop : wp W (WaitsAmong (delays delayMs left))
      (retryLoop (statement.operation table) left delayMs) (fun _ _ _ => True)
      (fun _ _ _ => True) [] start := wp_waits left delayMs rfl
  obtain ⟨haccepts, -⟩ := hexec.sound .refl hloop
  obtain rfl | ⟨before, m, rfl⟩ := tr.eq_nil_or_concat
  · exact List.nil_prefix
  rw [List.concat_eq_append] at haccepts ⊢
  exact haccepts.at

end Waits

/-- Where the lock never becomes free, every wait of the schedule is asked for. -/
theorem sleeps_locked (left delayMs : Nat) :
    sleeps ((retryLoop (Statement.operation .analyze ("public", "t")) left delayMs).play
      (World.free session) (fun state op => ((lockedFor 1 0 op).1, state)) ()).1 =
        delays delayMs left := by
  induction left generalizing delayMs with
  | zero => rfl
  | succ left ih => exact congrArg (fromMillis delayMs :: ·) (ih _)

/-- What the comment on the two limits promises of a policy: in every run of the retries around a
table's statement, however far it got, no wait is longer than the greatest delay, and all together
are no longer than the greatest number of retries with it. -/
def WaitsBounded (policy : RunPolicy) : Prop :=
  ∀ (W : World session) (statement : Statement) (table : TableKey) (start last : W.State)
    (tr : Trace W) (q : PgM OperationResult),
    Exec W start (withLockTimeoutRetry policy (statement.operation table)) tr last q →
      (∀ wait ∈ sleeps tr, wait ≤ fromMillis maxLockTimeoutRetryDelayMs) ∧
        (sleeps tr).sum ≤ maxLockTimeoutRetries * fromMillis maxLockTimeoutRetryDelayMs

/-- What the command line is checked for. -/
structure AcceptedRetries (policy : RunPolicy) : Prop where
  retries : policy.lockTimeoutRetries ≤ maxLockTimeoutRetries
  delay : 1 ≤ policy.lockTimeoutRetryDelayMs ∧
    policy.lockTimeoutRetryDelayMs ≤ maxLockTimeoutRetryDelayMs

/-- The waits of a schedule up to a greatest one. -/
theorem delays_le {delayMs n limit : Nat} (hlimit : limit < 2 ^ 64 - 1)
    (hdelay : delayMs ≤ limit) :
    (∀ wait ∈ delays delayMs n, wait ≤ fromMillis limit) ↔
      n = 0 ∨ delayMs * 2 ^ (n - 1) ≤ limit := by
  have hget : ∀ j < n, (delays delayMs n)[j]? =
      some (fromMillis (min (delayMs * 2 ^ j) (2 ^ 64 - 1))) := fun j hj =>
    get_delays (by omega) hj
  constructor
  · intro hall
    obtain rfl | hn := Nat.eq_zero_or_pos n
    · exact .inl rfl
    refine .inr ?_
    have hlast := hall _ (List.mem_of_getElem? (hget (n - 1) (by omega)))
    have hmin : min (delayMs * 2 ^ (n - 1)) (2 ^ 64 - 1) ≤ limit := by
      unfold fromMillis at hlast
      exact Nat.le_of_mul_le_mul_right hlast (by decide)
    by_contra hlt
    omega
  · intro hbound wait hwait
    obtain ⟨j, hj, rfl⟩ := List.getElem_of_mem hwait
    rw [length_delays] at hj
    have hgetj := hget j hj
    rw [List.getElem?_eq_getElem (by rwa [length_delays])] at hgetj
    rw [Option.some.inj hgetj]
    obtain hzero | hbound := hbound
    · omega
    refine Nat.mul_le_mul_right _ ((Nat.min_le_left _ _).trans (le_trans ?_ hbound))
    exact Nat.mul_le_mul_left _ (Nat.pow_le_pow_right (by decide) (by omega))

/-- A policy that the command line accepts keeps the promise in every run, if and only if it makes
no retry or its delay, doubled after each retry but the last, is still within the greatest delay. -/
theorem retry_waits_bounded_iff {policy : RunPolicy} (hpolicy : AcceptedRetries policy) :
    WaitsBounded policy ↔ policy.lockTimeoutRetries = 0 ∨
      policy.lockTimeoutRetryDelayMs * 2 ^ (policy.lockTimeoutRetries - 1) ≤
        maxLockTimeoutRetryDelayMs := by
  obtain ⟨hretries, -, hdelay⟩ := hpolicy
  rw [← delays_le (by decide) hdelay]
  constructor
  · intro hbounded
    -- the table stays locked, so every retry is used and every delay waited
    have hexec := Prog.exec_play (W := World.free session)
      (fun state op => ((lockedFor 1 0 op).1, state)) (fun _ _ => trivial)
      (withLockTimeoutRetry policy (Statement.operation .analyze ("public", "t"))) ()
    obtain ⟨hwaits, -⟩ := hbounded _ _ _ _ _ _ _ hexec
    have hall := sleeps_locked policy.lockTimeoutRetries policy.lockTimeoutRetryDelayMs
    rw [← hall]
    exact hwaits
  · intro hall W statement table start last tr q hexec
    have hfirsts := waits_of_exec hexec
    have hwaits : ∀ wait ∈ sleeps tr, wait ≤ fromMillis maxLockTimeoutRetryDelayMs :=
      fun wait hwait => hall wait (hfirsts.subset hwait)
    refine ⟨hwaits, ?_⟩
    have hlength : (sleeps tr).length ≤ maxLockTimeoutRetries := by
      have hle := hfirsts.length_le
      rw [length_delays] at hle
      exact hle.trans hretries
    calc (sleeps tr).sum
        ≤ (sleeps tr).length * fromMillis maxLockTimeoutRetryDelayMs :=
          List.sum_le_card_nsmul _ _ hwaits
      _ ≤ maxLockTimeoutRetries * fromMillis maxLockTimeoutRetryDelayMs :=
          Nat.mul_le_mul_right _ hlength

/-- Five retries from a quarter of a second on. -/
theorem five_retries_bounded : WaitsBounded ⟨false, false, false, false, 10, 5, 250⟩ :=
  (retry_waits_bounded_iff ⟨by decide, by decide⟩).2 (.inr (by decide))

/-- Two retries from the greatest delay on: the second wait is twice as long. -/
theorem doubled_delay_too_long :
    AcceptedRetries ⟨false, false, false, false, 10, 2, 60000⟩ ∧
      ¬WaitsBounded ⟨false, false, false, false, 10, 2, 60000⟩ := by
  refine ⟨⟨by decide, by decide⟩, fun hbounded => ?_⟩
  have hexec := Prog.exec_play (W := World.free session)
    (fun state op => ((lockedFor 1 0 op).1, state)) (fun _ _ => trivial)
    (withLockTimeoutRetry ⟨false, false, false, false, 10, 2, 60000⟩
      (Statement.operation .analyze ("public", "t"))) ()
  obtain ⟨hwaits, -⟩ := hbounded _ _ _ _ _ _ _ hexec
  have hall := sleeps_locked 2 60000
  have hmem : fromMillis 120000 ∈ delays 60000 2 := by decide
  rw [← hall] at hmem
  exact absurd (hwaits _ hmem) (by decide)

end PgMaintainer
