import Mathlib.Algebra.Order.Floor.Div
import PgMaintainer.Run.Clock

/-!
# How long the lag gate waits

One call of the replication-lag gate, on any clock and for any observations: the sleeps fit in the
budget, the verdict rests on the last observation, and the counters say what happened.

The loop of the source has no bound of its own, the model's has. So the results are about
`pollRound`, one round of the loop, repeated any sufficient number of times and with anything at all
behind the last round: what comes there is never reached.
-/

namespace PgMaintainer

open Interaction

/-! ## The loop, round by round -/

/-- One round of the polling loop; `again` is what follows it. -/
def pollRound (gate : ReplicaLagGate) (table : TableKey) (started : Nat)
    (again : RunM LagGateVerdict) : RunM LagGateVerdict := do
  let deadline := fromSecs gate.maxWaitSeconds
  let poll := fromSecs (max gate.pollIntervalSeconds 1)
  let remaining := deadline - ((← now) - started)
  if remaining = 0 then
    giveUpWaiting started
  else
    match ← sleepOrShutdown (min poll remaining) with
    | .shutdown => do
      addWaited started
      pure .shutdownRequested
    | .slept => do
      let current ← observeReplicaLag
      if !current.exceeds gate.thresholdSeconds then
        addWaited started
        log (.lagRecovered table)
        pure .proceed
      else if deadline ≤ (← now) - started then
        giveUpWaiting started
      else
        again

/-- The gate, with `loop` in the place of its polling loop. -/
def gateAround (gate : ReplicaLagGate) (policy : RunPolicy) (loop : Nat → RunM LagGateVerdict) :
    RunM LagGateVerdict := do
  if ← gateIsDisabled then
    pure .proceed
  else
    let observation ← observeReplicaLag
    match observation with
    | .unobservable => do
      gateDisable
      pure .proceed
    | .noReplicas => do
      gateDisable
      pure .proceed
    | .observed _ =>
      if !observation.exceeds gate.thresholdSeconds then
        pure .proceed
      else if policy.dryRun then
        pure .proceed
      else if gate.maxWaitSeconds = 0 then do
        gateRecordSkip
        pure .skipTable
      else do
        let started ← now
        loop started

/-- The gate with its loop unrolled: as many rounds as there may be sleeps, or more, and `rest`
behind them. -/
def IsUnrolled (gate : ReplicaLagGate) (table : TableKey) (policy : RunPolicy)
    (p : RunM LagGateVerdict) : Prop :=
  ∃ (rounds : Nat) (rest : Nat → RunM LagGateVerdict),
    gate.maxWaitSeconds ⌈/⌉ max gate.pollIntervalSeconds 1 ≤ rounds ∧
    p = gateAround gate policy fun started =>
      (pollRound gate table started)^[rounds] (rest started)

/-- The loop is its round, repeated. By induction on the rounds. -/
theorem wait_for_replica_lag_loop_eq (gate : ReplicaLagGate) (table : TableKey)
    (started rounds : Nat) : waitForReplicaLagLoop gate table started rounds =
      (pollRound gate table started)^[rounds] (giveUpWaiting started) := by
  induction rounds with
  | zero => rfl
  | succ rounds ih =>
      rw [Function.iterate_succ_apply', ← ih]
      rfl

/-- The gate as it is called is such an unrolling. -/
theorem is_unrolled_wait_for_replica_lag (gate : ReplicaLagGate) (table : TableKey)
    (policy : RunPolicy) : IsUnrolled gate table policy (waitForReplicaLag gate table policy) := by
  refine ⟨gate.maxWaitSeconds, giveUpWaiting, ?_, ?_⟩
  · rw [ceilDiv_le_iff_le_smul (by omega)]
    exact Nat.le_mul_of_pos_left _ (by omega)
  · have hloop : (fun started => (pollRound gate table started)^[gate.maxWaitSeconds]
        (giveUpWaiting started)) =
        fun started => waitForReplicaLagLoop gate table started gate.maxWaitSeconds :=
      funext fun started => (wait_for_replica_lag_loop_eq gate table started _).symm
    rw [hloop]
    rfl

/-! ## The wait for one table -/

/-- The time between two polls, in nanoseconds. -/
def ReplicaLagGate.poll (gate : ReplicaLagGate) : Nat := fromSecs (max gate.pollIntervalSeconds 1)

/-- The most sleeps there may be before one table. -/
def ReplicaLagGate.maxSleeps (gate : ReplicaLagGate) : Nat :=
  gate.maxWaitSeconds ⌈/⌉ max gate.pollIntervalSeconds 1

/-- So many full sleeps are the most if and only if they use up the budget. -/
theorem ReplicaLagGate.max_sleeps_le_iff (gate : ReplicaLagGate) (rounds : Nat) :
    gate.maxSleeps ≤ rounds ↔ fromSecs gate.maxWaitSeconds ≤ rounds * gate.poll := by
  have hpoll : 0 < max gate.pollIntervalSeconds 1 := by omega
  rw [maxSleeps, ceilDiv_le_iff_le_smul hpoll, smul_eq_mul, poll, fromSecs, fromSecs,
    ← Nat.mul_assoc, Nat.mul_comm rounds]
  exact (Nat.mul_le_mul_right_iff (by omega)).symm

/-- The sleeps so far, in number and in sum. -/
def WithinBudget (gate : ReplicaLagGate) (tr : Trace clock) : Prop :=
  (sleeps tr).length ≤ gate.maxSleeps ∧ (sleeps tr).sum ≤ fromSecs gate.maxWaitSeconds

/-- A wait has started, and nothing was counted yet. -/
structure Waiting (started : Nat) (tr : Trace clock) : Prop where
  started : (readings tr).head? = some started
  waits : addedWaits tr = []
  skips : countedSkips tr = 0

/-- The loop has gone `rounds` times through a full sleep. -/
structure Polling (gate : ReplicaLagGate) (started rounds : Nat) (tr : Trace clock) : Prop
    extends Waiting started tr where
  asked : (sleeps tr).length = rounds
  total : (sleeps tr).sum = rounds * gate.poll

/-- The last observation shows a standby behind the threshold. -/
def Lagging (gate : ReplicaLagGate) (tr : Trace clock) : Prop :=
  ∃ o, (observations tr).getLast? = some o ∧ o.Behind gate.thresholdSeconds

/-- The last observation exceeds the threshold, as the gate compares. -/
def Exceeding (gate : ReplicaLagGate) (tr : Trace clock) : Prop :=
  ∃ o, (observations tr).getLast? = some o ∧ o.exceeds gate.thresholdSeconds = true

/-- Then a standby is behind, unless the threshold is negative. -/
theorem Exceeding.lagging {gate : ReplicaLagGate} {tr : Trace clock} (h : Exceeding gate tr)
    (hthreshold : 0 ≤ gate.thresholdSeconds) : Lagging gate tr := by
  obtain ⟨o, hlast, hexceeds⟩ := h
  exact ⟨o, hlast, LagObservation.behind_of_exceeds hthreshold hexceeds⟩

/-- What the gate has done when it returns this verdict. -/
structure Outcome (gate : ReplicaLagGate) (policy : RunPolicy) (verdict : LagGateVerdict)
    (tr : Trace clock) : Prop where
  proceeded : verdict = .proceed → policy.dryRun = false →
    ∀ o, (observations tr).getLast? = some o → o.Within gate.thresholdSeconds
  skipped : verdict = .skipTable → (0 ≤ gate.thresholdSeconds → Lagging gate tr) ∧
    (gate.maxWaitSeconds = 0 ∨
      ∃ waited, elapsed tr = some waited ∧ fromSecs gate.maxWaitSeconds ≤ waited)
  counted : countedSkips tr = if verdict = .skipTable then 1 else 0
  added : addedWaits tr = (elapsed tr).toList.map (· / 1000000)

/-- Every sleep is asked for within the budget and because a standby is behind, and nothing is done
but what belongs to the gate. -/
structure Bounded (gate : ReplicaLagGate) (past : Trace clock) (m : Moment clock) : Prop where
  sleep : ∀ duration, m.op = .sleepOrShutdown duration → WithinBudget gate (past ++ [m])
  exceeding : ∀ duration, m.op = .sleepOrShutdown duration → Exceeding gate past
  watching : m.op.Watching = true

/-- A trace whose sleeps are all within the budget is. -/
theorem within_budget_of_accepts {gate : ReplicaLagGate} {past tr : Trace clock}
    (h : Accepts (Bounded gate) past tr) (hpast : WithinBudget gate past) :
    WithinBudget gate (past ++ tr) := by
  induction tr generalizing past with
  | nil => rwa [List.append_nil]
  | cons m tr ih =>
      have hm : WithinBudget gate (past ++ [m]) := by
        cases hsleep : Moment.sleep m with
        | none =>
            have hnone : sleeps [m] = [] := List.filterMap_cons_none hsleep
            rw [WithinBudget, sleeps_append, hnone, List.append_nil]
            exact hpast
        | some duration =>
            exact h.1.sleep duration (op_of_sleep hsleep)
      have hrest := ih h.2 hm
      rwa [List.append_assoc] at hrest

section Waiting

variable {gate : ReplicaLagGate} {started rounds : Nat} {tr tr' : Trace clock}

/-- A quiet stretch keeps the wait. -/
theorem Waiting.quiet (h : Waiting started tr) (hquiet : Quiet tr tr') : Waiting started tr' where
  started := by rw [hquiet.read, h.started]
  waits := by rw [hquiet.waits, h.waits]
  skips := by rw [hquiet.skips, h.skips]

/-- A later reading. -/
theorem Waiting.read (h : Waiting started tr) (found time : Nat) :
    Waiting started (tr ++ [⟨found, .now, time⟩]) where
  started := by rw [readings_append, List.head?_append, h.started]; rfl
  waits := by rw [added_waits_append, h.waits]; rfl
  skips := by rw [counted_skips_append, h.skips]; rfl

/-- A sleep. -/
theorem Waiting.sleep (h : Waiting started tr) (found duration : Nat) (wake : Wake) :
    Waiting started (tr ++ [⟨found, .sleepOrShutdown duration, wake⟩]) where
  started := by rw [readings_append, List.head?_append, h.started]; rfl
  waits := by rw [added_waits_append, h.waits]; rfl
  skips := by rw [counted_skips_append, h.skips]; rfl

/-- It keeps the polling, too. -/
theorem Polling.quiet (h : Polling gate started rounds tr) (hquiet : Quiet tr tr') :
    Polling gate started rounds tr' where
  toWaiting := h.toWaiting.quiet hquiet
  asked := by rw [hquiet.asleep, h.asked]
  total := by rw [hquiet.asleep, h.total]

/-- The time may be read again. -/
theorem Polling.read (h : Polling gate started rounds tr) (found time : Nat) :
    Polling gate started rounds (tr ++ [⟨found, .now, time⟩]) where
  toWaiting := h.toWaiting.read found time
  asked := by rw [sleeps_append, ← h.asked]; exact congrArg List.length (List.append_nil _)
  total := by rw [sleeps_append, ← h.total]; exact congrArg List.sum (List.append_nil _)

/-- The sleeps with one more. -/
theorem sleeps_sleep (tr : Trace clock) (found duration : Nat) (wake : Wake) :
    sleeps (tr ++ [⟨found, .sleepOrShutdown duration, wake⟩]) = sleeps tr ++ [duration] :=
  sleeps_append _ _

/-- A sleep ends a round. -/
theorem Polling.sleep (h : Polling gate started rounds tr) (found : Nat) (wake : Wake) :
    Polling gate started (rounds + 1)
      (tr ++ [⟨found, .sleepOrShutdown gate.poll, wake⟩]) where
  toWaiting := h.toWaiting.sleep found gate.poll wake
  asked := by rw [sleeps_sleep, List.length_append, h.asked, List.length_singleton]
  total := by
    rw [sleeps_sleep, List.sum_append, h.total, List.sum_singleton, Nat.add_mul, Nat.one_mul]

/-- A sleep that the budget allows. -/
theorem Polling.within_budget {duration : Nat} (h : Polling gate started rounds tr)
    (hunspent : rounds * gate.poll < fromSecs gate.maxWaitSeconds)
    (hduration : rounds * gate.poll + duration ≤ fromSecs gate.maxWaitSeconds) (found : Nat)
    (wake : Wake) :
    WithinBudget gate (tr ++ [⟨found, .sleepOrShutdown duration, wake⟩]) := by
  have hrounds : ¬gate.maxSleeps ≤ rounds := by
    rw [gate.max_sleeps_le_iff]
    omega
  constructor
  · rw [sleeps_sleep, List.length_append, h.asked, List.length_singleton]
    omega
  · rw [sleeps_sleep, List.sum_append, h.total, List.sum_singleton]
    exact hduration

/-- The last observation stays the last. -/
theorem Exceeding.append (h : Exceeding gate tr) (hnone : observations tr' = []) :
    Exceeding gate (tr ++ tr') := by
  rwa [Exceeding, observations_append, hnone, List.append_nil]

/-- The wait is over after a last reading: what is added is the time since the first. -/
structure Waited (started found : Nat) (tr tr' : Trace clock) : Prop where
  spent : elapsed tr' = some (found - started)
  waits : addedWaits tr' = [(found - started) / 1000000]
  skips : countedSkips tr' = 0
  observed : observations tr' = observations tr

/-- The loop was not entered, and no table skipped. -/
theorem Quiet.outcome {policy : RunPolicy} {verdict : LagGateVerdict} (h : Quiet [] tr)
    (hskip : verdict ≠ .skipTable)
    (hwithin : verdict = .proceed → policy.dryRun = false →
      ∀ o, (observations tr).getLast? = some o → o.Within gate.thresholdSeconds) :
    Outcome gate policy verdict tr where
  proceeded := hwithin
  skipped heq := absurd heq hskip
  counted := by
    rw [if_neg hskip, h.skips]
    rfl
  added := by
    rw [h.waits, h.elapsed_eq]
    rfl

/-- A quiet stretch keeps what was waited. -/
theorem Waited.quiet {found : Nat} {tr'' : Trace clock} (h : Waited started found tr tr')
    (hquiet : Quiet tr' tr'') (hobserved : observations tr'' = observations tr') :
    Waited started found tr tr'' where
  spent := hquiet.elapsed_eq.trans h.spent
  waits := hquiet.waits.trans h.waits
  skips := hquiet.skips.trans h.skips
  observed := hobserved.trans h.observed

/-- So does a log line. -/
theorem Waited.log {found state : Nat} {line : LogLine} {answer : Unit}
    (h : Waited started found tr tr') :
    Waited started found tr (tr' ++ [⟨state, .log line, answer⟩]) :=
  h.quiet .log ((observations_append _ _).trans (List.append_nil _))

/-- A wait that ends without a skip. -/
theorem Waited.outcome {policy : RunPolicy} {verdict : LagGateVerdict} {found : Nat}
    (h : Waited started found tr tr') (hskip : verdict ≠ .skipTable)
    (hwithin : verdict = .proceed →
      ∀ o, (observations tr).getLast? = some o → o.Within gate.thresholdSeconds) :
    Outcome gate policy verdict tr' where
  proceeded hproceed _ := by
    rw [h.observed]
    exact hwithin hproceed
  skipped heq := absurd heq hskip
  counted := by rw [if_neg hskip, h.skips]
  added := by
    rw [h.waits, h.spent]
    rfl

end Waiting

section WaitRules

variable {gate : ReplicaLagGate} {table : TableKey} {policy : RunPolicy} {started rounds time : Nat}
  {past : Trace clock} {E : AnyError → Trace clock → Nat → Prop}

/-- Only sleeps are bounded. -/
theorem bounded_admits_awake : AdmitsAwake (Bounded gate) := by
  intro past m hawake hwatching
  have hno : ∀ duration, m.op ≠ .sleepOrShutdown duration := by
    intro duration hop
    rw [Moment.sleep, hop] at hawake
    cases hawake
  exact ⟨fun duration hop => absurd hop (hno duration),
    fun duration hop => absurd hop (hno duration),
    hwatching⟩

/-- The time since the first reading is added, whatever the trace was. -/
theorem wp_add_waited (hwaiting : Waiting started past) :
    wp clock (Bounded gate) (addWaited started)
      (fun _ past' _ => ∃ found, time ≤ found ∧ Waited started found past past') E past time := by
  refine wp_seq (wp_now bounded_admits_awake) fun found past' after h => ?_
  obtain ⟨hfound, -, rfl⟩ := h
  refine wp_mono (wp_step_clock fun _ _ => bounded_admits_awake _ _ rfl rfl) ?_ fun _ _ _ h => h
  intro _ past' _ h
  obtain ⟨later, -, -, rfl⟩ := h
  refine ⟨found, hfound, ?_, ?_, ?_, ?_⟩
  · rw [elapsed, readings_append, readings_append, List.head?_append, List.head?_append,
      hwaiting.started]
    show (do
      let last ← (readings past ++ [found] ++ []).getLast?
      pure (last - started)) = some (found - started)
    rw [List.append_nil, List.getLast?_concat]
    rfl
  · rw [added_waits_append, added_waits_append, hwaiting.waits]
    rfl
  · rw [counted_skips_append, counted_skips_append, hwaiting.skips]
    rfl
  · rw [observations_append, observations_append]
    exact (List.append_nil _).trans (List.append_nil _)

/-- A sleep that the budget allows. -/
theorem wp_gate_sleep {duration : Nat} (hexceeding : Exceeding gate past)
    (hbudget : ∀ found wake,
      WithinBudget gate (past ++ [⟨found, .sleepOrShutdown duration, wake⟩])) :
    wp clock (Bounded gate) (sleepOrShutdown duration : RunM Wake)
      (fun wake past' after => ∃ found, time ≤ found ∧ found ≤ after ∧
        (wake = .slept → found + duration ≤ after) ∧
        past' = past ++ [⟨found, .sleepOrShutdown duration, wake⟩]) E past time := by
  refine wp_mono (wp_step_clock fun found wake =>
    ⟨fun _ _ => hbudget found wake, fun _ _ => hexceeding, rfl⟩) ?_
    fun _ _ _ h => h
  intro wake past' after h
  obtain ⟨found, hfound, ⟨hafter, hslept⟩, rfl⟩ := h
  exact ⟨found, hfound, hafter, hslept, rfl⟩

/-- The budget is spent: the table is skipped. -/
theorem wp_give_up_waiting (hwaiting : Waiting started past)
    (hexceeding : Exceeding gate past) (hspent : started + fromSecs gate.maxWaitSeconds ≤ time) :
    wp clock (Bounded gate) (giveUpWaiting started)
      (fun verdict past' _ => Outcome gate policy verdict past') E past time := by
  refine wp_seq (wp_add_waited hwaiting) ?_
  intro _ past' after h
  obtain ⟨found, hfound, hwaited⟩ := h
  refine wp_seq (wp_step_clock fun _ _ => bounded_admits_awake _ _ rfl rfl) fun _ past'' _ h => ?_
  obtain ⟨later, -, -, rfl⟩ := h
  have helapsed : elapsed (past' ++ [(⟨later, .gateRecordSkip, ()⟩ : Moment clock)]) =
      some (found - started) := by
    have hreadings : readings (past' ++ [(⟨later, .gateRecordSkip, ()⟩ : Moment clock)]) =
        readings past' := (readings_append _ _).trans (List.append_nil _)
    rw [elapsed, hreadings]
    exact hwaited.spent
  refine ⟨fun h => ?_, fun _ => ⟨?_, .inr ⟨found - started, helapsed, by omega⟩⟩, ?_, ?_⟩
  · cases h
  · have hnone : observations [(⟨later, .gateRecordSkip, ()⟩ : Moment clock)] = [] := rfl
    have hlast : Exceeding gate (past' ++ [(⟨later, .gateRecordSkip, ()⟩ : Moment clock)]) := by
      rw [Exceeding, observations_append, hwaited.observed, hnone, List.append_nil]
      exact hexceeding
    exact hlast.lagging
  · rw [counted_skips_append, hwaited.skips]
    rfl
  · rw [added_waits_append, hwaited.waits, helapsed]
    rfl

/-- What was slept and what is left fit in the budget. -/
theorem budget_fits {slept found deadline duration : Nat} (hslept : started + slept ≤ found)
    (hspan : found - started < deadline) (hclipped : duration ≤ deadline - (found - started)) :
    slept + duration ≤ deadline := by
  omega

/-- If the budget is not spent after a sleep, the sleep was a full one: one that was cut to what is
left would have spent it. -/
theorem full_sleep {slept found deadline poll asleep again : Nat}
    (hslept : started + slept ≤ found) (hasleep : found ≤ asleep)
    (hawake : asleep + min poll (deadline - (found - started)) ≤ again)
    (hunspent : ¬deadline ≤ again - started) :
    min poll (deadline - (found - started)) = poll ∧ started + (slept + poll) ≤ again ∧
      slept + poll < deadline := by
  omega

/-- The loop, from a round at whose head `rounds` full sleeps are over and the budget is not: by
induction on the rounds that are left, of which there are enough. -/
theorem wp_poll_rounds {left : Nat} {rest : RunM LagGateVerdict}
    (hleft : gate.maxSleeps ≤ rounds + left)
    (hpolling : Polling gate started rounds past) (hexceeding : Exceeding gate past)
    (hslept : started + rounds * gate.poll ≤ time)
    (hunspent : rounds * gate.poll < fromSecs gate.maxWaitSeconds) :
    wp clock (Bounded gate) ((pollRound gate table started)^[left] rest)
      (fun verdict past' _ => Outcome gate policy verdict past')
      (fun _ past' _ => countedSkips past' = 0) past time := by
  induction left generalizing rounds past time with
  | zero =>
      -- no round is left, so the full sleeps have used up the budget
      have hover := (gate.max_sleeps_le_iff rounds).1 hleft
      omega
  | succ left ih =>
      rw [Function.iterate_succ_apply']
      refine wp_seq (wp_now bounded_admits_awake) fun found past' after h => ?_
      obtain ⟨hfound, hafter, rfl⟩ := h
      have hread := hpolling.read found found
      have hbehind : Exceeding gate (past ++ [⟨found, .now, found⟩]) := hexceeding.append rfl
      refine wp_ite.2 ⟨fun hspent => ?_, fun hleft => ?_⟩
      · exact wp_give_up_waiting hread.toWaiting hbehind (by omega)
      have hspan : found - started < fromSecs gate.maxWaitSeconds := by omega
      have hbudget : min (fromSecs (max gate.pollIntervalSeconds 1))
          (fromSecs gate.maxWaitSeconds - (found - started)) =
          min gate.poll (fromSecs gate.maxWaitSeconds - (found - started)) := rfl
      rw [hbudget]
      -- the sleep is clipped to what the budget has left
      generalize hduration : min gate.poll (fromSecs gate.maxWaitSeconds - (found - started)) =
        duration
      have hclipped : duration ≤ fromSecs gate.maxWaitSeconds - (found - started) := by
        rw [← hduration]
        exact Nat.min_le_right _ _
      have hfits := budget_fits (hslept.trans hfound) hspan hclipped
      refine wp_seq (wp_gate_sleep hbehind (hread.within_budget hunspent hfits)) ?_
      intro wake past' after' h
      obtain ⟨asleep, hasleep, hawake, hslept', rfl⟩ := h
      have hwaiting := hread.toWaiting.sleep asleep duration wake
      cases wake with
      | shutdown =>
          refine wp_seq (wp_add_waited hwaiting) fun _ past' _ h => ?_
          obtain ⟨_, _, hwaited⟩ := h
          refine hwaited.outcome (by decide) fun h => ?_
          cases h
      | slept =>
          replace hslept' : asleep + duration ≤ after' := hslept' rfl
          refine wp_bind.2 (wp_mono (wp_observe_replica_lag bounded_admits_awake) ?_
            fun _ _ _ hquiet => hquiet.skips.trans hwaiting.skips)
          intro current past' after'' h
          obtain ⟨hlater, hquiet, hobserved⟩ := h
          have hlast : (observations past').getLast? = some current := by
            rw [hobserved, List.getLast?_concat]
          have hstill := hwaiting.quiet hquiet
          refine wp_ite.2 ⟨fun hwithin => ?_, fun hexceeds => ?_⟩
          · have hcurrent : current.exceeds gate.thresholdSeconds = false := by simpa using hwithin
            refine wp_seq (wp_add_waited hstill) fun _ past'' _ h => ?_
            obtain ⟨_, _, hwaited⟩ := h
            refine wp_seq (wp_step_clock fun _ _ => bounded_admits_awake _ _ rfl rfl) ?_
            intro _ past₃ _ h
            obtain ⟨_, _, _, rfl⟩ := h
            refine hwaited.log.outcome (by decide) fun _ o ho => ?_
            obtain rfl : current = o := Option.some.inj (hlast.symm.trans ho)
            exact LagObservation.within_of_not_exceeds hcurrent
          · have hcurrent : current.exceeds gate.thresholdSeconds = true := by simpa using hexceeds
            have hexceeding : Exceeding gate past' :=
              ⟨current, hlast, hcurrent⟩
            refine wp_seq (wp_now bounded_admits_awake) fun again past'' after₃ h => ?_
            obtain ⟨hagain, hafter₃, rfl⟩ := h
            have hexceeding' : Exceeding gate (past' ++ [⟨again, .now, again⟩]) :=
              hexceeding.append rfl
            refine wp_ite.2 ⟨fun hspent => ?_, fun hunspent' => ?_⟩
            · exact wp_give_up_waiting (hstill.read again again) hexceeding' (by omega)
            · -- the sleep was a full one: a shorter one would have used up the budget
              obtain ⟨hfull, htime, hleft'⟩ := full_sleep (hslept.trans hfound)
                (hafter.trans hasleep) (hduration ▸ hslept'.trans (hlater.trans hagain)) hunspent'
              obtain rfl : duration = gate.poll := hduration.symm.trans hfull
              have hnext : rounds * gate.poll + gate.poll = (rounds + 1) * gate.poll :=
                (Nat.succ_mul _ _).symm
              rw [hnext] at htime hleft'
              have hpolled := ((hread.sleep asleep .slept).quiet hquiet).read again again
              exact ih (by omega) hpolled hexceeding' (htime.trans hafter₃) hleft'

/-- The loop, once the budget is known not to be zero. -/
theorem wp_enter_loop {left : Nat} {rest : RunM LagGateVerdict}
    (hleft : gate.maxSleeps ≤ left)
    (hwait : ¬gate.maxWaitSeconds = 0) (hquiet : Quiet [] past)
    (hexceeding : Exceeding gate past) (hstarted : started ≤ time) :
    wp clock (Bounded gate) ((pollRound gate table started)^[left] rest)
      (fun verdict past' _ => Outcome gate policy verdict past')
      (fun _ past' _ => countedSkips past' = 0)
      (past ++ [⟨started, .now, started⟩]) time := by
  have hpolling : Polling gate started 0 (past ++ [⟨started, .now, started⟩]) :=
    { started := by rw [readings_append, hquiet.read]; rfl
      waits := by rw [added_waits_append, hquiet.waits]; rfl
      skips := by rw [counted_skips_append, hquiet.skips]; rfl
      asked := by rw [sleeps_append, hquiet.asleep]; rfl
      total := by rw [sleeps_append, hquiet.asleep, Nat.zero_mul]; rfl }
  have hbudget : 0 < fromSecs gate.maxWaitSeconds := Nat.mul_pos (by omega) (by omega)
  have hbehind : Exceeding gate (past ++ [⟨started, .now, started⟩]) := hexceeding.append rfl
  refine wp_poll_rounds (by omega) hpolling hbehind ?_ ?_
  · rw [Nat.zero_mul]
    exact hstarted
  · rw [Nat.zero_mul]
    exact hbudget

/-- One call of the gate. -/
theorem wp_unrolled {p : RunM LagGateVerdict} (hp : IsUnrolled gate table policy p) (time : Nat) :
    wp clock (Bounded gate) p (fun verdict past' _ => Outcome gate policy verdict past')
      (fun _ past' _ => countedSkips past' = 0) [] time := by
  obtain ⟨left, rest, hleft, rfl⟩ := hp
  refine wp_seq (wp_step_clock fun _ _ => bounded_admits_awake _ _ rfl rfl) ?_
  intro disabled past' after h
  obtain ⟨found, -, -, rfl⟩ := h
  have hfirst : Quiet [] ([] ++ [(⟨found, .gateIsDisabled, disabled⟩ : Moment clock)]) :=
    .append rfl rfl rfl rfl
  refine wp_ite.2 ⟨fun _ => hfirst.outcome (by decide) fun _ _ o ho => ?_, fun _ => ?_⟩
  · cases ho
  refine wp_bind.2 (wp_mono (wp_observe_replica_lag bounded_admits_awake) ?_
    fun _ _ _ h => (hfirst.trans h).skips)
  intro observation past' after' h
  obtain ⟨-, hobserving, hobserved⟩ := h
  have hquiet := hfirst.trans hobserving
  have hlast : (observations past').getLast? = some observation := by
    rw [hobserved, List.getLast?_concat]
  -- no standby is seen: the gate is disabled and the table goes on
  have hunseen : (∀ standbys, observation ≠ .observed standbys) →
      wp clock (Bounded gate) (do gateDisable; pure LagGateVerdict.proceed : RunM _)
        (fun verdict past' _ => Outcome gate policy verdict past')
        (fun _ past' _ => countedSkips past' = 0) past' after' := by
    intro hnone
    refine wp_seq (wp_step_clock fun _ _ => bounded_admits_awake _ _ rfl rfl) fun _ past'' _ h => ?_
    obtain ⟨later, -, -, rfl⟩ := h
    refine (hquiet.trans (.append rfl rfl rfl rfl)).outcome (by decide) ?_
    intro _ _ o ho standbys hseen
    have hsame : observations (past' ++ [(⟨later, .gateDisable, ()⟩ : Moment clock)]) =
        observations past' := (observations_append _ _).trans (List.append_nil _)
    have ho' := (congrArg List.getLast? hsame).symm.trans ho
    obtain rfl : observation = o := Option.some.inj (hlast.symm.trans ho')
    exact absurd hseen (hnone standbys)
  cases observation with
  | noReplicas => exact hunseen fun _ h => LagObservation.noConfusion h
  | unobservable => exact hunseen fun _ h => LagObservation.noConfusion h
  | observed standbys =>
      refine wp_ite.2 ⟨fun hwithin => ?_, fun hexceeds => ?_⟩
      · refine hquiet.outcome (by decide) fun _ _ o ho => ?_
        obtain rfl := Option.some.inj (hlast.symm.trans ho)
        exact LagObservation.within_of_not_exceeds (by simpa using hwithin)
      have hexceeding : Exceeding gate past' :=
        ⟨_, hlast, by simpa using hexceeds⟩
      -- a dry run does not wait
      refine wp_ite.2 ⟨fun hdry => hquiet.outcome (by decide) fun _ hreal => ?_, fun _ => ?_⟩
      · rw [hdry] at hreal
        cases hreal
      -- a budget of zero skips the table at once
      refine wp_ite.2 ⟨fun hzero => ?_, fun hwait => ?_⟩
      · refine wp_seq (wp_step_clock fun _ _ => bounded_admits_awake _ _ rfl rfl) ?_
        intro _ past'' _ h
        obtain ⟨later, -, -, rfl⟩ := h
        refine ⟨fun h => ?_, fun _ => ⟨(hexceeding.append rfl).lagging, .inl hzero⟩, ?_, ?_⟩
        · cases h
        · rw [counted_skips_append, hquiet.skips]
          rfl
        · rw [added_waits_append, hquiet.waits, elapsed, readings_append, hquiet.read]
          rfl
      · refine wp_seq (wp_now bounded_admits_awake) fun started past'' _ h => ?_
        obtain ⟨_, hafter, rfl⟩ := h
        exact wp_enter_loop hleft hwait hquiet hexceeding hafter

end WaitRules

/-! ## One call of the gate -/

/-- One call of the gate, whatever the clock shows and whatever is observed: how often and how long
it sleeps, what its verdict rests on, and what it counts. The gate of the model is one of the
unrolled ones, and nothing behind the last round is ever reached. -/
theorem replica_lag_gate_call {gate : ReplicaLagGate} (hpoll : 1 ≤ gate.pollIntervalSeconds)
    (table : TableKey) (policy : RunPolicy) :
    IsUnrolled gate table policy (waitForReplicaLag gate table policy) ∧
      ∀ p, IsUnrolled gate table policy p → ∀ start tr last q, Exec clock start p tr last q →
        (sleeps tr).length ≤ gate.maxWaitSeconds ⌈/⌉ gate.pollIntervalSeconds ∧
        (sleeps tr).sum ≤ fromSecs gate.maxWaitSeconds ∧
        (∀ m ∈ tr, m.op.Watching = true) ∧
        (∀ verdict, q = .pure verdict → Outcome gate policy verdict tr) ∧
        (∀ err, q = .fail err → countedSkips tr = 0) := by
  refine ⟨is_unrolled_wait_for_replica_lag gate table policy, ?_⟩
  intro p hp start tr last q hexec
  have hgate := wp_unrolled hp start
  obtain ⟨haccepts, -⟩ := hexec.sound .refl hgate
  have hbudget : WithinBudget gate tr :=
    within_budget_of_accepts haccepts ⟨Nat.zero_le _, Nat.zero_le _⟩
  have hinterval : max gate.pollIntervalSeconds 1 = gate.pollIntervalSeconds := by omega
  refine ⟨?_, hbudget.2, ?_, ?_, ?_⟩
  · rw [← hinterval]
    exact hbudget.1
  · intro m hm
    obtain ⟨before, after, rfl⟩ := List.append_of_mem hm
    exact haccepts.at.watching
  · intro verdict hq
    subst hq
    obtain ⟨_, -, houtcome⟩ := hexec.returned hgate
    exact houtcome
  · intro err hq
    subst hq
    obtain ⟨_, -, hskips⟩ := hexec.failed hgate
    exact hskips

/-- A standby that stays half a minute behind, on a clock that nothing but the sleeps moves. -/
def farBehind (time : Nat) : (op : Op) → op.Answer × Nat
  | .call .getCanReadReplicationStats => (.ok true, time)
  | .call .getReplicationLag => (.ok [⟨"replica", "streaming", "async", some 30⟩], time)
  | .call _ => (.error .closed, time)
  | .now => (time, time)
  | .sleepOrShutdown duration => (.slept, time + duration)
  | .isClosed | .shutdownRequested | .isRequested | .gateIsDisabled => (false, time)
  | .gateDisable | .gateAddWaited _ | .gateRecordSkip | .log _ | .mark _ => ((), time)

/-- The wait for it with a budget of seven seconds. -/
def sevenSeconds : Trace clock × Nat × Except AnyError LagGateVerdict :=
  (waitForReplicaLag (.new 10 7) ("public", "t") ⟨false, false, false, false, 0, 0, 1⟩).play clock
    farBehind (0 : Nat)

/-- Two sleeps, a skipped table, and seven seconds that are counted. -/
theorem seven_seconds_skip :
    sleeps sevenSeconds.1 = [5000000000, 2000000000] ∧ (sleeps sevenSeconds.1).length ≤ 7 ⌈/⌉ 5 ∧
      Outcome (.new 10 7) ⟨false, false, false, false, 0, 0, 1⟩ .skipTable sevenSeconds.1 := by
  have hallowed : ∀ (time : Nat) op,
      clock.Answers time op (farBehind time op).1 (farBehind time op).2 := by
    intro time op
    cases op with
    | call c => cases c <;> exact ⟨Nat.le_refl _, trivial⟩
    | now => exact ⟨Nat.le_refl _, rfl⟩
    | sleepOrShutdown duration => exact ⟨Nat.le_add_right _ _, fun _ => Nat.le_refl _⟩
    | _ => exact ⟨Nat.le_refl _, trivial⟩
  have hexec := Prog.exec_play (W := clock) farBehind hallowed
    (waitForReplicaLag (.new 10 7) ("public", "t") ⟨false, false, false, false, 0, 0, 1⟩) (0 : Nat)
  have hend : sevenSeconds.2.2 = .ok .skipTable := by decide
  have hpoll : 1 ≤ (ReplicaLagGate.new 10 7).pollIntervalSeconds := by decide
  have hcall := replica_lag_gate_call hpoll ("public", "t") ⟨false, false, false, false, 0, 0, 1⟩
  obtain ⟨hnumber, -, -, hverdict, -⟩ := hcall.2 _ hcall.1 _ _ _ _ hexec
  exact ⟨by decide, hnumber, hverdict _ (congrArg Prog.ofExcept hend)⟩

end PgMaintainer
