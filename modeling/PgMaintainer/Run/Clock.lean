import PgMaintainer.Operations.Gates
import PgMaintainer.Rules

/-!
# Runs on a clock

`clock` is the world in which time never runs back and a sleep that is not cut short lasts at
least as long as was asked for. What the replication-lag gate does there is read off its trace: the
sleeps it asks for, the clock readings, the observations, and what it adds to its counters.
-/

namespace PgMaintainer

open Interaction

/-- The world with a clock, its state the time in nanoseconds. -/
def clock : World session where
  State := Nat
  Drift before after := before ≤ after
  Answers before op answer after := before ≤ after ∧
    match op with
    | .now => answer = before
    | .sleepOrShutdown duration => answer = .slept → before + duration ≤ after
    | _ => True

/-! ## Reading a trace -/

section Gauges

variable {W : World session}

/-- How long a step asks to sleep. -/
def Moment.sleep (m : Moment W) : Option Nat :=
  match m.op with
  | .sleepOrShutdown duration => some duration
  | _ => none

/-- The time a step reads. -/
def Moment.reading (m : Moment W) : Option Nat :=
  match m with
  | ⟨_, .now, time⟩ => some time
  | _ => none

/-- What a step shows of the standbys: that they cannot be read, or what was read. -/
def Moment.observation (m : Moment W) : Option LagObservation :=
  match m with
  | ⟨_, .call .getCanReadReplicationStats, .ok false⟩ => some .unobservable
  | ⟨_, .call .getReplicationLag, .ok rows⟩ =>
      some (if rows.isEmpty then .noReplicas else .observed rows)
  | _ => none

/-- What a step adds to `total_waited`, in milliseconds. -/
def Moment.waited (m : Moment W) : Option Nat :=
  match m.op with
  | .gateAddWaited milliseconds => some milliseconds
  | _ => none

/-- Whether a step adds one to `tables_skipped`. -/
def Moment.countsSkip (m : Moment W) : Bool :=
  match m.op with
  | .gateRecordSkip => true
  | _ => false

/-- A step that sleeps is a sleep. -/
theorem op_of_sleep {m : Moment W} {duration : Nat} (h : Moment.sleep m = some duration) :
    m.op = .sleepOrShutdown duration := by
  rw [Moment.sleep] at h
  split at h
  · cases h
    assumption
  · cases h

/-- The durations that were asked for. -/
def sleeps (tr : Trace W) : List Nat := tr.filterMap Moment.sleep

/-- The times that were read. -/
def readings (tr : Trace W) : List Nat := tr.filterMap Moment.reading

/-- The observations that were made. -/
def observations (tr : Trace W) : List LagObservation := tr.filterMap Moment.observation

/-- What was added to `total_waited`. -/
def addedWaits (tr : Trace W) : List Nat := tr.filterMap Moment.waited

/-- What was added to `tables_skipped`. -/
def countedSkips (tr : Trace W) : Nat := tr.countP Moment.countsSkip

/-- The time between the first and the last reading. -/
def elapsed (tr : Trace W) : Option Nat := do
  let first ← (readings tr).head?
  let last ← (readings tr).getLast?
  pure (last - first)

variable (tr tr' : Trace W)

/-- The sleeps of two traces in a row. -/
theorem sleeps_append : sleeps (tr ++ tr') = sleeps tr ++ sleeps tr' := List.filterMap_append

/-- The readings of the time of two traces in a row. -/
theorem readings_append : readings (tr ++ tr') = readings tr ++ readings tr' :=
  List.filterMap_append

/-- The observations of two traces in a row. -/
theorem observations_append : observations (tr ++ tr') = observations tr ++ observations tr' :=
  List.filterMap_append

/-- The waits of two traces in a row. -/
theorem added_waits_append : addedWaits (tr ++ tr') = addedWaits tr ++ addedWaits tr' :=
  List.filterMap_append

/-- The skips of two traces in a row. -/
theorem counted_skips_append : countedSkips (tr ++ tr') = countedSkips tr + countedSkips tr' :=
  List.countP_append

variable {tr tr'}

/-- Between the two traces there were observations at most. -/
structure Quiet (tr tr' : Trace W) : Prop where
  asleep : sleeps tr' = sleeps tr
  read : readings tr' = readings tr
  waits : addedWaits tr' = addedWaits tr
  skips : countedSkips tr' = countedSkips tr

/-- Two quiet stretches are one. -/
theorem Quiet.trans {tr'' : Trace W} (h : Quiet tr tr') (h' : Quiet tr' tr'') : Quiet tr tr'' where
  asleep := h'.asleep.trans h.asleep
  read := h'.read.trans h.read
  waits := h'.waits.trans h.waits
  skips := h'.skips.trans h.skips

/-- Steps that are no sleep, no reading and no count. -/
theorem Quiet.append (hsleeps : sleeps tr' = []) (hreadings : readings tr' = [])
    (hwaits : addedWaits tr' = [])
    (hskips : countedSkips tr' = 0) : Quiet tr (tr ++ tr') where
  asleep := by rw [sleeps_append, hsleeps, List.append_nil]
  read := by rw [readings_append, hreadings, List.append_nil]
  waits := by rw [added_waits_append, hwaits, List.append_nil]
  skips := by rw [counted_skips_append, hskips, Nat.add_zero]

/-- A call reads no clock and does not sleep. -/
theorem Quiet.call {state : W.State} {c : Call} {answer : Except PgError c.Row} :
    Quiet tr (tr ++ [⟨state, .call c, answer⟩]) := .append rfl rfl rfl rfl

/-- Nor does a log line. -/
theorem Quiet.log {state : W.State} {line : LogLine} {answer : Unit} :
    Quiet tr (tr ++ [⟨state, .log line, answer⟩]) := .append rfl rfl rfl rfl

/-- A quiet stretch takes no time that is read. -/
theorem Quiet.elapsed_eq (h : Quiet tr tr') : elapsed tr' = elapsed tr := by
  rw [elapsed, elapsed, h.read]

end Gauges

/-- The operations that the gate consists of. -/
def Op.Watching : Op → Bool
  | .call .getCanReadReplicationStats | .call .getReplicationLag | .now | .sleepOrShutdown _
  | .gateIsDisabled | .gateDisable | .gateAddWaited _ | .gateRecordSkip | .log _ => true
  | _ => false

/-! ## Observations -/

/-- The lag of a standby, none counting as zero. -/
def StandbyLag.lag (s : StandbyLag) : ℚ := s.replayLagSeconds.getD 0

/-- No standby that was seen lags more than the threshold. -/
def LagObservation.Within (o : LagObservation) (thresholdSeconds : ℚ) : Prop :=
  ∀ standbys, o = .observed standbys → ∀ s ∈ standbys, s.lag ≤ thresholdSeconds

/-- What was seen are standbys, and some standby lags more than the threshold. -/
def LagObservation.Behind (o : LagObservation) (thresholdSeconds : ℚ) : Prop :=
  ∃ standbys, o = .observed standbys ∧ ∃ s ∈ standbys, thresholdSeconds < s.lag

instance (o : LagObservation) (thresholdSeconds : ℚ) : Decidable (o.Behind thresholdSeconds) :=
  match o with
  | .observed standbys =>
      decidable_of_iff (∃ s ∈ standbys, thresholdSeconds < s.lag)
        ⟨fun h => ⟨standbys, rfl, h⟩, fun h => by
          obtain ⟨_, heq, h⟩ := h
          cases heq
          exact h⟩
  | .noReplicas => .isFalse fun h => h.elim fun _ heq => LagObservation.noConfusion heq.1
  | .unobservable => .isFalse fun h => h.elim fun _ heq => LagObservation.noConfusion heq.1

/-- A threshold is below the worst lag if it is below one of them. By induction on the lags. -/
theorem lt_foldl_max {lags : List ℚ} {threshold worst : ℚ} :
    threshold < lags.foldl max worst ↔ threshold < worst ∨ ∃ lag ∈ lags, threshold < lag := by
  induction lags generalizing worst with
  | nil => simp
  | cons lag lags ih =>
      rw [List.foldl_cons, ih, lt_max_iff, or_assoc]
      simp

/-- An observation exceeds a threshold if one of its standbys does, or the threshold is negative. -/
theorem exceeds_observed (standbys : List StandbyLag) (threshold : ℚ) :
    (LagObservation.observed standbys).exceeds threshold = true ↔
      threshold < 0 ∨ ∃ s ∈ standbys, threshold < s.lag := by
  have hlags : (∃ lag ∈ standbys.map StandbyLag.lag, threshold < lag) ↔
      ∃ s ∈ standbys, threshold < s.lag := by simp
  rw [← hlags, ← lt_foldl_max]
  exact decide_eq_true_iff

/-- What does not exceed the threshold is within it. -/
theorem LagObservation.within_of_not_exceeds {o : LagObservation} {threshold : ℚ}
    (h : o.exceeds threshold = false) : o.Within threshold := by
  intro standbys ho s hs
  subst ho
  by_contra hlt
  have hexceeds := (exceeds_observed standbys threshold).2 (.inr ⟨s, hs, not_le.1 hlt⟩)
  rw [h] at hexceeds
  cases hexceeds

/-- What exceeds a threshold that is not negative shows a standby that does. -/
theorem LagObservation.behind_of_exceeds {o : LagObservation} {threshold : ℚ}
    (hthreshold : 0 ≤ threshold) (h : o.exceeds threshold = true) : o.Behind threshold := by
  cases o with
  | noReplicas =>
      have hneg : threshold < 0 := of_decide_eq_true h
      exact absurd hneg (not_lt.2 hthreshold)
  | unobservable => cases h
  | observed standbys =>
      obtain hneg | ⟨s, hs, hlt⟩ := (exceeds_observed standbys threshold).1 h
      · exact absurd hneg (not_lt.2 hthreshold)
      · exact ⟨standbys, rfl, s, hs, hlt⟩

/-! ## Calls on the clock -/

section Rules

variable {ok : Trace clock → Moment clock → Prop} {past : Trace clock} {time : Nat} {ε : Type}

/-- The condition admits every operation of the gate but the sleeps. -/
def AdmitsAwake (ok : Trace clock → Moment clock → Prop) : Prop :=
  ∀ past m, Moment.sleep m = none → m.op.Watching = true → ok past m

/-- The time only goes on. -/
theorem drifts_clock {before after : Nat} (h : clock.Drifts before after) : before ≤ after := by
  induction h with
  | refl => exact Nat.le_refl _
  | tail _ hstep ih => exact Nat.le_trans ih hstep

/-- A step on the clock comes no earlier than now, and its answer is one the clock allows. -/
theorem wp_step_clock {op : Op} {E : ε → Trace clock → Nat → Prop}
    (hok : ∀ time answer, ok past ⟨time, op, answer⟩) :
    wp clock ok (.request (S := session) op : Prog session ε _)
      (fun answer past' after => ∃ found, time ≤ found ∧ clock.Answers found op answer after ∧
        past' = past ++ [⟨found, op, answer⟩]) E past time := by
  intro found hdrifts answer after hanswer
  exact ⟨hok found answer, found, drifts_clock hdrifts, hanswer, rfl⟩

/-- A reading is not in the past. -/
theorem wp_now {E : ε → Trace clock → Nat → Prop} (hok : AdmitsAwake ok) :
    wp clock ok (now : Prog session ε _) (fun found past' after =>
      time ≤ found ∧ found ≤ after ∧ past' = past ++ [⟨found, .now, found⟩]) E past time := by
  refine wp_mono (wp_step_clock fun _ _ => hok _ _ rfl rfl) ?_ fun _ _ _ h => h
  intro answer past' after h
  obtain ⟨found, hfound, ⟨hafter, hanswer⟩, hpast⟩ := h
  obtain rfl : answer = found := hanswer
  exact ⟨hfound, hafter, hpast⟩

/-- A call that fails with a context. -/
theorem wp_query_clock {c : Call} {text : String} (hok : AdmitsAwake ok)
    (hwatching : Op.Watching (.call c) = true) :
    wp clock ok (queryContext c text)
      (fun row past' after => time ≤ after ∧
        ∃ found, past' = past ++ [⟨found, .call c, .ok row⟩])
      (fun _ past' _ => Quiet past past') past time := by
  refine wp_queryContext.2 (wp_mono (wp_step_clock fun _ _ => hok _ _ rfl hwatching) ?_
    fun _ _ _ h => h)
  intro answer past' after h
  obtain ⟨found, hfound, ⟨hafter, _⟩, rfl⟩ := h
  cases answer with
  | ok row => exact ⟨Nat.le_trans hfound hafter, found, rfl⟩
  | error err => exact Quiet.call

/-- An observation is made and nothing else. -/
theorem wp_observe_replica_lag (hok : AdmitsAwake ok) :
    wp clock ok observeReplicaLag
      (fun o past' after => time ≤ after ∧ Quiet past past' ∧
        observations past' = observations past ++ [o])
      (fun _ past' _ => Quiet past past') past time := by
  refine wp_seq (wp_query_clock hok rfl) fun canRead past' after h => ?_
  obtain ⟨hafter, found, rfl⟩ := h
  refine wp_ite.2 ⟨fun hcannot => ?_, fun hcan => ?_⟩
  · -- without the privilege the standbys are unobservable
    obtain rfl : canRead = false := by simpa using hcannot
    refine ⟨hafter, .call, ?_⟩
    rw [observations_append]
    rfl
  · obtain rfl : canRead = true := by simpa using hcan
    have hread : observations (past ++ [⟨found, .call .getCanReadReplicationStats, .ok true⟩]) =
        observations past := by
      rw [observations_append]
      exact List.append_nil _
    refine wp_bind.2 (wp_mono (wp_query_clock hok rfl) ?_ fun _ _ _ h => Quiet.call.trans h)
    intro rows past' after' h
    obtain ⟨hafter', found', rfl⟩ := h
    have hobserved : observations (past ++
        [⟨found, .call .getCanReadReplicationStats, .ok true⟩] ++
        [⟨found', .call .getReplicationLag, .ok rows⟩]) =
        observations past ++ [if rows.isEmpty then .noReplicas else .observed rows] := by
      rw [observations_append, hread]
      rfl
    refine wp_ite.2 ⟨fun hempty => ?_, fun hsome => ?_⟩
    · rw [if_pos hempty] at hobserved
      exact ⟨Nat.le_trans hafter hafter', Quiet.call.trans .call, hobserved⟩
    · rw [if_neg hsome] at hobserved
      exact ⟨Nat.le_trans hafter hafter', Quiet.call.trans .call, hobserved⟩

end Rules

end PgMaintainer
