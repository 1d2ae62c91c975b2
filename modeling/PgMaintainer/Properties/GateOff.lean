import PgMaintainer.Run.Clock
import PgMaintainer.Run.Server
import PgMaintainer.Run.Watched

/-!
# Turning the lag gate off

Once an observation shows that there is nothing to watch, the replication-lag gate is to be off for
the rest of the run. The look at the start and the look before a table turn it off. The looks of a
wait do not: there an observation that shows nothing passes for a recovery, and the gate stays on.
-/

namespace PgMaintainer

open Interaction

/-- The gate's flag, and what else may change meanwhile. -/
structure GateState where
  disabled : Bool
  elsewhere : Nat
  deriving DecidableEq, Repr

/-- The world that keeps the gate's flag: it is read as it was last set. -/
def flagged : World session where
  State := GateState
  Drift before after := after.disabled = before.disabled
  Answers before op answer after :=
    match op with
    | .gateIsDisabled => answer = before.disabled ∧ after.disabled = before.disabled
    | .gateDisable => after.disabled = true
    | _ => after.disabled = before.disabled

section Trace

variable {W : World session}

/-- An observation that comes back `Unobservable` or `NoReplicas`. -/
def ShowsNothing (m : Moment W) : Prop :=
  Moment.observation m = some .unobservable ∨ Moment.observation m = some .noReplicas

/-- A step that agrees with a gate that is off: it reads no replication statistics, it logs no
recovery, and if it reads the gate's flag, the flag is set. -/
def Moment.heedsOff (m : Moment W) : Bool :=
  match m with
  | ⟨_, .call .getCanReadReplicationStats, _⟩ => false
  | ⟨_, .call .getReplicationLag, _⟩ => false
  | ⟨_, .log (.lagRecovered _), _⟩ => false
  | ⟨_, .gateIsDisabled, disabled⟩ => disabled
  | _ => true

instance (m : Moment W) : Decidable (ShowsNothing m) := inferInstanceAs (Decidable (_ ∨ _))

/-- Once an observation shows nothing, the gate is off for the rest of the run. -/
def TurnsOff (tr : Trace W) : Prop :=
  ∀ before m after, tr = before ++ m :: after → ShowsNothing m →
    ∀ later ∈ after, Moment.heedsOff later = true

/-- An observation that is made now is made while the gate waits for a table: right after a sleep,
or after a sleep and the question whether the statistics can be read. -/
def MadeWaiting (before : Trace W) : Prop :=
  ∃ front m duration, m.op = .sleepOrShutdown duration ∧ (before = front ++ [m] ∨
    ∃ question, question.op = .call .getCanReadReplicationStats ∧ before = front ++ [m, question])

/-- No observation that is made during a wait shows nothing. -/
def SeesWaiting (tr : Trace W) : Prop :=
  ∀ before m after, tr = before ++ m :: after → ShowsNothing m → ¬MadeWaiting before

/-- Some observation has shown nothing. -/
def SawNothing (past : Trace W) : Prop := ∃ m ∈ past, ShowsNothing m

variable {past : Trace W} {m : Moment W}

/-- What was seen in a trace it was seen in before it went on. -/
theorem SeesWaiting.front {more : Trace W} (h : SeesWaiting (past ++ more)) : SeesWaiting past := by
  intro before m after heq
  refine h before m (after ++ more) ?_
  rw [heq, List.append_assoc, List.cons_append]

/-- An observation without standbys is in the front or the last step. -/
theorem saw_nothing_append : SawNothing (past ++ [m]) ↔ SawNothing past ∨ ShowsNothing m := by
  constructor
  · intro ⟨found, hfound, hshows⟩
    obtain hpast | hlast := List.mem_append.1 hfound
    · exact .inl ⟨found, hpast, hshows⟩
    · rw [List.mem_singleton] at hlast
      exact .inr (hlast ▸ hshows)
  · intro h
    obtain ⟨found, hfound, hshows⟩ | hshows := h
    · exact ⟨found, List.mem_append_left _ hfound, hshows⟩
    · exact ⟨m, List.mem_append_right _ (List.mem_singleton_self m), hshows⟩

/-- Only two calls show anything. -/
theorem not_shows_nothing (h : m.op.Unwatched) : ¬ShowsNothing m := by
  have hnone : Moment.observation m = none := by
    unfold Moment.observation
    split
    · exact h.elim
    · exact h.elim
    · rfl
  rw [ShowsNothing, hnone]
  simp

/-- What is not the gate's own heeds the flag. -/
theorem heeds_off (h : m.op.Unwatched) : Moment.heedsOff m = true := by
  unfold Moment.heedsOff
  split
  · exact h.elim
  · exact h.elim
  · exact h.elim
  · exact h.elim
  · rfl

/-- In a run whose waits see something, nothing was seen yet that turns the gate off. -/
def Watching (past : Trace W) : Prop := SeesWaiting past → ¬SawNothing past

/-- A step that does not show the standbys gone leaves the gate on. -/
theorem Watching.next (h : Watching past) (hm : ¬ShowsNothing m) : Watching (past ++ [m]) := by
  intro hsees hsaw
  obtain hpast | hlast := saw_nothing_append.1 hsaw
  · exact h hsees.front hpast
  · exact hm hlast

/-- Whatever is observed during a wait. -/
theorem Watching.waiting (h : Watching past) (hwaiting : MadeWaiting past) :
    Watching (past ++ [m]) := by
  intro hsees
  have hm : ¬ShowsNothing m := fun hshows => hsees past m [] rfl hshows hwaiting
  exact h.next hm hsees

end Trace

/-! ## The gate -/

/-- Every step after an observation that shows nothing finds the gate off. -/
def HeedsFlag (past : Trace flagged) (m : Moment flagged) : Prop :=
  SeesWaiting past → SawNothing past → Moment.heedsOff m = true

/-- The flag is set once an observation has shown nothing. -/
def FlagSet (past : Trace flagged) (state : GateState) : Prop :=
  SeesWaiting past → SawNothing past → state.disabled = true

section Rules

variable {past : Trace flagged} {state : GateState} {ε : Type}

/-- Nobody else writes the flag. -/
theorem drifts_flagged {before after : GateState} (h : flagged.Drifts before after) :
    after.disabled = before.disabled := by
  induction h with
  | refl => rfl
  | tail _ hstep ih => exact hstep.trans ih

/-- While the gate is on its flag is not set. -/
theorem Watching.flagSet (h : Watching past) : FlagSet past state :=
  fun hsees hsaw => absurd hsaw (h hsees)

/-- While nothing was seen to turn the gate off, any step is fine. -/
theorem Watching.heeds (h : Watching past) {m : Moment flagged} : HeedsFlag past m :=
  fun hsees hsaw => absurd hsaw (h hsees)

/-- Operations that are not the gate's leave the flag alone. -/
theorem keeps_flag : flagged.Keeps HeedsFlag Op.Unwatched FlagSet := by
  intro past state now hI hdrift op answer after hop hanswer
  refine ⟨fun _ _ => heeds_off hop, fun hsees hsaw => ?_⟩
  have hsame : after.disabled = now.disabled := by
    cases op <;> first | exact hanswer | exact hop.elim
  obtain hpast | hlast := saw_nothing_append.1 hsaw
  · rw [hsame, drifts_flagged hdrift]
    exact hI hsees.front hpast
  · exact absurd hlast (not_shows_nothing hop)

/-- A step that shows nothing new, before anything was seen to turn the gate off. -/
theorem wp_watching {op : Op} {E : ε → Trace flagged → GateState → Prop}
    (h : Watching past)
    (hop : ∀ now answer, ¬ShowsNothing (⟨now, op, answer⟩ : Moment flagged)) :
    wp flagged HeedsFlag (.request (S := session) op : Prog session ε _)
      (fun _ past' _ => Watching past') E past state :=
  fun now _ answer _ _ => ⟨h.heeds, h.next (hop now answer)⟩

/-- An observation: either it shows nothing, or nothing was seen to turn the gate off. -/
theorem wp_observe_watching (h : Watching past) :
    wp flagged HeedsFlag observeReplicaLag
      (fun o past' _ => ∀ standbys, o = .observed standbys → Watching past')
      (fun _ past' _ => Watching past') past state := by
  refine wp_bind.2 (wp_queryContext.2 (wp_call.2 ?_))
  intro now _ answer after _
  refine ⟨h.heeds, ?_⟩
  cases answer with
  | error err => exact h.next (by simp [ShowsNothing, Moment.observation])
  | ok canRead =>
      cases canRead with
      | false => exact fun standbys ho => LagObservation.noConfusion ho
      | true =>
          have hasked : Watching (past ++ [⟨now, .call .getCanReadReplicationStats, .ok true⟩]) :=
            h.next (by simp [ShowsNothing, Moment.observation])
          refine wp_bind.2 (wp_queryContext.2 (wp_call.2 ?_))
          intro later _ answer after _
          -- the second call is the one that shows the standbys
          refine ⟨hasked.heeds, ?_⟩
          cases answer with
          | error err => exact hasked.next (by simp [ShowsNothing, Moment.observation])
          | ok rows =>
              refine wp_ite.2 ⟨fun _ => ?_, fun hsome => ?_⟩
              · exact fun standbys ho => LagObservation.noConfusion ho
              · intro standbys _
                refine hasked.next ?_
                rw [ShowsNothing, Moment.observation, if_neg hsome]
                simp

/-- An observation during a wait. -/
theorem wp_observe_waiting {front : Trace flagged} {m : Moment flagged} {duration : Nat}
    (hm : m.op = .sleepOrShutdown duration) (h : Watching (front ++ [m])) :
    wp flagged HeedsFlag observeReplicaLag (fun _ past' _ => Watching past')
      (fun _ past' _ => Watching past') (front ++ [m]) state := by
  have hfirst : MadeWaiting (front ++ [m]) := ⟨front, m, duration, hm, .inl rfl⟩
  refine wp_bind.2 (wp_queryContext.2 (wp_call.2 ?_))
  intro now _ answer after _
  have hasked : Watching (front ++ [m] ++ [⟨now, .call .getCanReadReplicationStats, answer⟩]) :=
    h.waiting hfirst
  -- with the question in between it is still an observation of the wait
  have hsecond : MadeWaiting
      (front ++ [m] ++ [⟨now, .call .getCanReadReplicationStats, answer⟩]) :=
    ⟨front, m, duration, hm, .inr ⟨⟨now, .call .getCanReadReplicationStats, answer⟩, rfl,
      List.append_assoc _ _ _⟩⟩
  refine ⟨h.heeds, ?_⟩
  cases answer with
  | error err => exact hasked
  | ok canRead =>
      refine wp_ite.2 ⟨fun _ => hasked, fun _ => ?_⟩
      refine wp_bind.2 (wp_queryContext.2 (wp_call.2 ?_))
      intro later _ answer after _
      refine ⟨hasked.heeds, ?_⟩
      cases answer with
      | error err => exact hasked.waiting hsecond
      | ok rows =>
          exact wp_ite.2 ⟨fun _ => hasked.waiting hsecond, fun _ => hasked.waiting hsecond⟩

/-- The total of the waits does not touch the flag. -/
theorem wp_add_waited_watching {started : Nat} {E : AnyError → Trace flagged → GateState → Prop}
    (h : Watching past) :
    wp flagged HeedsFlag (addWaited started) (fun _ past' _ => Watching past') E past state := by
  refine wp_seq (wp_watching h (by simp [ShowsNothing, Moment.observation])) fun _ _ _ h => ?_
  exact wp_watching h (by simp [ShowsNothing, Moment.observation])

/-- To give up a wait does not touch it either. -/
theorem wp_give_up_watching {started : Nat} {E : AnyError → Trace flagged → GateState → Prop}
    (h : Watching past) :
    wp flagged HeedsFlag (giveUpWaiting started) (fun _ past' _ => Watching past') E past state := by
  refine wp_seq (wp_add_waited_watching h) fun _ _ _ h => ?_
  exact wp_seq (wp_watching h (by simp [ShowsNothing, Moment.observation])) fun _ _ _ h => h

/-- The loop of a wait. By induction on the rounds left. -/
theorem wp_loop_watching {gate : ReplicaLagGate} {table : TableKey} {started rounds : Nat}
    (h : Watching past) :
    wp flagged HeedsFlag (waitForReplicaLagLoop gate table started rounds)
      (fun _ past' _ => Watching past') (fun _ past' _ => Watching past') past state := by
  induction rounds generalizing past state with
  | zero => exact wp_give_up_watching h
  | succ rounds ih =>
      refine wp_seq (wp_watching h (by simp [ShowsNothing, Moment.observation])) ?_
      intro found past state h
      refine wp_ite.2 ⟨fun _ => wp_give_up_watching h, fun _ => wp_bind.2 ?_⟩
      intro now _ wake after _
      have hslept : Watching (past ++ [⟨now, .sleepOrShutdown (min (fromSecs
          (max gate.pollIntervalSeconds 1)) (fromSecs gate.maxWaitSeconds - (found - started))),
          wake⟩]) := h.next (by simp [ShowsNothing, Moment.observation])
      refine ⟨h.heeds, ?_⟩
      cases wake with
      | shutdown => exact wp_seq (wp_add_waited_watching hslept) fun _ _ _ h => h
      | slept =>
          -- after a sleep the observation is one of a wait
          refine wp_seq (wp_observe_waiting rfl hslept) fun current past state h => ?_
          refine wp_ite.2 ⟨fun _ => ?_, fun _ => ?_⟩
          · refine wp_seq (wp_add_waited_watching h) fun _ past state h => ?_
            refine wp_seq (wp_watching h ?_) fun _ past state h => h
            simp [ShowsNothing, Moment.observation]
          · refine wp_seq (wp_watching h ?_) fun time past state h => ?_
            · simp [ShowsNothing, Moment.observation]
            exact wp_ite.2 ⟨fun _ => wp_give_up_watching h, fun _ => ih h⟩

/-- Turning the gate off sets the flag, whatever was seen. -/
theorem wp_gate_disable {E : ε → Trace flagged → GateState → Prop} :
    wp flagged HeedsFlag (gateDisable : Prog session ε Unit) (fun _ => FlagSet) E past state :=
  fun _ _ _ _ hanswer => ⟨fun _ _ => rfl, fun _ _ => hanswer⟩

/-- A wait. It starts with a look at the flag: where that is not set, nothing was seen yet. -/
theorem wp_wait_flag {gate : ReplicaLagGate} {table : TableKey} {policy : RunPolicy}
    (h : FlagSet past state) :
    wp flagged HeedsFlag (waitForReplicaLag gate table policy) (fun _ => FlagSet) (fun _ => FlagSet)
      past state := by
  refine wp_bind.2 ?_
  intro now hdrift disabled after hanswer
  obtain ⟨hread, hsame⟩ := hanswer
  have hshows : ¬ShowsNothing (⟨now, .gateIsDisabled, disabled⟩ : Moment flagged) := by
    simp [ShowsNothing, Moment.observation]
  -- the flag is read right here, and nobody else writes it
  have hflag : SeesWaiting past → SawNothing past → disabled = true := by
    intro hsees hsaw
    rw [hread, drifts_flagged hdrift]
    exact h hsees hsaw
  refine ⟨hflag, ?_⟩
  refine wp_ite.2 ⟨fun hdisabled => ?_, fun henabled => ?_⟩
  · intro hsees hsaw
    rw [hsame, ← hread]
    exact hdisabled
  have hwatching : Watching (past ++ [⟨now, .gateIsDisabled, disabled⟩]) := by
    intro hsees hsaw
    obtain hpast | hlast := saw_nothing_append.1 hsaw
    · exact henabled (hflag hsees.front hpast)
    · exact hshows hlast
  refine wp_bind.2 (wp_mono (wp_observe_watching hwatching) ?_ fun _ _ _ h => h.flagSet)
  intro observation past state h
  cases observation with
  | noReplicas => exact wp_seq wp_gate_disable fun _ _ _ h => h
  | unobservable => exact wp_seq wp_gate_disable fun _ _ _ h => h
  | observed standbys =>
      replace h : Watching past := h standbys rfl
      refine wp_ite.2 ⟨fun _ => h.flagSet, fun _ => wp_ite.2 ⟨fun _ => h.flagSet, fun _ => ?_⟩⟩
      refine wp_ite.2 ⟨fun _ => ?_, fun _ => ?_⟩
      · refine wp_seq (wp_watching h ?_) fun _ past state h => h.flagSet
        simp [ShowsNothing, Moment.observation]
      · refine wp_seq (wp_watching h ?_) fun started past state h => ?_
        · simp [ShowsNothing, Moment.observation]
        exact wp_mono (wp_loop_watching h) (fun _ _ _ h => h.flagSet) fun _ _ _ h => h.flagSet

/-- The look at the start. -/
theorem wp_initial_flag (h : Watching past) :
    wp flagged HeedsFlag logInitialReplicaLag (fun _ => FlagSet) (fun _ => FlagSet) past state := by
  refine wp_bind.2 (wp_mono (wp_observe_watching h) ?_ fun _ _ _ h => h.flagSet)
  intro observation past state h
  cases observation with
  | noReplicas => exact wp_gate_disable
  | unobservable => exact wp_gate_disable
  | observed standbys =>
      have hwatching : Watching past := h standbys rfl
      exact hwatching.flagSet

end Rules

/-- The gate's flag through a whole run. -/
theorem flag_rules : WatchRules flagged HeedsFlag (fun past _ => Watching past) FlagSet where
  weaken _ _ h := h.flagSet
  before _ _ _ h _ _ _ _ hop _ := ⟨h.heeds, h.next (not_shows_nothing hop)⟩
  aside := keeps_flag
  initial _ _ h := wp_initial_flag h
  wait _ _ _ _ _ h := wp_wait_flag h

/-! ## The gate stays off -/

/-- A run in which no observation of a wait shows nothing: once some observation does, the gate is
off for the rest of the run. -/
theorem lag_gate_turns_off {settings : RunSettings} {start last : GateState} {tr : Trace flagged}
    {q : Prog session Empty Nat} (h : Exec flagged start (main settings) tr last q)
    (hwaits : SeesWaiting tr) : TurnsOff tr := by
  intro before m after htr hshows later hlater
  obtain ⟨between, rest, rfl⟩ := List.append_of_mem hlater
  have hsplit : tr = (before ++ m :: between) ++ later :: rest := by
    rw [htr, List.append_assoc, List.cons_append]
  rw [hsplit] at h hwaits
  have hempty : Watching ([] : Trace flagged) := by
    intro _ hsaw
    obtain ⟨_, hmem, _⟩ := hsaw
    cases hmem
  have hheeds := h.safe (flag_rules.main settings hempty)
  exact hheeds hwaits.front ⟨m, by simp, hshows⟩

/-- Settings with a lag gate: ten seconds of lag, and a budget of seven seconds a table. -/
def gatedSettings : RunSettings :=
  { defaultSettings [.neverVacuumed] [] with
    maxReplicaLagSeconds := some 10
    maxReplicaLagWaitSeconds := 7 }

/-- A server with one never-vacuumed table and these standbys. Once there was a sleep, the role may
no longer read the statistics. -/
def showing (standbys : List StandbyLag) (state : GateState) : (op : Op) → op.Answer × GateState
  | .call .getCanReadReplicationStats => (.ok (state.elsewhere = 0), state)
  | .call .getReplicationLag => (.ok standbys, state)
  | .sleepOrShutdown _ => (.slept, { state with elsewhere := state.elsewhere + 1 })
  | .gateIsDisabled => (state.disabled, state)
  | .gateDisable => ((), { state with disabled := true })
  | op => (oneTable.answer op, state)

/-- A run against it. -/
def shownTrace (standbys : List StandbyLag) : Trace flagged :=
  ((main gatedSettings).play flagged (showing standbys) (⟨false, 0⟩ : GateState)).1

/-- The trace is an execution, whatever standbys are shown. -/
theorem exec_shown (standbys : List StandbyLag) : ∃ last q,
    Exec flagged (⟨false, 0⟩ : GateState) (main gatedSettings) (shownTrace standbys) last q := by
  refine ⟨_, _, Prog.exec_play (W := flagged) (showing standbys) ?_ _ _⟩
  intro state op
  cases op with
  | call c => cases c <;> rfl
  | gateIsDisabled => exact ⟨rfl, rfl⟩
  | _ => rfl

/-- A run that never sleeps does not look while it waits. -/
theorem sees_waiting_of_awake {W : World session} {tr : Trace W} (h : sleeps tr = []) :
    SeesWaiting tr := by
  intro before m after htr _ hwaiting
  obtain ⟨front, asleep, duration, hop, hbefore⟩ := hwaiting
  have hmem : asleep ∈ tr := by
    obtain rfl | ⟨question, -, rfl⟩ := hbefore <;> simp [htr]
  have hsleep : Moment.sleep asleep = some duration := by rw [Moment.sleep, hop]
  have hnone := List.filterMap_eq_nil_iff.1 h asleep hmem
  rw [hsleep] at hnone
  cases hnone

/-- Without a standby the gate is off from the start. -/
theorem no_standbys_turn_off :
    TurnsOff (shownTrace []) ∧ ∃ m ∈ shownTrace [], ShowsNothing m := by
  obtain ⟨last, q, hexec⟩ := exec_shown []
  exact ⟨lag_gate_turns_off hexec (sees_waiting_of_awake (by decide)), by decide⟩

/-- A standby that lags half a minute. -/
def laggingStandby : List StandbyLag := [⟨"replica", "streaming", "async", some 30⟩]

/-- If the statistics can no longer be read when the gate has slept, a recovery is logged. -/
theorem unreadable_passes_for_recovery :
    (∃ last q, Exec flagged (⟨false, 0⟩ : GateState) (main gatedSettings)
      (shownTrace laggingStandby) last q) ∧ ¬TurnsOff (shownTrace laggingStandby) := by
  refine ⟨exec_shown laggingStandby, fun hoff => ?_⟩
  have hseen : ((shownTrace laggingStandby)[36]?.map fun m => decide (ShowsNothing m)) =
      some true := by decide
  obtain ⟨m, hm, hshows⟩ := Option.map_eq_some_iff.1 hseen
  have hlogged : (shownTrace laggingStandby)[39]?.map Moment.heedsOff = some false := by
    decide
  obtain ⟨later, hlater, hheeds⟩ := Option.map_eq_some_iff.1 hlogged
  have hmem : later ∈ (shownTrace laggingStandby).drop 37 := by
    refine List.mem_iff_getElem?.2 ⟨2, ?_⟩
    rw [List.getElem?_drop]
    exact hlater
  have htrue := hoff _ m _ (trace_split hm) (of_decide_eq_true hshows) later hmem
  rw [hheeds] at htrue
  cases htrue

end PgMaintainer
