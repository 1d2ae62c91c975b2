import PgMaintainer.Run.GateErrors
import PgMaintainer.Run.History

/-!
# The rule for a pass

One rule for the passes of all runners, over any world. Three assertions carry it: `K` holds
while a table is processed, `S` once a shutdown was seen, and what holds at the end of a pass
is up to its user. The statement itself is a premise, since it is where properties differ.
-/

namespace PgMaintainer

open Interaction

attribute [local simp] Op.Deaf Op.Gating

variable {W : World session} {ok : Trace W → Moment W → Prop} {K S : Trace W → W.State → Prop}
  {E : AnyError → Trace W → W.State → Prop} {past : Trace W} {state : W.State}

/-- The verdict of a wait: `S` if it is a shutdown, `K` otherwise. -/
def LagGateVerdict.Sat (K S : Trace W → W.State → Prop) (verdict : LagGateVerdict)
    (past : Trace W) (state : W.State) : Prop :=
  match verdict with
  | .shutdownRequested => S past state
  | _ => K past state

/-- Whether the active-vacuum gate lets a table with these sessions through. -/
def letsThrough (policy : RunPolicy) (sessions : List (Int × String)) : Bool :=
  sessions.isEmpty ||
    !policy.skipActiveVacuum &&
      ((sessions.filter fun s => s.2 != backendTypeAutovacuumWorker).isEmpty || policy.force)

/-- The world may report sessions on `table` that the gate lets through, or does not. -/
def MayReport (W : World session) (policy : RunPolicy) (table : TableKey) (through : Bool) : Prop :=
  ∃ now sessions after, W.Answers now (.call (.findActiveVacuums table)) (.ok sessions) after ∧
    letsThrough policy sessions = through

/-- Why a pass skips its table: it is left out, the replicas lag in a real run, or the sessions on
it are not to be disturbed. -/
def SkipsFor (W : World session) (policy : RunPolicy) (already : Option (List TableKey))
    (table : TableKey) : SkipReason → Prop
  | .alreadyHandled => LeavesOut already table
  | .replicaLag => policy.dryRun = false
  | .activeVacuum => ¬LeavesOut already table ∧ MayReport W policy table false
  | _ => False

/-- What a pass needs of a world: the operations that cannot tell of a shutdown keep both
assertions, a sleep ends in one of them, and after a fatal answer an error needs no more than
`K`. -/
structure PassRules (W : World session) (ok : Trace W → Moment W → Prop)
    (K S : Trace W → W.State → Prop) (E : AnyError → Trace W → W.State → Prop) : Prop where
  aside : W.Keeps ok Op.Deaf K
  stopped : W.Keeps ok Op.Deaf S
  sleep : ∀ nanoseconds past state, K past state →
    wp W ok (sleepOrShutdown nanoseconds : RunM Wake)
      (fun wake past state => if wake = .shutdown then S past state else K past state) E past state
  err : ∀ err past state, K past state → (∃ m ∈ past, m.op.Fatal m.answer) → E err past state

/-- What the gates need of a world: the gates' operations keep both assertions, a sleep that is cut
short has seen the shutdown, and after a fatal answer an error needs no more than `K`. -/
structure GateRules (W : World session) (ok : Trace W → Moment W → Prop)
    (K S : Trace W → W.State → Prop) (E : AnyError → Trace W → W.State → Prop) : Prop where
  aside : W.Keeps ok Op.Gating K
  stopped : W.Keeps ok Op.Gating S
  wake : ∀ past state now nanoseconds after, K past state → W.Drifts state now →
    W.Answers now (.sleepOrShutdown nanoseconds) .shutdown after →
    S (past ++ [⟨now, .sleepOrShutdown nanoseconds, .shutdown⟩]) after
  err : ∀ err past state, K past state → (∃ m ∈ past, m.op.Fatal m.answer) → E err past state

/-- Where a sleep keeps `K` too, it does if it is not cut short. -/
theorem GateRules.passRules (rules : GateRules W ok K S E) : PassRules W ok K S E where
  aside := rules.aside.mono fun _ => Op.Deaf.gating
  stopped := rules.stopped.mono fun _ => Op.Deaf.gating
  sleep := by
    intro nanoseconds past state hK now hnow wake after hanswer
    have hkeep := rules.aside past state now hK hnow (.sleepOrShutdown nanoseconds) wake after
      trivial hanswer
    refine ⟨hkeep.1, ?_⟩
    cases wake with
    | shutdown => exact rules.wake past state now nanoseconds after hK hnow hanswer
    | slept => exact hkeep.2
  err := rules.err

namespace PassRules

/-- A program that does not fail. -/
theorem total {ε α : Type} {p : Prog session ε α} {E' : ε → Trace W → W.State → Prop}
    (rules : PassRules W ok K S E) (hp : p.All Op.Deaf (fun _ => True) (fun _ => False))
    (hK : K past state) : wp W ok p (fun _ => K) E' past state :=
  wp_mono (wp_of_all hp rules.aside hK) (fun _ _ _ h => h.2) fun _ _ _ h => h.1.elim

/-- A program that fails only after a fatal answer. -/
theorem honest {α : Type} {p : RunM α} (rules : PassRules W ok K S E) (hp : p.Only Op.Deaf)
    (honest : p.Honest Op.Fatal) (hK : K past state) : wp W ok p (fun _ => K) E past state :=
  wp_of_honest hp honest rules.aside rules.err hK

/-- An observation of the standbys, in the rules of a pass. -/
theorem observe_replica_lag (rules : PassRules W ok K S E) (hK : K past state) :
    wp W ok observeReplicaLag (fun _ => K) E past state :=
  rules.honest observe_replica_lag_deaf observe_replica_lag_honest hK

/-- The clock does not fail. -/
theorem add_waited_total (started : Nat) :
    (addWaited started).All Op.Deaf (fun _ => True) (fun _ => False) := by
  simp [addWaited]

/-- The end of a wait, in the rules of a pass. -/
theorem give_up_waiting (rules : PassRules W ok K S E) (started : Nat) (hK : K past state) :
    wp W ok (giveUpWaiting started) (LagGateVerdict.Sat K S) E past state := by
  refine wp_seq (rules.total (add_waited_total started) hK) fun _ past state hK => ?_
  refine wp_seq (rules.total (by simp) hK) fun _ past state hK => ?_
  exact hK

/-- By induction on the rounds left. -/
theorem wait_for_replica_lag_loop (rules : PassRules W ok K S E) (gate : ReplicaLagGate)
    (table : TableKey) (started rounds : Nat) (hK : K past state) :
    wp W ok (waitForReplicaLagLoop gate table started rounds) (LagGateVerdict.Sat K S) E
      past state := by
  induction rounds generalizing past state with
  | zero => exact rules.give_up_waiting started hK
  | succ rounds ih =>
      refine wp_seq (rules.total (by simp) hK) fun time past state hK => ?_
      refine wp_ite.2 ⟨fun _ => rules.give_up_waiting started hK, fun _ => ?_⟩
      refine wp_seq (rules.sleep _ past state hK) fun wake past state h => ?_
      cases wake with
      | shutdown =>
          have hwaited := wp_of_all (add_waited_total started) rules.stopped h
          exact wp_seq (wp_mono hwaited (fun _ _ _ h => h.2) fun _ _ _ h => h.1.elim)
            fun _ _ _ h => h
      | slept =>
          refine wp_seq (rules.observe_replica_lag h) fun current past state hK => ?_
          refine wp_ite.2 ⟨fun _ => ?_, fun _ => ?_⟩
          · refine wp_seq (rules.total (add_waited_total started) hK) fun _ past state hK => ?_
            refine wp_seq (rules.total (by simp) hK) fun _ past state hK => ?_
            exact hK
          · refine wp_seq (rules.total (by simp) hK) fun _ past state hK => ?_
            exact wp_ite.2 ⟨fun _ => rules.give_up_waiting started hK, fun _ => ih hK⟩

/-- The wait before a table. A dry run skips none. -/
theorem wait_for_replica_lag (rules : PassRules W ok K S E) (gate : ReplicaLagGate)
    (table : TableKey) (policy : RunPolicy) (hK : K past state) :
    wp W ok (waitForReplicaLag gate table policy)
      (fun verdict past state => verdict.Sat K S past state ∧
        (verdict = .skipTable → policy.dryRun = false)) E past state := by
  refine wp_seq (rules.total (by simp) hK) fun disabled past state hK => ?_
  refine wp_ite.2 ⟨fun _ => ⟨hK, by simp⟩, fun _ => ?_⟩
  refine wp_seq (rules.observe_replica_lag hK) fun observation past state hK => ?_
  have hdisable : wp W ok (do gateDisable; pure LagGateVerdict.proceed : RunM _)
      (fun verdict past state => verdict.Sat K S past state ∧
        (verdict = .skipTable → policy.dryRun = false)) E past state :=
    wp_seq (rules.total (by simp) hK) fun _ past state hK => ⟨hK, by simp⟩
  cases observation with
  | noReplicas => exact hdisable
  | unobservable => exact hdisable
  | observed standbys =>
      refine wp_ite.2 ⟨fun _ => ⟨hK, by simp⟩, fun _ => wp_ite.2 ⟨fun _ => ⟨hK, by simp⟩,
        fun hreal => ?_⟩⟩
      -- past the dry run, so a skip is one of a real run
      have hreal : policy.dryRun = false := by simpa using hreal
      refine wp_ite.2 ⟨fun _ => ?_, fun _ => ?_⟩
      · exact wp_seq (rules.total (by simp) hK) fun _ past state hK =>
          ⟨hK, fun _ => hreal⟩
      · refine wp_seq (rules.total (by simp) hK) fun _ past state hK => ?_
        exact wp_mono (rules.wait_for_replica_lag_loop gate table _ _ hK)
          (fun _ _ _ h => ⟨h, fun _ => hreal⟩) fun _ _ _ h => h

section Pass

variable {r : Runner} {policy : RunPolicy} {table : TableKey} {summary : OperationSummary}
  {Q : Flow OperationSummary → Trace W → W.State → Prop}

/-- The lag gate: it lets the body run, skips the table, or ends the loop. -/
theorem after_lag_gate (rules : PassRules W ok K S E) (gate : Option ReplicaLagGate) {body : Pass}
    (hstop : ∀ past state, S past state → Q (.stop summary) past state)
    (hskip : ∀ past state, K past state → policy.dryRun = false →
      wp W ok (skipTable summary table .replicaLag) (fun summary => Q (.next summary)) E past state)
    (hbody : ∀ past state, K past state → wp W ok body Q E past state) (hK : K past state) :
    wp W ok (afterLagGate gate policy table summary body) Q E past state := by
  cases gate with
  | none => exact hbody past state hK
  | some gate =>
      refine wp_seq (rules.wait_for_replica_lag gate table policy hK) ?_
      rintro verdict past state ⟨h, hreal⟩
      cases verdict with
      | proceed => exact hbody past state h
      | skipTable => exact wp_seq (hskip past state h (hreal rfl)) fun _ _ _ h => h
      | shutdownRequested => exact hstop past state h

/-- The probe: what it returns, the world may report. -/
theorem find_active_vacuums (rules : PassRules W ok K S E) (policy : RunPolicy)
    (hK : K past state) :
    wp W ok (findActiveVacuums table) (fun sessions past state =>
      MayReport W policy table (letsThrough policy sessions) ∧ K past state) E past state := by
  intro now hnow answer after hanswer
  have hkeep := rules.aside past state now hK hnow _ answer after trivial hanswer
  refine ⟨hkeep.1, ?_⟩
  cases answer with
  | ok sessions => exact ⟨⟨now, sessions, after, hanswer, rfl⟩, hkeep.2⟩
  | error err =>
      exact rules.err _ _ _ hkeep.2 ⟨_, List.mem_append_right _ (List.mem_singleton_self _),
        trivial, err, rfl⟩

/-- The active-vacuum gate: it lets the table through, with the summary as it was, or has
counted the table as skipped. -/
theorem handle_active_vacuums (rules : PassRules W ok K S E)
    (hskip : ∀ past state, K past state → MayReport W policy table false →
      wp W ok (skipTable summary table .activeVacuum) (fun summary => Q (.next summary)) E
        past state)
    (hK : K past state) :
    wp W ok (handleActiveVacuums table policy summary)
      (fun result past state =>
        result = (true, summary) ∧ MayReport W policy table true ∧ K past state ∨
        result.1 = false ∧ Q (.next result.2) past state) E past state := by
  have hskipped : ∀ past state, K past state → MayReport W policy table false →
      wp W ok (do pure (false, ← skipTable summary table .activeVacuum) : RunM _)
        (fun result past state =>
          result = (true, summary) ∧ MayReport W policy table true ∧ K past state ∨
          result.1 = false ∧ Q (.next result.2) past state) E past state :=
    fun past state hK hreport =>
      wp_seq (hskip past state hK hreport) fun _ _ _ h => .inr ⟨rfl, h⟩
  have hterminate : ∀ pids past state, K past state →
      wp W ok (terminateInRealRun policy pids) (fun _ => K) E past state := fun pids past state =>
    rules.honest (terminate_in_real_run_deaf pids) (terminate_in_real_run_honest pids)
  refine wp_seq (rules.find_active_vacuums policy hK) ?_
  rintro sessions past state ⟨hreport, hK⟩
  -- the verdict is a function of the sessions found and the policy
  have hverdict : ∀ through, letsThrough policy sessions = through →
      MayReport W policy table through := by
    rintro through rfl
    exact hreport
  refine wp_ite.2 ⟨fun hempty => ?_, fun hempty => wp_ite.2 ⟨fun hskips => ?_, fun hskips => ?_⟩⟩
  · exact .inl ⟨rfl, hverdict true (by simp [letsThrough, hempty]), hK⟩
  · exact hskipped past state hK (hverdict false (by simp [letsThrough, hempty, hskips]))
  dsimp only
  refine wp_seq (hterminate _ past state hK) fun _ past state hK => ?_
  rw [List.isEmpty_map]
  simp only [Bool.not_eq_true] at hempty hskips
  refine wp_ite.2 ⟨fun hmanual => ?_, fun hmanual => wp_ite.2 ⟨fun hforce => ?_, fun hforce => ?_⟩⟩
  · exact .inl ⟨rfl, hverdict true (by rw [letsThrough, hskips, hmanual]; simp), hK⟩
  · exact wp_seq (hterminate _ past state hK) fun _ past state hK =>
      .inl ⟨rfl, hverdict true (by simp [letsThrough, hskips, hforce]), hK⟩
  · exact hskipped past state hK
      (hverdict false (by
        simp only [Bool.not_eq_true] at hmanual hforce
        simp only [letsThrough, hempty, hskips, hmanual, hforce, Bool.or_self, Bool.and_false]))

/-- The second gate, in the rules of a pass. -/
theorem after_active_vacuums (rules : PassRules W ok K S E) {body : OperationSummary → Pass}
    (hskip : ∀ past state, K past state → MayReport W policy table false →
      wp W ok (skipTable summary table .activeVacuum) (fun summary => Q (.next summary)) E
        past state)
    (hbody : ∀ past state, K past state → MayReport W policy table true →
      wp W ok (body summary) Q E past state)
    (hK : K past state) :
    wp W ok (afterActiveVacuums policy table summary body) Q E past state := by
  refine wp_seq (rules.handle_active_vacuums hskip hK) ?_
  rintro ⟨proceed, after⟩ past state (⟨heq, hreport, hK⟩ | ⟨hfalse, h⟩)
  · obtain ⟨rfl, rfl⟩ := Prod.mk.inj heq
    exact hbody past state hK hreport
  · obtain rfl : proceed = false := hfalse
    exact h

/-- The head of a pass: from `J`, which holds once the loop turned to the table, to `K`. -/
theorem visit_table {J : Trace W → W.State → Prop} {count i : Nat} {body : Pass}
    (haside : W.Keeps ok Op.Deaf J)
    (herr : ∀ err past state, J past state → (∃ m ∈ past, m.op.Fatal m.answer) → E err past state)
    (hread : ∀ past state, J past state → wp W ok (shutdownRequested : RunM Bool)
      (fun requested past state =>
        if requested = true then Q (.stop summary) past state else K past state) E past state)
    (hbody : ∀ past state, K past state → wp W ok body Q E past state)
    (hvisit : wp W ok (mark (.visit table) : RunM Unit) (fun _ => J) E past state) :
    wp W ok (visitTable r count i table summary body) Q E past state := by
  refine wp_seq hvisit fun _ past state hJ => ?_
  refine wp_seq (R := fun closed past state => J past state ∧
    (closed = true → ∃ m ∈ past, m.op.Fatal m.answer)) ?_ ?_
  · intro now hnow closed after hanswer
    have hkeep := haside past state now hJ hnow .isClosed closed after trivial hanswer
    exact ⟨hkeep.1, hkeep.2, fun hclosed => ⟨⟨now, .isClosed, closed⟩, by simp, hclosed⟩⟩
  rintro closed past state ⟨hJ, hfatal⟩
  refine wp_ite.2 ⟨fun hclosed => ?_, fun _ => ?_⟩
  · have hlasts : W.Keeps ok Op.Deaf fun past state =>
        J past state ∧ ∃ m ∈ past, m.op.Fatal m.answer := by
      rintro past state now ⟨hJ, m, hm, hfatal⟩ hnow op answer after hop hanswer
      have hkeep := haside past state now hJ hnow op answer after hop hanswer
      exact ⟨hkeep.1, hkeep.2, m, by simp [hm], hfatal⟩
    have herr' : ∀ err past state, J past state ∧ (∃ m ∈ past, m.op.Fatal m.answer) →
        E err past state := fun err past state h => herr err past state h.1 h.2
    exact wp_seq (wp_of_only (connection_lost_error_deaf ..) hlasts herr' ⟨hJ, hfatal hclosed⟩)
      fun err past state h => herr' err past state h
  refine wp_seq (hread past state hJ) fun requested past state h => ?_
  refine wp_ite.2 ⟨fun hrequested => ?_, fun hrequested => ?_⟩
  · exact (if_pos hrequested).mp h
  · exact hbody past state ((if_neg hrequested).mp h)

section Turn

variable {J : Trace W → W.State → Prop} {already : Option (List TableKey)} {count i : Nat}
  (rules : PassRules W ok K S E)
  (haside : W.Keeps ok Op.Deaf J)
  (herr : ∀ err past state, J past state → (∃ m ∈ past, m.op.Fatal m.answer) → E err past state)
  (hread : ∀ past state, J past state → wp W ok (shutdownRequested : RunM Bool)
    (fun requested past state =>
      if requested = true then S past state else K past state) E past state)
  (hstop : ∀ past state, S past state → Q (.stop summary) past state)
  (hskip : ∀ reason past state, K past state → SkipsFor W policy already table reason →
    wp W ok (skipTable summary table reason) (fun summary => Q (.next summary)) E past state)
  (hvisit : wp W ok (mark (.visit table) : RunM Unit) (fun _ => J) E past state)

include haside herr hread hstop hskip hvisit in
/-- The head of a pass and the set: a table that is left out is skipped. -/
theorem turn_to {rest : Pass}
    (hrest : ¬LeavesOut already table → ∀ past state, K past state → wp W ok rest Q E past state) :
    wp W ok (visitTable r count i table summary (unlessHandled already table summary rest)) Q E past
      state := by
  refine visit_table (K := K) haside herr (fun past state hJ => ?_) (fun past state hK => ?_) hvisit
  · refine wp_mono (hread past state hJ) (fun requested past state h => ?_) fun _ _ _ h => h
    cases requested with
    | true => exact hstop past state h
    | false => exact h
  · by_cases hout : LeavesOut already table
    · rw [unless_handled_left_out hout]
      exact wp_seq (hskip .alreadyHandled past state hK hout) fun _ _ _ h => h
    · rw [unless_handled_taken hout]
      exact hrest hout past state hK

variable (hmaintain : ∀ past state, K past state → ¬LeavesOut already table →
  MayReport W policy table true → wp W ok (maintainTable r policy count i table summary) Q E past
    state)

include rules hskip hmaintain in
/-- The active-vacuum gate and the statement. -/
theorem come_to_statement (hout : ¬LeavesOut already table) {past : Trace W} {state : W.State}
    (hK : K past state) :
    wp W ok (afterActiveVacuums policy table summary fun summary =>
      maintainTable r policy count i table summary) Q E past state :=
  rules.after_active_vacuums
    (fun past state hK hreport => hskip .activeVacuum past state hK ⟨hout, hreport⟩)
    (fun past state hK hreport => hmaintain past state hK hout hreport) hK

include rules haside herr hread hstop hskip hvisit hmaintain in
/-- A pass, from its parts: the head, the skips, the end of the loop and the statement. -/
theorem gated_pass (gate : Option ReplicaLagGate) :
    wp W ok (gatedPass r policy gate already count i table summary) Q E past state := by
  refine turn_to haside herr hread hstop hskip hvisit fun hout past state hK => ?_
  refine rules.after_lag_gate gate hstop (hskip .replicaLag) (fun past state hK => ?_) hK
  exact rules.come_to_statement hskip hmaintain hout hK

include rules haside herr hread hstop hskip hvisit hmaintain in
/-- The same with two lag gates. -/
theorem twice_gated_pass (gate : Option ReplicaLagGate) :
    wp W ok (visitTable r count i table summary <|
      unlessHandled already table summary <|
      afterLagGate gate policy table summary <|
      afterLagGate gate policy table summary <|
      afterActiveVacuums policy table summary fun summary =>
      maintainTable r policy count i table summary) Q E past state := by
  refine turn_to haside herr hread hstop hskip hvisit fun hout past state hK => ?_
  refine rules.after_lag_gate gate hstop (hskip .replicaLag) (fun past state hK => ?_) hK
  refine rules.after_lag_gate gate hstop (hskip .replicaLag) (fun past state hK => ?_) hK
  exact rules.come_to_statement hskip hmaintain hout hK

end Turn

end Pass

end PassRules

/-- A pass of either form. -/
theorem GateRules.pass {J : Trace W → W.State → Prop} {policy : RunPolicy}
    {table : TableKey} {summary : OperationSummary}
    {Q : Flow OperationSummary → Trace W → W.State → Prop} (rules : GateRules W ok K S E)
    {statement : Statement} {already : Option (List TableKey)} {body : PassBody} {i : Nat}
    (hpass : IsPass policy statement already body)
    (haside : W.Keeps ok Op.Gating J)
    (herr : ∀ err past state, J past state → (∃ m ∈ past, m.op.Fatal m.answer) → E err past state)
    (hread : ∀ past state, J past state → wp W ok (shutdownRequested : RunM Bool)
      (fun requested past state =>
        if requested = true then S past state else K past state) E past state)
    (hstop : ∀ past state, S past state → Q (.stop summary) past state)
    (hskip : ∀ reason past state, K past state → SkipsFor W policy already table reason →
      wp W ok (skipTable summary table reason) (fun summary => Q (.next summary)) E past state)
    (hmaintain : ∀ r count past state, r.Performs statement → K past state →
      ¬LeavesOut already table → MayReport W policy table true →
      wp W ok (maintainTable r policy count i table summary) Q E past state)
    (hvisit : wp W ok (mark (.visit table) : RunM Unit) (fun _ => J) E past state) :
    wp W ok (body i table summary) Q E past state := by
  have hdeaf : W.Keeps ok Op.Deaf J := haside.mono fun _ => Op.Deaf.gating
  cases hpass with
  | once r gate count hr =>
      exact rules.passRules.gated_pass hdeaf herr hread hstop hskip hvisit
        (fun past state => hmaintain r count past state hr) gate
  | twice r gate count hr =>
      exact rules.passRules.twice_gated_pass hdeaf herr hread hstop hskip hvisit
        (fun past state => hmaintain r count past state hr) gate

/-- A runner, from its passes: `I done` holds before each pass, `D` where the loop breaks. -/
theorem wp_runner {policy : RunPolicy} {phase : Phase} {statement : Statement}
    {already : Option (List TableKey)} {tables : List TableKey} {runner : RunM OperationSummary}
    {I : List TableKey → OperationSummary → Trace W → W.State → Prop}
    {D : OperationSummary → Trace W → W.State → Prop}
    (h : IsRunner policy phase statement already tables runner)
    (hstart : wp W ok (mark (.candidates phase tables) : RunM Unit)
      (fun _ => I [] { total := tables.length }) E past state)
    (hpass : ∀ body, IsPass policy statement already body → ∀ done table rest,
      tables = done ++ table :: rest → ∀ i summary past state, I done summary past state →
      wp W ok (body i table summary) (fun flow past state =>
        flow.Sat (fun summary => I (done ++ [table]) summary past state)
          (fun summary => D summary past state)) E past state) :
    wp W ok runner (fun summary past state => I tables summary past state ∨ D summary past state)
      E past state := by
  obtain ⟨body, hbody⟩ := h
  exact wp_seq hstart fun _ past state hI => wp_sweep (hpass body hbody) hI

end PgMaintainer
