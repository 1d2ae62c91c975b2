import PgMaintainer.Run.Shape

/-!
# Histories of a run

What a trace says about tables: of which phases they were candidates, what was attempted on
them and which gate left them out. The rules at the end take an invariant through a phase and
through the eight phases in their order.
-/

namespace PgMaintainer

open Interaction

variable {W : World session}

/-- A kind of work: the VACUUM kind or the ANALYZE kind of statement. -/
abbrev Kind := Statement → Bool

/-- One step of a trace attempts a statement of this kind on the table. -/
def Attempts (kind : Kind) (table : TableKey) (m : Moment W) : Prop :=
  ∃ statement, m.op = .call (.maintain statement table) ∧ kind statement = true

/-- A statement of this kind was attempted on the table. -/
def Attempted (past : Trace W) (kind : Kind) (table : TableKey) : Prop :=
  ∃ m ∈ past, Attempts kind table m

/-- The statement a step attempts, and on which table. -/
def attempt (m : Moment W) : Option (Statement × TableKey) :=
  match (m.op : Op) with
  | .call (.maintain statement table) => some (statement, table)
  | _ => none

/-- A step attempts what its call says. -/
theorem attempt_eq_some {m : Moment W} {statement : Statement} {table : TableKey} :
    attempt m = some (statement, table) ↔ m.op = .call (.maintain statement table) := by
  unfold attempt
  split <;> simp_all

instance (kind : Kind) (table : TableKey) (m : Moment W) : Decidable (Attempts kind table m) :=
  decidable_of_iff (∃ a ∈ attempt m, a.2 = table ∧ kind a.1 = true) <| by
    constructor
    · rintro ⟨⟨statement, _⟩, ha, rfl, hk⟩
      exact ⟨statement, attempt_eq_some.1 ha, hk⟩
    · rintro ⟨statement, hop, hk⟩
      exact ⟨(statement, table), attempt_eq_some.2 hop, rfl, hk⟩

instance (past : Trace W) (kind : Kind) (table : TableKey) :
    Decidable (Attempted past kind table) :=
  inferInstanceAs (Decidable (∃ m ∈ past, Attempts kind table m))

/-- One step of a trace counts the table as skipped by a gate. -/
def GateSkips (table : TableKey) (m : Moment W) : Prop :=
  m.op = .mark (.tally table (.skipped .replicaLag)) ∨
    m.op = .mark (.tally table (.skipped .activeVacuum))

/-- The replica-lag gate or the active-vacuum gate skipped the table. -/
def GateSkipped (past : Trace W) (table : TableKey) : Prop := ∃ m ∈ past, GateSkips table m

instance (table : TableKey) (m : Moment W) : Decidable (GateSkips table m) :=
  inferInstanceAs (Decidable (_ ∨ _))

instance (past : Trace W) (table : TableKey) : Decidable (GateSkipped past table) :=
  inferInstanceAs (Decidable (∃ m ∈ past, GateSkips table m))

/-- The dead-tuple count a step reads: of which table, and whether the read succeeded. -/
def countRead (m : Moment W) : Option (TableKey × Bool) :=
  match m with
  | ⟨_, .call (.getDeadTupleCount table), .ok _⟩ => some (table, true)
  | ⟨_, .call (.getDeadTupleCount table), .error _⟩ => some (table, false)
  | _ => none

/-- A read of the table's dead-tuple count ended so. -/
def CountRead (past : Trace W) (table : TableKey) (succeeded : Bool) : Prop :=
  ∃ m ∈ past, countRead m = some (table, succeeded)

instance (past : Trace W) (table : TableKey) (succeeded : Bool) :
    Decidable (CountRead past table succeeded) :=
  inferInstanceAs (Decidable (∃ m ∈ past, countRead m = some (table, succeeded)))

/-- The candidates of a phase. -/
def candidates (past : Trace W) (phase : Phase) : List TableKey :=
  past.flatMap fun m =>
    match (m.op : Op) with
    | .mark (.candidates other tables) => if other = phase then tables else []
    | _ => []

/-- The table was a candidate of the phase. -/
abbrev Candidate (past : Trace W) (phase : Phase) (table : TableKey) : Prop :=
  table ∈ candidates past phase

/-- The candidates of a phase are those its marks name. -/
theorem candidate_iff {past : Trace W} {phase : Phase} {table : TableKey} :
    Candidate past phase table ↔
      ∃ m ∈ past, ∃ tables, m.op = .mark (.candidates phase tables) ∧ table ∈ tables := by
  simp only [Candidate, candidates, List.mem_flatMap]
  refine exists_congr fun m => and_congr Iff.rfl ?_
  constructor
  · intro h
    split at h
    · split at h
      · subst phase
        exact ⟨_, ‹_›, h⟩
      · simp at h
    · simp at h
  · rintro ⟨tables, hop, hmem⟩
    simp [hop, hmem]

/-- One step of a trace starts a runner. -/
def StartsRunner (m : Moment W) : Prop := ∃ phase tables, m.op = .mark (.candidates phase tables)

section Append

variable {past more : Trace W} {m : Moment W} {kind : Kind} {table : TableKey} {phase : Phase}

/-- An attempt is in the front or in the rest. -/
theorem attempted_append :
    Attempted (past ++ more) kind table ↔
      Attempted past kind table ∨ Attempted more kind table := by
  simp only [Attempted, List.mem_append, or_and_right, exists_or]

/-- So is a candidate. -/
theorem candidate_append :
    Candidate (past ++ more) phase table ↔
      Candidate past phase table ∨ Candidate more phase table := by
  simp [Candidate, candidates]

/-- So is a skip. -/
theorem gate_skipped_append :
    GateSkipped (past ++ more) table ↔ GateSkipped past table ∨ GateSkipped more table := by
  simp only [GateSkipped, List.mem_append, or_and_right, exists_or]

/-- So is a read of the dead tuples. -/
theorem count_read_append {succeeded : Bool} :
    CountRead (past ++ more) table succeeded ↔
      CountRead past table succeeded ∨ CountRead more table succeeded := by
  simp only [CountRead, List.mem_append, or_and_right, exists_or]

/-- A trace of one step attempts what the step does. -/
theorem attempted_singleton : Attempted [m] kind table ↔ Attempts kind table m := by
  simp [Attempted]

/-- Steps that start no runner bring no candidates. -/
theorem not_candidate_of_quiet (h : ∀ m ∈ past, ¬StartsRunner m) :
    ¬Candidate past phase table := by
  intro hcandidate
  obtain ⟨m, hm, tables, hop, _⟩ := candidate_iff.1 hcandidate
  exact h m hm ⟨_, _, hop⟩

end Append

/-! ## What the sets record -/

/-- The phases whose candidates go into `already_handled`. -/
def Phase.fillsHandled : Phase → Bool
  | .alsoTables => false
  | _ => true

/-- The phases whose candidates go into `already_vacuumed`. -/
def Phase.fillsVacuumed : Phase → Bool
  | .neverVacuumed | .preventWraparound | .preventBloat | .needsVacuum => true
  | _ => false

/-- The phase whose candidates go into `already_analyzed`. -/
def Phase.fillsAnalyzed : Phase → Bool
  | .neverAnalyzed => true
  | _ => false

/-- The sets hold the candidates of the phases that fill them, and nothing else. -/
structure Recorded (seen : Seen) (past : Trace W) : Prop where
  handled : ∀ table, table ∈ seen.handled ↔
    ∃ phase : Phase, phase.fillsHandled = true ∧ Candidate past phase table
  vacuumed : ∀ table, table ∈ seen.vacuumed ↔
    ∃ phase : Phase, phase.fillsVacuumed = true ∧ Candidate past phase table
  analyzed : ∀ table, table ∈ seen.analyzed ↔
    ∃ phase : Phase, phase.fillsAnalyzed = true ∧ Candidate past phase table

section Update

variable {options : VacuumOptions} {seen : Seen} {tables : List TableKey} {table : TableKey}
  (phase : Phase)

/-- A phase adds its candidates to `already_handled`, if it fills that set. -/
theorem mem_update_handled :
    table ∈ ((phase.spec options).update seen tables).handled ↔
      table ∈ seen.handled ∨ phase.fillsHandled = true ∧ table ∈ tables := by
  cases phase <;>
    simp [Phase.spec, Phase.fillsHandled, Seen.addVacuumed, Seen.addAnalyzed, Seen.addHandled]

/-- A phase adds its candidates to `already_vacuumed`, if it fills that set. -/
theorem mem_update_vacuumed :
    table ∈ ((phase.spec options).update seen tables).vacuumed ↔
      table ∈ seen.vacuumed ∨ phase.fillsVacuumed = true ∧ table ∈ tables := by
  cases phase <;>
    simp [Phase.spec, Phase.fillsVacuumed, Seen.addVacuumed, Seen.addAnalyzed, Seen.addHandled]

/-- A phase adds its candidates to `already_analyzed`, if it fills that set. -/
theorem mem_update_analyzed :
    table ∈ ((phase.spec options).update seen tables).analyzed ↔
      table ∈ seen.analyzed ∨ phase.fillsAnalyzed = true ∧ table ∈ tables := by
  cases phase <;>
    simp [Phase.spec, Phase.fillsAnalyzed, Seen.addVacuumed, Seen.addAnalyzed, Seen.addHandled]

end Update

namespace Recorded

variable {options : VacuumOptions} {seen : Seen} {past past' : Trace W} {tables : List TableKey}
  {phase : Phase}

/-- At first the sets are empty, and no phase had candidates. -/
theorem empty : Recorded (W := W) {} [] := by
  constructor <;> simp [Candidate, candidates]

/-- The sets read candidates only. -/
theorem congr (h : Recorded seen past)
    (hsame : ∀ phase table, Candidate past' phase table ↔ Candidate past phase table) :
    Recorded seen past' := by
  constructor <;> intro table <;> simp only [hsame]
  exacts [h.handled table, h.vacuumed table, h.analyzed table]

/-- A phase adds its candidates to the sets it fills. -/
theorem update (h : Recorded seen past)
    (hnew : ∀ other table, Candidate past' other table ↔
      Candidate past other table ∨ other = phase ∧ table ∈ tables) :
    Recorded ((phase.spec options).update seen tables) past' := by
  constructor <;> intro table <;>
    simp only [mem_update_handled, mem_update_vacuumed, mem_update_analyzed, h.handled,
      h.vacuumed, h.analyzed, hnew, and_or_left, exists_or] <;>
    refine or_congr Iff.rfl ⟨?_, ?_⟩
  all_goals first
    | (rintro ⟨hfills, hmem⟩; exact ⟨phase, hfills, rfl, hmem⟩)
    | (rintro ⟨_, hfills, rfl, hmem⟩; exact ⟨hfills, hmem⟩)

end Recorded

/-! ## The order of the phases -/

/-- The phases in the order in which they run. -/
def Phase.order : List Phase :=
  [.neverVacuumed, .neverAnalyzed, .preventWraparound, .preventBloat, .needsVacuum,
    .vacuumOverdue, .analyzeOverdue, .alsoTables]

/-- The run goes through the phases in that order. -/
theorem phases_are_phases (plan : Plan) : List.Forall₂ (IsPhase plan) Phase.order (phases plan) :=
  .cons (phase_never_vacuumed_is_phase plan) <| .cons (phase_never_analyzed_is_phase plan) <|
  .cons (phase_prevent_wraparound_is_phase plan) <| .cons (phase_prevent_bloat_is_phase plan) <|
  .cons (phase_needs_vacuum_is_phase plan) <| .cons (phase_vacuum_overdue_is_phase plan) <|
  .cons (phase_analyze_overdue_is_phase plan) <| .cons (phase_also_tables_is_phase plan) .nil

/-- The report of the end of a run. -/
def Op.Completes : Op → Prop
  | .log (.completed ..) => True
  | _ => False

/-- What is aside does not report the end. -/
theorem Op.Aside.not_completes {op : Op} (h : op.Aside) : ¬op.Completes := by
  unfold Op.Completes
  split
  · exact fun _ => h
  · exact id

/-- Nor does a runner. -/
theorem runner_not_completes {policy : RunPolicy} {phase : Phase} {statement : Statement}
    {already : Option (List TableKey)} {tables : List TableKey} {runner : RunM OperationSummary}
    (h : IsRunner policy phase statement already tables runner) :
    runner.Only fun op => ¬op.Completes := by
  obtain ⟨pass, hpass⟩ := h
  refine Prog.Only.bind (by simp [Op.Completes]) fun _ => ?_
  refine (sweep_of_runner hpass _).mono ?_ (fun _ h => h) (fun _ h => h)
  intro op h hcompletes
  unfold Op.Completes at hcompletes
  split at hcompletes
  · exact h
  · exact hcompletes

/-- A phase performs what is inert, and what its runner performs. -/
theorem phase_only {φ : Op → Prop} {plan : Plan} {phase : Phase} {p : Seen → PhaseM}
    (hinert : ∀ op : Op, op.Inert → φ op)
    (hrunner : ∀ statement already tables runner,
      IsRunner plan.policy phase statement already tables runner → runner.Only φ)
    (hp : IsPhase plan phase p) (seen : Seen) : (p seen).Only φ := by
  have honly : ∀ {ε α : Type} {q : Prog session ε α}, q.Only Op.Inert → q.Only φ := fun hq =>
    hq.mono hinert (fun _ h => h) (fun _ h => h)
  obtain ⟨discover, keys, runner, text, hdiscover, hisRunner⟩ := hp
  cases henabled : plan.enables phase with
  | false => trivial
  | true =>
      refine (honly (by simp [Op.Inert])).bind fun requested => ?_
      simp only [Prog.Only, Prog.all_ite]
      refine ⟨fun _ => trivial, fun _ => (honly (by simp [Op.Inert])).bind fun _ => ?_⟩
      refine (honly hdiscover).bind fun found => ?_
      exact (only_withContext (hrunner _ _ _ _ (hisRunner seen found))).bind fun _ => trivial

/-- So does the run, from the first phase to its last. -/
theorem run_in_order_only {φ : Op → Prop} {plan : Plan} (hinert : ∀ op : Op, op.Inert → φ op)
    (hrunner : ∀ phase statement already tables runner,
      IsRunner plan.policy phase statement already tables runner → runner.Only φ)
    {order : List Phase} {ps : List (Seen → PhaseM)}
    (hps : List.Forall₂ (IsPhase plan) order ps) (total : OperationSummary) (seen : Seen) :
    (runInOrder ps total seen).Only φ := by
  induction hps generalizing total seen with
  | nil => trivial
  | cons hp _ ih => exact (phase_only hinert (hrunner _) hp seen).bind fun result => ih _ _

/-- No phase reports the end of the run. -/
theorem run_in_order_not_completes (plan : Plan) {order : List Phase} {ps : List (Seen → PhaseM)}
    (hps : List.Forall₂ (IsPhase plan) order ps) (total : OperationSummary) (seen : Seen) :
    (runInOrder ps total seen).Only fun op => ¬op.Completes :=
  run_in_order_only (fun _ h => h.aside.not_completes)
    (fun _ _ _ _ _ hrunner => runner_not_completes hrunner) hps total seen

/-- The place of a phase in the order. -/
def Phase.index : Phase → Nat
  | .neverVacuumed => 0
  | .neverAnalyzed => 1
  | .preventWraparound => 2
  | .preventBloat => 3
  | .needsVacuum => 4
  | .vacuumOverdue => 5
  | .analyzeOverdue => 6
  | .alsoTables => 7

/-- A phase that is done has an earlier place. -/
theorem index_lt_of_done {done rest : List Phase} {phase earlier : Phase}
    (horder : Phase.order = done ++ phase :: rest) (h : earlier ∈ done) :
    earlier.index < phase.index := by
  have hsorted : Phase.order.Pairwise fun a b => a.index < b.index := by decide
  rw [horder, List.pairwise_append] at hsorted
  exact hsorted.2.2 earlier h phase (by simp)

section Rules

variable {ok : Trace W → Moment W → Prop} {past : Trace W} {state : W.State}
  {E : AnyError → Trace W → W.State → Prop} {plan : Plan}

/-- A phase: `I` holds before it and `K` once its guard has let it through, up to its runner, which
establishes `Q`. -/
theorem wp_phase_guarded {phase : Phase} {p : Seen → PhaseM} (hp : IsPhase plan phase p)
    {I K : Trace W → W.State → Prop} {seen : Seen}
    {Q : OperationSummary → Seen → Trace W → W.State → Prop}
    (hguard : ∀ past state, I past state → wp W ok (shutdownRequested : RunM Bool)
      (fun requested past state =>
        if requested = true then Q {} seen past state else K past state) E past state)
    (haside : W.Keeps ok Op.Aside K)
    (herr : ∀ err past state, K past state → E err past state)
    (hskip : plan.enables phase = false → ∀ past state, I past state → Q {} seen past state)
    (hrun : ∀ tables runner past state,
      IsRunner plan.policy phase (phase.spec plan.settings.vacuumOptions).statement
        ((phase.spec plan.settings.vacuumOptions).consults seen) tables runner →
      K past state →
      wp W ok runner
        (fun summary => Q summary ((phase.spec plan.settings.vacuumOptions).update seen tables))
        (fun err past state => ∀ text, E (err.context text) past state) past state)
    (hI : I past state) :
    wp W ok (p seen) (fun result => Q result.1 result.2) E past state := by
  obtain ⟨discover, keys, runner, text, hdiscover, hrunner⟩ := hp
  have hasides : ∀ {α : Type} {q : RunM α} {past state}, q.Only Op.Aside → K past state →
      wp W ok q (fun _ => K) E past state := fun hq hK => wp_of_only hq haside herr hK
  cases henabled : plan.enables phase with
  | false => exact hskip henabled _ _ hI
  | true =>
      refine wp_seq (hguard past state hI) fun requested past state h => ?_
      cases requested with
      | true => exact h
      | false =>
          have hK : K past state := h
          refine wp_seq (hasides (by simp [Op.Aside]) hK) fun _ past state hK => ?_
          refine wp_seq (hasides (only_aside hdiscover) hK) fun found past state hK => ?_
          refine wp_seq (wp_withContext.2 ?_) fun _ _ _ h => h
          exact wp_mono (hrun _ _ _ _ (hrunner seen found) hK) (fun _ _ _ h => h)
            (fun _ _ _ h => h text)

/-- A phase: `I` holds up to its runner, which establishes `Q`. -/
theorem wp_phase {phase : Phase} {p : Seen → PhaseM} (hp : IsPhase plan phase p)
    {I : Trace W → W.State → Prop} {seen : Seen}
    {Q : OperationSummary → Seen → Trace W → W.State → Prop}
    (haside : W.Keeps ok Op.Aside I)
    (herr : ∀ err past state, I past state → E err past state)
    (hskip : ∀ past state, I past state → Q {} seen past state)
    (hrun : ∀ tables runner past state,
      IsRunner plan.policy phase (phase.spec plan.settings.vacuumOptions).statement
        ((phase.spec plan.settings.vacuumOptions).consults seen) tables runner →
      I past state →
      wp W ok runner
        (fun summary => Q summary ((phase.spec plan.settings.vacuumOptions).update seen tables))
        (fun err past state => ∀ text, E (err.context text) past state) past state)
    (hI : I past state) :
    wp W ok (p seen) (fun result => Q result.1 result.2) E past state := by
  refine wp_phase_guarded hp (fun past state hI => ?_) haside herr (fun _ => hskip) hrun hI
  have hread :=
    wp_of_only (p := (shutdownRequested : RunM Bool)) (by simp [Op.Aside]) haside herr hI
  refine wp_mono hread (fun requested past state hI => ?_) fun _ _ _ h => h
  cases requested with
  | true => exact hskip past state hI
  | false => exact hI

/-- A runner: first it names its candidates, then it does only what a runner does, and `ok` has
to hold for that. -/
theorem wp_isRunner {policy : RunPolicy} {phase : Phase} {statement : Statement}
    {already : Option (List TableKey)} {tables : List TableKey} {runner : RunM OperationSummary}
    (h : IsRunner policy phase statement already tables runner)
    (hstart : ∀ start : Moment W, start.op = .mark (.candidates phase tables) → ok past start)
    (hok : ∀ (start : Moment W) (run : Trace W) (m : Moment W),
      start.op = .mark (.candidates phase tables) →
      (∀ m ∈ run, m.op.OfRunner statement already tables) →
      m.op.OfRunner statement already tables → ok (past ++ start :: run) m) :
    wp W ok runner
      (fun _ past' _ => ∃ start run, past' = past ++ start :: run ∧
        start.op = .mark (.candidates phase tables) ∧
        ∀ m ∈ run, m.op.OfRunner statement already tables)
      (fun _ past' _ => ∃ start run, past' = past ++ start :: run ∧
        start.op = .mark (.candidates phase tables) ∧
        ∀ m ∈ run, m.op.OfRunner statement already tables) past state := by
  obtain ⟨pass, hpass⟩ := h
  intro now _ answer after hanswer
  refine ⟨hstart _ rfl, ?_⟩
  let start : Moment W := ⟨now, .mark (.candidates phase tables), answer⟩
  refine wp_mono (wp_of_all (sweep_of_runner hpass _) (I := fun past' _ =>
    ∃ run, past' = past ++ start :: run ∧ ∀ m ∈ run, m.op.OfRunner statement already tables)
    ?_ ⟨[], rfl, by simp⟩) ?_ ?_
  · -- each step of the loop is one of the runner
    rintro _ state now ⟨run, rfl, hrun⟩ _ op answer after hop _
    refine ⟨hok start run _ rfl hrun hop, run ++ [⟨now, op, answer⟩], by simp, ?_⟩
    intro m hm
    rcases List.mem_append.1 hm with hm | hm
    · exact hrun m hm
    · obtain rfl := List.mem_singleton.1 hm
      exact hop
  · rintro _ _ _ ⟨-, run, hpast, hrun⟩
    exact ⟨start, run, hpast, rfl, hrun⟩
  · rintro _ _ _ ⟨-, run, hpast, hrun⟩
    exact ⟨start, run, hpast, rfl, hrun⟩

/-- The candidates once a runner has run. -/
theorem candidate_after_runner {past : Trace W} {start : Moment W} {run : Trace W}
    {phase : Phase} {tables : List TableKey} {statement : Statement}
    {already : Option (List TableKey)}
    (hstart : start.op = .mark (.candidates phase tables))
    (hrun : ∀ m ∈ run, m.op.OfRunner statement already tables) (other : Phase)
    (table : TableKey) :
    Candidate (past ++ start :: run) other table ↔
      Candidate past other table ∨ other = phase ∧ table ∈ tables := by
  -- the run names no candidates but in its first mark
  have hquiet : ¬Candidate run other table := by
    refine not_candidate_of_quiet fun m hm => ?_
    rintro ⟨_, _, hop⟩
    have hof := hrun m hm
    rw [hop] at hof
    exact hof
  have hsingle : Candidate [start] other table ↔ other = phase ∧ table ∈ tables := by
    constructor
    · intro h
      obtain ⟨m, hm, _, hop, hmem⟩ := candidate_iff.1 h
      obtain rfl := List.mem_singleton.1 hm
      obtain ⟨rfl, rfl⟩ : phase = other ∧ tables = _ := by simpa [hstart] using hop
      exact ⟨rfl, hmem⟩
    · rintro ⟨rfl, hmem⟩
      exact candidate_iff.2 ⟨start, by simp, tables, hstart, hmem⟩
  rw [show start :: run = [start] ++ run from rfl, candidate_append, candidate_append, hsingle]
  simp [hquiet]

/-- The eight phases: `I` holds after each prefix of them. -/
theorem wp_runInOrder {I : List Phase → OperationSummary → Seen → Trace W → W.State → Prop}
    (hphase : ∀ done phase rest, Phase.order = done ++ phase :: rest → ∀ p, IsPhase plan phase p →
      ∀ total seen past state, I done total seen past state →
      wp W ok (p seen)
        (fun result => I (done ++ [phase]) (total.add result.1) result.2) E past state)
    (hI : I [] {} {} past state) :
    wp W ok (runInOrder (phases plan) {} {})
      (fun total past state => ∃ seen, I Phase.order total seen past state) E past state := by
  -- on the phases that are left, for any list of those that are done
  suffices h : ∀ rest ps, List.Forall₂ (IsPhase plan) rest ps → ∀ done,
      Phase.order = done ++ rest → ∀ total seen past state, I done total seen past state →
      wp W ok (runInOrder ps total seen)
        (fun total past state => ∃ seen, I Phase.order total seen past state) E past state from
    h _ _ (phases_are_phases plan) [] rfl _ _ _ _ hI
  intro rest ps hps
  induction hps with
  | nil =>
      intro done hdone total seen past state hI
      obtain rfl : Phase.order = done := by simpa using hdone
      exact ⟨seen, hI⟩
  | cons hp _ ih =>
      intro done hdone total seen past state hI
      refine wp_seq (hphase done _ _ hdone _ hp total seen past state hI) ?_
      intro result past state hI
      exact ih _ (by simpa using hdone) _ _ _ _ hI

end Rules

end PgMaintainer
