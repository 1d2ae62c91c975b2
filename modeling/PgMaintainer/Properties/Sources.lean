import PgMaintainer.Properties.Scope
import PgMaintainer.Run.Marks
import PgMaintainer.Run.Programs
import PgMaintainer.Run.Requests
import PgMaintainer.Run.Server

/-!
# Where candidates come from

A runner gets the tables that the query of its phase has just returned, all of them and in the
order of the answer. Phase 5 puts two answers together, after it has read what its queries depend
on; phase 8 has no query, since its tables were looked up at the start.
-/

namespace PgMaintainer

open Interaction

attribute [local simp] Op.Inert Call.Writes

variable {W : World session} {plan : Plan} {opening past : Trace W} {state : W.State}

/-! ## What a phase has found -/

/-- A call has failed. -/
def Refused (past : Trace W) (c : Call) : Prop := ∃ state err, ⟨state, .call c, .error err⟩ ∈ past

/-- A value that was read, or stands in for one where the read has failed. -/
def Obtained (past : Trace W) (c : Call) (fallback value : c.Row) : Prop :=
  Returned past c value ∨ Refused past c ∧ value = fallback

/-- The settings of the server that phase 5 works with: the two thresholds and the version. -/
structure ServerFacts where
  thresholds : Int × ℚ
  version : Int

/-- They were read, or have their defaults. -/
structure ServerFacts.ReadIn (facts : ServerFacts) (past : Trace W) : Prop where
  thresholds : Obtained past .getVacuumSettings (defaultVacuumThreshold, defaultVacuumScaleFactor)
    facts.thresholds
  version : Obtained past .getServerVersionNum (0 : Int) facts.version

/-- The cap of the second query. Before version 18 there is no setting to read. -/
def CapIn (past : Trace W) (version : Int) (cap : ℚ) : Prop :=
  if version < pg18VersionNum then cap = deriveMaxThreshold none
  else ∃ guc : Int, Obtained past .getVacuumMaxThreshold defaultVacuumMaxThresholdPre18 guc ∧
    cap = deriveMaxThreshold (some guc)

/-- The first query of phase 5: what the settings leave open is the server's. -/
def Plan.classicCall (plan : Plan) (thresholds : Int × ℚ) : Call :=
  .findNeedsVacuum (plan.settings.vacuumThreshold.getD thresholds.1)
    (plan.settings.vacuumScaleFactor.getD thresholds.2) (plan.discovery plan.settings.orderBy)

/-- The second one. -/
def Plan.maxThresholdCall (plan : Plan) (version : Int) (cap : ℚ) : Call :=
  .findNeedsVacuumMaxThr (decide (pg18VersionNum ≤ version)) plan.schemas cap
    plan.settings.minBytes plan.settings.maxBytes plan.settings.table

/-- The explicit tables in the schemas of a plan. -/
def Plan.listed (plan : Plan) : List ExplicitTable :=
  plan.settings.alsoTables.filter (inScope plan.schemas)

/-- The explicit tables of a plan are those that the server knew at the start. -/
def Plan.ListedIn (plan : Plan) (opening : Trace W) : Prop :=
  ∃ existing, Returned opening (.findExplicitTables (plan.listed.map (·.schemaName))
    (plan.listed.map (·.tableName))) existing ∧
      plan.alsoTables = plan.listed.filter fun t => existing.contains t.key

/-- What a phase has found, as the answers to its queries. -/
def Phase.FoundIn (plan : Plan) (opening past : Trace W) : (phase : Phase) → phase.Found → Prop
  | .neverVacuumed, found =>
    Returned past (.findNeverVacuumed (plan.discovery plan.settings.orderBy)) found
  | .neverAnalyzed, found =>
    Returned past (.findNeverAnalyzed (plan.discovery plan.settings.orderBy)) found
  | .preventWraparound, found =>
    Returned past
      (.findWraparoundCandidates plan.wraparoundMinAge (plan.discovery plan.settings.orderBy)) found
  | .preventBloat, found =>
    Returned past
      (.findBloatCandidates plan.settings.bloatThresholdPct defaultBloatMinDeadTup
        (plan.discovery plan.settings.orderBy)) found
  | .needsVacuum, found => ∃ (facts : ServerFacts) (cap : ℚ)
      (classic maxThreshold : List NeedsVacuumTableInfo),
    facts.ReadIn past ∧ CapIn past facts.version cap ∧
    Returned past (plan.classicCall facts.thresholds) classic ∧
    Obtained past (plan.maxThresholdCall facts.version cap) ([] : List NeedsVacuumTableInfo)
      maxThreshold ∧
    found = mergeNeedsVacuumCandidates
      (classic.map fun t => { t with viaMaxThreshold := false })
      (maxThreshold.map fun t => { t with viaMaxThreshold := true }) plan.settings.orderBy
      plan.limitN
  | .vacuumOverdue, found =>
    Returned past (.findVacuumOverdue plan.settings.vacuumOlderThanDays (plan.discovery none)) found
  | .analyzeOverdue, found =>
    Returned past (.findAnalyzeOverdue plan.settings.analyzeOlderThanDays (plan.discovery none))
      found
  | .alsoTables, _ => plan.ListedIn opening

/-- The tables of a runner are what its phase has found. -/
def Sourced (plan : Plan) (opening past : Trace W) (m : Moment W) : Prop :=
  ∀ phase tables, m.op = .mark (.candidates phase tables) →
    plan.enables phase = true ∧ ∃ found, phase.FoundIn plan opening past found ∧
      tables = phase.keys plan found

/-- A call that failed has failed for good. -/
theorem lasting_refused (c : Call) : Lasting fun past : Trace W => Refused past c :=
  Lasting.any fun _ => Lasting.any fun _ => fun _ _ h => List.mem_append_left _ h

/-- A value stays where it came from. -/
theorem lasting_obtained (c : Call) (fallback value : c.Row) :
    Lasting fun past : Trace W => Obtained past c fallback value := fun past more h =>
  h.imp (lasting_returned c value past more) fun h => ⟨lasting_refused c past more h.1, h.2⟩

/-- So does the cap on the threshold. -/
theorem lasting_cap_in (version : Int) (cap : ℚ) :
    Lasting fun past : Trace W => CapIn past version cap := by
  intro past more h
  unfold CapIn at h ⊢
  split
  case isTrue hbefore => rwa [if_pos hbefore] at h
  case isFalse hsince =>
    rw [if_neg hsince] at h
    obtain ⟨guc, hguc, hcap⟩ := h
    exact ⟨guc, lasting_obtained _ _ _ past more hguc, hcap⟩

/-! ## The start -/

/-- Explicit tables were looked up. -/
theorem resolve_explicit_tables_returned (requested : List ExplicitTable) (schemas : List String) :
    wp W (fun _ _ => True) (resolveExplicitTables requested schemas)
      (fun tables past _ => tables ≠ [] → ∃ existing,
        Returned past (.findExplicitTables ((requested.filter (inScope schemas)).map (·.schemaName))
          ((requested.filter (inScope schemas)).map (·.tableName))) existing ∧
        tables = (requested.filter (inScope schemas)).filter fun t => existing.contains t.key)
      (fun _ _ _ => True) past state := by
  refine wp_ite.2 ⟨fun _ hne => (hne rfl).elim, fun _ => ?_⟩
  refine wp_bind.2 (wp_queryContext.2 (wp_call.2 fun now _ answer after _ => ⟨trivial, ?_⟩))
  cases answer with
  | error err => trivial
  | ok existing =>
      intro _
      exact ⟨existing, ⟨now, List.mem_append_right _ (List.mem_singleton_self _)⟩, rfl⟩

/-- So a plan has only explicit tables that the server knew. -/
theorem setup_lists (settings : RunSettings) :
    wp W (fun _ _ => True) (setup settings)
      (fun plan past _ => plan.alsoTables ≠ [] → plan.ListedIn past) (fun _ _ _ => True) past
      state := by
  refine wp_seq wp_true fun _ past state _ => ?_
  refine wp_seq wp_true fun _ past state _ => ?_
  refine wp_seq wp_true fun schemas past state _ => ?_
  refine wp_seq wp_true fun _ past state _ => ?_
  refine wp_seq wp_true fun _ past state _ => ?_
  refine wp_seq wp_true fun _ past state _ => ?_
  refine wp_seq wp_true fun minAge past state _ => ?_
  refine wp_seq wp_true fun gate past state _ => ?_
  refine wp_seq wp_true fun _ past state _ => ?_
  refine wp_seq (wp_withContext.2 (resolve_explicit_tables_returned settings.alsoTables schemas))
    fun tables past state h => h

/-! ## The phases -/

/-- Operations that start no runner. -/
def Op.StartsNone (op : Op) : Prop := ∀ phase tables, op ≠ .mark (.candidates phase tables)

attribute [local simp] Op.StartsNone

/-- What writes nothing starts no runner. -/
theorem Op.Inert.startsNone {op : Op} (h : op.Inert) : op.StartsNone := by
  rintro phase tables rfl
  exact h

/-- A step that starts no runner needs no source. -/
theorem sourced_of_starts_none {m : Moment W} (h : m.op.StartsNone) :
    Sourced plan opening past m :=
  fun phase tables hop => (h phase tables hop).elim

/-- What starts no runner keeps every lasting fact. -/
theorem keeps_sourced {P : Trace W → Prop} (hP : Lasting P) :
    W.Keeps (Sourced plan opening) Op.StartsNone fun past _ => P past :=
  fun past _ _ h _ _ _ _ hop _ => ⟨sourced_of_starts_none hop, hP past _ h⟩

/-- A query has returned what it returns. -/
theorem wp_returned {c : Call} {text : String} {E : AnyError → Trace W → W.State → Prop}
    (herr : ∀ err past state, E err past state) :
    wp W (Sourced plan opening) (queryContext c text) (fun row past _ => Returned past c row) E past
      state := by
  refine wp_queryContext.2 (wp_call.2 fun now _ answer after _ => ?_)
  refine ⟨sourced_of_starts_none (by simp), ?_⟩
  cases answer with
  | ok row => exact ⟨now, List.mem_append_right _ (List.mem_singleton_self _)⟩
  | error err => exact herr ..

/-- A read that may fail settles its value, and what was known stays so. -/
theorem wp_obtained {c : Call} {text : String} {fallback : c.Row} {P : Trace W → Prop}
    (hP : Lasting P) (h : P past) :
    wp W (Sourced plan opening) (orElse (queryContext c text) fallback)
      (fun value past _ => P past ∧ Obtained past c fallback value) (fun _ _ _ => True) past
      state := by
  refine wp_bind.2 (wp_attempt.2 (wp_queryContext.2 (wp_call.2 fun now _ answer after _ => ?_)))
  refine ⟨sourced_of_starts_none (by simp), ?_⟩
  have hmem : ⟨now, .call c, answer⟩ ∈ past ++ [(⟨now, .call c, answer⟩ : Moment W)] :=
    List.mem_append_right _ (List.mem_singleton_self _)
  cases answer with
  | ok row => exact ⟨hP past _ h, .inl ⟨now, hmem⟩⟩
  | error err => exact ⟨hP past _ h, .inr ⟨⟨now, err, hmem⟩, rfl⟩⟩

/-- The cap of the second query. -/
theorem wp_cap (version : Int) {P : Trace W → Prop} (hP : Lasting P) (h : P past) :
    wp W (Sourced plan opening)
      (orElse (getVacuumMaxThreshold version)
        (deriveMaxThreshold (some defaultVacuumMaxThresholdPre18)))
      (fun cap past _ => P past ∧ CapIn past version cap) (fun _ _ _ => True) past state := by
  unfold orElse getVacuumMaxThreshold CapIn
  split
  case isTrue hbefore => exact ⟨h, rfl⟩
  case isFalse hsince =>
    refine wp_bind.2 (wp_attempt.2 (wp_bind.2 (wp_queryContext.2 (wp_call.2
      fun now _ answer after _ => ?_))))
    refine ⟨sourced_of_starts_none (by simp), ?_⟩
    have hmem : ⟨now, .call .getVacuumMaxThreshold, answer⟩ ∈
        past ++ [(⟨now, .call .getVacuumMaxThreshold, answer⟩ : Moment W)] :=
      List.mem_append_right _ (List.mem_singleton_self _)
    cases answer with
    | ok guc => exact ⟨hP past _ h, guc, .inl ⟨now, hmem⟩, rfl⟩
    | error err => exact ⟨hP past _ h, _, .inr ⟨⟨now, err, hmem⟩, rfl⟩, rfl⟩

/-- The first list. -/
theorem wp_classic {thresholds : Int × ℚ} {P : Trace W → Prop} (hP : Lasting P) (h : P past) :
    wp W (Sourced plan opening)
      (findNeedsVacuumCandidates plan.schemas plan.settings.table
        (plan.settings.vacuumThreshold.getD thresholds.1)
        (plan.settings.vacuumScaleFactor.getD thresholds.2) plan.settings.minBytes
        plan.settings.maxBytes plan.limitN plan.settings.orderBy)
      (fun found past _ => P past ∧ ∃ classic : List NeedsVacuumTableInfo,
        Returned past (plan.classicCall thresholds) classic ∧
        found = classic.map fun t => { t with viaMaxThreshold := false })
      (fun _ _ _ => True) past state := by
  refine wp_bind.2 (wp_queryContext.2 (wp_call.2 fun now _ answer after _ => ?_))
  refine ⟨sourced_of_starts_none (by simp), ?_⟩
  cases answer with
  | error err => trivial
  | ok rows =>
      refine ⟨hP past _ h, rows, ⟨now, ?_⟩, rfl⟩
      exact List.mem_append_right _ (List.mem_singleton_self _)

/-- The second list, which is empty only where its query fails or finds nothing. -/
theorem wp_max_threshold {cap : ℚ} {version : Int} {P : Trace W → Prop} (hP : Lasting P)
    (h : P past) :
    wp W (Sourced plan opening)
      (orElse (findNeedsVacuumMaxThresholdCandidates plan.schemas plan.settings.table cap version
        plan.settings.minBytes plan.settings.maxBytes) [])
      (fun found past _ => P past ∧ ∃ maxThreshold : List NeedsVacuumTableInfo,
        Obtained past (plan.maxThresholdCall version cap) ([] : List NeedsVacuumTableInfo)
          maxThreshold ∧
        found = maxThreshold.map fun t => { t with viaMaxThreshold := true })
      (fun _ _ _ => True) past state := by
  intro now _ answer after _
  refine ⟨sourced_of_starts_none (by simp), ?_⟩
  have hmem : ⟨now, .call (plan.maxThresholdCall version cap), answer⟩ ∈
      past ++ [(⟨now, .call (plan.maxThresholdCall version cap), answer⟩ : Moment W)] :=
    List.mem_append_right _ (List.mem_singleton_self _)
  cases answer with
  | ok rows => exact ⟨hP past _ h, rows, .inl ⟨now, hmem⟩, rfl⟩
  | error err => exact ⟨hP past _ h, [], .inr ⟨⟨now, err, hmem⟩, rfl⟩, rfl⟩

/-- What the first list of phase 5 rests on. -/
def Plan.ClassicIn (plan : Plan) (thresholds : Int × ℚ) (found : List NeedsVacuumTableInfo)
    (past : Trace W) : Prop :=
  Obtained past .getVacuumSettings (defaultVacuumThreshold, defaultVacuumScaleFactor) thresholds ∧
    ∃ classic : List NeedsVacuumTableInfo, Returned past (plan.classicCall thresholds) classic ∧
      found = classic.map fun t => { t with viaMaxThreshold := false }

/-- The rows of the first query stay its rows. -/
theorem lasting_classic_in (thresholds : Int × ℚ) (found : List NeedsVacuumTableInfo) :
    Lasting fun past : Trace W => plan.ClassicIn thresholds found past :=
  (lasting_obtained _ _ _).and (Lasting.any fun _ => (lasting_returned _ _).and (Lasting.const _))

/-- Phase 5 puts two answers together. -/
theorem discover_needs_vacuum_sourced :
    wp W (Sourced plan opening) (discoverNeedsVacuum plan)
      (fun found past _ => Phase.needsVacuum.FoundIn plan opening past found) (fun _ _ _ => True)
      past state := by
  refine wp_seq (wp_obtained (Lasting.const True) trivial) fun thresholds past state h => ?_
  have hthresholds := lasting_obtained (W := W) .getVacuumSettings
    (defaultVacuumThreshold, defaultVacuumScaleFactor) thresholds
  refine wp_seq (wp_withContext.2 (wp_classic hthresholds h.2)) fun found past state h => ?_
  have hclassic : Lasting fun past : Trace W => plan.ClassicIn thresholds found past :=
    lasting_classic_in thresholds found
  refine wp_seq (wp_obtained hclassic h) fun version past state h => ?_
  have hversion := hclassic.and (lasting_obtained .getServerVersionNum (0 : Int) version)
  refine wp_seq (wp_cap version hversion h) fun cap past state h => ?_
  have hcap := hversion.and (lasting_cap_in version cap)
  refine wp_seq (wp_max_threshold hcap h) fun more past state h => ?_
  obtain ⟨⟨⟨⟨hread, classic, hreturned, rfl⟩, hknown⟩, hlimit⟩, maxThreshold, hobtained, rfl⟩ := h
  exact ⟨⟨thresholds, version⟩, cap, classic, maxThreshold, ⟨hread, hknown⟩, hlimit, hreturned,
    hobtained, rfl⟩

/-- Each phase has its tables from the answers to its queries; the last one has them from the
start. -/
theorem discover_sourced (phase : Phase)
    (hlisted : phase = .alsoTables → plan.ListedIn opening) :
    wp W (Sourced plan opening) (phase.discover plan)
      (fun found past _ => phase.FoundIn plan opening past found) (fun _ _ _ => True) past
      state := by
  cases phase with
  | neverVacuumed => exact wp_withContext.2 (wp_returned fun _ _ _ => trivial)
  | neverAnalyzed => exact wp_withContext.2 (wp_returned fun _ _ _ => trivial)
  | preventWraparound => exact wp_withContext.2 (wp_returned fun _ _ _ => trivial)
  | preventBloat => exact wp_withContext.2 (wp_returned fun _ _ _ => trivial)
  | needsVacuum => exact discover_needs_vacuum_sourced
  | vacuumOverdue => exact wp_withContext.2 (wp_returned fun _ _ _ => trivial)
  | analyzeOverdue => exact wp_withContext.2 (wp_returned fun _ _ _ => trivial)
  | alsoTables => exact hlisted rfl

/-- A phase starts its runner with what it has found. -/
theorem phase_sourced (phase : Phase) {seen : Seen}
    (hlisted : plan.alsoTables ≠ [] → plan.ListedIn opening) :
    wp W (Sourced plan opening) (phase.program plan seen) (fun _ _ _ => True) (fun _ _ _ => True)
      past state := by
  have hannounces : W.Keeps (Sourced plan opening) Op.Announces fun _ _ => True :=
    (keeps_sourced (Lasting.const True)).mono fun _ h => h.inert.startsNone
  refine wp_program (I := fun _ _ => True) (Q := fun _ _ _ _ => True)
    (F := fun found past _ => plan.enables phase = true ∧ phase.FoundIn plan opening past found)
    hannounces (fun _ _ _ _ => trivial) (fun _ _ _ => trivial) (fun henabled _ _ _ => ?_)
    (fun found past state hfound => ?_) trivial
  · refine wp_mono (discover_sourced phase fun hphase => hlisted fun hnone => ?_)
      (fun _ _ _ h => ⟨henabled, h⟩) fun _ _ _ h => h
    -- the last phase is enabled by the tables it has
    subst hphase
    simp [Plan.enables, hnone] at henabled
  obtain ⟨statement, already, hrunner⟩ := (phase_runner phase seen found).isRunner
  refine wp_mono (wp_isRunner (hrunner plan.policy) (fun start hstart => ?_) ?_)
    (fun _ _ _ _ => trivial) fun _ _ _ _ => trivial
  · intro other tables hop
    have hmark := hstart.symm.trans hop
    simp only [Op.mark.injEq, Mark.candidates.injEq] at hmark
    obtain ⟨rfl, rfl⟩ := hmark
    exact ⟨hfound.1, found, hfound.2, rfl⟩
  · intro start run m _ _ hm other tables hop
    rw [hop] at hm
    exact hm.elim

/-- So do all phases of a run. -/
theorem run_phases_sourced (hlisted : plan.alsoTables ≠ [] → plan.ListedIn opening) :
    wp W (Sourced plan opening) (runPhases plan) (fun _ _ _ => True) (fun _ _ _ => True) past
      state := by
  refine wp_seq (wp_phases (I := fun _ _ _ _ => True) (fun phase total seen past state _ =>
    phase_sourced phase hlisted) trivial) fun total past state _ => ?_
  exact wp_safe (φ := Op.StartsNone) (by simp [finish, verdict]) wp_true
    fun _ _ => sourced_of_starts_none

/-- Every step of a run is at its start, or starts a runner with what was found. -/
theorem run_sourced {settings : RunSettings} {start : W.State} :
    wp W (Staged start settings Sourced) (run settings) (fun _ _ _ => True) (fun _ _ _ => True) []
      start :=
  run_staged fun _ _ _ hexec => by
    obtain ⟨_, _, hlists⟩ := hexec.returned (setup_lists settings)
    exact run_phases_sourced hlists

/-- In every execution of a run, each runner is started with the tables that the query of its phase
has returned: all of them and in the order of the answer, with the schemas, the filter, the sizes,
the order and the limit of the settings in the query. The list of phase 5 is the merge of two
answers, the second of which is empty if its query failed; what its queries depend on was read from
the server, or has its default where the read failed. The list of phase 8 has the explicit tables
that the server knew at the start. -/
theorem runners_get_what_was_found {settings : RunSettings} {start last : W.State}
    {before after : Trace W} {now : Moment W} {q : RunM Nat}
    (h : Exec W start (run settings) (before ++ now :: after) last q) {phase : Phase}
    {tables : List TableKey} (hstart : now.op = .mark (.candidates phase tables)) :
    ∃ plan opening middle ready, before = opening ++ middle ∧
      Exec W start (setup settings) opening ready (.pure plan) ∧ plan.settings = settings ∧
      plan.enables phase = true ∧
      ∃ found, phase.FoundIn plan opening middle found ∧ tables = phase.keys plan found := by
  rcases h.safe run_sourced with hopens | ⟨plan, opening, middle, ready, hpast, hexec, hsourced⟩
  · rw [hstart] at hopens
    exact hopens.elim
  · exact ⟨plan, opening, middle, ready, hpast, hexec, setup_settings hexec,
      hsourced phase tables hstart⟩

/-- A run with one table, which the query has returned. -/
theorem one_table_was_found : ∃ plan opening middle ready,
    (oneTable.trace (defaultSettings [.neverVacuumed] [])).take 24 = opening ++ middle ∧
      Exec calm () (setup (defaultSettings [.neverVacuumed] [])) opening ready
        (.pure plan) ∧ plan.settings = defaultSettings [.neverVacuumed] [] ∧
      plan.enables .neverVacuumed = true ∧
      ∃ found, Phase.neverVacuumed.FoundIn plan opening middle found ∧
        [("public", "t")] = Phase.neverVacuumed.keys plan found := by
  have hsome : ((oneTable.trace (defaultSettings [.neverVacuumed] []))[24]?.map (·.op)) =
      some (.mark (.candidates .neverVacuumed [("public", "t")])) := by
    decide
  obtain ⟨m, hm, hop⟩ := Option.map_eq_some_iff.1 hsome
  exact runners_get_what_was_found (oneTable.exec_at _ hm) hop

end PgMaintainer
