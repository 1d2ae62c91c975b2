import PgMaintainer.Run.History

/-!
# The phases as one program

A phase finds its candidates, hands them to its runner and adds them to the sets. Once what it
finds is named by the phase, the eight are one program.
-/

namespace PgMaintainer

open Interaction

namespace Phase

/-- What a phase finds. The tables of the last one are listed in the plan. -/
abbrev Found : Phase → Type
  | .neverVacuumed | .neverAnalyzed => List TableInfo
  | .preventWraparound => List FreezeTableInfo
  | .preventBloat => List BloatTableInfo
  | .needsVacuum => List NeedsVacuumTableInfo
  | .vacuumOverdue => List OverdueVacuumTableInfo
  | .analyzeOverdue => List OverdueAnalyzeTableInfo
  | .alsoTables => Unit

section Plan

variable (plan : Plan)

/-- How it finds them. -/
def discover : (phase : Phase) → RunM phase.Found
  | .neverVacuumed =>
    withContext
      (findNeverVacuumed plan.schemas plan.settings.table plan.settings.minBytes
        plan.settings.maxBytes plan.limitN plan.settings.orderBy)
      "Failed to query never-vacuumed tables"
  | .neverAnalyzed =>
    withContext
      (findNeverAnalyzed plan.schemas plan.settings.table plan.settings.minBytes
        plan.settings.maxBytes plan.limitN plan.settings.orderBy)
      "Failed to query never-analyzed tables"
  | .preventWraparound =>
    withContext
      (findWraparoundCandidates plan.schemas plan.wraparoundMinAge plan.settings.table
        plan.settings.minBytes plan.settings.maxBytes plan.limitN plan.settings.orderBy)
      "Failed to query wraparound candidates"
  | .preventBloat =>
    withContext
      (findBloatCandidates plan.schemas plan.settings.table plan.settings.bloatThresholdPct
        defaultBloatMinDeadTup plan.settings.minBytes plan.settings.maxBytes plan.limitN
        plan.settings.orderBy)
      "Failed to query bloat candidates"
  | .needsVacuum => discoverNeedsVacuum plan
  | .vacuumOverdue =>
    withContext
      (findVacuumOverdueCandidates plan.schemas plan.settings.table
        plan.settings.vacuumOlderThanDays plan.settings.minBytes plan.settings.maxBytes plan.limitN)
      "Failed to query vacuum-overdue candidates"
  | .analyzeOverdue =>
    withContext
      (findAnalyzeOverdueCandidates plan.schemas plan.settings.table
        plan.settings.analyzeOlderThanDays plan.settings.minBytes plan.settings.maxBytes
        plan.limitN)
      "Failed to query analyze-overdue candidates"
  | .alsoTables => pure ()

/-- The tables it hands to its runner. -/
def keys : (phase : Phase) → phase.Found → List TableKey
  | .neverVacuumed, found | .neverAnalyzed, found => found.map TableInfo.key
  | .preventWraparound, found => found.map FreezeTableInfo.key
  | .preventBloat, found => found.map BloatTableInfo.key
  | .needsVacuum, found => found.map NeedsVacuumTableInfo.key
  | .vacuumOverdue, found => found.map OverdueVacuumTableInfo.key
  | .analyzeOverdue, found => found.map OverdueAnalyzeTableInfo.key
  | .alsoTables, _ => plan.alsoTables.map ExplicitTable.key

/-- Its runner. -/
def runner (seen : Seen) : (phase : Phase) → phase.Found → RunPolicy → RunM OperationSummary
  | .neverVacuumed, found => fun policy =>
    runVacuumNeverVacuumed found policy plan.settings.vacuumOptions plan.lagGate
  | .neverAnalyzed, found => fun policy => runAnalyzeNeverAnalyzed found policy plan.lagGate
  | .preventWraparound, found => fun policy =>
    runFreezeWraparound found policy plan.settings.vacuumOptions plan.lagGate
  | .preventBloat, found => fun policy =>
    runBloatVacuum found policy seen.handled plan.settings.vacuumOptions plan.lagGate
  | .needsVacuum, found => fun policy =>
    runNeedsVacuum found policy seen.vacuumed plan.settings.vacuumOptions plan.lagGate
  | .vacuumOverdue, found => fun policy =>
    runVacuumOverdue found policy seen.vacuumed plan.settings.vacuumOptions plan.lagGate
  | .analyzeOverdue, found => fun policy =>
    runAnalyzeOverdue found policy seen.analyzed plan.lagGate
  | .alsoTables, _ => fun policy =>
    runAlsoTables plan.alsoTables policy seen.handled plan.settings.vacuumOptions plan.lagGate

/-- The context of its error. -/
def failure : Phase → String
  | .neverVacuumed => "VACUUM phase failed"
  | .neverAnalyzed => "ANALYZE phase failed"
  | .preventWraparound => "VACUUM FREEZE phase failed"
  | .preventBloat => "VACUUM BLOAT phase failed"
  | .needsVacuum => "VACUUM NEEDS VACUUM phase failed"
  | .vacuumOverdue => "VACUUM OVERDUE phase failed"
  | .analyzeOverdue => "ANALYZE OVERDUE phase failed"
  | .alsoTables => "VACUUM ANALYZE (--also-tables) phase failed"

/-- The program of a phase. -/
def program (phase : Phase) (seen : Seen) : PhaseM :=
  phaseGuard (plan.enables phase) seen do
    log (.phaseStarted phase)
    let found ← phase.discover plan
    let summary ← withContext (phase.runner plan seen found plan.policy) phase.failure
    pure (summary, (phase.spec plan.settings.vacuumOptions).update seen (phase.keys plan found))

end Plan

end Phase

section Plan

variable {plan : Plan}

/-- The phases are these programs. -/
theorem phases_eq : phases plan = Phase.order.map (Phase.program plan) := rfl

/-- The runner of a phase is one of the eight, and gets the tables of the phase. -/
theorem phase_runner (phase : Phase) (seen : Seen) (found : phase.Found) :
    PhaseRunner phase (phase.keys plan found) (phase.runner plan seen found) := by
  cases phase with
  | neverVacuumed => exact .neverVacuumed ..
  | neverAnalyzed => exact .neverAnalyzed ..
  | preventWraparound => exact .preventWraparound ..
  | preventBloat => exact .preventBloat ..
  | needsVacuum => exact .needsVacuum ..
  | vacuumOverdue => exact .vacuumOverdue ..
  | analyzeOverdue => exact .analyzeOverdue ..
  | alsoTables => exact .alsoTables ..

attribute [local simp] Op.Inert Call.Writes

/-- To find candidates writes nothing. -/
theorem discover_inert (phase : Phase) : (phase.discover plan).Only Op.Inert := by
  cases phase with
  | needsVacuum => exact discover_needs_vacuum_inert plan
  | alsoTables => trivial
  | neverVacuumed => simp [Phase.discover, findNeverVacuumed]
  | neverAnalyzed => simp [Phase.discover, findNeverAnalyzed]
  | preventWraparound => simp [Phase.discover, findWraparoundCandidates]
  | preventBloat => simp [Phase.discover, findBloatCandidates]
  | vacuumOverdue => simp [Phase.discover, findVacuumOverdueCandidates]
  | analyzeOverdue => simp [Phase.discover, findAnalyzeOverdueCandidates]

end Plan

/-- The operations of a phase before its query. -/
def Op.Announces : Op → Prop
  | .shutdownRequested | .log (.phaseStarted _) => True
  | _ => False

/-- An announcement writes nothing. -/
theorem Op.Announces.inert {op : Op} (h : op.Announces) : op.Inert := by
  unfold Op.Announces at h
  split at h
  · trivial
  · trivial
  · exact h.elim

section Rules

variable {W : World session} {ok : Trace W → Moment W → Prop} {past : Trace W} {state : W.State}
  {E : AnyError → Trace W → W.State → Prop} {plan : Plan} {phase : Phase} {seen : Seen}
  {I : Trace W → W.State → Prop} {F : phase.Found → Trace W → W.State → Prop}
  {Q : OperationSummary → Seen → Trace W → W.State → Prop}

/-- A phase, from its parts: `I` holds up to its query, which establishes `F`. -/
theorem wp_program (hannounces : W.Keeps ok Op.Announces I)
    (herr : ∀ err past state, I past state → E err past state)
    (hskip : ∀ past state, I past state → Q {} seen past state)
    (hdiscover : plan.enables phase = true → ∀ past state, I past state →
      wp W ok (phase.discover plan) F E past state)
    (hrun : ∀ found past state, F found past state →
      wp W ok (phase.runner plan seen found plan.policy)
        (fun summary => Q summary
          ((phase.spec plan.settings.vacuumOptions).update seen (phase.keys plan found)))
        (fun err past state => E (err.context phase.failure) past state) past state)
    (h : I past state) :
    wp W ok (phase.program plan seen) (fun result => Q result.1 result.2) E past state := by
  have hkeep : ∀ {α : Type} {q : RunM α} {past state}, q.Only Op.Announces → I past state →
      wp W ok q (fun _ => I) E past state := fun hq hI => wp_of_only hq hannounces herr hI
  refine wp_ite.2 ⟨fun henabled => ?_, fun _ => hskip past state h⟩
  refine wp_seq (hkeep (by simp [Op.Announces]) h) fun requested past state h => ?_
  refine wp_ite.2 ⟨fun _ => hskip past state h, fun _ => ?_⟩
  refine wp_seq (hkeep (by simp [Op.Announces]) h) fun _ past state h => ?_
  refine wp_seq (hdiscover henabled past state h) fun found past state h => ?_
  exact wp_seq (wp_withContext.2 (hrun found past state h)) fun _ _ _ h => h

/-- The phases in their order. By induction on the phases left. -/
theorem wp_phases {I : OperationSummary → Seen → Trace W → W.State → Prop}
    (hphase : ∀ (phase : Phase) total seen past state, I total seen past state →
      wp W ok (phase.program plan seen) (fun result => I (total.add result.1) result.2) E past
        state)
    {total : OperationSummary} (h : I total seen past state) :
    wp W ok (runInOrder (phases plan) total seen)
      (fun total past state => ∃ seen, I total seen past state) E past state := by
  rw [phases_eq]
  induction Phase.order generalizing total seen past state with
  | nil => exact ⟨seen, h⟩
  | cons phase order ih =>
      exact wp_seq (hphase phase total seen past state h) fun result past state h => ih h

end Rules

end PgMaintainer
