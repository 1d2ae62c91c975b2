import PgMaintainer.Run.Server
import PgMaintainer.Run.SessionState

/-!
# Settings in force

Whenever a run does any work, its session was found to be fit, has every configured setting, and
has the lock of exactly the schemas that it works on. A failed `SET` ends the run before the first
table, and nothing in the phases touches the session again.
-/

namespace PgMaintainer

open Interaction

/-- The calls that do the work of a run: the queries for candidates, the probe before a table, the
terminations, the statements with their reads, and the rows of the logbook. -/
def Call.Works : Call → Prop
  | .findNeverVacuumed _ | .findNeverAnalyzed _ | .findWraparoundCandidates _ _
  | .findBloatCandidates _ _ _ | .findNeedsVacuum _ _ _ | .findNeedsVacuumMaxThr _ _ _ _ _ _
  | .findVacuumOverdue _ _ | .findAnalyzeOverdue _ _ | .findActiveVacuums _ | .terminateBackend _
  | .getDeadTupleCount _ | .maintain _ _ | .insertMaintenanceLog _ => True
  | _ => False

/-- The schemas a query for candidates asks about. -/
def Call.asksAbout : Call → Option (List String)
  | .findNeverVacuumed q | .findNeverAnalyzed q | .findWraparoundCandidates _ q
  | .findBloatCandidates _ _ q | .findNeedsVacuum _ _ q | .findVacuumOverdue _ q
  | .findAnalyzeOverdue _ q => some q.schemas
  | .findNeedsVacuumMaxThr _ schemas _ _ _ _ => some schemas
  | _ => none

/-- The call is no query for candidates of other schemas. -/
def Call.Within (schemas : List String) (c : Call) : Prop := ∀ asked ∈ c.asksAbout, asked = schemas

attribute [local simp] Call.Works Call.asksAbout Call.Within

/-- No work is done before the first phase. -/
theorem Call.Opens.idle {settings : RunSettings} {c : Call} (h : c.Opens settings) : ¬c.Works := by
  cases c <;> first | exact id | exact h.elim

/-- The phases ask about the schemas of their plan. -/
theorem allows_within {plan : Plan} {c : Call} (h : plan.Allows c) : c.Within plan.schemas := by
  intro asked hasked
  cases c with
  | findNeverVacuumed q | findNeverAnalyzed q =>
      obtain ⟨-, rfl⟩ := h
      exact (Option.some.inj hasked).symm
  | findWraparoundCandidates _ q | findVacuumOverdue _ q | findAnalyzeOverdue _ q =>
      obtain ⟨-, -, rfl⟩ := h
      exact (Option.some.inj hasked).symm
  | findBloatCandidates _ _ q | findNeedsVacuum _ _ q =>
      obtain ⟨-, -, -, rfl⟩ := h
      exact (Option.some.inj hasked).symm
  | findNeedsVacuumMaxThr _ schemas _ _ _ _ =>
      obtain ⟨-, rfl, -⟩ := h
      exact (Option.some.inj hasked).symm
  | _ => cases hasked

variable {W : World session} {settings : RunSettings}

/-- Work is done in a session that is ready, on the schemas that its lock is for. -/
def WorksWhenReady (settings : RunSettings) (past : Trace W) (m : Moment W) : Prop :=
  ∀ c, m.op = .call c → c.Works → ∃ schemas id, Resolves settings schemas ∧
    sessionState.after past = .ready settings schemas id ∧ c.Within schemas

/-- The phases work in the session that the start has left. -/
theorem run_phases_work_when_ready {plan : Plan} (hresolves : Resolves settings plan.schemas)
    {id : Int32} {past : Trace W} {state : W.State}
    (hs : sessionState.after past = .ready settings plan.schemas id) :
    wp W (WorksWhenReady settings) (runPhases plan) (fun _ _ _ => True) (fun _ _ _ => True)
      past state := by
  have hkeep : W.Keeps (WorksWhenReady settings) (Op.OfPlan plan) fun past _ =>
      sessionState.after past = .ready settings plan.schemas id := by
    intro past state now hs _ op answer after hop _
    refine ⟨?_, ?_⟩
    · intro c hc _
      obtain rfl : op = .call c := hc
      exact ⟨plan.schemas, id, hresolves, hs, allows_within hop⟩
    · show sessionState.after (past ++ [⟨now, op, answer⟩]) = _
      rw [Observer.after_snoc, hs]
      exact run_phases_keep_session hop answer
  exact wp_mono (wp_of_only (E := fun _ _ _ => True) (run_phases_of_plan plan) hkeep
    (fun _ _ _ _ => trivial) hs) (fun _ _ _ _ => trivial) fun _ _ _ _ => trivial

/-- So does the whole run. -/
theorem run_works_when_ready {past : Trace W} {state : W.State} :
    wp W (WorksWhenReady settings) (run settings) (fun _ _ _ => True) (fun _ _ _ => True)
      past state := by
  refine wp_seq (wp_safe setup_of_start (setup_session settings) ?_) fun plan past state h => ?_
  · intro past m hop c hc hworks
    rw [hc] at hop
    exact (Call.Opens.idle hop hworks).elim
  · obtain ⟨-, hresolves, id, hs⟩ := h
    exact run_phases_work_when_ready hresolves hs

/-- Whenever a run asks for candidates, probes, terminates, maintains or writes to the logbook, its
session is ready: it is connected to a primary of a supported version, the settings in force are
exactly the configured ones, and the one lock it has is that of the schemas it asks about. -/
theorem works_in_a_ready_session {state last : W.State} {before after : Trace W} {now : Moment W}
    {q : RunM Nat} {c : Call}
    (h : Exec W state (run settings) (before ++ now :: after) last q) (hcall : now.op = .call c)
    (hworks : c.Works) :
    ∃ schemas id, Resolves settings schemas ∧
      sessionState.after before = .ready settings schemas id ∧ c.Within schemas :=
  h.safe run_works_when_ready c hcall hworks

/-- The statement on the only table of a run. -/
theorem vacuums_in_a_ready_session : ∃ past m after schemas id,
    oneTable.trace (defaultSettings [.neverVacuumed] []) = past ++ m :: after ∧
      m.op = .call (.maintain (.vacuum ⟨true, false, false, none, none⟩) ("public", "t")) ∧
      sessionState.after past = .ready (defaultSettings [.neverVacuumed] []) schemas id := by
  have hsome : ((oneTable.trace (defaultSettings [.neverVacuumed] []))[31]?.map (·.op)) =
      some (.call (.maintain (.vacuum ⟨true, false, false, none, none⟩) ("public", "t"))) := by
    decide
  obtain ⟨m, hm, hop⟩ := Option.map_eq_some_iff.1 hsome
  obtain ⟨schemas, id, -, hready, -⟩ :=
    works_in_a_ready_session (oneTable.exec_at _ hm) hop trivial
  exact ⟨_, m, _, schemas, id, trace_split hm, hop, hready⟩

end PgMaintainer
