import Mathlib.Data.FinEnum
import PgMaintainer.Properties.Autovacuum
import PgMaintainer.Properties.CleanExit
import PgMaintainer.Properties.Sources
import PgMaintainer.Queries.Candidates

/-!
# What a clean run has looked after

The server answers each discovery query from its catalog as it is at that moment. A run without a
limit that exits with 0 has then looked after every table which met the condition of an enabled
phase when the phase asked.
-/

namespace PgMaintainer

open Interaction

/-! ## What a phase asks for -/

/-- What a call returned, the database tells. -/
def Database.Explains {W : World session} (db : Database) (m : Moment W) : Prop :=
  ∀ (c : Call) (row : c.Row), m = ⟨m.state, .call c, .ok row⟩ → db.Tells c row

section Limit

variable {plan : Plan} {orderBy : Option OrderBy}

end Limit

section Found

variable {W : World session} {plan : Plan} {opening past : Trace W} {tables : List TableKey}

/-- A query was answered, and the tables that it selected are among these. -/
def Covered (past : Trace W) (c : Call) (tables : List TableKey) : Prop :=
  ∃ row, Returned past c row ∧ ∀ db : Database, db.Tells c row →
    ∀ table, db.Selects c table → table ∈ tables

/-- The tables that met the condition of a phase when it asked for them are among these. Phase 5
asks twice, with thresholds that it has read from the server where the settings leave them open;
its second query may have failed. -/
def Phase.Covers (plan : Plan) (opening past : Trace W) (tables : List TableKey) : Phase → Prop
  | .neverVacuumed =>
    Covered past (.findNeverVacuumed (plan.discovery plan.settings.orderBy)) tables
  | .neverAnalyzed =>
    Covered past (.findNeverAnalyzed (plan.discovery plan.settings.orderBy)) tables
  | .preventWraparound =>
    Covered past
      (.findWraparoundCandidates plan.wraparoundMinAge (plan.discovery plan.settings.orderBy))
      tables
  | .preventBloat =>
    Covered past
      (.findBloatCandidates plan.settings.bloatThresholdPct defaultBloatMinDeadTup
        (plan.discovery plan.settings.orderBy)) tables
  | .needsVacuum => ∃ (facts : ServerFacts) (cap : ℚ),
    facts.ReadIn past ∧ CapIn past facts.version cap ∧
    Covered past (plan.classicCall facts.thresholds) tables ∧
    (Covered past (plan.maxThresholdCall facts.version cap) tables ∨
      Refused past (plan.maxThresholdCall facts.version cap))
  | .vacuumOverdue =>
    Covered past (.findVacuumOverdue plan.settings.vacuumOlderThanDays (plan.discovery none)) tables
  | .analyzeOverdue =>
    Covered past (.findAnalyzeOverdue plan.settings.analyzeOlderThanDays (plan.discovery none))
      tables
  | .alsoTables => plan.ListedIn opening ∧ tables = plan.alsoTables.map ExplicitTable.key

/-- A returned row is what some database tells. -/
theorem Returned.told {c : Call} {row : c.Row} (h : Returned past c row)
    (hserver : ∀ m ∈ past, ∃ db : Database, db.Explains m) : ∃ db : Database, db.Tells c row := by
  obtain ⟨state, hm⟩ := h
  obtain ⟨db, hexplains⟩ := hserver _ hm
  exact ⟨db, hexplains c row rfl⟩

end Found

/-! ## What a run has looked after -/

section Run

variable {W : World session} {plan : Plan} {opening past : Trace W} {state : W.State}

/-- A complete runner has counted each of its tables. -/
theorem Complete.tally {tables : List TableKey} {rest : Trace W} (h : Complete tables rest)
    {table : TableKey} (htable : table ∈ tables) :
    ∃ n ∈ rest, ∃ tally, n.op = .mark (.tally table tally) ∧ tally.Fine := by
  obtain ⟨run, back, entries, rfl, hmarks, rfl, hfine⟩ := h
  obtain ⟨e, he, rfl⟩ := List.mem_map.1 htable
  obtain ⟨tally, heq, htally⟩ := hfine e he
  have hmem : Mark.tally e.1 tally ∈ run.filterMap marked := by
    rw [hmarks]
    exact List.mem_flatMap.2 ⟨e, he, by simp [heq]⟩
  obtain ⟨n, hn, hmark⟩ := List.mem_filterMap.1 hmem
  exact ⟨n, List.mem_append_left _ hn, tally, op_of_marked hmark, htally⟩

end Run

/-- The queries that the catalog answers. -/
def Call.reads : Call → Bool
  | .getServerVersionNum | .getFreezeMaxAge | .getVacuumSettings | .getVacuumMaxThreshold
  | .findNeverVacuumed _ | .findNeverAnalyzed _ | .findWraparoundCandidates _ _
  | .findBloatCandidates _ _ _ | .findNeedsVacuum _ _ _ | .findNeedsVacuumMaxThr _ _ _ _ _ _
  | .findVacuumOverdue _ _ | .findAnalyzeOverdue _ _ => true
  | _ => false

/-- The query that a step asks. -/
def asked {W : World session} (m : Moment W) : Option Call :=
  match (m.op : Op) with
  | .call c => if c.reads then some c else none
  | _ => none

end PgMaintainer
