import PgMaintainer.Properties.Sources

/-!
# Which phase a step belongs to

Whatever a run does to a table, it does in the loop of an enabled phase: behind the mark with which
the runner of the phase was started, and to one of the tables that the phase has found.
-/

namespace PgMaintainer

open Interaction

/-! ## Calls about a table -/

/-- The table that a call is about, if it is about one. -/
def Call.table? : Call → Option TableKey
  | .findActiveVacuums table | .getDeadTupleCount table | .maintain _ table => some table
  | .insertMaintenanceLog entry => some (entry.schema, entry.table)
  | _ => none

/-- Operations that are about no table. -/
def Op.Tableless : Op → Prop
  | .call c => c.table? = none
  | _ => True

attribute [local simp] Call.table? Op.Tableless

/-- What is announced is about no table. -/
theorem Op.Announces.tableless {op : Op} (h : op.Announces) : op.Tableless := by
  cases op with
  | call c => exact h.elim
  | _ => trivial

/-- A call of a runner about a table is about one of its own. -/
theorem Op.OfTables.mem {job : Job} {tables : List TableKey} {c : Call} {table : TableKey}
    (h : (Op.call c).OfTables job tables) (htable : c.table? = some table) : table ∈ tables := by
  obtain ⟨own, hown, hcall⟩ := h
  cases c with
  | findActiveVacuums t =>
      obtain rfl : t = own := hcall
      obtain rfl := Option.some.inj htable
      exact hown
  | getDeadTupleCount t =>
      obtain ⟨-, rfl⟩ := hcall
      obtain rfl := Option.some.inj htable
      exact hown
  | maintain statement t =>
      obtain ⟨-, -, rfl⟩ := hcall
      obtain rfl := Option.some.inj htable
      exact hown
  | insertMaintenanceLog entry =>
      obtain ⟨-, -, rfl⟩ := hcall
      obtain rfl := Option.some.inj htable
      exact hown
  | _ => cases htable

section Discovery

variable {plan : Plan}

/-- A read that may fail is about no more than the read. -/
theorem or_else_tableless {α : Type} {p : RunM α} (hp : p.Only Op.Tableless) (fallback : α) :
    (orElse p fallback).Only Op.Tableless := by
  refine hp.attempt.bind fun result => ?_
  cases result <;> trivial

/-- To find candidates is about no table yet. -/
theorem discover_tableless (phase : Phase) : (phase.discover plan).Only Op.Tableless := by
  cases phase with
  | neverVacuumed => simp [Phase.discover, findNeverVacuumed]
  | neverAnalyzed => simp [Phase.discover, findNeverAnalyzed]
  | preventWraparound => simp [Phase.discover, findWraparoundCandidates]
  | preventBloat => simp [Phase.discover, findBloatCandidates]
  | vacuumOverdue => simp [Phase.discover, findVacuumOverdueCandidates]
  | analyzeOverdue => simp [Phase.discover, findAnalyzeOverdueCandidates]
  | alsoTables => trivial
  | needsVacuum =>
      refine (or_else_tableless (by simp [getVacuumSettings]) _).bind fun thresholds => ?_
      refine Prog.Only.bind (by simp [findNeedsVacuumCandidates]) fun classic => ?_
      refine (or_else_tableless (by simp [getServerVersionNum]) _).bind fun version => ?_
      refine (or_else_tableless (by simp [getVacuumMaxThreshold]) _).bind fun cap => ?_
      refine (or_else_tableless ?_ _).bind fun _ => trivial
      refine Prog.Only.bind (by simp) fun answer => ?_
      cases answer <;> trivial

end Discovery

/-! ## The phase of a step -/

section Attribution

variable {W : World session} {plan : Plan} {opening past : Trace W} {state : W.State}
  {good : Job → List TableKey → Trace W → Moment W → Prop}

/-- A step in the loop of an enabled phase over the tables that the phase has found. It meets `good`
for the job of the phase and what the loop has done so far. -/
def InLoop (plan : Plan) (opening : Trace W)
    (good : Job → List TableKey → Trace W → Moment W → Prop) (past : Trace W) (m : Moment W) :
    Prop :=
  ∃ (phase : Phase) (found : phase.Found) (front : Trace W) (start : Moment W) (work : Trace W),
    past = front ++ start :: work ∧
    start.op = .mark (.candidates phase (phase.keys plan found)) ∧
    plan.enables phase = true ∧ phase.FoundIn plan opening front found ∧
    good (plan.job phase) (phase.keys plan found) work m

/-- A step is about no table, or it is in such a loop. -/
def Attributed (plan : Plan) (opening : Trace W)
    (good : Job → List TableKey → Trace W → Moment W → Prop) (past : Trace W) (m : Moment W) :
    Prop :=
  m.op.Tableless ∨ InLoop plan opening good past m

/-- The runner of a phase does the job of the phase. -/
theorem phase_runs (phase : Phase) (seen : Seen) (found : phase.Found) :
    (plan.job phase).Runs phase (phase.keys plan found)
      (phase.runner plan seen found plan.policy) := by
  cases phase with
  | neverVacuumed => exact run_vacuum_never_vacuumed_runs ..
  | neverAnalyzed => exact run_analyze_never_analyzed_runs ..
  | preventWraparound => exact run_freeze_wraparound_runs ..
  | preventBloat => exact run_bloat_vacuum_runs ..
  | needsVacuum => exact run_needs_vacuum_runs ..
  | vacuumOverdue => exact run_vacuum_overdue_runs ..
  | analyzeOverdue => exact run_analyze_overdue_runs ..
  | alsoTables => exact run_also_tables_runs ..

/-- A phase, where its loop is good. -/
theorem phase_attributed (phase : Phase) {seen : Seen}
    (hlisted : plan.alsoTables ≠ [] → plan.ListedIn opening)
    (hloop : ∀ pass tables state, (plan.job phase).Does pass →
      wp W (good (plan.job phase) tables) (Prog.sweep pass 0 tables { total := tables.length })
        (fun _ _ _ => True) (fun _ _ _ => True) [] state) :
    wp W (Attributed plan opening good) (phase.program plan seen) (fun _ _ _ => True)
      (fun _ _ _ => True) past state := by
  have hannounces : W.Keeps (Attributed plan opening good) Op.Announces fun _ _ => True :=
    fun _ _ _ _ _ _ _ _ hop _ => ⟨.inl hop.tableless, trivial⟩
  refine wp_program (I := fun _ _ => True) (Q := fun _ _ _ _ => True)
    (F := fun found past _ => plan.enables phase = true ∧ phase.FoundIn plan opening past found)
    hannounces (fun _ _ _ _ => trivial) (fun _ _ _ => trivial) (fun henabled past state _ => ?_)
    (fun found past state hfound => ?_) trivial
  · have hlist : phase = .alsoTables → plan.ListedIn opening := by
      intro hphase
      refine hlisted fun hnone => ?_
      subst hphase
      simp [Plan.enables, hnone] at henabled
    have hsourced : wp W (Sourced plan opening) (phase.discover plan)
        (fun found past _ => phase.FoundIn plan opening past found) (fun _ _ _ => True) past
        state := discover_sourced phase hlist
    have hfound := wp_also wp_true (wp_weaken hsourced fun _ _ _ => trivial)
    exact wp_mono (wp_safe (discover_tableless phase) hfound fun _ _ hop => .inl hop)
      (fun _ _ _ h => ⟨henabled, h.2⟩) fun _ _ _ h => h
  · have hjob : (plan.job phase).Runs phase (phase.keys plan found)
        (phase.runner plan seen found plan.policy) := phase_runs phase seen found
    obtain ⟨pass, hpass, hruns⟩ := hjob
    rw [hruns]
    refine wp_seq (R := fun _ past' _ => ∃ start : Moment W, past' = past ++ [start] ∧
      start.op = .mark (.candidates phase (phase.keys plan found))) ?_ ?_
    · exact fun now _ answer after _ => ⟨.inl trivial, _, rfl, rfl⟩
    intro _ past' state hstart
    obtain ⟨start, rfl, hstart⟩ := hstart
    -- the loop is followed in a trace of its own, behind what came before
    have hwork : wp W (Attributed plan opening good)
        (Prog.sweep pass 0 (phase.keys plan found) { total := (phase.keys plan found).length })
        (fun _ _ _ => True) (fun _ _ _ => True) (past ++ [start] ++ []) state := by
      refine wp_shift (wp_weaken (hloop pass _ state hpass) fun work m hgood => ?_)
      refine .inr ⟨phase, found, past, start, work, ?_, hstart, hfound.1, hfound.2, hgood⟩
      rw [List.append_assoc, List.singleton_append]
    rwa [List.append_nil] at hwork

/-- So are the steps of all phases. -/
theorem run_phases_attributed (hlisted : plan.alsoTables ≠ [] → plan.ListedIn opening)
    (hloop : ∀ phase pass tables state, (plan.job phase).Does pass →
      wp W (good (plan.job phase) tables) (Prog.sweep pass 0 tables { total := tables.length })
        (fun _ _ _ => True) (fun _ _ _ => True) [] state) :
    wp W (Attributed plan opening good) (runPhases plan) (fun _ _ _ => True) (fun _ _ _ => True)
      past state := by
  refine wp_seq (wp_phases (I := fun _ _ _ _ => True) (fun phase total seen past state _ =>
    phase_attributed phase hlisted (hloop phase)) trivial) fun total past state _ => ?_
  exact wp_safe (φ := Op.Tableless) (by simp [finish, verdict]) wp_true fun _ _ hop => .inl hop

end Attribution

end PgMaintainer
