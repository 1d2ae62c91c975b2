import PgMaintainer.Run.History
import PgMaintainer.Run.Server

/-!
# No work is repeated across phases

Each phase leaves out the tables that an earlier phase of its kind had as candidates, with one
exception: the wraparound phase consults no set, although the never-vacuumed phase before it
filled one. So a table is maintained twice only if it is a candidate of both.
-/

namespace PgMaintainer

open Interaction

variable {W : World session}

/-- No runner starts between two statements of this kind on one table: no two phases worked on
the same table. -/
def NoRepeat (kind : Kind) (tr : Trace W) : Prop :=
  ∀ (table : TableKey) (i j k : Nat) (first second m : Moment W), i < k → k < j →
    tr[i]? = some first → tr[k]? = some m → tr[j]? = some second →
    Attempts kind table first → Attempts kind table second → ¬StartsRunner m

/-- No table was a candidate of both the never-vacuumed and the wraparound phase. -/
def FreezesOthers (tr : Trace W) : Prop :=
  ∀ table, Candidate tr .neverVacuumed table → ¬Candidate tr .preventWraparound table

instance (tr : Trace W) : Decidable (FreezesOthers tr) :=
  inferInstanceAs (Decidable (∀ table ∈ candidates tr .neverVacuumed,
    ¬Candidate tr .preventWraparound table))

/-- The statement `m` repeats no work from before the last start of a runner. -/
def Fresh (past : Trace W) (m : Moment W) : Prop :=
  FreezesOthers past → ∀ kind ∈ [Statement.isVacuum, Statement.isAnalyze], ∀ table : TableKey,
    Attempts kind table m → ∀ (i k : Nat) (first start : Moment W), i < k →
    past[i]? = some first → past[k]? = some start → StartsRunner start →
    ¬Attempts kind table first

/-- The sets record the candidates, and all work was done by one of the phases `done`, with its
statement and on one of its candidates. -/
structure Books (options : VacuumOptions) (done : List Phase) (seen : Seen) (past : Trace W) :
    Prop where
  recorded : Recorded seen past
  attempted : ∀ m ∈ past, ∀ statement table, m.op = .call (.maintain statement table) →
    ∃ phase ∈ done, statement = (phase.spec options).statement ∧ Candidate past phase table

section Phase

variable {options : VacuumOptions} {done : List Phase} {seen : Seen} {past : Trace W}
  {phase : Phase}

/-- An earlier phase of the same kind filled the set that a later one consults, except that
the wraparound phase consults none. -/
theorem left_out_of_candidate {earlier : Phase} {kind : Kind} {table : TableKey}
    (hrecorded : Recorded seen past) (hlt : earlier.index < phase.index)
    (hkind : kind ∈ [Statement.isVacuum, Statement.isAnalyze])
    (hearlier : kind (earlier.spec options).statement = true)
    (hphase : kind (phase.spec options).statement = true)
    (hcandidate : Candidate past earlier table) :
    LeavesOut ((phase.spec options).consults seen) table ∨
      earlier = .neverVacuumed ∧ phase = .preventWraparound := by
  have hhandled : earlier.fillsHandled = true → table ∈ seen.handled := fun h =>
    (hrecorded.handled table).2 ⟨earlier, h, hcandidate⟩
  have hvacuumed : earlier.fillsVacuumed = true → table ∈ seen.vacuumed := fun h =>
    (hrecorded.vacuumed table).2 ⟨earlier, h, hcandidate⟩
  have hanalyzed : earlier.fillsAnalyzed = true → table ∈ seen.analyzed := fun h =>
    (hrecorded.analyzed table).2 ⟨earlier, h, hcandidate⟩
  have hkinds : kind = Statement.isVacuum ∨ kind = Statement.isAnalyze := by simpa using hkind
  rcases hkinds with rfl | rfl <;> cases phase <;> cases earlier <;>
    simp_all [Phase.spec, Phase.index, Phase.fillsHandled, Phase.fillsVacuumed,
      Phase.fillsAnalyzed, Statement.isVacuum, Statement.isAnalyze, LeavesOut]

variable {tables : List TableKey} {start : Moment W} {run : Trace W}

/-- A statement of the phase's runner is fresh: an attempt before the runner was on a table it
leaves out. -/
theorem fresh_of_runner (hbooks : Books options done seen past)
    (hdone : ∀ earlier ∈ done, earlier.index < phase.index)
    (hstart : start.op = .mark (.candidates phase tables))
    (hrun : ∀ m ∈ run, m.op.OfRunner (phase.spec options).statement
      ((phase.spec options).consults seen) tables)
    {m : Moment W} (hm : m.op.OfRunner (phase.spec options).statement
      ((phase.spec options).consults seen) tables) :
    Fresh (past ++ start :: run) m := by
  rintro hfreezes kind hkind table ⟨statement, hop, hk⟩ i k first again hik hi hk' hagain
    ⟨statement₁, hop₁, hk₁⟩
  rw [hop] at hm
  obtain ⟨rfl, hmem, hout⟩ := hm
  have hle : k ≤ past.length := by
    by_contra hlt
    have hrun' : again ∈ run := by
      rw [List.getElem?_append_right (by omega), List.getElem?_cons, if_neg (by omega)] at hk'
      exact List.mem_of_getElem? hk'
    obtain ⟨_, _, hopm⟩ := hagain
    have hof := hrun again hrun'
    rw [hopm] at hof
    exact hof
  have hfirst : first ∈ past := by
    rw [List.getElem?_append_left (by omega)] at hi
    exact List.mem_of_getElem? hi
  obtain ⟨earlier, hearlier, rfl, hcandidate⟩ := hbooks.attempted first hfirst _ _ hop₁
  rcases left_out_of_candidate hbooks.recorded (hdone _ hearlier) hkind hk₁ hk hcandidate
    with h | ⟨rfl, rfl⟩
  · exact hout h
  · refine hfreezes table (candidate_append.2 (.inl hcandidate)) ?_
    exact candidate_iff.2 ⟨start, by simp, tables, hstart, hmem⟩

namespace Books

/-- A runner adds its phase to the books. -/
theorem next (h : Books options done seen past)
    (hstart : start.op = .mark (.candidates phase tables))
    (hrun : ∀ m ∈ run, m.op.OfRunner (phase.spec options).statement
      ((phase.spec options).consults seen) tables) :
    Books options (done ++ [phase]) ((phase.spec options).update seen tables)
      (past ++ start :: run) where
  recorded := h.recorded.update (candidate_after_runner hstart hrun)
  attempted := by
    intro m hm statement table hop
    rcases List.mem_append.1 hm with hm | hm
    · obtain ⟨earlier, hearlier, hstatement, hcandidate⟩ := h.attempted m hm _ _ hop
      exact ⟨earlier, by simp [hearlier], hstatement, candidate_append.2 (.inl hcandidate)⟩
    rcases List.mem_cons.1 hm with rfl | hm
    · simp [hstart] at hop
    · have hof := hrun m hm
      rw [hop] at hof
      exact ⟨phase, by simp, hof.1,
        (candidate_after_runner hstart hrun _ _).2 (.inr ⟨rfl, hof.2.1⟩)⟩

/-- The books before the first statement. -/
theorem before (options : VacuumOptions) : Books (W := W) options [] {} [] :=
  ⟨.empty, by simp⟩

/-- As long as no phase has run, the options do not matter. -/
theorem of_none {other : VacuumOptions} (h : Books other [] seen past) :
    Books options [] seen past where
  recorded := h.recorded
  attempted m hm statement table hop := by simpa using h.attempted m hm statement table hop

/-- A phase that does not run leaves the books as they are. -/
theorem skip (h : Books options done seen past) (phase : Phase) :
    Books options (done ++ [phase]) seen past where
  recorded := h.recorded
  attempted m hm statement table hop := by
    obtain ⟨earlier, hearlier, hrest⟩ := h.attempted m hm statement table hop
    exact ⟨earlier, by simp [hearlier], hrest⟩

/-- Whatever is aside leaves the books as they are, and so does the end of the run. -/
theorem keeps_closing : W.Keeps Fresh Op.Closing fun past _ => Books options done seen past := by
  intro past _ now h _ op answer _ hop _
  have hmaintain : ∀ statement table, op ≠ .call (.maintain statement table) := by
    rintro _ _ rfl
    exact hop
  have hsame : ∀ phase table, Candidate (past ++ [⟨now, op, answer⟩]) phase table ↔
      Candidate past phase table := by
    intro phase table
    rw [candidate_append, or_iff_left]
    refine not_candidate_of_quiet fun m hm => ?_
    obtain rfl := List.mem_singleton.1 hm
    rintro ⟨_, _, rfl⟩
    exact hop
  refine ⟨?_, h.recorded.congr hsame, ?_⟩
  · rintro _ _ _ _ ⟨statement, heq, _⟩
    exact absurd heq (hmaintain statement _)
  · intro m hm statement table heq
    rcases List.mem_append.1 hm with hm | hm
    · obtain ⟨phase, hphase, hstatement, hcandidate⟩ := h.attempted m hm _ _ heq
      exact ⟨phase, hphase, hstatement, (hsame _ _).2 hcandidate⟩
    · obtain rfl := List.mem_singleton.1 hm
      exact absurd heq (hmaintain statement table)

/-- What is aside keeps the books. -/
theorem keeps : W.Keeps Fresh Op.Aside fun past _ => Books options done seen past :=
  keeps_closing.mono fun _ => Op.Aside.closing

end Books

end Phase

section Run

variable {past : Trace W} {state : W.State}

/-- Every statement of the phases is fresh. -/
theorem wp_runInOrder_fresh (plan : Plan)
    (h : Books plan.settings.vacuumOptions [] {} past) :
    wp W Fresh (runInOrder (phases plan) {} {})
      (fun _ past _ => ∃ seen, Books plan.settings.vacuumOptions Phase.order seen past)
      (fun _ _ _ => True) past state := by
  refine wp_runInOrder (I := fun done _ seen past _ =>
    Books plan.settings.vacuumOptions done seen past) ?_ h
  intro done phase rest horder p hp _ _ past state hI
  refine wp_phase hp
    (Q := fun _ seen past _ => Books plan.settings.vacuumOptions (done ++ [phase]) seen past)
    Books.keeps (fun _ _ _ _ => trivial) (fun _ _ h => h.skip phase) ?_ hI
  intro tables runner past state hrunner hI
  refine wp_mono (wp_isRunner hrunner ?_ ?_) ?_ ?_
  · intro start hstart _ _ _ _ hattempt
    obtain ⟨_, hop, _⟩ := hattempt
    simp [hstart] at hop
  · intro start run m hstart hrun hm
    exact fresh_of_runner hI (fun _ => index_lt_of_done horder) hstart hrun hm
  · rintro _ _ _ ⟨start, run, rfl, hstart, hrun⟩
    exact hI.next hstart hrun
  · exact fun _ _ _ _ _ => trivial

/-- Every statement of a run is fresh. -/
theorem wp_run_fresh (settings : RunSettings) :
    wp W Fresh (run settings) (fun _ _ _ => True) (fun _ _ _ => True) [] state := by
  refine wp_seq (wp_of_only (setup_aside settings) Books.keeps (fun _ _ _ _ => trivial)
    (Books.before settings.vacuumOptions)) fun plan past state hbooks => ?_
  refine wp_seq (wp_runInOrder_fresh plan hbooks.of_none) ?_
  rintro total past state ⟨seen, hbooks⟩
  exact wp_mono
    (wp_of_only (finish_closing total) Books.keeps_closing (fun _ _ _ _ => trivial) hbooks)
    (fun _ _ _ _ => trivial) (fun _ _ _ h => h)

/-- In every run, whatever else happens, a table is maintained by two phases only if it was a
candidate of both the never-vacuumed and the wraparound phase. -/
theorem no_work_repeated_across_phases {settings : RunSettings} {state last : W.State}
    {tr : Trace W} {rest : RunM Nat} (h : Exec W state (run settings) tr last rest)
    (hfreezes : FreezesOthers tr) :
    NoRepeat Statement.isVacuum tr ∧ NoRepeat Statement.isAnalyze tr := by
  have haccepts := (h.sound .refl (wp_run_fresh settings)).1
  suffices hkind : ∀ kind ∈ [Statement.isVacuum, Statement.isAnalyze], NoRepeat kind tr from
    ⟨hkind _ (by simp), hkind _ (by simp)⟩
  intro kind hkind table i j k first second m hik hkj hi hk hj hfirst hsecond hm
  have hprefix : FreezesOthers (tr.take j) := by
    rw [← List.take_append_drop j tr] at hfreezes
    exact fun table h₁ h₂ =>
      hfreezes table (candidate_append.2 (.inl h₁)) (candidate_append.2 (.inl h₂))
  refine haccepts.get hj hprefix kind hkind table hsecond i k first m hik ?_ ?_ hm hfirst
  · rw [List.getElem?_take_of_lt (by omega), hi]
  · rw [List.getElem?_take_of_lt (by omega), hk]

end Run

/-- A server with a never-vacuumed table `t`, and a wraparound candidate of the given name. -/
def freezing (name : String) : Server where
  neverVacuumed := [⟨"public", "t", 10, 0, 8192, none⟩]
  wraparound := [⟨"public", name, 300000000, 200000000, 8192, none⟩]

/-- The modes that meet on a never-vacuumed wraparound candidate. -/
def freezingSettings : RunSettings := defaultSettings [.neverVacuumed, .preventWraparound] []

/-- Two phases with a table each repeat no work. -/
theorem no_work_repeated_on_two_tables :
    NoRepeat Statement.isVacuum ((freezing "u").trace freezingSettings) ∧
      NoRepeat Statement.isAnalyze ((freezing "u").trace freezingSettings) :=
  no_work_repeated_across_phases ((freezing "u").exec freezingSettings) (by decide)

/-- A never-vacuumed table that is also a wraparound candidate is vacuumed by both phases. -/
theorem never_vacuumed_table_is_frozen_again :
    ¬∀ (settings : RunSettings) (tr : Trace calm) (last : Unit) (rest : RunM Nat),
      Exec calm () (run settings) tr last rest →
      NoRepeat Statement.isVacuum tr ∧ NoRepeat Statement.isAnalyze tr := by
  intro h
  have hrun := (h freezingSettings _ _ _ ((freezing "t").exec freezingSettings)).1
  exact hrun ("public", "t") 31 45 39 _ _ _ (by decide) (by decide) rfl rfl rfl
    ⟨_, rfl, rfl⟩ ⟨_, rfl, rfl⟩ ⟨_, _, rfl⟩

end PgMaintainer
