import Mathlib.Data.List.Perm.Basic
import PgMaintainer.Operations.Gates
import PgMaintainer.Rules

/-!
# Who is terminated before a table

The active-vacuum gate against every list of sessions the server can report. Which backends it
terminates, whether it lets the table through and what it counts depend on the list and the
policy only.
-/

namespace PgMaintainer

open Interaction

/-- A server on which these sessions vacuum the table, and every backend can be terminated. -/
def vacuumedBy (sessions : List (Int × String)) : World session where
  State := Unit
  Drift _ _ := False
  Answers _ op answer _ :=
    match op with
    | .call (.findActiveVacuums _) => answer = .ok sessions
    | .call (.terminateBackend _) => answer = .ok ()
    | _ => True

variable {sessions : List (Int × String)}

/-- The backend that a step terminates. -/
def Moment.terminates (m : Moment (vacuumedBy sessions)) : Option Int :=
  match m.op with
  | .call (.terminateBackend pid) => some pid
  | _ => none

/-- The backends that were terminated, in this order. -/
def terminated (tr : Trace (vacuumedBy sessions)) : List Int := tr.filterMap Moment.terminates

/-- A session of an autovacuum worker. -/
def isAutovacuum (s : Int × String) : Bool := s.2 == backendTypeAutovacuumWorker

/-- The backends that the policy wants terminated. -/
def toTerminate (policy : RunPolicy) (sessions : List (Int × String)) : List Int :=
  if policy.skipActiveVacuum || policy.dryRun then []
  else
    (sessions.filter isAutovacuum).map Prod.fst ++
      if policy.force then (sessions.filter (!isAutovacuum ·)).map Prod.fst else []

/-- Whether the policy lets a table through. -/
def letsTable (policy : RunPolicy) (sessions : List (Int × String)) : Bool :=
  sessions.isEmpty ||
    !policy.skipActiveVacuum && (policy.force || sessions.all isAutovacuum)

/-- A dry run leaves out both lists. -/
theorem to_terminate_eq {policy : RunPolicy} (hskip : ¬policy.skipActiveVacuum = true)
    (sessions : List (Int × String)) : toTerminate policy sessions =
      (if policy.dryRun then [] else (sessions.filter isAutovacuum).map Prod.fst) ++
        if policy.force then
          if policy.dryRun then [] else (sessions.filter (!isAutovacuum ·)).map Prod.fst
        else [] := by
  rw [toTerminate]
  by_cases hdry : policy.dryRun = true
  · simp [hdry]
  · simp [hskip, hdry]

/-- No manual session is left over if and only if all are autovacuum workers. -/
theorem no_manual_iff (sessions : List (Int × String)) :
    ((sessions.filter (!isAutovacuum ·)).map Prod.fst).isEmpty = sessions.all isAutovacuum := by
  rw [List.isEmpty_map]
  induction sessions with
  | nil => rfl
  | cons s sessions ih =>
      rw [List.all_cons, ← ih]
      cases hs : isAutovacuum s <;> simp [hs]

/-- What the gate returns: whether it lets the table through, and the summary. -/
def gateResult (policy : RunPolicy) (sessions : List (Int × String)) (summary : OperationSummary) :
    Bool × OperationSummary :=
  if letsTable policy sessions then (true, summary)
  else (false, { summary with skipped := summary.skipped + 1 })

section Gate

variable {past : Trace (vacuumedBy sessions)}
  {E : AnyError → Trace (vacuumedBy sessions) → Unit → Prop}

/-- The terminations of two traces in a row. -/
theorem terminated_append (tr tr' : Trace (vacuumedBy sessions)) :
    terminated (tr ++ tr') = terminated tr ++ terminated tr' := List.filterMap_append

/-- Terminating one backend after the other. -/
theorem wp_terminate_backends (pids : List Int) :
    wp (vacuumedBy sessions) (fun _ _ => True) (terminateBackends pids)
      (fun _ past' _ => terminated past' = terminated past ++ pids) E past () := by
  induction pids generalizing past with
  | nil =>
      show terminated past = terminated past ++ []
      rw [List.append_nil]
  | cons pid pids ih =>
      refine wp_bind.2 (wp_queryContext.2 (wp_call.2 ?_))
      intro now _ answer after hanswer
      obtain rfl : answer = .ok () := hanswer
      refine ⟨trivial, wp_mono ih ?_ fun _ _ _ h => h⟩
      intro _ past' _ h
      rw [h, terminated_append, List.append_assoc]
      rfl

/-- A real run terminates all, a dry run none. -/
theorem wp_terminate_in_real_run (policy : RunPolicy) (pids : List Int) :
    wp (vacuumedBy sessions) (fun _ _ => True) (terminateInRealRun policy pids)
      (fun _ past' _ => terminated past' =
        terminated past ++ if policy.dryRun then [] else pids) E past () := by
  rw [terminateInRealRun]
  by_cases hdry : policy.dryRun = true
  · rw [if_pos hdry, if_pos hdry]
    show terminated past = terminated past ++ []
    rw [List.append_nil]
  · rw [if_neg hdry, if_neg hdry]
    exact wp_terminate_backends pids

/-- The probe reports the sessions there are. -/
theorem wp_find_active_vacuums (table : TableKey) :
    wp (vacuumedBy sessions) (fun _ _ => True) (findActiveVacuums table)
      (fun found past' _ => found = sessions ∧ terminated past' = terminated past) E past () := by
  refine wp_bind.2 (wp_call.2 ?_)
  intro now _ answer after hanswer
  obtain rfl : answer = .ok sessions := hanswer
  refine ⟨trivial, rfl, ?_⟩
  rw [terminated_append]
  exact List.append_nil _

/-- A table is counted as skipped. -/
theorem wp_skip_table (table : TableKey) (summary : OperationSummary) :
    wp (vacuumedBy sessions) (fun _ _ => True)
      (do pure (false, ← skipTable summary table .activeVacuum))
      (fun result past' _ => result = (false, { summary with skipped := summary.skipped + 1 }) ∧
        terminated past' = terminated past) E past () := by
  intro now _ answer after _
  refine ⟨trivial, rfl, ?_⟩
  rw [terminated_append]
  exact List.append_nil _

/-- What the gate does: it terminates the backends that the policy wants, lets the table through
as the policy says, and counts it as skipped if not. -/
theorem wp_handle_active_vacuums (table : TableKey) (policy : RunPolicy)
    (summary : OperationSummary) :
    wp (vacuumedBy sessions) (fun _ _ => True) (handleActiveVacuums table policy summary)
      (fun result past' _ => result = gateResult policy sessions summary ∧
        terminated past' = terminated past ++ toTerminate policy sessions) E past () := by
  refine wp_seq (wp_find_active_vacuums table) ?_
  rintro found past' _ ⟨rfl, hfound⟩
  by_cases hempty : found.isEmpty = true
  · rw [if_pos hempty]
    obtain rfl := List.isEmpty_iff.1 hempty
    refine ⟨rfl, ?_⟩
    rw [hfound]
    simp [toTerminate]
  -- `--skip-active-vacuum` is asked for before any backend is terminated
  by_cases hskip : policy.skipActiveVacuum = true
  · rw [if_neg hempty, if_pos hskip]
    refine wp_mono (wp_skip_table table summary) ?_ fun _ _ _ h => h
    intro result past'' _ ⟨hresult, hsame⟩
    have hlets : letsTable policy found = false := by simp [letsTable, hempty, hskip]
    refine ⟨by rw [hresult, gateResult, hlets]; rfl, ?_⟩
    rw [hsame, hfound, toTerminate, hskip]
    exact (List.append_nil _).symm
  rw [if_neg hempty, if_neg hskip]
  refine wp_seq (wp_terminate_in_real_run policy _) ?_
  intro _ past'' _ hworkers
  rw [hfound] at hworkers
  have hnone : ((found.filter fun s => s.2 != backendTypeAutovacuumWorker).map Prod.fst).isEmpty =
      found.all isAutovacuum := no_manual_iff found
  rw [hnone]
  -- the autovacuum workers are gone; only manual sessions keep the table back
  by_cases hall : found.all isAutovacuum = true
  · have hlets : letsTable policy found = true := by simp [letsTable, hskip, hall]
    have hmanual : (found.filter (!isAutovacuum ·)).map Prod.fst = [] := by
      rwa [← no_manual_iff, List.isEmpty_iff] at hall
    rw [if_pos hall]
    refine ⟨by rw [gateResult, hlets]; rfl, ?_⟩
    rw [hworkers, to_terminate_eq hskip, hmanual]
    simp only [ite_self, List.append_nil]
    rfl
  rw [if_neg hall]
  by_cases hforce : policy.force = true
  · have hlets : letsTable policy found = true := by simp [letsTable, hskip, hforce]
    rw [if_pos hforce]
    refine wp_seq (wp_terminate_in_real_run policy _) ?_
    intro _ last _ hmanual
    refine ⟨by rw [gateResult, hlets]; rfl, ?_⟩
    rw [hmanual, hworkers, to_terminate_eq hskip, if_pos hforce, List.append_assoc]
    rfl
  · have hlets : letsTable policy found = false := by simp [letsTable, hempty, hforce, hall]
    rw [if_neg hforce]
    refine wp_mono (wp_skip_table table summary) ?_ fun _ _ _ h => h
    intro result last _ ⟨hresult, hsame⟩
    refine ⟨by rw [hresult, gateResult, hlets]; rfl, ?_⟩
    rw [hsame, hworkers, to_terminate_eq hskip, if_neg hforce, List.append_nil]
    rfl

end Gate

/-! ## The policy -/

/-- A dry run terminates nothing, nor does a run that skips. -/
theorem to_terminate_nothing {policy : RunPolicy} (sessions : List (Int × String))
    (h : policy.dryRun = true ∨ policy.skipActiveVacuum = true) :
    toTerminate policy sessions = [] := by
  rw [toTerminate, if_pos]
  rw [Bool.or_eq_true]
  exact h.symm

/-- Without `force`, only autovacuum workers are terminated. -/
theorem to_terminate_workers {policy : RunPolicy} (sessions : List (Int × String))
    (h : policy.force = false) :
    (toTerminate policy sessions).Sublist ((sessions.filter isAutovacuum).map Prod.fst) := by
  rw [toTerminate, h]
  split
  · exact List.nil_sublist _
  · simp

/-- Where the table is let through in a real run, all sessions are terminated. -/
theorem to_terminate_all {policy : RunPolicy} {sessions : List (Int × String)}
    (hlets : letsTable policy sessions = true) (hreal : policy.dryRun = false) :
    (toTerminate policy sessions).Perm (sessions.map Prod.fst) := by
  rw [letsTable, Bool.or_eq_true, Bool.and_eq_true, Bool.or_eq_true] at hlets
  obtain hempty | ⟨hskip, hthrough⟩ := hlets
  · obtain rfl := List.isEmpty_iff.1 hempty
    simp [toTerminate]
  have hskip : ¬policy.skipActiveVacuum = true := by simpa using hskip
  rw [to_terminate_eq hskip, hreal]
  have hparts := (List.filter_append_perm isAutovacuum sessions).map Prod.fst
  rw [List.map_append] at hparts
  rcases hthrough with hforce | hall
  · rw [if_pos hforce]
    exact hparts
  · have hmanual : (sessions.filter (!isAutovacuum ·)).map Prod.fst = [] := by
      rwa [← no_manual_iff, List.isEmpty_iff] at hall
    rw [hmanual] at hparts ⊢
    simp only [ite_self]
    exact hparts

/-- When a table is kept back. -/
theorem lets_table_eq_false_iff (policy : RunPolicy) (sessions : List (Int × String)) :
    letsTable policy sessions = false ↔ sessions ≠ [] ∧ (policy.skipActiveVacuum = true ∨
      (∃ s ∈ sessions, s.2 ≠ backendTypeAutovacuumWorker) ∧ policy.force = false) := by
  have hmanual : sessions.all isAutovacuum = false ↔
      ∃ s ∈ sessions, s.2 ≠ backendTypeAutovacuumWorker := by
    rw [List.all_eq_false]
    simp [isAutovacuum]
  rw [letsTable, Bool.or_eq_false_iff, Bool.and_eq_false_iff, Bool.or_eq_false_iff, hmanual,
    Bool.not_eq_false', List.isEmpty_eq_false_iff, and_comm (a := policy.force = false)]

/-- The gate against any list of sessions, with terminate calls that succeed. It returns; in a dry
run or with `skip_active_vacuum` it terminates nothing, and without `force` at most the autovacuum
workers; where it lets a table through in a real run it has terminated every session once; it holds
a table back if and only if there are sessions and either `skip_active_vacuum` is set or one of
them is manual and `force` is not; and then it counts one more table as skipped, and nothing else
changes. -/
theorem active_vacuum_policy {table : TableKey} {policy : RunPolicy} {summary : OperationSummary}
    {tr : Trace (vacuumedBy sessions)} {result : Except AnyError (Bool × OperationSummary)}
    (h : Exec (vacuumedBy sessions) () (handleActiveVacuums table policy summary) tr ()
      (.ofExcept result)) :
    ∃ proceed summary', result = .ok (proceed, summary') ∧
      (policy.dryRun = true ∨ policy.skipActiveVacuum = true → terminated tr = []) ∧
      (policy.force = false →
        (terminated tr).Sublist ((sessions.filter isAutovacuum).map Prod.fst)) ∧
      (proceed = true → policy.dryRun = false → (terminated tr).Perm (sessions.map Prod.fst)) ∧
      (proceed = false ↔ sessions ≠ [] ∧ (policy.skipActiveVacuum = true ∨
        (∃ s ∈ sessions, s.2 ≠ backendTypeAutovacuumWorker) ∧ policy.force = false)) ∧
      (proceed = true → summary' = summary) ∧
      (proceed = false → summary' = { summary with skipped := summary.skipped + 1 }) := by
  have hgate : wp (vacuumedBy sessions) (fun _ _ => True)
      (handleActiveVacuums table policy summary)
      (fun result past' _ => result = gateResult policy sessions summary ∧
        terminated past' = terminated [] ++ toTerminate policy sessions)
      (fun _ _ _ => False) [] () :=
    wp_handle_active_vacuums table policy summary
  cases result with
  | error err => exact (h.failed hgate).elim fun _ hfalse => hfalse.2.elim
  | ok result =>
      obtain ⟨_, -, hresult, hlist⟩ := h.returned hgate
      have hterminated : terminated tr = toTerminate policy sessions := hlist
      rw [hterminated]
      refine ⟨result.1, result.2, rfl, to_terminate_nothing sessions,
        to_terminate_workers sessions, ?_⟩
      rw [← lets_table_eq_false_iff, hresult, gateResult]
      by_cases hlets : letsTable policy sessions = true
      · rw [if_pos hlets]
        exact ⟨fun _ => to_terminate_all hlets, by simp [hlets], fun _ => rfl, nofun⟩
      · rw [if_neg hlets]
        exact ⟨nofun, by simp [hlets], nofun, fun _ => rfl⟩

/-- A manual session and an autovacuum worker. -/
def twoSessions : List (Int × String) := [(7, "client backend"), (8, "autovacuum worker")]

/-- What is done about them under `force`. -/
def forcedTrace : Trace (vacuumedBy twoSessions) :=
  [⟨(), .call (.findActiveVacuums ("public", "t")), .ok twoSessions⟩,
    ⟨(), .call (.terminateBackend 8), .ok ()⟩, ⟨(), .call (.terminateBackend 7), .ok ()⟩]

/-- Both are terminated, and the table is let through. -/
theorem both_terminated : ∃ proceed summary',
    (.ok (true, {}) : Except AnyError (Bool × OperationSummary)) = .ok (proceed, summary') ∧
      (proceed = true → (terminated forcedTrace).Perm [7, 8]) ∧
      (proceed = true → summary' = {}) := by
  have h : Exec (vacuumedBy twoSessions) () (handleActiveVacuums ("public", "t")
      ⟨false, true, false, false, 0, 0, 1⟩ {}) forcedTrace () (.ofExcept (.ok (true, {}))) :=
    .act rfl (.act rfl (.act rfl (.stop _ _)))
  obtain ⟨proceed, summary', hresult, -, -, hall, -, hsame, -⟩ := active_vacuum_policy h
  exact ⟨proceed, summary', hresult, fun hproceed => hall hproceed rfl, hsame⟩

end PgMaintainer
