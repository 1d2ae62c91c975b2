import PgMaintainer.Run.Marks
import PgMaintainer.Run.Server

/-!
# A dry run and the run it previews

With the same sessions on the tables, a dry run of a runner and a real one take the same branch at
every table: both follow the one list `takenTables`, the candidates that are not left out and that
the active-vacuum gate lets through. The dry run logs that list, the real one works on it.
-/

namespace PgMaintainer

open Interaction

variable {W : World session}

/-! ## The two lists -/

/-- The table for which a step logs what it would do. -/
def wouldRun (m : Moment W) : Option TableKey :=
  match (m.op : Op) with
  | .log (.wouldRun _ table) => some table
  | _ => none

/-- The tables for which a run logs what it would do. -/
def previewed (tr : Trace W) : List TableKey := tr.filterMap wouldRun

/-- The table whose statement a step attempts. -/
def attempts (m : Moment W) : Option TableKey := (attempt m).map Prod.snd

/-- The table whose statement a step attempts, or whose dead tuples it fails to read. -/
def starts (m : Moment W) : Option TableKey :=
  match m with
  | ⟨_, .call (.maintain _ table), _⟩ => some table
  | ⟨_, .call (.getDeadTupleCount table), .error _⟩ => some table
  | _ => none

/-- The loop of a runner turns to the next table. -/
def visits (m : Moment W) : Bool :=
  match (m.op : Op) with
  | .mark (.visit _) => true
  | _ => false

/-- The tables so far, and whether the present pass has added none yet. -/
def passStep (touches : Moment W → Option TableKey) (work : List TableKey × Bool) (m : Moment W) :
    List TableKey × Bool :=
  if visits m then (work.1, true)
  else if work.2 then
    match touches m with
    | some table => (work.1 ++ [table], false)
    | none => work
  else work

/-- The tables that are touched, each once for every pass that touches it. -/
def tablesBy (touches : Moment W → Option TableKey) (tr : Trace W) : List TableKey :=
  (tr.foldl (passStep touches) ([], false)).1

/-- Without a failed read, a start is an attempt. -/
theorem starts_eq_attempts {m : Moment W} (h : (countRead m).map Prod.snd ≠ some false) :
    starts m = attempts m := by
  unfold starts
  split
  · rfl
  · exact (h rfl).elim
  · rename_i hmaintain _
    obtain ⟨state, op, answer⟩ := m
    cases op with
    | call c =>
        cases c with
        | maintain statement table => exact (hmaintain state statement table answer rfl).elim
        | _ => rfl
    | _ => rfl

/-! ## The world of the comparison -/

/-- Nothing is requested or lost, the gates' calls succeed, and each table has its sessions. -/
def Op.Steady (sessions : TableKey → List (Int × String)) : (op : Op) → op.Answer → Prop
  | .call (.findActiveVacuums table), answer => answer = .ok (sessions table)
  | .call c, answer => ∀ err, answer = .error err → ¬c.OfGate ∧ isConnectionLostPg err = false
  | .isClosed, closed => closed = false
  | op, answer => op.Undisturbed answer

/-- The world with these sessions. -/
def steady (sessions : TableKey → List (Int × String)) : World session where
  State := Unit
  Drift _ _ := False
  Answers _ op answer _ := op.Steady sessions answer

variable {sessions : TableKey → List (Int × String)}

/-- No call of it fails for a lost connection. -/
theorem steady_not_lost {now after : (steady sessions).State} {c : Call} {err : PgError}
    (h : (steady sessions).Answers now (.call c) (.error err) after) :
    isConnectionLostPg err = false := by
  cases c with
  | findActiveVacuums table => exact absurd h (by simp [steady, Op.Steady])
  | _ => exact (h err rfl).2

/-- No answer of it is fatal. -/
theorem Op.Steady.not_fatal {op : Op} {answer : op.Answer} (h : op.Steady sessions answer) :
    ¬op.Fatal answer := by
  unfold Op.Fatal
  split
  · rw [show _ = false from h]
    exact Bool.false_ne_true
  · unfold Op.GateFails
    split
    · rename_i _ c answer _
      rintro ⟨hgate, err, rfl⟩
      cases c with
      | findActiveVacuums table => exact absurd h (by simp [Op.Steady])
      | _ => exact (h err rfl).1 hgate
    · exact id

/-- The candidates that are neither left out nor kept back by the sessions on them. -/
def takenTables (sessions : TableKey → List (Int × String)) (policy : RunPolicy)
    (already : Option (List TableKey)) (tables : List TableKey) : List TableKey :=
  tables.filter fun table =>
    !(already.getD []).contains table && letsThrough policy (sessions table)

section Taken

variable {policy : RunPolicy} {already : Option (List TableKey)} {done : List TableKey}
  {table : TableKey}

/-- What a runner leaves out are the tables it was given as handled. -/
theorem leaves_out_iff : LeavesOut already table ↔ table ∈ already.getD [] := by
  cases already <;> simp [LeavesOut]

/-- A table that is left out is not taken. -/
theorem taken_left_out (h : LeavesOut already table) :
    takenTables sessions policy already (done ++ [table]) =
      takenTables sessions policy already done := by
  simp [takenTables, leaves_out_iff.1 h]

/-- Nor is one that its sessions keep back. -/
theorem taken_kept_back (h : letsThrough policy (sessions table) = false) :
    takenTables sessions policy already (done ++ [table]) =
      takenTables sessions policy already done := by
  simp [takenTables, h]

/-- Any other is taken. -/
theorem taken_through (hout : ¬LeavesOut already table)
    (h : letsThrough policy (sessions table) = true) :
    takenTables sessions policy already (done ++ [table]) =
      takenTables sessions policy already done ++ [table] := by
  rw [leaves_out_iff] at hout
  simp [takenTables, h, hout]

end Taken

/-! ## A runner in that world -/

/-- How a run follows the list: `D` holds between the passes and `K` within one, for the tables
taken so far. A skip adds none, the statement adds its table. -/
structure Follows (sessions : TableKey → List (Int × String)) (policy : RunPolicy)
    (statement : Statement) (D K : List TableKey → Trace (steady sessions) → Prop) : Prop where
  start : ∀ m phase tables, m.op = .mark (.candidates phase tables) → D [] [m]
  visit : ∀ acc past m table, D acc past → m.op = .mark (.visit table) → K acc (past ++ [m])
  keeps : ∀ acc, (steady sessions).Keeps (fun _ _ => True) Op.Gating fun past _ => K acc past
  skip : ∀ acc past m table reason, K acc past → m.op = .mark (.tally table (.skipped reason)) →
    D acc (past ++ [m])
  lagged : policy.dryRun = false → ∀ acc past m table,
    m.op = .mark (.tally table (.skipped .replicaLag)) → D acc (past ++ [m])
  maintain : ∀ r acc past state table count i summary, r.Performs statement → K acc past →
    wp (steady sessions) (fun _ _ => True) (maintainTable r policy count i table summary)
      (fun flow past _ => flow.Sat (fun _ => D (acc ++ [table]) past) fun _ => False)
      (fun _ _ _ => False) past state

section Follows

variable {policy : RunPolicy} {statement : Statement}
  {D K : List TableKey → Trace (steady sessions) → Prop} {past : Trace (steady sessions)}
  {state : (steady sessions).State} {acc : List TableKey}

/-- A fatal answer has come. -/
abbrev Doomed (past : Trace W) : Prop := ∃ m ∈ past, m.op.Fatal m.answer

/-- The gates as a rule of one pass. -/
theorem Follows.rules (h : Follows sessions policy statement D K) (acc : List TableKey) :
    GateRules (steady sessions) (fun _ _ => True) (fun past _ => K acc past) (fun _ _ => False)
      (fun _ past _ => Doomed past) where
  aside := h.keeps acc
  stopped := fun _ _ _ h => h.elim
  wake := by
    intro past state now nanoseconds after _ _ hanswer
    exact absurd (show Wake.shutdown = .slept from hanswer) (by decide)
  err := fun _ _ _ _ hfatal => hfatal

/-- One pass. -/
theorem Follows.pass (h : Follows sessions policy statement D K)
    {already : Option (List TableKey)} {body : PassBody} {i : Nat} {table : TableKey}
    {summary : OperationSummary} {done : List TableKey}
    (hpass : IsPass policy statement already body)
    (hD : D (takenTables sessions policy already done) past) :
    wp (steady sessions) (fun _ _ => True) (body i table summary)
      (fun flow past _ => flow.Sat
        (fun _ => D (takenTables sessions policy already (done ++ [table])) past) fun _ => False)
      (fun _ past _ => Doomed past) past state := by
  -- the sessions do not change, so the probe's verdict is that of the list
  have hreported : ∀ {through}, MayReport (steady sessions) policy table through →
      letsThrough policy (sessions table) = through := by
    rintro through ⟨_, reported, _, hanswer, rfl⟩
    exact congrArg (letsThrough policy) (Except.ok.inj hanswer).symm
  have hrules := h.rules (takenTables sessions policy already done)
  refine hrules.pass hpass hrules.aside hrules.err ?_ (fun _ _ h => h.elim) ?_ ?_
    (fun now _ answer _ _ => ⟨trivial, h.visit _ _ _ table hD rfl⟩)
  · intro past state hK now hnow answer after hanswer
    obtain rfl : answer = false := hanswer
    exact h.keeps _ past state now hK hnow .shutdownRequested _ after trivial rfl
  · intro reason past state hK hreason now _ answer after _
    refine ⟨trivial, ?_⟩
    cases reason with
    | alreadyHandled =>
        have hout : LeavesOut already table := hreason
        exact (taken_left_out hout).symm ▸ h.skip _ _ ⟨now, _, answer⟩ table _ hK rfl
    | replicaLag => exact h.lagged hreason _ _ ⟨now, _, answer⟩ table rfl
    | activeVacuum =>
        exact (taken_kept_back (hreported hreason.2)).symm ▸
          h.skip _ _ ⟨now, _, answer⟩ table _ hK rfl
    | lockTimeout => exact hreason.elim
    | interrupted => exact hreason.elim
  · intro r count past state hr hK hout hreport
    rw [taken_through hout (hreported hreport)]
    exact wp_mono (h.maintain r _ past state table count i summary hr hK) (fun _ _ _ h => h)
      fun _ _ _ h => h.elim

/-- A runner follows the list to its end. -/
theorem Follows.runner (h : Follows sessions policy statement D K) {phase : Phase}
    {already : Option (List TableKey)} {tables : List TableKey} {runner : RunM OperationSummary}
    (hrunner : IsRunner policy phase statement already tables runner)
    {tr : Trace (steady sessions)} {result : Except AnyError OperationSummary}
    (hexec : Exec (steady sessions) () runner tr () (.ofExcept result)) :
    D (takenTables sessions policy already tables) tr := by
  have hwp : wp (steady sessions) (fun _ _ => True) runner
      (fun _ past _ => D (takenTables sessions policy already tables) past ∨ False)
      (fun _ past _ => Doomed past) [] () := by
    refine wp_runner (I := fun done _ past _ => D (takenTables sessions policy already done) past)
      (D := fun _ _ _ => False) hrunner ?_ ?_
    · exact fun now _ answer _ _ => ⟨trivial, h.start _ phase tables rfl⟩
    · exact fun body hbody done table rest _ i summary past state hD => h.pass hbody hD
  cases result with
  | ok summary =>
      obtain ⟨_, _, hD | hfalse⟩ := hexec.returned hwp
      · exact hD
      · exact hfalse.elim
  | error err =>
      obtain ⟨_, _, m, hm, hfatal⟩ := hexec.failed hwp
      obtain ⟨_, hanswer⟩ := hexec.answered hm
      exact (Op.Steady.not_fatal hanswer hfatal).elim

end Follows

/-! ## The dry run -/

section Dry

variable {policy : RunPolicy} {past : Trace W} {m : Moment W}

/-- Only one log line counts. -/
theorem previewed_next (h : ∀ name table, m.op ≠ .log (.wouldRun name table)) :
    previewed (past ++ [m]) = previewed past := by
  have hnone : wouldRun m = none := by
    unfold wouldRun
    split
    · exact (h _ _ ‹_›).elim
    · rfl
  simp [previewed, hnone]

/-- A dry run follows the list with what it logs. -/
theorem dry_run_follows (hdry : policy.dryRun = true) (statement : Statement) :
    Follows sessions policy statement (fun acc past => previewed past = acc)
      (fun acc past => previewed past = acc) where
  start m phase tables hm := by
    rw [← List.nil_append [m]]
    exact previewed_next (by simp [hm])
  visit acc past m table h hm := (previewed_next (by simp [hm])).trans h
  keeps acc past state now h _ op answer after hop _ := by
    refine ⟨trivial, (previewed_next fun name table heq => ?_).trans h⟩
    obtain rfl : op = .log (.wouldRun name table) := heq
    exact hop
  skip acc past m table reason h hm := (previewed_next (by simp [hm])).trans h
  lagged hreal := absurd hreal (by simp [hdry])
  maintain r acc past state table count i summary _ h := by
    simp only [maintainTable, hdry, if_true]
    have hlog : wp (steady sessions) (fun _ _ => True) (log (.wouldRun r.name table) : RunM Unit)
        (fun _ past _ => previewed past = acc ++ [table]) (fun _ _ _ => False) past state :=
      fun now _ answer after _ => ⟨trivial, by simp [previewed, wouldRun, ← h]⟩
    exact wp_seq hlog fun _ _ _ h => h

end Dry

/-! ## The real run -/

/-- The lag gate skips a table. -/
def lagSkips (m : Moment W) : Bool :=
  match (m.op : Op) with
  | .mark (.tally _ (.skipped .replicaLag)) => true
  | _ => false

/-- The lag gate has skipped a table. -/
def Lagged (past : Trace W) : Prop := ∃ m ∈ past, lagSkips m = true

instance (past : Trace W) : Decidable (Lagged past) :=
  inferInstanceAs (Decidable (∃ m ∈ past, lagSkips m = true))

/-- The tables worked on so far, and whether the present pass has started its statement yet; of a
run in which the lag gate skips a table nothing is said. -/
def Work (acc : List TableKey) (fresh : Bool) (past : Trace W) : Prop :=
  Lagged past ∨ past.foldl (passStep starts) ([], false) = (acc, fresh)

section Work

variable {acc : List TableKey} {fresh : Bool} {past : Trace W} {m : Moment W} {table : TableKey}

/-- Once the lag gate has skipped a table, it has. -/
theorem Lagged.next (h : Lagged past) : Lagged (past ++ [m]) := by
  obtain ⟨n, hn, hlagged⟩ := h
  exact ⟨n, by simp [hn], hlagged⟩

/-- At a table's turn the pass has not started a statement. -/
theorem Work.visit (h : Work acc fresh past) (hm : visits m = true) :
    Work acc true (past ++ [m]) := by
  refine h.imp Lagged.next fun h => ?_
  simp [List.foldl_append, h, passStep, hm]

/-- Nothing is added. -/
theorem Work.next (h : Work acc fresh past) (hvisit : visits m = false)
    (hm : fresh = false ∨ starts m = none) : Work acc fresh (past ++ [m]) := by
  refine h.imp Lagged.next fun h => ?_
  rcases hm with rfl | hm
  · simp [List.foldl_append, h, passStep, hvisit]
  · cases fresh <;> simp [List.foldl_append, h, passStep, hvisit, hm]

/-- The statement starts. -/
theorem Work.start (h : Work acc true past) (hvisit : visits m = false)
    (hm : starts m = some table) : Work (acc ++ [table]) false (past ++ [m]) := by
  refine h.imp Lagged.next fun h => ?_
  simp [List.foldl_append, h, passStep, hvisit, hm]

/-- What is aside starts no statement. -/
theorem Op.Aside.starts_eq_none (h : m.op.Aside) : starts m = none := by
  unfold starts
  split
  · exact h.elim
  · exact h.elim
  · rfl

/-- Only the mark of a visit is one. -/
theorem visits_eq_false (h : ∀ table, m.op ≠ .mark (.visit table)) : visits m = false := by
  unfold visits
  split
  · exact (h _ ‹_›).elim
  · rfl

end Work

section Real

variable {policy : RunPolicy} {statement : Statement} {past : Trace (steady sessions)}
  {state : (steady sessions).State} {acc : List TableKey} {fresh : Bool} {table : TableKey}
  {r : Runner} {summary : OperationSummary}

/-- What is aside adds no table. -/
theorem keeps_work : (steady sessions).Keeps (fun _ _ => True) Op.Aside fun past _ =>
    Work acc fresh past := by
  refine fun past state now h _ op answer after hop _ => ⟨trivial, h.next ?_ (.inr ?_)⟩
  · exact visits_eq_false fun table heq => hop.unmarked _ heq
  · exact Op.Aside.starts_eq_none hop

/-- Once the statement has started, only a visit changes anything. -/
theorem keeps_started : (steady sessions).Keeps (fun _ _ => True)
    (fun op => ∀ table, op ≠ .mark (.visit table)) fun past _ => Work acc false past :=
  fun _ _ _ h _ _ _ _ hop _ => ⟨trivial, h.next (visits_eq_false hop) (.inl rfl)⟩

/-- The pass has not started its statement, or it has. -/
abbrev Underway (acc : List TableKey) (table : TableKey) (past : Trace W) : Prop :=
  Work acc true past ∨ Work (acc ++ [table]) false past

/-- The statement has started, and what went wrong is no lost connection. -/
abbrev Survived (acc : List TableKey) (err : PgError) (past : Trace W) : Prop :=
  isConnectionLostPg err = false ∧ Work acc false past

/-- The statement adds its table, once. -/
theorem maintain_started (statement : Statement) (h : Underway acc table past) :
    wp (steady sessions) (fun _ _ => True) (query (.maintain statement table))
      (fun _ past _ => Work (acc ++ [table]) false past)
      (fun err past _ => Survived (acc ++ [table]) err past) past state := by
  refine wp_query.2 fun now _ answer after hanswer => ⟨trivial, ?_⟩
  have hwork : Work (acc ++ [table]) false
      (past ++ [⟨now, .call (.maintain statement table), answer⟩]) := by
    rcases h with h | h
    · exact h.start rfl rfl
    · exact h.next rfl (.inl rfl)
  cases answer with
  | ok row => exact hwork
  | error err => exact ⟨steady_not_lost hanswer, hwork⟩

/-- A failed read of the dead tuples adds the table instead. -/
theorem count_started (h : Underway acc table past) :
    wp (steady sessions) (fun _ _ => True) (query (.getDeadTupleCount table))
      (fun _ past _ => Underway acc table past)
      (fun err past _ => Survived (acc ++ [table]) err past) past state := by
  refine wp_query.2 fun now _ answer after hanswer => ⟨trivial, ?_⟩
  cases answer with
  | ok row => exact h.imp (fun h => h.next rfl (.inr rfl)) fun h => h.next rfl (.inl rfl)
  | error err =>
      refine ⟨steady_not_lost hanswer, ?_⟩
      rcases h with h | h
      · exact h.start rfl rfl
      · exact h.next rfl (.inl rfl)

/-- A read of the count after the statement. -/
theorem count_again (h : Work (acc ++ [table]) false past) :
    wp (steady sessions) (fun _ _ => True) (query (.getDeadTupleCount table))
      (fun _ past _ => Work (acc ++ [table]) false past)
      (fun err past _ => Survived (acc ++ [table]) err past) past state := by
  refine wp_query.2 fun now _ answer after hanswer => ⟨trivial, ?_⟩
  have hwork : Work (acc ++ [table]) false
      (past ++ [⟨now, .call (.getDeadTupleCount table), answer⟩]) := h.next rfl (.inl rfl)
  cases answer with
  | ok row => exact hwork
  | error err => exact ⟨steady_not_lost hanswer, hwork⟩

/-- Either way the table is added, with or without a report of its success. -/
theorem operation_started (statement : Statement) (h : Underway acc table past) :
    wp (steady sessions) (fun _ _ => True) (statement.operation table)
      (fun _ past _ => Work (acc ++ [table]) false past)
      (fun err past _ => Survived (acc ++ [table]) err past) past state :=
  wp_operation (P := fun past _ => Underway acc table past)
    (fun _ _ h => count_started h) (fun _ _ h => maintain_started statement h)
    (fun _ _ h => count_again h) h

/-- The retries add no other table. By induction on the retries left. -/
theorem retry_loop_started (statement : Statement) (left delayMs : Nat)
    (h : Underway acc table past) :
    wp (steady sessions) (fun _ _ => True) (retryLoop (statement.operation table) left delayMs)
      (fun _ past _ => Work (acc ++ [table]) false past)
      (fun err past _ => Survived (acc ++ [table]) err past) past state := by
  induction left generalizing delayMs past state with
  | zero => exact operation_started statement h
  | succ left ih =>
      refine wp_seq_attempt (operation_started statement h) (fun _ _ _ h => h)
        fun err past state h => ?_
      have hkeep : ∀ {ε α : Type} {p : Prog session ε α} {E : ε → Trace (steady sessions) →
          (steady sessions).State → Prop} {past state},
          p.All (fun op => ∀ table, op ≠ .mark (.visit table)) (fun _ => True) (fun _ => False) →
          Work (acc ++ [table]) false past →
          wp (steady sessions) (fun _ _ => True) p
            (fun _ past _ => Work (acc ++ [table]) false past) E past state := fun hp h =>
        wp_mono (wp_of_all hp keeps_started h) (fun _ _ _ h => h.2) fun _ _ _ h => h.1.elim
      refine wp_ite.2 ⟨fun _ => h, fun _ => ?_⟩
      refine wp_seq (hkeep (by simp) h.2) fun requested past state hwork => ?_
      refine wp_ite.2 ⟨fun _ => ⟨h.1, hwork⟩, fun _ => ?_⟩
      refine wp_seq (hkeep (by simp) hwork) fun wake past state hwork => ?_
      cases wake with
      | shutdown => exact ⟨h.1, hwork⟩
      | slept => exact ih _ (.inr hwork)

/-- A real pass works on its table. -/
theorem maintain_table_started (hr : r.Performs statement) (hreal : policy.dryRun = false)
    (count i : Nat) (h : Work acc true past) :
    wp (steady sessions) (fun _ _ => True) (maintainTable r policy count i table summary)
      (fun flow past _ => flow.Sat (fun _ => Work (acc ++ [table]) false past) fun _ => False)
      (fun _ _ _ => False) past state := by
  have hrest : ∀ {p : Pass} {past state}, p.All Op.Record Flow.GoesOn (fun _ => False) →
      Work (acc ++ [table]) false past →
      wp (steady sessions) (fun _ _ => True) p
        (fun flow past _ => flow.Sat (fun _ => Work (acc ++ [table]) false past) fun _ => False)
        (fun _ _ _ => False) past state := by
    intro p past state hp h
    have hkeep : (steady sessions).Keeps (fun _ _ => True) Op.Record fun past _ =>
        Work (acc ++ [table]) false past :=
      keeps_started.mono fun op hop table heq => by simp [heq, Op.Record] at hop
    refine wp_mono (wp_of_all hp hkeep h) (fun flow past state h => ?_) fun _ _ _ h => h.1
    cases flow with
    | next => exact h.2
    | stop => exact h.1.elim
  have hnow : ∀ {acc : List TableKey} {fresh : Bool} {past : Trace (steady sessions)} {state},
      Work acc fresh past → wp (steady sessions) (fun _ _ => True) (now : RunM Nat)
        (fun _ past _ => Work acc fresh past) (fun _ _ _ => False) past state :=
    fun h now hdrift answer after hanswer =>
      keeps_work _ _ now h hdrift .now answer after trivial hanswer
  simp only [maintainTable, hreal, Bool.false_eq_true, if_false]
  refine wp_seq (hnow h) fun begun past state h => ?_
  rw [withLockTimeoutRetry, hr.operation]
  -- whatever becomes of it, the statement is started once
  refine wp_seq_attempt (retry_loop_started statement _ _ (.inl h))
    (fun result past state h => ?_) fun err past state h => ?_
  · exact wp_seq (hnow h) fun _ past state h => hrest (record_success_record hr.report result _) h
  refine wp_seq (hnow h.2) fun _ past state hwork => ?_
  refine wp_seq (R := fun requested past _ => requested = false ∧ Work (acc ++ [table]) false past)
    (fun now hdrift requested after hanswer => ⟨trivial, hanswer,
      (keeps_work _ _ now hwork hdrift .shutdownRequested requested after trivial hanswer).2⟩) ?_
  rintro requested past state ⟨rfl, hwork⟩
  cases hkind : classifyOpError err false with
  | connectionLost => simp [classifyOpError, h.1] at hkind; split at hkind <;> simp at hkind
  | shutdownInterrupted => exact (classify_op_error_calm err hkind).elim
  | lockTimeout => exact hrest (record_failure_record err _) hwork
  | other => exact hrest (record_failure_record err _) hwork

/-- A real run follows the list with what it starts. -/
theorem real_run_follows (hreal : policy.dryRun = false) (statement : Statement) :
    Follows sessions policy statement (fun acc past => ∃ fresh, Work acc fresh past)
      (fun acc past => Work acc true past) where
  start m phase tables hm := ⟨false, .inr (by simp [passStep, visits, hm])⟩
  visit acc past m table := fun ⟨_, h⟩ hm => h.visit (by simp [visits, hm])
  keeps acc := keeps_work.mono fun _ => Op.Gating.aside
  skip acc past m table reason h hm := by
    refine ⟨true, h.next (visits_eq_false (by simp [hm])) (.inr ?_)⟩
    unfold starts
    split <;> simp_all
  lagged _ acc past m table hm := ⟨true, .inl ⟨m, by simp, by simp [lagSkips, hm]⟩⟩
  maintain r acc past state table count i summary hr h :=
    wp_mono (maintain_table_started hr hreal count i h) (fun flow _ _ h => by
      cases flow with
      | next => exact ⟨false, h⟩
      | stop => exact h) fun _ _ _ h => h

end Real

/-- With no shutdown, no lost connection, the gates' calls successful and no table skipped for lag,
a dry run of a runner logs that it would run exactly where a real one starts, in the same order:
it attempts the statement there, or fails to read the dead tuples first. Without such a failure
it attempts every statement. -/
theorem preview_is_faithful {phase : Phase} {tables : List TableKey}
    {runner : RunPolicy → RunM OperationSummary} (hrunner : PhaseRunner phase tables runner)
    (sessions : TableKey → List (Int × String)) (policy : RunPolicy)
    {dry real : Trace (steady sessions)} {dryResult realResult : Except AnyError OperationSummary}
    (hdry : Exec (steady sessions) () (runner { policy with dryRun := true }) dry ()
      (.ofExcept dryResult))
    (hreal : Exec (steady sessions) () (runner { policy with dryRun := false }) real ()
      (.ofExcept realResult))
    (hlag : ¬Lagged real) :
    previewed dry = tablesBy starts real ∧
      ((∀ m ∈ real, (countRead m).map Prod.snd ≠ some false) →
        previewed dry = tablesBy attempts real) := by
  obtain ⟨statement, already, hisRunner⟩ := hrunner.isRunner
  have hpreview : previewed dry = takenTables sessions policy already tables :=
    (@dry_run_follows sessions { policy with dryRun := true } rfl statement).runner (hisRunner _)
      hdry
  -- both runs follow the same list, each with its own steps
  have hwork : tablesBy starts real = takenTables sessions policy already tables := by
    have hfollows := @real_run_follows sessions { policy with dryRun := false } rfl statement
    obtain ⟨fresh, hlagged | hwork⟩ := hfollows.runner (hisRunner _) hreal
    · exact (hlag hlagged).elim
    · exact congrArg Prod.fst hwork
  have heq : previewed dry = tablesBy starts real := hpreview.trans hwork.symm
  refine ⟨heq, fun hcounts => heq.trans (congrArg Prod.fst ?_)⟩
  refine List.foldl_ext _ _ _ fun work m hm => ?_
  simp only [passStep, starts_eq_attempts (hcounts m hm)]

/-- The runner over two tables that were never vacuumed. -/
def overTwo (policy : RunPolicy) : RunM OperationSummary :=
  runVacuumNeverVacuumed
    [⟨"public", "t", 10, 0, 8192, none⟩, ⟨"public", "u", 10, 0, 8192, none⟩]
    policy ⟨true, false, false, none, none⟩ none

/-- Neither forces nor skips. -/
def plainPolicy : RunPolicy := ⟨false, false, false, false, 10, 0, 50⟩

/-- Someone vacuums the second table. -/
def someoneOnSecond : TableKey → List (Int × String)
  | ("public", "u") => [(7, "client backend")]
  | _ => []

/-- A server with these sessions that refuses every VACUUM. -/
def occupied : (op : Op) → op.Answer
  | .call (.findActiveVacuums table) => .ok (someoneOnSecond table)
  | .call (.maintain _ _) => .error (.db "42501" "permission denied")
  | op => oneTable.answer op

/-- A server that refuses to read the dead tuples. -/
def uncountable : (op : Op) → op.Answer
  | .call (.getDeadTupleCount _) => .error (.db "42501" "permission denied")
  | op => oneTable.answer op

/-- The first server fits the world. -/
theorem occupied_steady (op : Op) : op.Steady someoneOnSecond (occupied op) := by
  cases op with
  | call c =>
      cases c with
      | findActiveVacuums table => rfl
      | maintain statement table =>
          intro err heq
          obtain rfl := Except.error.inj heq
          exact ⟨id, rfl⟩
      | _ => exact fun err heq => nomatch heq
  | _ => first | rfl | trivial

/-- So does the second. -/
theorem uncountable_steady (op : Op) : op.Steady (fun _ => []) (uncountable op) := by
  cases op with
  | call c =>
      cases c with
      | findActiveVacuums table => rfl
      | getDeadTupleCount table =>
          intro err heq
          obtain rfl := Except.error.inj heq
          exact ⟨id, rfl⟩
      | _ => exact fun err heq => nomatch heq
  | _ => first | rfl | trivial

/-- Playing a program against such answers is an execution. -/
theorem exec_steady {answer : (op : Op) → op.Answer} (h : ∀ op : Op, op.Steady sessions (answer op))
    {ε α : Type} (p : Prog session ε α) :
    Exec (steady sessions) () p (p.play (steady sessions) (fun _ op => (answer op, ())) ()).1 ()
      (.ofExcept (p.play (steady sessions) (fun _ op => (answer op, ())) ()).2.2) :=
  Prog.exec_play (W := steady sessions) (fun _ op => (answer op, ())) (fun _ op => h op) p ()

/-- The second table is kept back in both runs, and the first is worked on although its VACUUM is
refused. -/
theorem refused_statement_was_previewed : ∃ dry real : Trace (steady someoneOnSecond),
    previewed dry = tablesBy attempts real ∧ previewed dry = [("public", "t")] :=
  ⟨_, _, (preview_is_faithful (.neverVacuumed _ _ none) someoneOnSecond plainPolicy
    (exec_steady occupied_steady (overTwo { plainPolicy with dryRun := true }))
    (exec_steady occupied_steady (overTwo { plainPolicy with dryRun := false }))
    (by decide)).2 (by decide), rfl⟩

/-- A dry run does not see that the dead tuples cannot be read: the real run attempts no statement
on the tables it logs. -/
theorem unread_count_is_not_previewed : ∃ dry real : Trace (steady fun _ => []),
    Exec (steady fun _ => []) () (overTwo { plainPolicy with dryRun := true }) dry ()
      (.pure ⟨2, 0, 0, 0⟩) ∧
    Exec (steady fun _ => []) () (overTwo { plainPolicy with dryRun := false }) real ()
      (.pure ⟨2, 0, 2, 0⟩) ∧
    ¬Lagged real ∧ previewed dry = [("public", "t"), ("public", "u")] ∧
      tablesBy attempts real = [] :=
  ⟨_, _, exec_steady uncountable_steady _, exec_steady uncountable_steady _, by decide,
    rfl, rfl⟩

end PgMaintainer
