import PgMaintainer.Run.Passes
import PgMaintainer.Shutdown.System

/-!
# Stop before the next table

Before every statement the program reads the shutdown flag: at the head of the pass, and again
before each retry. So two statements have a read of the cleared flag between them, and since the
flag is never reset, only the statement that was next when it was set may still come.
-/

namespace PgMaintainer

open Interaction

attribute [local simp] Op.Record

section Trace

variable {W : World session}

/-- This step maintains a table. -/
def Maintains (m : Moment W) : Prop := ∃ statement table, m.op = .call (.maintain statement table)

/-- A runner's loop turns to a table. -/
def Turns (m : Moment W) : Prop := ∃ table, m.op = .mark (.visit table)

/-- The shutdown flag is read, and it is not set. -/
def ReadsClear (m : Moment W) : Prop := ∃ state, m = ⟨state, .shutdownRequested, false⟩

/-- The loop turned to `table` last. -/
def Visiting (table : TableKey) (past : Trace W) : Prop :=
  ∃ front visit rest, past = front ++ visit :: rest ∧ visit.op = .mark (.visit table) ∧
    ∀ m ∈ rest, ¬Turns m

/-- Since the loop turned to `table`, the flag was read as clear, and nothing was maintained
after that. -/
def Cleared (table : TableKey) (past : Trace W) : Prop :=
  ∃ front read back, past = front ++ read :: back ∧ Visiting table front ∧ ReadsClear read ∧
    ∀ m ∈ back, ¬Turns m ∧ ¬Maintains m

/-- A statement comes only with the flag read as clear. -/
def Timely (past : Trace W) (m : Moment W) : Prop :=
  ∀ statement table, m.op = .call (.maintain statement table) → Cleared table past

variable {table : TableKey} {past : Trace W} {m : Moment W}

/-- A visit goes on until the next table's turn. -/
theorem Visiting.append (h : Visiting table past) {more : Trace W} (hmore : ∀ m ∈ more, ¬Turns m) :
    Visiting table (past ++ more) := by
  obtain ⟨front, visit, rest, rfl, hvisit, hrest⟩ := h
  refine ⟨front, visit, rest ++ more, by simp, hvisit, fun m hm => ?_⟩
  rcases List.mem_append.1 hm with hm | hm
  · exact hrest m hm
  · exact hmore m hm

/-- A visit that was cleared is one. -/
theorem Cleared.visiting (h : Cleared table past) : Visiting table past := by
  obtain ⟨front, read, back, rfl, hvisiting, ⟨state, rfl⟩, hback⟩ := h
  refine hvisiting.append fun m hm => ?_
  rcases List.mem_cons.1 hm with rfl | hm
  · simp [Turns]
  · exact (hback m hm).1

/-- The clearance stays until the statement. -/
theorem Cleared.next (h : Cleared table past) (hturns : ¬Turns m) (hmaintains : ¬Maintains m) :
    Cleared table (past ++ [m]) := by
  obtain ⟨front, read, back, rfl, hvisiting, hread, hback⟩ := h
  refine ⟨front, read, back ++ [m], by simp, hvisiting, hread, fun n hn => ?_⟩
  rcases List.mem_append.1 hn with hn | hn
  · exact hback n hn
  · obtain rfl := List.mem_singleton.1 hn
    exact ⟨hturns, hmaintains⟩

/-- A look at the flag that finds it unset clears the visit. -/
theorem Visiting.read (h : Visiting table past) (state : W.State) :
    Cleared table (past ++ [⟨state, .shutdownRequested, false⟩]) :=
  ⟨past, _, [], rfl, h, ⟨state, rfl⟩, by simp⟩

/-- Operations that maintain no table. -/
def Op.Idle (op : Op) : Prop := ∀ statement table, op ≠ .call (.maintain statement table)

/-- What happens around a statement neither turns to a table nor maintains one. -/
theorem Op.Record.idle {op : Op} (h : op.Record) : op.Idle := by
  rintro statement table rfl
  exact h

/-- Nor does the end of the run. -/
theorem Op.Closing.idle {op : Op} (h : op.Closing) : op.Idle := by
  rintro statement table rfl
  exact h

/-- Operations that are neither statements nor turn to a table. -/
theorem keeps_cleared : W.Keeps Timely Op.Record fun past _ => Cleared table past := by
  intro past state now h _ op answer after hop _
  have hmaintain := hop.idle
  refine ⟨fun statement table heq => absurd heq (hmaintain statement table), h.next ?_ ?_⟩
  · rintro ⟨_, rfl⟩
    exact hop
  · rintro ⟨_, _, heq⟩
    exact hmaintain _ _ heq

/-- What is aside stays in the visit. -/
theorem keeps_visiting : W.Keeps Timely Op.Aside fun past _ => Visiting table past := by
  intro past state now h _ op answer after hop _
  have hmaintain := hop.record.idle
  refine ⟨fun statement table heq => absurd heq (hmaintain statement table), h.append ?_⟩
  rintro m hm ⟨_, heq⟩
  obtain rfl := List.mem_singleton.1 hm
  obtain rfl : op = _ := heq
  exact hop

section Rules

variable {ε α : Type} {state : W.State}

/-- Where nothing is maintained, nothing is asked. -/
theorem timely_of_idle {p : Prog session ε α} (hp : p.Only Op.Idle) :
    wp W Timely p (fun _ _ _ => True) (fun _ _ _ => True) past state :=
  wp_safe hp wp_true fun _ _ hidle statement table heq => absurd heq (hidle statement table)

/-- What happens around a statement is timely. -/
theorem timely_of_record {p : Prog session ε α} (hp : p.Only Op.Record) :
    wp W Timely p (fun _ _ _ => True) (fun _ _ _ => True) past state :=
  timely_of_idle (hp.mono (fun _ => Op.Record.idle) (fun _ h => h) fun _ h => h)

/-- A statement with its dead-tuple reads, once the flag was read as clear. -/
theorem operation_timely (statement : Statement) (h : Cleared table past) :
    wp W Timely (statement.operation table) (fun _ _ _ => True)
      (fun _ past _ => Visiting table past) past state := by
  have hread : ∀ {past : Trace W} {state : W.State}, Cleared table past →
      wp W Timely (query (.getDeadTupleCount table)) (fun _ past _ => Cleared table past)
        (fun _ past _ => Visiting table past) past state := by
    intro past state h
    refine wp_query.2 fun now _ answer after _ => ⟨by simp [Timely], ?_⟩
    have hnext : Cleared table (past ++ [⟨now, .call (.getDeadTupleCount table), answer⟩]) :=
      h.next (by simp [Turns]) (by simp [Maintains])
    cases answer with
    | ok row => exact hnext
    | error err => exact hnext.visiting
  have hmaintain : ∀ {past : Trace W} {state : W.State}, Cleared table past →
      wp W Timely (query (.maintain statement table)) (fun _ past _ => Visiting table past)
        (fun _ past _ => Visiting table past) past state := by
    intro past state h
    refine wp_query.2 fun now _ answer after _ => ⟨?_, ?_⟩
    · intro other name heq
      obtain ⟨rfl, rfl⟩ : statement = other ∧ table = name := by simpa using heq
      exact h
    · have hnext : Visiting table (past ++ [⟨now, .call (.maintain statement table), answer⟩]) :=
        h.visiting.append (by simp [Turns])
      cases answer <;> exact hnext
  -- the second read comes after the statement, when the clearance is spent
  have hcount : ∀ {past : Trace W} {state : W.State}, Visiting table past →
      wp W Timely (query (.getDeadTupleCount table)) (fun _ past _ => Visiting table past)
        (fun _ past _ => Visiting table past) past state := by
    intro past state h
    refine wp_query.2 fun now _ answer after _ => ⟨by simp [Timely], ?_⟩
    have hnext : Visiting table (past ++ [⟨now, .call (.getDeadTupleCount table), answer⟩]) :=
      h.append (by simp [Turns])
    cases answer <;> exact hnext
  refine wp_mono (wp_operation (P := fun past _ => Cleared table past) (fun _ _ h => hread h)
    (fun _ _ h => hmaintain h) (fun _ _ h => hcount h) h) (fun _ _ _ _ => trivial)
    fun _ _ _ h => h

/-- Between two attempts the flag is read again. By induction on the retries left. -/
theorem retry_loop_timely (statement : Statement) (left delayMs : Nat) (h : Cleared table past) :
    wp W Timely (retryLoop (statement.operation table) left delayMs) (fun _ _ _ => True)
      (fun _ _ _ => True) past state := by
  induction left generalizing delayMs past state with
  | zero =>
      exact wp_mono (operation_timely statement h) (fun _ _ _ h => h) fun _ _ _ _ => trivial
  | succ left ih =>
      refine wp_seq_attempt (operation_timely statement h) (fun _ _ _ _ => trivial)
        fun err past state h => ?_
      refine wp_ite.2 ⟨fun _ => trivial, fun _ => ?_⟩
      refine wp_seq (R := fun requested past _ => requested = false → Cleared table past) ?_ ?_
      · intro now _ requested after _
        refine ⟨by simp [Timely], ?_⟩
        rintro rfl
        exact h.read now
      intro requested past state h
      refine wp_ite.2 ⟨fun _ => trivial, fun hrequested => ?_⟩
      have hclear := h (by simpa using hrequested)
      refine wp_seq (wp_of_only (by simp) keeps_cleared (fun _ _ _ _ => trivial) hclear)
        fun wake past state h => ?_
      cases wake with
      | shutdown => trivial
      | slept => exact ih _ h

variable {r : Runner} {statement : Statement} {policy : RunPolicy} {summary : OperationSummary}

/-- The statement of a cleared visit is timely, and so is each of its retries. -/
theorem maintain_table_timely (hr : r.Performs statement) (count i : Nat)
    (h : Cleared table past) :
    wp W Timely (maintainTable r policy count i table summary) (fun _ _ _ => True)
      (fun _ _ _ => True) past state := by
  refine wp_ite.2 ⟨fun _ => ?_, fun _ => ?_⟩
  · exact timely_of_record (by simp)
  refine wp_seq (wp_of_only (by simp) keeps_cleared (fun _ _ _ _ => trivial) h)
    fun start past state h => ?_
  have hretry := @retry_loop_timely _ table past state statement policy.lockTimeoutRetries
    policy.lockTimeoutRetryDelayMs h
  rw [← hr.operation] at hretry
  refine wp_seq (R := fun _ _ _ => True) (wp_attempt.2 hretry) fun outcome past state _ => ?_
  refine wp_seq (timely_of_record (by simp)) fun time past state _ => ?_
  -- nothing that is recorded of the end is a statement
  cases outcome with
  | ok result =>
      exact timely_of_record ((record_success_record hr.report result _).mono (fun _ h => h)
        (fun _ _ => trivial) (fun _ _ => trivial))
  | error err =>
      refine wp_seq (timely_of_record (by simp)) fun requested past state _ => ?_
      cases classifyOpError err requested with
      | connectionLost =>
          exact timely_of_record ((only_record (connection_lost_error_aside ..)).bind
            fun _ => trivial)
      | shutdownInterrupted =>
          exact timely_of_record ((handle_shutdown_interrupt_record _).bind fun _ => trivial)
      | lockTimeout =>
          exact timely_of_record ((record_failure_record err _).mono (fun _ h => h)
            (fun _ _ => trivial) (fun _ _ => trivial))
      | other =>
          exact timely_of_record ((record_failure_record err _).mono (fun _ h => h)
            (fun _ _ => trivial) (fun _ _ => trivial))

/-- What the gates keep: that the flag was read as clear. -/
theorem gate_rules_timely : GateRules W Timely (fun past _ => Cleared table past)
    (fun _ _ => True) (fun _ _ _ => True) where
  aside := keeps_cleared.mono fun _ h => h.aside.record
  stopped := fun _ _ _ _ _ _ _ _ hop _ =>
    ⟨fun statement table heq => absurd heq (hop.aside.record.idle statement table), trivial⟩
  wake _ _ _ _ _ _ _ _ := trivial
  err _ _ _ _ _ := trivial

/-- A pass looks at the flag before its statement. -/
theorem pass_timely {already : Option (List TableKey)} {body : PassBody}
    (hpass : IsPass policy statement already body) (i : Nat) :
    wp W Timely (body i table summary) (fun _ _ _ => True) (fun _ _ _ => True) past state := by
  refine gate_rules_timely.pass (J := fun past _ => Visiting table past) hpass
    (keeps_visiting.mono fun _ => Op.Gating.aside) (fun _ _ _ _ _ => trivial) ?_
    (fun _ _ _ => trivial) ?_
    (fun r count past state hr h _ _ => maintain_table_timely hr count i h) ?_
  · intro past state h now _ requested after _
    refine ⟨by simp [Timely], ?_⟩
    cases requested with
    | true => trivial
    | false => exact h.read now
  · intro reason past state _ _
    exact wp_mono (timely_of_record (skip_table_record reason)) (fun _ _ _ h => h) fun _ _ _ h => h
  · intro now _ answer after _
    exact ⟨by simp [Timely], past, _, [], rfl, rfl, by simp⟩

/-- Every statement of a run is timely. -/
theorem main_timely (settings : RunSettings) :
    wp W Timely (main settings) (fun _ _ _ => True) (fun _ _ _ => True) [] state := by
  suffices hrun : wp W Timely (run settings) (fun _ _ _ => True) (fun _ _ _ => True) [] state by
    refine wp_seq_attempt hrun (fun _ _ _ _ => trivial) fun err past state _ => ?_
    exact timely_of_record (by simp)
  refine wp_seq (timely_of_record (only_record (setup_aside settings))) fun plan past state _ => ?_
  refine wp_seq (R := fun _ _ _ => True) ?_ fun total past state _ =>
    timely_of_idle ((finish_closing total).mono (fun _ => Op.Closing.idle) (fun _ h => h)
      fun _ h => h)
  refine wp_mono (wp_runInOrder (I := fun _ _ _ _ _ => True) ?_ trivial) (fun _ _ _ _ => trivial)
    fun _ _ _ h => h
  intro _ phase _ _ p hp _ seen past state _
  have hnone : W.Keeps Timely Op.Aside fun _ _ => True := fun _ _ _ _ _ _ _ _ hop _ =>
    ⟨fun statement table heq => absurd heq (hop.record.idle statement table), trivial⟩
  refine wp_phase hp (I := fun _ _ => True) (Q := fun _ _ _ _ => True) hnone
    (fun _ _ _ _ => trivial) (fun _ _ _ => trivial) ?_ trivial
  intro tables runner past state hrunner _
  refine wp_mono (wp_runner (I := fun _ _ _ _ => True) (D := fun _ _ _ => True)
    (E := fun _ _ _ => True) hrunner ?_ ?_) (fun _ _ _ _ => trivial) fun _ _ _ _ _ => trivial
  · exact fun now _ _ _ _ => ⟨by simp [Timely], trivial⟩
  · intro body hbody _ table _ _ i summary past state _
    refine wp_mono (pass_timely hbody i) (fun flow _ _ _ => ?_) fun _ _ _ h => h
    cases flow <;> trivial

end Rules

end Trace

section Places

variable {W : World session} {tr : Trace W} {i : Nat} {m : Moment W} {table : TableKey}

/-- A step of a prefix, as a place of the trace. -/
theorem place_of_take {front back : Trace W} (h : tr.take i = front ++ m :: back) :
    front.length < i ∧ tr[front.length]? = some m ∧
      ∀ j n, front.length < j → j < i → tr[j]? = some n → n ∈ back := by
  have hlength : (tr.take i).length = front.length + (back.length + 1) := by simp [h]
  rw [List.length_take] at hlength
  refine ⟨by omega, ?_, fun j n hlt hji hj => ?_⟩
  · have hget : (tr.take i)[front.length]? = some m := by simp [h]
    rwa [List.getElem?_take_of_lt (by omega)] at hget
  · have hget : (tr.take i)[j]? = some n := by rw [List.getElem?_take_of_lt hji, hj]
    rw [h, List.getElem?_append_right (by omega), List.getElem?_cons, if_neg (by omega)] at hget
    exact List.mem_of_getElem? hget

/-- Before a timely statement the loop turned to its table, then the flag was read as clear. -/
theorem places_of_cleared (h : Cleared table (tr.take i)) :
    ∃ j k visit read, j < k ∧ k < i ∧ tr[j]? = some visit ∧ visit.op = .mark (.visit table) ∧
      tr[k]? = some read ∧ ReadsClear read ∧
      (∀ l n, j < l → l < i → tr[l]? = some n → ¬Turns n) ∧
      ∀ l n, k < l → l < i → tr[l]? = some n → ¬Maintains n := by
  obtain ⟨_, read, back, htake, ⟨front, visit, rest, rfl, hvisit, hrest⟩, hread, hback⟩ := h
  obtain ⟨hk, hkread, hkback⟩ := place_of_take htake
  have hsplit : tr.take i = front ++ visit :: (rest ++ read :: back) := by simp [htake]
  obtain ⟨hj, hjvisit, hjrest⟩ := place_of_take hsplit
  refine ⟨_, _, visit, read, ?_, hk, hjvisit, hvisit, hkread, hread, fun l n hjl hli hl => ?_,
    fun l n hkl hli hl => (hback n (hkback l n hkl hli hl)).2⟩
  · simp
  · rcases List.mem_append.1 (hjrest l n hjl hli hl) with hn | hn
    · exact hrest n hn
    · rcases List.mem_cons.1 hn with rfl | hn
      · obtain ⟨_, rfl⟩ := hread
        simp [Turns]
      · exact (hback n hn).1

end Places

section System

variable {mode : ShutdownMode} {start last : Process} {tr : Trace (system mode)} {ε α : Type}
  {p q : Prog session ε α}

/-- A flag that is clear was clear before. -/
theorem flag_clear_before (h : Exec (system mode) start p tr last q) {i j : Nat}
    {m n : Moment (system mode)} (hij : i < j) (hi : tr[i]? = some m) (hj : tr[j]? = some n)
    (hclear : n.state.flag = false) : m.state.flag = false := by
  obtain ⟨hi', rfl⟩ := List.getElem?_eq_some_iff.1 hi
  obtain ⟨hj', rfl⟩ := List.getElem?_eq_some_iff.1 hj
  have hle := List.pairwise_iff_getElem.1 (exec_le h).2.2 i j hi' hj' hij
  by_contra hset
  simp [hle.flag (by simpa using hset)] at hclear

/-- A flag that was read as clear was clear. -/
theorem flag_clear_of_reads_clear (h : Exec (system mode) start p tr last q)
    {m : Moment (system mode)} (hm : m ∈ tr) (hread : ReadsClear m) : m.state.flag = false := by
  obtain ⟨state, rfl⟩ := hread
  obtain ⟨_, hanswer, _⟩ := h.answered hm
  exact hanswer.symm

/-- A statement that had not ended when the shutdown flag was set. -/
def Late (m : Moment (system mode)) : Prop := Maintains m ∧ m.state.flag = true

/-- In every run, once the shutdown flag is set it stays set; at most one statement ends after
that, and it is on the table that was being processed then. -/
theorem stops_before_the_next_table {settings : RunSettings} {rest : Prog session Empty Nat}
    (h : Exec (system mode) start (main settings) tr last rest) :
    (tr.Pairwise fun m n => m.state.flag = true → n.state.flag = true) ∧
    (∀ (i j : Nat) (m n : Moment (system mode)), tr[i]? = some m → tr[j]? = some n →
      Late m → Late n → i = j) ∧
    ∀ (i : Nat) (m : Moment (system mode)), tr[i]? = some m → Late m →
      ∃ (j : Nat) (visit : Moment (system mode)) (statement : Statement) (table : TableKey),
        j < i ∧ tr[j]? = some visit ∧ visit.op = .mark (.visit table) ∧
        visit.state.flag = false ∧ m.op = .call (.maintain statement table) ∧
        ∀ k n, j < k → k < i → tr[k]? = some n → ¬Turns n := by
  have haccepts := (h.sound .refl (main_timely settings)).1
  -- between a late statement and a later one the flag is read, and found set
  have hfirst : ∀ {i j : Nat} {m n : Moment (system mode)}, i < j → tr[i]? = some m →
      tr[j]? = some n → Late m → ¬Maintains n := by
    rintro i j m n hij hi hj ⟨hmaintains, hflag⟩ ⟨statement, table, hop⟩
    obtain ⟨_, k, _, read, _, _, _, _, hread, hclear, _, hquiet⟩ :=
      places_of_cleared (haccepts.get hj statement table hop)
    have hfalse := flag_clear_of_reads_clear h (List.mem_of_getElem? hread) hclear
    rcases Nat.lt_trichotomy i k with hlt | rfl | hlt
    · have := flag_clear_before h hlt hi hread hfalse
      simp [hflag] at this
    · obtain rfl : m = read := Option.some.inj (hi.symm.trans hread)
      simp [hflag] at hfalse
    · exact hquiet i m hlt hij hi hmaintains
  refine ⟨(exec_le h).2.2.imp Process.Le.flag, fun i j m n hi hj hm hn => ?_, ?_⟩
  · rcases Nat.lt_trichotomy i j with hlt | heq | hlt
    · exact (hfirst hlt hi hj hm hn.1).elim
    · exact heq
    · exact (hfirst hlt hj hi hn hm.1).elim
  · rintro i m hi ⟨⟨statement, table, hop⟩, _⟩
    obtain ⟨j, k, visit, read, hjk, hki, hvisit, hturns, hread, hclear, hquiet, _⟩ :=
      places_of_cleared (haccepts.get hi statement table hop)
    have hfalse := flag_clear_of_reads_clear h (List.mem_of_getElem? hread) hclear
    exact ⟨j, visit, statement, table, by omega, hvisit, hturns,
      flag_clear_before h hjk hvisit hread hfalse, hop, hquiet⟩

end System

/-- SIGTERM arrives while a statement runs, which goes on to its end. -/
def duringStatement : Disturbance .finish where
  before
    | p, .call (.maintain _ _) => p.signalled .sigterm
    | p, _ => p
  fails _ := none
  drifts p op := by
    split
    · exact Process.drifts_signalled ..
    · exact .refl

/-- A server with two tables that were never vacuumed. -/
def twoTables : Server where
  neverVacuumed := [⟨"public", "t", 10, 0, 8192, none⟩, ⟨"public", "u", 10, 0, 8192, none⟩]

/-- The settings under which both are vacuumed. -/
def twoTablesSettings : RunSettings := defaultSettings [.neverVacuumed] []

/-- The run in which the signal comes during the first statement. -/
def interruptedTrace : Trace (system .finish) :=
  ((main twoTablesSettings).enact (system .finish) (duringStatement.script twoTables) {}).1

/-- The second table is not vacuumed. -/
theorem interrupted_run_stops :
    ∃ (i : Nat) (m : Moment (system .finish)), interruptedTrace[i]? = some m ∧ Late m ∧
      ∀ (j : Nat) (n : Moment (system .finish)), interruptedTrace[j]? = some n → Late n →
        i = j := by
  have hrun := stops_before_the_next_table (duringStatement.exec twoTables twoTablesSettings)
  have hlate : ∀ (m : Moment (system .finish)), interruptedTrace[31]? = some m → Late m := by
    intro m hm
    obtain rfl := Option.some.inj hm
    exact ⟨⟨_, _, rfl⟩, rfl⟩
  exact ⟨31, _, rfl, hlate _ rfl, fun j n hj hn => hrun.2.1 31 j _ n rfl hj (hlate _ rfl) hn⟩

end PgMaintainer
