import PgMaintainer.Properties.LagGate
import PgMaintainer.Run.Shape

/-!
# The lag budget of a table

`--max-replica-lag-wait-seconds` is a budget for each table. A runner that goes through the gate
once keeps it. The runner of `--also-tables` goes through it twice, each time with the whole budget,
and keeps it if the lag is over the threshold in one of the two only.
-/

namespace PgMaintainer

open Interaction

/-! ## Before a table's statement -/

section LeadIn

variable {W : World session}

/-- A step that turns to a table, or begins with its statement. -/
def Moment.begins (m : Moment W) : Bool :=
  match m.op with
  | .mark (.visit _) | .call (.getDeadTupleCount _) | .call (.maintain _ _) => true
  | _ => false

/-- The steps since a table was turned to, `none` once its statement has begun. -/
def leadInStep (lead : Option (Trace W)) (m : Moment W) : Option (Trace W) :=
  match m.op with
  | .mark (.visit _) => some []
  | .call (.getDeadTupleCount _) | .call (.maintain _ _) => none
  | _ => lead.map (· ++ [m])

/-- The steps that a table's statement was preceded by so far. -/
def leadIn (past : Trace W) : Option (Trace W) := past.foldl leadInStep none

/-- The lead-in grows step by step. -/
theorem lead_in_append (past : Trace W) (m : Moment W) :
    leadIn (past ++ [m]) = leadInStep (leadIn past) m := by
  rw [leadIn, List.foldl_append]
  rfl

/-- A step that begins nothing is added to the lead-in. -/
theorem lead_in_step_of_not_begins {m : Moment W} (h : Moment.begins m = false)
    (lead : Option (Trace W)) : leadInStep lead m = lead.map (· ++ [m]) := by
  unfold Moment.begins at h
  unfold leadInStep
  split at h
  · cases h
  · cases h
  · cases h
  · rfl

/-- Steps that begin nothing belong to what came before. -/
theorem lead_in_append_of_not_begins {past tr lead : Trace W} (h : leadIn past = some lead)
    (htr : ∀ m ∈ tr, Moment.begins m = false) : leadIn (past ++ tr) = some (lead ++ tr) := by
  induction tr generalizing past lead with
  | nil => rwa [List.append_nil, List.append_nil]
  | cons m tr ih =>
      have hm : leadIn (past ++ [m]) = some (lead ++ [m]) := by
        rw [lead_in_append, h, lead_in_step_of_not_begins (htr m List.mem_cons_self)]
        rfl
      have hrest := ih hm fun m hm => htr m (List.mem_cons_of_mem _ hm)
      rwa [List.append_assoc, List.append_assoc] at hrest

end LeadIn

/-! ## One check of the gate -/

section Check

variable {gate : ReplicaLagGate} {table : TableKey} {policy : RunPolicy} {time : Nat}
  {tr : Trace clock}

/-- What one check of the gate has done so far. -/
structure InCheck (gate : ReplicaLagGate) (tr : Trace clock) : Prop where
  budget : (sleeps tr).sum ≤ fromSecs gate.maxWaitSeconds
  lagging : sleeps tr ≠ [] → ∃ o ∈ observations tr, o.Behind gate.thresholdSeconds
  opening : tr = [] ∨ ∃ m rest, tr = m :: rest ∧ m.op = .gateIsDisabled
  watching : ∀ m ∈ tr, m.op.Watching = true

/-- A check starts with a look at the gate's flag. -/
def Opens (past : Trace clock) (m : Moment clock) : Prop := past = [] → m.op = .gateIsDisabled

/-- After its first step a program opens nothing. -/
theorem wp_opened {α : Type} {p : RunM α} {past : Trace clock} (hpast : past ≠ []) :
    wp clock Opens p (fun _ _ _ => True) (fun _ _ _ => True) past time := by
  induction p generalizing past time with
  | pure => trivial
  | fail => trivial
  | perform op next ih =>
      intro now _ answer after _
      exact ⟨fun hnil => absurd hnil hpast, ih answer (by simp)⟩

/-- What is accepted of the steps of a check says how it went. -/
theorem in_check_of_accepts (hthreshold : 0 ≤ gate.thresholdSeconds)
    (h : Accepts (fun past m => Bounded gate past m ∧ Opens past m) [] tr) : InCheck gate tr := by
  have hmem : ∀ m ∈ tr, ∃ before after, tr = before ++ m :: after ∧ Bounded gate before m := by
    intro m hm
    obtain ⟨before, after, htr⟩ := List.append_of_mem hm
    rw [htr] at h
    exact ⟨before, after, htr, h.at.1⟩
  refine ⟨?_, fun hslept => ?_, ?_, fun m hm => ?_⟩
  · have hbounded : Accepts (Bounded gate) [] tr := h.mono fun _ _ h => h.1
    exact (within_budget_of_accepts hbounded ⟨Nat.zero_le _, Nat.zero_le _⟩).2
  · obtain ⟨duration, hduration⟩ := List.exists_mem_of_ne_nil _ hslept
    obtain ⟨m, hm, hsleep⟩ := List.mem_filterMap.1 hduration
    obtain ⟨before, after, htr, hbounded⟩ := hmem m hm
    obtain ⟨o, hlast, hbehind⟩ :=
      (hbounded.exceeding duration (op_of_sleep hsleep)).lagging hthreshold
    refine ⟨o, ?_, hbehind⟩
    rw [htr, observations_append]
    exact List.mem_append_left _ (List.mem_of_getLast? hlast)
  · cases tr with
    | nil => exact .inl rfl
    | cons m rest => exact .inr ⟨m, rest, rfl, h.1.2 rfl⟩
  · obtain ⟨_, _, _, hbounded⟩ := hmem m hm
    exact hbounded.watching

/-- A check of the gate, by itself. -/
theorem wp_in_check (hthreshold : 0 ≤ gate.thresholdSeconds) :
    wp clock (fun past m => InCheck gate (past ++ [m])) (waitForReplicaLag gate table policy)
      (fun _ past _ => InCheck gate past) (fun _ _ _ => True) [] time := by
  have hopens : wp clock Opens (waitForReplicaLag gate table policy) (fun _ _ _ => True)
      (fun _ _ _ => True) [] time := by
    refine wp_bind.2 ?_
    intro now _ disabled after _
    exact ⟨fun _ => rfl, wp_opened (by simp)⟩
  have hgate := wp_unrolled (is_unrolled_wait_for_replica_lag gate table policy) time
  have hhistory := wp_history (wp_and_safe hgate hopens) trivial
  refine wp_mono (wp_weaken hhistory fun past m h => in_check_of_accepts hthreshold h) ?_
    fun _ _ _ _ => trivial
  intro _ past _ h
  exact in_check_of_accepts hthreshold h.1

end Check

/-! ## The budget on the way to a statement -/

section Budget

variable {gate : ReplicaLagGate} {Cond : Trace clock → Prop} {past : Trace clock} {time : Nat}

/-- The sleeps before a table's statement stay within the budget, where the condition holds. -/
def OnBudget (gate : ReplicaLagGate) (Cond : Trace clock → Prop) (past : Trace clock) : Prop :=
  ∀ lead, leadIn past = some lead → Cond lead →
    (sleeps lead).sum ≤ fromSecs gate.maxWaitSeconds

/-- A table was turned to, and the gate was not looked at yet. -/
def Visited (past : Trace clock) : Prop :=
  ∃ lead, leadIn past = some lead ∧ sleeps lead = [] ∧ observations lead = []

/-- The gate was checked once. -/
def CheckedOnce (gate : ReplicaLagGate) (past : Trace clock) : Prop :=
  ∃ front check, leadIn past = some (front ++ check) ∧ sleeps front = [] ∧
    observations front = [] ∧ InCheck gate check

/-- At each look at the gate's flag, either what came before or what comes after shows no standby
behind the threshold: not in two checks of the gate. -/
def LagsInOneCheck (gate : ReplicaLagGate) (lead : Trace clock) : Prop :=
  ∀ first m second, lead = first ++ m :: second → m.op = .gateIsDisabled →
    (∀ o ∈ observations first, ¬o.Behind gate.thresholdSeconds) ∨
      ∀ o ∈ observations second, ¬o.Behind gate.thresholdSeconds

/-- The condition, as a finite search through the looks at the flag. -/
theorem lags_in_one_check_iff {lead : Trace clock} :
    LagsInOneCheck gate lead ↔ ∀ i ∈ List.range lead.length, ∀ m ∈ lead[i]?,
      m.op = .gateIsDisabled →
        (∀ o ∈ observations (lead.take i), ¬o.Behind gate.thresholdSeconds) ∨
          ∀ o ∈ observations (lead.drop (i + 1)), ¬o.Behind gate.thresholdSeconds := by
  constructor
  · intro h i _ m hm hlook
    exact h _ m _ (trace_split hm) hlook
  · intro h first m second heq hlook
    subst heq
    have hplace := h first.length (by simp) m (by simp) hlook
    simpa using hplace

instance (lead : Trace clock) : Decidable (LagsInOneCheck gate lead) :=
  decidable_of_iff _ lags_in_one_check_iff.symm

/-- A condition that, where it holds, held before. -/
def Receding (Cond : Trace clock → Prop) : Prop := ∀ lead m, Cond (lead ++ [m]) → Cond lead

/-- Where the standbys lag in one check, they did so in what came before. -/
theorem lags_in_one_check_receding : Receding (LagsInOneCheck gate) := by
  intro lead m h first look second heq hlook
  have hlonger : lead ++ [m] = first ++ look :: (second ++ [m]) := by
    rw [heq, List.append_assoc, List.cons_append]
  obtain hfirst | hsecond := h first look _ hlonger hlook
  · exact .inl hfirst
  · refine .inr fun o ho => hsecond o ?_
    rw [observations_append]
    exact List.mem_append_left _ ho

/-- A check turns to no table and begins no statement. -/
theorem InCheck.not_begins {tr : Trace clock} (h : InCheck gate tr) :
    ∀ m ∈ tr, Moment.begins m = false := by
  intro m hm
  have hwatching := h.watching m hm
  unfold Moment.begins
  unfold Op.Watching at hwatching
  split at hwatching <;> simp_all

/-- A check in which no standby was behind has not slept. -/
theorem InCheck.awake {tr : Trace clock} (h : InCheck gate tr)
    (hnone : ∀ o ∈ observations tr, ¬o.Behind gate.thresholdSeconds) : sleeps tr = [] := by
  by_contra hslept
  obtain ⟨o, ho, hbehind⟩ := h.lagging hslept
  exact hnone o ho hbehind

/-- Two checks, of which one shows no standby behind: only the other has slept. -/
theorem budget_of_two_checks {front first second : Trace clock} (hsleeps : sleeps front = [])
    (hobservations : observations front = []) (hfirst : InCheck gate first)
    (hsecond : InCheck gate second)
    (hone : LagsInOneCheck gate (front ++ first ++ second)) :
    (sleeps (front ++ first ++ second)).sum ≤ fromSecs gate.maxWaitSeconds := by
  rw [sleeps_append, sleeps_append, hsleeps, List.nil_append, List.sum_append]
  obtain rfl | ⟨m, rest, rfl, hm⟩ := hsecond.opening
  · exact hfirst.budget
  obtain hbefore | hafter := hone (front ++ first) m rest rfl hm
  · rw [observations_append, hobservations, List.nil_append] at hbefore
    rw [hfirst.awake hbefore]
    have htotal := hsecond.budget
    simpa using htotal
  · have hlook : observations (m :: rest) = observations rest := by
      have hnone : Moment.observation m = none := by
        unfold Moment.observation
        split <;> simp_all
      exact List.filterMap_cons_none hnone
    rw [← hlook] at hafter
    rw [hsecond.awake hafter]
    have htotal := hfirst.budget
    simpa using htotal

/-- The budget while the gate is checked once, behind steps that neither sleep nor observe. -/
theorem CheckedOnce.within (h : CheckedOnce gate past) : OnBudget gate Cond past := by
  intro lead hlead _
  obtain ⟨front, check, heq, hsleeps, -, hcheck⟩ := h
  rw [heq] at hlead
  cases hlead
  rw [sleeps_append, hsleeps, List.nil_append]
  exact hcheck.budget

/-- After its check a table that was turned to was checked once. -/
theorem Visited.checking {check : Trace clock} (h : Visited past) (hcheck : InCheck gate check) :
    CheckedOnce gate (past ++ check) := by
  obtain ⟨front, hfront, hsleeps, hobservations⟩ := h
  have hlead := lead_in_append_of_not_begins hfront hcheck.not_begins
  exact ⟨front, check, hlead, hsleeps, hobservations, hcheck⟩

/-- Before its check a table has not waited at all. -/
theorem Visited.within (h : Visited past) : OnBudget gate Cond past := by
  intro lead hlead _
  obtain ⟨front, hfront, hsleeps, -⟩ := h
  rw [hfront] at hlead
  cases hlead
  rw [hsleeps]
  exact Nat.zero_le _

/-- The budget while the gate is checked again. -/
theorem CheckedOnce.checking {check : Trace clock} (h : CheckedOnce gate past)
    (hcheck : InCheck gate check) : OnBudget gate (LagsInOneCheck gate) (past ++ check) := by
  intro lead hlead hone
  obtain ⟨front, first, heq, hsleeps, hobservations, hfirst⟩ := h
  rw [lead_in_append_of_not_begins heq hcheck.not_begins] at hlead
  cases hlead
  exact budget_of_two_checks hsleeps hobservations hfirst hcheck hone

/-! ## What a pass keeps -/

/-- The safety condition: the budget is kept with each step. -/
def Kept (gate : ReplicaLagGate) (Cond : Trace clock → Prop) (past : Trace clock)
    (m : Moment clock) : Prop := OnBudget gate Cond (past ++ [m])

/-- The program keeps the budget. -/
abbrev Keeping (gate : ReplicaLagGate) (Cond : Trace clock → Prop) {ε α : Type}
    (p : Prog session ε α) (past : Trace clock) (time : Nat) : Prop :=
  wp clock (Kept gate Cond) p (fun _ _ _ => True) (fun _ _ _ => True) past time

/-- Operations that do not sleep. -/
def Op.Awake : Op → Prop
  | .sleepOrShutdown _ => False
  | _ => True

/-- Operations that do not turn to a table. -/
def Op.Onward : Op → Prop
  | .mark (.visit _) => False
  | _ => True

attribute [local simp] Op.Awake Op.Onward

/-- What happens around a statement turns to no table. -/
theorem Op.Record.onward {op : Op} (h : op.Record) : op.Onward := by
  unfold Op.Record at h
  unfold Op.Onward
  split at h <;> simp_all

/-- A step that does not sleep. -/
theorem OnBudget.step (hCond : Receding Cond) (h : OnBudget gate Cond past) {m : Moment clock}
    (hawake : m.op.Awake) : OnBudget gate Cond (past ++ [m]) := by
  have hsleep : Moment.sleep m = none := by
    unfold Moment.sleep
    unfold Op.Awake at hawake
    split at hawake <;> simp_all
  intro lead hlead hcond
  rw [lead_in_append] at hlead
  unfold leadInStep at hlead
  split at hlead
  · cases hlead
    exact Nat.zero_le _
  · cases hlead
  · cases hlead
  · obtain ⟨before, hbefore, rfl⟩ := Option.map_eq_some_iff.1 hlead
    have hnone : sleeps [m] = [] := List.filterMap_cons_none hsleep
    rw [sleeps_append, hnone, List.append_nil]
    exact h before hbefore (hCond before m hcond)

/-- What does not sleep keeps the budget. -/
theorem keeps_on_budget (hCond : Receding Cond) :
    clock.Keeps (Kept gate Cond) Op.Awake fun past _ => OnBudget gate Cond past := by
  intro past _ now h _ op answer after hop _
  have hstep := h.step hCond (m := ⟨now, op, answer⟩) hop
  exact ⟨hstep, hstep⟩

/-- Once the statement has begun, everything up to the next table is behind the budget. -/
theorem keeps_begun :
    clock.Keeps (Kept gate Cond) Op.Onward fun past _ => leadIn past = none := by
  intro past _ now h _ op answer after hop _
  have hnone : leadIn (past ++ [⟨now, op, answer⟩]) = none := by
    rw [lead_in_append, h]
    unfold leadInStep
    unfold Op.Onward at hop
    split <;> simp_all
  refine ⟨fun lead hlead => ?_, hnone⟩
  rw [hnone] at hlead
  cases hlead

/-- So does a program that does not sleep. -/
theorem keeping_of_on_budget {ε α : Type} {p : Prog session ε α} (hCond : Receding Cond)
    (hp : p.Only Op.Awake) (h : OnBudget gate Cond past) : Keeping gate Cond p past time :=
  wp_mono (wp_of_only hp (keeps_on_budget hCond) (fun _ _ _ _ => trivial) h)
    (fun _ _ _ _ => trivial) fun _ _ _ h => h

/-- Once the statement has begun, sleeps are its own. -/
theorem keeping_of_begun {ε α : Type} {p : Prog session ε α} (hp : p.Only Op.Onward)
    (h : leadIn past = none) : Keeping gate Cond p past time :=
  wp_mono (wp_of_only hp keeps_begun (fun _ _ _ _ => trivial) h) (fun _ _ _ _ => trivial)
    fun _ _ _ h => h

section Pass

variable {r : Runner} {statement : Statement} {policy : RunPolicy} {table : TableKey}
  {summary : OperationSummary} {body : Pass}

/-- A skipped table does not sleep. -/
theorem skip_table_awake (reason : SkipReason) :
    (skipTable summary table reason).Only Op.Awake := by
  simp [skipTable]

/-- The head of a pass leads to the gate. -/
theorem visit_table_keeping (hCond : Receding Cond)
    (hbody : ∀ past time, Visited past → Keeping gate Cond body past time) (count i : Nat) :
    Keeping gate Cond (visitTable r count i table summary body) past time := by
  -- the looks at the session and at the flag take no time of the gate
  have hlook : clock.Keeps (Kept gate Cond) (fun op => op = .isClosed ∨ op = .shutdownRequested)
      fun past _ => Visited past := by
    intro past _ now h _ op answer after hop _
    have hvisited : Visited (past ++ [⟨now, op, answer⟩]) := by
      obtain ⟨lead, hlead, hsleeps, hobservations⟩ := h
      refine ⟨lead ++ [⟨now, op, answer⟩], ?_, ?_, ?_⟩
      · obtain rfl | rfl := hop
        · exact lead_in_append_of_not_begins hlead (by simp [Moment.begins])
        · exact lead_in_append_of_not_begins hlead (by simp [Moment.begins])
      · rw [sleeps_append, hsleeps]
        obtain rfl | rfl := hop <;> rfl
      · rw [observations_append, hobservations]
        obtain rfl | rfl := hop <;> rfl
    exact ⟨hvisited.within, hvisited⟩
  have hmark : wp clock (Kept gate Cond) (mark (.visit table) : RunM Unit)
      (fun _ past _ => Visited past) (fun _ _ _ => True) past time := by
    intro now _ answer after _
    have hvisited : Visited (past ++ [⟨now, .mark (.visit table), answer⟩]) :=
      ⟨[], lead_in_append _ _, rfl, rfl⟩
    exact ⟨hvisited.within, hvisited⟩
  refine wp_seq hmark fun _ past time hvisited => ?_
  refine wp_seq (wp_of_only (by simp) hlook (fun _ _ _ _ => trivial) hvisited) ?_
  intro closed past time hvisited
  refine wp_ite.2 ⟨fun _ => ?_, fun _ => ?_⟩
  · refine keeping_of_on_budget hCond (Prog.Only.bind ?_ fun _ => trivial) hvisited.within
    simp [connectionLostError]
  refine wp_seq (wp_of_only (by simp) hlook (fun _ _ _ _ => trivial) hvisited) ?_
  intro requested past time hvisited
  exact wp_ite.2 ⟨fun _ => trivial, fun _ => hbody past time hvisited⟩

/-- A table that was handled before is skipped without a sleep. -/
theorem unless_handled_keeping {already : Option (List TableKey)} (hCond : Receding Cond)
    (h : OnBudget gate Cond past) (hbody : Keeping gate Cond body past time) :
    Keeping gate Cond (unlessHandled already table summary body) past time := by
  cases already with
  | none => exact hbody
  | some handled =>
      refine wp_ite.2 ⟨fun _ => ?_, fun _ => hbody⟩
      exact keeping_of_on_budget hCond ((skip_table_awake _).bind fun _ => trivial) h

/-- A check of the gate that leads to `A`. -/
theorem after_lag_gate_keeping {A : Trace clock → Prop} (hCond : Receding Cond)
    (hgate : wp clock (Kept gate Cond) (waitForReplicaLag gate table policy)
      (fun _ past _ => A past) (fun _ _ _ => True) past time)
    (hA : ∀ past, A past → OnBudget gate Cond past)
    (hbody : ∀ past time, A past → Keeping gate Cond body past time) :
    Keeping gate Cond (afterLagGate (some gate) policy table summary body) past time := by
  refine wp_seq hgate fun verdict past time h => ?_
  cases verdict with
  | proceed => exact hbody past time h
  | skipTable =>
      exact keeping_of_on_budget hCond ((skip_table_awake _).bind fun _ => trivial) (hA past h)
  | shutdownRequested => trivial

/-- The first check of the gate. -/
theorem wp_first_check (hthreshold : 0 ≤ gate.thresholdSeconds) (h : Visited past) :
    wp clock (Kept gate Cond) (waitForReplicaLag gate table policy)
      (fun _ past _ => CheckedOnce gate past) (fun _ _ _ => True) past time := by
  have hcheck : wp clock (fun past m => InCheck gate (past ++ [m]))
      (waitForReplicaLag gate table policy) (fun _ past _ => InCheck gate past)
      (fun _ _ _ => True) [] time := wp_in_check hthreshold
  have hbehind : wp clock (Kept gate Cond) (waitForReplicaLag gate table policy)
      (fun _ past _ => CheckedOnce gate past) (fun _ _ _ => True) (past ++ []) time := by
    refine wp_shift (wp_mono (wp_weaken hcheck fun tr m hin => ?_) ?_ fun _ _ _ h => h)
    · have hwithin : OnBudget gate Cond (past ++ (tr ++ [m])) := (h.checking hin).within
      rwa [← List.append_assoc] at hwithin
    · exact fun _ tr _ hin => h.checking hin
  rwa [List.append_nil] at hbehind

/-- The second one. -/
theorem wp_second_check (hthreshold : 0 ≤ gate.thresholdSeconds) (h : CheckedOnce gate past) :
    wp clock (Kept gate (LagsInOneCheck gate)) (waitForReplicaLag gate table policy)
      (fun _ past _ => OnBudget gate (LagsInOneCheck gate) past) (fun _ _ _ => True) past time := by
  have hcheck : wp clock (fun past m => InCheck gate (past ++ [m]))
      (waitForReplicaLag gate table policy) (fun _ past _ => InCheck gate past)
      (fun _ _ _ => True) [] time := wp_in_check hthreshold
  have hbehind : wp clock (Kept gate (LagsInOneCheck gate))
      (waitForReplicaLag gate table policy)
      (fun _ past _ => OnBudget gate (LagsInOneCheck gate) past) (fun _ _ _ => True) (past ++ [])
      time := by
    refine wp_shift (wp_mono (wp_weaken hcheck fun tr m hin => ?_) ?_ fun _ _ _ h => h)
    · have hwithin := h.checking hin
      rwa [← List.append_assoc] at hwithin
    · exact fun _ tr _ hin => h.checking hin
  rwa [List.append_nil] at hbehind

/-- The second gate does not sleep. -/
theorem after_active_vacuums_keeping {body : OperationSummary → Pass} (hCond : Receding Cond)
    (h : OnBudget gate Cond past)
    (hbody : ∀ summary past time, OnBudget gate Cond past →
      Keeping gate Cond (body summary) past time) :
    Keeping gate Cond (afterActiveVacuums policy table summary body) past time := by
  have hgate : (handleActiveVacuums table policy summary).Only Op.Awake :=
    handle_active_vacuums_only trivial (fun _ _ => trivial) fun _ => trivial
  refine wp_seq (wp_of_only hgate (keeps_on_budget hCond) (fun _ _ _ _ => trivial) h) ?_
  intro result past time h
  exact wp_ite.2 ⟨fun _ => hbody _ past time h, fun _ => trivial⟩

/-- The first thing a statement's attempts do is to begin the statement. -/
theorem retry_loop_begins (statement : Statement) (table : TableKey) (left delayMs : Nat) :
    ∃ op next, retryLoop (statement.operation table) left delayMs = .perform op next ∧
      ∀ lead (state : clock.State) answer,
        leadInStep (W := clock) lead ⟨state, op, answer⟩ = none := by
  cases statement <;> cases left <;> exact ⟨_, _, rfl, fun _ _ _ => rfl⟩

/-- Whatever the attempts wait for one another, the statement has begun. -/
theorem wp_retry_loop (left delayMs : Nat) :
    wp clock (Kept gate Cond) (retryLoop (statement.operation table) left delayMs)
      (fun _ past _ => leadIn past = none) (fun _ past _ => leadIn past = none) past time := by
  have hall : (retryLoop (statement.operation table) left delayMs).Only Op.Onward :=
    retry_loop_only (operation_only trivial trivial) trivial (fun _ => trivial) left delayMs
  obtain ⟨op, next, hloop, hbegins⟩ := retry_loop_begins statement table left delayMs
  rw [hloop] at hall
  rw [hloop]
  intro now _ answer after _
  have hbegun : leadIn (past ++ [⟨now, op, answer⟩]) = none :=
    (lead_in_append past _).trans (hbegins _ now answer)
  refine ⟨fun lead hlead => ?_, wp_of_only (hall.2 answer) keeps_begun (fun _ _ _ h => h) hbegun⟩
  rw [hbegun] at hlead
  cases hlead

/-- The statement and its retries sleep after it has begun. -/
theorem maintain_table_keeping (hCond : Receding Cond) (hr : r.Performs statement)
    (h : OnBudget gate Cond past) (count i : Nat) :
    Keeping gate Cond (maintainTable r policy count i table summary) past time := by
  refine wp_ite.2 ⟨fun _ => ?_, fun _ => ?_⟩
  · exact keeping_of_on_budget hCond (by simp) h
  have hnow : (now : RunM Nat).Only Op.Awake := by simp
  refine wp_seq (wp_of_only hnow (keeps_on_budget hCond) (fun _ _ _ _ => trivial) h) ?_
  intro started past time _
  -- the statement has begun, so the waits of the retries are not the gate's
  have hretry : wp clock (Kept gate Cond) (withLockTimeoutRetry policy (r.operation table))
      (fun _ past _ => leadIn past = none) (fun _ past _ => leadIn past = none) past time := by
    rw [hr.operation]
    exact wp_retry_loop _ _
  refine wp_seq_attempt hretry ?_ ?_
  · intro result past time hbegun
    refine keeping_of_begun (Prog.Only.bind (by simp) fun ended => ?_) hbegun
    exact (record_success_record hr.report result _).mono (fun _ => Op.Record.onward)
      (fun _ _ => trivial) fun _ _ => trivial
  intro err past time hbegun
  refine keeping_of_begun (Prog.Only.bind (by simp) fun ended => ?_) hbegun
  refine Prog.Only.bind (by simp) fun requested => ?_
  have hfailure : ∀ durationMs,
      (recordFailure r policy summary table err durationMs).Only Op.Onward := fun durationMs =>
    (record_failure_record err durationMs).mono (fun _ => Op.Record.onward) (fun _ _ => trivial)
      fun _ _ => trivial
  cases classifyOpError err requested with
  | connectionLost =>
      refine Prog.Only.bind ?_ fun _ => trivial
      simp [connectionLostError]
  | shutdownInterrupted =>
      refine Prog.Only.bind ?_ fun _ => trivial
      exact (handle_shutdown_interrupt_record _).mono (fun _ => Op.Record.onward)
        (fun _ h => h) fun _ h => h
  | lockTimeout => exact hfailure _
  | other => exact hfailure _

/-- A pass with one check keeps the budget whatever the standbys do. -/
theorem gated_pass_keeping (hthreshold : 0 ≤ gate.thresholdSeconds) (hr : r.Performs statement)
    (already : Option (List TableKey)) (count i : Nat) :
    Keeping gate (fun _ => True) (gatedPass r policy (some gate) already count i table summary)
      past time := by
  have hCond : Receding fun _ : Trace clock => True := fun _ _ h => h
  refine visit_table_keeping hCond (fun past time hvisited => ?_) count i
  refine unless_handled_keeping hCond hvisited.within ?_
  refine after_lag_gate_keeping hCond (wp_first_check hthreshold hvisited)
    (fun _ h => h.within) fun past time hchecked => ?_
  refine after_active_vacuums_keeping hCond hchecked.within fun summary past time h => ?_
  exact maintain_table_keeping hCond hr h count i

/-- A pass with two checks keeps it where the standbys are behind in one of them only. -/
theorem twice_gated_pass_keeping (hthreshold : 0 ≤ gate.thresholdSeconds)
    (hr : r.Performs statement) (already : Option (List TableKey)) (count i : Nat) :
    Keeping gate (LagsInOneCheck gate)
      (visitTable r count i table summary <|
        unlessHandled already table summary <|
        afterLagGate (some gate) policy table summary <|
        afterLagGate (some gate) policy table summary <|
        afterActiveVacuums policy table summary fun summary =>
        maintainTable r policy count i table summary) past time := by
  have hCond : Receding (LagsInOneCheck gate) := lags_in_one_check_receding
  refine visit_table_keeping hCond (fun past time hvisited => ?_) count i
  refine unless_handled_keeping hCond hvisited.within ?_
  refine after_lag_gate_keeping hCond (wp_first_check hthreshold hvisited)
    (fun _ h => h.within) fun past time hchecked => ?_
  refine after_lag_gate_keeping hCond (wp_second_check hthreshold hchecked)
    (fun _ h => h) fun past time hwithin => ?_
  refine after_active_vacuums_keeping hCond hwithin fun summary past time h => ?_
  exact maintain_table_keeping hCond hr h count i

end Pass

/-- The loop of a runner keeps the budget if every pass does. -/
theorem run_tables_keeping {phase : Phase} {body : PassBody}
    (hbody : ∀ i table summary past time, Keeping gate Cond (body i table summary) past time)
    (tables : List TableKey) : Keeping gate Cond (runTables phase body tables) [] time := by
  have hstart : (mark (.candidates phase tables) : RunM Unit).Only Op.Onward := by
    simp
  refine wp_seq (wp_of_only hstart keeps_begun (fun _ _ _ _ => trivial) rfl) ?_
  intro _ past time _
  have hloop : wp clock (Kept gate Cond) (Prog.sweep body 0 tables { total := tables.length })
      (fun _ _ _ => True ∨ True) (fun _ _ _ => True) past time := by
    refine wp_sweep (I := fun _ _ _ _ => True) (D := fun _ _ _ => True)
      (fun done table rest _ i summary past time _ => ?_) trivial
    refine wp_mono (hbody i table summary past time) (fun flow _ _ _ => ?_) fun _ _ _ h => h
    cases flow <;> trivial
  exact wp_mono hloop (fun _ _ _ _ => trivial) fun _ _ _ h => h

end Budget

/-! ## The runners -/

/-- The runner of a phase, with this gate. -/
inductive GatedRunner (gate : ReplicaLagGate) (policy : RunPolicy) :
    Phase → RunM OperationSummary → Prop where
  | neverVacuumed (tables : List TableInfo) (options : VacuumOptions) :
      GatedRunner gate policy .neverVacuumed
        (runVacuumNeverVacuumed tables policy options (some gate))
  | neverAnalyzed (tables : List TableInfo) :
      GatedRunner gate policy .neverAnalyzed (runAnalyzeNeverAnalyzed tables policy (some gate))
  | preventWraparound (tables : List FreezeTableInfo) (options : VacuumOptions) :
      GatedRunner gate policy .preventWraparound
        (runFreezeWraparound tables policy options (some gate))
  | preventBloat (tables : List BloatTableInfo) (handled : List TableKey)
      (options : VacuumOptions) :
      GatedRunner gate policy .preventBloat
        (runBloatVacuum tables policy handled options (some gate))
  | needsVacuum (tables : List NeedsVacuumTableInfo) (vacuumed : List TableKey)
      (options : VacuumOptions) :
      GatedRunner gate policy .needsVacuum
        (runNeedsVacuum tables policy vacuumed options (some gate))
  | vacuumOverdue (tables : List OverdueVacuumTableInfo) (vacuumed : List TableKey)
      (options : VacuumOptions) :
      GatedRunner gate policy .vacuumOverdue
        (runVacuumOverdue tables policy vacuumed options (some gate))
  | analyzeOverdue (tables : List OverdueAnalyzeTableInfo) (analyzed : List TableKey) :
      GatedRunner gate policy .analyzeOverdue
        (runAnalyzeOverdue tables policy analyzed (some gate))
  | alsoTables (tables : List ExplicitTable) (handled : List TableKey)
      (options : VacuumOptions) :
      GatedRunner gate policy .alsoTables
        (runAlsoTables tables policy handled options (some gate))

/-- What a run of a runner needs to keep the budget. -/
def Phase.NeedsForBudget (gate : ReplicaLagGate) : Phase → Trace clock → Prop
  | .alsoTables => LagsInOneCheck gate
  | _ => fun _ => True

/-- Seven runners keep the budget, and the eighth where its two checks do not both wait. -/
theorem gated_runner_keeping {gate : ReplicaLagGate} (hthreshold : 0 ≤ gate.thresholdSeconds)
    {policy : RunPolicy} {phase : Phase} {runner : RunM OperationSummary}
    (h : GatedRunner gate policy phase runner) (time : Nat) :
    Keeping gate (phase.NeedsForBudget gate) runner [] time := by
  have honce : ∀ {r : Runner} (statement : Statement) (phase : Phase), r.Performs statement →
      ∀ already count tables, Keeping gate (fun _ => True)
        (runTables phase (gatedPass r policy (some gate) already count) tables) [] time := by
    intro r statement phase hr already count tables
    refine run_tables_keeping (fun i table summary past time => ?_) tables
    exact gated_pass_keeping hthreshold hr already count i
  cases h with
  | neverVacuumed tables options =>
      exact honce (.vacuum options) _ ⟨rfl, reporting_admits_report.report_change⟩ _ _ _
  | neverAnalyzed tables =>
      exact honce .analyze _ ⟨rfl, Op.AdmitsReport.report_nothing⟩ _ _ _
  | preventWraparound tables options =>
      exact honce (.freeze options) _ ⟨rfl, Op.AdmitsReport.report_nothing⟩ _ _ _
  | preventBloat tables handled options =>
      exact honce (.vacuum options) _
        ⟨rfl, reporting_admits_report.report_change_or_blocker policy⟩ _ _ _
  | needsVacuum tables vacuumed options =>
      exact honce (.vacuum options) _
        ⟨rfl, reporting_admits_report.report_change_or_blocker policy⟩ _ _ _
  | vacuumOverdue tables vacuumed options =>
      exact honce (.vacuum options) _ ⟨rfl, Op.AdmitsReport.report_nothing⟩ _ _ _
  | analyzeOverdue tables analyzed =>
      exact honce .analyze _ ⟨rfl, Op.AdmitsReport.report_nothing⟩ _ _ _
  | alsoTables tables handled options =>
      -- the eighth runner goes through the gate twice
      refine run_tables_keeping (fun i table summary past time => ?_) _
      have hr : Runner.Performs ⟨"VACUUM ANALYZE", "VACUUM ANALYZE", "also-tables",
          vacuumAnalyzeTable options, reportDecrease⟩ (.vacuumAnalyze options) :=
        ⟨rfl, reporting_admits_report.report_decrease⟩
      exact twice_gated_pass_keeping hthreshold hr (some handled) _ i

/-- In every run of a runner, the gate's sleeps before a table's statement, or before the table is
skipped, stay within the budget of the table: always for seven of the runners, and for the one of
`--also-tables` as long as no table sees the standbys behind in both of its checks. -/
theorem table_lag_budget {gate : ReplicaLagGate} (hthreshold : 0 ≤ gate.thresholdSeconds)
    {policy : RunPolicy} {phase : Phase} {runner : RunM OperationSummary}
    (hrunner : GatedRunner gate policy phase runner) {start last : Nat} {tr : Trace clock}
    {q : RunM OperationSummary} (hexec : Exec clock start runner tr last q)
    (hone : phase = .alsoTables → ∀ past rest lead, tr = past ++ rest → leadIn past = some lead →
      LagsInOneCheck gate lead) :
    ∀ past rest lead, tr = past ++ rest → leadIn past = some lead →
      (sleeps lead).sum ≤ fromSecs gate.maxWaitSeconds := by
  intro past rest lead htr hlead
  have hneeds : phase.NeedsForBudget gate lead := by
    cases phase with
    | alsoTables => exact hone rfl past rest lead htr hlead
    | _ => trivial
  obtain ⟨haccepts, -⟩ := hexec.sound .refl (gated_runner_keeping hthreshold hrunner start)
  obtain rfl | ⟨before, m, rfl⟩ := past.eq_nil_or_concat
  · cases hlead
  rw [List.concat_eq_append] at hlead htr
  rw [htr, List.append_assoc, List.singleton_append] at haccepts
  exact haccepts.at lead hlead hneeds

/-! ### Two runs of `--also-tables` -/

/-- A standby that is half a minute behind but at the moments `recovered`. Every reading of its lag
takes a second. -/
def behindBut (recovered : List Nat) (time : Nat) : (op : Op) → op.Answer × Nat
  | .call .getCanReadReplicationStats => (.ok true, time)
  | .call .getReplicationLag =>
    (.ok [⟨"replica", "streaming", "async", some (if time ∈ recovered then 0 else 30)⟩],
      time + fromSecs 1)
  | .call (.findActiveVacuums _) => (.ok [], time)
  | .call (.getDeadTupleCount _) => (.ok 0, time)
  | .call (.maintain _ _) => (.ok (), time)
  | .call _ => (.error .closed, time)
  | .now => (time, time)
  | .sleepOrShutdown duration => (.slept, time + duration)
  | .isClosed | .shutdownRequested | .isRequested | .gateIsDisabled => (false, time)
  | .gateDisable | .gateAddWaited _ | .gateRecordSkip | .log _ | .mark _ => ((), time)

/-- The clock's answers, whichever moments the standby recovers at. -/
theorem behind_but_answers (recovered : List Nat) (time : Nat) (op : Op) :
    clock.Answers time op (behindBut recovered time op).1 (behindBut recovered time op).2 := by
  cases op with
  | call c =>
      cases c with
      | getReplicationLag => exact ⟨Nat.le_add_right _ _, trivial⟩
      | _ => exact ⟨Nat.le_refl _, trivial⟩
  | now => exact ⟨Nat.le_refl _, rfl⟩
  | sleepOrShutdown duration => exact ⟨Nat.le_add_right _ _, fun _ => Nat.le_refl _⟩
  | _ => exact ⟨Nat.le_refl _, trivial⟩

/-- One explicit table, with a budget of seven seconds. -/
def oneExplicitTable : RunM OperationSummary :=
  runAlsoTables [⟨"public", "t"⟩] ⟨false, false, false, false, 0, 0, 1⟩ [] default
    (some (.new 10 7))

/-- The standby recovers in the first check, and is not behind in the second. -/
def recoversOnce : Trace clock :=
  (oneExplicitTable.play clock (behindBut [fromSecs 6, fromSecs 7]) (0 : Nat)).1

/-- The table is maintained after five seconds, which is within the budget. -/
theorem recovers_once_in_budget :
    (∃ lead, leadIn (recoversOnce.take 20) = some lead ∧ sleeps lead = [fromSecs 5]) ∧
      ∀ past rest lead, recoversOnce = past ++ rest → leadIn past = some lead →
        (sleeps lead).sum ≤ fromSecs 7 := by
  have hexec := Prog.exec_play (W := clock) (behindBut [fromSecs 6, fromSecs 7])
    (behind_but_answers _) oneExplicitTable (0 : Nat)
  have hall : ∀ n ∈ List.range (recoversOnce.length + 1), ∀ lead ∈ leadIn (recoversOnce.take n),
      LagsInOneCheck (.new 10 7) lead := by decide
  have hone : ∀ past rest lead, recoversOnce = past ++ rest → leadIn past = some lead →
      LagsInOneCheck (.new 10 7) lead := by
    intro past rest lead htr hlead
    refine hall past.length ?_ lead ?_
    · rw [htr, List.length_append]
      exact List.mem_range.2 (by omega)
    · rw [htr, List.take_left]
      exact hlead
  have hthreshold : 0 ≤ (ReplicaLagGate.new 10 7).thresholdSeconds := by decide
  have hbudget := table_lag_budget hthreshold (.alsoTables _ _ _) hexec fun _ => hone
  exact ⟨by decide, hbudget⟩

/-- The standby recovers in both checks, each time after a wait. -/
def recoversTwice : Trace clock :=
  (oneExplicitTable.play clock (behindBut [fromSecs 6, fromSecs 13]) (0 : Nat)).1

/-- Each check waits five seconds, and the table ten. -/
theorem waits_twice_the_budget :
    ¬∀ (gate : ReplicaLagGate) (policy : RunPolicy) (phase : Phase)
        (runner : RunM OperationSummary), 0 ≤ gate.thresholdSeconds →
      GatedRunner gate policy phase runner → ∀ start last tr q,
        Exec clock start runner tr last q → ∀ past rest lead, tr = past ++ rest →
          leadIn past = some lead → (sleeps lead).sum ≤ fromSecs gate.maxWaitSeconds := by
  intro hclaim
  have hexec := Prog.exec_play (W := clock) (behindBut [fromSecs 6, fromSecs 13])
    (behind_but_answers _) oneExplicitTable (0 : Nat)
  have hsum : ∃ n, ∃ lead, leadIn (recoversTwice.take n) = some lead ∧
      (sleeps lead).sum = fromSecs 10 := ⟨27, by decide⟩
  obtain ⟨n, lead, hlead, hten⟩ := hsum
  have hbudget := hclaim (.new 10 7) _ .alsoTables _ (by decide) (.alsoTables _ _ _) _ _ _ _ hexec
    (recoversTwice.take n) (recoversTwice.drop n) lead (List.take_append_drop n _).symm hlead
  rw [hten] at hbudget
  exact absurd hbudget (by decide)

end PgMaintainer
