import PgMaintainer.Interaction.Refine
import PgMaintainer.Properties.Attribution
import PgMaintainer.Properties.SchemaLock
import PgMaintainer.Properties.SettingsInForce

/-!
# Several runs against one server

Whole runs, each from its connection to its exit code, with any interleaving of their operations on
one server, which returns only rows that meet the WHERE clause of the query. A run at work has the
lock of the list of schemas that its set-up has resolved, and touches tables of these schemas only.
So two of them are never both at work on lists with one lock key.
-/

namespace PgMaintainer

open Interaction

variable {ι : Type} [DecidableEq ι]

/-- The server: its locks, and rows that meet the WHERE clause of the query. -/
abbrev truthfulServer (hashtext : String → Int32) : Common session ι :=
  (lockServer hashtext).restrict Op.Truthful

/-- No lock is taken, and each run is about to start. -/
def aboutToRun (hashtext : String → Int32) (settings : ι → RunSettings) :
    Config (truthfulServer (ι := ι) hashtext) Empty Nat where
  state _ := none
  left i := some (main (settings i))

/-- A run is about to do this piece of work. -/
def AtWork {hashtext : String → Int32} (c : Config (truthfulServer (ι := ι) hashtext) Empty Nat)
    (i : ι) (work : Call) : Prop :=
  work.Works ∧ ∃ next, c.left i = some (.perform (.call work) next)

/-- A run is about to do this piece of work on these schemas: they are what its own set-up has
resolved, it has their lock, and what it asks for and touches is in them. -/
structure WorksOn {hashtext : String → Int32} (settings : RunSettings)
    (c : Config (truthfulServer (ι := ι) hashtext) Empty Nat) (i : ι) (work : Call)
    (schemas : List String) : Prop where
  run : ∃ (opening middle : Trace ((truthfulServer (ι := ι) hashtext).world i))
    (ready : Int32 → Option ι) (plan : Plan) (next : _ → Prog session Empty Nat),
    c.left i = some (.perform (.call work) next) ∧
    Exec ((truthfulServer hashtext).world i) (fun _ => none) (main settings) (opening ++ middle)
      c.state (.perform (.call work) next) ∧
    Exec ((truthfulServer hashtext).world i) (fun _ => none) (setup settings) opening ready
      (.pure plan) ∧
    plan.schemas = schemas ∧ RunSchemas settings opening schemas
  locked : c.state (schemaLockId hashtext schemas) = some i
  within : work.Within schemas
  table : ∀ table, work.table? = some table → table.1 ∈ schemas

section Found

variable {W : World session} {plan : Plan} {opening past : Trace W}

/-- The rows of a truthful answer are about tables of the schemas of its query. -/
theorem Returned.matches {c : Call} {row : c.Row} (h : Returned past c row)
    (htrue : ∀ m ∈ past, m.op.Truthful m.answer) : c.RowsMatch row := by
  obtain ⟨state, hm⟩ := h
  exact htrue _ hm

/-- What phase 5 has found is in the schemas of the plan. -/
theorem needs_vacuum_in_schemas {found : List NeedsVacuumTableInfo}
    (hfound : Phase.needsVacuum.FoundIn plan opening past found)
    (htrue : ∀ m ∈ past, m.op.Truthful m.answer) :
    ∀ table ∈ found.map NeedsVacuumTableInfo.key, table.1 ∈ plan.schemas := by
  obtain ⟨facts, cap, classic, maxThreshold, -, -, hclassic, hmore, rfl⟩ := hfound
  have hfirst : ∀ t ∈ classic, t.schemaName ∈ plan.schemas := fun t ht =>
    (hclassic.matches htrue t ht).1
  have hsecond : ∀ t ∈ maxThreshold, t.schemaName ∈ plan.schemas := by
    intro t ht
    rcases hmore with hreturned | ⟨-, rfl⟩
    · exact (hreturned.matches htrue t ht).1
    · cases ht
  refine forall_mem_keys fun t ht => ?_
  rcases mem_merge _ _ _ _ ht with ht | ht
  · obtain ⟨row, hrow, rfl⟩ := List.mem_map.1 ht
    exact hfirst row hrow
  · obtain ⟨row, hrow, rfl⟩ := List.mem_map.1 ht
    exact hsecond row hrow

/-- So is what any phase has found. -/
theorem found_in_schemas (phase : Phase) {found : phase.Found}
    (hfound : phase.FoundIn plan opening past found)
    (htrue : ∀ m ∈ past, m.op.Truthful m.answer) :
    ∀ table ∈ phase.keys plan found, table.1 ∈ plan.schemas := by
  cases phase with
  | neverVacuumed => exact forall_mem_keys fun t ht => (hfound.matches htrue t ht).1
  | neverAnalyzed => exact forall_mem_keys fun t ht => (hfound.matches htrue t ht).1
  | preventWraparound => exact forall_mem_keys fun t ht => (hfound.matches htrue t ht).1
  | preventBloat => exact forall_mem_keys fun t ht => (hfound.matches htrue t ht).1
  | needsVacuum => exact needs_vacuum_in_schemas hfound htrue
  | vacuumOverdue => exact forall_mem_keys fun t ht => (hfound.matches htrue t ht).1
  | analyzeOverdue => exact forall_mem_keys fun t ht => (hfound.matches htrue t ht).1
  | alsoTables =>
      obtain ⟨existing, -, hlisted⟩ := hfound
      refine forall_mem_keys fun t ht => ?_
      rw [hlisted] at ht
      have hscope := (List.mem_filter.1 (List.mem_of_mem_filter ht)).2
      simp only [inScope, Bool.and_eq_true, List.contains_iff_mem] at hscope
      exact hscope.2

end Found

section Run

variable {hashtext : String → Int32} {i : ι} {settings : RunSettings}
  {past : Trace ((lockServer hashtext).world i)} {locks : Int32 → Option ι}

/-- No operation of a run, and none of another, takes a lock from it. -/
theorem lock_kept (id : Int32) :
    ((lockServer hashtext).world i).Keeps (fun _ _ => True) (fun _ => True)
      fun _ locks => locks id = some i := by
  intro past locks now hlocked hdrifts op answer after _ hanswer
  refine ⟨trivial, ?_⟩
  have hnow := locked_drifts hdrifts hlocked
  obtain rfl | ⟨taken, _, rfl⟩ := locks_after hanswer
  · exact hnow
  · by_cases hid : id = taken
    · rw [hid]
      exact Function.update_self ..
    · exact (Function.update_of_ne hid ..).trans hnow

/-- A part of a run that has its lock keeps it. -/
theorem wp_lock_kept {α : Type} {p : RunM α} {id : Int32} (hlocked : locks id = some i) :
    wp ((lockServer hashtext).world i) (fun _ _ => True) p (fun _ _ locks => locks id = some i)
      (fun _ _ _ => True) past locks :=
  wp_of_only (Prog.only_true p) (lock_kept id) (fun _ _ _ _ => trivial) hlocked

/-- Behind its start a run has the lock of the schemas of its plan. -/
theorem setup_locks :
    wp ((lockServer hashtext).world i) (fun _ _ => True) (setup settings)
      (fun plan _ locks => locks (schemaLockId hashtext plan.schemas) = some i)
      (fun _ _ _ => True) past locks := by
  refine wp_seq wp_true fun _ past locks _ => ?_
  refine wp_seq wp_true fun _ past locks _ => ?_
  refine wp_seq wp_true fun schemas past locks _ => ?_
  refine wp_seq (wp_withContext.2 (wp_try_acquire schemas)) fun _ past locks hlocked => ?_
  refine wp_seq (wp_lock_kept hlocked) fun _ past locks hlocked => ?_
  refine wp_seq (wp_lock_kept hlocked) fun _ past locks hlocked => ?_
  refine wp_seq (wp_lock_kept hlocked) fun _ past locks hlocked => ?_
  refine wp_seq (wp_lock_kept hlocked) fun _ past locks hlocked => ?_
  refine wp_seq (wp_lock_kept hlocked) fun _ past locks hlocked => ?_
  exact wp_seq (wp_lock_kept hlocked) fun _ _ _ hlocked => hlocked

end Run

section Work

variable {hashtext : String → Int32} {i : ι} {settings : RunSettings} {plan : Plan}
  {opening : Trace ((truthfulServer hashtext).world i)} {locks : Int32 → Option ι}

/-- No step of the others takes a lock from a run. -/
theorem truthful_locked_drifts {before after : Int32 → Option ι} {id : Int32}
    (h : ((truthfulServer hashtext).world i).Drifts before after) (hlocked : before id = some i) :
    after id = some i :=
  locked_drifts (((lockServer hashtext).restrict_refines Op.Truthful i).drifts h) hlocked

/-- Behind its start a run has the lock of the schemas of its plan. -/
theorem locked_behind_setup {ready : Int32 → Option ι}
    (h : Exec ((truthfulServer hashtext).world i) locks (setup settings) opening ready
      (.pure plan)) : ready (schemaLockId hashtext plan.schemas) = some i := by
  have hexec := ((lockServer hashtext).restrict_refines Op.Truthful i).exec h
  obtain ⟨before, hdrifts, hlocked⟩ := hexec.returned setup_locks
  exact locked_drifts hdrifts hlocked

/-- A step of the phases is one that the plan allows, under the lock of its schemas, and in a loop
over found tables if it is about a table. -/
def WorksUnderLock (hashtext : String → Int32) (i : ι) (plan : Plan)
    (opening past : Trace ((truthfulServer (ι := ι) hashtext).world i))
    (m : Moment ((truthfulServer (ι := ι) hashtext).world i)) : Prop :=
  Attributed plan opening (fun job tables _ m => m.op.OfTables job tables) past m ∧
    m.op.OfPlan plan ∧ m.state (schemaLockId hashtext plan.schemas) = some i

/-- The phases keep the lock. -/
theorem run_phases_under_lock (hlisted : plan.alsoTables ≠ [] → plan.ListedIn opening)
    (hlocked : locks (schemaLockId hashtext plan.schemas) = some i) :
    wp ((truthfulServer hashtext).world i) (WorksUnderLock hashtext i plan opening)
      (runPhases plan) (fun _ _ _ => True) (fun _ _ _ => True) [] locks := by
  have hplan : wp ((truthfulServer hashtext).world i)
      (fun _ m => m.op.OfPlan plan ∧ m.state (schemaLockId hashtext plan.schemas) = some i)
      (runPhases plan) (fun _ _ locks => locks (schemaLockId hashtext plan.schemas) = some i)
      (fun _ _ _ => True) [] locks := by
    refine wp_of_only (run_phases_of_plan plan) ?_ (fun _ _ _ _ => trivial) hlocked
    intro past locks now hlocked hdrifts op answer after hop hanswer
    have hnow := truthful_locked_drifts hdrifts hlocked
    refine ⟨⟨hop, hnow⟩, ?_⟩
    exact (lock_kept _ [] now now hnow .refl op answer after trivial hanswer.1).2
  refine wp_mono (wp_and_safe (run_phases_attributed hlisted fun phase pass tables state hpass => ?_)
    (wp_mono hplan (fun _ _ _ _ => trivial) fun _ _ _ _ => trivial)) (fun _ _ _ h => h)
    fun _ _ _ h => h
  exact wp_safe (hpass.sweep_of_tables tables _) wp_true fun _ _ h => h

end Work

section Runs

variable {hashtext : String → Int32} {settings : ι → RunSettings} {i j : ι}
  {c : Config (truthfulServer (ι := ι) hashtext) Empty Nat} {work : Call}

/-- A run at work does it on the schemas that it has resolved, under their lock. -/
theorem works_on (h : (aboutToRun hashtext settings).Reaches c) (hi : AtWork c i work) :
    ∃ schemas, WorksOn (settings i) c i work schemas := by
  obtain ⟨hworks, next, hleft⟩ := hi
  obtain ⟨p, tr, hp, hexec⟩ := h.exec hleft
  obtain rfl := Option.some.inj hp
  -- whatever the server answers, the work is safe; that it fails is always possible
  have hfails : ((truthfulServer hashtext).world i).Answers c.state (.call work)
      (.error .closed) c.state := by
    refine ⟨?_, trivial⟩
    cases work <;> first | rfl | exact hworks.elim
  have hmore := hexec.trans (.act hfails (.stop ..))
  have hstaged := hmore.safe (main_staged fun plan opening ready hsetup => by
    obtain ⟨_, _, hlisted⟩ := hsetup.returned (setup_lists (settings i))
    exact run_phases_under_lock hlisted (locked_behind_setup hsetup))
  obtain hopens | ⟨plan, opening, middle, ready, rfl, hsetup, hattributed, hplan, hlocked⟩ := hstaged
  · exact (Call.Opens.idle hopens hworks).elim
  have htrue : ∀ m ∈ opening ++ middle, m.op.Truthful m.answer := by
    intro m hm
    obtain ⟨_, hanswer⟩ := hexec.answered hm
    exact hanswer.2
  have hrows : MatchingRows ((truthfulServer (ι := ι) hashtext).world i) := fun _ _ _ _ h => h.2
  obtain ⟨_, _, hok⟩ := hsetup.returned (wp_setup hrows)
  refine ⟨plan.schemas, ⟨opening, middle, ready, plan, next, hleft, hexec, hsetup, rfl,
    hok.schemas⟩, hlocked, allows_within hplan, fun table htable => ?_⟩
  obtain htableless | ⟨phase, found, front, start, rest, rfl, -, -, hfound, hof⟩ := hattributed
  · cases htableless.symm.trans htable
  · refine found_in_schemas phase hfound (fun m hm => htrue m ?_) table (hof.mem htable)
    exact List.mem_append_right _ (List.mem_append_left _ hm)

/-- Two runs that are both at work, each on the schemas that it has resolved and under their lock,
have lists of schemas with different lock keys. -/
theorem runs_at_work_have_different_keys {other : Call}
    (h : (aboutToRun hashtext settings).Reaches c) (hne : i ≠ j) (hi : AtWork c i work)
    (hj : AtWork c j other) :
    ∃ a b, WorksOn (settings i) c i work a ∧ WorksOn (settings j) c j other b ∧
      schemaLockId hashtext a ≠ schemaLockId hashtext b := by
  obtain ⟨a, ha⟩ := works_on h hi
  obtain ⟨b, hb⟩ := works_on h hj
  refine ⟨a, b, ha, hb, fun hkeys => ?_⟩
  have hlocked := ha.locked
  rw [hkeys, hb.locked] at hlocked
  exact hne (Option.some.inj hlocked).symm

end Runs

/-- Two runs, each on a schema of its own. -/
def twoSchemas (i : Bool) : RunSettings :=
  { defaultSettings [.neverVacuumed] [] with schema := some (if i then "audit" else "public") }

/-- How a run gets on while the other rests: it gets a lock that it may have, each schema has one
table that was never vacuumed, and everything else succeeds. -/
def lockScript (i : Bool) (locks : Int32 → Option Bool) :
    (op : Op) → op.Answer × (Int32 → Option Bool)
  | .call (.hashtext text) => (.ok (lengthHash text), locks)
  | .call (.tryAdvisoryLock id) =>
    if locks id = none ∨ locks id = some i then (.ok true, Function.update locks id (some i))
    else (.ok false, locks)
  | .call (.findNeverVacuumed query) =>
    (.ok (if query.scope = .all none (2 ^ 63 - 1) then
      query.schemas.map fun schema => ⟨schema, "t", 10, 0, 8192, none⟩ else []), locks)
  | op => (Server.answer {} op, locks)

/-- The script is played by the rules of the lock. -/
theorem lock_script_answers (i : Bool) (locks : Int32 → Option Bool) (op : Op) :
    (truthfulServer lengthHash).Answers i locks op (lockScript i locks op).1
      (lockScript i locks op).2 := by
  unfold lockScript
  split
  · refine ⟨⟨rfl, fun id hid => ?_⟩, trivial⟩
    exact (Except.ok.inj hid).symm
  · split
    · next hmay => exact ⟨.inl ⟨rfl, hmay, rfl⟩, trivial⟩
    · next hmay => exact ⟨.inr (.inl ⟨rfl, hmay, rfl⟩), trivial⟩
  · refine ⟨rfl, ?_⟩
    simp only [Op.Truthful, Call.RowsMatch]
    split
    · next hscope =>
      intro t ht
      obtain ⟨schema, hschema, rfl⟩ := List.mem_map.1 ht
      exact ⟨hschema, fun name hname => by cases hscope.symm.trans hname⟩
    · exact fun t ht => absurd ht List.not_mem_nil
  · cases op with
    | call c =>
        refine ⟨by cases c <;> first | rfl | simp_all, ?_⟩
        cases c <;> simp [Op.Truthful, Call.RowsMatch, Server.answer, Server.row]
    | _ => exact ⟨rfl, trivial⟩

/-- What a run does while the other rests. -/
def aloneTrace (i : Bool) (locks : Int32 → Option Bool) :
    Trace ((truthfulServer (ι := Bool) lengthHash).alone i) :=
  ((main (twoSchemas i)).play ((truthfulServer lengthHash).alone i) (lockScript i) locks).1

/-- The locks before one of its operations. -/
def locksAt (i : Bool) (n : Nat) (locks : Int32 → Option Bool) : Int32 → Option Bool :=
  ((aloneTrace i locks)[n]?.map (·.state)).getD locks

/-- A run gets to each of its operations while the other rests. -/
theorem reaches_operation {c : Config (truthfulServer (ι := Bool) lengthHash) Empty Nat} {i : Bool}
    {n : Nat} {op : Op} (hleft : c.left i = some (main (twoSchemas i)))
    (hop : (aloneTrace i c.state)[n]?.map (·.op) = some op) :
    ∃ next, c.Reaches (c.set i (some (.perform op next)) (locksAt i n c.state)) := by
  obtain ⟨m, hm, rfl⟩ := Option.map_eq_some_iff.1 hop
  have hplay := Prog.exec_play (W := (truthfulServer lengthHash).alone i) (lockScript i)
    (lock_script_answers i) (main (twoSchemas i)) c.state
  have hsplit : aloneTrace i c.state = _ := trace_split hm
  unfold aloneTrace at hsplit
  rw [hsplit] at hplay
  obtain ⟨next, hexec⟩ := hplay.cut
  have hreaches := Config.reaches_exec hexec hleft rfl
  have hstate : locksAt i n c.state = m.state := by
    unfold locksAt
    rw [hm]
    rfl
  rw [hstate]
  exact ⟨next, hreaches⟩

/-- The statement on the only table of a schema. -/
def onlyStatement (schema : String) : Call :=
  .maintain (.vacuum ⟨true, false, false, none, none⟩) (schema, "t")

/-- Runs on two schemas may both be at work, and then their lists have different keys. -/
theorem two_schemas_at_work : ∃ c a b, (aboutToRun lengthHash twoSchemas).Reaches c ∧
    AtWork c false (onlyStatement "public") ∧ AtWork c true (onlyStatement "audit") ∧
    WorksOn (twoSchemas false) c false (onlyStatement "public") a ∧
    WorksOn (twoSchemas true) c true (onlyStatement "audit") b ∧
    schemaLockId lengthHash a ≠ schemaLockId lengthHash b := by
  have hne : false ≠ true := by decide
  have hfirst : (aloneTrace false fun _ => none)[31]?.map (·.op) =
      some (.call (onlyStatement "public")) := by
    decide
  obtain ⟨next, hfirst⟩ := reaches_operation (c := aboutToRun lengthHash twoSchemas) rfl hfirst
  -- the second run stands where it stood
  have hwaits : ((aboutToRun lengthHash twoSchemas).set false
      (some (.perform (.call (onlyStatement "public")) next)) (locksAt false 31 fun _ => none)).left
        true = some (main (twoSchemas true)) := Config.set_left_of_ne hne.symm
  have hsecond : (aloneTrace true (locksAt false 31 fun _ => none))[31]?.map (·.op) =
      some (.call (onlyStatement "audit")) := by
    decide
  obtain ⟨other, hsecond⟩ := reaches_operation hwaits hsecond
  have hreaches := hfirst.trans hsecond
  generalize hd : Config.set _ true _ _ = d at hreaches
  have hi : AtWork d false (onlyStatement "public") := by
    rw [← hd]
    exact ⟨trivial, next, (Config.set_left_of_ne hne).trans Config.set_left⟩
  have hj : AtWork d true (onlyStatement "audit") := by
    rw [← hd]
    exact ⟨trivial, other, Config.set_left⟩
  obtain ⟨a, b, ha, hb, hkeys⟩ := runs_at_work_have_different_keys hreaches hne hi hj
  exact ⟨d, a, b, hreaches, hi, hj, ha, hb, hkeys⟩

end PgMaintainer
