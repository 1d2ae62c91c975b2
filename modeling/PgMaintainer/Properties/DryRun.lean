import PgMaintainer.Run.History
import PgMaintainer.Run.Server

/-!
# What a dry run writes

The runners, the gates and the logbook's rows honour the dry run. The set-up of the logbook does
not: it comes before the first phase and knows nothing of the flag. So a dry run writes exactly
if the server answers the query whether the logbook's schema exists.
-/

namespace PgMaintainer

open Interaction

section Footprint

variable {policy : RunPolicy} {φ : Op → Prop}

/-- What the dry run of a runner performs: `φ` need admit no statement. -/
theorem dry_runner_only (hdry : policy.dryRun = true) (hφ : Op.AdmitsPass φ policy.dryRun)
    (hcandidates : ∀ phase tables, φ (.mark (.candidates phase tables))) {phase : Phase}
    {statement : Statement} {already : Option (List TableKey)} {tables : List TableKey}
    {runner : RunM OperationSummary}
    (h : IsRunner policy phase statement already tables runner) : runner.Only φ := by
  obtain ⟨pass, hpass⟩ := h
  refine Prog.Only.bind (by simp [hcandidates]) fun _ => ?_
  refine Prog.only_sweep fun i table summary _ => hφ.pass hpass (fun _ r count i summary _ => ?_) i
  simp only [maintainTable, hdry, if_true]
  exact hφ.only (by simp [Op.Inert])

end Footprint

variable {W : World session}

/-- The operation is a statement that writes. -/
def Op.Writes : Op → Prop
  | .call c => c.Writes
  | _ => False

/-- Whether the logbook's schema exists, as a step of a trace was told. -/
def schemaFound (m : Moment W) : Option Bool :=
  match m with
  | ⟨_, .call (.schemaExists _), .ok found⟩ => some found
  | _ => none

/-- The server answered the query whether the logbook's schema exists. -/
def Answered (m : Moment W) : Prop := (schemaFound m).isSome = true

instance (m : Moment W) : Decidable (Answered m) :=
  inferInstanceAs (Decidable (_ = true))

/-- Operations of a dry run, apart from the set-up of the logbook. -/
def Op.Previews : Op → Prop
  | .call (.schemaExists _) => False
  | op => ¬op.Writes

/-- What writes nothing may stand in a dry run. -/
theorem Op.Inert.previews {op : Op} (h : op.Inert) : op.Previews := by
  unfold Op.Inert at h
  unfold Op.Previews
  split at h <;> simp_all [Op.Writes, Call.Writes]

/-- The answer to the query belongs to the set-up of the logbook. -/
theorem Answered.not_previews {m : Moment W} (h : Answered m) : ¬m.op.Previews := by
  unfold Answered schemaFound at h
  split at h
  · exact id
  · simp at h

/-- A pass of a dry run previews. -/
theorem previews_admits : Op.AdmitsPass Op.Previews true where
  inert _ h := h.previews
  visit _ := id
  tally _ _ := id
  terminate := nofun

/-- The phases of a dry run. -/
theorem run_phases_previews {plan : Plan} (hdry : plan.policy.dryRun = true) :
    (runPhases plan).Only Op.Previews := by
  refine (run_in_order_only (fun _ h => h.previews) ?_ (phases_are_phases plan) _ _).bind
    fun total => ?_
  · intro phase statement already tables runner h
    refine dry_runner_only hdry ?_ (fun _ _ => id) h
    exact hdry ▸ previews_admits
  · simp [finish, verdict, Op.Previews, Op.Writes]

section Wp

variable {past : Trace W} {state : W.State}

/-- Nothing is written before the query is answered. -/
def Unprovoked (past : Trace W) (m : Moment W) : Prop := m.op.Writes → ∃ n ∈ past, Answered n

/-- Once it was answered, something has been written. -/
def WrittenIfAnswered (past : Trace W) (_ : W.State) : Prop :=
  (∃ m ∈ past, Answered m) → ∃ m ∈ past, m.op.Writes

/-- What previews writes nothing. -/
theorem keeps_previews : W.Keeps Unprovoked Op.Previews WrittenIfAnswered := by
  intro past state now h _ op answer after hop _
  refine ⟨fun hwrites => ?_, ?_⟩
  · unfold Op.Previews at hop
    split at hop
    · exact hop.elim
    · exact (hop hwrites).elim
  · rintro ⟨m, hm, hanswered⟩
    rcases List.mem_append.1 hm with hm | hm
    · obtain ⟨n, hn, hwrites⟩ := h ⟨m, hm, hanswered⟩
      exact ⟨n, by simp [hn], hwrites⟩
    · obtain rfl := List.mem_singleton.1 hm
      exact (hanswered.not_previews hop).elim

/-- The query was answered, and something has been written. -/
abbrev WritingBegun (past : Trace W) (_ : W.State) : Prop :=
  (∃ m ∈ past, Answered m) ∧ ∃ m ∈ past, m.op.Writes

/-- After the first write any other is provoked. -/
theorem keeps_writing_begun : W.Keeps Unprovoked (fun _ => True) WritingBegun := by
  rintro past state now ⟨⟨m, hm, hanswered⟩, ⟨n, hn, hwrites⟩⟩ _ op answer after _ _
  exact ⟨fun _ => ⟨m, hm, hanswered⟩, ⟨m, by simp [hm], hanswered⟩, ⟨n, by simp [hn], hwrites⟩⟩

/-- The first statement after the answer. -/
theorem first_write {c : Call} (hc : c.Writes) (text : String) (h : ∃ m ∈ past, Answered m) :
    wp W Unprovoked (queryContext c text) (fun _ => WritingBegun) (fun _ => WrittenIfAnswered)
      past state := by
  obtain ⟨m, hm, hanswered⟩ := h
  refine wp_queryContext.2 fun now _ answer after _ => ⟨fun _ => ⟨m, hm, hanswered⟩, ?_⟩
  have hbegun : WritingBegun (past ++ [⟨now, .call c, answer⟩]) after :=
    ⟨⟨m, by simp [hm], hanswered⟩, ⟨now, .call c, answer⟩, by simp, hc⟩
  cases answer with
  | ok row => exact hbegun
  | error err => exact fun _ => hbegun.2

/-- The set-up of the logbook writes if the query is answered. -/
theorem ensure_logbook_schema_writes (h : WrittenIfAnswered past state) :
    wp W Unprovoked ensureLogbookSchema (fun _ => WrittenIfAnswered)
      (fun _ => WrittenIfAnswered) past state := by
  have hlater : ∀ {α : Type} {p : RunM α} {past state}, WritingBegun past state →
      wp W Unprovoked p (fun _ => WrittenIfAnswered) (fun _ => WrittenIfAnswered) past state := by
    intro α p past state hbegun
    refine wp_mono
      (wp_of_only (φ := fun _ => True) ?_ keeps_writing_begun (fun _ _ _ h => h) hbegun)
      (fun _ _ _ h _ => h.2) fun _ _ _ h _ => h.2
    exact Prog.only_true p
  refine wp_seq (wp_withContext.2 (wp_queryContext.2 fun now _ answer after _ => ?_))
    (R := fun _ past _ => ∃ m ∈ past, Answered m) ?_
  · refine ⟨fun hwrites => hwrites.elim, ?_⟩
    cases answer with
    | ok found => exact ⟨_, List.mem_append_right _ (List.mem_singleton_self _), rfl⟩
    | error err =>
        rintro ⟨m, hm, hanswered⟩
        rcases List.mem_append.1 hm with hm | hm
        · obtain ⟨n, hn, hwrites⟩ := h ⟨m, hm, hanswered⟩
          exact ⟨n, by simp [hn], hwrites⟩
        · obtain rfl := List.mem_singleton.1 hm
          simp [Answered, schemaFound] at hanswered
  · intro found past state hanswered
    -- with the schema or without it, the next statement writes
    refine wp_ite.2 ⟨fun _ => ?_, fun _ => ?_⟩
    · exact wp_seq (first_write (c := .createSchema) trivial _ hanswered) fun _ _ _ h => hlater h
    · exact wp_seq (first_write (c := .createLogbookTable) trivial _ hanswered)
        fun _ _ _ h => hlater h

/-- The rest of the start of a run is inert. -/
theorem setup_writes (settings : RunSettings) (h : WrittenIfAnswered past state) :
    wp W Unprovoked (setup settings) (fun _ => WrittenIfAnswered) (fun _ => WrittenIfAnswered)
      past state := by
  have hinert : ∀ {α β : Type} {p : RunM α} {f : α → RunM β} {past state}, p.Only Op.Inert →
      WrittenIfAnswered past state →
      (∀ value past state, WrittenIfAnswered past state →
        wp W Unprovoked (f value) (fun _ => WrittenIfAnswered) (fun _ => WrittenIfAnswered)
          past state) →
      wp W Unprovoked (p >>= f) (fun _ => WrittenIfAnswered) (fun _ => WrittenIfAnswered)
        past state := fun hp h hf =>
    wp_seq (wp_of_only hp (keeps_previews.mono fun _ => Op.Inert.previews) (fun _ _ _ h => h) h) hf
  refine hinert (only_withContext (connect_inert _)) h fun _ _ _ h => ?_
  refine hinert (by simp [Op.Inert, Call.Writes]) h fun _ _ _ h => ?_
  refine hinert (resolve_schemas_inert settings) h fun schemas _ _ h => ?_
  refine hinert (only_withContext (try_acquire_schema_lock_inert schemas)) h fun _ _ _ h => ?_
  refine wp_seq_attempt (ensure_logbook_schema_writes h) (fun _ _ _ h => ?_) fun _ _ _ h => ?_
  all_goals
    refine hinert (apply_session_settings_inert settings) h fun _ _ _ h => ?_
    refine hinert (effective_wraparound_min_age_inert settings) h fun _ _ _ h => ?_
    refine hinert (open_lag_gate_inert settings) h fun _ _ _ h => ?_
    refine hinert (check_xmin_horizon_inert settings) h fun _ _ _ h => ?_
    exact hinert (only_withContext (resolve_explicit_tables_inert ..)) h fun _ _ _ h => h

/-- A dry run, from its start to its end. -/
theorem dry_run_writes {settings : RunSettings} (hdry : settings.dryRun = true) :
    wp W Unprovoked (run settings) (fun _ => WrittenIfAnswered) (fun _ => WrittenIfAnswered)
      [] state := by
  have hsettings : wp W (fun _ _ => True) (setup settings)
      (fun plan _ _ => plan.settings = settings) (fun _ _ _ => True) [] state :=
    wp_mono (wp_of_all (setup_all settings) (I := fun _ _ => True)
      (fun _ _ _ _ _ _ _ _ _ _ => ⟨trivial, trivial⟩) trivial) (fun _ _ _ h => h.1)
      fun _ _ _ h => h.1
  have hsetup : wp W Unprovoked (setup settings) (fun _ => WrittenIfAnswered)
      (fun _ => WrittenIfAnswered) [] state :=
    setup_writes settings (by
      rintro ⟨m, hm, _⟩
      simp at hm)
  refine wp_seq (wp_also hsetup hsettings) ?_
  rintro plan past state ⟨h, rfl⟩
  exact wp_of_only (run_phases_previews hdry) keeps_previews (fun _ _ _ h => h) h

end Wp

/-- A dry run writes nothing before the server has answered the query whether the logbook's schema
exists, and a dry run that ended wrote nothing if and only if the server never answered it. -/
theorem dry_run_writes_iff_answered {settings : RunSettings} (hdry : settings.dryRun = true)
    {tr : Trace calm} {q : RunM Nat} (h : Exec calm () (run settings) tr () q) :
    (∀ before m after, tr = before ++ m :: after → m.op.Writes → ∃ n ∈ before, Answered n) ∧
      ∀ result, q = .ofExcept result →
        ((∀ m ∈ tr, ¬m.op.Writes) ↔ ∀ m ∈ tr, ¬Answered m) := by
  have hwp : wp calm Unprovoked (run settings) (fun _ => WrittenIfAnswered)
      (fun _ => WrittenIfAnswered) [] () := dry_run_writes hdry
  have hbefore : ∀ before m after, tr = before ++ m :: after → m.op.Writes →
      ∃ n ∈ before, Answered n := by
    rintro before m after rfl
    exact h.safe hwp
  refine ⟨hbefore, ?_⟩
  rintro result rfl
  have hend : WrittenIfAnswered tr () := by
    cases result with
    | ok code =>
        obtain ⟨_, _, hend⟩ := h.returned hwp
        exact hend
    | error err =>
        obtain ⟨_, _, hend⟩ := h.failed hwp
        exact hend
  constructor
  · intro hwrites m hm hanswered
    obtain ⟨n, hn, h⟩ := hend ⟨m, hm, hanswered⟩
    exact hwrites n hn h
  · intro hanswered m hm hwrites
    obtain ⟨before, after, rfl⟩ := List.append_of_mem hm
    obtain ⟨n, hn, h⟩ := hbefore before m after rfl hwrites
    exact hanswered n (by simp [hn]) h

/-- A dry run of the never-vacuumed mode. -/
def drySettings : RunSettings := { defaultSettings [.neverVacuumed] [] with dryRun := true }

/-- A server that does not let its schemas be read. -/
def schemaless : (op : Op) → op.Answer
  | .call (.schemaExists _) => .error (.db "42501" "permission denied")
  | op => oneTable.answer op

/-- The server neither loses the connection nor hears of a shutdown. -/
theorem schemaless_undisturbed (op : Op) : op.Undisturbed (schemaless op) := by
  unfold schemaless
  split
  · trivial
  · exact oneTable.answer_undisturbed _

/-- Without an answer a dry run goes through its candidates and writes nothing. -/
theorem unanswered_dry_run_writes_nothing : ∃ tr : Trace calm,
    (∀ m ∈ tr, ¬m.op.Writes) ∧ ∃ m ∈ tr, m.op = .log (.wouldRun "VACUUM" ("public", "t")) := by
  have hexec := exec_answers schemaless_undisturbed (run drySettings)
  refine ⟨_, ((dry_run_writes_iff_answered rfl hexec).2 _ rfl).2 ?_, ?_⟩
  · decide
  · decide

/-- With one it creates the logbook's table. -/
theorem dry_run_creates_logbook :
    (∃ m ∈ oneTable.trace drySettings, m.op = .call .createLogbookTable) ∧
      Exec calm () (run drySettings) (oneTable.trace drySettings) () (.pure 0) :=
  ⟨by decide, oneTable.exec drySettings⟩

end PgMaintainer
