import PgMaintainer.Properties.DryRun
import PgMaintainer.Properties.Merging

/-!
# What a run may touch

Every table a run maintains is in one of the schemas its lock was derived from, and outside the
logbook's schema: seven phases take their tables from queries over that list, the eighth from a
list that was narrowed to it. The table filter is narrower than that and goes into the queries
only, so it limits seven phases.

What a query returned is read off the trace, so a fact about it, once true, stays true.
-/

namespace PgMaintainer

open Interaction

attribute [local simp] Op.Aside

/-! ## Rows that satisfy their query -/

/-- A table meets the WHERE clause of a discovery query, as far as it is about names. -/
def Discovery.Selects (query : Discovery) (table : TableKey) : Prop :=
  table.1 ∈ query.schemas ∧ ∀ name, query.scope = .table name → table.2 = name

/-- The rows of a query are about tables that meet its WHERE clause. -/
def Call.RowsMatch : (c : Call) → c.Row → Prop
  | .findNeverVacuumed query, rows | .findNeverAnalyzed query, rows =>
    ∀ t ∈ rows, query.Selects t.key
  | .findWraparoundCandidates _ query, rows => ∀ t ∈ rows, query.Selects t.key
  | .findBloatCandidates _ _ query, rows => ∀ t ∈ rows, query.Selects t.key
  | .findNeedsVacuum _ _ query, rows => ∀ t ∈ rows, query.Selects t.key
  | .findNeedsVacuumMaxThr _ schemas _ _ _ table, rows =>
    ∀ t ∈ rows, t.schemaName ∈ schemas ∧ ∀ name, table = some name → t.tableName = name
  | .findVacuumOverdue _ query, rows => ∀ t ∈ rows, query.Selects t.key
  | .findAnalyzeOverdue _ query, rows => ∀ t ∈ rows, query.Selects t.key
  | .findExplicitTables schemas tables, rows => ∀ t ∈ rows, t ∈ schemas.zip tables
  | _, _ => True

/-- A world in which every query returns such rows only. -/
def MatchingRows (W : World session) : Prop :=
  ∀ state (c : Call) (row : c.Row) after,
    W.Answers state (.call c) (.ok row) after → c.RowsMatch row

/-! ## What a run has learnt -/

section Learnt

variable {W : World session}

/-- A call has returned this row. -/
def Returned (past : Trace W) (c : Call) (row : c.Row) : Prop :=
  ∃ state, ⟨state, .call c, .ok row⟩ ∈ past

/-- The schemas asked for are these: the list the server gave, or the one of the command line. -/
def Asked (settings : RunSettings) (past : Trace W) (schemas : List String) : Prop :=
  if settings.discoverAllSchemas && settings.schema.isNone then
    Returned past .getAllUserSchemas schemas
  else schemas = splitSchemas (settings.schema.getD "")

/-- The run holds the lock derived from a schema list. -/
def LockHeld (past : Trace W) (schemas : List String) : Prop :=
  ∃ lockId, Returned past (.hashtext (",".intercalate schemas)) lockId ∧
    Returned past (.tryAdvisoryLock lockId) true

/-- The schema list of the run, with its lock. -/
structure RunSchemas (settings : RunSettings) (past : Trace W) (schemas : List String) :
    Prop where
  asked : ∃ requested, Asked settings past requested ∧
    schemas = requested.filter (· ≠ logbookSchemaName)
  locked : LockHeld past schemas

/-- The server has reported that an explicit table exists. -/
def KnownToExist (past : Trace W) (t : ExplicitTable) : Prop :=
  ∃ schemas tables rows, Returned past (.findExplicitTables schemas tables) rows ∧ t.key ∈ rows

/-- A table is in a schema that the lock of the run covers, and not in the logbook's. -/
def InScope (settings : RunSettings) (past : Trace W) (table : TableKey) : Prop :=
  ∃ schemas, RunSchemas settings past schemas ∧ table.1 ∈ schemas ∧
    table.1 ≠ logbookSchemaName

/-- The explicit tables that exist have the name of the table filter, if there is one. -/
def ListMeetsFilter (settings : RunSettings) (past : Trace W) : Prop :=
  ∀ name, settings.table = some name →
    ∀ t ∈ settings.alsoTables, KnownToExist past t → t.tableName = name

/-- A table has the name of the table filter, if there is one. -/
def MeetsFilter (settings : RunSettings) (table : TableKey) : Prop :=
  ∀ name, settings.table = some name → table.2 = name

/-- A table the run may maintain: in its scope, and either meeting the filter or one of the
explicit tables, which the filter does not look at. -/
def Targeted (settings : RunSettings) (past : Trace W) (table : TableKey) : Prop :=
  InScope settings past table ∧
    (MeetsFilter settings table ∨ ∃ t ∈ settings.alsoTables, t.key = table ∧ KnownToExist past t)

variable {settings : RunSettings}

/-- What a call has returned it has returned for good. -/
theorem lasting_returned (c : Call) (row : c.Row) :
    Lasting fun past : Trace W => Returned past c row :=
  fun _ _ ⟨state, hmem⟩ => ⟨state, List.mem_append_left _ hmem⟩

/-- So the schemas asked for stay the same. -/
theorem lasting_asked (schemas : List String) :
    Lasting fun past : Trace W => Asked settings past schemas := by
  intro past m h
  unfold Asked at h ⊢
  split
  case isTrue hdiscover => exact lasting_returned _ _ past m (by rwa [if_pos hdiscover] at h)
  case isFalse hgiven => rwa [if_neg hgiven] at h

/-- So does the lock. -/
theorem lasting_lock_held (schemas : List String) :
    Lasting fun past : Trace W => LockHeld past schemas :=
  Lasting.any fun _ => (lasting_returned _ _).and (lasting_returned _ _)

/-- So do the schemas of the run. -/
theorem lasting_run_schemas (schemas : List String) :
    Lasting fun past : Trace W => RunSchemas settings past schemas := fun past m h =>
  ⟨Lasting.any (fun _ => (lasting_asked _).and (Lasting.const _)) past m h.asked,
    lasting_lock_held schemas past m h.locked⟩

/-- A table that was reported to exist stays reported. -/
theorem lasting_known_to_exist (t : ExplicitTable) :
    Lasting fun past : Trace W => KnownToExist past t :=
  Lasting.any fun _ => Lasting.any fun _ => Lasting.any fun _ =>
    (lasting_returned _ _).and (Lasting.const _)

/-- A table stays in scope. -/
theorem lasting_in_scope (table : TableKey) :
    Lasting fun past : Trace W => InScope settings past table :=
  Lasting.any fun _ => (lasting_run_schemas _).and (Lasting.const _)

/-- A table the run may maintain stays one. -/
theorem lasting_targeted (table : TableKey) :
    Lasting fun past : Trace W => Targeted settings past table := fun past m h =>
  ⟨lasting_in_scope table past m h.1, h.2.imp id fun ⟨t, ht, hkey, hknown⟩ =>
    ⟨t, ht, hkey, lasting_known_to_exist t past m hknown⟩⟩

end Learnt

/-! ## The start of a run -/

section Wp

variable {W : World session} {settings : RunSettings} {past : Trace W} {state : W.State}
  {P : Trace W → Prop}

/-- Only tables the run may maintain are maintained. -/
def OnTarget (settings : RunSettings) (past : Trace W) (m : Moment W) : Prop :=
  ∀ statement table, m.op = .call (.maintain statement table) → Targeted settings past table

/-- What is aside maintains no table. -/
theorem Op.Aside.onTarget {m : Moment W} (h : m.op.Aside) : OnTarget settings past m := by
  intro statement table hop
  rw [hop] at h
  exact h.elim

/-- Nor does the end of the run. -/
theorem Op.Closing.onTarget {m : Moment W} (h : m.op.Closing) : OnTarget settings past m := by
  intro statement table hop
  rw [hop] at h
  exact h.elim

/-- What stays true stays true through what maintains nothing. -/
theorem wp_aside {ε α : Type} {p : Prog session ε α} (hP : Lasting P) (hp : p.Only Op.Aside)
    (h : P past) :
    wp W (OnTarget settings) p (fun _ past _ => P past) (fun _ _ _ => True) past state :=
  wp_of_only hp (I := fun past _ => P past)
    (fun past _ _ hI _ _ _ _ hop _ => ⟨Op.Aside.onTarget hop, hP past _ hI⟩)
    (fun _ _ _ _ => trivial) h

/-- A query: its row is on the trace, and matches. -/
theorem wp_row (hrows : MatchingRows W) (hP : Lasting P) {c : Call} (hc : (Op.call c).Aside)
    (text : String) (h : P past) :
    wp W (OnTarget settings) (queryContext c text)
      (fun row past _ => P past ∧ Returned past c row ∧ c.RowsMatch row) (fun _ _ _ => True)
      past state := by
  refine wp_queryContext.2 (wp_call.2 fun now _ answer after hanswer => ⟨Op.Aside.onTarget hc, ?_⟩)
  cases answer with
  | error err => trivial
  | ok row =>
      exact ⟨hP past _ h, ⟨now, List.mem_append_right _ (List.mem_singleton.2 rfl)⟩,
        hrows now c row after hanswer⟩

/-- The schemas of the run come from those asked for. -/
theorem wp_resolve_schemas (hrows : MatchingRows W) :
    wp W (OnTarget settings) (resolveSchemas settings)
      (fun schemas past _ => ∃ requested, Asked settings past requested ∧
        schemas = requested.filter (· ≠ logbookSchemaName)) (fun _ _ _ => True) past state := by
  have hrequested : wp W (OnTarget settings) (requestedSchemas settings)
      (fun requested past _ => Asked settings past requested) (fun _ _ _ => True) past state := by
    unfold requestedSchemas Asked
    split
    · refine wp_seq (wp_row hrows (Lasting.const True) (c := .getAllUserSchemas) trivial _
        trivial) ?_
      rintro discovered past state ⟨-, hreturned, -⟩
      exact wp_ite.2 ⟨fun _ => trivial, fun _ => hreturned⟩
    · rfl
  refine wp_seq hrequested fun requested past state hasked => ?_
  exact wp_ite.2 ⟨fun _ => trivial, fun _ => ⟨requested, hasked, rfl⟩⟩

/-- A run that got past the guard holds the lock. -/
theorem wp_try_acquire_schema_lock (hrows : MatchingRows W) (hP : Lasting P)
    (schemas : List String) (h : P past) :
    wp W (OnTarget settings) (tryAcquireSchemaLock schemas)
      (fun _ past _ => P past ∧ LockHeld past schemas) (fun _ _ _ => True) past state := by
  refine wp_seq (wp_row hrows hP (c := .hashtext _) trivial _ h) ?_
  rintro lockId past state ⟨h, hhash, -⟩
  refine wp_seq (wp_row hrows (hP.and (lasting_returned _ _)) (c := .tryAdvisoryLock lockId)
    trivial _ ⟨h, hhash⟩) ?_
  rintro acquired past state ⟨⟨h, hhash⟩, hacquired, -⟩
  cases acquired with
  | false => trivial
  | true => exact ⟨h, lockId, hhash, hacquired⟩

/-- What is left of the explicit tables was asked for, is in scope, and exists. -/
theorem wp_resolve_explicit_tables (hrows : MatchingRows W) (hP : Lasting P)
    (requested : List ExplicitTable) (schemas : List String) (h : P past) :
    wp W (OnTarget settings) (resolveExplicitTables requested schemas)
      (fun tables past _ => P past ∧ ∀ t ∈ tables,
        t ∈ requested ∧ inScope schemas t = true ∧ KnownToExist past t)
      (fun _ _ _ => True) past state := by
  refine wp_ite.2 ⟨fun _ => ⟨h, fun t ht => absurd ht List.not_mem_nil⟩, fun _ => ?_⟩
  refine wp_seq (wp_row hrows hP (c := .findExplicitTables _ _) trivial _ h) ?_
  rintro existing past state ⟨h, hreturned, -⟩
  refine ⟨h, fun t ht => ?_⟩
  obtain ⟨hscope, hexists⟩ := List.mem_filter.1 ht
  obtain ⟨hasked, hscope⟩ := List.mem_filter.1 hscope
  exact ⟨hasked, hscope, _, _, existing, hreturned, List.contains_iff_mem.1 hexists⟩

/-- What the phases are given: the schemas of the run, and explicit tables that are in scope and
exist. -/
structure PlanOk (settings : RunSettings) (plan : Plan) (past : Trace W) : Prop where
  settings_eq : plan.settings = settings
  schemas : RunSchemas settings past plan.schemas
  alsoTables : ∀ t ∈ plan.alsoTables,
    t ∈ settings.alsoTables ∧ inScope plan.schemas t = true ∧ KnownToExist past t

/-- What the phases are given stays right. -/
theorem lasting_plan_ok (plan : Plan) :
    Lasting fun past : Trace W => PlanOk settings plan past := fun past m h =>
  ⟨h.settings_eq, lasting_run_schemas _ past m h.schemas, fun t ht =>
    ⟨(h.alsoTables t ht).1, (h.alsoTables t ht).2.1,
      lasting_known_to_exist t past m (h.alsoTables t ht).2.2⟩⟩

/-- The start of a run makes such a plan. -/
theorem wp_setup (hrows : MatchingRows W) :
    wp W (OnTarget settings) (setup settings) (fun plan past _ => PlanOk settings plan past)
      (fun _ _ _ => True) past state := by
  refine wp_seq (wp_aside (Lasting.const True) (only_aside (only_withContext (connect_inert _)))
    trivial) fun _ past state _ => ?_
  refine wp_seq (wp_aside (Lasting.const True) (by simp) trivial)
    fun _ past state _ => ?_
  refine wp_seq (wp_resolve_schemas hrows) fun schemas past state hasked => ?_
  have hlasting : Lasting fun past : Trace W => ∃ requested, Asked settings past requested ∧
      schemas = requested.filter (· ≠ logbookSchemaName) :=
    Lasting.any fun _ => (lasting_asked _).and (Lasting.const _)
  refine wp_seq (wp_withContext.2 (wp_try_acquire_schema_lock hrows hlasting schemas hasked)) ?_
  rintro _ past state ⟨hasked, hlocked⟩
  have hschemas : RunSchemas settings past schemas := ⟨hasked, hlocked⟩
  clear hasked hlocked hlasting
  -- from here on the schemas last, and nothing maintains a table
  have haside : ∀ {α β : Type} {p : RunM α} {f : α → RunM β}
      {Q : β → Trace W → W.State → Prop}, p.Only Op.Aside →
      (∀ value past state, RunSchemas settings past schemas →
        wp W (OnTarget settings) (f value) Q (fun _ _ _ => True) past state) →
      ∀ {past state}, RunSchemas settings past schemas →
        wp W (OnTarget settings) (p >>= f) Q (fun _ _ _ => True) past state :=
    fun hp hf _ _ h => wp_seq (wp_aside (lasting_run_schemas schemas) hp h) hf
  refine haside ensure_logbook_schema_aside.attempt (fun _ past state hschemas => ?_) hschemas
  refine haside (only_aside (apply_session_settings_inert settings))
    (fun _ past state hschemas => ?_) hschemas
  refine haside (only_aside (effective_wraparound_min_age_inert settings))
    (fun _ past state hschemas => ?_) hschemas
  refine haside (only_aside (open_lag_gate_inert settings))
    (fun _ past state hschemas => ?_) hschemas
  refine haside (only_aside (check_xmin_horizon_inert settings))
    (fun _ past state hschemas => ?_) hschemas
  refine wp_seq (wp_withContext.2 (wp_resolve_explicit_tables hrows (lasting_run_schemas schemas)
    settings.alsoTables schemas hschemas)) ?_
  rintro alsoTables past state ⟨hschemas, htables⟩
  exact ⟨rfl, hschemas, htables⟩

/-! ## The phases -/

/-- No schema of the run is the logbook's. -/
theorem RunSchemas.ne_logbook {schemas : List String} (h : RunSchemas settings past schemas)
    {schema : String} (hmem : schema ∈ schemas) : schema ≠ logbookSchemaName := by
  obtain ⟨requested, -, rfl⟩ := h.asked
  simpa using (List.mem_filter.1 hmem).2

/-- The discovery queries of a run are about its schemas and its table filter. -/
theorem PlanOk.targeted_of_selects {plan : Plan} (h : PlanOk settings plan past)
    {table : TableKey} (hschema : table.1 ∈ plan.schemas)
    (hname : ∀ name, plan.settings.table = some name → table.2 = name) :
    Targeted settings past table :=
  ⟨⟨plan.schemas, h.schemas, hschema, h.schemas.ne_logbook hschema⟩,
    .inl fun name hfilter => hname name (h.settings_eq ▸ hfilter)⟩

/-- An explicit table is in scope, whatever the filter is. -/
theorem PlanOk.targeted_of_listed {plan : Plan} (h : PlanOk settings plan past)
    {t : ExplicitTable} (ht : t ∈ plan.alsoTables) : Targeted settings past t.key := by
  obtain ⟨hasked, hscope, hknown⟩ := h.alsoTables t ht
  simp only [inScope, Bool.and_eq_true, bne_iff_ne, ne_eq, List.contains_iff_mem] at hscope
  exact ⟨⟨plan.schemas, h.schemas, hscope.2, hscope.1⟩,
    .inr ⟨t, hasked, rfl, hknown⟩⟩

/-- The candidates of a phase are tables the run may maintain. -/
def FoundTargets (settings : RunSettings) (plan : Plan) (tables : List TableKey) (past : Trace W) :
    Prop :=
  PlanOk settings plan past ∧ ∀ table ∈ tables, Targeted settings past table

/-- A discovery query with the schemas and the filter of the plan finds such tables. -/
theorem wp_discovery (hrows : MatchingRows W) {plan : Plan} {c : Call} (hc : (Op.call c).Aside)
    (keys : c.Row → List TableKey) {orderBy : Option OrderBy} {limit minBytes maxBytes : Int}
    (hkeys : ∀ rows, c.RowsMatch rows → ∀ table ∈ keys rows,
      Discovery.Selects ⟨plan.schemas, discoveryScope plan.settings.table orderBy limit, minBytes,
        maxBytes⟩ table)
    (text : String) (h : PlanOk settings plan past) :
    wp W (OnTarget settings) (queryContext c text)
      (fun rows past _ => FoundTargets settings plan (keys rows) past) (fun _ _ _ => True)
      past state := by
  refine wp_mono (wp_row hrows (lasting_plan_ok plan) hc text h) ?_ fun _ _ _ h => h
  rintro rows past state ⟨h, -, hmatch⟩
  refine ⟨h, fun table htable => ?_⟩
  obtain ⟨hschema, hname⟩ := hkeys rows hmatch table htable
  exact h.targeted_of_selects hschema fun name hfilter =>
    hname name (by rw [hfilter]; rfl)

/-- A runner over tables the run may maintain. -/
theorem wp_runner_on_target {plan : Plan} {policy : RunPolicy} {phase : Phase}
    {statement : Statement} {already : Option (List TableKey)} {tables : List TableKey}
    {runner : RunM OperationSummary}
    (hrunner : IsRunner policy phase statement already tables runner)
    (h : FoundTargets settings plan tables past) :
    wp W (OnTarget settings) runner (fun _ past _ => PlanOk settings plan past)
      (fun _ _ _ => True) past state := by
  have hlasting : Lasting fun past : Trace W => FoundTargets settings plan tables past :=
    (lasting_plan_ok plan).and (Lasting.all fun table past m h htable =>
      lasting_targeted table past m (h htable))
  have hkeep : W.Keeps (OnTarget settings)
      (fun op => ∀ statement table, op = .call (.maintain statement table) → table ∈ tables)
      (fun past _ => FoundTargets settings plan tables past) :=
    fun past _ now h _ op answer _ hop _ =>
    ⟨fun statement table heq => h.2 table (hop statement table heq), hlasting past _ h⟩
  obtain ⟨pass, hpass⟩ := hrunner
  refine wp_mono (wp_of_only (Prog.Only.bind ?_ fun _ => ?_) hkeep (fun _ _ _ _ => trivial) h)
    (fun _ _ _ h => h.1) fun _ _ _ h => h
  · exact ⟨nofun, fun _ => trivial⟩
  · refine (sweep_of_runner hpass _).mono ?_ (fun _ h => h) (fun _ h => h)
    rintro op hop statement table rfl
    exact hop.2.1

/-- A phase maintains tables the run may maintain, and leaves the plan to the next one. -/
def StaysOnTarget (W : World session) (settings : RunSettings) (plan : Plan)
    (phase : Seen → PhaseM) : Prop :=
  ∀ seen (past : Trace W) state, PlanOk settings plan past →
    wp W (OnTarget settings) (phase seen) (fun _ past _ => PlanOk settings plan past)
      (fun _ _ _ => True) past state

/-- A phase that finds such tables and hands them to its runner is one. -/
theorem stays_on_target {plan : Plan} {α : Type} {discover : RunM α}
    {keys : α → List TableKey} {runner : Seen → α → RunM OperationSummary}
    {update : Seen → α → Seen} {enabled : Bool} {phase : Phase} {text : String}
    (hdiscover : ∀ past state, PlanOk settings plan past →
      wp W (OnTarget settings) discover
        (fun found past _ => FoundTargets settings plan (keys found) past)
        (fun _ _ _ => True) past state)
    (hrunner : ∀ seen found, ∃ policy statement already,
      IsRunner policy phase statement already (keys found) (runner seen found)) :
    StaysOnTarget W settings plan (fun seen => phaseGuard enabled seen do
      log (.phaseStarted phase)
      let found ← discover
      let summary ← withContext (runner seen found) text
      pure (summary, update seen found)) := by
  intro seen past state h
  have haside : ∀ {α : Type} {p : RunM α} {past : Trace W} {state : W.State}, p.Only Op.Aside →
      PlanOk settings plan past → wp W (OnTarget settings) p
        (fun _ past _ => PlanOk settings plan past) (fun _ _ _ => True) past state :=
    fun hp h => wp_aside (lasting_plan_ok plan) hp h
  refine wp_ite.2 ⟨fun _ => ?_, fun _ => h⟩
  -- the guard, the log line and the discovery, in the order of the source
  refine wp_seq (haside (by simp) h) fun requested past state h => ?_
  refine wp_ite.2 ⟨fun _ => h, fun _ => ?_⟩
  refine wp_seq (haside (by simp) h) fun _ past state h => ?_
  refine wp_seq (hdiscover past state h) fun found past state hfound => ?_
  obtain ⟨policy, statement, already, hisRunner⟩ := hrunner seen found
  exact wp_seq (wp_withContext.2 (wp_runner_on_target hisRunner hfound)) fun _ _ _ h => h

/-- The keys of rows that are about selected tables. -/
theorem forall_mem_keys {ι : Type} {key : ι → TableKey} {p : TableKey → Prop} {rows : List ι}
    (h : ∀ t ∈ rows, p (key t)) : ∀ table ∈ rows.map key, p table := by
  intro table htable
  obtain ⟨t, ht, rfl⟩ := List.mem_map.1 htable
  exact h t ht

/-- The flag of a candidate is not part of its key. -/
theorem keys_of_flagged (viaMaxThreshold : Bool) (rows : List NeedsVacuumTableInfo) :
    (rows.map fun t => { t with viaMaxThreshold := viaMaxThreshold }).map
      NeedsVacuumTableInfo.key = rows.map NeedsVacuumTableInfo.key := by
  rw [List.map_map]
  rfl

/-- Candidates of phase 5 that the run may maintain. -/
def RowsTargeted (settings : RunSettings) (plan : Plan) (tables : List NeedsVacuumTableInfo)
    (past : Trace W) : Prop :=
  FoundTargets settings plan (tables.map NeedsVacuumTableInfo.key) past

/-- So do the rows of phase 5. -/
theorem lasting_rows_targeted (plan : Plan) (tables : List NeedsVacuumTableInfo) :
    Lasting fun past : Trace W => RowsTargeted settings plan tables past :=
  (lasting_plan_ok plan).and (Lasting.all fun table past m h htable =>
    lasting_targeted table past m (h htable))

/-- Both queries of phase 5, and so their merge, find tables the run may maintain. -/
theorem wp_discover_needs_vacuum (hrows : MatchingRows W) {plan : Plan}
    (h : PlanOk settings plan past) :
    wp W (OnTarget settings) (discoverNeedsVacuum plan)
      (fun found past _ => FoundTargets settings plan (found.map NeedsVacuumTableInfo.key) past)
      (fun _ _ _ => True) past state := by
  refine wp_seq (wp_aside (lasting_plan_ok plan) (only_aside (or_else_inert
    (by simp [getVacuumSettings, Op.Inert, Call.Writes]) _)) h) fun _ past state h => ?_
  have hclassic : ∀ threshold scaleFactor, wp W (OnTarget settings)
      (findNeedsVacuumCandidates plan.schemas plan.settings.table threshold scaleFactor
        plan.settings.minBytes plan.settings.maxBytes plan.limitN plan.settings.orderBy)
      (fun found past _ => RowsTargeted settings plan found past) (fun _ _ _ => True) past
      state := by
    intro threshold scaleFactor
    unfold findNeedsVacuumCandidates
    refine wp_seq (wp_discovery hrows (c := .findNeedsVacuum _ _ _) trivial
      (List.map NeedsVacuumTableInfo.key) (fun _ => forall_mem_keys) _ h)
      fun rows past state hfound => ?_
    exact ⟨hfound.1, (keys_of_flagged false rows).symm ▸ hfound.2⟩
  refine wp_seq (wp_withContext.2 (hclassic _ _)) fun classic past state hclassic => ?_
  refine wp_seq (wp_aside (lasting_rows_targeted plan classic) (only_aside (or_else_inert
    (by simp [getServerVersionNum, Op.Inert, Call.Writes]) _)) hclassic)
    fun serverVersionNum past state hclassic => ?_
  refine wp_seq (wp_aside (lasting_rows_targeted plan classic) (only_aside (or_else_inert
    (get_vacuum_max_threshold_inert _) _)) hclassic) fun maxThreshold past state hclassic => ?_
  have hsecond : wp W (OnTarget settings)
      (findNeedsVacuumMaxThresholdCandidates plan.schemas plan.settings.table maxThreshold
        serverVersionNum plan.settings.minBytes plan.settings.maxBytes)
      (fun found past _ => RowsTargeted settings plan classic past ∧
        RowsTargeted settings plan found past)
      (fun _ past _ => RowsTargeted settings plan classic past) past state := by
    unfold findNeedsVacuumMaxThresholdCandidates
    refine wp_bind.2 (wp_call.2 fun now _ answer after hanswer => ⟨Op.Aside.onTarget trivial, ?_⟩)
    have hclassic := lasting_rows_targeted plan classic past [⟨now, _, answer⟩] hclassic
    cases answer with
    | error err => exact hclassic
    | ok rows =>
        refine ⟨hclassic, hclassic.1, (keys_of_flagged true rows).symm ▸ forall_mem_keys ?_⟩
        intro t ht
        obtain ⟨hschema, hname⟩ := hrows now _ rows after hanswer t ht
        exact hclassic.1.targeted_of_selects hschema hname
  -- an error of the second query leaves an empty list
  have hnone : ∀ past : Trace W, RowsTargeted settings plan classic past →
      RowsTargeted settings plan [] past := fun past h =>
    ⟨h.1, fun table htable => absurd htable List.not_mem_nil⟩
  refine wp_seq (R := fun found past _ => RowsTargeted settings plan classic past ∧
    RowsTargeted settings plan found past) ?_ ?_
  · exact wp_seq_attempt hsecond (fun _ _ _ h => h) fun _ past _ h => ⟨h, hnone past h⟩
  · rintro found past state ⟨hclassic, hfound⟩
    refine ⟨hclassic.1, forall_mem_keys fun t ht => ?_⟩
    rcases mem_merge _ _ _ _ ht with ht | ht
    · exact hclassic.2 _ (List.mem_map_of_mem ht)
    · exact hfound.2 _ (List.mem_map_of_mem ht)

/-- Every phase does. -/
theorem phases_stay_on_target (hrows : MatchingRows W) {plan : Plan} :
    ∀ phase ∈ phases plan, StaysOnTarget W settings plan phase := by
  have hfound : ∀ {c : Call} {past : Trace W} {state : W.State} {keys : c.Row → List TableKey}
      {minBytes maxBytes limit : Int} {orderBy : Option OrderBy} {text text' : String},
      (Op.call c).Aside →
      (∀ rows, c.RowsMatch rows → ∀ table ∈ keys rows,
        Discovery.Selects ⟨plan.schemas, discoveryScope plan.settings.table orderBy limit,
          minBytes, maxBytes⟩ table) →
      PlanOk settings plan past →
      wp W (OnTarget settings) (withContext (queryContext c text) text')
        (fun rows past _ => FoundTargets settings plan (keys rows) past)
        (fun _ _ _ => True) past state :=
    fun hc hmatch h => wp_withContext.2 (wp_discovery hrows hc _ hmatch _ h)
  intro phase hphase
  simp only [phases, List.mem_cons, List.not_mem_nil, or_false] at hphase
  -- seven phases ask the server with the schemas and the filter of the plan
  rcases hphase with rfl | rfl | rfl | rfl | rfl | rfl | rfl | rfl
  · refine stays_on_target ?_ fun _ _ => ⟨_, _, _, run_vacuum_never_vacuumed_is_runner ..⟩
    exact fun _ _ => hfound trivial fun _ => forall_mem_keys
  · refine stays_on_target ?_ fun _ _ => ⟨_, _, _, run_analyze_never_analyzed_is_runner ..⟩
    exact fun _ _ => hfound trivial fun _ => forall_mem_keys
  · refine stays_on_target ?_ fun _ _ => ⟨_, _, _, run_freeze_wraparound_is_runner ..⟩
    exact fun _ _ => hfound trivial fun _ => forall_mem_keys
  · refine stays_on_target ?_ fun _ _ => ⟨_, _, _, run_bloat_vacuum_is_runner ..⟩
    exact fun _ _ => hfound trivial fun _ => forall_mem_keys
  · exact stays_on_target (fun _ _ => wp_discover_needs_vacuum hrows)
      fun _ _ => ⟨_, _, _, run_needs_vacuum_is_runner ..⟩
  · refine stays_on_target ?_ fun _ _ => ⟨_, _, _, run_vacuum_overdue_is_runner ..⟩
    exact fun _ _ => hfound trivial fun _ => forall_mem_keys
  · refine stays_on_target ?_ fun _ _ => ⟨_, _, _, run_analyze_overdue_is_runner ..⟩
    exact fun _ _ => hfound trivial fun _ => forall_mem_keys
  · -- the explicit tables are found in the plan
    have hlisted : ∀ (past : Trace W) (state : W.State), PlanOk settings plan past →
        wp W (OnTarget settings) (pure () : RunM Unit)
          (fun _ past _ => FoundTargets settings plan (plan.alsoTables.map ExplicitTable.key) past)
          (fun _ _ _ => True) past state := fun _ _ h =>
      ⟨h, forall_mem_keys fun t ht => h.targeted_of_listed ht⟩
    exact @stays_on_target W settings plan Unit (pure ()) _ _ (fun seen _ => seen) _ _ _ hlisted
      fun seen _ => ⟨_, _, _, run_also_tables_is_runner plan.policy plan.settings.vacuumOptions
        plan.lagGate plan.alsoTables seen.handled⟩

/-- So does a whole run. -/
theorem wp_run_on_target (hrows : MatchingRows W) :
    wp W (OnTarget settings) (run settings) (fun _ _ _ => True) (fun _ _ _ => True) past state := by
  have horder : ∀ {plan : Plan} (ps : List (Seen → PhaseM)),
      (∀ phase ∈ ps, StaysOnTarget W settings plan phase) → ∀ total seen past state,
      PlanOk settings plan past → wp W (OnTarget settings) (runInOrder ps total seen)
        (fun _ past _ => PlanOk settings plan past) (fun _ _ _ => True) past state := by
    intro plan ps hps
    induction ps with
    | nil => exact fun _ _ _ _ h => h
    | cons phase ps ih =>
        intro total seen past state h
        exact wp_seq (hps phase List.mem_cons_self seen past state h) fun _ past state h =>
          ih (fun phase hphase => hps phase (List.mem_cons_of_mem _ hphase)) _ _ past state h
  refine wp_seq (wp_setup hrows) fun plan past state h => ?_
  refine wp_seq (horder _ (phases_stay_on_target hrows) {} {} past state h)
    fun total past state h => ?_
  exact wp_mono (wp_of_only (finish_closing total) (I := fun past _ => PlanOk settings plan past)
    (fun past _ _ h _ _ _ _ hop _ => ⟨Op.Closing.onTarget hop, lasting_plan_ok plan past _ h⟩)
    (fun _ _ _ _ => trivial) h) (fun _ _ _ _ => trivial) fun _ _ _ h => h

end Wp

/-! ## The scope of a run -/

section Scope

variable {W : World session} {settings : RunSettings}

/-- A dry run maintains nothing. -/
theorem dry_run_maintains_nothing (hdry : settings.dryRun = true) :
    (run settings).Only fun op => ∀ statement table, op ≠ .call (.maintain statement table) := by
  refine Prog.all_bind.2 ((setup_all settings).mono ?_ ?_ fun _ h => h)
  · rintro op hop statement table rfl
    exact hop
  · rintro plan rfl
    refine (run_phases_previews hdry).mono ?_ (fun _ h => h) fun _ h => h
    rintro op hop statement table rfl
    exact hop trivial

/-- Every statement of every run is on a table of a schema the lock of the run was derived from,
outside the logbook's schema. It meets the table filter as well, if the explicit tables that the
server has reported to exist meet it; and a dry run sends no statement. -/
theorem statement_in_scope (hrows : MatchingRows W) {state last : W.State}
    {before after : Trace W} {now : Moment W} {q : RunM Nat} {statement : Statement}
    {table : TableKey} (h : Exec W state (run settings) (before ++ now :: after) last q)
    (hop : now.op = .call (.maintain statement table)) :
    InScope settings before table ∧
      (settings.dryRun = true ∨ ListMeetsFilter settings before → MeetsFilter settings table) := by
  obtain ⟨hscope, htarget⟩ := h.safe (wp_run_on_target hrows) statement table hop
  refine ⟨hscope, ?_⟩
  rintro (hdry | hlist) name hfilter
  · have honly : wp W (fun _ m => ∀ statement table, m.op ≠ .call (.maintain statement table))
        (run settings) (fun _ _ _ => True) (fun _ _ _ => True) [] state :=
      wp_of_only (dry_run_maintains_nothing hdry) (I := fun _ _ => True)
        (fun _ _ _ _ _ _ _ _ hop _ => ⟨hop, trivial⟩) (fun _ _ _ _ => trivial) trivial
    exact absurd hop (h.safe honly statement table)
  · rcases htarget with hmeets | ⟨t, ht, rfl, hknown⟩
    · exact hmeets name hfilter
    · exact hlist name hfilter t ht hknown

end Scope

/-! ## A table filter and an explicit table -/

/-- The answer to a query is about tables that meet its WHERE clause. -/
def Op.Truthful : (op : Op) → op.Answer → Prop
  | .call c, .ok row => c.RowsMatch row
  | _, _ => True

/-- The world without shutdowns in which every query returns such rows. -/
def truthful : World session where
  State := Unit
  Drift _ _ := False
  Answers _ op answer _ := op.Undisturbed answer ∧ op.Truthful answer

/-- The world is one of matching rows. -/
theorem truthful_matching_rows : MatchingRows truthful := fun _ _ _ _ h => h.2

/-- A server with two tables, of which one was never vacuumed. -/
def twoTablesServer : (op : Op) → op.Answer
  | .call (.findNeverVacuumed query) =>
    .ok (if "public" ∈ query.schemas ∧ query.scope = .table "t" then
      [⟨"public", "t", 10, 0, 8192, none⟩] else [])
  | .call (.findExplicitTables schemas tables) =>
    .ok ([("public", "t"), ("public", "u")].filter fun table => table ∈ schemas.zip tables)
  | op => Server.answer {} op

/-- The server returns what its queries ask for. -/
theorem two_tables_server_truthful (op : Op) :
    op.Undisturbed (twoTablesServer op) ∧ op.Truthful (twoTablesServer op) := by
  unfold twoTablesServer
  split
  · refine ⟨trivial, ?_⟩
    simp only [Op.Truthful, Call.RowsMatch]
    split
    case isTrue h =>
      intro t ht
      obtain rfl := List.mem_singleton.1 ht
      exact ⟨h.1, fun name hname => by simpa [h.2, TableInfo.key] using hname⟩
    case isFalse => exact fun t ht => absurd ht List.not_mem_nil
  · exact ⟨trivial, fun t ht => of_decide_eq_true (List.mem_filter.1 ht).2⟩
  · refine ⟨Server.answer_undisturbed {} _, ?_⟩
    cases op with
    | call c => cases c <;> simp [Op.Truthful, Call.RowsMatch, Server.answer, Server.row]
    | _ => trivial

/-- Never-vacuumed tables of one name, and these explicit tables. -/
def filteredSettings (alsoTables : List ExplicitTable) : RunSettings :=
  { defaultSettings [.neverVacuumed] alsoTables with table := some "t" }

/-- The trace of such a run. -/
def filteredTrace (alsoTables : List ExplicitTable) : Trace truthful :=
  ((run (filteredSettings alsoTables)).play truthful (fun _ op => (twoTablesServer op, ())) ()).1

/-- The trace is an execution, whatever the explicit tables are. -/
theorem exec_filtered (alsoTables : List ExplicitTable) : ∃ q,
    Exec truthful () (run (filteredSettings alsoTables)) (filteredTrace alsoTables) () q :=
  ⟨_, Prog.exec_play (W := truthful) (fun _ op => (twoTablesServer op, ()))
    (fun _ op => two_tables_server_truthful op) (run (filteredSettings alsoTables)) ()⟩

/-- With an explicit table of that name, which the server knows, the table is vacuumed, and it is in
scope. -/
theorem filtered_table_is_in_scope : ∃ before m after,
    filteredTrace [⟨"public", "t"⟩] = before ++ m :: after ∧
      KnownToExist before ⟨"public", "t"⟩ ∧
      m.op = .call (.maintain (.vacuum ⟨true, false, false, none, none⟩) ("public", "t")) ∧
      InScope (filteredSettings [⟨"public", "t"⟩]) before ("public", "t") ∧
      MeetsFilter (filteredSettings [⟨"public", "t"⟩]) ("public", "t") := by
  obtain ⟨q, hexec⟩ := exec_filtered [⟨"public", "t"⟩]
  have hsome : ((filteredTrace [⟨"public", "t"⟩])[32]?.map (·.op)) = some (.call
      (.maintain (.vacuum ⟨true, false, false, none, none⟩) ("public", "t"))) := by
    decide
  obtain ⟨m, hm, hop⟩ := Option.map_eq_some_iff.1 hsome
  have hsplit := trace_split hm
  rw [hsplit] at hexec
  obtain ⟨hscope, hfilter⟩ := statement_in_scope truthful_matching_rows hexec hop
  have hknown : ((filteredTrace [⟨"public", "t"⟩]).take 32)[21]? =
      some ⟨(), .call (.findExplicitTables ["public"] ["t"]), .ok [("public", "t")]⟩ := rfl
  refine ⟨_, m, _, hsplit, ?_, hop, hscope, hfilter (.inr ?_)⟩
  · exact ⟨["public"], ["t"], [("public", "t")], ⟨(), List.mem_of_getElem? hknown⟩, by decide⟩
  · intro name hname t ht _
    obtain rfl := List.mem_singleton.1 ht
    exact Option.some.inj hname

/-- With one of another name, that one is vacuumed and analyzed as well: a statement outside the
table filter. -/
theorem also_table_outside_filter : MatchingRows truthful ∧
    (∃ q, Exec truthful () (run (filteredSettings [⟨"public", "u"⟩]))
      (filteredTrace [⟨"public", "u"⟩]) () q) ∧
    (∃ m ∈ filteredTrace [⟨"public", "u"⟩], m.op = .call
      (.maintain (.vacuumAnalyze ⟨true, false, false, none, none⟩) ("public", "u"))) ∧
    ¬MeetsFilter (filteredSettings [⟨"public", "u"⟩]) ("public", "u") := by
  refine ⟨truthful_matching_rows, exec_filtered _, by decide, fun h => ?_⟩
  exact absurd (h "t" rfl) (by decide)

end PgMaintainer
