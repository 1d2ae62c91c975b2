import PgMaintainer.Queries.NeedsVacuum
import PgMaintainer.Selection

/-!
# The discovery queries

The queries of `queries.rs` that find the candidates of a mode, over the tables they read. Each mode
has one condition and one default order, which its variants share: `_BY_SIZE` and
`_BY_LAST_MAINTAINED` change the order, `_TABLE` adds a name and takes no limit.
-/

namespace PgMaintainer

/-! ## What the queries read -/

/-- A row of `pg_stat_user_tables` joined with its row of `pg_class`, with the columns about ANALYZE
as well. Times are in microseconds. -/
structure StatTable extends CatalogTable where
  nModSinceAnalyze : Option Int
  lastAnalyze : Option Int
  lastAutoanalyze : Option Int

/-- A row of `pg_class` joined with its namespace and, where it has one, with its row of
`pg_stat_all_tables`. -/
structure ClassRow where
  oid : BitVec 32
  nspname : String
  relname : String
  relkind : Char
  /-- `age(relfrozenxid)`. -/
  xidAge : Int
  sizeBytes : Int
  lastVacuum : Option Int
  lastAutovacuum : Option Int

/-- What the discovery queries see of a server at one moment. No two tables have one id. -/
structure Database where
  serverVersionNum : Int
  settings : AutovacuumSettings
  tables : List StatTable
  relids_nodup : (tables.map fun t => t.relid).Nodup
  classes : List ClassRow
  oids_nodup : (classes.map ClassRow.oid).Nodup
  /-- `autovacuum_freeze_max_age`. -/
  freezeMaxAge : Int
  /-- `now()`. -/
  now : Int
  /-- `now() - make_interval(days => d)`. -/
  daysAgo : Int → Int

/-- The part of it that the two needs-vacuum queries see. -/
def Database.catalog (db : Database) : Catalog where
  serverVersionNum := db.serverVersionNum
  settings := db.settings
  tables := db.tables.map StatTable.toCatalogTable
  relids_nodup := by
    rw [List.map_map]
    exact db.relids_nodup

/-! ## One query with its variants -/

/-- The query of a mode: what it reads, its condition besides schema and size, its default order and
the columns it returns. -/
structure ModeQuery (α β : Type) where
  source : List α
  schemaname : α → String
  relname : α → String
  sizeBytes : α → Int
  lastMaintained : α → Option Int
  condition : α → Bool
  order : α → α → Prop
  row : α → β

namespace ModeQuery

variable {α β : Type} (q : ModeQuery α β)

/-- `WHERE`, without the name. -/
def selects (query : Discovery) (a : α) : Bool :=
  query.schemas.contains (q.schemaname a) && q.condition a &&
    (decide (query.minBytes ≤ q.sizeBytes a) && decide (q.sizeBytes a ≤ query.maxBytes))

/-- `ORDER BY` of the variant for an order. -/
def orderOf (orderBy : Option OrderBy) (a b : α) : Prop :=
  match orderBy with
  | none => q.order a b
  | some .size => q.sizeBytes b ≤ q.sizeBytes a
  | some .lastMaintained => lastMaintainedLe (q.lastMaintained a) (q.lastMaintained b)

/-- The rows of the variant that a discovery asks for. A negative limit is an error. -/
def Answers (query : Discovery) (rows : List β) : Prop :=
  match query.scope with
  | .table name =>
    Selection.Answers q.source (fun a => q.selects query a && q.relname a == name) q.order none
      q.row rows
  | .all orderBy limit =>
    0 ≤ limit ∧ Selection.Answers q.source (q.selects query) (q.orderOf orderBy)
      (some limit.toNat) q.row rows

/-- Whether a row is asked for: it meets the condition and has the name, if one is given. -/
def asksFor (query : Discovery) (a : α) : Bool :=
  q.selects query a &&
    match query.scope with
    | .table name => q.relname a == name
    | .all _ _ => true

variable {q} {query : Discovery} {rows : List β}

/-- Only rows that are asked for are returned. -/
theorem Answers.sound (h : q.Answers query rows) {b : β} (hb : b ∈ rows) :
    ∃ a ∈ q.source, q.asksFor query a = true ∧ q.row a = b := by
  unfold Answers at h
  unfold asksFor
  cases hscope : query.scope with
  | table name =>
      simp only [hscope] at h
      exact Selection.Answers.sound h hb
  | all orderBy limit =>
      simp only [hscope] at h
      simp only [Bool.and_true]
      exact h.2.sound hb

/-- Without a limit below the number of rows, all rows that are asked for are returned. -/
theorem Answers.complete (h : q.Answers query rows)
    (hlimit : ∀ orderBy limit, query.scope = .all orderBy limit → (q.source.length : Int) ≤ limit)
    {a : α} (ha : a ∈ q.source) (hasks : q.asksFor query a = true) : q.row a ∈ rows := by
  unfold Answers at h
  unfold asksFor at hasks
  cases hscope : query.scope with
  | table name =>
      simp only [hscope] at h hasks
      exact Selection.Answers.complete h (fun n hn => by cases hn) ha hasks
  | all orderBy limit =>
      simp only [hscope, Bool.and_true] at h hasks
      refine h.2.complete (fun n hn => ?_) ha hasks
      have hlength := hlimit orderBy limit hscope
      obtain rfl := Option.some.inj hn
      omega

/-- There are no more rows than the query reads. -/
theorem Answers.length_le (h : q.Answers query rows) : rows.length ≤ q.source.length := by
  unfold Answers at h
  cases hscope : query.scope with
  | table name =>
      simp only [hscope] at h
      exact h.length_le_source
  | all orderBy limit =>
      simp only [hscope] at h
      exact h.2.length_le_source

/-- A table of this name is asked for. -/
def Wants (q : ModeQuery α β) (query : Discovery) (table : TableKey) : Prop :=
  ∃ a ∈ q.source, (q.schemaname a, q.relname a) = table ∧ q.asksFor query a = true

/-- The rows of an answer without a limit name exactly the tables that are asked for. -/
theorem Answers.mem_keys (h : q.Answers query rows)
    (hlimit : ∀ orderBy limit, query.scope = .all orderBy limit → (q.source.length : Int) ≤ limit)
    {key : β → TableKey} (hkey : ∀ a, key (q.row a) = (q.schemaname a, q.relname a))
    {table : TableKey} : table ∈ rows.map key ↔ q.Wants query table := by
  constructor
  · intro htable
    obtain ⟨b, hb, rfl⟩ := List.mem_map.1 htable
    obtain ⟨a, ha, hasks, rfl⟩ := h.sound hb
    exact ⟨a, ha, (hkey a).symm, hasks⟩
  · intro hwants
    obtain ⟨a, ha, rfl, hasks⟩ := hwants
    rw [← hkey a]
    exact List.mem_map_of_mem (h.complete hlimit ha hasks)

end ModeQuery

/-! ## The modes -/

/-- `GREATEST(last_vacuum, last_autovacuum)`. -/
def ClassRow.lastMaintained (c : ClassRow) : Option Int :=
  Option.merge max c.lastVacuum c.lastAutovacuum

/-- `GREATEST(last_analyze, last_autoanalyze)`. -/
def StatTable.lastAnalyzed (t : StatTable) : Option Int :=
  Option.merge max t.lastAnalyze t.lastAutoanalyze

/-- `DESC NULLS LAST`. -/
def descNullsLast : Option Int → Option Int → Prop
  | _, none => True
  | none, some _ => False
  | some x, some y => y ≤ x

/-- `n_dead_tup DESC NULLS LAST, n_live_tup DESC NULLS LAST`. -/
def deadThenLiveDesc (a b : StatTable) : Prop :=
  descNullsLast a.nDeadTup b.nDeadTup ∧
    (descNullsLast b.nDeadTup a.nDeadTup → descNullsLast a.nLiveTup b.nLiveTup)

/-- `(100.0 * n_dead_tup / NULLIF(n_live_tup + n_dead_tup, 0))`, or NULL. -/
def StatTable.bloatPct (t : StatTable) : Option ℚ := do
  let dead ← t.nDeadTup
  let live ← t.nLiveTup
  if live + dead = 0 then none else some (100 * dead / (live + dead))

/-- `x >= bound`, which NULL is not. -/
def reaches (x : Option ℚ) (bound : ℚ) : Bool :=
  match x with
  | some x => decide (bound ≤ x)
  | none => false

/-- `time < bound`, which NULL is not. -/
def before (time : Option Int) (bound : Int) : Bool :=
  match time with
  | some time => decide (time < bound)
  | none => false

/-- The columns of a table that was never vacuumed or never analyzed. -/
def tableRow (lastMaintained : StatTable → Option Int) (t : StatTable) : TableInfo where
  schemaName := t.schemaname
  tableName := t.relname
  nLiveTup := t.nLiveTup.getD (-1)
  nDeadTup := t.nDeadTup.getD (-1)
  sizeBytes := t.sizeBytes
  lastMaintained := lastMaintained t

section Modes

variable (db : Database)

/-- A query over `pg_stat_user_tables`, which no partitioned parent passes. -/
def statQuery {β : Type} (lastMaintained : StatTable → Option Int) (condition : StatTable → Bool)
    (order : StatTable → StatTable → Prop) (row : StatTable → β) : ModeQuery StatTable β where
  source := db.tables
  schemaname t := t.schemaname
  relname t := t.relname
  sizeBytes t := t.sizeBytes
  lastMaintained := lastMaintained
  condition t := t.relkind != 'p' && condition t
  order := order
  row := row

/-- `FIND_NEVER_VACUUMED`. -/
def neverVacuumedQuery : ModeQuery StatTable TableInfo :=
  statQuery db (fun t => t.lastMaintained)
    (fun t => t.lastVacuum.isNone && t.lastAutovacuum.isNone) deadThenLiveDesc
    (tableRow fun t => t.lastMaintained)

/-- `FIND_NEVER_ANALYZED`. -/
def neverAnalyzedQuery : ModeQuery StatTable TableInfo :=
  statQuery db StatTable.lastAnalyzed
    (fun t => t.lastAnalyze.isNone && t.lastAutoanalyze.isNone)
    (fun a b => descNullsLast a.nLiveTup b.nLiveTup) (tableRow StatTable.lastAnalyzed)

/-- `FIND_WRAPAROUND_CANDIDATES`. It reads `pg_class`, so that TOAST tables are among its rows. -/
def wraparoundQuery (minAge : Int) : ModeQuery ClassRow FreezeTableInfo where
  source := db.classes
  schemaname c := c.nspname
  relname c := c.relname
  sizeBytes c := c.sizeBytes
  lastMaintained c := c.lastMaintained
  condition c := ['r', 't', 'm'].contains c.relkind &&
    !(["pg_catalog", "information_schema", "pg_toast"].contains c.nspname) &&
    decide (minAge < c.xidAge)
  order a b := b.xidAge ≤ a.xidAge
  row c :=
    { schemaName := c.nspname, tableName := c.relname, xidAge := c.xidAge,
      freezeMaxAge := db.freezeMaxAge, sizeBytes := c.sizeBytes,
      lastMaintained := c.lastMaintained }

/-- `FIND_BLOAT_CANDIDATES`. The percentage of a candidate is not NULL, so the order does not
depend on where NULL stands. -/
def bloatQuery (thresholdPct : ℚ) (minDeadTup : Int) : ModeQuery StatTable BloatTableInfo :=
  statQuery db (fun t => t.lastMaintained)
    (fun t => reaches (t.nDeadTup.map Int.cast) minDeadTup && reaches t.bloatPct thresholdPct)
    (fun a b => b.bloatPct.getD 0 ≤ a.bloatPct.getD 0)
    fun t =>
      { schemaName := t.schemaname, tableName := t.relname, nLiveTup := t.nLiveTup.getD (-1),
        nDeadTup := t.nDeadTup.getD (-1), sizeBytes := t.sizeBytes,
        lastMaintained := t.lastMaintained }

/-- `FIND_NEEDS_VACUUM`. -/
def needsVacuumQuery (threshold : Int) (scaleFactor : ℚ) :
    ModeQuery CatalogTable NeedsVacuumTableInfo where
  source := db.catalog.tables
  schemaname t := t.schemaname
  relname t := t.relname
  sizeBytes t := t.sizeBytes
  lastMaintained t := t.lastMaintained
  condition t := t.relkind != 'p' && t.aboveClassic threshold scaleFactor
  order := nDeadTupDesc
  row := needsVacuumRow

/-- `EXTRACT(EPOCH FROM now() - last) / 86400.0`. -/
def daysSince (last : Option Int) : ℚ := (db.now - last.getD db.now) / 1000000 / 86400

/-- `FIND_VACUUM_OVERDUE`. There is no variant for an order. -/
def vacuumOverdueQuery (days : Int) : ModeQuery StatTable OverdueVacuumTableInfo :=
  statQuery db (fun t => t.lastMaintained) (fun t => before t.lastMaintained (db.daysAgo days))
    (fun a b => lastMaintainedLe a.lastMaintained b.lastMaintained)
    fun t =>
      { schemaName := t.schemaname, tableName := t.relname, nLiveTup := t.nLiveTup.getD (-1),
        nDeadTup := t.nDeadTup.getD (-1), daysSinceVacuum := daysSince db t.lastMaintained }

/-- `FIND_ANALYZE_OVERDUE`. There is no variant for an order. -/
def analyzeOverdueQuery (days : Int) : ModeQuery StatTable OverdueAnalyzeTableInfo :=
  statQuery db StatTable.lastAnalyzed (fun t => before t.lastAnalyzed (db.daysAgo days))
    (fun a b => lastMaintainedLe a.lastAnalyzed b.lastAnalyzed)
    fun t =>
      { schemaName := t.schemaname, tableName := t.relname, nLiveTup := t.nLiveTup.getD (-1),
        nModSinceAnalyze := t.nModSinceAnalyze.getD (-1),
        daysSinceAnalyze := daysSince db t.lastAnalyzed }

/-- The max-threshold query selects a table of this name. It takes neither order nor limit. -/
def MaxThrWants (pg18 : Bool) (schemas : List String) (maxThreshold : ℚ) (minBytes maxBytes : Int)
    (name : Option String) (table : TableKey) : Prop :=
  ∃ t ∈ db.catalog.tables, (t.schemaname, t.relname) = table ∧
    t.considered schemas minBytes maxBytes = true ∧ t.named name = true ∧
    t.aboveMaxThr (maxThrTerms db.catalog.settings pg18 maxThreshold t) = true

/-- The tables that a discovery query selects: those that meet its condition, are in its schemas
and of a size within its bounds, and have its name if it has one. -/
def Database.Selects : Call → TableKey → Prop
  | .findNeverVacuumed query => (neverVacuumedQuery db).Wants query
  | .findNeverAnalyzed query => (neverAnalyzedQuery db).Wants query
  | .findWraparoundCandidates minAge query => (wraparoundQuery db minAge).Wants query
  | .findBloatCandidates thresholdPct minDeadTup query =>
    (bloatQuery db thresholdPct minDeadTup).Wants query
  | .findNeedsVacuum threshold scaleFactor query =>
    (needsVacuumQuery db threshold scaleFactor).Wants query
  | .findNeedsVacuumMaxThr pg18 schemas maxThreshold minBytes maxBytes name =>
    MaxThrWants db pg18 schemas maxThreshold minBytes maxBytes name
  | .findVacuumOverdue days query => (vacuumOverdueQuery db days).Wants query
  | .findAnalyzeOverdue days query => (analyzeOverdueQuery db days).Wants query
  | _ => fun _ => False

/-- What the server may answer to the discovery queries, and to the reads of the settings that they
depend on. -/
def Database.Tells : (c : Call) → c.Row → Prop
  | .getServerVersionNum, version => version = db.serverVersionNum
  | .getFreezeMaxAge, maxAge => maxAge = db.freezeMaxAge
  | .getVacuumSettings, thresholds =>
    thresholds = (db.settings.vacuumThreshold, db.settings.vacuumScaleFactor)
  | .getVacuumMaxThreshold, cap => cap = db.settings.vacuumMaxThreshold
  | .findNeverVacuumed query, rows => (neverVacuumedQuery db).Answers query rows
  | .findNeverAnalyzed query, rows => (neverAnalyzedQuery db).Answers query rows
  | .findWraparoundCandidates minAge query, rows => (wraparoundQuery db minAge).Answers query rows
  | .findBloatCandidates thresholdPct minDeadTup query, rows =>
    (bloatQuery db thresholdPct minDeadTup).Answers query rows
  | .findNeedsVacuum threshold scaleFactor query, rows =>
    FindNeedsVacuum db.catalog threshold scaleFactor query rows
  | .findNeedsVacuumMaxThr pg18 schemas maxThreshold minBytes maxBytes table, rows =>
    FindNeedsVacuumMaxThr db.catalog pg18 schemas maxThreshold minBytes maxBytes table rows
  | .findVacuumOverdue days query, rows => (vacuumOverdueQuery db days).Answers query rows
  | .findAnalyzeOverdue days query, rows => (analyzeOverdueQuery db days).Answers query rows
  | _, _ => True

end Modes

end PgMaintainer
