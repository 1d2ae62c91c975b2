import PgMaintainer.Operations.Discovery

/-!
# The two queries for tables that need a vacuum

`FIND_NEEDS_VACUUM` with its three variants, and `FIND_NEEDS_VACUUM_MAX_THR`, of `queries.rs` over
the catalog they read. A `float8` is read as the rational it stands for, and an answer is any order
of the selected rows that `ORDER BY` allows.
-/

namespace PgMaintainer

/-! ## The catalog -/

/-- The per-table storage parameters of autovacuum, as `pg_options_to_table` lists them. A parameter
is set at most once, so the largest value under its name is its value, or NULL. -/
structure Reloptions where
  vacuumThreshold : Option Int
  vacuumScaleFactor : Option ℚ
  vacuumMaxThreshold : Option Int
  vacuumInsertThreshold : Option Int
  vacuumInsertScaleFactor : Option ℚ
  /-- The server takes no negative insert scale factor. -/
  insert_scale_nonneg : ∀ factor ∈ vacuumInsertScaleFactor, 0 ≤ factor

/-- A row of `pg_stat_user_tables` joined with its row of `pg_class`. -/
structure CatalogTable where
  relid : BitVec 32
  schemaname : String
  relname : String
  relkind : Char
  nLiveTup : Option Int
  nDeadTup : Option Int
  nInsSinceVacuum : Option Int
  lastVacuum : Option Int
  lastAutovacuum : Option Int
  /-- `pg_table_size(relid)`. -/
  sizeBytes : Int
  /-- -1 if the table was never analyzed. -/
  reltuples : ℚ
  relpages : Nat
  relallfrozen : Nat
  reloptions : Reloptions

/-- The settings of autovacuum. -/
structure AutovacuumSettings where
  vacuumThreshold : Int
  vacuumScaleFactor : ℚ
  /-- Read on version 18 and later only, -1 for no cap. -/
  vacuumMaxThreshold : Int
  vacuumInsertThreshold : Int
  vacuumInsertScaleFactor : ℚ
  /-- The server takes no negative insert scale factor. -/
  insert_scale_nonneg : 0 ≤ vacuumInsertScaleFactor

/-- What the queries see of a server. No two tables have one id. -/
structure Catalog where
  serverVersionNum : Int
  settings : AutovacuumSettings
  tables : List CatalogTable
  relids_nodup : (tables.map CatalogTable.relid).Nodup

/-! ## What both queries have in common -/

/-- `n > x`, which NULL is not. -/
def exceeds (n : Option Int) (x : ℚ) : Bool :=
  match n with
  | some n => decide (x < n)
  | none => false

/-- The rows both queries look at: in the schemas, no partitioned parent, and between the sizes. -/
def CatalogTable.considered (t : CatalogTable) (schemas : List String) (minBytes maxBytes : Int) :
    Bool :=
  schemas.contains t.schemaname && t.relkind != 'p' &&
    (decide (minBytes ≤ t.sizeBytes) && decide (t.sizeBytes ≤ maxBytes))

/-- `GREATEST(last_vacuum, last_autovacuum)`. -/
def CatalogTable.lastMaintained (t : CatalogTable) : Option Int :=
  Option.merge max t.lastVacuum t.lastAutovacuum

/-- The columns of a selected row. -/
def needsVacuumRow (t : CatalogTable) : NeedsVacuumTableInfo where
  schemaName := t.schemaname
  tableName := t.relname
  nLiveTup := t.nLiveTup.getD (-1)
  nDeadTup := t.nDeadTup.getD (-1)
  sizeBytes := t.sizeBytes
  lastMaintained := t.lastMaintained
  viaMaxThreshold := false

/-- `ORDER BY n_dead_tup DESC NULLS LAST`. -/
def nDeadTupDesc (a b : CatalogTable) : Prop :=
  match a.nDeadTup, b.nDeadTup with
  | _, none => True
  | none, some _ => False
  | some x, some y => y ≤ x

/-! ## The classic query -/

/-- `n_dead_tup > thr + sf * COALESCE(n_live_tup, 0)`. -/
def CatalogTable.aboveClassic (t : CatalogTable) (threshold : Int) (scaleFactor : ℚ) : Bool :=
  exceeds t.nDeadTup (threshold + scaleFactor * t.nLiveTup.getD 0)

/-- `ORDER BY` of the variant for an order. -/
def classicOrder (orderBy : Option OrderBy) (a b : CatalogTable) : Prop :=
  match orderBy with
  | none => nDeadTupDesc a b
  | some .size => b.sizeBytes ≤ a.sizeBytes
  | some .lastMaintained => lastMaintainedLe a.lastMaintained b.lastMaintained

variable (catalog : Catalog)

/-- An answer of the classic query: of `FIND_NEEDS_VACUUM_TABLE` with a table name, else of the
variant for the order. -/
def FindNeedsVacuum (threshold : Int) (scaleFactor : ℚ) (query : Discovery)
    (rows : List NeedsVacuumTableInfo) : Prop :=
  let selected := catalog.tables.filter fun t =>
    t.considered query.schemas query.minBytes query.maxBytes &&
      t.aboveClassic threshold scaleFactor
  match query.scope with
  | .table name => ∃ sorted : List CatalogTable,
      sorted.Perm (selected.filter fun t => t.relname == name) ∧
        sorted.Pairwise nDeadTupDesc ∧ rows = sorted.map needsVacuumRow
  | .all orderBy limit => ∃ sorted : List CatalogTable, sorted.Perm selected ∧
      sorted.Pairwise (classicOrder orderBy) ∧ 0 ≤ limit ∧
        rows = (sorted.take limit.toNat).map needsVacuumRow

/-! ## The max-threshold query -/

/-- A row of the common table expression `t`. -/
structure MaxThrTerms where
  reltuples : ℚ
  frozenFrac : ℚ
  thr : ℚ
  sf : ℚ
  maxThr : ℚ
  insThr : ℚ
  insSf : ℚ

/-- `COALESCE(1 - relallfrozen::float8 / NULLIF(relpages, 0), 1)`, and 1 before version 18. -/
def CatalogTable.frozenFrac (t : CatalogTable) (pg18 : Bool) : ℚ :=
  if pg18 then if t.relpages = 0 then 1 else 1 - t.relallfrozen / t.relpages
  else 1

/-- The columns of `t`, where `maxThreshold` is `$2`. -/
def maxThrTerms (settings : AutovacuumSettings) (pg18 : Bool) (maxThreshold : ℚ)
    (t : CatalogTable) : MaxThrTerms where
  reltuples := max t.reltuples 0
  frozenFrac := t.frozenFrac pg18
  thr := (t.reloptions.vacuumThreshold.getD settings.vacuumThreshold : Int)
  sf := t.reloptions.vacuumScaleFactor.getD settings.vacuumScaleFactor
  maxThr := (t.reloptions.vacuumMaxThreshold.map Int.cast).getD maxThreshold
  insThr := (t.reloptions.vacuumInsertThreshold.getD settings.vacuumInsertThreshold : Int)
  insSf := t.reloptions.vacuumInsertScaleFactor.getD settings.vacuumInsertScaleFactor

namespace MaxThrTerms

variable (terms : MaxThrTerms)

/-- `vac_thr`. -/
def vacThr : ℚ :=
  if 0 ≤ terms.maxThr then min (terms.thr + terms.sf * terms.reltuples) terms.maxThr
  else terms.thr + terms.sf * terms.reltuples

/-- `ins_thr_eff`. -/
def insThrEff : ℚ := terms.insThr + terms.insSf * terms.reltuples * terms.frozenFrac

end MaxThrTerms

/-- `n_dead_tup > vac_thr OR (ins_thr >= 0 AND n_ins_since_vacuum > ins_thr_eff)`. -/
def CatalogTable.aboveMaxThr (t : CatalogTable) (terms : MaxThrTerms) : Bool :=
  exceeds t.nDeadTup terms.vacThr ||
    (decide (0 ≤ terms.insThr) && exceeds t.nInsSinceVacuum terms.insThrEff)

/-- `$5 IS NULL OR relname = $5`. -/
def CatalogTable.named (t : CatalogTable) (table : Option String) : Bool :=
  match table with
  | some name => t.relname == name
  | none => true

/-- An answer of the max-threshold query, of the variant for version 18 and later or of the other
one. -/
def FindNeedsVacuumMaxThr (pg18 : Bool) (schemas : List String) (maxThreshold : ℚ)
    (minBytes maxBytes : Int) (table : Option String) (rows : List NeedsVacuumTableInfo) : Prop :=
  let selected := catalog.tables.filter fun t =>
    t.considered schemas minBytes maxBytes && t.named table &&
      t.aboveMaxThr (maxThrTerms catalog.settings pg18 maxThreshold t)
  ∃ sorted : List CatalogTable, sorted.Perm selected ∧ sorted.Pairwise nDeadTupDesc ∧
    rows = sorted.map needsVacuumRow

end PgMaintainer
