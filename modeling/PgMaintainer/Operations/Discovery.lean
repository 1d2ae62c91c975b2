import Mathlib.Data.List.Sort
import PgMaintainer.Session

/-!
# Discovery, settings reads and the concurrency guard

The queries that find candidates, the merge of the two needs-vacuum lists, the resolution of
`--also-tables` and the advisory lock, after `operations.rs`.
-/

namespace PgMaintainer

open Interaction

/-! ## Concurrency guard -/

/-- Try to acquire a session-scoped advisory lock for the given schema list. The lock ID is a
hash of the joined schema names. -/
def tryAcquireSchemaLock (schemas : List String) : RunM Unit := do
  let schemasStr := ",".intercalate schemas
  let lockId ← queryContext (.hashtext schemasStr) "Failed to compute schema lock ID"
  let acquired ← queryContext (.tryAdvisoryLock lockId) "Failed to acquire advisory lock"
  if !acquired then
    .fail (.new (s!"Another pg-maintainer run is already active on schema(s): {schemasStr}. " ++
      "Release the existing lock or wait for the other process to complete."))
  else
    pure ()

/-! ## Discovery queries -/

/-- Which query a discovery sends: with a table filter the one for that table, which takes
neither order nor limit, else the one for the chosen order. -/
def discoveryScope (table : Option String) (orderBy : Option OrderBy) (limit : Int) :
    DiscoveryScope :=
  match table with
  | some tbl => .table tbl
  | none => .all orderBy limit

/-- Tables in the given schemas that have never been vacuumed. -/
def findNeverVacuumed (schemas : List String) (table : Option String) (minBytes maxBytes : Int)
    (limit : Int) (orderBy : Option OrderBy) : RunM (List TableInfo) :=
  queryContext
    (.findNeverVacuumed ⟨schemas, discoveryScope table orderBy limit, minBytes, maxBytes⟩)
    "Failed to query never-vacuumed tables"

/-- Tables in the given schemas that have never been analyzed. -/
def findNeverAnalyzed (schemas : List String) (table : Option String) (minBytes maxBytes : Int)
    (limit : Int) (orderBy : Option OrderBy) : RunM (List TableInfo) :=
  queryContext
    (.findNeverAnalyzed ⟨schemas, discoveryScope table orderBy limit, minBytes, maxBytes⟩)
    "Failed to query never-analyzed tables"

/-- Tables whose transaction ID age exceeds `minAge`. -/
def findWraparoundCandidates (schemas : List String) (minAge : Int) (table : Option String)
    (minBytes maxBytes : Int) (limit : Int) (orderBy : Option OrderBy) :
    RunM (List FreezeTableInfo) :=
  queryContext
    (.findWraparoundCandidates minAge
      ⟨schemas, discoveryScope table orderBy limit, minBytes, maxBytes⟩)
    "Failed to query wraparound candidates"

/-- Tables with excessive dead tuples. -/
def findBloatCandidates (schemas : List String) (table : Option String)
    (bloatThresholdPct : ℚ) (bloatMinDeadTup : Int) (minBytes maxBytes : Int) (limit : Int)
    (orderBy : Option OrderBy) : RunM (List BloatTableInfo) :=
  queryContext
    (.findBloatCandidates bloatThresholdPct bloatMinDeadTup
      ⟨schemas, discoveryScope table orderBy limit, minBytes, maxBytes⟩)
    "Failed to query bloat candidates"

/-- Tables where dead tuples exceed the vacuum threshold formula. -/
def findNeedsVacuumCandidates (schemas : List String) (table : Option String)
    (vacuumThreshold : Int) (vacuumScaleFactor : ℚ) (minBytes maxBytes : Int) (limit : Int)
    (orderBy : Option OrderBy) : RunM (List NeedsVacuumTableInfo) := do
  let rows ← queryContext
    (.findNeedsVacuum vacuumThreshold vacuumScaleFactor
      ⟨schemas, discoveryScope table orderBy limit, minBytes, maxBytes⟩)
    "Failed to query needs-vacuum candidates"
  pure (rows.map fun t => { t with viaMaxThreshold := false })

/-- Tables whose most recent VACUUM is older than so many days. There is no order to choose. -/
def findVacuumOverdueCandidates (schemas : List String) (table : Option String)
    (olderThanDays : Int) (minBytes maxBytes : Int) (limit : Int) :
    RunM (List OverdueVacuumTableInfo) :=
  queryContext
    (.findVacuumOverdue olderThanDays
      ⟨schemas, discoveryScope table none limit, minBytes, maxBytes⟩)
    "Failed to query vacuum-overdue candidates"

/-- Tables whose most recent ANALYZE is older than so many days. There is no order to choose. -/
def findAnalyzeOverdueCandidates (schemas : List String) (table : Option String)
    (olderThanDays : Int) (minBytes maxBytes : Int) (limit : Int) :
    RunM (List OverdueAnalyzeTableInfo) :=
  queryContext
    (.findAnalyzeOverdue olderThanDays
      ⟨schemas, discoveryScope table none limit, minBytes, maxBytes⟩)
    "Failed to query analyze-overdue candidates"

/-! ## Settings reads -/

/-- `DEFAULT_VACUUM_THRESHOLD`. -/
def defaultVacuumThreshold : Int := 50

/-- `DEFAULT_VACUUM_SCALE_FACTOR`. -/
def defaultVacuumScaleFactor : ℚ := 1 / 5

/-- `DEFAULT_VACUUM_MAX_THRESHOLD_PRE18`. -/
def defaultVacuumMaxThresholdPre18 : Int := 100000000

/-- `MAX_THRESHOLD_FACTOR`. -/
def maxThresholdFactor : ℚ := 4 / 5

/-- `PG18_VERSION_NUM`. -/
def pg18VersionNum : Int := 180000

/-- `DEFAULT_BLOAT_MIN_DEAD_TUP`. -/
def defaultBloatMinDeadTup : Int := 1000

/-- The server's `autovacuum_freeze_max_age`. -/
def getFreezeMaxAge : RunM Int :=
  queryContext .getFreezeMaxAge "Failed to read autovacuum_freeze_max_age"

/-- The server's `autovacuum_vacuum_threshold` and `autovacuum_vacuum_scale_factor`. -/
def getVacuumSettings : RunM (Int × ℚ) :=
  queryContext .getVacuumSettings "Failed to read autovacuum_vacuum settings"

/-- The dead-tuple cap of the max-threshold pass: the default without the setting, no cap for
a negative setting, else the setting reduced by 20%. -/
def deriveMaxThreshold : Option Int → ℚ
  | none => defaultVacuumMaxThresholdPre18
  | some v => if v < 0 then -1 else v * maxThresholdFactor

/-- Resolve the cap for the connected server. -/
def getVacuumMaxThreshold (serverVersionNum : Int) : RunM ℚ := do
  if serverVersionNum < pg18VersionNum then
    pure (deriveMaxThreshold none)
  else
    let guc ← queryContext .getVacuumMaxThreshold
      "Failed to read autovacuum_vacuum_max_threshold"
    pure (deriveMaxThreshold (some guc))

/-- Tables autovacuum would act on under the capped threshold. The error is formatted into a
new message. -/
def findNeedsVacuumMaxThresholdCandidates (schemas : List String) (table : Option String)
    (maxThreshold : ℚ) (serverVersionNum : Int) (minBytes maxBytes : Int) :
    RunM (List NeedsVacuumTableInfo) := do
  match ← call (.findNeedsVacuumMaxThr (decide (pg18VersionNum ≤ serverVersionNum)) schemas
    maxThreshold minBytes maxBytes table) with
  | .ok rows => pure (rows.map fun t => { t with viaMaxThreshold := true })
  | .error err =>
    .fail (.new s!"Failed to query needs-vacuum max-threshold candidates: {err.display}")

/-! ## The merge of the two needs-vacuum lists -/

/-- Keep the first entry of every key not in `seen`. -/
def firstOfEachKey (seen : List TableKey) : List NeedsVacuumTableInfo → List NeedsVacuumTableInfo
  | [] => []
  | t :: ts =>
    if t.key ∈ seen then firstOfEachKey seen ts
    else t :: firstOfEachKey (t.key :: seen) ts

/-- `Option<SystemTime>`'s order: never maintained comes first. -/
def lastMaintainedLe : Option Int → Option Int → Prop
  | none, _ => True
  | some _, none => False
  | some a, some b => a ≤ b

instance : DecidableRel lastMaintainedLe
  | none, _ => inferInstanceAs (Decidable True)
  | some _, none => inferInstanceAs (Decidable False)
  | some a, some b => inferInstanceAs (Decidable (a ≤ b))

/-- The order in which candidates are processed. -/
def comesBefore (orderBy : Option OrderBy) (a b : NeedsVacuumTableInfo) : Prop :=
  match orderBy with
  | none => b.nDeadTup ≤ a.nDeadTup
  | some .size => b.sizeBytes ≤ a.sizeBytes
  | some .lastMaintained => lastMaintainedLe a.lastMaintained b.lastMaintained

instance (orderBy : Option OrderBy) : DecidableRel (comesBefore orderBy) := fun a b =>
  match orderBy with
  | none => inferInstanceAs (Decidable (b.nDeadTup ≤ a.nDeadTup))
  | some .size => inferInstanceAs (Decidable (b.sizeBytes ≤ a.sizeBytes))
  | some .lastMaintained =>
    inferInstanceAs (Decidable (lastMaintainedLe a.lastMaintained b.lastMaintained))

/-- `truncate(usize::try_from(limit).unwrap_or(usize::MAX))`: a negative limit keeps all. -/
def truncate (limit : Int) (tables : List NeedsVacuumTableInfo) : List NeedsVacuumTableInfo :=
  if limit < 0 then tables else tables.take limit.toNat

/-- Combine the classic candidates with the max-threshold pass: one entry per table, the
classic one first, then the order and the limit. The sort is stable. -/
def mergeNeedsVacuumCandidates (classic maxThreshold : List NeedsVacuumTableInfo)
    (orderBy : Option OrderBy) (limit : Int) : List NeedsVacuumTableInfo :=
  truncate limit ((firstOfEachKey [] (classic ++ maxThreshold)).insertionSort
    (comesBefore orderBy))

/-- A classic candidate is never merged away. -/
theorem merge_without_max_threshold_eq_nil {classic : List NeedsVacuumTableInfo}
    {orderBy : Option OrderBy} {limit : Int} (hlimit : 0 < limit) :
    mergeNeedsVacuumCandidates classic [] orderBy limit = [] ↔ classic = [] := by
  have hsort : ∀ tables : List NeedsVacuumTableInfo,
      tables.insertionSort (comesBefore orderBy) = [] ↔ tables = [] := fun tables => by
    rw [← List.length_eq_zero_iff, List.length_insertionSort, List.length_eq_zero_iff]
  have hfirst : firstOfEachKey [] classic = [] ↔ classic = [] := by
    cases classic <;> simp [firstOfEachKey]
  have htake : limit.toNat ≠ 0 := by omega
  simp [mergeNeedsVacuumCandidates, truncate, not_lt.2 hlimit.le, hsort, hfirst, htake]

/-! ## Schemas and explicit tables -/

/-- Discover all user-visible schemas. -/
def discoverAllUserSchemas : RunM (List String) :=
  queryContext .getAllUserSchemas "Failed to discover schemas"

/-- Whether an explicit table is in the scope of the run: outside the logbook schema, and in
one of the schemas the lock covers. -/
def inScope (schemas : List String) (t : ExplicitTable) : Bool :=
  t.schemaName != logbookSchemaName && schemas.contains t.schemaName

/-- Narrow an explicit table list to the entries that can be maintained. -/
def resolveExplicitTables (requested : List ExplicitTable) (schemas : List String) :
    RunM (List ExplicitTable) := do
  let tables := requested.filter (inScope schemas)
  if tables.isEmpty then
    pure []
  else
    let existing ← queryContext
      (.findExplicitTables (tables.map (·.schemaName)) (tables.map (·.tableName)))
      "Failed to resolve --also-tables entries"
    pure (tables.filter fun t => existing.contains t.key)

end PgMaintainer
