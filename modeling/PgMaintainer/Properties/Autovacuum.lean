import Mathlib.Data.FinEnum
import Mathlib.Data.List.Perm.Subperm
import PgMaintainer.Properties.Merging
import PgMaintainer.Queries.NeedsVacuum
import PgMaintainer.Rules
import PgMaintainer.Run.Server

/-!
# What autovacuum would vacuum

Autovacuum takes a table that has more dead tuples than its threshold, or more inserts since its
last vacuum than its insert threshold. The max-threshold query compares with lower thresholds: its
cap is reduced or assumed, and it subtracts no smaller part for frozen pages. So, the two queries
together miss no table that autovacuum would take.
-/

namespace PgMaintainer

open Interaction

/-! ## The rule of autovacuum -/

section Rule

variable (catalog : Catalog) (t : CatalogTable)

/-- The server has a cap on the threshold. -/
def Catalog.pg18 : Bool := decide (pg18VersionNum ≤ catalog.serverVersionNum)

/-- A threshold under a cap; a negative cap is none. -/
def capped (base cap : ℚ) : ℚ := if 0 ≤ cap then min base cap else base

/-- The dead tuples above which autovacuum takes a table. -/
def vacuumThreshold : ℚ :=
  let settings := catalog.settings
  let threshold : Int := t.reloptions.vacuumThreshold.getD settings.vacuumThreshold
  let scale := t.reloptions.vacuumScaleFactor.getD settings.vacuumScaleFactor
  let base := threshold + scale * max t.reltuples 0
  let cap : Int := t.reloptions.vacuumMaxThreshold.getD settings.vacuumMaxThreshold
  if catalog.pg18 then capped base cap else base

/-- The part of the pages that is not all frozen. -/
def unfrozenFraction : ℚ :=
  if catalog.pg18 then
    if t.relpages = 0 then 1 else 1 - (min t.relallfrozen t.relpages : Nat) / t.relpages
  else 1

/-- The insert threshold of a table before it is scaled, negative if inserts do not count. -/
def insertBase : Int :=
  t.reloptions.vacuumInsertThreshold.getD catalog.settings.vacuumInsertThreshold

/-- The inserts above which autovacuum takes a table. -/
def insertThreshold : ℚ :=
  let scale := t.reloptions.vacuumInsertScaleFactor.getD catalog.settings.vacuumInsertScaleFactor
  insertBase catalog t + scale * max t.reltuples 0 * unfrozenFraction catalog t

/-- Autovacuum takes the table. -/
def AutovacuumSelects : Prop :=
  (∃ dead ∈ t.nDeadTup, vacuumThreshold catalog t < (dead : Int)) ∨
    0 ≤ insertBase catalog t ∧ ∃ ins ∈ t.nInsSinceVacuum, insertThreshold catalog t < (ins : Int)

end Rule

/-! ## The thresholds of the query are lower -/

section Thresholds

/-- A cap only lowers a threshold. -/
theorem capped_le (base cap : ℚ) : capped base cap ≤ base := by
  unfold capped
  by_cases hcap : 0 ≤ cap
  · rw [if_pos hcap]
    exact min_le_left base cap
  · rw [if_neg hcap]

/-- A lower cap, if there is one at all, lowers it further. -/
theorem capped_mono {base cap cap' : ℚ} (h : 0 ≤ cap → 0 ≤ cap' ∧ cap' ≤ cap) :
    capped base cap' ≤ capped base cap := by
  by_cases hcap : 0 ≤ cap
  · obtain ⟨hcap', hle⟩ := h hcap
    rw [capped, capped, if_pos hcap, if_pos hcap']
    exact min_le_min_left base hle
  · have hbase : capped base cap = base := if_neg hcap
    rw [hbase]
    exact capped_le base cap'

/-- The cap of the run is a reduced cap of the server. -/
theorem derive_max_threshold_reduces {guc : Int} (hguc : (0 : ℚ) ≤ guc) :
    0 ≤ deriveMaxThreshold (some guc) ∧ deriveMaxThreshold (some guc) ≤ guc := by
  have hnonneg : ¬guc < 0 := not_lt.2 (Int.cast_nonneg_iff.1 hguc)
  have hcap : deriveMaxThreshold (some guc) = guc * (4 / 5) := if_neg hnonneg
  rw [hcap]
  constructor
  · positivity
  · linarith

/-- A number above a bound exceeds every smaller one. -/
theorem exceeds_of_lt {n : Option Int} {v : Int} {x y : ℚ} (hn : v ∈ n) (hlt : x < v)
    (hle : y ≤ x) : exceeds n y = true := by
  rw [Option.mem_def.1 hn]
  exact decide_eq_true (lt_of_le_of_lt hle hlt)

variable (catalog : Catalog) (t : CatalogTable)

/-- `$2`: what the run derives of the server's setting, which there is none of before version 18. -/
def Catalog.maxThreshold : ℚ :=
  deriveMaxThreshold (if catalog.pg18 then some catalog.settings.vacuumMaxThreshold else none)

/-- What the query computes for a table. -/
def Catalog.terms : MaxThrTerms :=
  maxThrTerms catalog.settings catalog.pg18 catalog.maxThreshold t

/-- The query's vacuum threshold is at most autovacuum's. -/
theorem vac_thr_le : (catalog.terms t).vacThr ≤ vacuumThreshold catalog t := by
  have hquery : (catalog.terms t).vacThr =
      capped ((catalog.terms t).thr + (catalog.terms t).sf * (catalog.terms t).reltuples)
        (catalog.terms t).maxThr := rfl
  rw [hquery]
  cases h18 : catalog.pg18 with
  | false =>
      have hrule : vacuumThreshold catalog t =
          (catalog.terms t).thr + (catalog.terms t).sf * (catalog.terms t).reltuples := by
        rw [vacuumThreshold, h18]
        rfl
      rw [hrule]
      exact capped_le _ _
  | true =>
      have hrule : vacuumThreshold catalog t =
          capped ((catalog.terms t).thr + (catalog.terms t).sf * (catalog.terms t).reltuples)
            (t.reloptions.vacuumMaxThreshold.getD catalog.settings.vacuumMaxThreshold : Int) := by
        rw [vacuumThreshold, h18]
        rfl
      rw [hrule]
      refine capped_mono fun hcap => ?_
      cases hown : t.reloptions.vacuumMaxThreshold with
      | some own =>
          -- the cap of the table itself is not reduced
          have hmax : (catalog.terms t).maxThr = own := by
            rw [Catalog.terms, maxThrTerms, hown]
            rfl
          rw [hown] at hcap
          rw [hmax]
          exact ⟨hcap, le_refl _⟩
      | none =>
          have hmax : (catalog.terms t).maxThr =
              deriveMaxThreshold (some catalog.settings.vacuumMaxThreshold) := by
            rw [Catalog.terms, maxThrTerms, hown, Catalog.maxThreshold, h18]
            rfl
          rw [hown] at hcap
          rw [hmax]
          exact derive_max_threshold_reduces hcap

/-- The query's fraction of unfrozen pages is at most autovacuum's. -/
theorem frozen_frac_le : t.frozenFrac catalog.pg18 ≤ unfrozenFraction catalog t := by
  unfold CatalogTable.frozenFrac unfrozenFraction
  cases catalog.pg18 with
  | false => exact le_refl _
  | true =>
      by_cases hpages : t.relpages = 0
      · rw [if_pos hpages, if_pos hpages]
      · rw [if_neg hpages, if_neg hpages]
        have hmin : ((min t.relallfrozen t.relpages : Nat) : ℚ) ≤ t.relallfrozen :=
          Nat.cast_le.2 (min_le_left _ _)
        have hdiv := div_le_div_of_nonneg_right hmin (Nat.cast_nonneg t.relpages)
        exact sub_le_sub_left hdiv 1

/-- So the query's insert threshold is at most autovacuum's. -/
theorem ins_thr_eff_le : (catalog.terms t).insThrEff ≤ insertThreshold catalog t := by
  have hscale : 0 ≤ (catalog.terms t).insSf := by
    show 0 ≤ t.reloptions.vacuumInsertScaleFactor.getD catalog.settings.vacuumInsertScaleFactor
    cases hown : t.reloptions.vacuumInsertScaleFactor with
    | none => exact catalog.settings.insert_scale_nonneg
    | some own => exact t.reloptions.insert_scale_nonneg own hown
  have hrows : 0 ≤ (catalog.terms t).insSf * (catalog.terms t).reltuples :=
    mul_nonneg hscale (le_max_right t.reltuples 0)
  have hscaled := mul_le_mul_of_nonneg_left (frozen_frac_le catalog t) hrows
  exact add_le_add (le_refl _) hscaled

/-- What autovacuum takes, the max-threshold query selects. -/
theorem above_max_thr_of_selects (h : AutovacuumSelects catalog t) :
    t.aboveMaxThr (catalog.terms t) = true := by
  rw [CatalogTable.aboveMaxThr, Bool.or_eq_true]
  obtain ⟨dead, hdead, hlt⟩ | ⟨hcounts, ins, hins, hlt⟩ := h
  · exact .inl (exceeds_of_lt hdead hlt (vac_thr_le catalog t))
  · have hthr : 0 ≤ (catalog.terms t).insThr := Int.cast_nonneg_iff.2 hcounts
    rw [Bool.and_eq_true]
    exact .inr ⟨decide_eq_true hthr, exceeds_of_lt hins hlt (ins_thr_eff_le catalog t)⟩

end Thresholds

/-! ## The answers and their merge -/

section Answers

variable {catalog : Catalog}

/-- The key of a table. -/
def CatalogTable.key (t : CatalogTable) : TableKey := (t.schemaname, t.relname)

/-- A catalog has no more tables than there are ids. -/
theorem length_tables_le (catalog : Catalog) : catalog.tables.length ≤ 2 ^ 32 := by
  have hcard := catalog.relids_nodup.length_le_card
  rwa [List.length_map, ← FinEnum.card_eq_fintypeCard, FinEnum.card_bitVec] at hcard

/-- Rows that are all tables of the catalog. -/
def FromCatalog (catalog : Catalog) (rows : List NeedsVacuumTableInfo) : Prop :=
  ∀ row ∈ rows, ∃ t ∈ catalog.tables, row.key = t.key

/-- Of the rows of tables, each is from the catalog. -/
theorem from_catalog_of_subset {tables : List CatalogTable} (h : tables ⊆ catalog.tables) :
    FromCatalog catalog (tables.map needsVacuumRow) := by
  intro row hrow
  obtain ⟨t, ht, rfl⟩ := List.mem_map.1 hrow
  exact ⟨t, h ht, rfl⟩

/-- A table of the catalog has its row. -/
theorem key_mem_rows {tables : List CatalogTable} {t : CatalogTable} (ht : t ∈ tables) :
    t.key ∈ (tables.map needsVacuumRow).map NeedsVacuumTableInfo.key :=
  List.mem_map.2 ⟨needsVacuumRow t, List.mem_map_of_mem ht, rfl⟩

/-- The flag is no part of the key. -/
theorem map_key_flag (flag : Bool) (rows : List NeedsVacuumTableInfo) :
    (rows.map fun row => { row with viaMaxThreshold := flag }).map NeedsVacuumTableInfo.key =
      rows.map NeedsVacuumTableInfo.key := by
  rw [List.map_map]
  rfl

variable {schemas : List String} {table : Option String} {minBytes maxBytes limit threshold : Int}
  {scaleFactor : ℚ} {orderBy : Option OrderBy} {rows : List NeedsVacuumTableInfo}
  {t : CatalogTable}

/-- The classic query names the tables above its formula, and only tables. -/
theorem classic_answer
    (h : FindNeedsVacuum catalog threshold scaleFactor
      ⟨schemas, discoveryScope table orderBy limit, minBytes, maxBytes⟩ rows)
    (hlimit : (2 : Int) ^ 32 ≤ limit) :
    FromCatalog catalog rows ∧
      ∀ t ∈ catalog.tables, t.considered schemas minBytes maxBytes = true →
        t.named table = true → t.aboveClassic threshold scaleFactor = true →
          t.key ∈ rows.map NeedsVacuumTableInfo.key := by
  cases table with
  | some name =>
      obtain ⟨sorted, hperm, -, rfl⟩ := h
      constructor
      · refine from_catalog_of_subset fun t ht => ?_
        exact List.mem_of_mem_filter (List.mem_of_mem_filter (hperm.mem_iff.1 ht))
      · intro t ht hconsidered hnamed habove
        refine key_mem_rows (hperm.mem_iff.2 (List.mem_filter.2 ⟨?_, hnamed⟩))
        refine List.mem_filter.2 ⟨ht, ?_⟩
        rw [hconsidered, habove]
        rfl
  | none =>
      obtain ⟨sorted, hperm, -, -, rfl⟩ := h
      -- there are fewer tables than the limit, so nothing is cut
      have hlength : sorted.length ≤ limit.toNat := by
        have hsorted := hperm.length_eq.trans_le (List.length_filter_le _ _)
        have htables := length_tables_le catalog
        omega
      rw [List.take_of_length_le hlength]
      constructor
      · refine from_catalog_of_subset fun t ht => ?_
        exact List.mem_of_mem_filter (hperm.mem_iff.1 ht)
      · intro t ht hconsidered _ habove
        refine key_mem_rows (hperm.mem_iff.2 (List.mem_filter.2 ⟨ht, ?_⟩))
        rw [hconsidered, habove]
        rfl

/-- The max-threshold query names what autovacuum takes, and only tables. -/
theorem max_thr_answer
    (h : FindNeedsVacuumMaxThr catalog catalog.pg18 schemas catalog.maxThreshold minBytes maxBytes
      table rows) :
    FromCatalog catalog rows ∧
      ∀ t ∈ catalog.tables, t.considered schemas minBytes maxBytes = true →
        t.named table = true → AutovacuumSelects catalog t →
          t.key ∈ rows.map NeedsVacuumTableInfo.key := by
  obtain ⟨sorted, hperm, -, rfl⟩ := h
  constructor
  · refine from_catalog_of_subset fun t ht => ?_
    exact List.mem_of_mem_filter (hperm.mem_iff.1 ht)
  · intro t ht hconsidered hnamed hselects
    refine key_mem_rows (hperm.mem_iff.2 (List.mem_filter.2 ⟨ht, ?_⟩))
    have habove := above_max_thr_of_selects catalog t hselects
    rw [hconsidered, hnamed]
    exact habove

/-- A limit above the number of ids cuts nothing off the merge. -/
theorem mem_merge_keys {classic maxThr : List NeedsVacuumTableInfo} {key : TableKey}
    (hclassic : FromCatalog catalog classic) (hmaxThr : FromCatalog catalog maxThr)
    (hlimit : (2 : Int) ^ 32 ≤ limit)
    (hkey : key ∈ classic.map NeedsVacuumTableInfo.key ∨
      key ∈ maxThr.map NeedsVacuumTableInfo.key) :
    key ∈ (mergeNeedsVacuumCandidates classic maxThr orderBy limit).map
      NeedsVacuumTableInfo.key := by
  have hranks := merged_ranks classic maxThr orderBy
  have hsubset : (mergeNeedsVacuumCandidates classic maxThr orderBy (-1)).map
      NeedsVacuumTableInfo.key ⊆ catalog.tables.map CatalogTable.key := by
    intro k hk
    obtain hk | hk := (mem_merged_keys _ _ _ k).1 hk
    · obtain ⟨row, hrow, rfl⟩ := List.mem_map.1 hk
      obtain ⟨t, ht, hrowkey⟩ := hclassic row hrow
      exact List.mem_map.2 ⟨t, ht, hrowkey.symm⟩
    · obtain ⟨row, hrow, rfl⟩ := List.mem_map.1 hk
      obtain ⟨t, ht, hrowkey⟩ := hmaxThr row hrow
      exact List.mem_map.2 ⟨t, ht, hrowkey.symm⟩
  -- no two entries share a key, and there are no more keys than tables
  have hlength : (mergeNeedsVacuumCandidates classic maxThr orderBy (-1)).length ≤
      limit.toNat := by
    have hle := (hranks.nodup.subperm hsubset).length_le
    rw [List.length_map, List.length_map] at hle
    have htables := length_tables_le catalog
    omega
  have hpos : ¬limit < 0 := by omega
  rw [merge_eq_truncate, truncate, if_neg hpos, List.take_of_length_le hlength]
  exact (mem_merged_keys _ _ _ key).2 hkey

end Answers

/-! ## A run on such a server -/

/-- The world of a server with this catalog. The reads behind the max-threshold pass are answered,
and the two queries with their rows, in any order that they allow. The classic query may also fail,
which ends the run. -/
def answering (catalog : Catalog) : World session where
  State := Unit
  Drift _ _ := False
  Answers _ op answer _ :=
    match op with
    | .call .getVacuumSettings =>
      answer = .ok (catalog.settings.vacuumThreshold, catalog.settings.vacuumScaleFactor)
    | .call .getServerVersionNum => answer = .ok catalog.serverVersionNum
    | .call .getVacuumMaxThreshold => answer = .ok catalog.settings.vacuumMaxThreshold
    | .call (.findNeedsVacuum threshold scaleFactor query) =>
      ∀ rows, answer = .ok rows → FindNeedsVacuum catalog threshold scaleFactor query rows
    | .call (.findNeedsVacuumMaxThr pg18 schemas maxThreshold minBytes maxBytes table) =>
      ∃ rows, answer = .ok rows ∧
        FindNeedsVacuumMaxThr catalog pg18 schemas maxThreshold minBytes maxBytes table rows
    | _ => True

section Discovery

variable {catalog : Catalog} {past : Trace (answering catalog)} {state : Unit}

/-- What a read that does not fail returns is not replaced. -/
theorem wp_or_else {α : Type} {p : RunM α} {fallback : α}
    {Q : α → Trace (answering catalog) → Unit → Prop}
    {E : AnyError → Trace (answering catalog) → Unit → Prop}
    (hp : wp (answering catalog) (fun _ _ => True) p Q (fun _ _ _ => False) past state) :
    wp (answering catalog) (fun _ _ => True) (orElse p fallback) Q E past state :=
  wp_seq_attempt hp (fun _ _ _ h => h) fun _ _ _ h => h.elim

/-- The settings read are the server's. -/
theorem wp_get_vacuum_settings :
    wp (answering catalog) (fun _ _ => True) getVacuumSettings
      (fun settings _ _ =>
        settings = (catalog.settings.vacuumThreshold, catalog.settings.vacuumScaleFactor))
      (fun _ _ _ => False) past state := by
  refine wp_queryContext.2 (wp_call.2 fun now _ answer after hanswer => ⟨trivial, ?_⟩)
  rw [show answer = _ from hanswer]

/-- The version read is the server's. -/
theorem wp_get_server_version_num :
    wp (answering catalog) (fun _ _ => True) getServerVersionNum
      (fun version _ _ => version = catalog.serverVersionNum) (fun _ _ _ => False) past state := by
  refine wp_queryContext.2 (wp_call.2 fun now _ answer after hanswer => ⟨trivial, ?_⟩)
  rw [show answer = _ from hanswer]

/-- The cap of the run is the one derived of the server's setting, which is not read before
version 18. -/
theorem wp_get_vacuum_max_threshold :
    wp (answering catalog) (fun _ _ => True) (getVacuumMaxThreshold catalog.serverVersionNum)
      (fun cap _ _ => cap = catalog.maxThreshold) (fun _ _ _ => False) past state := by
  refine wp_ite.2 ⟨fun hold => ?_, fun hnew => ?_⟩
  · have h18 : catalog.pg18 = false := decide_eq_false (not_le.2 hold)
    rw [Catalog.maxThreshold, h18]
    rfl
  · have h18 : catalog.pg18 = true := decide_eq_true (not_lt.1 hnew)
    refine wp_bind.2 (wp_queryContext.2 (wp_call.2 fun now _ answer after hanswer => ⟨trivial, ?_⟩))
    rw [show answer = _ from hanswer, Catalog.maxThreshold, h18]
    rfl

variable (plan : Plan)

/-- A table the phase is about: in the selected schemas and the size range, let through by the table
filter, and no partitioned parent. -/
structure Plan.Covers (t : CatalogTable) : Prop where
  schema : t.schemaname ∈ plan.schemas
  not_partitioned : t.relkind ≠ 'p'
  min_le : plan.settings.minBytes ≤ t.sizeBytes
  le_max : t.sizeBytes ≤ plan.settings.maxBytes
  name : ∀ table ∈ plan.settings.table, t.relname = table

/-- The classic formula selects the table, with the thresholds of the arguments, else the
server's. -/
def ClassicSelects (catalog : Catalog) (t : CatalogTable) : Prop :=
  let settings := catalog.settings
  let threshold := plan.settings.vacuumThreshold.getD settings.vacuumThreshold
  let scale := plan.settings.vacuumScaleFactor.getD settings.vacuumScaleFactor
  ∃ dead ∈ t.nDeadTup, threshold + scale * t.nLiveTup.getD 0 < (dead : Int)

variable {plan} {t : CatalogTable}

/-- A table the plan covers is among those the query looks at. -/
theorem considered_of_covers (h : plan.Covers t) :
    t.considered plan.schemas plan.settings.minBytes plan.settings.maxBytes = true := by
  have hschema : plan.schemas.contains t.schemaname = true := List.contains_iff_mem.2 h.schema
  have hkind : (t.relkind != 'p') = true := bne_iff_ne.2 h.not_partitioned
  rw [CatalogTable.considered, hschema, hkind, decide_eq_true h.min_le, decide_eq_true h.le_max]
  rfl

/-- It has the name of the filter. -/
theorem named_of_covers (h : plan.Covers t) : t.named plan.settings.table = true := by
  unfold CatalogTable.named
  cases htable : plan.settings.table with
  | none => rfl
  | some name => exact beq_iff_eq.2 (h.name name htable)

/-- The two lists that the run merges have all keys. -/
theorem wp_discover_covers (hlimit : (2 : Int) ^ 32 ≤ plan.limitN) :
    wp (answering catalog) (fun _ _ => True) (discoverNeedsVacuum plan)
      (fun candidates _ _ => ∀ t ∈ catalog.tables, plan.Covers t →
        AutovacuumSelects catalog t ∨ ClassicSelects plan catalog t →
          t.key ∈ candidates.map NeedsVacuumTableInfo.key)
      (fun _ _ _ => True) past state := by
  refine wp_seq (wp_or_else wp_get_vacuum_settings) fun settings past _ hsettings => ?_
  obtain rfl := hsettings
  have hclassic : wp (answering catalog) (fun _ _ => True)
      (withContext (findNeedsVacuumCandidates plan.schemas plan.settings.table
        (plan.settings.vacuumThreshold.getD catalog.settings.vacuumThreshold)
        (plan.settings.vacuumScaleFactor.getD catalog.settings.vacuumScaleFactor)
        plan.settings.minBytes plan.settings.maxBytes plan.limitN plan.settings.orderBy)
        "Failed to query needs-vacuum candidates")
      (fun classic _ _ => FromCatalog catalog classic ∧ ∀ t ∈ catalog.tables, plan.Covers t →
        ClassicSelects plan catalog t → t.key ∈ classic.map NeedsVacuumTableInfo.key)
      (fun _ _ _ => True) past () := by
    refine wp_withContext.2 (wp_bind.2 (wp_queryContext.2 (wp_call.2 ?_)))
    intro now _ answer after hanswer
    refine ⟨trivial, ?_⟩
    cases answer with
    | error err => trivial
    | ok rows =>
        obtain ⟨hfrom, hkeys⟩ := classic_answer (hanswer rows rfl) hlimit
        constructor
        · intro row hrow
          obtain ⟨info, hinfo, rfl⟩ := List.mem_map.1 hrow
          exact hfrom info hinfo
        · intro t ht hcovers hselects
          rw [map_key_flag]
          obtain ⟨dead, hdead, hlt⟩ := hselects
          exact hkeys t ht (considered_of_covers hcovers) (named_of_covers hcovers)
            (exceeds_of_lt hdead hlt (le_refl _))
  refine wp_seq hclassic fun classic past _ hclassic => ?_
  obtain ⟨hclassicFrom, hclassicKeys⟩ := hclassic
  refine wp_seq (wp_or_else wp_get_server_version_num) fun version past _ hversion => ?_
  obtain rfl := hversion
  refine wp_seq (wp_or_else wp_get_vacuum_max_threshold) fun cap past _ hcap => ?_
  obtain rfl := hcap
  have hmaxThr : wp (answering catalog) (fun _ _ => True)
      (findNeedsVacuumMaxThresholdCandidates plan.schemas plan.settings.table catalog.maxThreshold
        catalog.serverVersionNum plan.settings.minBytes plan.settings.maxBytes)
      (fun maxThr _ _ => FromCatalog catalog maxThr ∧ ∀ t ∈ catalog.tables, plan.Covers t →
        AutovacuumSelects catalog t → t.key ∈ maxThr.map NeedsVacuumTableInfo.key)
      (fun _ _ _ => False) past () := by
    refine wp_bind.2 (wp_call.2 fun now _ answer after hanswer => ⟨trivial, ?_⟩)
    obtain ⟨rows, rfl, hrows⟩ := hanswer
    obtain ⟨hfrom, hkeys⟩ := max_thr_answer hrows
    constructor
    · intro row hrow
      obtain ⟨info, hinfo, rfl⟩ := List.mem_map.1 hrow
      exact hfrom info hinfo
    · intro t ht hcovers hselects
      rw [map_key_flag]
      exact hkeys t ht (considered_of_covers hcovers) (named_of_covers hcovers) hselects
  refine wp_seq (wp_or_else hmaxThr) fun maxThr past _ hmaxThr => ?_
  obtain ⟨hmaxThrFrom, hmaxThrKeys⟩ := hmaxThr
  intro t ht hcovers hselects
  -- the merge cuts only what is above the limit, and nothing is
  refine mem_merge_keys hclassicFrom hmaxThrFrom hlimit ?_
  obtain hselects | hselects := hselects
  · exact .inr (hmaxThrKeys t ht hcovers hselects)
  · exact .inl (hclassicKeys t ht hcovers hselects)

end Discovery

/-- A discovery without a limit misses no table that autovacuum would take or that the classic
formula selects. -/
theorem needs_vacuum_covers_autovacuum {catalog : Catalog} {plan : Plan}
    (hlimit : plan.limitN = 2 ^ 63 - 1) {tr : Trace (answering catalog)} {last : Unit}
    {candidates : List NeedsVacuumTableInfo}
    (h : Exec (answering catalog) () (discoverNeedsVacuum plan) tr last (.pure candidates))
    {t : CatalogTable} (ht : t ∈ catalog.tables) (hcovers : plan.Covers t)
    (hselects : AutovacuumSelects catalog t ∨ ClassicSelects plan catalog t) :
    t.key ∈ candidates.map NeedsVacuumTableInfo.key := by
  have hlarge : (2 : Int) ^ 32 ≤ plan.limitN := by
    rw [hlimit]
    norm_num
  obtain ⟨_, -, hfound⟩ := h.returned (wp_discover_covers hlarge)
  exact hfound t ht hcovers hselects

/-- A wide table with few dead tuples for its size, but more than the cap. -/
def cappedTable : CatalogTable where
  relid := 16384
  schemaname := "public"
  relname := "events"
  relkind := 'r'
  nLiveTup := some 1000000
  nDeadTup := some 1001
  nInsSinceVacuum := some 0
  lastVacuum := none
  lastAutovacuum := none
  sizeBytes := 8192
  reltuples := 1000000
  relpages := 1
  relallfrozen := 0
  reloptions := ⟨none, none, none, none, none, by simp⟩

/-- Its server, of version 18 with a cap of 1000. -/
def cappedCatalog : Catalog where
  serverVersionNum := 180000
  settings := ⟨50, 1 / 5, 1000, 1000, 1 / 5, by norm_num⟩
  tables := [cappedTable]
  relids_nodup := List.nodup_singleton _

/-- The answers of that server, of which the classic query selects nothing. -/
def cappedAnswers (_ : Unit) (op : Op) : op.Answer × Unit :=
  match op with
  | .call .getVacuumSettings => (.ok (50, 1 / 5), ())
  | .call .getServerVersionNum => (.ok 180000, ())
  | .call .getVacuumMaxThreshold => (.ok 1000, ())
  | .call (.findNeedsVacuum threshold scaleFactor query) =>
    if threshold = 50 ∧ scaleFactor = 1 / 5 ∧
        query = ⟨["public"], .all none (2 ^ 63 - 1), 0, 2 ^ 63 - 1⟩ then
      (.ok [], ())
    else (.error .closed, ())
  | .call (.findNeedsVacuumMaxThr pg18 schemas maxThreshold minBytes maxBytes table) =>
    (.ok (([cappedTable].filter fun t =>
      t.considered schemas minBytes maxBytes && t.named table &&
        t.aboveMaxThr (maxThrTerms cappedCatalog.settings pg18 maxThreshold t)).map
      needsVacuumRow), ())
  | .call _ => (.error .closed, ())
  | .now => (0, ())
  | .sleepOrShutdown _ => (.slept, ())
  | .shutdownRequested | .isClosed | .isRequested | .gateIsDisabled => (false, ())
  | .gateDisable | .gateAddWaited _ | .gateRecordSkip | .log _ | .mark _ => ((), ())

/-- The answers are those of the catalog. -/
theorem capped_answers_allowed (state : Unit) (op : Op) :
    (answering cappedCatalog).Answers state op (cappedAnswers state op).1
      (cappedAnswers state op).2 := by
  cases op with
  | call c =>
      cases c with
      | getVacuumSettings => rfl
      | getServerVersionNum => rfl
      | getVacuumMaxThreshold => rfl
      | findNeedsVacuum threshold scaleFactor query =>
          intro rows hrows
          -- any other query is refused
          by_cases hasked : threshold = 50 ∧ scaleFactor = 1 / 5 ∧
              query = ⟨["public"], .all none (2 ^ 63 - 1), 0, 2 ^ 63 - 1⟩
          · have hnone : (cappedAnswers state
                (.call (.findNeedsVacuum threshold scaleFactor query))).1 = .ok [] := by
              rw [cappedAnswers, if_pos hasked]
            obtain rfl := Except.ok.inj (hnone.symm.trans hrows)
            obtain ⟨rfl, rfl, rfl⟩ := hasked
            exact ⟨[], .of_eq (by decide +kernel), .nil, by decide, rfl⟩
          · have hfails : (cappedAnswers state
                (.call (.findNeedsVacuum threshold scaleFactor query))).1 = .error .closed := by
              rw [cappedAnswers, if_neg hasked]
            cases hfails.symm.trans hrows
      | findNeedsVacuumMaxThr pg18 schemas maxThreshold minBytes maxBytes table =>
          exact ⟨_, rfl, _, .refl _, (List.pairwise_singleton _ _).sublist List.filter_sublist, rfl⟩
      | _ => trivial
  | _ => trivial

/-- A run for it. -/
def cappedPlan : Plan where
  settings := defaultSettings [.needsVacuum] []
  schemas := ["public"]
  wraparoundMinAge := 200000000
  lagGate := none
  alsoTables := []

/-- The cap alone makes autovacuum take the table, and the run finds it. -/
theorem capped_table_found :
    ¬ClassicSelects cappedPlan cappedCatalog cappedTable ∧ ∃ candidates,
      ((discoverNeedsVacuum cappedPlan).play (answering cappedCatalog) cappedAnswers ()).2.2 =
        .ok candidates ∧
      ("public", "events") ∈ candidates.map NeedsVacuumTableInfo.key := by
  have hend : ((discoverNeedsVacuum cappedPlan).play (answering cappedCatalog) cappedAnswers
      ()).2.2 = .ok [⟨"public", "events", 1000000, 1001, 8192, none, true⟩] := by
    decide +kernel
  have hexec := Prog.exec_play (W := answering cappedCatalog) cappedAnswers capped_answers_allowed
    (discoverNeedsVacuum cappedPlan) ()
  rw [hend] at hexec
  refine ⟨?_, _, hend, needs_vacuum_covers_autovacuum (t := cappedTable) rfl hexec
    List.mem_cons_self ?_ (.inl (.inl ?_))⟩
  · intro h
    obtain ⟨dead, hdead, hlt⟩ := h
    obtain rfl := Option.some.inj hdead
    exact absurd hlt (by decide +kernel)
  · exact ⟨List.mem_cons_self, by decide, by decide, by decide, fun _ h => by cases h⟩
  · exact ⟨1001, rfl, by decide +kernel⟩

end PgMaintainer
