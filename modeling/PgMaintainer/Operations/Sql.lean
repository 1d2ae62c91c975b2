import PgMaintainer.Session

/-!
# The text of the statements

How a VACUUM or ANALYZE of one table is spelled, after `operations.rs`.
-/

namespace PgMaintainer

/-- Double any embedded `"` so an identifier can't break out of its quoting. -/
def quoteIdent (s : String) : String :=
  String.ofList (s.toList.flatMap fun c => if c = '"' then ['"', '"'] else [c])

/-- Append the `PARALLEL n` clause when one was requested. -/
def pushParallel (opts : List String) (v : VacuumOptions) : List String :=
  match v.parallel with
  | some n => opts ++ [s!"PARALLEL {n}"]
  | none => opts

/-- Append an option if a flag is set. -/
def pushIf (flag : Bool) (opt : String) (opts : List String) : List String :=
  if flag then opts ++ [opt] else opts

/-- Append the `INDEX_CLEANUP` clause when one was requested. -/
def pushIndexCleanup (opts : List String) : Option Bool → List String
  | some true => opts ++ ["INDEX_CLEANUP TRUE"]
  | some false => opts ++ ["INDEX_CLEANUP FALSE"]
  | none => opts

/-- `vacuum_statement`. -/
def vacuumStatement (opts : List String) (schema table : String) : String :=
  "VACUUM (" ++ ", ".intercalate opts ++ ") \"" ++ quoteIdent schema ++ "\".\"" ++
    quoteIdent table ++ "\""

/-- The options of `vacuum_sql`. -/
def vacuumOpts (v : VacuumOptions) : List String :=
  let opts := ["VERBOSE"]
  let opts := pushIf (!v.truncate) "TRUNCATE FALSE" opts
  let opts := pushIf v.disablePageSkipping "DISABLE_PAGE_SKIPPING" opts
  let opts := pushIf v.skipLocked "SKIP_LOCKED" opts
  let opts := pushIndexCleanup opts v.indexCleanup
  pushParallel opts v

/-- VACUUM statement for the regular (non-freeze) modes. -/
def vacuumSql (schema table : String) (v : VacuumOptions) : String :=
  vacuumStatement (vacuumOpts v) schema table

/-- The options of `freeze_sql`. -/
def freezeOpts (v : VacuumOptions) : List String :=
  let opts := ["VERBOSE", "FREEZE"]
  -- without a request the clause is there all the same, against index bloat
  let opts := pushIndexCleanup opts (some (v.indexCleanup.getD false))
  let opts := pushIf (!v.truncate) "TRUNCATE FALSE" opts
  let opts := pushIf v.disablePageSkipping "DISABLE_PAGE_SKIPPING" opts
  let opts := pushIf v.skipLocked "SKIP_LOCKED" opts
  pushParallel opts v

/-- VACUUM FREEZE statement for prevent-wraparound. -/
def freezeSql (schema table : String) (v : VacuumOptions) : String :=
  vacuumStatement (freezeOpts v) schema table

/-- The options of `vacuum_analyze_sql`. -/
def vacuumAnalyzeOpts (v : VacuumOptions) : List String :=
  let opts := ["VERBOSE", "ANALYZE"]
  let opts := pushIf (!v.truncate) "TRUNCATE FALSE" opts
  let opts := pushIf v.disablePageSkipping "DISABLE_PAGE_SKIPPING" opts
  let opts := pushIf v.skipLocked "SKIP_LOCKED" opts
  let opts := pushIndexCleanup opts v.indexCleanup
  pushParallel opts v

/-- VACUUM (ANALYZE) statement for `--also-tables`. -/
def vacuumAnalyzeSql (schema table : String) (v : VacuumOptions) : String :=
  vacuumStatement (vacuumAnalyzeOpts v) schema table

/-- The statement of `analyze_table`. -/
def analyzeSql (schema table : String) : String :=
  "ANALYZE \"" ++ quoteIdent schema ++ "\".\"" ++ quoteIdent table ++ "\""

/-- The text that is sent for a statement on a table. -/
def Statement.sql (statement : Statement) (schema table : String) : String :=
  match statement with
  | .vacuum options => vacuumSql schema table options
  | .freeze options => freezeSql schema table options
  | .vacuumAnalyze options => vacuumAnalyzeSql schema table options
  | .analyze => analyzeSql schema table

example : Statement.sql (.freeze ⟨false, true, true, some true, none⟩) "public" "t" =
    "VACUUM (VERBOSE, FREEZE, INDEX_CLEANUP TRUE, TRUNCATE FALSE, DISABLE_PAGE_SKIPPING, " ++
      "SKIP_LOCKED) \"public\".\"t\"" := by
  decide

end PgMaintainer
