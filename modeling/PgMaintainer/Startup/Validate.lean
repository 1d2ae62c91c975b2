import PgMaintainer.Run.Setup
import PgMaintainer.Startup.AlsoTables
import PgMaintainer.Startup.Args
import PgMaintainer.Startup.Words

/-!
# Validation of the arguments

`run` between the merged arguments and the first log line: the checks in their order, each with its
message, and the settings that are left when all have passed. What is not a number is not below zero
either, and passes where only that is checked.
-/

namespace PgMaintainer

open Binary64

/-! ## Bounds -/

/-- `MAX_VACUUM_PARALLEL`. -/
def maxVacuumParallel : Nat := 1024

/-- `MAX_SHUTDOWN_GRACE_SECONDS`. -/
def maxShutdownGraceSeconds : Nat := 300

/-- `MAX_MAINTENANCE_WORK_MEM_GB`. -/
def maxMaintenanceWorkMemGb : Nat := 32

/-- `MAX_LOCK_TIMEOUT_MS`. -/
def maxLockTimeoutMs : Nat := 60000

/-- `MAX_VACUUM_COST_DELAY_MS`. -/
def maxVacuumCostDelayMs : F64 := 100

/-- `MIN_VACUUM_COST_LIMIT`. -/
def minVacuumCostLimit : Int := 1

/-- `MAX_VACUUM_COST_LIMIT`. -/
def maxVacuumCostLimit : Int := 10000

/-- `GENTLE_VACUUM_COST_DELAY_MS`. -/
def gentleVacuumCostDelayMs : F64 := 10

/-- `GENTLE_VACUUM_COST_LIMIT`. -/
def gentleVacuumCostLimit : Int := 200

/-! ## Complaints -/

/-- What a check complains about, with the value that its message shows. -/
inductive Complaint where
  | noSchema
  | invalidMode (reason : String)
  | emptyMode
  | modeRequired
  | vacuumDaysRequired
  | vacuumOlderThanDays (days : Int)
  | analyzeDaysRequired
  | analyzeOlderThanDays (days : Int)
  | limit (n : Int)
  | forceAndSkip
  | vacuumThreshold (n : Int)
  | vacuumScaleFactor (factor : F64)
  | bloatThresholdPct (pct : F64)
  | negativeSize
  | sizeOrder (min max : F64)
  | maintenanceWorkMemGb (gb : Nat)
  | vacuumCostDelayMs (ms : F64)
  | vacuumCostLimit (n : Int)
  | maxReplicaLagSeconds (seconds : F64)
  | xminHorizonWarnAge (age : Int)
  | vacuumParallel (n : Nat)
  | lockTimeoutMs (ms : Nat)
  | lockTimeoutRetries (n : Nat)
  | lockTimeoutRetryDelayMs (ms : Nat)
  | shutdownGraceSeconds (seconds : Nat)
  | alsoTables (reason : String)
  | wraparoundPct (pct : F64)
  deriving DecidableEq, Repr

/-- Its message. `display` shows a `f64`. -/
def Complaint.message (display : F64 → String) : Complaint → String
  | .noSchema => "Either --schema or --discover-all-schemas must be provided"
  | .invalidMode reason => s!"Invalid mode: {reason}"
  | .emptyMode => "--mode list cannot be empty"
  | .modeRequired =>
    "--mode is required (e.g. --mode never-vacuumed,never-analyzed,prevent-wraparound," ++
      "prevent-bloat); every mode is opt-in and none run by default. Set it via --mode or the " ++
      "`mode` key in a TOML config file."
  | .vacuumDaysRequired => "--mode vacuum-overdue requires --vacuum-older-than-days"
  | .vacuumOlderThanDays days => s!"--vacuum-older-than-days ({days}) must be >= 1"
  | .analyzeDaysRequired => "--mode analyze-overdue requires --analyze-older-than-days"
  | .analyzeOlderThanDays days => s!"--analyze-older-than-days ({days}) must be >= 1"
  | .limit n => s!"--limit ({n}) must be > 0"
  | .forceAndSkip =>
    "--force and --skip-active-vacuum are mutually exclusive: choose one intent (terminate or skip)"
  | .vacuumThreshold n => s!"--vacuum-threshold ({n}) must be >= 0"
  | .vacuumScaleFactor factor => s!"--vacuum-scale-factor ({display factor}) must be >= 0.0"
  | .bloatThresholdPct pct => s!"--bloat-threshold-pct ({display pct}) must be between 0 and 100"
  | .negativeSize => "--min-table-size-gb and --max-table-size-gb must be >= 0"
  | .sizeOrder min max =>
    s!"--min-table-size-gb ({display min}) must be <= --max-table-size-gb ({display max})"
  | .maintenanceWorkMemGb gb =>
    s!"--maintenance-work-mem-gb ({gb}) exceeds maximum ({maxMaintenanceWorkMemGb})"
  | .vacuumCostDelayMs ms =>
    s!"--vacuum-cost-delay-ms ({display ms}) must be between 0 and {display maxVacuumCostDelayMs}"
  | .vacuumCostLimit n =>
    s!"--vacuum-cost-limit ({n}) must be between {minVacuumCostLimit} and {maxVacuumCostLimit}"
  | .maxReplicaLagSeconds seconds =>
    s!"--max-replica-lag-seconds ({display seconds}) must be >= 0"
  | .xminHorizonWarnAge age => s!"--xmin-horizon-warn-age ({age}) must be >= 0"
  | .vacuumParallel n => s!"--vacuum-parallel ({n}) must be between 0 and {maxVacuumParallel}"
  | .lockTimeoutMs ms => s!"--lock-timeout-ms ({ms}) must be between 1 and {maxLockTimeoutMs}"
  | .lockTimeoutRetries n => s!"--lock-timeout-retries ({n}) must be <= {maxLockTimeoutRetries}"
  | .lockTimeoutRetryDelayMs ms =>
    s!"--lock-timeout-retry-delay-ms ({ms}) must be between 1 and {maxLockTimeoutRetryDelayMs}"
  | .shutdownGraceSeconds seconds =>
    s!"--shutdown-grace-seconds ({seconds}) must be between 1 and {maxShutdownGraceSeconds}"
  | .alsoTables reason => reason
  | .wraparoundPct pct => s!"--wraparound-pct ({display pct}) must be between 0 and 100"

/-! ## Checks -/

/-- A check, whose result says that it has passed. -/
def demand (p : Prop) [Decidable p] (complaint : Complaint) : Except Complaint (PLift p) :=
  if h : p then .ok ⟨h⟩ else .error complaint

/-- A check of a value, if there is one. -/
def demandOf {α : Type} (value : Option α) (p : α → Prop) [DecidablePred p]
    (complaint : α → Complaint) : Except Complaint (PLift (∀ a ∈ value, p a)) :=
  match value with
  | none => .ok ⟨by simp⟩
  | some a => if h : p a then .ok ⟨by simpa using h⟩ else .error (complaint a)

/-- The words of `--mode`, as the set of their modes. -/
def parseModes : Option (List Text) → Except Complaint (List Mode)
  | none => .error .modeRequired
  | some words => do
    let modes ← words.mapM fun word => (Mode.fromStr word).mapError .invalidMode
    if modes = [] then .error .emptyMode else .ok modes.dedup

/-- A number of days that `make_interval` takes. -/
def IsDays (days : Int) : Prop := 1 ≤ days ∧ days ≤ 2 ^ 31 - 1

instance (days : Int) : Decidable (IsDays days) := inferInstanceAs (Decidable (_ ∧ _))

/-- The number of days that a mode for what is overdue requires. -/
def checkOlderThanDays (modes : List Mode) (mode : Mode) (days : Option Int) (missing : Complaint)
    (outside : Int → Complaint) :
    Except Complaint (PLift (mode ∈ modes → ∃ n ∈ days, IsDays n)) :=
  if hmode : mode ∈ modes then
    match days with
    | none => .error missing
    | some n => if h : IsDays n then .ok ⟨fun _ => ⟨n, rfl, h⟩⟩ else .error (outside n)
  else
    .ok ⟨fun h => absurd h hmode⟩

/-- `ThrottleSettings`. -/
structure ThrottleSettings where
  costDelayMs : Option F64
  costLimit : Option Int

/-- `ThrottleSettings::resolve`: `--gentle` fills in what was left unset. -/
def ThrottleSettings.resolve (costDelayMs : Option F64) (costLimit : Option Int) (gentle : Bool) :
    ThrottleSettings :=
  if gentle then
    ⟨costDelayMs.or (some gentleVacuumCostDelayMs), costLimit.or (some gentleVacuumCostLimit)⟩
  else
    ⟨costDelayMs, costLimit⟩

namespace Args

/-- The throttling that the arguments ask for. -/
def throttle (args : Args) : ThrottleSettings :=
  .resolve args.vacuumCostDelayMs args.vacuumCostLimit args.gentle

/-- `min_gb`. -/
def minGb (args : Args) : F64 := args.minTableSizeGb.getD 0

/-- `max_gb`. -/
def maxGb (args : Args) : F64 := args.maxTableSizeGb.getD (.infinite false)

/-- `min_bytes`. -/
def minBytes (args : Args) : Int := (args.minGb * 1073741824).toI64

/-- `max_bytes`. -/
def maxBytes (args : Args) : Int :=
  if args.maxGb = .infinite false then 2 ^ 63 - 1 else (args.maxGb * 1073741824).toI64

end Args

/-- Arguments that have passed the checks, with what was parsed on the way. -/
structure Accepted where
  args : Args
  modes : List Mode
  alsoTables : List ExplicitTable
  schema : args.schema.isSome ∨ args.discoverAllSchemas
  vacuumDays : .vacuumOverdue ∈ modes → ∃ n ∈ args.vacuumOlderThanDays, IsDays n
  analyzeDays : .analyzeOverdue ∈ modes → ∃ n ∈ args.analyzeOlderThanDays, IsDays n
  limit : ∀ n ∈ args.limit, 0 < n
  force : ¬(args.force = true ∧ args.skipActiveVacuum = true)
  threshold : ∀ n ∈ args.vacuumThreshold, 0 ≤ n
  factor : ∀ f ∈ args.vacuumScaleFactor, ¬f < 0
  bloat : 0 ≤ args.bloatThresholdPct ∧ args.bloatThresholdPct ≤ 100
  sizes : ¬(args.minGb < 0 ∨ args.maxGb < 0)
  order : ¬(args.maxGb < args.minGb ∧ args.maxGb ≠ .infinite false)
  memory : args.maintenanceWorkMemGb ≤ maxMaintenanceWorkMemGb
  delay : ∀ ms ∈ args.throttle.costDelayMs, 0 ≤ ms ∧ ms ≤ maxVacuumCostDelayMs
  cost : ∀ n ∈ args.throttle.costLimit, minVacuumCostLimit ≤ n ∧ n ≤ maxVacuumCostLimit
  lag : ∀ s ∈ args.maxReplicaLagSeconds, ¬s < 0
  age : 0 ≤ args.xminHorizonWarnAge
  parallel : ∀ n ∈ args.vacuumParallel, n ≤ maxVacuumParallel
  timeout : 1 ≤ args.lockTimeoutMs ∧ args.lockTimeoutMs ≤ maxLockTimeoutMs
  retries : args.lockTimeoutRetries ≤ maxLockTimeoutRetries
  retryDelay : 1 ≤ args.lockTimeoutRetryDelayMs ∧
    args.lockTimeoutRetryDelayMs ≤ maxLockTimeoutRetryDelayMs
  grace : 1 ≤ args.shutdownGraceSeconds ∧ args.shutdownGraceSeconds ≤ maxShutdownGraceSeconds
  pct : ∀ pct ∈ args.wraparoundPct, 0 ≤ pct ∧ pct ≤ 100

/-- The checks, in their order. -/
def validate (args : Args) : Except Complaint Accepted := do
  let ⟨schema⟩ ← demand (args.schema.isSome ∨ args.discoverAllSchemas) .noSchema
  let modes ← parseModes args.mode
  let ⟨vacuumDays⟩ ← checkOlderThanDays modes .vacuumOverdue args.vacuumOlderThanDays
    .vacuumDaysRequired .vacuumOlderThanDays
  let ⟨analyzeDays⟩ ← checkOlderThanDays modes .analyzeOverdue args.analyzeOlderThanDays
    .analyzeDaysRequired .analyzeOlderThanDays
  let ⟨limit⟩ ← demandOf args.limit (0 < ·) .limit
  let ⟨force⟩ ← demand (¬(args.force = true ∧ args.skipActiveVacuum = true)) .forceAndSkip
  let ⟨threshold⟩ ← demandOf args.vacuumThreshold (0 ≤ ·) .vacuumThreshold
  let ⟨factor⟩ ← demandOf args.vacuumScaleFactor (¬· < 0) .vacuumScaleFactor
  let ⟨bloat⟩ ← demand (0 ≤ args.bloatThresholdPct ∧ args.bloatThresholdPct ≤ 100)
    (.bloatThresholdPct args.bloatThresholdPct)
  let ⟨sizes⟩ ← demand (¬(args.minGb < 0 ∨ args.maxGb < 0)) .negativeSize
  let ⟨order⟩ ← demand (¬(args.maxGb < args.minGb ∧ args.maxGb ≠ .infinite false))
    (.sizeOrder args.minGb args.maxGb)
  let ⟨memory⟩ ← demand (args.maintenanceWorkMemGb ≤ maxMaintenanceWorkMemGb)
    (.maintenanceWorkMemGb args.maintenanceWorkMemGb)
  let ⟨delay⟩ ← demandOf args.throttle.costDelayMs (fun ms => 0 ≤ ms ∧ ms ≤ maxVacuumCostDelayMs)
    .vacuumCostDelayMs
  let ⟨cost⟩ ← demandOf args.throttle.costLimit
    (fun n => minVacuumCostLimit ≤ n ∧ n ≤ maxVacuumCostLimit) .vacuumCostLimit
  let ⟨lag⟩ ← demandOf args.maxReplicaLagSeconds (¬· < 0) .maxReplicaLagSeconds
  let ⟨age⟩ ← demand (0 ≤ args.xminHorizonWarnAge) (.xminHorizonWarnAge args.xminHorizonWarnAge)
  let ⟨parallel⟩ ← demandOf args.vacuumParallel (· ≤ maxVacuumParallel) .vacuumParallel
  let ⟨timeout⟩ ← demand (1 ≤ args.lockTimeoutMs ∧ args.lockTimeoutMs ≤ maxLockTimeoutMs)
    (.lockTimeoutMs args.lockTimeoutMs)
  let ⟨retries⟩ ← demand (args.lockTimeoutRetries ≤ maxLockTimeoutRetries)
    (.lockTimeoutRetries args.lockTimeoutRetries)
  let ⟨retryDelay⟩ ← demand
    (1 ≤ args.lockTimeoutRetryDelayMs ∧ args.lockTimeoutRetryDelayMs ≤ maxLockTimeoutRetryDelayMs)
    (.lockTimeoutRetryDelayMs args.lockTimeoutRetryDelayMs)
  let ⟨grace⟩ ← demand
    (1 ≤ args.shutdownGraceSeconds ∧ args.shutdownGraceSeconds ≤ maxShutdownGraceSeconds)
    (.shutdownGraceSeconds args.shutdownGraceSeconds)
  let alsoTables ←
    (ExplicitTable.parseList ((args.alsoTables.getD []).map String.ofList)).mapError .alsoTables
  let ⟨pct⟩ ← demandOf args.wraparoundPct (fun pct => 0 ≤ pct ∧ pct ≤ 100) .wraparoundPct
  pure {
    args, modes, alsoTables, schema, vacuumDays, analyzeDays, limit, force, threshold, factor,
    bloat, sizes, order, memory, delay, cost, lag, age, parallel, timeout, retries, retryDelay,
    grace, pct }

/-! ## Settings -/

/-- What a run works with. A scale factor or a lag that is no number is accepted, but stands for no
settings here: the phases work with numbers. -/
def Accepted.settings? (accepted : Accepted) : Option RunSettings := do
  let args := accepted.args
  let bloatThresholdPct ← args.bloatThresholdPct.toRat?
  let vacuumScaleFactor ← args.vacuumScaleFactor.mapM F64.toRat?
  let wraparoundPct ← args.wraparoundPct.mapM F64.toRat?
  let vacuumCostDelayMs ← args.throttle.costDelayMs.mapM F64.toRat?
  let maxReplicaLagSeconds ← args.maxReplicaLagSeconds.mapM F64.toRat?
  pure {
    schema := args.schema.map String.ofList
    discoverAllSchemas := args.discoverAllSchemas
    table := args.table.map String.ofList
    enabledModes := accepted.modes
    dryRun := args.dryRun
    force := args.force
    skipActiveVacuum := args.skipActiveVacuum
    limit := args.limit
    orderBy := args.orderBy
    vacuumOlderThanDays := args.vacuumOlderThanDays.getD 0
    analyzeOlderThanDays := args.analyzeOlderThanDays.getD 0
    bloatThresholdPct
    vacuumThreshold := args.vacuumThreshold
    vacuumScaleFactor
    minBytes := args.minBytes
    maxBytes := args.maxBytes
    wraparoundMinAge := args.wraparoundMinAge
    wraparoundPct
    statementTimeoutSeconds := args.statementTimeoutSeconds
    maintenanceWorkMemGb := args.maintenanceWorkMemGb
    vacuumCostDelayMs
    vacuumCostLimit := args.throttle.costLimit
    lockTimeoutMs := args.lockTimeoutMs
    lockTimeoutRetries := args.lockTimeoutRetries
    lockTimeoutRetryDelayMs := args.lockTimeoutRetryDelayMs
    maxReplicaLagSeconds
    maxReplicaLagWaitSeconds := args.maxReplicaLagWaitSeconds
    skipXminHorizonCheck := args.skipXminHorizonCheck
    alsoTables := accepted.alsoTables
    vacuumOptions :=
      ⟨args.vacuumTruncate, args.vacuumDisablePageSkipping, args.vacuumSkipLocked,
        args.vacuumIndexCleanup, args.vacuumParallel⟩
    shutdownMode := args.shutdownMode
    limitPos := accepted.limit
    forceOrSkip := accepted.force
    retriesLe := accepted.retries
    retryDelay := accepted.retryDelay }

/-- The settings that arguments stand for, if the checks accept them. -/
def Args.settings (args : Args) : Except Complaint (Option RunSettings) :=
  Accepted.settings? <$> validate args

end PgMaintainer
