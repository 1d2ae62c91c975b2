import PgMaintainer.Dsn.Parse
import PgMaintainer.Startup.Args
import PgMaintainer.Startup.Environment
import PgMaintainer.Startup.Words

/-!
# Merging the layers of configuration

The command line is filled up from the TOML file, then from the connection string, then from
the `PG_*` environment variables. An option is unset while it is `none`, a flag while it is
false, and a setting with a default while it still has that default.
-/

namespace PgMaintainer

/-! ## The configuration file -/

/-- The variable a value names, if it is `${NAME}`. -/
def interpolatedName (v : Text) : Option Text :=
  match v with
  | '$' :: '\x7b' :: rest => if rest.getLast? = some '\x7d' then some rest.dropLast else none
  | _ => none

/-- A value of the form `${NAME}` stands for an environment variable. -/
def resolveEnvInterpolation (env : Environment) (value : Option Text) : Option Text :=
  value.bind fun v =>
    match interpolatedName v with
    | some name => (env.var name).toOption
    | none => some v

/-- What `load_config_file` makes of a deserialized file. -/
def loadConfigFile (env : Environment) (file : Config) : Config :=
  { file with
    password := resolveEnvInterpolation env file.password
    dsn := resolveEnvInterpolation env file.dsn }

/-- Fill a flag: it is unset while it is false. -/
def fillFlag (current : Bool) (given : Option Bool) : Bool :=
  if current then current else given.getD false

/-- Fill a setting that counts as unset while it has its default. No default is `NaN`, so that `=`
is the source's `==` for the numbers with a fraction as well. -/
def fillDefault {α : Type} [DecidableEq α] (builtIn current : α) (given : Option α) : α :=
  if current = builtIn then given.getD current else current

/-- Merge TOML config into args. -/
def mergeConfig (file : Config) (args : Args) : Args where
  dsn := args.dsn.or file.dsn
  host := args.host.or file.host
  port := args.port.or file.port
  database := args.database.or file.database
  username := args.username.or file.username
  password := args.password.or file.password
  schema := args.schema.or file.schema
  discoverAllSchemas := fillFlag args.discoverAllSchemas file.discoverAllSchemas
  table := args.table.or file.table
  dryRun := fillFlag args.dryRun file.dryRun
  mode := args.mode.or file.mode
  force := fillFlag args.force file.force
  skipActiveVacuum := fillFlag args.skipActiveVacuum file.skipActiveVacuum
  limit := args.limit.or file.limit
  orderBy := args.orderBy.or (file.orderBy.bind fun text => (OrderBy.fromStr text).toOption)
  vacuumOlderThanDays := args.vacuumOlderThanDays.or file.vacuumOlderThanDays
  analyzeOlderThanDays := args.analyzeOlderThanDays.or file.analyzeOlderThanDays
  bloatThresholdPct := fillDefault defaultBloatThresholdPct args.bloatThresholdPct
    file.bloatThresholdPct
  vacuumThreshold := args.vacuumThreshold.or file.vacuumThreshold
  vacuumScaleFactor := args.vacuumScaleFactor.or file.vacuumScaleFactor
  minTableSizeGb := args.minTableSizeGb.or file.minTableSizeGb
  maxTableSizeGb := args.maxTableSizeGb.or file.maxTableSizeGb
  wraparoundMinAge := fillDefault defaultWraparoundMinAge args.wraparoundMinAge
    file.wraparoundMinAge
  wraparoundPct := args.wraparoundPct.or file.wraparoundPct
  maintenanceWorkMemGb := fillDefault defaultMaintenanceWorkMemGb args.maintenanceWorkMemGb
    file.maintenanceWorkMemGb
  vacuumCostDelayMs := args.vacuumCostDelayMs.or file.vacuumCostDelayMs
  vacuumCostLimit := args.vacuumCostLimit.or file.vacuumCostLimit
  gentle := fillFlag args.gentle file.gentle
  lockTimeoutMs := fillDefault defaultLockTimeoutMs args.lockTimeoutMs file.lockTimeoutMs
  lockTimeoutRetries := fillDefault defaultLockTimeoutRetries args.lockTimeoutRetries
    file.lockTimeoutRetries
  lockTimeoutRetryDelayMs := fillDefault defaultLockTimeoutRetryDelayMs args.lockTimeoutRetryDelayMs
    file.lockTimeoutRetryDelayMs
  shutdownMode := fillDefault .cancel args.shutdownMode
    (file.shutdownMode.bind fun text => (ShutdownMode.fromStr text).toOption)
  shutdownGraceSeconds := fillDefault defaultShutdownGraceSeconds args.shutdownGraceSeconds
    file.shutdownGraceSeconds
  maxReplicaLagSeconds := args.maxReplicaLagSeconds.or file.maxReplicaLagSeconds
  maxReplicaLagWaitSeconds := fillDefault defaultReplicaLagWaitSeconds args.maxReplicaLagWaitSeconds
    file.maxReplicaLagWaitSeconds
  skipXminHorizonCheck := fillFlag args.skipXminHorizonCheck file.skipXminHorizonCheck
  xminHorizonWarnAge := fillDefault defaultXminHorizonWarnAge args.xminHorizonWarnAge
    file.xminHorizonWarnAge
  alsoTables := args.alsoTables.or file.alsoTables
  sslmode := fillDefault .disable args.sslmode
    (file.sslmode.bind fun text => (SslMode.fromStr text).toOption)
  sslCaCert := args.sslCaCert.or file.sslCaCert
  sslClientCert := args.sslClientCert.or file.sslClientCert
  sslClientKey := args.sslClientKey.or file.sslClientKey
  logFile := fillDefault defaultLogFile args.logFile file.logFile
  logFormat := fillDefault .text args.logFormat
    (file.logFormat.bind fun text => (LogFormat.fromStr text).toOption)
  logRotation := fillDefault .none args.logRotation
    (file.logRotation.bind fun text => (LogRotation.fromStr text).toOption)
  silenceMode := fillFlag args.silenceMode file.silenceMode
  statementTimeoutSeconds := fillDefault 0 args.statementTimeoutSeconds file.statementTimeoutSeconds
  connectTimeoutSeconds := fillDefault defaultConnectTimeoutSeconds args.connectTimeoutSeconds
    file.connectTimeoutSeconds
  vacuumTruncate := fillDefault true args.vacuumTruncate file.vacuumTruncate
  vacuumDisablePageSkipping := fillFlag args.vacuumDisablePageSkipping
    file.vacuumDisablePageSkipping
  vacuumSkipLocked := fillFlag args.vacuumSkipLocked file.vacuumSkipLocked
  vacuumIndexCleanup := args.vacuumIndexCleanup.or file.vacuumIndexCleanup
  vacuumParallel := args.vacuumParallel.or file.vacuumParallel

/-! ## The connection string -/

/-- What applying a DSN produced, for logging. -/
structure DsnOutcome where
  redacted : Option Text := none
  ignoredParams : List Text := []
  passwordFromDsn : Bool := false

/-- Resolve the DSN string itself: `--dsn` or the config file first, then `PG_DSN`. -/
def resolveDsnSource (env : Environment) (explicit : Option Text) :
    Except Halt (Option Text) :=
  match explicit with
  | some value => pure (some value)
  | none =>
    match env.var "PG_DSN".toList with
    | .ok v => pure (if v.trim ≠ [] then some v else none)
    | .error .notPresent => pure none
    | .error .notUnicode =>
      .error (.error ((AnyError.new "environment variable was not valid unicode").context
        "Failed to read PG_DSN"))

/-- Fill the connection fields that are still unset from the fields of a DSN. -/
def fillFromDsn (parsed : ParsedDsn) (args : Args) : Args :=
  { args with
    host := args.host.or parsed.host
    port := args.port.or parsed.port
    database := args.database.or parsed.database
    username := args.username.or parsed.username
    password := args.password.or parsed.password
    sslmode := fillDefault .disable args.sslmode parsed.sslmode
    sslCaCert := args.sslCaCert.or parsed.sslCaCert
    sslClientCert := args.sslClientCert.or parsed.sslClientCert
    sslClientKey := args.sslClientKey.or parsed.sslClientKey
    connectTimeoutSeconds := fillDefault defaultConnectTimeoutSeconds
      args.connectTimeoutSeconds parsed.connectTimeoutSeconds }

/-- Fill connection fields that are still unset from a DSN. -/
def applyDsn (fromStr : ConfigFromStr) (env : Environment) (args : Args) :
    Except Halt (Args × DsnOutcome) := do
  match ← resolveDsnSource env args.dsn with
  | none => pure (args, {})
  | some raw =>
    let parsed ← parseDsn fromStr raw
    let outcome : DsnOutcome :=
      { redacted := some (redact raw)
        ignoredParams := parsed.ignoredParams
        passwordFromDsn := args.password.isNone && parsed.password.isSome }
    pure (fillFromDsn parsed args, outcome)

end PgMaintainer
