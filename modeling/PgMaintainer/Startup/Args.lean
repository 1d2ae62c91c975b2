import PgMaintainer.Binary64
import PgMaintainer.Types
import PgMaintainer.Text

/-!
# Command line and configuration file

What the user typed, what `clap` makes of it, and what the TOML file holds. `Args` has a value
for every setting with a default, so it no longer tells a typed default from an absent option;
`CommandLine` does.
-/

namespace PgMaintainer

open Binary64

/-! ## Defaults -/

/-- `DEFAULT_BLOAT_THRESHOLD_PCT`. -/
def defaultBloatThresholdPct : F64 := 80

/-- `DEFAULT_WRAPAROUND_MIN_AGE`. -/
def defaultWraparoundMinAge : Int := 200000000

/-- `DEFAULT_MAINTENANCE_WORK_MEM_GB`. -/
def defaultMaintenanceWorkMemGb : Nat := 1

/-- `DEFAULT_LOCK_TIMEOUT_MS`. -/
def defaultLockTimeoutMs : Nat := 10

/-- `DEFAULT_LOCK_TIMEOUT_RETRIES`. -/
def defaultLockTimeoutRetries : Nat := 0

/-- `DEFAULT_LOCK_TIMEOUT_RETRY_DELAY_MS`. -/
def defaultLockTimeoutRetryDelayMs : Nat := 50

/-- `DEFAULT_SHUTDOWN_GRACE_SECONDS`. -/
def defaultShutdownGraceSeconds : Nat := 10

/-- `DEFAULT_REPLICA_LAG_WAIT_SECONDS`. -/
def defaultReplicaLagWaitSeconds : Nat := 300

/-- `DEFAULT_XMIN_HORIZON_WARN_AGE`. -/
def defaultXminHorizonWarnAge : Int := 1000000

/-- `DEFAULT_CONNECT_TIMEOUT_SECONDS`. -/
def defaultConnectTimeoutSeconds : Nat := 10

/-- The default of `--log-file`. -/
def defaultLogFile : Text := "maintainer.log".toList

/-- `DEFAULT_POSTGRES_HOST`. -/
def defaultPostgresHost : Text := "localhost".toList

/-- `DEFAULT_POSTGRES_PORT`. -/
def defaultPostgresPort : Nat := 5432

/-- `DEFAULT_POSTGRES_DATABASE`. -/
def defaultPostgresDatabase : Text := "postgres".toList

/-- `DEFAULT_POSTGRES_USERNAME`. -/
def defaultPostgresUsername : Text := "postgres".toList

/-! ## The command line -/

/-- The options on the command line. A flag can only be given or not; `--vacuum-truncate` takes
its value. -/
structure CommandLine where
  dsn : Option Text := none
  host : Option Text := none
  port : Option Nat := none
  database : Option Text := none
  username : Option Text := none
  password : Option Text := none
  schema : Option Text := none
  discoverAllSchemas : Bool := false
  table : Option Text := none
  dryRun : Bool := false
  mode : Option (List Text) := none
  force : Bool := false
  skipActiveVacuum : Bool := false
  limit : Option Int := none
  orderBy : Option OrderBy := none
  vacuumOlderThanDays : Option Int := none
  analyzeOlderThanDays : Option Int := none
  bloatThresholdPct : Option F64 := none
  vacuumThreshold : Option Int := none
  vacuumScaleFactor : Option F64 := none
  minTableSizeGb : Option F64 := none
  maxTableSizeGb : Option F64 := none
  wraparoundMinAge : Option Int := none
  wraparoundPct : Option F64 := none
  maintenanceWorkMemGb : Option Nat := none
  vacuumCostDelayMs : Option F64 := none
  vacuumCostLimit : Option Int := none
  gentle : Bool := false
  lockTimeoutMs : Option Nat := none
  lockTimeoutRetries : Option Nat := none
  lockTimeoutRetryDelayMs : Option Nat := none
  shutdownMode : Option ShutdownMode := none
  shutdownGraceSeconds : Option Nat := none
  maxReplicaLagSeconds : Option F64 := none
  maxReplicaLagWaitSeconds : Option Nat := none
  skipXminHorizonCheck : Bool := false
  xminHorizonWarnAge : Option Int := none
  alsoTables : Option (List Text) := none
  sslmode : Option SslMode := none
  sslCaCert : Option Text := none
  sslClientCert : Option Text := none
  sslClientKey : Option Text := none
  logFile : Option Text := none
  logFormat : Option LogFormat := none
  logRotation : Option LogRotation := none
  silenceMode : Bool := false
  statementTimeoutSeconds : Option Nat := none
  connectTimeoutSeconds : Option Nat := none
  vacuumTruncate : Option Bool := none
  vacuumDisablePageSkipping : Bool := false
  vacuumSkipLocked : Bool := false
  vacuumIndexCleanup : Option Bool := none
  vacuumParallel : Option Nat := none

/-- The parsed arguments. -/
structure Args where
  dsn : Option Text
  host : Option Text
  port : Option Nat
  database : Option Text
  username : Option Text
  password : Option Text
  schema : Option Text
  discoverAllSchemas : Bool
  table : Option Text
  dryRun : Bool
  mode : Option (List Text)
  force : Bool
  skipActiveVacuum : Bool
  limit : Option Int
  orderBy : Option OrderBy
  vacuumOlderThanDays : Option Int
  analyzeOlderThanDays : Option Int
  bloatThresholdPct : F64
  vacuumThreshold : Option Int
  vacuumScaleFactor : Option F64
  minTableSizeGb : Option F64
  maxTableSizeGb : Option F64
  wraparoundMinAge : Int
  wraparoundPct : Option F64
  maintenanceWorkMemGb : Nat
  vacuumCostDelayMs : Option F64
  vacuumCostLimit : Option Int
  gentle : Bool
  lockTimeoutMs : Nat
  lockTimeoutRetries : Nat
  lockTimeoutRetryDelayMs : Nat
  shutdownMode : ShutdownMode
  shutdownGraceSeconds : Nat
  maxReplicaLagSeconds : Option F64
  maxReplicaLagWaitSeconds : Nat
  skipXminHorizonCheck : Bool
  xminHorizonWarnAge : Int
  alsoTables : Option (List Text)
  sslmode : SslMode
  sslCaCert : Option Text
  sslClientCert : Option Text
  sslClientKey : Option Text
  logFile : Text
  logFormat : LogFormat
  logRotation : LogRotation
  silenceMode : Bool
  statementTimeoutSeconds : Nat
  connectTimeoutSeconds : Nat
  vacuumTruncate : Bool
  vacuumDisablePageSkipping : Bool
  vacuumSkipLocked : Bool
  vacuumIndexCleanup : Option Bool
  vacuumParallel : Option Nat

/-- `Args::parse`: an absent option takes its default value, if it has one. -/
def Args.parse (given : CommandLine) : Args where
  dsn := given.dsn
  host := given.host
  port := given.port
  database := given.database
  username := given.username
  password := given.password
  schema := given.schema
  discoverAllSchemas := given.discoverAllSchemas
  table := given.table
  dryRun := given.dryRun
  mode := given.mode
  force := given.force
  skipActiveVacuum := given.skipActiveVacuum
  limit := given.limit
  orderBy := given.orderBy
  vacuumOlderThanDays := given.vacuumOlderThanDays
  analyzeOlderThanDays := given.analyzeOlderThanDays
  bloatThresholdPct := given.bloatThresholdPct.getD defaultBloatThresholdPct
  vacuumThreshold := given.vacuumThreshold
  vacuumScaleFactor := given.vacuumScaleFactor
  minTableSizeGb := given.minTableSizeGb
  maxTableSizeGb := given.maxTableSizeGb
  wraparoundMinAge := given.wraparoundMinAge.getD defaultWraparoundMinAge
  wraparoundPct := given.wraparoundPct
  maintenanceWorkMemGb := given.maintenanceWorkMemGb.getD defaultMaintenanceWorkMemGb
  vacuumCostDelayMs := given.vacuumCostDelayMs
  vacuumCostLimit := given.vacuumCostLimit
  gentle := given.gentle
  lockTimeoutMs := given.lockTimeoutMs.getD defaultLockTimeoutMs
  lockTimeoutRetries := given.lockTimeoutRetries.getD defaultLockTimeoutRetries
  lockTimeoutRetryDelayMs := given.lockTimeoutRetryDelayMs.getD defaultLockTimeoutRetryDelayMs
  shutdownMode := given.shutdownMode.getD .cancel
  shutdownGraceSeconds := given.shutdownGraceSeconds.getD defaultShutdownGraceSeconds
  maxReplicaLagSeconds := given.maxReplicaLagSeconds
  maxReplicaLagWaitSeconds :=
    given.maxReplicaLagWaitSeconds.getD defaultReplicaLagWaitSeconds
  skipXminHorizonCheck := given.skipXminHorizonCheck
  xminHorizonWarnAge := given.xminHorizonWarnAge.getD defaultXminHorizonWarnAge
  alsoTables := given.alsoTables
  sslmode := given.sslmode.getD .disable
  sslCaCert := given.sslCaCert
  sslClientCert := given.sslClientCert
  sslClientKey := given.sslClientKey
  logFile := given.logFile.getD defaultLogFile
  logFormat := given.logFormat.getD .text
  logRotation := given.logRotation.getD .none
  silenceMode := given.silenceMode
  statementTimeoutSeconds := given.statementTimeoutSeconds.getD 0
  connectTimeoutSeconds := given.connectTimeoutSeconds.getD defaultConnectTimeoutSeconds
  vacuumTruncate := given.vacuumTruncate.getD true
  vacuumDisablePageSkipping := given.vacuumDisablePageSkipping
  vacuumSkipLocked := given.vacuumSkipLocked
  vacuumIndexCleanup := given.vacuumIndexCleanup
  vacuumParallel := given.vacuumParallel

/-! ## The configuration file -/

/-- The TOML file as it was deserialized. Enumerations are texts there. -/
structure Config where
  dsn : Option Text := none
  host : Option Text := none
  port : Option Nat := none
  database : Option Text := none
  username : Option Text := none
  password : Option Text := none
  schema : Option Text := none
  discoverAllSchemas : Option Bool := none
  table : Option Text := none
  dryRun : Option Bool := none
  mode : Option (List Text) := none
  force : Option Bool := none
  skipActiveVacuum : Option Bool := none
  limit : Option Int := none
  orderBy : Option Text := none
  vacuumOlderThanDays : Option Int := none
  analyzeOlderThanDays : Option Int := none
  bloatThresholdPct : Option F64 := none
  vacuumThreshold : Option Int := none
  vacuumScaleFactor : Option F64 := none
  minTableSizeGb : Option F64 := none
  maxTableSizeGb : Option F64 := none
  wraparoundMinAge : Option Int := none
  wraparoundPct : Option F64 := none
  maintenanceWorkMemGb : Option Nat := none
  vacuumCostDelayMs : Option F64 := none
  vacuumCostLimit : Option Int := none
  gentle : Option Bool := none
  lockTimeoutMs : Option Nat := none
  lockTimeoutRetries : Option Nat := none
  lockTimeoutRetryDelayMs : Option Nat := none
  shutdownMode : Option Text := none
  shutdownGraceSeconds : Option Nat := none
  maxReplicaLagSeconds : Option F64 := none
  maxReplicaLagWaitSeconds : Option Nat := none
  skipXminHorizonCheck : Option Bool := none
  xminHorizonWarnAge : Option Int := none
  alsoTables : Option (List Text) := none
  sslmode : Option Text := none
  sslCaCert : Option Text := none
  sslClientCert : Option Text := none
  sslClientKey : Option Text := none
  logFile : Option Text := none
  logFormat : Option Text := none
  logRotation : Option Text := none
  silenceMode : Option Bool := none
  statementTimeoutSeconds : Option Nat := none
  connectTimeoutSeconds : Option Nat := none
  vacuumTruncate : Option Bool := none
  vacuumDisablePageSkipping : Option Bool := none
  vacuumSkipLocked : Option Bool := none
  vacuumIndexCleanup : Option Bool := none
  vacuumParallel : Option Nat := none

end PgMaintainer
