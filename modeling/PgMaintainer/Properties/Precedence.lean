import PgMaintainer.Layers
import PgMaintainer.Startup.Configure

/-!
# Precedence of the layers of configuration

For every setting and whatever the layers hold, the effective value is that of the
highest-ranked layer that sets it, unless the setting is `Lost`: the layer holds a text that is
no value of the setting, or the setting is one whose absence is told from its built-in value,
the layer sets just that value and a lower layer another one, or an empty password file counts
as a password.
-/

namespace PgMaintainer

open Binary64 Layers

/-- The settings: the fields of `Args`. -/
inductive Setting where
  | dsn | host | port | database | username | password | schema | discoverAllSchemas | table
  | dryRun | mode | force | skipActiveVacuum | limit | orderBy | vacuumOlderThanDays
  | analyzeOlderThanDays | bloatThresholdPct | vacuumThreshold | vacuumScaleFactor
  | minTableSizeGb | maxTableSizeGb | wraparoundMinAge | wraparoundPct | maintenanceWorkMemGb
  | vacuumCostDelayMs | vacuumCostLimit | gentle | lockTimeoutMs | lockTimeoutRetries
  | lockTimeoutRetryDelayMs | shutdownMode | shutdownGraceSeconds | maxReplicaLagSeconds
  | maxReplicaLagWaitSeconds | skipXminHorizonCheck | xminHorizonWarnAge | alsoTables | sslmode
  | sslCaCert | sslClientCert | sslClientKey | logFile | logFormat | logRotation | silenceMode
  | statementTimeoutSeconds | connectTimeoutSeconds | vacuumTruncate | vacuumDisablePageSkipping
  | vacuumSkipLocked | vacuumIndexCleanup | vacuumParallel
  deriving DecidableEq, Repr

namespace Setting

/-- The values of a setting. -/
@[reducible] def Value : Setting → Type
  | .dsn | .host | .database | .username | .password | .schema | .table | .sslCaCert
  | .sslClientCert | .sslClientKey | .logFile => Text
  | .port | .maintenanceWorkMemGb | .lockTimeoutMs | .lockTimeoutRetries
  | .lockTimeoutRetryDelayMs | .shutdownGraceSeconds | .maxReplicaLagWaitSeconds
  | .statementTimeoutSeconds | .connectTimeoutSeconds | .vacuumParallel => Nat
  | .discoverAllSchemas | .dryRun | .force | .skipActiveVacuum | .gentle | .skipXminHorizonCheck
  | .silenceMode | .vacuumTruncate | .vacuumDisablePageSkipping | .vacuumSkipLocked
  | .vacuumIndexCleanup => Bool
  | .mode | .alsoTables => List Text
  | .limit | .vacuumOlderThanDays | .analyzeOlderThanDays | .vacuumThreshold | .wraparoundMinAge
  | .vacuumCostLimit | .xminHorizonWarnAge => Int
  | .orderBy => OrderBy
  | .bloatThresholdPct | .vacuumScaleFactor | .minTableSizeGb | .maxTableSizeGb | .wraparoundPct
  | .vacuumCostDelayMs | .maxReplicaLagSeconds => F64
  | .shutdownMode => ShutdownMode
  | .sslmode => SslMode
  | .logFormat => LogFormat
  | .logRotation => LogRotation

/-! ## The layers -/

/-- The command line. -/
def onCommandLine (given : CommandLine) : (x : Setting) → Layer x.Value
  | .dsn => .ofOption given.dsn
  | .host => .ofOption given.host
  | .port => .ofOption given.port
  | .database => .ofOption given.database
  | .username => .ofOption given.username
  | .password => .ofOption given.password
  | .schema => .ofOption given.schema
  | .discoverAllSchemas => .ofFlag given.discoverAllSchemas
  | .table => .ofOption given.table
  | .dryRun => .ofFlag given.dryRun
  | .mode => .ofOption given.mode
  | .force => .ofFlag given.force
  | .skipActiveVacuum => .ofFlag given.skipActiveVacuum
  | .limit => .ofOption given.limit
  | .orderBy => .ofOption given.orderBy
  | .vacuumOlderThanDays => .ofOption given.vacuumOlderThanDays
  | .analyzeOlderThanDays => .ofOption given.analyzeOlderThanDays
  | .bloatThresholdPct => .ofOption given.bloatThresholdPct
  | .vacuumThreshold => .ofOption given.vacuumThreshold
  | .vacuumScaleFactor => .ofOption given.vacuumScaleFactor
  | .minTableSizeGb => .ofOption given.minTableSizeGb
  | .maxTableSizeGb => .ofOption given.maxTableSizeGb
  | .wraparoundMinAge => .ofOption given.wraparoundMinAge
  | .wraparoundPct => .ofOption given.wraparoundPct
  | .maintenanceWorkMemGb => .ofOption given.maintenanceWorkMemGb
  | .vacuumCostDelayMs => .ofOption given.vacuumCostDelayMs
  | .vacuumCostLimit => .ofOption given.vacuumCostLimit
  | .gentle => .ofFlag given.gentle
  | .lockTimeoutMs => .ofOption given.lockTimeoutMs
  | .lockTimeoutRetries => .ofOption given.lockTimeoutRetries
  | .lockTimeoutRetryDelayMs => .ofOption given.lockTimeoutRetryDelayMs
  | .shutdownMode => .ofOption given.shutdownMode
  | .shutdownGraceSeconds => .ofOption given.shutdownGraceSeconds
  | .maxReplicaLagSeconds => .ofOption given.maxReplicaLagSeconds
  | .maxReplicaLagWaitSeconds => .ofOption given.maxReplicaLagWaitSeconds
  | .skipXminHorizonCheck => .ofFlag given.skipXminHorizonCheck
  | .xminHorizonWarnAge => .ofOption given.xminHorizonWarnAge
  | .alsoTables => .ofOption given.alsoTables
  | .sslmode => .ofOption given.sslmode
  | .sslCaCert => .ofOption given.sslCaCert
  | .sslClientCert => .ofOption given.sslClientCert
  | .sslClientKey => .ofOption given.sslClientKey
  | .logFile => .ofOption given.logFile
  | .logFormat => .ofOption given.logFormat
  | .logRotation => .ofOption given.logRotation
  | .silenceMode => .ofFlag given.silenceMode
  | .statementTimeoutSeconds => .ofOption given.statementTimeoutSeconds
  | .connectTimeoutSeconds => .ofOption given.connectTimeoutSeconds
  | .vacuumTruncate => .ofOption given.vacuumTruncate
  | .vacuumDisablePageSkipping => .ofFlag given.vacuumDisablePageSkipping
  | .vacuumSkipLocked => .ofFlag given.vacuumSkipLocked
  | .vacuumIndexCleanup => .ofOption given.vacuumIndexCleanup
  | .vacuumParallel => .ofOption given.vacuumParallel

/-- The configuration file. -/
def inFile (file : Config) : (x : Setting) → Layer x.Value
  | .dsn => .ofOption file.dsn
  | .host => .ofOption file.host
  | .port => .ofOption file.port
  | .database => .ofOption file.database
  | .username => .ofOption file.username
  | .password => .ofOption file.password
  | .schema => .ofOption file.schema
  | .discoverAllSchemas => .ofOption file.discoverAllSchemas
  | .table => .ofOption file.table
  | .dryRun => .ofOption file.dryRun
  | .mode => .ofOption file.mode
  | .force => .ofOption file.force
  | .skipActiveVacuum => .ofOption file.skipActiveVacuum
  | .limit => .ofOption file.limit
  | .orderBy => .ofText (fun text => (OrderBy.fromStr text).toOption) file.orderBy
  | .vacuumOlderThanDays => .ofOption file.vacuumOlderThanDays
  | .analyzeOlderThanDays => .ofOption file.analyzeOlderThanDays
  | .bloatThresholdPct => .ofOption file.bloatThresholdPct
  | .vacuumThreshold => .ofOption file.vacuumThreshold
  | .vacuumScaleFactor => .ofOption file.vacuumScaleFactor
  | .minTableSizeGb => .ofOption file.minTableSizeGb
  | .maxTableSizeGb => .ofOption file.maxTableSizeGb
  | .wraparoundMinAge => .ofOption file.wraparoundMinAge
  | .wraparoundPct => .ofOption file.wraparoundPct
  | .maintenanceWorkMemGb => .ofOption file.maintenanceWorkMemGb
  | .vacuumCostDelayMs => .ofOption file.vacuumCostDelayMs
  | .vacuumCostLimit => .ofOption file.vacuumCostLimit
  | .gentle => .ofOption file.gentle
  | .lockTimeoutMs => .ofOption file.lockTimeoutMs
  | .lockTimeoutRetries => .ofOption file.lockTimeoutRetries
  | .lockTimeoutRetryDelayMs => .ofOption file.lockTimeoutRetryDelayMs
  | .shutdownMode => .ofText (fun text => (ShutdownMode.fromStr text).toOption) file.shutdownMode
  | .shutdownGraceSeconds => .ofOption file.shutdownGraceSeconds
  | .maxReplicaLagSeconds => .ofOption file.maxReplicaLagSeconds
  | .maxReplicaLagWaitSeconds => .ofOption file.maxReplicaLagWaitSeconds
  | .skipXminHorizonCheck => .ofOption file.skipXminHorizonCheck
  | .xminHorizonWarnAge => .ofOption file.xminHorizonWarnAge
  | .alsoTables => .ofOption file.alsoTables
  | .sslmode => .ofText (fun text => (SslMode.fromStr text).toOption) file.sslmode
  | .sslCaCert => .ofOption file.sslCaCert
  | .sslClientCert => .ofOption file.sslClientCert
  | .sslClientKey => .ofOption file.sslClientKey
  | .logFile => .ofOption file.logFile
  | .logFormat => .ofText (fun text => (LogFormat.fromStr text).toOption) file.logFormat
  | .logRotation => .ofText (fun text => (LogRotation.fromStr text).toOption) file.logRotation
  | .silenceMode => .ofOption file.silenceMode
  | .statementTimeoutSeconds => .ofOption file.statementTimeoutSeconds
  | .connectTimeoutSeconds => .ofOption file.connectTimeoutSeconds
  | .vacuumTruncate => .ofOption file.vacuumTruncate
  | .vacuumDisablePageSkipping => .ofOption file.vacuumDisablePageSkipping
  | .vacuumSkipLocked => .ofOption file.vacuumSkipLocked
  | .vacuumIndexCleanup => .ofOption file.vacuumIndexCleanup
  | .vacuumParallel => .ofOption file.vacuumParallel

/-- The connection string. -/
def inDsn (parsed : ParsedDsn) : (x : Setting) → Layer x.Value
  | .host => .ofOption parsed.host
  | .port => .ofOption parsed.port
  | .database => .ofOption parsed.database
  | .username => .ofOption parsed.username
  | .password => .ofOption parsed.password
  | .sslmode => .ofOption parsed.sslmode
  | .sslCaCert => .ofOption parsed.sslCaCert
  | .sslClientCert => .ofOption parsed.sslClientCert
  | .sslClientKey => .ofOption parsed.sslClientKey
  | .connectTimeoutSeconds => .ofOption parsed.connectTimeoutSeconds
  | _ => .silent

/-- The environment. A blank connection string, a port that is no number and an empty password
count as unset. -/
def inEnvironment (env : Environment) : (x : Setting) → Layer x.Value
  | .dsn => .ofOption ((env.get? "PG_DSN").filter fun v => v.trim ≠ [])
  | .host => .ofOption (env.get? "PG_HOST")
  | .port => .ofOption ((env.get? "PG_PORT").bind Text.parseU16)
  | .database => .ofOption (env.get? "PG_DATABASE")
  | .username => .ofOption (env.get? "PG_USER")
  | .password => .ofOption ((envPassword env).or ((envPasswordFile env).filter (· ≠ [])))
  | _ => .silent

/-- The built-in default. -/
def builtIn : (x : Setting) → Option x.Value
  | .host => some defaultPostgresHost
  | .port => some defaultPostgresPort
  | .database => some defaultPostgresDatabase
  | .username => some defaultPostgresUsername
  | .bloatThresholdPct => some defaultBloatThresholdPct
  | .wraparoundMinAge => some defaultWraparoundMinAge
  | .maintenanceWorkMemGb => some defaultMaintenanceWorkMemGb
  | .lockTimeoutMs => some defaultLockTimeoutMs
  | .lockTimeoutRetries => some defaultLockTimeoutRetries
  | .lockTimeoutRetryDelayMs => some defaultLockTimeoutRetryDelayMs
  | .shutdownMode => some ShutdownMode.cancel
  | .shutdownGraceSeconds => some defaultShutdownGraceSeconds
  | .maxReplicaLagWaitSeconds => some defaultReplicaLagWaitSeconds
  | .xminHorizonWarnAge => some defaultXminHorizonWarnAge
  | .sslmode => some SslMode.disable
  | .logFile => some defaultLogFile
  | .logFormat => some LogFormat.text
  | .logRotation => some LogRotation.none
  | .statementTimeoutSeconds => some (0 : Nat)
  | .connectTimeoutSeconds => some defaultConnectTimeoutSeconds
  | .vacuumTruncate => some true
  | .discoverAllSchemas | .dryRun | .force | .skipActiveVacuum | .gentle | .skipXminHorizonCheck
  | .silenceMode | .vacuumDisablePageSkipping | .vacuumSkipLocked => some false
  | _ => none

/-- The settings that count as unset while they have their built-in value. -/
def unsetAtBuiltIn : Setting → Bool
  | .bloatThresholdPct | .wraparoundMinAge | .maintenanceWorkMemGb | .lockTimeoutMs
  | .lockTimeoutRetries | .lockTimeoutRetryDelayMs | .shutdownMode | .shutdownGraceSeconds
  | .maxReplicaLagWaitSeconds | .xminHorizonWarnAge | .sslmode | .logFile | .logFormat
  | .logRotation | .statementTimeoutSeconds | .connectTimeoutSeconds | .vacuumTruncate => true
  | _ => false

/-- The layers, the highest-ranked first. -/
def layers (fromStr : ConfigFromStr) (i : Inputs) (x : Setting) : List (Layer x.Value) :=
  [x.onCommandLine i.commandLine, x.inFile i.config, x.inDsn (i.parsedDsn fromStr),
    x.inEnvironment i.env]

/-- The value of a setting no layer sets. For a password this is the entry of `.pgpass` for
the connection the layers ask for. -/
def fallback (fromStr : ConfigFromStr) (i : Inputs) : (x : Setting) → Option x.Value
  | .password =>
    getPasswordFromPgpass i.env ((filled (host.layers fromStr i)).getD defaultPostgresHost)
      ((filled (port.layers fromStr i)).getD defaultPostgresPort)
      ((filled (database.layers fromStr i)).getD defaultPostgresDatabase)
      ((filled (username.layers fromStr i)).getD defaultPostgresUsername)
  | x => x.builtIn

/-- The value a run works with. -/
def effective (i : Inputs) (c : Configured) : (x : Setting) → Option x.Value
  | .dsn => (resolveDsnSource i.env i.merged.dsn).toOption.join
  | .host => some c.connection.host
  | .port => some c.connection.port
  | .database => some c.connection.database
  | .username => some c.connection.username
  | .password => c.connection.password
  | .schema => c.args.schema
  | .discoverAllSchemas => some c.args.discoverAllSchemas
  | .table => c.args.table
  | .dryRun => some c.args.dryRun
  | .mode => c.args.mode
  | .force => some c.args.force
  | .skipActiveVacuum => some c.args.skipActiveVacuum
  | .limit => c.args.limit
  | .orderBy => c.args.orderBy
  | .vacuumOlderThanDays => c.args.vacuumOlderThanDays
  | .analyzeOlderThanDays => c.args.analyzeOlderThanDays
  | .bloatThresholdPct => some c.args.bloatThresholdPct
  | .vacuumThreshold => c.args.vacuumThreshold
  | .vacuumScaleFactor => c.args.vacuumScaleFactor
  | .minTableSizeGb => c.args.minTableSizeGb
  | .maxTableSizeGb => c.args.maxTableSizeGb
  | .wraparoundMinAge => some c.args.wraparoundMinAge
  | .wraparoundPct => c.args.wraparoundPct
  | .maintenanceWorkMemGb => some c.args.maintenanceWorkMemGb
  | .vacuumCostDelayMs => c.args.vacuumCostDelayMs
  | .vacuumCostLimit => c.args.vacuumCostLimit
  | .gentle => some c.args.gentle
  | .lockTimeoutMs => some c.args.lockTimeoutMs
  | .lockTimeoutRetries => some c.args.lockTimeoutRetries
  | .lockTimeoutRetryDelayMs => some c.args.lockTimeoutRetryDelayMs
  | .shutdownMode => some c.args.shutdownMode
  | .shutdownGraceSeconds => some c.args.shutdownGraceSeconds
  | .maxReplicaLagSeconds => c.args.maxReplicaLagSeconds
  | .maxReplicaLagWaitSeconds => some c.args.maxReplicaLagWaitSeconds
  | .skipXminHorizonCheck => some c.args.skipXminHorizonCheck
  | .xminHorizonWarnAge => some c.args.xminHorizonWarnAge
  | .alsoTables => c.args.alsoTables
  | .sslmode => some c.connection.sslmode
  | .sslCaCert => c.connection.sslCaCert
  | .sslClientCert => c.connection.sslClientCert
  | .sslClientKey => c.connection.sslClientKey
  | .logFile => some c.args.logFile
  | .logFormat => some c.args.logFormat
  | .logRotation => some c.args.logRotation
  | .silenceMode => some c.args.silenceMode
  | .statementTimeoutSeconds => some c.args.statementTimeoutSeconds
  | .connectTimeoutSeconds => some c.connection.connectTimeoutSeconds
  | .vacuumTruncate => some c.args.vacuumTruncate
  | .vacuumDisablePageSkipping => some c.args.vacuumDisablePageSkipping
  | .vacuumSkipLocked => some c.args.vacuumSkipLocked
  | .vacuumIndexCleanup => c.args.vacuumIndexCleanup
  | .vacuumParallel => c.args.vacuumParallel

/-- The highest-ranked layer that sets the setting decides what the run works with. -/
def Holds (fromStr : ConfigFromStr) (i : Inputs) (c : Configured) (x : Setting) : Prop :=
  Prevails (x.layers fromStr i) (x.fallback fromStr i) (x.effective i c)

/-- No layer sets the password, and a file without one counts as an empty password where
another is to be found. -/
def EmptyPasswordFile (fromStr : ConfigFromStr) (i : Inputs) : Prop :=
  governing (password.layers fromStr i) = .silent ∧ envPasswordFile i.env = some [] ∧
    password.fallback fromStr i ≠ some []

/-- How a setting is lost: by a value that counts as unset, by a text that is no value, or by an
empty password file. -/
def Lost (fromStr : ConfigFromStr) (i : Inputs) (x : Setting) : Prop :=
  (∃ value, x.builtIn = some value ∧ x.unsetAtBuiltIn = true ∧
    Undone value (x.layers fromStr i)) ∨
  (x.unsetAtBuiltIn = false ∧ governing (x.layers fromStr i) = .garbled) ∨
  (x = .password ∧ EmptyPasswordFile fromStr i)

end Setting

/-! ## What the merge computes -/

attribute [local simp] Setting.layers Setting.onCommandLine Setting.inFile Setting.inDsn
  Setting.inEnvironment

section Merge

variable {α : Type} {fromStr : ConfigFromStr} {i : Inputs} {c : Configured}

/-- The first of four layers with a value wins. -/
theorem filled_of_four (a b d e : Layer α) :
    filled [a, b, d, e] = a.value?.or (b.value?.or (d.value?.or e.value?)) := by
  simp [filled_cons]

/-- A flag that is given is on, whatever the file says. -/
theorem getD_of_flag (given : Bool) (file : Option Bool) :
    ((Layer.ofFlag given).value?.or file).getD false = fillFlag given file := by
  cases given <;> cases file <;> rfl

/-- Over the built-in value the layers are written as `merge` does. -/
theorem overwritten_of_four [DecidableEq α] (builtIn : α) (given : Option α) (file dsn : Layer α) :
    overwritten builtIn [.ofOption given, file, dsn, .silent] =
      fillDefault builtIn (fillDefault builtIn (given.getD builtIn) file.value?) dsn.value? := by
  have hgiven : overwrite builtIn builtIn (.ofOption given) = given.getD builtIn := by
    rw [overwrite_self, Layer.value?_ofOption]
  have hsilent : ∀ current : α, overwrite builtIn current .silent = current := fun current =>
    ite_self current
  simp only [overwritten, List.foldl_cons, List.foldl_nil, hgiven, hsilent]
  rfl

/-- A setting that counts as unset at its built-in value is overwritten layer by layer. -/
theorem effective_of_unset_at_built_in (h : configure fromStr i = .ok c) {x : Setting}
    (hx : x.unsetAtBuiltIn = true) :
    ∃ (_ : DecidableEq x.Value) (value : x.Value), x.builtIn = some value ∧
      x.effective i c = some (overwritten value (x.layers fromStr i)) := by
  obtain ⟨-, hargs, hconn, -⟩ := configure_ok h
  cases x
  all_goals first
    | exact absurd hx (by decide)
    | refine ⟨inferInstance, _, rfl, ?_⟩
      simp only [Setting.effective, Setting.layers, Setting.onCommandLine, Setting.inFile,
        Setting.inDsn, Setting.inEnvironment, overwritten_of_four, hconn, hargs,
        ConnectionConfig.fromArgs, fillFromDsn, merged_eq, mergeConfig, Args.parse,
        Layer.value?_ofOption, Layer.value?_ofText, Layer.value?_silent, fill_default_none]

/-- The connection string is the one that is resolved. -/
theorem dsn_effective (h : configure fromStr i = .ok c) :
    Setting.dsn.effective i c =
      (filled (Setting.dsn.layers fromStr i)).or (Setting.dsn.fallback fromStr i) := by
  obtain ⟨hsource, -, -, -⟩ := configure_ok h
  have heffective : Setting.dsn.effective i c = i.connectionString := by
    rw [Setting.effective, hsource]
    rfl
  rw [heffective, Inputs.connectionString, merged_eq, Setting.layers, filled_of_four]
  simp only [mergeConfig, Args.parse, Setting.onCommandLine, Setting.inFile, Setting.inDsn,
    Setting.inEnvironment, Setting.fallback, Setting.builtIn, Layer.value?_ofOption,
    Layer.value?_silent, Option.none_or, Option.or_none, Option.or_assoc]

/-- Every other setting but the password is filled layer by layer. -/
theorem effective_of_filled (h : configure fromStr i = .ok c) {x : Setting}
    (hx : x.unsetAtBuiltIn = false) (hpassword : x ≠ .password) :
    x.effective i c = (filled (x.layers fromStr i)).or (x.fallback fromStr i) := by
  obtain ⟨-, hargs, hconn, -⟩ := configure_ok h
  cases x
  case password => exact absurd rfl hpassword
  case dsn => exact dsn_effective h
  all_goals first
    | exact absurd hx (by decide)
    | simp only [Setting.effective, Setting.layers, Setting.onCommandLine, Setting.inFile,
        Setting.inDsn, Setting.inEnvironment, Setting.fallback, Setting.builtIn, getD_of_flag,
        filled_of_four, hconn, hargs, ConnectionConfig.fromArgs, fillFromDsn, merged_eq,
        mergeConfig, Args.parse, Layer.value?_ofOption, Layer.value?_ofText,
        Layer.value?_silent, Option.or_none, Option.or_assoc, Option.or_some]

/-- A content is one that counts as set, or the empty one. -/
theorem or_of_empty (content other : Option Text) :
    content.or other = (content.filter (· ≠ [])).or ((content.filter (· = [])).or other) := by
  cases content with
  | none => rfl
  | some text => cases text <;> rfl

/-- Without a layer that sets the password, an empty password file still gives one. -/
theorem password_effective (h : configure fromStr i = .ok c) :
    Setting.password.effective i c =
      (filled (Setting.password.layers fromStr i)).or
        (((envPasswordFile i.env).filter (· = [])).or
          (Setting.password.fallback fromStr i)) := by
  obtain ⟨-, hargs, hconn, -⟩ := configure_ok h
  simp only [Setting.effective, Setting.layers, Setting.onCommandLine, Setting.inFile,
    Setting.inDsn, Setting.inEnvironment, Setting.fallback, filled_of_four, hconn, hargs,
    ConnectionConfig.fromArgs, fillFromDsn, merged_eq, mergeConfig, Args.parse,
    Layer.value?_ofOption, Option.or_assoc]
  rw [or_of_empty (envPasswordFile i.env)]

/-- Every layer takes a password as it is. -/
theorem password_is_no_text (fromStr : ConfigFromStr) (i : Inputs) :
    governing (Setting.password.layers fromStr i) ≠ .garbled :=
  governing_ne_garbled (by simp)

/-- A password is the governing one unless an empty file stands for one. -/
theorem password_holds_iff (h : configure fromStr i = .ok c) :
    Setting.password.Holds fromStr i c ↔ ¬ Setting.EmptyPasswordFile fromStr i := by
  have hgarbled := password_is_no_text fromStr i
  rw [Setting.Holds, password_effective h, filled_eq_governing hgarbled, Prevails,
    Setting.EmptyPasswordFile]
  cases hgoverning : governing (Setting.password.layers fromStr i) with
  | silent =>
      cases hfile : envPasswordFile i.env with
      | none => simp
      | some content =>
          by_cases hempty : content = []
          · subst hempty
            simpa [Option.filter] using eq_comm
          · simp [hempty, Option.filter]
  | garbled => exact absurd hgoverning hgarbled
  | sets value => simp

end Merge

/-- The law of precedence, setting by setting: it holds of a setting exactly when the setting is
not lost. -/
theorem setting_holds_iff_not_lost {fromStr : ConfigFromStr} {i : Inputs} {c : Configured}
    (h : configure fromStr i = .ok c) (x : Setting) :
    x.Holds fromStr i c ↔ ¬ x.Lost fromStr i := by
  by_cases hpassword : x = .password
  · subst hpassword
    rw [password_holds_iff h]
    simp only [Setting.Lost, Setting.builtIn, reduceCtorEq, false_and, exists_false, true_and,
      password_is_no_text fromStr i, and_false, false_or]
  · cases hunset : x.unsetAtBuiltIn with
    | true =>
        obtain ⟨_, value, hbuiltIn, heffective⟩ := effective_of_unset_at_built_in h hunset
        have hfallback : x.fallback fromStr i = some value := by
          rw [← hbuiltIn]
          cases x <;> first | rfl | exact absurd rfl hpassword
        rw [Setting.Holds, hfallback, heffective, prevails_overwritten_iff]
        simp [Setting.Lost, hbuiltIn, hunset, hpassword]
    | false =>
        rw [Setting.Holds, effective_of_filled h hunset hpassword, prevails_filled_iff]
        simp [Setting.Lost, hunset, hpassword]

/-- An environment with one variable and no files. -/
def oneVariable (name : String) (value : Text) : Environment where
  var n := if n = name.toList then .ok value else .error .notPresent
  file _ := none

/-- A parser that knows no connection string. -/
def noConnectionString : ConfigFromStr := fun _ => .error "invalid connection string"

/-- A host in the file, and another one in `PG_HOST`. -/
def hostTwice : Inputs where
  file := some { host := some "db.internal".toList }
  env := oneVariable "PG_HOST" "localhost".toList

/-- The host of the file is used. -/
theorem file_outranks_environment : ∃ c, configure noConnectionString hostTwice = .ok c ∧
    c.connection.host = "db.internal".toList ∧
      Setting.host.Holds noConnectionString hostTwice c := by
  have hconfigured : configure noConnectionString hostTwice =
      .ok ⟨hostTwice.merged, {}, ConnectionConfig.fromArgs hostTwice.env hostTwice.merged⟩ := rfl
  refine ⟨_, hconfigured, rfl, (setting_holds_iff_not_lost hconfigured .host).2 ?_⟩
  rintro (⟨_, _, hunset, _⟩ | ⟨_, hgarbled⟩ | ⟨hpassword, _⟩)
  · cases hunset
  · cases hgarbled
  · cases hpassword

/-- The lock timeout typed on the command line is the built-in one; the file has another. -/
def typedDefault : Inputs where
  commandLine := { lockTimeoutMs := some 10 }
  file := some { lockTimeoutMs := some 5000 }
  env := oneVariable "PG_HOST" "localhost".toList

/-- The file replaces what was typed. -/
theorem typed_default_is_replaced : ∃ c, configure noConnectionString typedDefault = .ok c ∧
    c.args.lockTimeoutMs = 5000 ∧
      ¬ Setting.lockTimeoutMs.Holds noConnectionString typedDefault c :=
  ⟨_, rfl, rfl, fun h => by cases h⟩

end PgMaintainer
