import PgMaintainer.Startup.Merge

/-!
# Connection parameters

Everything needed to open a connection, after `connection.rs`: what is still unset is taken
from the environment, a password also from a password file, and the rest has defaults.
-/

namespace PgMaintainer

/-- All parameters needed to open a PostgreSQL connection. -/
structure ConnectionConfig where
  host : Text
  port : Nat
  database : Text
  username : Text
  password : Option Text
  sslmode : SslMode
  sslCaCert : Option Text
  sslClientCert : Option Text
  sslClientKey : Option Text
  connectTimeoutSeconds : Nat
  deriving DecidableEq, Repr

/-- `PG_PASSWORD`, an empty one the same as a missing one. -/
def envPassword (env : Environment) : Option Text :=
  match env.get? "PG_PASSWORD" with
  | some [] | none => none
  | some password => some password

/-- The content of the file `PG_PASSWORD_FILE` names, without the whitespace behind it. -/
def envPasswordFile (env : Environment) : Option Text :=
  (env.get? "PG_PASSWORD_FILE").bind fun path => (env.readToString path).map Text.trimEnd

/-- Build from the arguments, the environment and `.pgpass`, in that order. -/
def ConnectionConfig.fromArgs (env : Environment) (args : Args) : ConnectionConfig :=
  let host := (args.host.or (env.get? "PG_HOST")).getD defaultPostgresHost
  let port := (args.port.or ((env.get? "PG_PORT").bind Text.parseU16)).getD defaultPostgresPort
  let database := (args.database.or (env.get? "PG_DATABASE")).getD defaultPostgresDatabase
  let username := (args.username.or (env.get? "PG_USER")).getD defaultPostgresUsername
  { host, port, database, username
    password := args.password.or ((envPassword env).or ((envPasswordFile env).or
      (getPasswordFromPgpass env host port database username)))
    sslmode := args.sslmode
    sslCaCert := args.sslCaCert
    sslClientCert := args.sslClientCert
    sslClientKey := args.sslClientKey
    connectTimeoutSeconds := args.connectTimeoutSeconds }

/-- Quote a value of the connection string. -/
def escapeLibpqValue (s : Text) : Text :=
  if s.any needsEscape then '\'' :: escapeChars s ++ ['\''] else s

/-- The connection string, a libpq keyword string. -/
def ConnectionConfig.buildConnectionString (c : ConnectionConfig) : Text :=
  "host=".toList ++ escapeLibpqValue c.host ++ " port=".toList ++ decimal c.port ++
    " dbname=".toList ++ escapeLibpqValue c.database ++
    " user=".toList ++ escapeLibpqValue c.username ++
    " connect_timeout=".toList ++ decimal c.connectTimeoutSeconds ++
    match c.password with
    | some pw => " password=".toList ++ escapeLibpqValue pw
    | none => []

/-- How a connection reaches the server. -/
inductive Transport where
  | plaintext
  | tls (acceptInvalidCerts acceptInvalidHostnames : Bool)
  deriving DecidableEq, Repr

/-- The path `connect_raw` takes: plaintext for `Disable` alone, else TLS, for which a client
certificate and its key must come together. -/
def connectRaw (c : ConnectionConfig) : Except AnyError Transport :=
  match c.sslmode with
  | .disable => .ok .plaintext
  | mode =>
    if c.sslClientCert.isSome = c.sslClientKey.isSome then
      .ok (.tls (mode = .require) (mode = .require ∨ mode = .verifyCa))
    else
      .error (.new "Both --ssl-client-cert and --ssl-client-key must be provided together")

/-- The plaintext path is taken for `Disable` alone. -/
theorem connect_raw_plaintext_iff (c : ConnectionConfig) :
    connectRaw c = .ok .plaintext ↔ c.sslmode = .disable := by
  unfold connectRaw
  cases c.sslmode with
  | disable => simp
  | require | verifyCa | verifyFull =>
      simp only [reduceCtorEq, iff_false]
      split <;> simp

end PgMaintainer
