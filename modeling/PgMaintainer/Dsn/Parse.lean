import PgMaintainer.Dsn.Keyword
import PgMaintainer.Dsn.Uri
import PgMaintainer.Types

/-!
# Connection strings

`dsn.rs`: the four SSL parameters are taken out of the string and handled here, and the rest is
handed to `tokio_postgres::Config::from_str`, which is a parameter. What comes out are the
fields the string set; for a log, the string with its password masked.
-/

namespace PgMaintainer

/-- `tokio_postgres::config::Host`; a Unix socket path is bytes. -/
inductive Host where
  | tcp (name : Text)
  | unix (path : List UInt8)
  deriving DecidableEq, Repr

/-- `tokio_postgres::Config`, reduced to what the code reads of it. -/
structure PgConfig where
  hosts : List Host := []
  ports : List Nat := []
  dbname : Option Text := none
  user : Option Text := none
  password : Option (List UInt8) := none
  connectTimeout : Option Nat := none
  deriving DecidableEq, Repr

/-- `Config::from_str`, with the text of its error. -/
abbrev ConfigFromStr := Text → Except String PgConfig

/-- Connection fields recovered from a DSN. A DSN only fills in what it specified. -/
structure ParsedDsn where
  host : Option Text := none
  port : Option Nat := none
  database : Option Text := none
  username : Option Text := none
  password : Option Text := none
  sslmode : Option SslMode := none
  sslCaCert : Option Text := none
  sslClientCert : Option Text := none
  sslClientKey : Option Text := none
  connectTimeoutSeconds : Option Nat := none
  ignoredParams : List Text := []
  deriving DecidableEq, Repr

/-- The SSL parameters handled here because tokio-postgres will not. -/
def sslParams : List Text :=
  ["sslmode".toList, "sslrootcert".toList, "sslcert".toList, "sslkey".toList]

/-- Parameters tokio-postgres accepts but pg-maintainer does not act on. -/
def unusedParams : List Text :=
  ["application_name".toList, "options".toList, "target_session_attrs".toList,
    "keepalives".toList, "keepalives_idle".toList, "channel_binding".toList]

/-! ## The SSL parameters -/

/-- A DSN split into its SSL parameters and the remainder. -/
structure SplitDsn where
  ssl : List (Text × Text)
  /-- The DSN with the SSL parameters removed. -/
  rest : Text
  otherKeys : List Text
  deriving DecidableEq, Repr

/-- One segment of a URI query. -/
structure QuerySegment where
  text : Text
  key : Text
  /-- Its decoded value, for an SSL parameter. -/
  sslValue : Option Text

/-- Read one segment of a URI query. Only the value of an SSL parameter is decoded. -/
def readSegment (segment : Text) : Except Halt QuerySegment := do
  let (rawKey, rawValue) := (segment.splitOnce '=').getD (segment, [])
  let key := (← percentDecode rawKey).toAsciiLowercase
  if key ∈ sslParams then
    pure ⟨segment, key, some (← percentDecode rawValue)⟩
  else
    pure ⟨segment, key, none⟩

/-- The SSL parameters among query segments. -/
def QuerySegment.ssl (segment : QuerySegment) : Option (Text × Text) :=
  segment.sslValue.map fun value => (segment.key, value)

/-- Pull the SSL parameters out of a URI. The other segments are kept verbatim. -/
def extractFromUri (raw : Text) : Except Halt SplitDsn :=
  match raw.splitOnce '?' with
  | none => pure ⟨[], raw, []⟩
  | some (base, query) => do
    let segments ← ((query.splitOn '&').filter (· ≠ [])).mapM readSegment
    let others := segments.filter (·.sslValue.isNone)
    let kept := others.map QuerySegment.text
    pure
      { ssl := segments.filterMap QuerySegment.ssl
        rest := if kept = [] then base else base ++ '?' :: ['&'].intercalate kept
        otherKeys := others.map QuerySegment.key }

/-- Render a pair of a keyword string. -/
def renderPair (pair : Text × Text) : Text := pair.1 ++ '=' :: escapeKeywordValue pair.2

/-- Whether a pair sets an SSL parameter. -/
def isSslPair (pair : Text × Text) : Bool := pair.1.toAsciiLowercase ∈ sslParams

/-- Pull the SSL parameters out of a keyword string. -/
def extractFromKeywords (raw : Text) : Except Halt SplitDsn :=
  match splitKeywordPairs raw with
  | .error text => .error (.new text)
  | .ok pairs =>
    let others := pairs.filter (!isSslPair ·)
    pure
      { ssl := (pairs.filter isSslPair).map fun pair => (pair.1.toAsciiLowercase, pair.2)
        rest := [' '].intercalate (others.map renderPair)
        otherKeys := others.map fun pair => pair.1.toAsciiLowercase }

/-- Pull the SSL parameters out of a DSN. -/
def extractSslParams (raw : Text) : Except Halt SplitDsn :=
  if isUri raw then extractFromUri raw else extractFromKeywords raw

/-- Map a libpq `sslmode` value onto the tool's own SSL mode. `allow` and `prefer` are rejected
rather than approximated. -/
def mapSslmode (value : Text) : Except Halt SslMode :=
  let lower := value.toAsciiLowercase
  if lower = "disable".toList then pure .disable
  else if lower = "require".toList then pure .require
  else if lower = "verify-ca".toList then pure .verifyCa
  else if lower = "verify-full".toList then pure .verifyFull
  else if lower = "allow".toList ∨ lower = "prefer".toList then
    .error (.new (s!"DSN sslmode '{String.ofList value}' is not supported — pg-maintainer " ++
      "connects either in plaintext or with TLS required, with no opportunistic mode. " ++
      "Use one of: disable, require, verify-ca, verify-full"))
  else
    .error (.new (s!"DSN has an invalid sslmode '{String.ofList lower}'. Must be one of: " ++
      "disable, require, verify-ca, verify-full"))

/-- Apply one SSL parameter. A key that is none of the four is `unreachable!`. -/
def applySslParam (parsed : ParsedDsn) (param : Text × Text) : Except Halt ParsedDsn :=
  if param.1 = "sslmode".toList then do
    let mode ← mapSslmode param.2
    pure { parsed with sslmode := some mode }
  else if param.1 = "sslrootcert".toList then pure { parsed with sslCaCert := some param.2 }
  else if param.1 = "sslcert".toList then pure { parsed with sslClientCert := some param.2 }
  else if param.1 = "sslkey".toList then pure { parsed with sslClientKey := some param.2 }
  else .error .panic

/-! ## Parsing -/

/-- The name of a host. -/
def Host.name : Host → Text
  | .tcp name => name
  | .unix path => Text.fromUtf8Lossy path

/-- Parse a `--dsn` / `PG_DSN` value into its connection fields. -/
def parseDsn (fromStr : ConfigFromStr) (raw : Text) : Except Halt ParsedDsn :=
  let trimmed := raw.trim
  if trimmed = [] then
    .error (.new "--dsn value is empty")
  else if !isUri trimmed && !trimmed.contains '=' then
    .error (.new ("could not parse --dsn: expected a postgres:// URI or a libpq keyword " ++
      "string such as \"host=db.internal dbname=mydb\""))
  else do
    let split ← extractSslParams trimmed
    match fromStr split.rest with
    | .error e =>
      .error (.new (s!"could not parse --dsn: {e}. Expected a postgres:// URI or a libpq " ++
        "keyword string; note that the password must be percent-encoded in a URI"))
    | .ok cfg =>
      if 1 < cfg.hosts.length then
        .error (.new (s!"--dsn names {cfg.hosts.length} hosts — pg-maintainer connects to a " ++
          "single host, so multi-host (failover) connection strings are not supported"))
      else
        let parsed : ParsedDsn :=
          { host := cfg.hosts.head?.map Host.name
            -- a URI always yields a port, so it counts only where the string named one
            port := if isUri trimmed && !uriHasExplicitPort trimmed then none
              else cfg.ports.head?
            database := cfg.dbname
            username := cfg.user
            password := cfg.password.map Text.fromUtf8Lossy
            connectTimeoutSeconds := cfg.connectTimeout
            ignoredParams := split.otherKeys.filter (· ∈ unusedParams) }
        split.ssl.foldlM applySslParam parsed

/-! ## Redaction -/

/-- What stands for a password in a log. -/
def mask : Text := "***".toList

/-- Render a pair of a keyword string, a password masked. -/
def redactPair (pair : Text × Text) : Text :=
  if pair.1.toAsciiLowercase = "password".toList then pair.1 ++ '=' :: mask else renderPair pair

/-- Render a DSN with its password masked. -/
def redact (raw : Text) : Text :=
  let trimmed := raw.trim
  if isUri trimmed then
    let authority := uriAuthority trimmed
    match authority.splitLast '@' with
    | none => trimmed
    | some (userinfo, hostpart) =>
      match userinfo.splitOnce ':' with
      | none => trimmed
      | some (user, _) =>
        Text.replaceFirst authority (user ++ ':' :: mask ++ '@' :: hostpart) trimmed
  else
    match splitKeywordPairs trimmed with
    | .ok pairs => [' '].intercalate (pairs.map redactPair)
    | .error _ => "[REDACTED]".toList

end PgMaintainer
