import PgMaintainer.Dsn.Indexed
import PgMaintainer.Dsn.Parse

/-!
# `parse` and `redact` with their offsets

The entry points of `dsn.rs` over the scanners on indices and byte offsets. They come to the
functions on texts of the same name, which can only panic where percent decoding does.
-/

namespace PgMaintainer

namespace Offsets

/-! ## Parsing -/

/-- Read one segment of a URI query. -/
def readSegment (segment : Text) : Except Halt QuerySegment := do
  let (rawKey, rawValue) := (segment.splitOnce '=').getD (segment, [])
  let key := (← percentDecode rawKey).toAsciiLowercase
  if key ∈ sslParams then
    pure ⟨segment, key, some (← percentDecode rawValue)⟩
  else
    pure ⟨segment, key, none⟩

/-- Pull the SSL parameters out of a DSN. -/
def extractSslParams (raw : Text) : Except Halt SplitDsn :=
  if isUri raw then
    match raw.splitOnce '?' with
    | none => pure ⟨[], raw, []⟩
    | some (base, query) => do
      let segments ← ((query.splitOn '&').filter (· ≠ [])).mapM readSegment
      let others := segments.filter (·.sslValue.isNone)
      let kept := others.map QuerySegment.text
      pure
        { ssl := segments.filterMap QuerySegment.ssl
          rest := if kept = [] then base else base ++ '?' :: ['&'].intercalate kept
          otherKeys := others.map QuerySegment.key }
  else do
    let pairs ← splitKeywordPairs raw
    let others := pairs.filter (!isSslPair ·)
    pure
      { ssl := (pairs.filter isSslPair).map fun pair => (pair.1.toAsciiLowercase, pair.2)
        rest := [' '].intercalate (others.map renderPair)
        otherKeys := others.map fun pair => pair.1.toAsciiLowercase }

/-- `!(is_uri(trimmed) && !uri_has_explicit_port(trimmed))`. -/
def namesPort (trimmed : Text) : Except Halt Bool :=
  if isUri trimmed then uriHasExplicitPort trimmed else pure true

/-- Parse a `--dsn` / `PG_DSN` value into its connection fields. -/
def parse (fromStr : ConfigFromStr) (raw : Text) : Except Halt ParsedDsn :=
  let trimmed := raw.trim
  if trimmed = [] then
    .error (.new "--dsn value is empty")
  else if !isUri trimmed && !trimmed.contains '=' then
    .error (.new ("could not parse --dsn: expected a postgres:// URI or a libpq keyword " ++
      "string such as \"host=db.internal dbname=mydb\""))
  else do
    let split ← extractSslParams trimmed
    match fromStr split.rest with
    | .error e =>
      .error (.new (s!"could not parse --dsn: {e}. Expected a postgres:// URI or a libpq " ++
        "keyword string; note that the password must be percent-encoded in a URI"))
    | .ok cfg =>
      if 1 < cfg.hosts.length then
        .error (.new (s!"--dsn names {cfg.hosts.length} hosts — pg-maintainer connects to a " ++
          "single host, so multi-host (failover) connection strings are not supported"))
      else do
        let named ← namesPort trimmed
        let parsed : ParsedDsn :=
          { host := cfg.hosts.head?.map Host.name
            port := if named then cfg.ports.head? else none
            database := cfg.dbname
            username := cfg.user
            password := cfg.password.map Text.fromUtf8Lossy
            connectTimeoutSeconds := cfg.connectTimeout
            ignoredParams := split.otherKeys.filter (· ∈ unusedParams) }
        split.ssl.foldlM applySslParam parsed

/-! ## Redaction -/

/-- Render a DSN with its password masked. -/
def redact (raw : Text) : Except Halt Text := do
  let trimmed := raw.trim
  if isUri trimmed then
    let authority ← uriAuthority trimmed
    match Text.rfind '@' authority with
    | none => pure trimmed
    | some at_ =>
      let userinfo ← Text.slice authority 0 at_
      match Text.find (Text.startsWithAny [':']) userinfo with
      | none => pure trimmed
      | some colon =>
        let user ← Text.slice userinfo 0 colon
        let hostpart ← Text.sliceFrom authority at_
        pure (Text.replaceFirst authority (user ++ ':' :: mask ++ hostpart) trimmed)
  else
    match splitKeywordPairs trimmed with
    | .ok pairs => pure ([' '].intercalate (pairs.map redactPair))
    | .error (.error _) => pure "[REDACTED]".toList
    | .error .panic => .error .panic

/-! ## What they come to -/

/-- A segment is read the same with byte offsets. -/
theorem read_segment_offsets (segment : Text) :
    readSegment segment = PgMaintainer.readSegment segment := by
  unfold readSegment PgMaintainer.readSegment
  simp only [percent_decode_eq]

/-- The parameters come to the function on texts. -/
theorem extract_ssl_params_offsets (raw : Text) :
    extractSslParams raw = PgMaintainer.extractSslParams raw := by
  unfold extractSslParams PgMaintainer.extractSslParams
  by_cases huri : isUri raw = true
  · have hread : PgMaintainer.readSegment = readSegment :=
      funext fun segment => (read_segment_offsets segment).symm
    refine (if_pos huri).trans (Eq.trans ?_ (if_pos huri).symm)
    unfold extractFromUri
    exact hread ▸ rfl
  · rw [if_neg huri, if_neg huri, extractFromKeywords, split_keyword_pairs_offsets]
    cases PgMaintainer.splitKeywordPairs raw <;> rfl

/-- So is the port of a URI. -/
theorem names_port_offsets (trimmed : Text) : namesPort trimmed =
    .ok (!(isUri trimmed && !PgMaintainer.uriHasExplicitPort trimmed)) := by
  rw [namesPort, uri_has_explicit_port_eq]
  cases isUri trimmed with
  | false => rfl
  | true => simp

/-- Parsing comes to the function on texts. -/
theorem parse_offsets (fromStr : ConfigFromStr) (raw : Text) :
    parse fromStr raw = parseDsn fromStr raw := by
  unfold parse parseDsn
  refine congrArg (ite _ _) (congrArg (ite _ _) ?_)
  rw [extract_ssl_params_offsets, names_port_offsets]
  cases PgMaintainer.extractSslParams raw.trim with
  | error => rfl
  | ok split =>
      simp only [ok_bind]
      cases fromStr split.rest with
      | error => rfl
      | ok cfg =>
          refine congrArg (ite _ _) ?_
          cases isUri raw.trim && !PgMaintainer.uriHasExplicitPort raw.trim <;> rfl

/-- Redaction comes to the function on texts. -/
theorem redact_offsets (raw : Text) : redact raw = .ok (PgMaintainer.redact raw) := by
  unfold redact PgMaintainer.redact
  by_cases huri : isUri raw.trim = true
  · simp only [huri, if_true, uri_authority_eq, ok_bind]
    generalize PgMaintainer.uriAuthority raw.trim = authority
    rcases slice_behind_last '@' (by decide) authority with
      ⟨hsplit, hfind⟩ | ⟨userinfo, hostpart, i, hsplit, hfind, hslice, hfrom, -⟩
    · rw [hsplit, hfind]
      rfl
    · simp only [hsplit, hfind, hslice, ok_bind]
      rcases Text.find_any_cases [':'] userinfo with
        ⟨hnone, hcolon⟩ | ⟨user, c, secret, rfl, huser, hc, hcolon⟩
      · have hno : ':' ∉ userinfo := fun hmem => hnone _ hmem (List.mem_singleton_self _)
        rw [hcolon, Text.split_once_eq_none hno]
        rfl
      · obtain rfl := List.mem_singleton.1 hc
        have hno : ':' ∉ user := fun hmem => huser _ hmem (List.mem_singleton_self _)
        simp only [hcolon, Text.slice_prefix, hfrom, Text.split_once_append hno, ok_bind]
        rfl
  · simp only [huri, split_keyword_pairs_offsets]
    cases PgMaintainer.splitKeywordPairs raw.trim <;> rfl

end Offsets

end PgMaintainer
