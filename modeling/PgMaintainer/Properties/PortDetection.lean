import PgMaintainer.Properties.Extraction
import PgMaintainer.Properties.PercentDecoding

/-!
# Which port a URI names

What the ports of a URI are is up to the parser of the driver: the userinfo ends at the first `@`,
the port of the host comes first, and the `port` parameters follow it. `parse` believes the parser
only where a scanner of its own finds a port in the text before the first slash or question mark.
-/

namespace PgMaintainer

/-! ## The parts of a URI -/

/-- A text with its escapes decoded. -/
def decodeText (s : Text) : Text := Text.fromUtf8Lossy (decodeEscapes s.asBytes)

/-- What follows the scheme. -/
def behindScheme (uri : Text) : Text := (afterSlashes uri).getD []

/-- The userinfo, which ends at the first `@`. -/
def uriUserinfo (uri : Text) : Option Text := ((behindScheme uri).splitOnce '@').map Prod.fst

/-- What follows the userinfo. -/
def behindUserinfo (uri : Text) : Text :=
  match (behindScheme uri).splitOnce '@' with
  | some (_, rest) => rest
  | none => behindScheme uri

/-- The host part: what follows the userinfo up to a slash or a question mark. -/
def hostPart (uri : Text) : Text := (behindUserinfo uri).takeWhile fun c => c ≠ '/' && c ≠ '?'

/-- The port behind a host, which may be an address in brackets. -/
def hostPort (host : Text) : Option Text :=
  if host.head? = some '[' then
    match host.splitOnce ']' with
    | some (_, ':' :: port) => some port
    | _ => none
  else
    (host.splitOnce ':').map Prod.snd

/-- The value of a segment of the query, if it is a `port` parameter. -/
def segmentPort (segment : Text) : Option Text :=
  if decodeText (rawParameter segment).1 = "port".toList then
    some (decodeText (rawParameter segment).2)
  else none

/-- The `port` parameters of the query. -/
def portParameters (uri : Text) : List Text :=
  match (behindUserinfo uri).splitOnce '?' with
  | none => []
  | some (_, query) => (query.splitOn '&').filterMap segmentPort

/-- The ports of a URI as they are written, that of the host first. Where a host has none, the entry
is empty. -/
def portEntries (uri : Text) : List Text :=
  (if hostPart uri = [] then []
    else (((hostPort (hostPart uri)).map decodeText).getD []).splitOn ',') ++
    (portParameters uri).flatMap (·.splitOn ',')

/-- The ports that a URI names. -/
def namedPorts (uri : Text) : List Nat := (portEntries uri).filterMap Text.parseU16

/-- The port that an entry stands for: 5432 if it is empty. -/
def entryPort (entry : Text) : Option Nat := if entry = [] then some 5432 else entry.parseU16

/-- What the driver's parser is assumed to do: the ports of a URI with one host at most are those of
its entries. -/
def ListsPorts (fromStr : ConfigFromStr) : Prop :=
  ∀ uri cfg, isUri uri = true → fromStr uri = .ok cfg → cfg.hosts.length ≤ 1 →
    (portEntries uri).mapM entryPort = some cfg.ports

/-- A URI without its SSL parameters and its empty segments, as the driver's parser gets it. -/
def withoutSsl (uri : Text) : Text :=
  uriWithout (uriBase uri) ((querySegments uri).filter (!isSslSegment ·))

/-! ## Taking out the SSL parameters -/

/-- What comes after the scheme goes on. -/
theorem after_slashes_append {s rest : Text} (h : afterSlashes s = some rest) (t : Text) :
    afterSlashes (s ++ t) = some (rest ++ t) := by
  induction s with
  | nil => cases h
  | cons c s ih =>
      rw [afterSlashes] at h
      rw [List.cons_append, afterSlashes]
      by_cases hslashes : c = '/' ∧ s.head? = some '/'
      · rw [if_pos hslashes] at h
        obtain ⟨rfl, hhead⟩ := hslashes
        cases s with
        | nil => cases hhead
        | cons d s =>
            rw [if_pos ⟨rfl, hhead⟩]
            cases h
            rfl
      · rw [if_neg hslashes] at h
        cases s with
        | nil => cases h
        | cons d s => exact (if_neg hslashes).trans (ih h)

/-- The first two slashes are found. -/
theorem after_slashes_front {front : Text} (h : '/' ∉ front) (rest : Text) :
    afterSlashes (front ++ '/' :: '/' :: rest) = some rest := by
  induction front with
  | nil => rfl
  | cons c front ih =>
      have hslash : ¬(c = '/' ∧ (front ++ '/' :: '/' :: rest).head? = some '/') := by
        intro hc
        exact h (hc.1 ▸ List.mem_cons_self)
      rw [List.cons_append, afterSlashes, if_neg hslash]
      exact ih fun hmem => h (List.mem_cons_of_mem c hmem)

/-- Only the slash is lower case for a slash. -/
theorem eq_slash_of_lower {c : Char} (h : c.toLower = '/') : c = '/' := by
  unfold Char.toLower at h
  split at h
  case isTrue hupper =>
    have hval := congrArg (fun c => c.val.toNat) h
    have hlow := UInt32.le_iff_toNat_le.1 hupper.1
    have hhigh := UInt32.le_iff_toNat_le.1 hupper.2
    simp at hval hlow hhigh
    omega
  case isFalse => exact h

/-- A URI is a scheme with two slashes behind it. -/
theorem uri_front {s : Text} (h : isUri s = true) :
    ∃ front rest, s = front ++ '/' :: '/' :: rest ∧ '/' ∉ front ∧ '@' ∉ front := by
  have hscheme : ∀ scheme : Text, (scheme ++ ['/', '/']).isPrefixOf s.toAsciiLowercase = true →
      '/' ∉ scheme → '@' ∉ scheme →
      ∃ front rest, s = front ++ '/' :: '/' :: rest ∧ '/' ∉ front ∧ '@' ∉ front := by
    intro scheme hstart hslash hat
    obtain ⟨tail, htail⟩ := List.isPrefixOf_iff_prefix.1 hstart
    rw [List.append_assoc] at htail
    obtain ⟨before, after, rfl, hbefore, hafter⟩ := List.map_eq_append_iff.1 htail.symm
    obtain ⟨c, after, rfl, hc, hafter⟩ := List.map_eq_cons_iff.1 hafter
    obtain ⟨d, after, rfl, hd, -⟩ := List.map_eq_cons_iff.1 hafter
    rw [eq_slash_of_lower hc, eq_slash_of_lower hd]
    refine ⟨before, after, rfl, fun hmem => hslash ?_, fun hmem => hat ?_⟩
    · exact hbefore ▸ List.mem_map_of_mem (f := Char.toLower) hmem
    · exact hbefore ▸ List.mem_map_of_mem (f := Char.toLower) hmem
  rw [isUri, Bool.or_eq_true] at h
  rcases h with h | h
  · exact hscheme "postgres:".toList h (by decide) (by decide)
  · exact hscheme "postgresql:".toList h (by decide) (by decide)

/-- A URI has a scheme. -/
theorem after_slashes_of_uri {s : Text} (h : isUri s = true) :
    ∃ rest, afterSlashes s = some rest := by
  obtain ⟨front, rest, rfl, hslash, -⟩ := uri_front h
  exact ⟨rest, after_slashes_front hslash rest⟩

/-- What is decoded otherwise has a percent sign left. -/
theorem percent_decode_or_percent {s key : Text} (h : percentDecode s = .ok key) :
    key = decodeText s ∨ '%' ∈ decodeText s := by
  unfold percentDecode at h
  unfold decodeText
  cases hbytes : percentDecodeBytes s.asBytes with
  | error =>
      rw [hbytes] at h
      cases h
  | ok bytes =>
      rw [hbytes] at h
      cases h
      by_cases hplus : HasPlusEscape s.asBytes
      · obtain ⟨pre, value, rest, rest', -, hspec, -⟩ := decoded_of_plus hbytes hplus
        rw [hspec, Text.lossy_append_ascii (by decide)]
        exact .inr (List.mem_append_right _ List.mem_cons_self)
      · exact .inl (by rw [decoded_of_no_plus hbytes hplus])

/-- A segment with an SSL parameter is no port. -/
theorem segment_port_ssl {segment : Text} (h : isSslSegment segment = true) :
    segmentPort segment = none := by
  unfold isSslSegment at h
  unfold segmentPort
  rw [if_neg]
  intro hport
  cases hkey : percentDecode (rawParameter segment).1 with
  | error =>
      rw [hkey] at h
      cases h
  | ok key =>
      rw [hkey] at h
      rcases percent_decode_or_percent hkey with rfl | hpercent
      · rw [hport] at h
        exact absurd h (by decide)
      · rw [hport] at hpercent
        exact absurd hpercent (by decide)

/-- An empty entry names no port. -/
theorem segment_port_nil : segmentPort [] = none := by
  have hkey : decodeText (rawParameter []).1 = [] := Text.lossy_as_bytes []
  rw [segmentPort, hkey]
  rfl

/-- A character between the pieces comes from one of them. -/
theorem not_mem_intercalate {sep c : Char} (hc : c ≠ sep) {pieces : List Text}
    (h : ∀ piece ∈ pieces, c ∉ piece) : c ∉ [sep].intercalate pieces := by
  induction pieces with
  | nil => simp [List.intercalate]
  | cons piece pieces ih =>
      obtain ⟨hpiece, hpieces⟩ := List.forall_mem_cons.1 h
      cases pieces with
      | nil => simpa [List.intercalate] using hpiece
      | cons next pieces =>
          have hrest := ih hpieces
          rw [List.intercalate_cons_cons]
          simp [hpiece, hc, hrest]

/-- A piece between separators is part of the text. -/
theorem mem_of_mem_piece {sep c : Char} {s piece : Text} (hpiece : piece ∈ s.splitOn sep)
    (hc : c ∈ piece) : c ∈ s := by
  induction s generalizing piece with
  | nil =>
      obtain rfl : piece = [] := by simpa using hpiece
      exact hc
  | cons d s ih =>
      rw [List.splitOn_cons_eq_if_modifyHead] at hpiece
      split at hpiece
      · rcases List.mem_cons.1 hpiece with rfl | hpiece
        · cases hc
        · exact List.mem_cons_of_mem _ (ih hpiece hc)
      · obtain ⟨first, pieces, hpieces⟩ := List.exists_cons_of_ne_nil (List.splitOn_ne_nil sep s)
        rw [hpieces, List.modifyHead_cons] at hpiece
        rcases List.mem_cons.1 hpiece with rfl | hpiece
        · rcases List.mem_cons.1 hc with rfl | hc
          · exact List.mem_cons_self
          · exact List.mem_cons_of_mem _ (ih (hpieces ▸ List.mem_cons_self) hc)
        · exact List.mem_cons_of_mem _ (ih (hpieces ▸ List.mem_cons_of_mem _ hpiece) hc)

/-- The segments that stay. -/
def keptSegments (uri : Text) : List Text := (querySegments uri).filter (!isSslSegment ·)

/-- What follows the base of a URI without its SSL parameters. -/
def keptTail (uri : Text) : Text :=
  if keptSegments uri = [] then [] else '?' :: ['&'].intercalate (keptSegments uri)

/-- Without its SSL parameters a URI is its base and the query that is kept. -/
theorem without_ssl_eq (uri : Text) : withoutSsl uri = uriBase uri ++ keptTail uri := by
  unfold withoutSsl uriWithout keptTail keptSegments
  split
  · rw [List.append_nil]
  · rfl

/-- What comes after the scheme is the end of the URI. -/
theorem after_slashes_suffix {s rest : Text} (h : afterSlashes s = some rest) : rest <:+ s := by
  induction s with
  | nil => cases h
  | cons c s ih =>
      rw [afterSlashes] at h
      split at h
      · cases h
        exact (List.tail_suffix s).trans (List.suffix_cons c s)
      · exact (ih h).trans (List.suffix_cons c s)

/-- Where the userinfo has no question mark, it ends before the query, and so what follows it does
not depend on the query. -/
theorem behind_userinfo_kept {base query : Text} (hbase : '?' ∉ base)
    (huri : isUri base = true)
    (huserinfo : ∀ info ∈ uriUserinfo (base ++ '?' :: query), '?' ∉ info) :
    ∃ front, '?' ∉ front ∧ behindUserinfo (base ++ '?' :: query) = front ++ '?' :: query ∧
      ∀ tail : Text, ('@' ∈ tail → '@' ∈ query) → behindUserinfo (base ++ tail) = front ++ tail := by
  obtain ⟨host, hhost⟩ := after_slashes_of_uri huri
  have hbehind : ∀ tail : Text, behindScheme (base ++ tail) = host ++ tail := by
    intro tail
    rw [behindScheme, after_slashes_append hhost]
    rfl
  have hmark : '?' ∉ host := fun hmem => hbase ((after_slashes_suffix hhost).subset hmem)
  by_cases hat : '@' ∈ host
  · obtain ⟨info, front, rfl, hinfo⟩ := List.eq_append_cons_of_mem hat
    have hfront : ∀ tail : Text, behindUserinfo (base ++ tail) = front ++ tail := by
      intro tail
      rw [behindUserinfo, hbehind, List.append_assoc, List.cons_append,
        Text.split_once_append hinfo]
    refine ⟨front, fun hmem => hmark ?_, hfront _, fun tail _ => hfront tail⟩
    exact List.mem_append_right _ (List.mem_cons_of_mem _ hmem)
  · -- an at sign in the query would have made the mark part of the userinfo
    have hquery : '@' ∉ query := by
      intro hmem
      obtain ⟨first, rest, rfl, hfirst⟩ := List.eq_append_cons_of_mem hmem
      have hno : '@' ∉ host ++ '?' :: first := by simp [hat, hfirst]
      have hinfo : uriUserinfo (base ++ '?' :: (first ++ '@' :: rest)) =
          some (host ++ '?' :: first) := by
        have hcut : host ++ '?' :: (first ++ '@' :: rest) =
            (host ++ '?' :: first) ++ '@' :: rest := by simp
        rw [uriUserinfo, hbehind, hcut, Text.split_once_append hno]
        rfl
      refine huserinfo _ hinfo ?_
      simp
    have hfront : ∀ tail : Text, '@' ∉ tail → behindUserinfo (base ++ tail) = host ++ tail := by
      intro tail htail
      have hno : '@' ∉ host ++ tail := by simp [hat, htail]
      rw [behindUserinfo, hbehind, Text.split_once_eq_none hno]
    exact ⟨host, hmark, hfront _ (by simp [hquery]),
      fun tail htail => hfront tail (mt htail hquery)⟩

/-- Neither the segments with an SSL parameter nor the empty ones are ports. -/
theorem kept_ports (segments : List Text) :
    ((segments.filter (· ≠ [])).filter (!isSslSegment ·)).filterMap segmentPort =
      segments.filterMap segmentPort := by
  induction segments with
  | nil => rfl
  | cons segment segments ih =>
      by_cases hempty : segment = []
      · subst hempty
        rw [List.filterMap_cons_none segment_port_nil, ← ih]
        rfl
      · by_cases hssl : isSslSegment segment = true
        · rw [List.filterMap_cons_none (segment_port_ssl hssl), ← ih]
          simp [hempty, hssl]
        · simp [hempty, hssl, List.filterMap_cons, ← ih]

/-- The host part ends before a question mark. -/
theorem take_host_append (front : Text) {tail : Text} (h : tail = [] ∨ tail.head? = some '?') :
    (front ++ tail).takeWhile (fun c => c ≠ '/' && c ≠ '?') =
      front.takeWhile fun c => c ≠ '/' && c ≠ '?' := by
  induction front with
  | nil =>
      rcases h with rfl | h
      · rfl
      · cases tail with
        | nil => cases h
        | cons c tail =>
            obtain rfl : c = '?' := Option.some.inj h
            exact List.takeWhile_cons_of_neg (by decide)
  | cons c front ih =>
      rw [List.cons_append, List.takeWhile_cons, List.takeWhile_cons, ih]

/-- Without a question mark in its userinfo, a URI has the same ports without its SSL
parameters. -/
theorem port_entries_without_ssl {uri : Text} (huri : isUri uri = true)
    (huserinfo : ∀ info ∈ uriUserinfo uri, '?' ∉ info) :
    portEntries (withoutSsl uri) = portEntries uri := by
  rw [without_ssl_eq]
  rcases Text.split_once_cases '?' uri with ⟨hno, hcut⟩ | ⟨base, query, rfl, hbase, hcut⟩
  · have hnone : keptTail uri = [] := by simp [keptTail, keptSegments, querySegments, hcut]
    rw [uri_base_eq_self hno, hnone, List.append_nil]
  have huriBase : isUri base = true := by
    have h := is_uri_base huri []
    rwa [uri_base_append hbase, List.append_nil] at h
  obtain ⟨front, hfront, hwhole, hrest⟩ := behind_userinfo_kept hbase huriBase huserinfo
  rw [uri_base_append hbase]
  have hsegments : keptSegments (base ++ '?' :: query) =
      ((query.splitOn '&').filter (· ≠ [])).filter (!isSslSegment ·) := by
    rw [keptSegments, querySegments, hcut]
  have hpieces : ∀ segment ∈ keptSegments (base ++ '?' :: query), segment ∈ query.splitOn '&' := by
    intro segment hsegment
    rw [hsegments] at hsegment
    exact (List.mem_filter.1 (List.mem_filter.1 hsegment).1).1
  have hports := kept_ports (query.splitOn '&')
  rw [← hsegments] at hports
  unfold keptTail
  -- with no parameter kept the question mark goes, too
  by_cases hkept : keptSegments (base ++ '?' :: query) = []
  · rw [if_pos hkept]
    have hbehind := hrest [] fun h => absurd h List.not_mem_nil
    have hnone : portParameters (base ++ []) = [] := by
      rw [portParameters, hbehind, List.append_nil, Text.split_once_eq_none hfront]
    have hall : portParameters (base ++ '?' :: query) = [] := by
      rw [portParameters, hwhole, Text.split_once_append hfront]
      show (query.splitOn '&').filterMap segmentPort = []
      rw [← hports, hkept]
      rfl
    have hhost : hostPart (base ++ []) = hostPart (base ++ '?' :: query) := by
      rw [hostPart, hostPart, hbehind, hwhole, take_host_append front (.inl rfl),
        take_host_append front (.inr rfl)]
    rw [portEntries, portEntries, hnone, hall, hhost]
  · rw [if_neg hkept]
    generalize hsegs : keptSegments (base ++ '?' :: query) = kept at hkept hports hpieces ⊢
    have hamp : ∀ segment ∈ kept, '&' ∉ segment := fun segment hsegment =>
      Text.not_mem_of_mem_split_on (hpieces segment hsegment)
    -- an at sign in a kept parameter was one in the query
    have hbehind := hrest ('?' :: ['&'].intercalate kept) (by
      intro hmem
      by_contra hno
      have hjoined : '@' ∉ ['&'].intercalate kept := not_mem_intercalate (by decide)
        fun segment hsegment hat => hno (mem_of_mem_piece (hpieces segment hsegment) hat)
      rcases List.mem_cons.1 hmem with heq | hmem
      · cases heq
      · exact hjoined hmem)
    have hparams : portParameters (base ++ '?' :: ['&'].intercalate kept) =
        portParameters (base ++ '?' :: query) := by
      rw [portParameters, portParameters, hbehind, hwhole, Text.split_once_append hfront,
        Text.split_once_append hfront]
      show (List.splitOn '&' (['&'].intercalate kept)).filterMap segmentPort =
        (query.splitOn '&').filterMap segmentPort
      rw [List.splitOn_intercalate '&' hamp hkept, hports]
    have hhost : hostPart (base ++ '?' :: ['&'].intercalate kept) =
        hostPart (base ++ '?' :: query) := by
      rw [hostPart, hostPart, hbehind, hwhole, take_host_append front (.inr rfl),
        take_host_append front (.inr rfl)]
    rw [portEntries, portEntries, hparams, hhost]

/-! ## What is reported -/

/-- An SSL parameter does not change the port. -/
theorem apply_ssl_param_port {parsed parsed' : ParsedDsn} {param : Text × Text}
    (h : applySslParam parsed param = .ok parsed') : parsed'.port = parsed.port := by
  unfold applySslParam at h
  split_ifs at h
  · cases hmode : mapSslmode param.2 with
    | error =>
        rw [hmode] at h
        cases h
    | ok mode =>
        rw [hmode] at h
        cases h
        rfl
  · cases h
    rfl
  · cases h
    rfl
  · cases h
    rfl

/-- Nor do several. By induction on them. -/
theorem apply_ssl_params_port {params : List (Text × Text)} {parsed parsed' : ParsedDsn}
    (h : params.foldlM applySslParam parsed = .ok parsed') : parsed'.port = parsed.port := by
  induction params generalizing parsed with
  | nil =>
      cases h
      rfl
  | cons param params ih =>
      rw [List.foldlM_cons] at h
      cases hfirst : applySslParam parsed param with
      | error =>
          rw [hfirst] at h
          cases h
      | ok next =>
          rw [hfirst] at h
          exact (ih h).trans (apply_ssl_param_port hfirst)

/-- What an accepted URI was read as. -/
theorem parse_uri_cases {fromStr : ConfigFromStr} {raw : Text} {parsed : ParsedDsn}
    (huri : isUri raw.trim = true) (h : parseDsn fromStr raw = .ok parsed) :
    ∃ cfg, fromStr (withoutSsl raw.trim) = .ok cfg ∧ cfg.hosts.length ≤ 1 ∧
      parsed.port = if uriHasExplicitPort raw.trim then cfg.ports.head? else none := by
  unfold parseDsn at h
  generalize raw.trim = trimmed at huri h ⊢
  simp only at h
  split at h
  · cases h
  split at h
  · cases h
  rw [extractSslParams, if_pos huri] at h
  -- only the last of the source's five ways out returns a port
  cases hsplit : extractFromUri trimmed with
  | error =>
      rw [hsplit] at h
      cases h
  | ok split =>
      obtain ⟨hrest, -, -⟩ := extract_from_uri hsplit
      rw [hsplit, ok_bind, hrest] at h
      have hrest' : split.rest = withoutSsl trimmed := hrest
      cases hcfg : fromStr (withoutSsl trimmed) with
      | error =>
          rw [withoutSsl] at hcfg
          rw [hcfg] at h
          cases h
      | ok cfg =>
          rw [withoutSsl] at hcfg
          rw [hcfg] at h
          simp only at h
          split at h
          · cases h
          · rename_i hhosts
            refine ⟨cfg, rfl, by omega, (apply_ssl_params_port h).trans ?_⟩
            rw [huri]
            cases uriHasExplicitPort trimmed <;> rfl

/-- What the entries say, once each of them is a port. -/
theorem ports_head {entries : List Text} {ports : List Nat}
    (h : entries.mapM entryPort = some ports) :
    (entries = [] ∧ ports = []) ∨ ∃ entry rest port, entries = entry :: rest ∧
      entryPort entry = some port ∧ ports.head? = some port := by
  cases entries with
  | nil =>
      cases h
      exact .inl ⟨rfl, rfl⟩
  | cons entry rest =>
      rw [List.mapM_cons] at h
      cases hport : entryPort entry with
      | none =>
          rw [hport] at h
          cases h
      | some port =>
          rw [hport] at h
          obtain ⟨first, hfirst, h⟩ := Option.bind_eq_some_iff.1 h
          cases hfirst
          obtain ⟨more, -, hmore⟩ := Option.bind_eq_some_iff.1 h
          cases hmore
          exact .inr ⟨entry, rest, port, rfl, hport, rfl⟩

/-- The first port a URI names, if its first entry is written out. -/
theorem named_of_written {uri entry : Text} {rest : List Text} {port : Nat}
    (hentries : portEntries uri = entry :: rest) (hentry : entry ≠ [])
    (hport : entryPort entry = some port) : (namedPorts uri).head? = some port := by
  rw [entryPort, if_neg hentry] at hport
  rw [namedPorts, hentries, List.filterMap_cons_some hport]
  rfl

/-- Where the port is reported that a URI names. If the scanner finds no port, none is named. If it
finds one, an empty first entry stands for the 5432 that is the first port named; and with
a question mark in the userinfo, where the parser may be given another query than the URI has, the
first entry it is given is the first port named. -/
def PortSeen (uri : Text) : Prop :=
  (uriHasExplicitPort uri = false → namedPorts uri = []) ∧
    (uriHasExplicitPort uri = true → (∀ info ∈ uriUserinfo uri, '?' ∉ info) →
      (portEntries uri).head? = some [] → (namedPorts uri).head? = some 5432) ∧
    (uriHasExplicitPort uri = true → (∃ info ∈ uriUserinfo uri, '?' ∈ info) →
      (portEntries (withoutSsl uri)).head?.bind entryPort = (namedPorts uri).head?)

/-- The port that an accepted URI is reported with is the first that it names if and only if the
scanner sees it. -/
theorem uri_port_iff {fromStr : ConfigFromStr} (hfrom : ListsPorts fromStr) {raw : Text}
    {parsed : ParsedDsn} (huri : isUri raw.trim = true) (h : parseDsn fromStr raw = .ok parsed) :
    parsed.port = (namedPorts raw.trim).head? ↔ PortSeen raw.trim := by
  obtain ⟨cfg, hcfg, hhosts, hport⟩ := parse_uri_cases huri h
  rw [hport]
  generalize raw.trim = uri at huri hcfg ⊢
  unfold PortSeen
  cases hseen : uriHasExplicitPort uri with
  | false =>
      constructor
      · intro heq
        exact ⟨fun _ => List.head?_eq_none_iff.1 heq.symm, nofun, nofun⟩
      · intro ⟨hnone, _, _⟩
        rw [hnone rfl]
        rfl
  | true =>
      have hrestUri : isUri (withoutSsl uri) = true := by
        rw [without_ssl_eq]
        exact is_uri_base huri _
      have hports := hfrom _ _ hrestUri hcfg hhosts
      -- a question mark in the userinfo is where the SSL parameters are cut off
      by_cases hmark : ∃ info ∈ uriUserinfo uri, '?' ∈ info
      · have hfirst : cfg.ports.head? = (portEntries (withoutSsl uri)).head?.bind entryPort := by
          rcases ports_head hports with
            ⟨hentries, hnone⟩ | ⟨entry, rest, port, hentries, hentry, hhead⟩
          · rw [hentries, hnone]
            rfl
          · rw [hentries, hhead]
            exact hentry.symm
        obtain ⟨info, hinfo, hmem⟩ := hmark
        constructor
        · intro heq
          exact ⟨nofun, fun _ hno => absurd hmem (hno info hinfo), fun _ _ => hfirst ▸ heq⟩
        · intro ⟨_, _, hsame⟩
          exact hfirst.trans (hsame rfl ⟨info, hinfo, hmem⟩)
      · have hno : ∀ info ∈ uriUserinfo uri, '?' ∉ info := fun info hinfo hmem =>
          hmark ⟨info, hinfo, hmem⟩
        rw [port_entries_without_ssl huri hno] at hports
        have hsimple : cfg.ports.head? = (namedPorts uri).head? ↔
            ((portEntries uri).head? = some [] → (namedPorts uri).head? = some 5432) := by
          rcases ports_head hports with
            ⟨hentries, hnone⟩ | ⟨entry, rest, port, hentries, hentry, hhead⟩
          · simp [namedPorts, hentries, hnone]
          · rw [hentries, hhead, List.head?_cons]
            -- an entry without a port lists the default one
            by_cases hwritten : entry = []
            · subst hwritten
              rw [← hentry, eq_comm]
              exact ⟨fun heq _ => heq, fun himp => himp rfl⟩
            · rw [named_of_written hentries hwritten hentry]
              exact iff_of_true rfl fun hempty => absurd (Option.some.inj hempty) hwritten
        constructor
        · intro heq
          exact ⟨nofun, fun _ _ => hsimple.1 heq, fun _ hmark' => absurd hmark' hmark⟩
        · intro ⟨_, hentry, _⟩
          exact hsimple.2 (hentry rfl hno)

/-- A driver that knows one URI, of one host. -/
def oneUri (uri : Text) (ports : List Nat) : ConfigFromStr := fun s =>
  if s = uri then .ok { hosts := [.tcp "h".toList], ports := ports } else .error "unknown host"

/-- The parser lists a port for each entry. -/
theorem one_uri_lists {uri : Text} {ports : List Nat}
    (h : (portEntries uri).mapM entryPort = some ports) : ListsPorts (oneUri uri ports) := by
  intro s cfg _ hcfg _
  unfold oneUri at hcfg
  split at hcfg
  · rename_i hs
    cases hcfg
    rw [hs]
    exact h
  · cases hcfg

/-- A port behind the host is seen, and reported. -/
theorem port_behind_host : (some 5433 : Option Nat) =
    (namedPorts (Text.trim "postgres://h:5433/db".toList)).head? ↔
      PortSeen (Text.trim "postgres://h:5433/db".toList) := by
  have hparse : parseDsn (oneUri "postgres://h:5433/db".toList [5433])
      "postgres://h:5433/db".toList = .ok { host := some "h".toList, port := some 5433 } := by
    decide +kernel
  exact uri_port_iff (one_uri_lists (by decide +kernel)) (by decide +kernel) hparse

/-- A port that is named as a parameter only is not reported. -/
theorem port_parameter_unseen :
    (portEntries "postgres://h?port=5433".toList).mapM entryPort = some [5432, 5433] ∧
      (parseDsn (oneUri "postgres://h?port=5433".toList [5432, 5433])
        "postgres://h?port=5433".toList).map ParsedDsn.port = .ok none ∧
      (namedPorts "postgres://h?port=5433".toList).head? = some 5433 := by
  decide +kernel

end PgMaintainer
