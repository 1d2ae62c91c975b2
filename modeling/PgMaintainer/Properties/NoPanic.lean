import PgMaintainer.Dsn.Sliced
import PgMaintainer.Properties.Extraction

/-!
# Where reading a connection string panics

All slices and indices of `dsn.rs` are in range, but that of `percent_decode`: it takes the two
bytes behind a `%` as a string, and they can end inside a character. The `unreachable!` arm of
`parse` is not reached, since only the four SSL parameters are taken out.
-/

namespace PgMaintainer

/-! ## Decoding -/

/-- Decoding a string panics if and only if a percent sign in it cuts a character. -/
theorem percent_decode_panic_iff (s : Text) :
    percentDecode s = .error .panic ↔ CutsCharacter s.asBytes := by
  rw [← percent_decode_panics_iff, percentDecode]
  cases percentDecodeBytes s.asBytes with
  | error halt =>
      show (.error halt : Except Halt Text) = _ ↔ (.error halt : Except Halt (List UInt8)) = _
      rw [Except.error.injEq, Except.error.injEq]
  | ok =>
      constructor
      · intro h
        cases h
      · intro h
        cases h

/-- Otherwise it gives a string. -/
theorem percent_decode_total {s : Text} (h : ¬CutsCharacter s.asBytes) :
    ∃ out, percentDecode s = .ok out := by
  cases hbytes : percentDecodeBytes s.asBytes with
  | error halt =>
      obtain rfl := percent_decode_error hbytes
      exact absurd ((percent_decode_panics_iff _).1 hbytes) h
  | ok out => exact ⟨Text.fromUtf8Lossy out, by rw [percentDecode, hbytes]; rfl⟩

/-- What makes decoding a segment of a query safe: no percent sign in its key cuts a character, and
none in its value if the key is an SSL parameter. -/
def SegmentDecodes (segment : Text) : Prop :=
  ¬CutsCharacter (rawParameter segment).1.asBytes ∧
    (isSslSegment segment = true → ¬CutsCharacter (rawParameter segment).2.asBytes)

/-- A segment is read, or reading it panics. -/
theorem read_segment_or_panic (segment : Text) :
    (SegmentDecodes segment ∧ ∃ read, readSegment segment = .ok read ∧
        ∀ param, read.ssl = some param → param.1 ∈ sslParams) ∨
      (¬SegmentDecodes segment ∧ readSegment segment = .error .panic) := by
  rw [read_segment_eq]
  unfold SegmentDecodes isSslSegment
  by_cases hkey : CutsCharacter (rawParameter segment).1.asBytes
  · rw [(percent_decode_panic_iff _).2 hkey]
    exact .inr ⟨fun h => h.1 hkey, rfl⟩
  obtain ⟨key, hdecoded⟩ := percent_decode_total hkey
  simp only [hdecoded, ok_bind, decide_eq_true_eq]
  -- the value is decoded only under an SSL key
  by_cases hssl : key.toAsciiLowercase ∈ sslParams
  · rw [if_pos hssl]
    by_cases hvalue : CutsCharacter (rawParameter segment).2.asBytes
    · rw [(percent_decode_panic_iff _).2 hvalue]
      exact .inr ⟨fun h => h.2 hssl hvalue, rfl⟩
    · obtain ⟨value, hvalueDecoded⟩ := percent_decode_total hvalue
      rw [hvalueDecoded]
      refine .inl ⟨⟨hkey, fun _ => hvalue⟩, _, rfl, ?_⟩
      intro param hparam
      cases hparam
      exact hssl
  · rw [if_neg hssl]
    refine .inl ⟨⟨hkey, fun h => absurd h hssl⟩, _, rfl, ?_⟩
    intro param hparam
    cases hparam

/-- All segments are read, or reading one of them panics. -/
theorem read_segments_or_panic (segments : List Text) :
    ((∀ segment ∈ segments, SegmentDecodes segment) ∧ ∃ reads,
        segments.mapM readSegment = .ok reads ∧
        ∀ param ∈ reads.filterMap QuerySegment.ssl, param.1 ∈ sslParams) ∨
      ((∃ segment ∈ segments, ¬SegmentDecodes segment) ∧
        segments.mapM readSegment = .error .panic) := by
  induction segments with
  | nil => exact .inl ⟨by simp, [], rfl, by simp⟩
  | cons segment segments ih =>
      rw [List.mapM_cons]
      -- the first segment that panics ends it, the others are not read
      obtain ⟨hsegment, read, hread, hssl⟩ | ⟨hsegment, hpanic⟩ := read_segment_or_panic segment
      · rw [hread, ok_bind]
        obtain ⟨hrest, reads, hreads, hparams⟩ | ⟨hrest, hpanic⟩ := ih
        · rw [hreads]
          refine .inl ⟨List.forall_mem_cons.2 ⟨hsegment, hrest⟩, read :: reads, rfl, ?_⟩
          intro param hparam
          obtain ⟨r, hr, hpair⟩ := List.mem_filterMap.1 hparam
          rcases List.mem_cons.1 hr with rfl | hr
          · exact hssl param hpair
          · exact hparams param (List.mem_filterMap.2 ⟨r, hr, hpair⟩)
        · rw [hpanic]
          obtain ⟨bad, hmem, hbad⟩ := hrest
          exact .inr ⟨⟨bad, List.mem_cons_of_mem _ hmem, hbad⟩, rfl⟩
      · rw [hpanic]
        exact .inr ⟨⟨segment, List.mem_cons_self, hsegment⟩, rfl⟩

/-- What makes reading a connection string safe. -/
def QueryDecodes (raw : Text) : Prop :=
  isUri raw = true → ∀ segment ∈ querySegments raw, SegmentDecodes segment

/-- The SSL parameters are taken out, or a keyword string is refused, or decoding the query of
a URI panics. What is taken out are the four SSL parameters. -/
theorem extract_or_panic (raw : Text) :
    (QueryDecodes raw ∧ ((∃ split, extractSslParams raw = .ok split ∧
        ∀ param ∈ split.ssl, param.1 ∈ sslParams) ∨
        ∃ text, extractSslParams raw = .error (.new text))) ∨
      (¬QueryDecodes raw ∧ extractSslParams raw = .error .panic) := by
  unfold extractSslParams QueryDecodes
  by_cases huri : isUri raw = true
  · rw [if_pos huri, extractFromUri, querySegments]
    simp only [huri, true_imp_iff]
    cases raw.splitOnce '?' with
    | none => exact .inl ⟨by simp, .inl ⟨_, rfl, by simp⟩⟩
    | some cut =>
        obtain ⟨base, query⟩ := cut
        simp only
        obtain ⟨hall, reads, hreads, hssl⟩ | ⟨⟨bad, hmem, hbad⟩, hpanic⟩ :=
          read_segments_or_panic ((query.splitOn '&').filter (· ≠ []))
        · rw [hreads]
          exact .inl ⟨hall, .inl ⟨_, rfl, hssl⟩⟩
        · rw [hpanic]
          exact .inr ⟨fun hall => hbad (hall bad hmem), rfl⟩
  · -- a keyword string is decoded by nothing that slices
    rw [if_neg huri, extractFromKeywords]
    refine .inl ⟨fun h => absurd h huri, ?_⟩
    cases splitKeywordPairs raw with
    | error text => exact .inr ⟨text, rfl⟩
    | ok pairs =>
        refine .inl ⟨_, rfl, ?_⟩
        intro param hparam
        obtain ⟨pair, hpair, rfl⟩ := List.mem_map.1 hparam
        exact of_decide_eq_true (List.mem_filter.1 hpair).2

/-! ## The SSL parameters -/

/-- Applying one of the four parameters is no panic. -/
theorem apply_ssl_param_returns {param : Text × Text} (h : param.1 ∈ sslParams)
    (parsed : ParsedDsn) : applySslParam parsed param ≠ .error .panic := by
  have hmode : mapSslmode param.2 ≠ .error .panic := by
    unfold mapSslmode
    intro hpanic
    simp only at hpanic
    split_ifs at hpanic <;> cases hpanic
  unfold applySslParam
  by_cases hsslmode : param.1 = "sslmode".toList
  · rw [if_pos hsslmode]
    cases hmapped : mapSslmode param.2 with
    | error halt =>
        rw [hmapped] at hmode
        exact fun hpanic => hmode (congrArg Except.error (Except.error.inj hpanic))
    | ok mode => nofun
  rw [if_neg hsslmode]
  by_cases hroot : param.1 = "sslrootcert".toList
  · rw [if_pos hroot]
    nofun
  rw [if_neg hroot]
  by_cases hcert : param.1 = "sslcert".toList
  · rw [if_pos hcert]
    nofun
  rw [if_neg hcert]
  by_cases hkey : param.1 = "sslkey".toList
  · rw [if_pos hkey]
    nofun
  -- the list and the arms have the same four names
  rcases List.mem_cons.1 h with h | h
  · exact absurd h hsslmode
  rcases List.mem_cons.1 h with h | h
  · exact absurd h hroot
  rcases List.mem_cons.1 h with h | h
  · exact absurd h hcert
  exact absurd (List.mem_singleton.1 h) hkey

/-- Applying the parameters that were taken out is no panic. -/
theorem apply_ssl_params_return {params : List (Text × Text)}
    (h : ∀ param ∈ params, param.1 ∈ sslParams) (parsed : ParsedDsn) :
    params.foldlM applySslParam parsed ≠ .error .panic := by
  induction params generalizing parsed with
  | nil => nofun
  | cons param params ih =>
      obtain ⟨hparam, hparams⟩ := List.forall_mem_cons.1 h
      rw [List.foldlM_cons]
      have hfirst := apply_ssl_param_returns hparam parsed
      cases hparsed : applySslParam parsed param with
      | error halt =>
          rw [hparsed] at hfirst
          exact hfirst
      | ok parsed => exact ih hparams parsed

/-! ## Parsing -/

/-- Parsing panics if and only if decoding the query of a URI does. -/
theorem parse_returns_iff (fromStr : ConfigFromStr) (raw : Text) :
    parseDsn fromStr raw ≠ .error .panic ↔ QueryDecodes raw.trim := by
  unfold parseDsn
  simp only
  generalize raw.trim = trimmed
  by_cases hempty : trimmed = []
  · rw [if_pos hempty]
    subst hempty
    exact ⟨fun _ h => absurd h (by decide), fun _ => nofun⟩
  rw [if_neg hempty]
  split
  case isTrue hform =>
    have huri : isUri trimmed = false := by
      simp only [Bool.and_eq_true, Bool.not_eq_true'] at hform
      exact hform.1
    exact ⟨fun _ h => absurd h (by rw [huri]; nofun), fun _ => nofun⟩
  case isFalse =>
    -- the SSL parameters are all that is decoded
    obtain ⟨hquery, ⟨split, hsplit, hssl⟩ | ⟨text, htext⟩⟩ | ⟨hquery, hpanic⟩ :=
      extract_or_panic trimmed
    · rw [hsplit, ok_bind]
      refine iff_of_true ?_ hquery
      cases fromStr split.rest with
      | error => nofun
      | ok cfg =>
          simp only
          split
          · nofun
          · exact apply_ssl_params_return hssl _
    · rw [htext]
      exact iff_of_true nofun hquery
    · rw [hpanic]
      exact iff_of_false (fun h => h rfl) hquery

/-- Reading a connection string returns if and only if it is no URI with a query segment in whose
key, or in whose value if the key is an SSL parameter, the two bytes behind a percent sign end
inside a character. Masking its password always returns. -/
theorem connection_string_returns_iff (fromStr : ConfigFromStr) (raw : Text) :
    ((∃ parsed, Offsets.parse fromStr raw = .ok parsed) ∨
        (∃ err, Offsets.parse fromStr raw = .error (.error err))) ∧
      (∃ text, Offsets.redact raw = .ok text) ↔
    (isUri raw.trim = true → ∀ segment ∈ querySegments raw.trim,
      ¬CutsCharacter (rawParameter segment).1.asBytes ∧
        (isSslSegment segment = true → ¬CutsCharacter (rawParameter segment).2.asBytes)) := by
  have hredact : ∃ text, Offsets.redact raw = .ok text := ⟨_, Offsets.redact_offsets raw⟩
  rw [Offsets.parse_offsets, and_iff_left hredact]
  refine Iff.trans ?_ (parse_returns_iff fromStr raw)
  cases parseDsn fromStr raw with
  | ok parsed => simp
  | error halt => cases halt <;> simp

/-- A percent sign before a character of three bytes, in the path of a certificate. -/
theorem percent_cuts_character :
    Offsets.parse (fun _ => .ok { hosts := [.tcp "h".toList] }) "postgres://h?sslcert=%€".toList =
      .error .panic := by
  rw [Offsets.parse_offsets]
  decide +kernel

end PgMaintainer
