import PgMaintainer.Dsn.Render

/-!
# Taking the SSL parameters out of a connection string

Nothing is lost: what is left of a keyword string reads as the other pairs it had, and what is left
of a URI is the URI without the segments that were taken out, each other one as it stood.
-/

namespace PgMaintainer

/-! ## Keyword strings -/

/-- A keyword string is split into its SSL pairs, their keys in lower case, and a string that reads
as the others. -/
theorem extract_from_keywords {raw : Text} {split : SplitDsn}
    (h : extractFromKeywords raw = .ok split) : ∃ pairs, splitKeywordPairs raw = .ok pairs ∧
      splitKeywordPairs split.rest = .ok (pairs.filter (!isSslPair ·)) ∧
      split.ssl = (pairs.filter isSslPair).map fun pair => (pair.1.toAsciiLowercase, pair.2) := by
  unfold extractFromKeywords at h
  cases hpairs : splitKeywordPairs raw with
  | error text =>
      rw [hpairs] at h
      cases h
  | ok pairs =>
      rw [hpairs] at h
      cases h
      refine ⟨pairs, rfl, split_rendered fun pair hpair => ?_, rfl⟩
      exact split_keys hpairs pair (List.mem_filter.1 hpair).1

/-! ## URIs -/

/-- The text before the first question mark. -/
def uriBase (raw : Text) : Text := raw.takeWhile (· ≠ '?')

/-- The non-empty segments of the query. -/
def querySegments (raw : Text) : List Text :=
  match raw.splitOnce '?' with
  | none => []
  | some (_, query) => (query.splitOn '&').filter (· ≠ [])

/-- The key of a segment and its value, as they stand. -/
def rawParameter (segment : Text) : Text × Text := (segment.splitOnce '=').getD (segment, [])

/-- Whether the decoded key of a segment is an SSL parameter. -/
def isSslSegment (segment : Text) : Bool :=
  match percentDecode (rawParameter segment).1 with
  | .ok key => key.toAsciiLowercase ∈ sslParams
  | .error _ => false

/-- The parameter that a segment sets: its decoded key in lower case, and its decoded value. -/
def decodeParameter (segment : Text) : Except Halt (Text × Text) := do
  let key ← percentDecode (rawParameter segment).1
  let value ← percentDecode (rawParameter segment).2
  pure (key.toAsciiLowercase, value)

/-- What is left of a URI. -/
def uriWithout (base : Text) (kept : List Text) : Text :=
  if kept = [] then base else base ++ '?' :: ['&'].intercalate kept

/-- A segment is read from its raw key and its raw value. -/
theorem read_segment_eq (segment : Text) : readSegment segment = (do
    let key := (← percentDecode (rawParameter segment).1).toAsciiLowercase
    if key ∈ sslParams then
      pure ⟨segment, key, some (← percentDecode (rawParameter segment).2)⟩
    else
      pure ⟨segment, key, none⟩) := rfl

/-- A segment that was read is an SSL segment, decoded, or stays. -/
theorem read_segment_cases {segment : Text} {read : QuerySegment}
    (h : readSegment segment = .ok read) : read.text = segment ∧
      ((isSslSegment segment = true ∧ read.sslValue.isNone = false ∧
          ∃ param, decodeParameter segment = .ok param ∧ read.ssl = some param) ∨
        (isSslSegment segment = false ∧ read.sslValue.isNone = true ∧ read.ssl = none)) := by
  rw [read_segment_eq] at h
  unfold isSslSegment decodeParameter
  cases hkey : percentDecode (rawParameter segment).1 with
  | error halt =>
      rw [hkey] at h
      cases h
  | ok key =>
      rw [hkey] at h
      replace h : (if key.toAsciiLowercase ∈ sslParams then do
          pure ⟨segment, key.toAsciiLowercase, some (← percentDecode (rawParameter segment).2)⟩
        else pure ⟨segment, key.toAsciiLowercase, none⟩ : Except Halt QuerySegment) = .ok read := h
      by_cases hssl : key.toAsciiLowercase ∈ sslParams
      · rw [if_pos hssl] at h
        cases hvalue : percentDecode (rawParameter segment).2 with
        | error halt =>
            rw [hvalue] at h
            cases h
        | ok value =>
            rw [hvalue] at h
            cases h
            exact ⟨rfl, .inl ⟨decide_eq_true hssl, rfl, _, rfl, rfl⟩⟩
      · rw [if_neg hssl] at h
        cases h
        exact ⟨rfl, .inr ⟨decide_eq_false hssl, rfl, rfl⟩⟩

/-- All segments of a query that was read: those that stay, and the parameters of the others. -/
theorem read_segments {segments : List Text} {reads : List QuerySegment}
    (h : segments.mapM readSegment = .ok reads) :
    (reads.filter (·.sslValue.isNone)).map QuerySegment.text =
        segments.filter (!isSslSegment ·) ∧
      (segments.filter isSslSegment).mapM decodeParameter =
        .ok (reads.filterMap QuerySegment.ssl) ∧
      (segments.filter (!isSslSegment ·)).mapM readSegment =
        .ok (reads.filter (·.sslValue.isNone)) := by
  induction segments generalizing reads with
  | nil =>
      cases h
      exact ⟨rfl, rfl, rfl⟩
  | cons segment segments ih =>
      rw [List.mapM_cons] at h
      cases hfirst : readSegment segment with
      | error =>
          rw [hfirst] at h
          cases h
      | ok read =>
          cases hrest : segments.mapM readSegment with
          | error =>
              rw [hfirst, hrest] at h
              cases h
          | ok rest =>
              rw [hfirst, hrest] at h
              cases h
              obtain ⟨htexts, hparams, hreads⟩ := ih hrest
              -- a segment is an SSL parameter, or kept as it is written
              obtain ⟨htext, ⟨hssl, hvalue, param, hparam, hpair⟩ | ⟨hssl, hvalue, hpair⟩⟩ :=
                read_segment_cases hfirst
              · simp [hssl, hvalue, hpair, htexts, hreads, List.mapM_cons, hparam, hparams]
                rfl
              · simp [hssl, hvalue, hpair, htexts, htext, hreads, List.mapM_cons, hfirst, hparams]
                rfl

/-- The base is what comes before the first question mark. -/
theorem uri_base_append {base : Text} (h : '?' ∉ base) (query : Text) :
    uriBase (base ++ '?' :: query) = base := by
  have hkeep : ∀ c ∈ base, decide (c ≠ '?') = true := by
    intro c hc
    exact decide_eq_true fun heq => h (heq ▸ hc)
  rw [uriBase, List.takeWhile_append_of_pos hkeep]
  simp

/-- Without a question mark it is the whole. -/
theorem uri_base_eq_self {raw : Text} (h : '?' ∉ raw) : uriBase raw = raw := by
  refine List.takeWhile_eq_self_iff.2 fun c hc => ?_
  exact decide_eq_true fun heq => h (heq ▸ hc)

/-- The scheme stands before the first question mark. -/
theorem is_uri_base {raw : Text} (h : isUri raw = true) (more : Text) :
    isUri (uriBase raw ++ more) = true := by
  have hkept : ∀ scheme : Text, '?' ∉ scheme →
      scheme.isPrefixOf raw.toAsciiLowercase = true →
      scheme.isPrefixOf (uriBase raw ++ more).toAsciiLowercase = true := by
    intro scheme hscheme hraw
    rw [List.isPrefixOf_iff_prefix] at hraw ⊢
    have hbase : scheme <+: (uriBase raw).toAsciiLowercase := by
      obtain ⟨tail, htail⟩ := hraw
      -- lowering does not make a question mark, so the scheme stands before the first one
      have hlow : (raw.take scheme.length).map Char.toLower = scheme := by
        rw [List.map_take]
        exact (congrArg (List.take scheme.length) htail.symm).trans (List.take_left' rfl)
      have hkeep : ∀ c ∈ raw.take scheme.length, decide (c ≠ '?') = true := by
        intro c hc
        refine decide_eq_true fun heq => hscheme ?_
        have hlower : Char.toLower '?' = '?' := by decide
        rw [← hlow, ← hlower]
        exact List.mem_map_of_mem (heq ▸ hc)
      have hcut : uriBase raw = raw.take scheme.length ++ uriBase (raw.drop scheme.length) := by
        conv_lhs => rw [← List.take_append_drop scheme.length raw]
        exact List.takeWhile_append_of_pos hkeep
      rw [hcut]
      refine ⟨(uriBase (raw.drop scheme.length)).toAsciiLowercase, ?_⟩
      exact (congrArg (· ++ _) hlow.symm).trans List.map_append.symm
    have happend : (uriBase raw ++ more).toAsciiLowercase =
        (uriBase raw).toAsciiLowercase ++ more.toAsciiLowercase := List.map_append
    rw [happend]
    exact hbase.trans (List.prefix_append _ _)
  unfold isUri at h ⊢
  rw [Bool.or_eq_true] at h ⊢
  rcases h with h | h
  · exact .inl (hkept _ (by decide) h)
  · exact .inr (hkept _ (by decide) h)

/-- Segments without an SSL parameter among them are left as they are. -/
theorem extract_from_kept {base : Text} {kept : List Text} {reads : List QuerySegment}
    (hbase : '?' ∉ base) (hpieces : ∀ segment ∈ kept, '&' ∉ segment ∧ segment ≠ [])
    (hssl : ∀ segment ∈ kept, isSslSegment segment = false)
    (hreads : kept.mapM readSegment = .ok reads) :
    ∃ keys, extractFromUri (uriWithout base kept) = .ok ⟨[], uriWithout base kept, keys⟩ := by
  unfold extractFromUri uriWithout
  -- what is kept has no SSL parameter, so reading it again keeps all of it
  by_cases hkept : kept = []
  · rw [if_pos hkept, Text.split_once_eq_none hbase]
    exact ⟨[], rfl⟩
  · have hfilter : kept.filter (· ≠ []) = kept :=
      List.filter_eq_self.2 fun segment hmem => decide_eq_true (hpieces segment hmem).2
    have hnone : kept.filter isSslSegment = [] :=
      List.filter_eq_nil_iff.2 fun segment hmem => by simp [hssl segment hmem]
    have hall : kept.filter (!isSslSegment ·) = kept :=
      List.filter_eq_self.2 fun segment hmem => by simp [hssl segment hmem]
    obtain ⟨htexts, hparams, -⟩ := read_segments hreads
    rw [hnone] at hparams
    rw [hall] at htexts
    have hempty : reads.filterMap QuerySegment.ssl = [] := (Except.ok.inj hparams).symm
    rw [if_neg hkept, Text.split_once_append hbase]
    simp only [List.splitOn_intercalate '&' (fun s hs => (hpieces s hs).1) hkept, hfilter, hreads]
    refine ⟨(reads.filter (·.sslValue.isNone)).map QuerySegment.key, ?_⟩
    show Except.ok (SplitDsn.mk _ _ _) = _
    simp only [htexts, hempty, if_neg hkept]

/-- A URI is split into its SSL parameters, decoded, and the URI without their segments, of which
nothing more is taken. -/
theorem extract_from_uri {raw : Text} {split : SplitDsn} (h : extractFromUri raw = .ok split) :
    split.rest = uriWithout (uriBase raw) ((querySegments raw).filter (!isSslSegment ·)) ∧
      ((querySegments raw).filter isSslSegment).mapM decodeParameter = .ok split.ssl ∧
      ∃ keys, extractFromUri split.rest = .ok ⟨[], split.rest, keys⟩ := by
  rcases Text.split_once_cases '?' raw with ⟨hno, hcut⟩ | ⟨base, query, rfl, hbase, hcut⟩
  · unfold extractFromUri at h
    unfold querySegments
    rw [hcut] at h ⊢
    cases h
    refine ⟨(uri_base_eq_self hno).symm, rfl, [], ?_⟩
    simp only [extractFromUri, hcut]
    rfl
  · unfold extractFromUri at h
    have hsegments : querySegments (base ++ '?' :: query) =
        (query.splitOn '&').filter (· ≠ []) := by
      simp [querySegments, hcut]
    rw [hcut] at h
    rw [hsegments, uri_base_append hbase]
    -- the segments are read one by one, and the first that panics ends it
    cases hreads : ((query.splitOn '&').filter (· ≠ [])).mapM readSegment with
    | error =>
        simp only [hreads] at h
        cases h
    | ok reads =>
        simp only [hreads] at h
        cases h
        obtain ⟨htexts, hparams, hkept⟩ := read_segments hreads
        have hrest : (if (reads.filter (·.sslValue.isNone)).map QuerySegment.text = [] then base
            else base ++ '?' :: ['&'].intercalate
              ((reads.filter (·.sslValue.isNone)).map QuerySegment.text)) =
            uriWithout base (((query.splitOn '&').filter (· ≠ [])).filter (!isSslSegment ·)) := by
          rw [htexts]
          rfl
        refine ⟨hrest, hparams, ?_⟩
        simp only [hrest]
        refine extract_from_kept hbase (fun segment hmem => ?_) (fun segment hmem => ?_) hkept
        · have hmem := List.mem_filter.1 (List.mem_filter.1 hmem).1
          exact ⟨Text.not_mem_of_mem_split_on hmem.1, of_decide_eq_true hmem.2⟩
        · simpa using (List.mem_filter.1 hmem).2

/-! ## Extraction is lossless -/

/-- Extraction is lossless. In keyword form, what is left reads as the pairs whose key is no SSL
parameter, and the parameters are the other pairs. In URI form, what is left is the text before the
first question mark and the other segments as they stood, the parameters are the decoded segments,
and nothing more is taken out of what is left. -/
theorem extract_ssl_params_lossless {raw : Text} {split : SplitDsn}
    (h : extractSslParams raw = .ok split) :
    (isUri raw = false → ∃ pairs, splitKeywordPairs raw = .ok pairs ∧
      splitKeywordPairs split.rest = .ok (pairs.filter (!isSslPair ·)) ∧
      split.ssl = (pairs.filter isSslPair).map fun pair => (pair.1.toAsciiLowercase, pair.2)) ∧
    (isUri raw = true →
      split.rest = uriWithout (uriBase raw) ((querySegments raw).filter (!isSslSegment ·)) ∧
      ((querySegments raw).filter isSslSegment).mapM decodeParameter = .ok split.ssl ∧
      ∃ keys, extractSslParams split.rest = .ok ⟨[], split.rest, keys⟩) := by
  unfold extractSslParams at h
  constructor
  · intro huri
    rw [huri] at h
    exact extract_from_keywords h
  · intro huri
    rw [if_pos huri] at h
    obtain ⟨hrest, hparams, keys, hagain⟩ := extract_from_uri h
    have hrestUri : isUri split.rest = true := by
      rw [hrest, uriWithout]
      split
      · simpa using is_uri_base huri []
      · exact is_uri_base huri _
    refine ⟨hrest, hparams, keys, ?_⟩
    rw [extractSslParams, if_pos hrestUri]
    exact hagain

/-- The text of a URI with an SSL parameter between others. -/
def sslUri : Text := "postgres://h/db?a=%20&sslmode=require&&b".toList

/-- The parameter is decoded, and the others stay as they stood. -/
theorem extract_from_ssl_uri :
    "postgres://h/db?a=%20&b".toList =
        uriWithout (uriBase sslUri) ((querySegments sslUri).filter (!isSslSegment ·)) ∧
      ((querySegments sslUri).filter isSslSegment).mapM decodeParameter =
        .ok [("sslmode".toList, "require".toList)] ∧
      ∃ keys, extractSslParams "postgres://h/db?a=%20&b".toList =
        .ok ⟨[], "postgres://h/db?a=%20&b".toList, keys⟩ := by
  have h : extractSslParams sslUri = .ok ⟨[("sslmode".toList, "require".toList)],
      "postgres://h/db?a=%20&b".toList, ["a".toList, "b".toList]⟩ := by decide +kernel
  exact (extract_ssl_params_lossless h).2 (by decide +kernel)

end PgMaintainer
