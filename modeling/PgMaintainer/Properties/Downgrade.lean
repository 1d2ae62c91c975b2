import PgMaintainer.Startup.Configure

/-!
# No silent TLS downgrade

Where the TOML file or the connection string asks for anything but `disable`, the connection
must not be in plaintext. It is in plaintext when the command line, the file and the last
`sslmode` of the connection string all read as `Disable`, and an unknown word in the file reads
so too.
-/

namespace PgMaintainer

/-- The text says `disable` up to case. -/
def SaysDisable (text : Text) : Prop := text.toLowercase = "disable".toList

instance (text : Text) : Decidable (SaysDisable text) :=
  inferInstanceAs (Decidable (text.toLowercase = _))

/-- The values of `sslmode` among SSL parameters. -/
def sslmodes (ssl : List (Text × Text)) : List Text :=
  (ssl.filter fun param => param.1 = "sslmode".toList).map Prod.snd

/-- A further parameter is a mode, or none. -/
theorem sslmodes_cons (param : Text × Text) (rest : List (Text × Text)) :
    sslmodes (param :: rest) =
      if param.1 = "sslmode".toList then param.2 :: sslmodes rest else sslmodes rest := by
  simp only [sslmodes, List.filter_cons, decide_eq_true_eq]
  split <;> rfl

/-- Every `sslmode` of the connection string, in its order. -/
def Inputs.dsnSslmodes (i : Inputs) : List Text :=
  match i.connectionString with
  | none => []
  | some raw =>
    match extractSslParams raw.trim with
    | .ok split => sslmodes split.ssl
    | .error _ => []

/-- The file or the connection string gives an `sslmode` other than `disable`. -/
def Inputs.AsksForTls (i : Inputs) : Prop :=
  (∃ text ∈ i.config.sslmode, ¬ SaysDisable text) ∨ ∃ text ∈ i.dsnSslmodes, ¬ SaysDisable text

/-- The command line asks for no TLS, neither does the last `sslmode` of the connection string,
and the one that asks goes unread: an unknown word in the file, or, with no other word than
`disable` there, an `sslmode` of the connection string that a later one replaces. -/
def Inputs.Downgraded (i : Inputs) : Prop :=
  i.commandLine.sslmode.getD .disable = .disable ∧
    (∀ text ∈ i.dsnSslmodes.getLast?, SaysDisable text) ∧
    ((∃ text ∈ i.config.sslmode, ∀ mode, SslMode.fromStr text ≠ .ok mode) ∨
      (∀ text ∈ i.config.sslmode, SaysDisable text) ∧
        ∃ text ∈ i.dsnSslmodes, ¬ SaysDisable text)

/-! ## Words -/

/-- The two lower cases agree on a word without the letter the Kelvin sign becomes. -/
theorem to_lowercase_eq_iff {s word : Text} (hk : 'k' ∉ word)
    (hkelvin : Char.ofNat 0x212A ∉ word) :
    s.toLowercase = word ↔ s.toAsciiLowercase = word := by
  have hmap : Char.toLower (Char.ofNat 0x212A) = Char.ofNat 0x212A := by decide
  by_cases hs : Char.ofNat 0x212A ∈ s
  · have hlower : 'k' ∈ s.toLowercase := List.mem_map.2 ⟨_, hs, if_pos rfl⟩
    have hascii : Char.ofNat 0x212A ∈ s.toAsciiLowercase := List.mem_map.2 ⟨_, hs, hmap⟩
    exact ⟨fun h => absurd (h ▸ hlower) hk, fun h => absurd (h ▸ hascii) hkelvin⟩
  · have hsame : s.toLowercase = s.toAsciiLowercase :=
      List.map_congr_left fun c hc => if_neg fun heq : c = Char.ofNat 0x212A => hs (heq ▸ hc)
    rw [hsame]

/-- `SslMode::from_str` gives `Disable` for that word alone. -/
theorem from_str_disable_iff (text : Text) :
    SslMode.fromStr text = .ok .disable ↔ SaysDisable text := by
  constructor
  · intro h
    obtain ⟨word, hword, htext⟩ := from_word_ok h
    obtain rfl : word = "disable" := by simpa [SslMode.words] using hword
    exact htext.symm
  · intro h
    have hfind : SslMode.words.find? (fun word => word.1.toList = text.toLowercase) =
        some ("disable", .disable) := List.find?_cons_of_pos (by simp [h.symm])
    rw [SslMode.fromStr, fromWord, hfind]

/-- `map_sslmode` gives `Disable` for that word alone. -/
theorem map_sslmode_disable_iff {text : Text} {mode : SslMode}
    (h : mapSslmode text = .ok mode) : mode = .disable ↔ SaysDisable text := by
  have hlower : SaysDisable text ↔ text.toAsciiLowercase = "disable".toList :=
    to_lowercase_eq_iff (by decide) (by decide)
  rw [hlower]
  simp only [mapSslmode] at h
  split_ifs at h with hdisable hrequire hca hfull hopportunistic
  · cases h
    exact iff_of_true rfl hdisable
  all_goals
    cases h
    try exact iff_of_false (by decide) hdisable

/-! ## The connection string -/

/-- One SSL parameter sets the mode if it is an `sslmode`, and leaves it otherwise. -/
theorem apply_ssl_param_sslmode {parsed next : ParsedDsn} {param : Text × Text}
    (h : applySslParam parsed param = .ok next) :
    if param.1 = "sslmode".toList then
      ∃ mode, mapSslmode param.2 = .ok mode ∧ next.sslmode = some mode
    else next.sslmode = parsed.sslmode := by
  unfold applySslParam at h
  split_ifs at h ⊢ with hkey
  · obtain ⟨mode, hmode, h⟩ := except_bind_eq_ok_iff.1 h
    cases h
    exact ⟨mode, hmode, rfl⟩
  all_goals
    cases h
    try rfl

/-- Applying the SSL parameters leaves the mode of the last `sslmode`. -/
theorem apply_ssl_params_sslmode {ssl : List (Text × Text)} {parsed result : ParsedDsn}
    (h : ssl.foldlM applySslParam parsed = .ok result) :
    match (sslmodes ssl).getLast? with
    | none => result.sslmode = parsed.sslmode
    | some text => ∃ mode, mapSslmode text = .ok mode ∧ result.sslmode = some mode := by
  induction ssl generalizing parsed with
  | nil =>
      cases h
      rfl
  | cons param rest ih =>
      obtain ⟨next, hnext, h⟩ := except_bind_eq_ok_iff.1 h
      have hparam := apply_ssl_param_sslmode hnext
      specialize ih h
      by_cases hkey : param.1 = "sslmode".toList
      · rw [if_pos hkey] at hparam
        rw [sslmodes_cons, if_pos hkey, List.getLast?_cons]
        -- the last mode in the rest wins over this one
        cases hlast : (sslmodes rest).getLast? with
        | none =>
            rw [hlast] at ih
            simpa [ih] using hparam
        | some text =>
            rw [hlast] at ih
            exact ih
      · rw [if_neg hkey] at hparam
        rw [sslmodes_cons, if_neg hkey, ← hparam]
        exact ih

/-- A parsed connection string has the mode of its last `sslmode`. -/
theorem parse_dsn_sslmode {fromStr : ConfigFromStr} {raw : Text} {parsed : ParsedDsn}
    (h : parseDsn fromStr raw = .ok parsed) : ∃ split, extractSslParams raw.trim = .ok split ∧
      match (sslmodes split.ssl).getLast? with
      | none => parsed.sslmode = none
      | some text => ∃ mode, mapSslmode text = .ok mode ∧ parsed.sslmode = some mode := by
  simp only [parseDsn] at h
  split at h
  · cases h
  · split at h
    · cases h
    · obtain ⟨split, hsplit, h⟩ := except_bind_eq_ok_iff.1 h
      refine ⟨split, hsplit, ?_⟩
      split at h
      · cases h
      · split at h
        · cases h
        · exact apply_ssl_params_sslmode h

/-- In the connection string, the last `sslmode` reads as `Disable` if it says so. -/
theorem parsed_dsn_disable_iff {fromStr : ConfigFromStr} {i : Inputs}
    (h : ∀ raw ∈ i.connectionString, parseDsn fromStr raw = .ok (i.parsedDsn fromStr)) :
    (i.parsedDsn fromStr).sslmode.getD .disable = .disable ↔
      ∀ text ∈ i.dsnSslmodes.getLast?, SaysDisable text := by
  cases hraw : i.connectionString with
  | none => simp [Inputs.parsedDsn, Inputs.dsnSslmodes, hraw]
  | some raw =>
      obtain ⟨split, hsplit, hmode⟩ := parse_dsn_sslmode (h raw hraw)
      have hmodes : i.dsnSslmodes = sslmodes split.ssl := by
        simp [Inputs.dsnSslmodes, hraw, hsplit]
      rw [hmodes]
      cases hlast : (sslmodes split.ssl).getLast? with
      | none =>
          rw [hlast] at hmode
          simp [hmode]
      | some text =>
          rw [hlast] at hmode
          obtain ⟨mode, hmap, hparsed⟩ := hmode
          simpa [hparsed] using map_sslmode_disable_iff hmap

/-! ## The connection -/

/-- A setting that counts as unset at its built-in value keeps it if no layer gives another. -/
theorem fill_default_eq_self_iff {α : Type} [DecidableEq α] (builtIn current : α)
    (given : Option α) :
    fillDefault builtIn current given = builtIn ↔
      current = builtIn ∧ given.getD builtIn = builtIn := by
  unfold fillDefault
  split
  · next h => simp [h]
  · next h => simp [h]

/-- The mode is `Disable` when every layer reads so. -/
theorem connection_disable_iff {fromStr : ConfigFromStr} {i : Inputs} {c : Configured}
    (h : configure fromStr i = .ok c) : c.connection.sslmode = .disable ↔
      (i.commandLine.sslmode.getD .disable = .disable ∧
        (i.config.sslmode.bind fun text => (SslMode.fromStr text).toOption).getD .disable =
          .disable) ∧ ∀ text ∈ i.dsnSslmodes.getLast?, SaysDisable text := by
  obtain ⟨-, hargs, hconn, hparsed⟩ := configure_ok h
  rw [← parsed_dsn_disable_iff hparsed, hconn, ConnectionConfig.fromArgs, hargs, fillFromDsn,
    fill_default_eq_self_iff, merged_eq, mergeConfig, fill_default_eq_self_iff, Args.parse]

/-- A text of the file reads as `Disable` if it says so, or if it cannot be read. -/
theorem file_reads_disable_iff (text : Text) :
    (SslMode.fromStr text).toOption.getD .disable = .disable ↔
      SaysDisable text ∨ ∀ mode, SslMode.fromStr text ≠ .ok mode := by
  rw [← from_str_disable_iff]
  cases SslMode.fromStr text with
  | ok mode => simp [Except.toOption]
  | error e => simp [Except.toOption]

/-- Exactly the downgraded inputs ask for TLS and are connected in plaintext. -/
theorem tls_kept_iff_not_downgraded {fromStr : ConfigFromStr} {i : Inputs} {c : Configured}
    (h : configure fromStr i = .ok c) :
    (i.AsksForTls → connectRaw c.connection ≠ .ok .plaintext) ↔ ¬ i.Downgraded := by
  rw [Ne, connect_raw_plaintext_iff, connection_disable_iff h]
  unfold Inputs.AsksForTls Inputs.Downgraded
  generalize (∃ text ∈ i.dsnSslmodes, ¬ SaysDisable text) = dsnAsks
  generalize (∀ text ∈ i.dsnSslmodes.getLast?, SaysDisable text) = dsnDisables
  generalize (i.commandLine.sslmode.getD .disable = .disable) = typedDisables
  cases i.config.sslmode with
  | none =>
      simp only [Option.mem_def, reduceCtorEq, false_and, exists_false, false_or,
        Option.bind_none, Option.getD_none, and_true, false_imp_iff, implies_true, true_and]
      tauto
  | some text =>
      simp only [Option.mem_def, Option.some.injEq, exists_eq_left', forall_eq',
        Option.bind_some, file_reads_disable_iff]
      have hread : (∀ mode, SslMode.fromStr text ≠ .ok mode) → ¬ SaysDisable text :=
        fun hunread hasked => hunread .disable ((from_str_disable_iff text).2 hasked)
      generalize (∀ mode, SslMode.fromStr text ≠ .ok mode) = unread at *
      tauto

/-- A file with one `sslmode`, and nothing else. -/
def sslmodeInFile (text : String) : Inputs where
  file := some { sslmode := some text.toList }
  env := ⟨fun _ => .error .notPresent, fun _ => none⟩

/-- A parser that knows no connection string. -/
def refuseDsn : ConfigFromStr := fun _ => .error "invalid connection string"

/-- TLS is used where the file asks for it by one of the four words. -/
theorem required_tls_is_kept : ∃ c, configure refuseDsn (sslmodeInFile "Require") = .ok c ∧
    connectRaw c.connection ≠ .ok .plaintext := by
  have hconfigured : ∃ c, configure refuseDsn (sslmodeInFile "Require") = .ok c := ⟨_, rfl⟩
  obtain ⟨c, hc⟩ := hconfigured
  refine ⟨c, hc, (tls_kept_iff_not_downgraded hc).2 ?_ (.inl ⟨_, rfl, by decide⟩)⟩
  rintro ⟨-, -, ⟨text, htext, hunread⟩ | ⟨hasked, -⟩⟩
  · obtain rfl : "Require".toList = text := Option.some.inj htext
    exact hunread .require rfl
  · exact absurd (hasked _ rfl) (by decide)

/-- `prefer` in the file is an unknown word: the connection is in plaintext. -/
theorem preferred_tls_is_dropped : ∃ c, configure refuseDsn (sslmodeInFile "prefer") = .ok c ∧
    (sslmodeInFile "prefer").AsksForTls ∧ connectRaw c.connection = .ok .plaintext :=
  ⟨_, rfl, .inl ⟨_, rfl, by decide⟩, rfl⟩

end PgMaintainer
