import PgMaintainer.Startup.Connection

/-!
# Configuration of a run

`run` up to the connection parameters: the command line, the TOML file if one was named, the
connection string, the environment.
-/

namespace PgMaintainer

/-- What a process is started with. The file is the deserialized one. -/
structure Inputs where
  commandLine : CommandLine := {}
  file : Option Config := none
  env : Environment

/-- What `run` has when it connects. -/
structure Configured where
  args : Args
  dsnOutcome : DsnOutcome
  connection : ConnectionConfig

/-- Put a context on the error of a computation. -/
def Halt.context {α : Type} (p : Except Halt α) (text : String) : Except Halt α :=
  match p with
  | .error (.error err) => .error (.error (err.context text))
  | other => other

/-- The arguments with the configuration file merged in, if there is one. -/
def Inputs.merged (i : Inputs) : Args :=
  match i.file with
  | some file => mergeConfig (loadConfigFile i.env file) (Args.parse i.commandLine)
  | none => Args.parse i.commandLine

/-- Merge the layers. -/
def configure (fromStr : ConfigFromStr) (i : Inputs) : Except Halt Configured := do
  let (args, dsnOutcome) ← Halt.context (applyDsn fromStr i.env i.merged)
    "Failed to apply connection string"
  pure ⟨args, dsnOutcome, ConnectionConfig.fromArgs i.env args⟩

/-! ## What a configuration is made of -/

/-- The deserialized file with its variables resolved; the empty one if there is none. -/
def Inputs.config (i : Inputs) : Config :=
  match i.file with
  | some file => loadConfigFile i.env file
  | none => {}

@[simp] theorem fill_flag_none (current : Bool) : fillFlag current none = current := by
  cases current <;> rfl

@[simp] theorem fill_default_none {α : Type} [DecidableEq α] (builtIn current : α) :
    fillDefault builtIn current none = current := ite_self current

/-- No file is as good as an empty one. -/
theorem merged_eq (i : Inputs) : i.merged = mergeConfig i.config (Args.parse i.commandLine) := by
  unfold Inputs.merged Inputs.config
  cases i.file with
  | some file => rfl
  | none => simp [mergeConfig]

/-- The connection string in force: the one given, or a `PG_DSN` that is not blank. -/
def Inputs.connectionString (i : Inputs) : Option Text :=
  i.merged.dsn.or ((i.env.get? "PG_DSN").filter fun v => v.trim ≠ [])

/-- The fields of the connection string in force. -/
def Inputs.parsedDsn (fromStr : ConfigFromStr) (i : Inputs) : ParsedDsn :=
  match i.connectionString with
  | some raw => (parseDsn fromStr raw).toOption.getD {}
  | none => {}

@[simp] theorem context_eq_ok_iff {α : Type} {p : Except Halt α} {text : String} {value : α} :
    Halt.context p text = .ok value ↔ p = .ok value := by
  cases p with
  | ok v => simp [Halt.context]
  | error h => cases h <;> simp [Halt.context]

/-- A DSN that sets nothing changes nothing. -/
theorem fill_from_empty_dsn (args : Args) : fillFromDsn {} args = args := by
  simp [fillFromDsn]

/-- The DSN is resolved to the one in force, or not at all. -/
theorem resolve_dsn_source_ok {i : Inputs} {raw : Option Text}
    (h : resolveDsnSource i.env i.merged.dsn = .ok raw) : raw = i.connectionString := by
  unfold Inputs.connectionString
  revert h
  cases i.merged.dsn with
  | some value =>
      intro h
      cases h
      rfl
  | none =>
      simp only [resolveDsnSource, Environment.get?, Option.none_or]
      -- an empty variable counts as none, one that is no text is refused
      cases i.env.var "PG_DSN".toList with
      | ok v =>
          intro h
          cases h
          by_cases hv : v.trim = [] <;> simp [Except.toOption, Option.filter, hv]
      | error e =>
          cases e with
          | notPresent =>
              intro h
              cases h
              rfl
          | notUnicode =>
              intro h
              cases h

/-- A bind succeeds when both of its parts do. -/
theorem except_bind_eq_ok_iff {ε α β : Type} {p : Except ε α} {f : α → Except ε β} {b : β} :
    p >>= f = .ok b ↔ ∃ a, p = .ok a ∧ f a = .ok b := by
  cases p with
  | ok a => exact ⟨fun h => ⟨a, rfl, h⟩, fun ⟨_, ha, h⟩ => by cases ha; exact h⟩
  | error e => exact ⟨fun h => (by cases h), fun ⟨_, ha, _⟩ => (by cases ha)⟩

/-- Applying a DSN fills in the fields of the string in force. -/
theorem apply_dsn_ok {fromStr : ConfigFromStr} {i : Inputs} {args : Args} {outcome : DsnOutcome}
    (h : applyDsn fromStr i.env i.merged = .ok (args, outcome)) :
    resolveDsnSource i.env i.merged.dsn = .ok i.connectionString ∧
      args = fillFromDsn (i.parsedDsn fromStr) i.merged ∧
      ∀ raw ∈ i.connectionString, parseDsn fromStr raw = .ok (i.parsedDsn fromStr) := by
  obtain ⟨source, hsource, h⟩ := except_bind_eq_ok_iff.1 h
  obtain rfl := resolve_dsn_source_ok hsource
  refine ⟨hsource, ?_⟩
  unfold Inputs.parsedDsn
  cases hraw : i.connectionString with
  | none =>
      rw [hraw] at h
      cases h
      exact ⟨(fill_from_empty_dsn _).symm, by simp⟩
  | some raw =>
      rw [hraw] at h
      obtain ⟨parsed, hparsed, h⟩ := except_bind_eq_ok_iff.1 h
      cases h
      simp [hparsed, Except.toOption]

/-- What a successful merge consists of. -/
theorem configure_ok {fromStr : ConfigFromStr} {i : Inputs} {c : Configured}
    (h : configure fromStr i = .ok c) :
    resolveDsnSource i.env i.merged.dsn = .ok i.connectionString ∧
      c.args = fillFromDsn (i.parsedDsn fromStr) i.merged ∧
      c.connection = ConnectionConfig.fromArgs i.env c.args ∧
      ∀ raw ∈ i.connectionString, parseDsn fromStr raw = .ok (i.parsedDsn fromStr) := by
  obtain ⟨⟨args, outcome⟩, hargs, h⟩ := except_bind_eq_ok_iff.1 h
  cases h
  obtain ⟨hsource, hfill, hparsed⟩ := apply_dsn_ok (context_eq_ok_iff.1 hargs)
  exact ⟨hsource, hfill, rfl, hparsed⟩

end PgMaintainer
