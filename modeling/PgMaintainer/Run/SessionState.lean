import PgMaintainer.Interaction.Observer
import PgMaintainer.Run.Requests

/-!
# The session at the server

What the server holds for the session of a run: whether it was found to be fit, what its settings
were last set to, and the locks it took. `sessionState` reads it off a history. The start of a run
leads to one state, `SessionState.ready`; no later operation changes it.
-/

namespace PgMaintainer

open Interaction

/-- The state of a session. A setting that was not set is `none`: the server's own is in force. -/
structure SessionState where
  connected : Bool := false
  /-- The server reported a version that is supported. -/
  supported : Bool := false
  /-- The server reported that it is not in recovery. -/
  primary : Bool := false
  statementTimeout : Option Nat := none
  idleTimeout : Bool := false
  applicationName : Bool := false
  maintenanceWorkMem : Option Nat := none
  costDelay : Option ℚ := none
  costLimit : Option Int := none
  lockTimeout : Option Nat := none
  /-- The text that was hashed last, with its hash. -/
  hashed : Option (String × Int32) := none
  locks : List Int32 := []
  deriving DecidableEq

namespace SessionState

/-- What a call that succeeded does to the session. -/
def row (s : SessionState) : (c : Call) → c.Row → SessionState
  | .connect, _ => { connected := true }
  | .getServerVersionNum, version =>
    { s with supported := s.supported || decide (minSupportedPgVersionNum ≤ version) }
  | .getIsInRecovery, recovering => { s with primary := !recovering }
  | .setStatementTimeout seconds, _ => { s with statementTimeout := some seconds }
  | .setIdleSessionTimeout, _ => { s with idleTimeout := true }
  | .setApplicationName, _ => { s with applicationName := true }
  | .setMaintenanceWorkMem gb, _ => { s with maintenanceWorkMem := some gb }
  | .setVacuumCostDelay ms, _ => { s with costDelay := some ms }
  | .setVacuumCostLimit limit, _ => { s with costLimit := some limit }
  | .setLockTimeout ms, _ => { s with lockTimeout := some ms }
  | .hashtext text, id => { s with hashed := some (text, id) }
  | .tryAdvisoryLock id, acquired => if acquired then { s with locks := id :: s.locks } else s
  | _, _ => s

/-- What an operation does to the session. A call that failed does nothing. -/
def step (s : SessionState) : (op : Op) → op.Answer → SessionState
  | .call c, .ok value => s.row c value
  | _, _ => s

/-- The session of a run that is about to start its first phase: the settings in force are the
configured ones, and it has the lock of its schema list. -/
def ready (settings : RunSettings) (schemas : List String) (lockId : Int32) : SessionState where
  connected := true
  supported := true
  primary := true
  statementTimeout := some settings.statementTimeoutSeconds
  idleTimeout := true
  applicationName := true
  maintenanceWorkMem := some settings.maintenanceWorkMemGb
  costDelay := settings.vacuumCostDelayMs
  costLimit := settings.vacuumCostLimit
  lockTimeout := some settings.lockTimeoutMs
  hashed := some (",".intercalate schemas, lockId)
  locks := [lockId]

end SessionState

/-- The session, read off the history of a run. -/
def sessionState : Observer session SessionState := ⟨{}, SessionState.step⟩

/-- Operations that leave a session as it is, whatever its state. -/
def Op.KeepsSession : Op → Prop
  | .call c =>
    match c with
    | .connect | .getServerVersionNum | .getIsInRecovery | .setStatementTimeout _
    | .setIdleSessionTimeout | .setApplicationName | .setMaintenanceWorkMem _
    | .setVacuumCostDelay _ | .setVacuumCostLimit _ | .setLockTimeout _ | .hashtext _
    | .tryAdvisoryLock _ => False
    | _ => True
  | _ => True

attribute [local simp] Op.KeepsSession

/-- The observer ignores what keeps the session. -/
theorem session_state_ignores : sessionState.Ignores Op.KeepsSession := by
  intro s op answer hop
  cases op with
  | call c =>
      cases answer with
      | error err => rfl
      | ok value => cases c <;> first | rfl | exact hop.elim
  | _ => rfl

variable {W : World session} {past : Trace W} {state : W.State}

/-- A call that must succeed. -/
theorem wp_session_call {c : Call} {text : String} {s : SessionState}
    (hs : sessionState.after past = s) :
    wp W (fun _ _ => True) (queryContext c text)
      (fun value past _ => sessionState.after past = s.row c value) (fun _ _ _ => True)
      past state := by
  rw [wp_queryContext]
  refine wp_mono (Observer.wp_request hs) (fun answer past _ hafter => ?_) fun _ _ _ _ => trivial
  cases answer with
  | ok value => exact hafter
  | error err => trivial

/-- A part of the start that leaves the session as it is. -/
theorem wp_session_kept {α : Type} {p : RunM α} (hp : p.Only Op.KeepsSession) {s : SessionState}
    (hs : sessionState.after past = s) :
    wp W (fun _ _ => True) p (fun _ past _ => sessionState.after past = s) (fun _ _ _ => True)
      past state :=
  wp_mono (session_state_ignores.wp hp (· = s) hs) (fun _ _ _ h => h) fun _ _ _ _ => trivial

/-- A connection is made to a primary of a supported version, or not at all. -/
theorem connect_session (seconds : Nat) :
    wp W (fun _ _ => True) (connect seconds)
      (fun _ past _ => sessionState.after past =
        { connected := true, supported := true, primary := true,
          statementTimeout := some seconds, idleTimeout := true, applicationName := true })
      (fun _ _ _ => True) past state := by
  have hfresh : wp W (fun _ _ => True) (queryContext .connect "Failed to connect to PostgreSQL")
      (fun _ past _ => sessionState.after past = { connected := true }) (fun _ _ _ => True)
      past state := wp_session_call rfl
  refine wp_seq hfresh fun _ past state hs => ?_
  refine wp_seq (wp_session_call hs) fun version past state hs => wp_ite.2 ⟨fun _ => trivial, ?_⟩
  intro hversion
  refine wp_seq (wp_session_call hs) fun recovering past state hs => ?_
  cases recovering with
  | true => trivial
  | false =>
      refine wp_seq (wp_session_call hs) fun _ past state hs => ?_
      refine wp_seq (wp_session_call hs) fun _ past state hs => ?_
      refine wp_mono (wp_session_call hs) (fun _ past _ hs => ?_) fun _ _ _ _ => trivial
      rw [hs]
      simp only [not_lt] at hversion
      simp [SessionState.row, hversion]

/-- The guard returns with the lock of its schemas. -/
theorem try_acquire_session (schemas : List String) {s : SessionState}
    (hs : sessionState.after past = s) :
    wp W (fun _ _ => True) (tryAcquireSchemaLock schemas)
      (fun _ past _ => ∃ id, sessionState.after past =
        { s with hashed := some (",".intercalate schemas, id), locks := id :: s.locks })
      (fun _ _ _ => True) past state := by
  refine wp_seq (wp_session_call hs) fun id past state hs => ?_
  refine wp_seq (wp_session_call hs) fun acquired past state hs => ?_
  cases acquired with
  | false => trivial
  | true => exact ⟨id, hs⟩

/-- The throttling is set to what the settings say, or not at all. -/
theorem apply_throttle_session (settings : RunSettings) {s : SessionState}
    (hs : sessionState.after past = s) (hdelay : s.costDelay = none) (hlimit : s.costLimit = none) :
    wp W (fun _ _ => True) (applyThrottle settings)
      (fun _ past _ => sessionState.after past =
        { s with costDelay := settings.vacuumCostDelayMs, costLimit := settings.vacuumCostLimit })
      (fun _ _ _ => True) past state := by
  obtain ⟨_, _, _, _, _, _, _, costDelay, costLimit, _, _, _⟩ := s
  obtain rfl : costDelay = none := hdelay
  obtain rfl : costLimit = none := hlimit
  unfold applyThrottle
  cases settings.vacuumCostDelayMs with
  | none =>
      cases settings.vacuumCostLimit with
      | none => exact hs
      | some limit => exact wp_session_call hs
  | some ms =>
      refine wp_seq (wp_session_call hs) fun _ past state hs => ?_
      cases settings.vacuumCostLimit with
      | none => exact hs
      | some limit => exact wp_session_call hs

/-- What is best effort is not part of the state. -/
theorem apply_best_effort_keeps (parallel : Option Nat) :
    (applyBestEffort parallel).Only Op.KeepsSession := by
  refine Prog.Only.bind (Prog.Only.attempt (by simp [setVacuumBufferUsageLimit])) fun _ => ?_
  refine Prog.Only.bind (Prog.Only.attempt (by simp [setMaxParallelMaintenanceWorkers]))
    fun workers => ?_
  cases workers <;> simp

/-- All settings of the session are those of the run. -/
theorem apply_session_settings_session (settings : RunSettings) {s : SessionState}
    (hs : sessionState.after past = s) (hdelay : s.costDelay = none) (hlimit : s.costLimit = none) :
    wp W (fun _ _ => True) (applySessionSettings settings)
      (fun _ past _ => sessionState.after past =
        { s with
          maintenanceWorkMem := some settings.maintenanceWorkMemGb
          costDelay := settings.vacuumCostDelayMs
          costLimit := settings.vacuumCostLimit
          lockTimeout := some settings.lockTimeoutMs })
      (fun _ _ _ => True) past state := by
  refine wp_seq (wp_session_call hs) fun _ past state hs => ?_
  refine wp_seq (apply_throttle_session settings hs hdelay hlimit) fun _ past state hs => ?_
  refine wp_seq (wp_session_kept (apply_best_effort_keeps _) hs) fun _ past state hs => ?_
  exact wp_session_call hs

/-- The DDL of the logbook keeps the session. -/
theorem ensure_logbook_schema_keeps : ensureLogbookSchema.Only Op.KeepsSession := by
  simp [ensureLogbookSchema]

/-- So does the opening of the gate. -/
theorem open_lag_gate_keeps (settings : RunSettings) :
    (openLagGate settings).Only Op.KeepsSession := by
  unfold openLagGate
  cases settings.maxReplicaLagSeconds with
  | none => trivial
  | some threshold =>
      refine Prog.Only.bind (only_withContext ?_) fun _ => trivial
      refine Prog.Only.bind (by simp [observeReplicaLag]) fun observation => ?_
      cases observation <;> simp

/-- The schemas of a run are the given ones, if they are given; the logbook is never one. -/
def Resolves (settings : RunSettings) (schemas : List String) : Prop :=
  logbookSchemaName ∉ schemas ∧ schemas ≠ [] ∧
    (settings.schema.isSome = true ∨ settings.discoverAllSchemas = false →
      schemas = (splitSchemas (settings.schema.getD "")).filter (· ≠ logbookSchemaName))

/-- The schemas are those of the command line, or the server's. -/
theorem resolve_schemas_resolves (settings : RunSettings) :
    (resolveSchemas settings).All Op.KeepsSession (Resolves settings) (fun _ => True) := by
  have hrequested : (requestedSchemas settings).All Op.KeepsSession (fun requested =>
      settings.schema.isSome = true ∨ settings.discoverAllSchemas = false →
        requested = splitSchemas (settings.schema.getD "")) (fun _ => True) := by
    simp only [requestedSchemas, Prog.all_ite]
    refine ⟨fun hdiscover => ?_, fun _ _ => rfl⟩
    have hnot : ¬(settings.schema.isSome = true ∨ settings.discoverAllSchemas = false) := by
      cases hschema : settings.schema <;> simp_all
    simp [discoverAllUserSchemas, hnot]
  refine Prog.all_bind.2 (hrequested.mono (fun _ h => h) (fun requested hgiven => ?_) fun _ h => h)
  simp only [Prog.all_ite]
  refine ⟨fun _ => trivial, fun hsome => ⟨by simp, by simpa using hsome, fun h => ?_⟩⟩
  rw [hgiven h]

/-- To resolve them keeps the session. -/
theorem resolve_schemas_session (settings : RunSettings) {s : SessionState}
    (hs : sessionState.after past = s) :
    wp W (fun _ _ => True) (resolveSchemas settings)
      (fun schemas past _ => Resolves settings schemas ∧ sessionState.after past = s)
      (fun _ _ _ => True) past state := by
  have hkeep : W.Keeps (fun _ _ => True) Op.KeepsSession fun past _ =>
      sessionState.after past = s :=
    session_state_ignores.keeps (P := (· = s)) fun _ _ _ _ => trivial
  exact wp_mono (wp_of_all (resolve_schemas_resolves settings) hkeep hs) (fun _ _ _ h => h)
    fun _ _ _ _ => trivial

/-- Behind the start of a run the session is ready, for the schemas of the plan. -/
theorem setup_session (settings : RunSettings) :
    wp W (fun _ _ => True) (setup settings)
      (fun plan past _ => plan.settings = settings ∧ Resolves settings plan.schemas ∧
        ∃ id, sessionState.after past = .ready settings plan.schemas id)
      (fun _ _ _ => True) past state := by
  refine wp_seq (wp_withContext.2 (connect_session _)) fun _ past state hs => ?_
  refine wp_seq (wp_session_kept (by simp) hs) fun _ past state hs => ?_
  refine wp_seq (resolve_schemas_session settings hs) fun schemas past state h => ?_
  obtain ⟨hresolves, hs⟩ := h
  refine wp_seq (wp_withContext.2 (try_acquire_session schemas hs)) fun _ past state h => ?_
  obtain ⟨id, hs⟩ := h
  refine wp_seq (wp_session_kept ensure_logbook_schema_keeps.attempt hs) fun _ past state hs => ?_
  refine wp_seq (apply_session_settings_session settings hs rfl rfl) fun _ past state hs => ?_
  refine wp_seq (wp_session_kept ?_ hs) fun minAge past state hs => ?_
  · unfold effectiveWraparoundMinAge
    cases settings.wraparoundPct <;> simp [getFreezeMaxAge]
  refine wp_seq (wp_session_kept (open_lag_gate_keeps settings) hs) fun gate past state hs => ?_
  refine wp_seq (wp_session_kept (by simp [checkXminHorizon, observeXminHorizon]) hs)
    fun _ past state hs => ?_
  refine wp_seq (wp_session_kept (only_withContext (by simp [resolveExplicitTables])) hs)
    fun tables past state hs => ?_
  exact ⟨rfl, hresolves, id, hs⟩

/-- No operation of the phases changes the session, once it was found to be fit. -/
theorem run_phases_keep_session {plan : Plan} {settings : RunSettings} {schemas : List String}
    {id : Int32} {op : Op} (hop : op.OfPlan plan) (answer : op.Answer) :
    (SessionState.ready settings schemas id).step op answer = .ready settings schemas id := by
  cases op with
  | call c =>
      have hallowed : plan.Allows c := hop
      cases answer with
      | error err => rfl
      | ok value =>
          cases c with
          | connect | getIsInRecovery | setStatementTimeout | setIdleSessionTimeout
          | setApplicationName | setMaintenanceWorkMem | setVacuumCostDelay | setVacuumCostLimit
          | setLockTimeout | hashtext | tryAdvisoryLock =>
              obtain ⟨_, _, -, hfalse⟩ := hallowed
              exact hfalse.elim
          | _ => rfl
  | _ => rfl

end PgMaintainer
