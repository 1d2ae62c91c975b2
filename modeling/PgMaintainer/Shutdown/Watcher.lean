import PgMaintainer.DbError
import PgMaintainer.Interaction.World
import PgMaintainer.Types

/-!
# The shutdown watcher

The task that stops the running statement on a signal, after `shutdown.rs`. It is a program of
its own, with its own operations: it takes signals off a channel, opens a control connection,
reads the state of the main session's backend, and may cancel or terminate it.

`ControlOp.counted` is the one operation without a counterpart in the source. It shows the new
value of the signal counter, a local variable that `run_watcher` lends to `handle_signal`.
-/

namespace PgMaintainer

open Interaction

/-- The signals the handlers forward. -/
inductive ShutdownSignal where
  | sigterm
  | sigint
  deriving DecidableEq, Repr

/-- What to do on a signal. -/
inductive ShutdownAction where
  | none
  | cancel
  | terminate
  deriving DecidableEq, Repr

/-- Decide what to do on the `signalCount`-th signal. `backendActive` says whether there is a
statement worth acting on. -/
def planAction (mode : ShutdownMode) (signalCount : UInt32) (backendActive : Bool) :
    ShutdownAction :=
  if mode = .finish ∨ backendActive = false then .none
  else
    match mode with
    | .terminate => .terminate
    | _ => if 2 ≤ signalCount then .terminate else .cancel

/-- Snapshot of the maintenance backend's activity. The query reports a VACUUM or ANALYZE only
for an active backend. -/
structure BackendState where
  active : Bool
  /-- Active and running a VACUUM or ANALYZE. -/
  maintenanceRunning : Bool
  queryStart : Option String
  activeOfRunning : maintenanceRunning = true → active = true

/-- The two waits in which the watcher also listens for a signal. -/
inductive Pause where
  /-- `POLL_INTERVAL`, between two reads of the backend's state. -/
  | poll
  /-- The grace period after a cancel. -/
  | grace
  deriving DecidableEq, Repr

/-- How a wait ended: its time is up, or the channel was read. `none` is a closed channel. -/
inductive Interrupt where
  | elapsed
  | received (signal : Option ShutdownSignal)
  deriving DecidableEq, Repr

/-- The log lines of the watcher. -/
inductive ControlLine where
  | noControlConnection
  | stateUnreadable
  | nothingRunning (signal : ShutdownSignal)
  | cancelling (signal : ShutdownSignal)
  | stillRunning
  | terminating (signal : ShutdownSignal)
  | callFailed
  deriving DecidableEq, Repr

/-- The operations of the watcher. -/
inductive ControlOp where
  /-- `rx.recv()` -/
  | recv
  /-- `select!` of a sleep and `rx.recv()` -/
  | pause (pause : Pause)
  /-- `BackendController::connect` and its methods. -/
  | connect
  | state
  | cancel
  | terminate
  | log (line : ControlLine)
  /-- The counter has a new value. -/
  | counted (count : UInt32)
  deriving DecidableEq, Repr

/-- What each operation answers. -/
abbrev ControlOp.Answer : ControlOp → Type
  | .recv => Option ShutdownSignal
  | .pause _ => Interrupt
  | .connect => Except AnyError Unit
  | .state => Except PgError BackendState
  | .cancel | .terminate => Except PgError Bool
  | .log _ | .counted _ => Unit

/-- The signal an answer takes off the channel. -/
def ControlOp.signal : (op : ControlOp) → op.Answer → Option ShutdownSignal
  | .recv, signal => signal
  | .pause _, .received signal => signal
  | _, _ => none

/-- The signature of the watcher. -/
abbrev control : Signature := ⟨ControlOp, ControlOp.Answer⟩

/-- A part of the watcher. It handles all its errors. -/
abbrev WatchM := Prog control Empty

section Requests

/-- Take a signal off the channel. -/
def recv : WatchM (Option ShutdownSignal) := .request (S := control) .recv

/-- Wait, or take a signal off the channel. -/
def pauseOrRecv (pause : Pause) : WatchM Interrupt := .request (S := control) (.pause pause)

/-- `BackendController::connect`. -/
def connectControl : WatchM (Except AnyError Unit) := .request (S := control) .connect

/-- `BackendController::state`. -/
def backendState : WatchM (Except PgError BackendState) := .request (S := control) .state

/-- `BackendController::cancel`. -/
def cancelBackend : WatchM (Except PgError Bool) := .request (S := control) .cancel

/-- `BackendController::terminate`. -/
def terminateBackend : WatchM (Except PgError Bool) := .request (S := control) .terminate

/-- Write a log line. -/
def logControl (line : ControlLine) : WatchM Unit := .request (S := control) (.log line)

/-- `*count += 1`, which wraps. -/
def increment (count : UInt32) : WatchM UInt32 := do
  let _ ← (.request (S := control) (.counted (count + 1)) : WatchM Unit)
  pure (count + 1)

end Requests

/-- `POLL_ATTEMPTS`. -/
def pollAttempts : Nat := 8

/-- Whether a state is worth acting on. From the second signal on, any active statement
counts. -/
def worthActing (count : UInt32) (s : BackendState) : Bool :=
  if 2 ≤ count then s.active else s.maintenanceRunning

/-- What the polling found. -/
inductive Polled where
  | unreadable
  | nothing
  | found (target : BackendState)

/-- Count a signal that came during a wait. -/
def countReceived (interrupt : Interrupt) (count : UInt32) : WatchM UInt32 :=
  match interrupt with
  | .received (some _) => increment count
  | _ => pure count

/-- The polling loop of `handle_signal`, with so many attempts to go: find a statement worth
acting on. -/
def pollTarget : Nat → UInt32 → WatchM (Polled × UInt32)
  | 0, count => pure (.nothing, count)
  | left + 1, count => do
    match ← backendState with
    | .error _ => do
      logControl .stateUnreadable
      pure (.unreadable, count)
    | .ok s =>
      if worthActing count s then
        pure (.found s, count)
      else if left = 0 then
        pure (.nothing, count)
      else
        let count ← countReceived (← pauseOrRecv .poll) count
        pollTarget left count

/-- Log the outcome of a call that failed. -/
def warnFailed (outcome : Except PgError Bool) : WatchM Unit :=
  match outcome with
  | .ok _ => pure ()
  | .error _ => logControl .callFailed

/-- `terminate`. -/
def terminate (signal : ShutdownSignal) : WatchM Unit := do
  logControl (.terminating signal)
  warnFailed (← terminateBackend)

/-- After the grace period: escalate only if it is still the same statement. -/
def escalate (target : BackendState) : WatchM Unit := do
  match ← backendState with
  | .ok s =>
    if s.active = true ∧ s.queryStart = target.queryStart then
      logControl .stillRunning
      warnFailed (← terminateBackend)
    else
      pure ()
  | .error _ => pure ()

/-- Cancel the statement, wait out the grace period, and escalate. -/
def cancelTarget (signal : ShutdownSignal) (target : BackendState) (count : UInt32) :
    WatchM UInt32 := do
  logControl (.cancelling signal)
  warnFailed (← cancelBackend)
  match ← pauseOrRecv .grace with
  | .received (some _) => do
    let count ← increment count
    terminate signal
    pure count
  | .received none => do
    escalate target
    pure count
  | .elapsed => do
    escalate target
    pure count

/-- `handle_signal`: the counter comes back as the polling and the grace period left it. -/
def handleSignal (mode : ShutdownMode) (signal : ShutdownSignal) (count : UInt32) :
    WatchM UInt32 := do
  let (polled, count) ← pollTarget pollAttempts count
  match polled with
  | .unreadable => pure count
  | .nothing => do
    logControl (.nothingRunning signal)
    pure count
  | .found target =>
    match planAction mode count true with
    | .none => pure count
    | .terminate => do
      terminate signal
      pure count
    | .cancel => cancelTarget signal target count

/-- Open the control connection unless it is open. -/
def ensureController (controller : Bool) : WatchM Bool := do
  if controller then
    pure true
  else
    match ← connectControl with
    | .ok _ => pure true
    | .error _ => do
      logControl .noControlConnection
      pure false

/-- The loop of `run_watcher`, for so many signals taken by its head. -/
def runWatcher (mode : ShutdownMode) : Nat → Bool → UInt32 → WatchM Unit
  | 0, _, _ => pure ()
  | rounds + 1, controller, count => do
    match ← recv with
    | none => pure ()
    | some signal => do
      let count ← increment count
      if mode = .finish then
        runWatcher mode rounds controller count
      else
        let controller ← ensureController controller
        if controller then
          let count ← handleSignal mode signal count
          runWatcher mode rounds controller count
        else
          runWatcher mode rounds controller count

end PgMaintainer
