import PgMaintainer.Run.Server
import PgMaintainer.Shutdown.Watcher

/-!
# The whole process

The main program shares the process with the two signal handlers and the watcher. `system` is
the world they make for it: between any two of its operations the others may take any number of
steps, each as small as one store or one message.

A call of the main program is one step, taken when its answer arrives. What happened while it
ran counts as before it; so a statement counts as late once the flag was set while it ran.

One thing is left out. The runners keep the read guard of the watch channel while they wait for the
row of an interrupted table, and a handler that stores the flag meanwhile waits for the guard, which
can stop the whole process. Here a handler may always store the flag: the world has every run of the
process up to such a stop, and others that go on behind it.
-/

namespace PgMaintainer

open Interaction

/-- Where a signal handler stands in its loop. -/
inductive Handler where
  /-- It waits for a signal. -/
  | waiting
  /-- `mark_requested()` comes next. -/
  | received
  /-- `shutdown_tx.send(true)` comes next. -/
  | marked
  /-- `signal_tx.send(..)` comes next. -/
  | flagged
  deriving DecidableEq, Repr

/-- What the parties of the process share, and where the others stand. -/
structure Process where
  /-- `SHUTDOWN_REQUESTED` -/
  requested : Bool := false
  /-- The value of the watch channel, the shutdown flag. -/
  flag : Bool := false
  handlers : ShutdownSignal → Handler := fun _ => .waiting
  /-- The channel of signals. -/
  queue : List ShutdownSignal := []
  /-- What the watcher has left to do, once it was spawned. -/
  watcher : Option (WatchM Unit) := none
  /-- The watcher asked for a cancel, for a termination. -/
  cancelled : Bool := false
  terminated : Bool := false

namespace Process

/-- The handler of a signal moves on. -/
def setHandler (p : Process) (signal : ShutdownSignal) (h : Handler) : Process :=
  { p with handlers := Function.update p.handlers signal h }

/-- One step of a signal handler. -/
def handle (p : Process) (signal : ShutdownSignal) : Process :=
  match p.handlers signal with
  | .waiting => p.setHandler signal .received
  | .received => { p.setHandler signal .marked with requested := true }
  | .marked => { p.setHandler signal .flagged with flag := true }
  | .flagged => { p.setHandler signal .waiting with queue := p.queue ++ [signal] }

/-- The answers to the watcher. The channel is never closed. -/
def AnswersWatcher (p : Process) : (op : ControlOp) → op.Answer → Process → Prop
  | .recv, answer, after => ∃ signal rest, p.queue = signal :: rest ∧ answer = some signal ∧
      after = { p with queue := rest }
  | .pause _, answer, after => (answer = .elapsed ∧ after = p) ∨
      ∃ signal rest, p.queue = signal :: rest ∧ answer = .received (some signal) ∧
        after = { p with queue := rest }
  | .cancel, _, after => after = { p with cancelled := true }
  | .terminate, _, after => after = { p with terminated := true }
  | _, _, after => after = p

/-- A step of one of the others. -/
inductive Drift : Process → Process → Prop where
  | handle (p : Process) (signal : ShutdownSignal) : Drift p (p.handle signal)
  | watch {p after : Process} {op : ControlOp} {answer : op.Answer}
      {next : op.Answer → WatchM Unit} :
      p.watcher = some (.perform op next) → p.AnswersWatcher op answer after →
      Drift p { after with watcher := some (next answer) }

/-- The answers to the main program. Either branch of a `select!` may win when both are ready.
The watcher is spawned once the backend's pid is known, unless the mode is `finish`. -/
def Answers (mode : ShutdownMode) (p : Process) : (op : Op) → op.Answer → Process → Prop
  | .shutdownRequested, requested, after => requested = p.flag ∧ after = p
  | .isRequested, requested, after => requested = p.requested ∧ after = p
  | .sleepOrShutdown _, wake, after => (wake = .shutdown → p.flag = true) ∧ after = p
  | .call .getBackendPid, .ok _, after =>
      if mode = .finish then after = p
      else ∃ rounds, after = { p with watcher := some (runWatcher mode rounds false 0) }
  | _, _, after => after = p

end Process

/-- The world of the main program. -/
abbrev system (mode : ShutdownMode) : World session where
  State := Process
  Drift := Process.Drift
  Answers := Process.Answers mode

/-! ## The flags are only ever set -/

namespace Process

/-- Whatever was set is still set. -/
structure Le (p q : Process) : Prop where
  requested : p.requested = true → q.requested = true
  flag : p.flag = true → q.flag = true

/-- Nothing is lost by standing still. -/
theorem Le.refl (p : Process) : p.Le p := ⟨id, id⟩

/-- Nor by two steps, if it is not by either. -/
theorem Le.trans {p q r : Process} (h : p.Le q) (h' : q.Le r) : p.Le r :=
  ⟨h'.requested ∘ h.requested, h'.flag ∘ h.flag⟩

variable {mode : ShutdownMode} {p q : Process}

/-- A handler only sets. -/
theorem le_handle (p : Process) (signal : ShutdownSignal) : p.Le (p.handle signal) := by
  unfold handle
  split <;> constructor <;> simp [setHandler]

/-- The watcher unsets nothing. -/
theorem le_of_answers_watcher {op : ControlOp} {answer : op.Answer}
    (h : p.AnswersWatcher op answer q) : p.Le q := by
  cases op with
  | recv =>
      obtain ⟨_, _, _, _, rfl⟩ := h
      exact ⟨id, id⟩
  | pause =>
      rcases h with ⟨_, rfl⟩ | ⟨_, _, _, _, rfl⟩ <;> exact ⟨id, id⟩
  | _ =>
      obtain rfl := h
      exact ⟨id, id⟩

/-- The watcher does not touch the handlers. -/
theorem handlers_of_answers_watcher {op : ControlOp} {answer : op.Answer}
    (h : p.AnswersWatcher op answer q) : q.handlers = p.handlers := by
  cases op with
  | recv =>
      obtain ⟨_, _, _, _, rfl⟩ := h
      rfl
  | pause => rcases h with ⟨_, rfl⟩ | ⟨_, _, _, _, rfl⟩ <;> rfl
  | _ =>
      obtain rfl := h
      rfl

/-- No step of the others unsets anything. -/
theorem le_of_drift (h : p.Drift q) : p.Le q := by
  cases h with
  | handle signal => exact le_handle p signal
  | watch _ hanswer =>
      have hle := le_of_answers_watcher hanswer
      exact ⟨hle.requested, hle.flag⟩

/-- Nor do several. -/
theorem le_of_drifts (h : (system mode).Drifts p q) : p.Le q := by
  induction h with
  | refl => exact .refl p
  | tail _ hstep ih => exact ih.trans (le_of_drift hstep)

/-- The main program sets neither flag. -/
theorem same_of_answers {op : Op} {answer : op.Answer} (h : p.Answers mode op answer q) :
    q = { p with watcher := q.watcher } := by
  unfold Answers at h
  split at h
  · rw [h.2]
  · rw [h.2]
  · rw [h.2]
  · split at h
    · rw [h]
    · obtain ⟨rounds, rfl⟩ := h
      rfl
  · rw [h]

/-- Nor does the main program. -/
theorem le_of_answers {op : Op} {answer : op.Answer} (h : p.Answers mode op answer q) :
    p.Le q := by
  rw [same_of_answers h]
  exact ⟨id, id⟩

end Process

/-- The flags along an execution. -/
theorem exec_le {mode : ShutdownMode} {start last : Process} {tr : Trace (system mode)} {ε α : Type}
    {p q : Prog session ε α} (h : Exec (system mode) start p tr last q) :
    start.Le last ∧ (∀ m ∈ tr, start.Le m.state ∧ Process.Le m.state last) ∧
      tr.Pairwise fun m n => Process.Le m.state n.state :=
  h.ordered (R := Process.Le) Process.Le.refl (fun _ _ _ => Process.Le.trans)
    (fun _ _ => Process.le_of_drift) fun _ _ _ _ => Process.le_of_answers

/-! ## What the watcher did, a signal made it do -/

/-- The watcher neither cancels nor terminates before it has taken a signal. -/
def Patient {α : Type} : WatchM α → Prop
  | .perform op next => op ≠ .cancel ∧ op ≠ .terminate ∧
      ∀ answer, ControlOp.signal op answer = none → Patient (next answer)
  | _ => True

/-- The watcher begins by waiting for one. -/
theorem run_watcher_patient (mode : ShutdownMode) (rounds : Nat) (controller : Bool)
    (count : UInt32) : Patient (runWatcher mode rounds controller count) := by
  cases rounds with
  | zero => trivial
  | succ rounds =>
      refine ⟨nofun, nofun, fun answer hnone => ?_⟩
      obtain rfl : answer = none := hnone
      trivial

namespace Process

variable {mode : ShutdownMode} {p q : Process}

/-- How far a handler has come, the flags tell. -/
def Told (p : Process) : Handler → Prop
  | .waiting | .received => True
  | .marked => p.requested = true
  | .flagged => p.requested = true ∧ p.flag = true

/-- What a handler's place tells stays true. -/
theorem Told.mono {h : Handler} (htold : p.Told h) (hle : p.Le q) : q.Told h := by
  cases h with
  | waiting => trivial
  | received => trivial
  | marked => exact hle.requested htold
  | flagged => exact ⟨hle.requested htold.1, hle.flag htold.2⟩

/-- The flags are set in their order, before the signal is forwarded, and the watcher acts only
when that has happened. -/
structure Sound (p : Process) : Prop where
  requested : p.flag = true → p.requested = true
  told : ∀ signal, p.Told (p.handlers signal)
  queue : p.queue ≠ [] → p.flag = true
  patient : ∀ w ∈ p.watcher, p.flag = true ∨ Patient w
  acted : p.cancelled = true ∨ p.terminated = true → p.flag = true

namespace Sound

/-- Before the first signal. -/
theorem start : Sound {} := by
  constructor <;> simp [Told]

/-- The other handler, and the one that moved. -/
theorem told_update {signal : ShutdownSignal} {h : Handler} (hsound : p.Sound)
    (hhandlers : q.handlers = Function.update p.handlers signal h) (hle : p.Le q)
    (htold : q.Told h) (other : ShutdownSignal) : q.Told (q.handlers other) := by
  rw [hhandlers]
  by_cases hother : other = signal
  · subst hother
    simpa using htold
  · simpa [Function.update_of_ne hother] using (hsound.told other).mono hle

/-- A step of a handler keeps the order of the flags. -/
theorem handle (h : p.Sound) (signal : ShutdownSignal) : (p.handle signal).Sound := by
  have hle := le_handle p signal
  have htold := h.told signal
  unfold Process.handle at hle ⊢
  cases hstate : p.handlers signal with
  | waiting =>
      simp only [hstate] at hle ⊢
      exact ⟨h.requested, h.told_update rfl hle trivial, h.queue, h.patient, h.acted⟩
  | received =>
      simp only [hstate] at hle ⊢
      exact ⟨fun _ => rfl, h.told_update rfl hle rfl, h.queue, h.patient, h.acted⟩
  | marked =>
      simp only [hstate] at hle htold ⊢
      exact ⟨fun _ => htold, h.told_update rfl hle ⟨htold, rfl⟩, fun _ => rfl,
        fun _ _ => .inl rfl, fun _ => rfl⟩
  | flagged =>
      simp only [hstate] at hle htold ⊢
      exact ⟨h.requested, h.told_update rfl hle trivial, fun _ => htold.2, h.patient, h.acted⟩

/-- Once the flag is set, the watcher may do anything. -/
theorem of_flag (h : p.Sound) (hle : p.Le q) (hhandlers : q.handlers = p.handlers)
    (hflag : p.flag = true) : q.Sound where
  requested _ := hle.requested (h.requested hflag)
  told signal := hhandlers ▸ (h.told signal).mono hle
  queue _ := hle.flag hflag
  patient _ _ := .inl (hle.flag hflag)
  acted _ := hle.flag hflag

/-- Before the flag is set there is no signal to take, so a patient watcher stays patient. -/
theorem watch {op : ControlOp} {answer : op.Answer} {next : op.Answer → WatchM Unit}
    (h : p.Sound) (hwatcher : p.watcher = some (.perform op next))
    (hanswer : p.AnswersWatcher op answer q) :
    Sound { q with watcher := some (next answer) } := by
  have hle := le_of_answers_watcher hanswer
  by_cases hflag : p.flag = true
  · have hhandlers := handlers_of_answers_watcher hanswer
    exact h.of_flag ⟨hle.requested, hle.flag⟩ hhandlers hflag
  have hempty : p.queue = [] := by
    by_contra hqueue
    exact hflag (h.queue hqueue)
  obtain ⟨hcancel, hterminate, hnext⟩ :=
    (h.patient (.perform op next) (by simp [hwatcher])).resolve_left hflag
  -- with the flag unset the channel is empty, so the watcher has only waited
  suffices hsame : ControlOp.signal op answer = none ∧ q = p by
    obtain ⟨hsignal, rfl⟩ := hsame
    refine ⟨h.requested, h.told, h.queue, fun w hw => .inr ?_, h.acted⟩
    obtain rfl : next answer = w := by simpa using hw
    exact hnext answer hsignal
  cases op with
  | recv =>
      obtain ⟨_, _, hqueue, _⟩ := hanswer
      simp [hempty] at hqueue
  | pause =>
      rcases hanswer with ⟨rfl, rfl⟩ | ⟨_, _, hqueue, _⟩
      · exact ⟨rfl, rfl⟩
      · simp [hempty] at hqueue
  | cancel => exact absurd rfl hcancel
  | terminate => exact absurd rfl hterminate
  | _ => exact ⟨rfl, hanswer⟩

/-- So does any step of the others. -/
theorem drift (h : p.Sound) (hstep : p.Drift q) : q.Sound := by
  cases hstep with
  | handle signal => exact h.handle signal
  | watch hwatcher hanswer => exact h.watch hwatcher hanswer

/-- So do several. By induction on the steps. -/
theorem drifts (h : p.Sound) (hsteps : (system mode).Drifts p q) : q.Sound := by
  induction hsteps with
  | refl => exact h
  | tail _ hstep ih => exact ih.drift hstep

/-- The main program changes only who watches, and a new watcher is patient. -/
theorem answers {op : Op} {answer : op.Answer} (h : p.Sound)
    (hanswer : p.Answers mode op answer q) : q.Sound := by
  unfold Process.Answers at hanswer
  split at hanswer
  · exact hanswer.2 ▸ h
  · exact hanswer.2 ▸ h
  · exact hanswer.2 ▸ h
  · split at hanswer
    · exact hanswer ▸ h
    · obtain ⟨rounds, rfl⟩ := hanswer
      refine ⟨h.requested, h.told, h.queue, fun w hw => .inr ?_, h.acted⟩
      obtain rfl : runWatcher mode rounds false 0 = w := by simpa using hw
      exact run_watcher_patient ..
  · exact hanswer ▸ h

end Sound

end Process

/-! ## Runs against a server -/

namespace Process

/-- The handler of `signal` goes through its first three steps: both flags are set. -/
def signalled (p : Process) (signal : ShutdownSignal) : Process :=
  ((p.handle signal).handle signal).handle signal

/-- Three steps of a handler are steps of the others. -/
theorem drifts_signalled (mode : ShutdownMode) (p : Process) (signal : ShutdownSignal) :
    (system mode).Drifts p (p.signalled signal) :=
  ((Relation.ReflTransGen.single (.handle p signal)).tail (.handle _ signal)).tail
    (.handle _ signal)

/-- The handler of `signal` goes once around: the signal is forwarded too. -/
def forwarded (p : Process) (signal : ShutdownSignal) : Process :=
  (p.signalled signal).handle signal

/-- So are four. -/
theorem drifts_forwarded (mode : ShutdownMode) (p : Process) (signal : ShutdownSignal) :
    (system mode).Drifts p (p.forwarded signal) :=
  (drifts_signalled mode p signal).tail (.handle _ signal)

/-- The watcher moves on, if it can, and finds the backend in this state. -/
def watched (p : Process) (shown : BackendState) : Process :=
  match p.watcher, p.queue with
  | some (.perform .recv next), signal :: rest =>
    { p with queue := rest, watcher := some (next (some signal)) }
  | some (.perform .connect next), _ => { p with watcher := some (next (.ok ())) }
  | some (.perform .state next), _ => { p with watcher := some (next (.ok shown)) }
  | some (.perform .cancel next), _ =>
    { p with cancelled := true, watcher := some (next (.ok true)) }
  | some (.perform (.log _) next), _ => { p with watcher := some (next ()) }
  | some (.perform (.counted _) next), _ => { p with watcher := some (next ()) }
  | _, _ => p

/-- So is one of the watcher. -/
theorem drifts_watched (mode : ShutdownMode) (p : Process) (shown : BackendState) :
    (system mode).Drifts p (p.watched shown) := by
  unfold watched
  split
  · rename_i hwatcher hqueue
    exact .single (.watch hwatcher ⟨_, _, hqueue, rfl, rfl⟩)
  · exact .single (@Drift.watch p p .connect _ _ ‹p.watcher = _› rfl)
  · exact .single (@Drift.watch p p .state _ _ ‹p.watcher = _› rfl)
  · exact .single (@Drift.watch p { p with cancelled := true } .cancel _ _ ‹p.watcher = _› rfl)
  · exact .single (@Drift.watch p p (.log _) _ _ ‹p.watcher = _› rfl)
  · exact .single (@Drift.watch p p (.counted _) _ _ ‹p.watcher = _› rfl)
  · exact .refl

/-- So are any number of its steps. By induction on the number. -/
theorem drifts_iterate_watched (mode : ShutdownMode) (shown : BackendState) (n : Nat)
    (p : Process) : (system mode).Drifts p ((·.watched shown)^[n] p) := by
  induction n generalizing p with
  | zero => exact .refl
  | succ n ih => exact (drifts_watched mode p shown).trans (ih _)

end Process

/-- What the others do before an operation is answered, and the calls that fail. -/
structure Disturbance (mode : ShutdownMode) where
  before : Process → Op → Process
  fails : Call → Option PgError
  drifts : ∀ p op, (system mode).Drifts p (before p op)

namespace Disturbance

variable {mode : ShutdownMode} (d : Disturbance mode) (server : Server)

/-- The answer of the server, or the error. -/
def answer (p : Process) : (op : Op) → op.Answer
  | .shutdownRequested => p.flag
  | .isRequested => p.requested
  | .call c =>
    match d.fails c with
    | some err => .error err
    | none => .ok (server.row c)
  | op => server.answer op

/-- The watcher, once it is spawned, goes through one round. -/
def after (p : Process) : Op → Process
  | .call .getBackendPid =>
    if mode = .finish ∨ (d.fails .getBackendPid).isSome then p
    else { p with watcher := some (runWatcher mode 1 false 0) }
  | _ => p

/-- The disturbed server as a script. -/
def script (p : Process) (op : Op) : Process × op.Answer × Process :=
  (d.before p op, d.answer server (d.before p op) op, d.after (d.before p op) op)

/-- What it answers, the world allows. -/
theorem answers (p : Process) (op : Op) :
    p.Answers mode op (d.answer server p op) (d.after p op) := by
  cases op with
  | call c =>
      by_cases hc : c = .getBackendPid
      · subst hc
        cases hfails : d.fails .getBackendPid with
        | some err => simp [Process.Answers, answer, after, hfails]
        | none =>
            simp only [Process.Answers, answer, after, hfails]
            by_cases hmode : mode = .finish
            · simp [hmode]
            · simp only [hmode, if_false, Option.isSome_none, Bool.false_eq_true, or_self]
              exact ⟨1, rfl⟩
      · have hafter : d.after p (.call c) = p := by
          unfold after
          split
          · rename_i heq
            exact absurd (Op.call.inj heq) hc
          · rfl
        unfold Process.Answers
        split
        all_goals first
          | exact hafter
          | simp_all
  | sleepOrShutdown => exact ⟨fun h => absurd h (by simp [answer, Server.answer]), rfl⟩
  | shutdownRequested => exact ⟨rfl, rfl⟩
  | isRequested => exact ⟨rfl, rfl⟩
  | _ => rfl

/-- A run against it is an execution. -/
theorem exec (settings : RunSettings) :
    Exec (system mode) {} (main settings)
      ((main settings).enact (system mode) (d.script server) {}).1
      ((main settings).enact (system mode) (d.script server) {}).2.1
      (.ofExcept ((main settings).enact (system mode) (d.script server) {}).2.2) :=
  Prog.exec_enact d.drifts (fun p op => d.answers server (d.before p op) op) _ _

end Disturbance

/-- No signal arrives and no call fails. -/
def undisturbed (mode : ShutdownMode) : Disturbance mode where
  before p _ := p
  fails _ := none
  drifts _ _ := .refl

end PgMaintainer
