import PgMaintainer.Shutdown.Watcher

/-!
# Histories of the watcher

What a trace of the watcher says: which signals were taken off the channel, which states of the
backend were read, and what the counter showed.
-/

namespace PgMaintainer

open Interaction

/-- The channel of signals and the main session, as the watcher finds them. -/
structure Inbox where
  queue : List ShutdownSignal
  /-- Every signal sent so far. -/
  sent : List ShutdownSignal
  activity : BackendState

namespace Inbox

/-- The channel and the session when the watcher starts: the signals of before wait. -/
def opened (queue : List ShutdownSignal) (activity : BackendState) : Inbox :=
  ⟨queue, queue, activity⟩

/-- What happens meanwhile: a handler sends a signal, or the main session does something else. -/
inductive Drift : Inbox → Inbox → Prop where
  | send (inbox : Inbox) (signal : ShutdownSignal) :
      Drift inbox
        { inbox with queue := inbox.queue ++ [signal], sent := inbox.sent ++ [signal] }
  | move (inbox : Inbox) (activity : BackendState) : Drift inbox { inbox with activity }

/-- The channel is open: a read of it takes the first signal. A wait may end for either reason.
A read of the state fails or shows the present activity. -/
def Answers (inbox : Inbox) : (op : ControlOp) → op.Answer → Inbox → Prop
  | .recv, answer, after => ∃ signal rest, inbox.queue = signal :: rest ∧
      answer = some signal ∧ after = { inbox with queue := rest }
  | .pause _, answer, after => (answer = .elapsed ∧ after = inbox) ∨
      ∃ signal rest, inbox.queue = signal :: rest ∧ answer = .received (some signal) ∧
        after = { inbox with queue := rest }
  | .state, answer, after =>
      (answer = .ok inbox.activity ∨ ∃ err, answer = .error err) ∧ after = inbox
  | _, _, after => after = inbox

end Inbox

/-- The world of the watcher. -/
abbrev inbox : World control where
  State := Inbox
  Drift := Inbox.Drift
  Answers := Inbox.Answers

variable {W : World control}

/-- The signal a step takes off the channel. -/
def takes (m : Moment W) : Option ShutdownSignal := ControlOp.signal m.op m.answer

/-- The signals taken off the channel. -/
def taken (past : Trace W) : List ShutdownSignal := past.filterMap takes

/-- The state of the backend a step reads. -/
def reads (m : Moment W) : Option BackendState :=
  match m with
  | ⟨_, .state, .ok s⟩ => some s
  | _ => none

/-- Only a read of the state shows one. -/
theorem reads_of_op {m : Moment W} (h : m.op ≠ .state) : reads m = none := by
  obtain ⟨state, op, answer⟩ := m
  cases op with
  | state => exact (h rfl).elim
  | _ => rfl

/-- The value of the counter a step shows. -/
def shows (m : Moment W) : Option UInt32 :=
  match (m.op : ControlOp) with
  | .counted count => some count
  | _ => none

/-- The value of the counter: the last one shown. -/
def counter (past : Trace W) : UInt32 := (past.filterMap shows).getLastD 0

/-- The step acts on the backend. -/
def Acts (m : Moment W) : Prop := m.op = .cancel ∨ m.op = .terminate

/-- The step ends the grace period because its time is up. -/
def GraceElapsed (m : Moment W) : Prop := ∃ state, m = ⟨state, .pause .grace, .elapsed⟩

/-- The step that took the last signal. -/
def lastTake (past : Trace W) : Option (Moment W) :=
  (past.filter fun m => (takes m).isSome).getLast?

/-- The last signal came during a grace period. -/
def InGrace (past : Trace W) : Prop := ∃ m ∈ lastTake past, m.op = .pause .grace

/-- A log line and nothing else. -/
def Logs (m : Moment W) : Prop := ∃ line, m.op = .log line

/-- A log line takes no signal. -/
theorem Logs.takes {m : Moment W} (h : Logs m) : takes m = none := by
  obtain ⟨state, op, answer⟩ := m
  obtain ⟨line, rfl⟩ := h
  rfl

/-- Nor does it show a count. -/
theorem Logs.shows {m : Moment W} (h : Logs m) : shows m = none := by
  obtain ⟨line, hline⟩ := h
  simp [PgMaintainer.shows, hline]

section Append

variable {past : Trace W} {m : Moment W}

/-- A step that takes no signal adds none. -/
theorem taken_append_of_none (h : takes m = none) : taken (past ++ [m]) = taken past := by
  simp [taken, h]

/-- A step that takes a signal adds one. -/
theorem length_taken_append {signal : ShutdownSignal} (h : takes m = some signal) :
    (taken (past ++ [m])).length = (taken past).length + 1 := by
  simp [taken, h]

/-- A step that takes no signal is not the last to do so. -/
theorem last_take_append_of_none (h : takes m = none) : lastTake (past ++ [m]) = lastTake past := by
  simp [lastTake, h]

/-- A step that takes a signal is. -/
theorem last_take_append {signal : ShutdownSignal} (h : takes m = some signal) :
    lastTake (past ++ [m]) = some m := by
  simp [lastTake, h]

/-- A step that shows no count leaves the counter. -/
theorem counter_append_of_silent (h : shows m = none) : counter (past ++ [m]) = counter past := by
  simp [counter, h]

/-- A step that shows a count sets it. -/
theorem counter_append_of_shows {count : UInt32} (h : shows m = some count) :
    counter (past ++ [m]) = count := by
  simp [counter, h]

end Append

/-- A signal was taken, and the last one came outside a grace period. -/
structure Begun (past : Trace W) : Prop where
  taken : 1 ≤ (taken past).length
  awake : ¬InGrace past

namespace Begun

variable {past : Trace W} {m : Moment W}

/-- What has begun goes on. -/
theorem next (h : Begun past) (htakes : takes m = none) : Begun (past ++ [m]) where
  taken := (taken_append_of_none htakes).symm ▸ h.taken
  awake := by simpa [InGrace, last_take_append_of_none htakes] using h.awake

/-- The first signal begins it. -/
theorem of_takes {signal : ShutdownSignal} (htakes : takes m = some signal)
    (hop : m.op ≠ .pause .grace) : Begun (past ++ [m]) where
  taken := by simp [length_taken_append htakes]
  awake := by simpa [InGrace, last_take_append htakes] using hop

end Begun

/-- The counter is the number of signals taken, as far as 32 bits go. -/
structure Tallied (count : UInt32) (past : Trace W) : Prop where
  counter : counter past = count
  taken : count.toNat = (taken past).length % 2 ^ 32

namespace Tallied

variable {count : UInt32} {past : Trace W} {m : Moment W}

/-- No signal was taken, and none counted. -/
theorem start : Tallied (W := W) 0 [] := ⟨rfl, rfl⟩

/-- A step that takes no signal and shows no counter. -/
theorem next (h : Tallied count past) (htakes : takes m = none) (hshows : shows m = none) :
    Tallied count (past ++ [m]) where
  counter := (counter_append_of_silent hshows).trans h.counter
  taken := (taken_append_of_none htakes).symm ▸ h.taken

/-- A signal is taken and counted. -/
theorem bump (h : Tallied count past) {signal : ShutdownSignal} {shown : Moment W}
    (htakes : takes m = some signal) (hshown : shown.op = .counted (count + 1)) :
    Tallied (count + 1) (past ++ [m] ++ [shown]) := by
  have hshows : shows shown = some (count + 1) := by simp [shows, hshown]
  have hnone : takes shown = none := by
    obtain ⟨state, op, answer⟩ := shown
    obtain rfl := hshown
    rfl
  refine ⟨counter_append_of_shows hshows, ?_⟩
  simp [PgMaintainer.taken, htakes, hnone, UInt32.toNat_add, h.taken]

end Tallied

end PgMaintainer
