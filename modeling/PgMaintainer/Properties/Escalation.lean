import PgMaintainer.Shutdown.History

/-!
# The escalation protocol of the watcher

When the watcher cancels and when it terminates, in every run: how many signals it had taken
off the channel by then, and what it had last read about the backend. The counter wraps after
`2 ^ 32` signals. One action rests on no reading: a second signal during the grace period
terminates the backend at once, whatever it is doing by then.
-/

namespace PgMaintainer

open Interaction

/-- Since the last signal taken, a read showed the backend busy, with a VACUUM or ANALYZE if that
signal was the only one; and no later read showed it idle. -/
def Guarded (past : Trace inbox) : Prop :=
  ∃ before read after s, past = before ++ read :: after ∧ reads read = some s ∧
    s.active = true ∧ ((taken past).length = 1 → s.maintenanceRunning = true) ∧
    ∀ m ∈ after, takes m = none ∧ ∀ s ∈ reads m, s.active = true

/-- A statement was cancelled and is still there after the full grace period: it was read, then
cancelled, the time ran out without a signal, and the next read showed the backend active with
the same start of its query. -/
def Outlasted (past : Trace inbox) : Prop :=
  ∃ before found logs₁ cancelled logs₂ waited again logs₃ target s,
    past = before ++ [found] ++ logs₁ ++ [cancelled] ++ logs₂ ++ [waited, again] ++ logs₃ ∧
    reads found = some target ∧ cancelled.op = .cancel ∧ GraceElapsed waited ∧
    reads again = some s ∧ s.active = true ∧ s.queryStart = target.queryStart ∧
    ∀ m ∈ logs₁ ++ logs₂ ++ logs₃, Logs m

/-- What the protocol asks of one step of the watcher, given the steps before it. -/
structure Permitted (mode : ShutdownMode) (past : Trace inbox) (m : Moment inbox) : Prop where
  /-- The counter is the number of signals taken, up to wrapping. -/
  counts : shows m = none → (counter past).toNat = (taken past).length % 2 ^ 32
  finish : mode = .finish → ¬Acts m
  terminate : mode = .terminate → m.op ≠ .cancel
  /-- A cancel comes after the first signal, and not after a second one that is counted. -/
  cancel : mode = .cancel → m.op = .cancel →
    1 ≤ (taken past).length ∧ (taken past).length % 2 ^ 32 ≤ 1
  escalate : mode = .cancel → m.op = .terminate → 2 ≤ (taken past).length ∨ Outlasted past

/-- Both properties of a step: it is permitted, and if it acts it is guarded, unless the last
signal came during a grace period. -/
def Proper (mode : ShutdownMode) (past : Trace inbox) (m : Moment inbox) : Prop :=
  Permitted mode past m ∧ (Acts m → (Guarded past ↔ ¬InGrace past))

section Steps

variable {mode : ShutdownMode} {count : UInt32} {past : Trace inbox} {m : Moment inbox}

/-- A step that does not act is proper. -/
theorem Proper.of_quiet (h : Tallied count past) (hacts : ¬Acts m) : Proper mode past m where
  left :=
    { counts := fun _ => h.counter ▸ h.taken
      finish := fun _ => hacts
      terminate := fun _ hop => hacts (.inl hop)
      cancel := fun _ hop => absurd (.inl hop) hacts
      escalate := fun _ hop => absurd (.inr hop) hacts }
  right := fun h => absurd h hacts

/-- So is the step that shows the counter, when it is behind by one. -/
theorem Proper.of_shows {shown : UInt32} (hop : m.op = .counted shown) : Proper mode past m where
  left :=
    { counts := fun h => by simp [shows, hop] at h
      finish := fun _ => by simp [Acts, hop]
      terminate := fun _ => by simp [hop]
      cancel := fun _ h => by simp [hop] at h
      escalate := fun _ h => by simp [hop] at h }
  right := fun h => by simp [Acts, hop] at h

/-- When a cancel is proper. -/
theorem Proper.of_cancel (h : Tallied count past) (hop : m.op = .cancel) (hmode : mode = .cancel)
    (hbegun : Begun past) (hcount : ¬2 ≤ count) (hguarded : Guarded past) :
    Proper mode past m where
  left :=
    { counts := fun _ => h.counter ▸ h.taken
      finish := fun hfinish => by simp [hmode] at hfinish
      terminate := fun hterminate => by simp [hmode] at hterminate
      cancel := fun _ _ => by
        refine ⟨hbegun.taken, ?_⟩
        have hlt : count.toNat < 2 := by simpa [UInt32.le_iff_toNat_le] using hcount
        have htaken := h.taken
        omega
      escalate := fun _ hterminate => by simp [hop] at hterminate }
  right := fun _ => iff_of_true hguarded hbegun.awake

/-- When a terminate is proper. -/
theorem Proper.of_terminate (h : Tallied count past) (hop : m.op = .terminate)
    (hmode : mode ≠ .finish) (hescalate : mode = .cancel → 2 ≤ (taken past).length ∨ Outlasted past)
    (hguarded : Guarded past ↔ ¬InGrace past) : Proper mode past m where
  left :=
    { counts := fun _ => h.counter ▸ h.taken
      finish := fun hfinish => absurd hfinish hmode
      terminate := fun _ => by simp [hop]
      cancel := fun _ hcancel => by simp [hop] at hcancel
      escalate := fun hcancel _ => hescalate hcancel }
  right := fun _ => hguarded

/-- A reading stays good until the next signal or the next reading. -/
theorem Guarded.next (h : Guarded past) (htakes : takes m = none)
    (hreads : ∀ s ∈ reads m, s.active = true) : Guarded (past ++ [m]) := by
  obtain ⟨before, read, after, s, rfl, hread, hactive, hrunning, hafter⟩ := h
  refine ⟨before, read, after ++ [m], s, by simp, hread, hactive, ?_, ?_⟩
  · rwa [taken_append_of_none htakes]
  intro x hx
  rcases List.mem_append.1 hx with hx | hx
  · exact hafter x hx
  · obtain rfl := List.mem_singleton.1 hx
    exact ⟨htakes, hreads⟩

/-- A log line reads no state. -/
theorem Logs.reads (h : Logs m) : reads m = none := by
  obtain ⟨state, op, answer⟩ := m
  obtain ⟨line, rfl⟩ := h
  rfl

/-- What a read allows it allows after a log line, too. -/
theorem Guarded.logs (h : Guarded past) (hm : Logs m) : Guarded (past ++ [m]) :=
  h.next hm.takes (by simp [hm.reads])

/-- A log line counts no signal. -/
theorem Tallied.logs (h : Tallied count past) (hm : Logs m) : Tallied count (past ++ [m]) :=
  h.next hm.takes hm.shows

/-- Nothing was read since the last signal. -/
def Unread (past : Trace inbox) : Prop :=
  ∃ before m after, past = before ++ m :: after ∧ takes m ≠ none ∧
    ∀ x ∈ m :: after, reads x = none

/-- What reads nothing leaves the last signal unread. -/
theorem Unread.next (h : Unread past) (hreads : reads m = none) : Unread (past ++ [m]) := by
  obtain ⟨before, first, after, rfl, htakes, hafter⟩ := h
  refine ⟨before, first, after ++ [m], by simp, htakes, fun x hx => ?_⟩
  rw [← List.cons_append, List.mem_append, List.mem_singleton] at hx
  rcases hx with hx | rfl
  · exact hafter x hx
  · exact hreads

/-- The reading that guards a step is later than the last signal. -/
theorem Unread.not_guarded (h : Unread past) : ¬Guarded past := by
  obtain ⟨before, m, after, rfl, htakes, hunread⟩ := h
  rintro ⟨before', read, after', s, heq, hread, -, -, hafter'⟩
  rcases List.append_eq_append_iff.1 heq with ⟨mid, rfl, hmid⟩ | ⟨mid, rfl, hmid⟩
  · have hmem : read ∈ m :: after := hmid ▸ by simp
    simp [hunread read hmem] at hread
  · rcases mid with _ | ⟨_, mid⟩
    · obtain ⟨rfl, -⟩ := List.cons.inj hmid
      simp [hunread read (by simp)] at hread
    · obtain ⟨rfl, hrest⟩ := List.cons.inj hmid
      exact htakes (hafter' m (hrest ▸ by simp)).1

/-- Before an act one of the two holds: the backend was read as busy, or the last signal came
during a grace period and nothing was read since. -/
def Judged (past : Trace inbox) : Prop :=
  Guarded past ∧ ¬InGrace past ∨ Unread past ∧ InGrace past

/-- Of the two at most one holds. -/
theorem Judged.iff (h : Judged past) : Guarded past ↔ ¬InGrace past := by
  rcases h with ⟨hguarded, hawake⟩ | ⟨hunread, hgrace⟩
  · exact iff_of_true hguarded hawake
  · exact iff_of_false hunread.not_guarded (not_not.2 hgrace)

/-- Log lines do not change which. -/
theorem Judged.logs (h : Judged past) (hm : Logs m) : Judged (past ++ [m]) := by
  unfold Judged InGrace
  rw [last_take_append_of_none hm.takes]
  exact h.imp (fun h => ⟨h.1.logs hm, h.2⟩) fun h => ⟨h.1.next hm.reads, h.2⟩

/-- Nor do they change that a statement has outlasted its grace period. -/
theorem Outlasted.logs (h : Outlasted past) (hm : Logs m) : Outlasted (past ++ [m]) := by
  obtain ⟨before, found, logs₁, cancelled, logs₂, waited, again, logs₃, target, s, rfl, hfound,
    hcancelled, hwaited, hagain, hactive, hsame, hlogs⟩ := h
  refine ⟨before, found, logs₁, cancelled, logs₂, waited, again, logs₃ ++ [m], target, s,
    by simp, hfound, hcancelled, hwaited, hagain, hactive, hsame, ?_⟩
  intro x hx
  rw [← List.append_assoc, List.mem_append, List.mem_singleton] at hx
  rcases hx with hx | rfl
  · exact hlogs x hx
  · exact hm

/-- What one log line keeps, several keep. -/
theorem append_logs {P : Trace inbox → Prop} {logs : Trace inbox}
    (hstep : ∀ {past m}, P past → Logs m → P (past ++ [m])) (h : P past)
    (hlogs : ∀ m ∈ logs, Logs m) : P (past ++ logs) := by
  induction logs generalizing past with
  | nil => simpa using h
  | cons m logs ih =>
      rw [show past ++ m :: logs = past ++ [m] ++ logs by simp]
      exact ih (hstep h (hlogs m (by simp))) fun x hx => hlogs x (by simp [hx])

/-- The last step read a state worth acting on. -/
def Found (count : UInt32) (target : BackendState) (past : Trace inbox) : Prop :=
  worthActing count target = true ∧ ∃ before m, past = before ++ [m] ∧ reads m = some target

/-- Such a state is busy enough: on the first signal only a VACUUM or ANALYZE counts. -/
theorem Found.guarded {target : BackendState} (h : Found count target past)
    (htallied : Tallied count past) : Guarded past := by
  obtain ⟨hworth, before, m, rfl, hreads⟩ := h
  refine ⟨before, m, [], target, rfl, hreads, ?_, fun hone => ?_, by simp⟩
  · unfold worthActing at hworth
    split at hworth
    · exact hworth
    · exact target.activeOfRunning hworth
  · have htoNat : count.toNat = 1 := by simpa [hone] using htallied.taken
    have hsecond : ¬2 ≤ count := by simp [UInt32.le_iff_toNat_le, htoNat]
    simpa [worthActing, hsecond] using hworth

end Steps

section Parts

variable {mode : ShutdownMode} {count : UInt32} {past : Trace inbox} {state : Inbox}
  {E : Empty → Trace inbox → Inbox → Prop}

/-- A log line keeps what log lines keep. -/
theorem wp_logControl {line : ControlLine} (h : Tallied count past) :
    wp inbox (Proper mode) (logControl line)
      (fun _ past' _ => ∃ m, Logs m ∧ past' = past ++ [m]) E past state := by
  refine wp_mono (wp_request_of fun _ _ => .of_quiet h (by simp [Acts])) ?_ (fun _ _ _ h => h)
  rintro _ _ _ ⟨now, _, rfl⟩
  exact ⟨_, ⟨line, rfl⟩, rfl⟩

/-- The warning about a failed call. -/
theorem wp_warnFailed {outcome : Except PgError Bool} (h : Tallied count past) :
    wp inbox (Proper mode) (warnFailed outcome)
      (fun _ past' _ => ∃ logs, (∀ m ∈ logs, Logs m) ∧ past' = past ++ logs) E past state := by
  cases outcome with
  | ok => exact ⟨[], by simp, by simp⟩
  | error err =>
      refine wp_mono (wp_logControl h) ?_ (fun _ _ _ h => h)
      rintro _ _ _ ⟨m, hm, rfl⟩
      exact ⟨[m], by simpa using hm, rfl⟩

/-- A read of the state. -/
theorem wp_backendState (h : Tallied count past) :
    wp inbox (Proper mode) backendState
      (fun answer past' _ => Tallied count past' ∧ ∃ m, past' = past ++ [m] ∧ takes m = none ∧
        reads m = answer.toOption) E past state := by
  refine wp_mono (wp_request_of fun _ _ => .of_quiet h (by simp [Acts])) ?_ (fun _ _ _ h => h)
  rintro answer _ _ ⟨now, _, rfl⟩
  refine ⟨h.next rfl rfl, _, rfl, rfl, ?_⟩
  cases answer <;> rfl

/-- A wait: a signal that ends it is taken, and not yet counted. -/
theorem wp_pauseOrRecv {pause : Pause} (h : Tallied count past) :
    wp inbox (Proper mode) (pauseOrRecv pause)
      (fun interrupt past' _ =>
        (interrupt = .elapsed ∧ ∃ now, past' = past ++ [⟨now, .pause pause, .elapsed⟩]) ∨
        ∃ signal m, interrupt = .received (some signal) ∧ past' = past ++ [m] ∧
          m.op = .pause pause ∧ takes m = some signal) E past state := by
  refine wp_mono (wp_request_of fun _ _ => .of_quiet h (by simp [Acts])) ?_ (fun _ _ _ h => h)
  rintro interrupt _ _ ⟨now, hanswer, rfl⟩
  rcases hanswer with ⟨rfl, _⟩ | ⟨signal, rest, _, rfl, _⟩
  · exact .inl ⟨rfl, now, rfl⟩
  · exact .inr ⟨signal, _, rfl, rfl, rfl, rfl⟩

/-- Counting the signal just taken. -/
theorem wp_increment {m : Moment inbox} {signal : ShutdownSignal} (h : Tallied count past)
    (htakes : takes m = some signal) :
    wp inbox (Proper mode) (increment count)
      (fun count' past' _ => count' = count + 1 ∧ Tallied count' past' ∧
        ∃ shown, takes shown = none ∧ reads shown = none ∧ past' = past ++ [m] ++ [shown])
      E (past ++ [m]) state := by
  refine wp_seq (wp_request_of fun _ _ => .of_shows rfl) ?_
  rintro _ _ _ ⟨now, _, rfl⟩
  exact ⟨rfl, h.bump htakes rfl, _, rfl, rfl, rfl⟩

/-- The counter keeps up with the signals taken while polling. -/
theorem wp_countReceived {interrupt : Interrupt} {past' : Trace inbox}
    (h : Tallied count past) (hbegun : Begun past)
    (hinterrupt : (interrupt = .elapsed ∧
        ∃ now, past' = past ++ [⟨now, .pause .poll, .elapsed⟩]) ∨
      ∃ signal m, interrupt = .received (some signal) ∧ past' = past ++ [m] ∧
        m.op = .pause .poll ∧ takes m = some signal) :
    wp inbox (Proper mode) (countReceived interrupt count)
      (fun count past _ => Tallied count past ∧ Begun past) E past' state := by
  rcases hinterrupt with ⟨rfl, now, rfl⟩ | ⟨signal, m, rfl, rfl, hop, htakes⟩
  · exact ⟨h.next rfl rfl, hbegun.next rfl⟩
  · refine wp_mono (wp_increment h htakes) ?_ (fun _ _ _ h => h)
    rintro _ _ _ ⟨rfl, htallied, shown, hshown, _, rfl⟩
    exact ⟨htallied, (Begun.of_takes htakes (by simp [hop])).next hshown⟩

/-- The polling keeps the count, and what it finds was the last thing read. By induction on the
attempts left. -/
theorem wp_pollTarget (left : Nat) (h : Tallied count past) (hbegun : Begun past) :
    wp inbox (Proper mode) (pollTarget left count)
      (fun result past _ => Tallied result.2 past ∧ Begun past ∧
        ∀ target, result.1 = .found target → Found result.2 target past) E past state := by
  induction left generalizing count past state with
  | zero => exact ⟨h, hbegun, nofun⟩
  | succ left ih =>
      refine wp_seq (wp_backendState h) ?_
      rintro answer _ state ⟨h, m, rfl, htakes, hreads⟩
      have hbegun := hbegun.next htakes
      cases answer with
      | error err =>
          refine wp_seq (wp_logControl h) ?_
          rintro _ _ state ⟨l, hl, rfl⟩
          exact ⟨h.logs hl, hbegun.next hl.takes, nofun⟩
      | ok s =>
          refine wp_ite.2
            ⟨fun hworth => ⟨h, hbegun, ?_⟩, fun _ => wp_ite.2 ⟨fun _ => ?_, fun _ => ?_⟩⟩
          · rintro _ ⟨⟩
            exact ⟨hworth, past, m, rfl, hreads⟩
          · exact ⟨h, hbegun, nofun⟩
          · -- nothing to act on yet: a signal taken in the pause counts
            refine wp_seq (wp_pauseOrRecv h) fun interrupt past' state hinterrupt => ?_
            refine wp_seq (wp_countReceived h hbegun hinterrupt) fun count past state h => ?_
            exact ih h.1 h.2

/-- The terminate call, where it is proper. -/
theorem wp_terminateBackend (h : Tallied count past) (hmode : mode ≠ .finish)
    (hescalate : mode = .cancel → 2 ≤ (taken past).length ∨ Outlasted past)
    (hjudged : Judged past) :
    wp inbox (Proper mode) (do warnFailed (← terminateBackend))
      (fun _ past _ => Tallied count past) E past state := by
  refine wp_seq (wp_request_of fun _ _ => .of_terminate h rfl hmode hescalate hjudged.iff) ?_
  rintro outcome _ state ⟨now, _, rfl⟩
  refine wp_mono (wp_warnFailed (h.next rfl rfl)) ?_ (fun _ _ _ h => h)
  rintro _ _ _ ⟨logs, hlogs, rfl⟩
  exact append_logs Tallied.logs (h.next rfl rfl) hlogs

/-- `terminate`, where the call is proper. -/
theorem wp_terminate {signal : ShutdownSignal} (h : Tallied count past) (hmode : mode ≠ .finish)
    (hescalate : mode = .cancel → 2 ≤ (taken past).length) (hjudged : Judged past) :
    wp inbox (Proper mode) (terminate signal) (fun _ past _ => Tallied count past) E past
      state := by
  refine wp_seq (wp_logControl h) ?_
  rintro _ _ state ⟨l, hl, rfl⟩
  refine wp_terminateBackend (h.logs hl) hmode (fun hcancel => .inl ?_) (hjudged.logs hl)
  rw [taken_append_of_none hl.takes]
  exact hescalate hcancel

/-- The end of the grace period: the backend is terminated if its statement outlasted it. -/
theorem wp_escalate {target : BackendState} {before logs₁ logs₂ : Trace inbox}
    {found cancelled waited : Moment inbox} (hmode : mode ≠ .finish)
    (hpast : past = before ++ [found] ++ logs₁ ++ [cancelled] ++ logs₂ ++ [waited])
    (hfound : reads found = some target) (hcancelled : cancelled.op = .cancel)
    (hwaited : GraceElapsed waited) (hlogs : ∀ m ∈ logs₁ ++ logs₂, Logs m)
    (h : Tallied count past) (hbegun : Begun past) (hguarded : Guarded past) :
    wp inbox (Proper mode) (escalate target) (fun _ past _ => Tallied count past) E past state := by
  refine wp_seq (wp_backendState h) ?_
  rintro answer _ state ⟨h, again, rfl, htakes, hagain⟩
  have hbegun := hbegun.next htakes
  cases answer with
  | error err => exact h
  | ok s =>
      refine wp_ite.2 ⟨fun hsame => ?_, fun _ => h⟩
      have hguarded : Guarded (past ++ [again]) :=
        hguarded.next htakes (by simp [hagain, Except.toOption, hsame.1])
      -- active with the same start of its query, so it is the statement that was cancelled
      have houtlasted : Outlasted (past ++ [again]) :=
        ⟨before, found, logs₁, cancelled, logs₂, waited, again, [], target, s, by simp [hpast],
          hfound, hcancelled, hwaited, hagain, hsame.1, hsame.2, by simpa using hlogs⟩
      have hjudged : Judged (past ++ [again]) := .inl ⟨hguarded, hbegun.awake⟩
      refine wp_seq (wp_logControl h) ?_
      rintro _ _ state ⟨l, hl, rfl⟩
      exact wp_terminateBackend (h.logs hl) hmode (fun _ => .inr (houtlasted.logs hl))
        (hjudged.logs hl)

/-- A cancel with its grace period. -/
theorem wp_cancelTarget {signal : ShutdownSignal} {target : BackendState} (hmode : mode = .cancel)
    (h : Tallied count past) (hbegun : Begun past) (hcount : ¬2 ≤ count)
    (hfound : Found count target past) :
    wp inbox (Proper mode) (cancelTarget signal target count)
      (fun count past _ => Tallied count past) E past state := by
  have hguarded := hfound.guarded h
  have hfinish : mode ≠ .finish := by simp [hmode]
  obtain ⟨_, before, found, rfl, hreads⟩ := hfound
  refine wp_seq (wp_logControl h) ?_
  rintro _ _ state ⟨l, hl, rfl⟩
  have hbegun := hbegun.next hl.takes
  refine wp_seq (wp_request_of fun _ _ =>
    .of_cancel (h.logs hl) rfl hmode hbegun hcount (hguarded.logs hl)) ?_
  rintro outcome _ state ⟨now, _, rfl⟩
  have htallied := (h.logs hl).next (m := ⟨now, .cancel, outcome⟩) rfl rfl
  refine wp_seq (wp_warnFailed htallied) ?_
  rintro _ _ state ⟨logs, hlogs, rfl⟩
  have htallied := append_logs Tallied.logs htallied hlogs
  have hguarded := append_logs Guarded.logs
    ((hguarded.logs hl).next (m := ⟨now, .cancel, outcome⟩) rfl (by simp [reads])) hlogs
  have hbegun := append_logs (P := Begun) (fun h hm => h.next hm.takes)
    (hbegun.next (m := ⟨now, .cancel, outcome⟩) rfl) hlogs
  refine wp_seq (wp_pauseOrRecv htallied) fun interrupt past' state hinterrupt => ?_
  rcases hinterrupt with ⟨rfl, now, rfl⟩ | ⟨signal, m, rfl, rfl, hop, htakes⟩
  · -- the grace period is over, so the state is read once more
    refine wp_seq (wp_escalate hfinish rfl hreads rfl ⟨now, rfl⟩ ?_ (htallied.next rfl rfl)
      (hbegun.next rfl) (hguarded.next rfl (by simp [reads]))) fun _ _ _ h => h
    intro x hx
    rcases List.mem_append.1 hx with hx | hx
    · obtain rfl := List.mem_singleton.1 hx
      exact hl
    · exact hlogs x hx
  · -- the second signal: nothing is read before the backend is terminated
    refine wp_seq (wp_increment htallied htakes) ?_
    rintro _ past state ⟨rfl, htallied, shown, hshown, hshownReads, hpast⟩
    have hunread : Unread past := by
      have hreads : reads m = none := reads_of_op (by simp [hop])
      exact ⟨_, m, [shown], hpast.trans (List.append_assoc _ [m] [shown]), by simp [htakes],
        by simp [hreads, hshownReads]⟩
    have hgrace : InGrace past := by
      rw [InGrace, hpast, last_take_append_of_none hshown, last_take_append htakes]
      exact ⟨m, rfl, hop⟩
    refine wp_seq (wp_terminate htallied hfinish (fun _ => ?_) (.inr ⟨hunread, hgrace⟩))
      fun _ _ _ h => h
    rw [hpast, taken_append_of_none hshown, length_taken_append htakes]
    exact Nat.succ_le_succ hbegun.taken

/-- One signal: the protocol holds through all that follows it. -/
theorem wp_handleSignal {signal : ShutdownSignal} (hmode : mode ≠ .finish) (h : Tallied count past)
    (hbegun : Begun past) :
    wp inbox (Proper mode) (handleSignal mode signal count)
      (fun count past _ => Tallied count past) E past state := by
  refine wp_seq (wp_pollTarget pollAttempts h hbegun) ?_
  rintro ⟨polled, count⟩ past state ⟨h, hbegun, hfound⟩
  cases polled with
  | unreadable => exact h
  | nothing =>
      refine wp_seq (wp_logControl h) ?_
      rintro _ _ _ ⟨l, hl, rfl⟩
      exact h.logs hl
  | found target =>
      have hfound := hfound target rfl
      have hterminate : (mode = .cancel → 2 ≤ (taken past).length) →
          wp inbox (Proper mode) (do terminate signal; pure count)
            (fun count past _ => Tallied count past) E past state := fun hescalate =>
        wp_seq (wp_terminate h hmode hescalate (.inl ⟨hfound.guarded h, hbegun.awake⟩))
          fun _ _ _ h => h
      cases mode with
      | finish => exact absurd rfl hmode
      | terminate => exact hterminate (by simp)
      | cancel =>
          -- the counter is below two for the first signal only, unless it has wrapped
          by_cases hcount : 2 ≤ count
          · have hplan : planAction .cancel count true = .terminate := by simp [planAction, hcount]
            simp only [hplan]
            refine hterminate fun _ => ?_
            have htwo : 2 ≤ count.toNat := by simpa [UInt32.le_iff_toNat_le] using hcount
            have htaken : count.toNat = (taken past).length % 2 ^ 32 := h.taken
            omega
          · have hplan : planAction .cancel count true = .cancel := by simp [planAction, hcount]
            simp only [hplan]
            exact wp_cancelTarget rfl h hbegun hcount hfound

/-- Opening the control connection takes no signal. -/
theorem wp_ensureController {controller : Bool} (h : Tallied count past) (hbegun : Begun past) :
    wp inbox (Proper mode) (ensureController controller)
      (fun _ past _ => Tallied count past ∧ Begun past) E past state := by
  refine wp_ite.2 ⟨fun _ => ⟨h, hbegun⟩, fun _ => ?_⟩
  refine wp_seq (wp_request_of fun _ _ => .of_quiet h (by simp [Acts])) ?_
  rintro answer _ state ⟨now, _, rfl⟩
  have h : Tallied count (past ++ [⟨now, .connect, answer⟩]) := h.next rfl rfl
  have hbegun : Begun (past ++ [⟨now, .connect, answer⟩]) := hbegun.next rfl
  cases answer with
  | ok => exact ⟨h, hbegun⟩
  | error err =>
      refine wp_seq (wp_logControl h) ?_
      rintro _ _ _ ⟨l, hl, rfl⟩
      exact ⟨h.logs hl, hbegun.next hl.takes⟩

/-- The whole watcher. By induction on the signals its loop takes. -/
theorem wp_runWatcher (rounds : Nat) (controller : Bool) (h : Tallied count past) :
    wp inbox (Proper mode) (runWatcher mode rounds controller count) (fun _ _ _ => True) E past
      state := by
  induction rounds generalizing controller count past state with
  | zero => trivial
  | succ rounds ih =>
      refine wp_seq (wp_request_of fun _ _ => .of_quiet h (by simp [Acts])) ?_
      rintro _ _ state ⟨now, ⟨signal, rest, _, rfl, _⟩, rfl⟩
      refine wp_seq (wp_increment h rfl) ?_
      rintro _ _ state ⟨rfl, h, shown, hshown, _, rfl⟩
      have hbegun : Begun (past ++ [⟨now, .recv, some signal⟩] ++ [shown]) :=
        (Begun.of_takes rfl (by simp)).next hshown
      refine wp_ite.2 ⟨fun _ => ih _ h, fun hmode => ?_⟩
      refine wp_seq (wp_ensureController h hbegun) fun controller past state h => ?_
      refine wp_ite.2 ⟨fun _ => ?_, fun _ => ih _ h.1⟩
      exact wp_seq (wp_handleSignal hmode h.1 h.2) fun _ _ _ h => ih _ h

end Parts

/-! ## Runs -/

section Runs

variable {mode : ShutdownMode} {rounds : Nat} {start last : inbox.State} {rest : WatchM Unit}

/-- Every step of every run of the watcher is proper. -/
theorem exec_proper {before after : Trace inbox} {m : Moment inbox}
    (h : Exec inbox start (runWatcher mode rounds false 0) (before ++ m :: after) last rest) :
    Proper mode before m :=
  h.safe (E := fun _ _ _ => True) (wp_runWatcher rounds false .start)

/-- In every run, each cancel and each terminate rests on a reading of a busy backend later than
the last signal taken, if and only if that signal did not come during a grace period. -/
theorem guarded_iff_not_in_grace {before after : Trace inbox} {m : Moment inbox}
    (h : Exec inbox start (runWatcher mode rounds false 0) (before ++ m :: after) last rest)
    (hacts : Acts m) : Guarded before ↔ ¬InGrace before :=
  (exec_proper h).2 hacts

/-- An operation takes the head of the queue, or none. -/
theorem queue_of_answers {op : ControlOp} {answer : op.Answer} {before after : Inbox}
    (h : before.Answers op answer after) :
    before.queue = (takes (W := inbox) ⟨before, op, answer⟩).toList ++ after.queue ∧
      after.sent = before.sent := by
  cases op with
  | recv =>
      obtain ⟨signal, rest, hqueue, rfl, rfl⟩ := h
      exact ⟨hqueue, rfl⟩
  | pause =>
      rcases h with ⟨rfl, rfl⟩ | ⟨signal, rest, hqueue, rfl, rfl⟩
      · exact ⟨rfl, rfl⟩
      · exact ⟨hqueue, rfl⟩
  | state =>
      obtain ⟨_, rfl⟩ := h
      exact ⟨rfl, rfl⟩
  | _ =>
      obtain rfl := h
      exact ⟨rfl, rfl⟩

/-- Nothing is lost on the channel: what was sent is what was taken and what still waits. -/
theorem sent_eq_taken_append_queue {ε α : Type} {p q : Prog control ε α} {tr : Trace inbox}
    {before : List ShutdownSignal} (h : Exec inbox start p tr last q)
    (hstart : start.sent = before ++ start.queue) :
    last.sent = before ++ taken tr ++ last.queue := by
  induction h generalizing before with
  | stop => simpa [taken] using hstart
  | drift hdrift _ ih =>
      refine ih ?_
      cases hdrift with
      | send signal => simp [hstart]
      | move activity => exact hstart
  | @act state middle _ op answer _ _ tr hanswer _ ih =>
      obtain ⟨hqueue, hsent⟩ := queue_of_answers hanswer
      have htaken : taken (⟨state, op, answer⟩ :: tr) =
          (takes (W := inbox) ⟨state, op, answer⟩).toList ++ taken tr := by
        cases h : takes (W := inbox) ⟨state, op, answer⟩ <;> simp [taken, h]
      have hmiddle : middle.sent =
          before ++ (takes (W := inbox) ⟨state, op, answer⟩).toList ++ middle.queue := by
        rw [hsent, hstart, hqueue, List.append_assoc]
      rw [htaken, ih hmiddle, List.append_assoc before]

/-- In every run: each signal sent is taken at most once, in order, and each step is permitted. -/
theorem watcher_follows_protocol {queue : List ShutdownSignal} {activity : BackendState}
    {tr : Trace inbox}
    (h : Exec inbox (.opened queue activity) (runWatcher mode rounds false 0) tr last rest) :
    last.sent = taken tr ++ last.queue ∧
      ∀ before m after, tr = before ++ m :: after → Permitted mode before m := by
  refine ⟨by simpa using sent_eq_taken_append_queue h (List.nil_append queue).symm, ?_⟩
  rintro before m after rfl
  exact (exec_proper h).1

end Runs

/-! ## A run with two signals, and a run with many -/

/-- A backend in the middle of a VACUUM. -/
def vacuuming : BackendState := ⟨true, true, some "12:00", fun _ => rfl⟩

/-- A backend between two statements. -/
def idling : BackendState := ⟨false, false, some "12:00", id⟩

/-- Two signals wait for the watcher while a VACUUM runs. -/
def twoSignals : Inbox := .opened [.sigterm, .sigint] vacuuming

/-- The second one, while the session has finished its statement. -/
def oneSignal (activity : BackendState) : Inbox := ⟨[.sigint], [.sigterm, .sigint], activity⟩

/-- None waits any more. -/
def noSignal : Inbox := ⟨[], [.sigterm, .sigint], idling⟩

/-- The steps up to the cancel. -/
def cancelSteps : Trace inbox :=
  [⟨twoSignals, .recv, some .sigterm⟩,
    ⟨oneSignal vacuuming, .counted 1, ()⟩,
    ⟨oneSignal vacuuming, .connect, .ok ()⟩,
    ⟨oneSignal vacuuming, .state, .ok vacuuming⟩,
    ⟨oneSignal vacuuming, .log (.cancelling .sigterm), ()⟩]

/-- The cancel, which ends the statement, and the second signal in the grace period. -/
def interruptSteps : Trace inbox :=
  [⟨oneSignal vacuuming, .cancel, .ok true⟩,
    ⟨oneSignal idling, .pause .grace, .received (some .sigint)⟩,
    ⟨noSignal, .counted 2, ()⟩,
    ⟨noSignal, .log (.terminating .sigterm), ()⟩]

/-- The watcher cancels the statement, and then terminates the idle session. -/
theorem exec_two_signals :
    Exec inbox twoSignals (runWatcher .cancel 1 false 0)
      (cancelSteps ++ interruptSteps ++ [⟨noSignal, .terminate, .ok true⟩]) noSignal (.pure ()) :=
  .act ⟨_, _, rfl, rfl, rfl⟩ <| .act rfl <| .act rfl <| .act ⟨.inl rfl, rfl⟩ <| .act rfl <|
  .act rfl <| .drift (.move _ idling) <| .act (.inr ⟨_, _, rfl, rfl, rfl⟩) <| .act rfl <|
  .act rfl <| .act rfl <| .stop _ _

/-- The cancel rests on a reading of the VACUUM. -/
theorem cancel_is_guarded : Guarded cancelSteps ↔ ¬InGrace cancelSteps := by
  have h : Exec inbox twoSignals (runWatcher .cancel 1 false 0)
      (cancelSteps ++ ⟨oneSignal vacuuming, .cancel, .ok true⟩ ::
        (interruptSteps.tail ++ [⟨noSignal, .terminate, .ok true⟩])) noSignal (.pure ()) :=
    exec_two_signals
  exact guarded_iff_not_in_grace h (.inl rfl)

/-- The terminate rests on no reading since the second signal. -/
theorem second_signal_terminates_unread :
    ¬∀ (mode : ShutdownMode) (rounds : Nat) (start last : inbox.State) (rest : WatchM Unit)
      (before after : Trace inbox) (m : Moment inbox),
      Exec inbox start (runWatcher mode rounds false 0) (before ++ m :: after) last rest →
      Acts m → Guarded before := by
  intro h
  have hguarded := h _ _ _ _ _ _ [] _ exec_two_signals (.inr rfl)
  have hunread : Unread (cancelSteps ++ interruptSteps) :=
    ⟨cancelSteps ++ [⟨oneSignal vacuuming, .cancel, .ok true⟩], _, _, rfl, nofun,
      by simp [reads]⟩
  exact hunread.not_guarded hguarded

/-- The protocol holds in this run. -/
theorem two_signals_follow_protocol :
    noSignal.sent = taken (cancelSteps ++ interruptSteps ++ [⟨noSignal, .terminate, .ok true⟩]) ++
        noSignal.queue ∧
      ∀ before m after, cancelSteps ++ interruptSteps ++ [⟨noSignal, .terminate, .ok true⟩] =
        before ++ m :: after → Permitted .cancel before m :=
  watcher_follows_protocol exec_two_signals

/-- In finish mode the watcher takes one signal after the other. By induction on their number. -/
theorem exec_finish (n : Nat) (count : UInt32) (sent : List ShutdownSignal) :
    ∃ before m last rest, (taken before).length = n ∧ shows m = none ∧
      Exec inbox ⟨List.replicate (n + 1) .sigterm, sent, idling⟩
        (runWatcher .finish (n + 1) false count) (before ++ [m]) last rest := by
  induction n generalizing count with
  | zero => exact ⟨[], _, _, _, rfl, rfl, .act ⟨_, _, rfl, rfl, rfl⟩ (.stop _ _)⟩
  | succ n ih =>
      obtain ⟨before, m, last, rest, hlength, hshows, hexec⟩ := ih (count + 1)
      exact ⟨⟨_, .recv, some .sigterm⟩ :: ⟨_, .counted (count + 1), ()⟩ :: before, m, last, rest,
        congrArg Nat.succ hlength, hshows,
        .act ⟨_, _, List.replicate_succ, rfl, rfl⟩ (.act rfl hexec)⟩

/-- After `2 ^ 32` signals the counter is at zero again. -/
theorem counter_wraps :
    ¬∀ (mode : ShutdownMode) (rounds : Nat) (queue : List ShutdownSignal)
      (activity : BackendState) (last : inbox.State) (rest : WatchM Unit)
      (before after : Trace inbox) (m : Moment inbox),
      Exec inbox (.opened queue activity) (runWatcher mode rounds false 0) (before ++ m :: after)
        last rest →
      shows m = none → (counter before).toNat = (taken before).length := by
  intro h
  obtain ⟨before, m, last, rest, hlength, hshows, hexec⟩ :=
    exec_finish (2 ^ 32) 0 (List.replicate (2 ^ 32 + 1) .sigterm)
  have hcounter := h _ _ _ _ _ _ _ _ _ hexec hshows
  have hcounts := (exec_proper hexec).1.counts hshows
  omega

end PgMaintainer
