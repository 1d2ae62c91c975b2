import PgMaintainer.Run.Footprint
import PgMaintainer.Run.Server

/-!
# Runs that lose their connection

`severed` is the world in which no shutdown is requested and one call of the phases may find
the session dead: it fails with a lost-connection error, and from then on every call does and
the driver knows the session to be closed. Best-effort calls may fail in any way.
-/

namespace PgMaintainer

open Interaction

/-- This answer is a lost connection. -/
def LostAnswer {α : Type} (answer : Except PgError α) : Prop :=
  ∃ err, answer = .error err ∧ isConnectionLostPg err = true

/-- The session: the rows the classic needs-vacuum query returned last, and the call that found
the session dead. -/
structure Link where
  classic : List NeedsVacuumTableInfo := []
  lost : Option Call := none
  deriving DecidableEq

namespace Link

/-- The rows of the classic query, after an operation. -/
def classicAfter (link : Link) : (op : Op) → op.Answer → List NeedsVacuumTableInfo
  | .call (.findNeedsVacuum ..), .ok rows => rows
  | _, _ => link.classic

/-- How a session that was lost answers. -/
def Dead : (op : Op) → op.Answer → Prop
  | .call _, answer => LostAnswer answer
  | .isClosed, closed => closed = true
  | _, _ => True

/-- The operation finds the session dead. -/
def Severs (c : Call) : (op : Op) → op.Answer → Prop
  | .call c', answer => c = c' ∧ ¬c'.BestEffort ∧ LostAnswer answer
  | _, _ => False

/-- What an operation may do to the session. -/
def Step (link : Link) (op : Op) (answer : op.Answer) (after : Link) : Prop :=
  op.Undisturbed answer ∧
    match link.lost with
    | some _ => Dead op answer ∧ after = link
    | none => after = { link with classic := link.classicAfter op answer } ∨
        ∃ c, Severs c op answer ∧ after = { link with lost := some c }

end Link

/-- The world in which the connection may be lost. -/
abbrev severed : World session where
  State := Link
  Drift _ _ := False
  Answers := Link.Step

/-- Nobody else touches the link. -/
theorem severed_drifts {before after : severed.State} (h : severed.Drifts before after) :
    after = before := by
  induction h with
  | refl => rfl
  | tail _ hstep => exact hstep.elim

/-- An operation that makes no call. -/
def Op.Local : Op → Prop
  | .call _ => False
  | _ => True

section Rules

variable {ε α : Type} {past : Trace severed} {link : severed.State}

/-- Nothing is asked of single operations. -/
abbrev unchecked : Trace severed → Moment severed → Prop := fun _ _ => True

/-- The session is alive. -/
abbrev Alive {α : Type} (_ : α) (_ : Trace severed) (link : Link) : Prop := link.lost = none

/-- A call on a live session: it is answered, or finds the session dead. -/
theorem wp_call_alive {c : Call} {Q : Except PgError c.Row → Trace severed → Link → Prop}
    {E : ε → Trace severed → Link → Prop} (h : link.lost = none)
    (hanswer : ∀ answer past, Q answer past
      ⟨link.classicAfter (.call c) answer, none⟩)
    (hlost : ¬c.BestEffort → ∀ err past, isConnectionLostPg err = true →
      Q (.error err) past ⟨link.classic, some c⟩) :
    wp severed unchecked (call c : Prog session ε _) Q E past link := by
  refine wp_call.2 ?_
  rintro now hnow answer after ⟨_, hstep⟩
  obtain rfl := severed_drifts hnow
  rw [h] at hstep
  refine ⟨trivial, ?_⟩
  rcases hstep with rfl | ⟨_, ⟨rfl, hlisted, err, rfl, herr⟩, rfl⟩
  · exact hanswer answer _
  · exact hlost hlisted err _ herr

/-- A call on a dead session fails. -/
theorem wp_call_dead {c : Call} {Q : Except PgError c.Row → Trace severed → Link → Prop}
    {E : ε → Trace severed → Link → Prop} (h : link.lost.isSome)
    (hlost : ∀ err past, isConnectionLostPg err = true → Q (.error err) past link) :
    wp severed unchecked (call c : Prog session ε _) Q E past link := by
  refine wp_call.2 ?_
  rintro now hnow answer after ⟨_, hstep⟩
  obtain rfl := severed_drifts hnow
  obtain ⟨lost, hsome⟩ := Option.isSome_iff_exists.1 h
  rw [hsome] at hstep
  obtain ⟨⟨err, rfl, herr⟩, rfl⟩ := hstep
  exact ⟨trivial, hlost err _ herr⟩

/-- What is no call leaves the session as it is. -/
theorem Link.Step.local {op : Op} {answer : op.Answer} {after : Link}
    (h : link.Step op answer after) (hop : op.Local) : after = link := by
  have hnone : ∀ c, ¬Severs c op answer := by
    intro c hsevers
    cases op with
    | call => exact hop
    | _ => exact hsevers
  have hclassic : link.classicAfter op answer = link.classic := by
    cases op with
    | call => exact hop.elim
    | _ => rfl
  obtain ⟨_, hstep⟩ := h
  split at hstep
  · exact hstep.2
  · rcases hstep with h | ⟨c, hsevers, _⟩
    · rw [h, hclassic]
    · exact absurd hsevers (hnone c)

/-- So does a program of such operations. -/
theorem wp_local {p : Prog session ε α} {F : ε → Prop}
    (hp : p.All Op.Local (fun _ => True) F) {E : ε → Trace severed → Link → Prop}
    (herr : ∀ err past, F err → E err past link) :
    wp severed unchecked p (fun _ _ after => after = link) E past link := by
  refine wp_mono (wp_of_all (I := fun _ after => after = link) hp ?_ rfl) (fun _ _ _ h => h.2) ?_
  · rintro past _ now rfl hnow op answer after hop hstep
    obtain rfl := severed_drifts hnow
    exact ⟨trivial, hstep.local hop⟩
  · rintro err past _ ⟨hF, rfl⟩
    exact herr err past hF

/-- If it cannot fail, no more is needed. -/
theorem wp_local_total {p : Prog session ε α}
    (hp : p.All Op.Local (fun _ => True) (fun _ => False)) {E : ε → Trace severed → Link → Prop} :
    wp severed unchecked p (fun _ _ after => after = link) E past link :=
  wp_local hp fun _ _ => False.elim

/-- No shutdown is requested. -/
theorem shutdown_requested_severed {E : ε → Trace severed → Link → Prop} :
    wp severed unchecked shutdownRequested
      (fun requested _ after => requested = false ∧ after = link) E past link := by
  intro now hnow answer after hstep
  obtain rfl := severed_drifts hnow
  exact ⟨trivial, hstep.1, hstep.local trivial⟩

/-- Nor when the exit code is chosen. -/
theorem is_requested_severed {E : ε → Trace severed → Link → Prop} :
    wp severed unchecked isRequested
      (fun requested _ after => requested = false ∧ after = link) E past link := by
  intro now hnow answer after hstep
  obtain rfl := severed_drifts hnow
  exact ⟨trivial, hstep.1, hstep.local trivial⟩

/-- A dead session is known to be closed. -/
theorem is_closed_dead {E : ε → Trace severed → Link → Prop} (h : link.lost.isSome) :
    wp severed unchecked isClosed (fun closed _ after => closed = true ∧ after = link) E past
      link := by
  intro now hnow answer after hstep
  obtain rfl := severed_drifts hnow
  refine ⟨trivial, ?_, hstep.local trivial⟩
  obtain ⟨_, hstep⟩ := hstep
  obtain ⟨lost, hsome⟩ := Option.isSome_iff_exists.1 h
  rw [hsome] at hstep
  exact hstep.1

/-- The exit code of a sequence is that of its second part, once the first has returned. -/
theorem exec_exit_with {W : World session} {p : RunM α} {f : α → RunM Nat} {value : α}
    {before after : Trace W} {state middle last : W.State} {q : Prog session Empty Nat}
    (h : Exec W state p before middle (.pure value))
    (hf : Exec W middle (exitWith (f value)) after last q) :
    Exec W state (exitWith (p >>= f)) (before ++ after) last q := by
  generalize hend : Prog.pure value = r at h
  induction h with
  | stop => exact hend ▸ hf
  | drift hdrift _ ih => exact .drift hdrift (ih hf hend)
  | act hanswer _ ih => exact .act hanswer (ih hf hend)

end Rules

/-! ## A server that is lost -/

namespace Server

variable {ε α : Type}

/-- The server, lost at the call `target`. -/
def lostAt (server : Server) (target : Call) (link : Link) : (op : Op) → op.Answer × Link
  | .call c =>
    match link.lost with
    | some _ => (.error .closed, link)
    | none =>
      if c = target then (.error .closed, { link with lost := some c })
      else (.ok (server.row c),
        { link with classic := link.classicAfter (.call c) (.ok (server.row c)) })
  | .isClosed => (link.lost.isSome, link)
  | op => (server.answer op, link)

/-- It is a server whose connection may be lost. -/
theorem step_lost_at (server : Server) {target : Call} (htarget : ¬target.BestEffort) (link : Link)
    (op : Op) : link.Step op (server.lostAt target link op).1 (server.lostAt target link op).2 := by
  obtain ⟨classic, lost⟩ := link
  cases op with
  | call c =>
      refine ⟨trivial, ?_⟩
      cases lost with
      | some lost => exact ⟨⟨.closed, rfl, rfl⟩, rfl⟩
      | none =>
          by_cases hc : c = target
          · subst hc
            exact .inr ⟨c, ⟨rfl, htarget, .closed, by simp [lostAt], rfl⟩, by simp [lostAt]⟩
          · exact .inl (by simp [lostAt, hc])
  | isClosed =>
      cases lost <;> simp [Link.Step, Op.Undisturbed, lostAt, Link.Dead, Link.classicAfter]
  | _ =>
      cases lost <;>
        simp [Link.Step, Op.Undisturbed, lostAt, answer, Link.Dead, Link.classicAfter]

/-- A part of a run against it is an execution. -/
theorem exec_lost_at (server : Server) {target : Call} (htarget : ¬target.BestEffort)
    (p : Prog session ε α) (link : Link) :
    Exec severed link p (p.play severed (server.lostAt target) link).1
      (p.play severed (server.lostAt target) link).2.1
      (.ofExcept (p.play severed (server.lostAt target) link).2.2) :=
  Prog.exec_play (W := severed) _ (server.step_lost_at htarget) p link

end Server

end PgMaintainer
