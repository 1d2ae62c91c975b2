import PgMaintainer.Interaction.World

/-!
# What a history has led to

An `Observer` is a machine that reads the operations of a program with their answers, one after
the other: the state of a party that the program talks to, or a sum over what it did. `after`
gives its state behind a history. A program whose operations an observer ignores leaves it where
it is.
-/

namespace Interaction

variable {S : Signature} {W : World S} {σ ε α : Type}

/-- A machine that reads operations with their answers. -/
structure Observer (S : Signature) (σ : Type) where
  start : σ
  step : σ → (op : S.Op) → S.Answer op → σ

namespace Observer

variable (O : Observer S σ)

/-- The state of the machine behind a history. -/
def after (past : Trace W) : σ := past.foldl (fun s m => O.step s m.op m.answer) O.start

@[simp] theorem after_nil : O.after ([] : Trace W) = O.start := rfl

@[simp] theorem after_snoc (past : Trace W) (m : Moment W) :
    O.after (past ++ [m]) = O.step (O.after past) m.op m.answer := by
  simp [after]

/-- The machine stays where it is when it reads an operation in `φ`. -/
def Ignores (φ : S.Op → Prop) : Prop := ∀ s op answer, φ op → O.step s op answer = s

variable {O} {φ : S.Op → Prop} {ok : Trace W → Moment W → Prop}

/-- An invariant of the machine's state, kept by operations that it ignores. -/
theorem Ignores.keeps (h : O.Ignores φ) {P : σ → Prop}
    (hok : ∀ past m, P (O.after past) → φ m.op → ok past m) :
    W.Keeps ok φ fun past _ => P (O.after past) := by
  intro past state now hP _ op answer after hop _
  refine ⟨hok past ⟨now, op, answer⟩ hP hop, ?_⟩
  show P (O.after (past ++ [⟨now, op, answer⟩]))
  rw [after_snoc, h _ op answer hop]
  exact hP

/-- A program of ignored operations leaves the machine where it is. -/
theorem Ignores.wp {p : Prog S ε α} (h : O.Ignores φ) (hp : p.Only φ) (P : σ → Prop)
    {past : Trace W} {state : W.State} (hP : P (O.after past)) :
    wp W (fun _ _ => True) p (fun _ past _ => P (O.after past)) (fun _ past _ => P (O.after past))
      past state :=
  wp_of_only hp (h.keeps fun _ _ _ _ => trivial) (fun _ _ _ h => h) hP

/-- One operation moves the machine by one step. -/
theorem wp_request {op : S.Op} {past : Trace W} {state : W.State} {s : σ} (hs : O.after past = s) :
    Interaction.wp W (fun _ _ => True) (.request op : Prog S ε _)
      (fun answer past _ => O.after past = O.step s op answer) (fun _ _ _ => False) past state := by
  intro now _ answer after _
  refine ⟨trivial, ?_⟩
  rw [wp_pure, after_snoc, hs]

end Observer

end Interaction
