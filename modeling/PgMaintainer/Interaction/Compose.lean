import PgMaintainer.Interaction.Loop

/-!
# Programs put together from blocks

Where an invariant is kept by most operations of a program, one by one, and by a few parts only as
a whole, the program is read as `Composed`: operations, and blocks whose inside is of no concern.
-/

namespace Interaction

variable {S : Signature} {ε ε' α β ι σ : Type}

/-- `p` is put together from operations in `φ` and from blocks. -/
inductive Composed (φ : S.Op → Prop) (Block : (ε α : Type) → Prog S ε α → Prop) :
    {ε α : Type} → Prog S ε α → Prop where
  | only {ε α : Type} {p : Prog S ε α} : p.Only φ → Composed φ Block p
  | block {ε α : Type} {p : Prog S ε α} : Block ε α p → Composed φ Block p
  | bind {ε α β : Type} {p : Prog S ε α} {f : α → Prog S ε β} :
      Composed φ Block p → (∀ value, Composed φ Block (f value)) → Composed φ Block (p >>= f)
  | attempt {ε ε' α : Type} {p : Prog S ε α} :
      Composed φ Block p → Composed φ Block (p.attempt : Prog S ε' (Except ε α))

namespace Composed

variable {φ : S.Op → Prop} {Block : (ε α : Type) → Prog S ε α → Prop}

/-- A case distinction is composed if both cases are. -/
theorem ite {c : Prop} [Decidable c] {p q : Prog S ε α} (hp : c → Composed φ Block p)
    (hq : ¬c → Composed φ Block q) : Composed φ Block (if c then p else q) := by
  by_cases hc : c
  · rw [if_pos hc]
    exact hp hc
  · rw [if_neg hc]
    exact hq hc

/-- A loop is put together from its passes. By induction on the elements left. -/
theorem sweep {body : Nat → ι → σ → Prog S ε (Flow σ)} {xs : List ι}
    (hbody : ∀ i x state, x ∈ xs → Composed φ Block (body i x state)) (i : Nat) (state : σ) :
    Composed φ Block (Prog.sweep body i xs state) := by
  induction xs generalizing i state with
  | nil => exact .only trivial
  | cons x xs ih =>
      refine .bind (hbody i x state List.mem_cons_self) fun flow => ?_
      cases flow with
      | next state =>
          exact ih (fun i y state hy => hbody i y state (List.mem_cons_of_mem _ hy)) (i + 1) state
      | stop state => exact .only trivial

/-- What the operations and the blocks keep, the program keeps: by induction on how it is put
together. -/
theorem keeps {W : World S} {ok : Trace W → Moment W → Prop} {I : Trace W → W.State → Prop}
    {p : Prog S ε α} (h : Composed φ Block p) (hkeep : W.Keeps ok φ I)
    (hblock : ∀ ε α (p : Prog S ε α), Block ε α p → ∀ past state, I past state →
      wp W ok p (fun _ => I) (fun _ => I) past state)
    {past : Trace W} {state : W.State} (hI : I past state) :
    wp W ok p (fun _ => I) (fun _ => I) past state := by
  induction h generalizing past state with
  | only hp => exact wp_of_only hp hkeep (fun _ _ _ h => h) hI
  | block hp => exact hblock _ _ _ hp past state hI
  | bind _ _ ihp ihf => exact wp_seq (ihp hI) fun value past state hI => ihf value hI
  | attempt _ ih => exact wp_attempt.2 (ih hI)

end Composed

end Interaction
