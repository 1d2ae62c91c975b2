import PgMaintainer.Interaction.World

/-!
# Loops over a list, with early exit

`sweep body i xs state` is `for (i, x) in xs.iter().enumerate()` with a state: the body says
after each element whether to go on or to break. The rules carry an invariant from one element
to the next; a break leaves with whatever the body established for it.
-/

namespace Interaction

variable {S : Signature} {ε ι σ : Type}

/-- How one pass of a loop body ends: go on to the next element, or break. -/
inductive Flow (σ : Type) where
  | next (state : σ)
  | stop (state : σ)

namespace Flow

/-- The state with which the pass ended. -/
def state : Flow σ → σ
  | .next state => state
  | .stop state => state

/-- What must hold to go on, and what to break. -/
def Sat (goOn done : σ → Prop) : Flow σ → Prop
  | .next state => goOn state
  | .stop state => done state

/-- The pass did not break. -/
abbrev GoesOn (flow : Flow σ) : Prop := flow.Sat (fun _ => True) (fun _ => False)

end Flow

namespace Prog

/-- Run `body` over the list, numbering the elements from `i`, until it breaks. -/
def sweep (body : Nat → ι → σ → Prog S ε (Flow σ)) : Nat → List ι → σ → Prog S ε σ
  | _, [], state => pure state
  | i, x :: xs, state => do
    match ← body i x state with
    | .next state => sweep body (i + 1) xs state
    | .stop state => pure state

variable {body : Nat → ι → σ → Prog S ε (Flow σ)}

/-- If each pass performs only `φ`, keeps `I` and breaks with `D`, so does the loop. -/
theorem all_sweep {φ : S.Op → Prop} {I D : σ → Prop} {E : ε → Prop} {xs : List ι}
    (hbody : ∀ i x state, x ∈ xs → I state → (body i x state).All φ (Flow.Sat I D) E)
    {i : Nat} {state : σ} (hI : I state) :
    (sweep body i xs state).All φ (fun state => I state ∨ D state) E := by
  induction xs generalizing i state with
  | nil => exact .inl hI
  | cons x xs ih =>
      refine all_bind.2 ((hbody i x state (by simp) hI).mono (fun _ h => h) ?_ (fun _ h => h))
      rintro (next | stop) h
      · exact ih (fun i y state hy => hbody i y state (by simp [hy])) h
      · exact .inr h

/-- The loop performs only what the passes perform. -/
theorem only_sweep {φ : S.Op → Prop} {xs : List ι}
    (hbody : ∀ i x state, x ∈ xs → (body i x state).Only φ) {i : Nat} {state : σ} :
    (sweep body i xs state).Only φ := by
  have h : (sweep body i xs state).All φ (fun _ => True ∨ True) (fun _ => True) :=
    all_sweep (fun i x state hx _ => (hbody i x state hx).mono (fun _ h => h)
      (fun flow _ => by cases flow <;> trivial) (fun _ h => h)) trivial
  exact h.mono (fun _ h => h) (fun _ _ => trivial) (fun _ h => h)

end Prog

/-- The loop rule: `I done` holds before every pass, where `done` are the elements whose pass
went on, and `D` holds where the loop breaks. -/
theorem wp_sweep {W : World S} {ok : Trace W → Moment W → Prop}
    {body : Nat → ι → σ → Prog S ε (Flow σ)} {xs : List ι}
    {I : List ι → σ → Trace W → W.State → Prop} {D : σ → Trace W → W.State → Prop}
    {E : ε → Trace W → W.State → Prop}
    (hbody : ∀ done x rest, xs = done ++ x :: rest → ∀ i state past st, I done state past st →
      wp W ok (body i x state) (fun flow past st =>
        flow.Sat (fun state => I (done ++ [x]) state past st) (fun state => D state past st))
        E past st)
    {i : Nat} {state : σ} {past : Trace W} {st : W.State} (hI : I [] state past st) :
    wp W ok (.sweep body i xs state) (fun state past st => I xs state past st ∨ D state past st)
      E past st := by
  -- on the entries that are left, for any list of those that are done
  suffices h : ∀ rest done, xs = done ++ rest → ∀ i state past st, I done state past st →
      wp W ok (.sweep body i rest state)
        (fun state past st => I xs state past st ∨ D state past st) E past st from
    h xs [] rfl i state past st hI
  intro rest
  induction rest with
  | nil =>
      intro done hdone i state past st hI
      obtain rfl : xs = done := by simpa using hdone
      exact .inl hI
  | cons x rest ih =>
      intro done hdone i state past st hI
      refine wp_bind.2 (wp_mono (hbody done x rest hdone i state past st hI) ?_ (fun _ _ _ h => h))
      rintro (next | stop) past st h
      · exact ih (done ++ [x]) (by simp [hdone]) (i + 1) next past st h
      · exact .inr h

end Interaction
