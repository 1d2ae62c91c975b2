import PgMaintainer.Interaction.Loop

/-!
# Programs that a bad answer ends

`p.Aborts bad` says that after an answer in `bad` the program fails without another operation,
so in an execution of it such an answer can only be the last. Sequencing and loops keep this:
an error goes up past everything that was still to come. `p.Honest bad` is the converse: `p` fails
after an answer in `bad` only.
-/

namespace Interaction

variable {S : Signature} {ε ε' α β ι σ : Type} {bad : (op : S.Op) → S.Answer op → Prop}

namespace Prog

/-- After an answer in `bad`, `p` fails at once. -/
def Aborts (bad : (op : S.Op) → S.Answer op → Prop) : Prog S ε α → Prop
  | .pure _ | .fail _ => True
  | .perform op next =>
      ∀ answer, (bad op answer → ∃ error, next answer = .fail error) ∧ (next answer).Aborts bad

@[simp] theorem aborts_pure {value : α} : (.pure value : Prog S ε α).Aborts bad := trivial

@[simp] theorem aborts_fail {error : ε} : (.fail error : Prog S ε α).Aborts bad := trivial

@[simp] theorem aborts_ite {c : Prop} [Decidable c] {p q : Prog S ε α} :
    (if c then p else q).Aborts bad ↔ (c → p.Aborts bad) ∧ (¬c → q.Aborts bad) := by
  split <;> simp [*]

/-- An error of the first part skips the second. -/
theorem Aborts.bind {p : Prog S ε α} {f : α → Prog S ε β} (hp : p.Aborts bad)
    (hf : ∀ value, (f value).Aborts bad) : (p >>= f).Aborts bad := by
  induction p with
  | pure value => exact hf value
  | fail => trivial
  | perform op next ih =>
      intro answer
      refine ⟨fun hbad => ?_, ih answer (hp answer).2⟩
      obtain ⟨error, herror⟩ := (hp answer).1 hbad
      exact ⟨error, congrArg (Prog.bind · f) herror⟩

/-- A program that gets no bad answer. -/
theorem Only.aborts {φ : S.Op → Prop} {p : Prog S ε α} (hp : p.Only φ)
    (hφ : ∀ op answer, φ op → ¬bad op answer) : p.Aborts bad := by
  induction p with
  | pure => trivial
  | fail => trivial
  | perform op next ih => exact fun answer => ⟨fun h => (hφ op answer hp.1 h).elim, ih _ (hp.2 _)⟩

/-- A loop aborts if its passes do. -/
theorem Aborts.sweep {body : Nat → ι → σ → Prog S ε (Flow σ)}
    (hbody : ∀ i x state, (body i x state).Aborts bad) (i : Nat) (xs : List ι) (state : σ) :
    (sweep body i xs state).Aborts bad := by
  induction xs generalizing i state with
  | nil => trivial
  | cons x xs ih =>
      refine (hbody i x state).bind fun flow => ?_
      cases flow with
      | next state => exact ih _ _
      | stop state => trivial

/-- `p` fails only where an answer in `bad` has just come. -/
def Honest (bad : (op : S.Op) → S.Answer op → Prop) : Prog S ε α → Prop
  | .pure _ => True
  | .fail _ => False
  | .perform op next =>
      ∀ answer, (bad op answer ∧ ∃ error, next answer = .fail error) ∨ (next answer).Honest bad

@[simp] theorem honest_pure {value : α} : (.pure value : Prog S ε α).Honest bad := trivial

@[simp] theorem honest_ite {c : Prop} [Decidable c] {p q : Prog S ε α} :
    (if c then p else q).Honest bad ↔ (c → p.Honest bad) ∧ (¬c → q.Honest bad) := by
  split <;> simp [*]

/-- Two programs in a row fail for no other reason if neither does. -/
theorem Honest.bind {p : Prog S ε α} {f : α → Prog S ε β} (hp : p.Honest bad)
    (hf : ∀ value, (f value).Honest bad) : (p >>= f).Honest bad := by
  induction p with
  | pure value => exact hf value
  | fail => exact hp.elim
  | perform op next ih =>
      intro answer
      rcases hp answer with ⟨hbad, error, herror⟩ | hnext
      · exact .inl ⟨hbad, error, congrArg (Prog.bind · f) herror⟩
      · exact .inr (ih answer hnext)

end Prog

/-- An honest program keeps what its operations keep, and leaves with an error only after a bad
answer. -/
theorem wp_of_honest {W : World S} {ok : Trace W → Moment W → Prop} {φ : S.Op → Prop}
    {p : Prog S ε α} {I : Trace W → W.State → Prop} {E : ε → Trace W → W.State → Prop}
    {past : Trace W} {state : W.State} (hp : p.Only φ) (honest : p.Honest bad)
    (hkeep : W.Keeps ok φ I)
    (herr : ∀ error past state, I past state → (∃ m ∈ past, bad m.op m.answer) →
      E error past state)
    (hI : I past state) : wp W ok p (fun _ => I) E past state := by
  induction p generalizing past state with
  | pure => exact hI
  | fail => exact honest.elim
  | perform op next ih =>
      intro now hnow answer after hanswer
      have hstep := hkeep past state now hI hnow op answer after hp.1 hanswer
      refine ⟨hstep.1, ?_⟩
      rcases honest answer with ⟨hbad, error, herror⟩ | hnext
      · rw [herror]
        exact herr error _ _ hstep.2 ⟨⟨now, op, answer⟩, by simp, hbad⟩
      · exact ih answer (hp.2 answer) hnext hstep.2

namespace Exec

variable {W : World S} {state last : W.State}

/-- A program that failed performs nothing. -/
theorem of_fail {error : ε} {q : Prog S ε α} {tr : Trace W}
    (h : Exec W state (.fail error) tr last q) : tr = [] ∧ q = .fail error := by
  generalize hp : Prog.fail error = p at h
  induction h with
  | stop => exact ⟨rfl, rfl⟩
  | drift _ _ ih => exact ih hp
  | act => simp at hp

/-- In an execution, a bad answer is the last one, and an error is what it leaves. -/
theorem aborted {p q : Prog S ε α} {before after : Trace W} {m : Moment W}
    (h : Exec W state p (before ++ m :: after) last q) (hp : p.Aborts bad)
    (hbad : bad m.op m.answer) : after = [] ∧ ∃ error, q = .fail error := by
  generalize htr : before ++ m :: after = tr at h
  induction h generalizing before with
  | stop => simp at htr
  | drift _ _ ih => exact ih hp htr
  | @act _ _ _ op answer next q tr _ hrest ih =>
      cases before with
      | nil =>
          obtain ⟨rfl, rfl⟩ := List.cons.inj htr
          obtain ⟨error, herror⟩ := (hp answer).1 hbad
          obtain ⟨hnil, hq⟩ := (herror ▸ hrest).of_fail
          exact ⟨hnil, error, hq⟩
      | cons first before =>
          obtain ⟨_, htail⟩ := List.cons.inj htr
          exact ih (hp answer).2 htail

end Exec

end Interaction
