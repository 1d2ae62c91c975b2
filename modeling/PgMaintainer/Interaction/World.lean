import Mathlib.Logic.Relation
import PgMaintainer.Interaction.Prog

/-!
# Executions of a program in a world shared with others

A `World` says what the program's operations may answer and what the other parties may do
meanwhile. `Exec` interleaves the two: any number of `Drift` steps of the others may happen
between two operations. A trace lists the operations with their answers, each with the state
it was performed in, so a property of "what happened before" is a property of a prefix.

`wp` is the weakest precondition over such executions. Its `ok` argument is a safety
condition, checked at every operation against the history so far; the two postconditions are
for a returned value and for an error. `Exec.sound` is the link to executions.
-/

namespace Interaction

variable {S : Signature} {ε ε' α β : Type}

/-- Where a program runs: the state, the steps of the other parties, and the answers each
operation may get, with the state after it. -/
structure World (S : Signature) where
  State : Type
  Drift : State → State → Prop
  Answers : State → (op : S.Op) → S.Answer op → State → Prop

/-- One performed operation: the state it found, and its answer. -/
structure Moment (W : World S) where
  state : W.State
  op : S.Op
  answer : S.Answer op

/-- What has been performed so far, oldest first. -/
abbrev Trace (W : World S) := List (Moment W)

namespace World

/-- Any number of steps of the other parties. -/
abbrev Drifts (W : World S) : W.State → W.State → Prop := Relation.ReflTransGen W.Drift

/-- Steps of the other parties and operations of the program, in any number and order. -/
abbrev Reaches (W : World S) (φ : S.Op → Prop) : W.State → W.State → Prop :=
  Relation.ReflTransGen fun before after =>
    W.Drift before after ∨ ∃ op answer, φ op ∧ W.Answers before op answer after

/-- The world that has no state and no other party, and may give any answer. -/
def free (S : Signature) : World S where
  State := Unit
  Drift _ _ := False
  Answers _ _ _ _ := True

/-- The same with a state, which any answer may change. -/
def recalling (S : Signature) (σ : Type) : World S where
  State := σ
  Drift _ _ := False
  Answers _ _ _ _ := True

end World

variable {W : World S}

/-- A fact about the trace that later steps cannot undo. -/
def Lasting (P : Trace W → Prop) : Prop := ∀ past more, P past → P (past ++ more)

namespace Lasting

/-- Two facts that last. -/
theorem and {P Q : Trace W → Prop} (hP : Lasting P) (hQ : Lasting Q) :
    Lasting fun past => P past ∧ Q past :=
  fun past more h => ⟨hP past more h.1, hQ past more h.2⟩

/-- A fact for every index, if each of them lasts. -/
theorem all {ι : Type} {P : ι → Trace W → Prop} (h : ∀ i, Lasting (P i)) :
    Lasting fun past => ∀ i, P i past := fun past more hp i => h i past more (hp i)

/-- A fact for some index, if each of them lasts. -/
theorem any {ι : Type} {P : ι → Trace W → Prop} (h : ∀ i, Lasting (P i)) :
    Lasting fun past => ∃ i, P i past := fun past more ⟨i, hp⟩ => ⟨i, h i past more hp⟩

/-- What is no matter of the trace. -/
theorem const (p : Prop) : Lasting fun _ : Trace W => p := fun _ _ hp => hp

end Lasting

/-- `Exec W s p tr t q`: started in `s`, the program `p` performs `tr`, the other parties act
in between, and the state is `t` with `q` left to run. -/
inductive Exec (W : World S) :
    W.State → Prog S ε α → Trace W → W.State → Prog S ε α → Prop where
  | stop (state : W.State) (p : Prog S ε α) : Exec W state p [] state p
  | drift {state middle last : W.State} {p q : Prog S ε α} {tr : Trace W} :
      W.Drift state middle → Exec W middle p tr last q → Exec W state p tr last q
  | act {state middle last : W.State} {op : S.Op} {answer : S.Answer op}
      {next : S.Answer op → Prog S ε α} {q : Prog S ε α} {tr : Trace W} :
      W.Answers state op answer middle → Exec W middle (next answer) tr last q →
      Exec W state (.perform op next) (⟨state, op, answer⟩ :: tr) last q

/-- Every operation of `tr`, performed after `past`, satisfies the safety condition. -/
def Accepts (ok : Trace W → Moment W → Prop) : Trace W → Trace W → Prop
  | _, [] => True
  | past, now :: tr => ok past now ∧ Accepts ok (past ++ [now]) tr

/-- An accepted trace is safe wherever it is cut. -/
theorem Accepts.at {ok : Trace W → Moment W → Prop} {past before after : Trace W}
    {now : Moment W} (h : Accepts ok past (before ++ now :: after)) : ok (past ++ before) now := by
  induction before generalizing past with
  | nil => simpa using h.1
  | cons first before ih => simpa using ih h.2

/-- What came before a place of a trace, and what came after. -/
theorem trace_split {tr : Trace W} {i : Nat} {now : Moment W} (hi : tr[i]? = some now) :
    tr = tr.take i ++ now :: tr.drop (i + 1) := by
  obtain ⟨hlt, rfl⟩ := List.getElem?_eq_some_iff.1 hi
  simp

/-- An accepted trace is safe at every place. -/
theorem Accepts.get {ok : Trace W → Moment W → Prop} {tr : Trace W} {i : Nat} {now : Moment W}
    (h : Accepts ok [] tr) (hi : tr[i]? = some now) : ok (tr.take i) now := by
  rw [trace_split hi] at h
  simpa using h.at

/-- A trace is accepted if it is up to its last operation, and that is safe. -/
theorem accepts_append {ok : Trace W → Moment W → Prop} {past tr : Trace W} {now : Moment W} :
    Accepts ok past (tr ++ [now]) ↔ Accepts ok past tr ∧ ok (past ++ tr) now := by
  induction tr generalizing past with
  | nil => simp [Accepts]
  | cons first tr ih =>
      rw [List.cons_append, Accepts, ih, Accepts, and_assoc, List.append_assoc]
      rfl

/-- A weaker condition accepts more. -/
theorem Accepts.mono {ok ok' : Trace W → Moment W → Prop} {past tr : Trace W}
    (h : Accepts ok past tr) (hok : ∀ past m, ok past m → ok' past m) : Accepts ok' past tr := by
  induction tr generalizing past with
  | nil => trivial
  | cons m tr ih => exact ⟨hok _ _ h.1, ih h.2⟩

/-- The weakest precondition of `p` over executions in `W`, after the operations `past`. -/
def wp (W : World S) (ok : Trace W → Moment W → Prop) :
    Prog S ε α → (α → Trace W → W.State → Prop) → (ε → Trace W → W.State → Prop) →
      Trace W → W.State → Prop
  | .pure value, Q, _, past, state => Q value past state
  | .fail error, _, E, past, state => E error past state
  | .perform op next, Q, E, past, state =>
      ∀ now, W.Drifts state now → ∀ answer after, W.Answers now op answer after →
        ok past ⟨now, op, answer⟩ ∧
          wp W ok (next answer) Q E (past ++ [⟨now, op, answer⟩]) after

/-- `I` holds again after any steps of the other parties and one operation in `φ`, and that
operation is safe. -/
def World.Keeps (W : World S) (ok : Trace W → Moment W → Prop) (φ : S.Op → Prop)
    (I : Trace W → W.State → Prop) : Prop :=
  ∀ past state now, I past state → W.Drifts state now →
    ∀ op answer after, φ op → W.Answers now op answer after →
      ok past ⟨now, op, answer⟩ ∧ I (past ++ [⟨now, op, answer⟩]) after

/-- An invariant is kept by fewer operations. -/
theorem World.Keeps.mono {ok : Trace W → Moment W → Prop} {φ ψ : S.Op → Prop}
    {I : Trace W → W.State → Prop} (h : W.Keeps ok ψ I) (hφ : ∀ op, φ op → ψ op) :
    W.Keeps ok φ I :=
  fun past state now hI hdrift op answer after hop hanswer =>
    h past state now hI hdrift op answer after (hφ op hop) hanswer

section Rules

variable {ok : Trace W → Moment W → Prop} {past : Trace W} {state : W.State}
  {Q Q' : α → Trace W → W.State → Prop} {E E' : ε → Trace W → W.State → Prop}

@[simp] theorem wp_pure {value : α} : wp W ok (.pure value : Prog S ε α) Q E = Q value := rfl

@[simp] theorem wp_fail {error : ε} : wp W ok (.fail error : Prog S ε α) Q E = E error := rfl

/-- A request adds itself to the trace. -/
theorem wp_request_of {op : S.Op} (hok : ∀ now answer, ok past ⟨now, op, answer⟩)
    {E : ε → Trace W → W.State → Prop} :
    wp W ok (.request op : Prog S ε _)
      (fun answer past' after => ∃ now, W.Answers now op answer after ∧
        past' = past ++ [⟨now, op, answer⟩]) E past state :=
  fun now _ answer _ hanswer => ⟨hok now answer, now, hanswer, rfl⟩

/-- Sequencing. -/
@[simp] theorem wp_bind {p : Prog S ε α} {f : α → Prog S ε β}
    {Q : β → Trace W → W.State → Prop} :
    wp W ok (p >>= f) Q E past state ↔
      wp W ok p (fun value => wp W ok (f value) Q E) E past state := by
  induction p generalizing past state with
  | pure => rfl
  | fail => rfl
  | perform op next ih =>
      exact forall_congr' fun _ => forall_congr' fun _ => forall_congr' fun answer =>
        forall_congr' fun _ => forall_congr' fun _ => and_congr Iff.rfl (ih answer)

@[simp] theorem wp_attempt {p : Prog S ε α} {Q : Except ε α → Trace W → W.State → Prop}
    {E' : ε' → Trace W → W.State → Prop} :
    wp W ok (p.attempt : Prog S ε' _) Q E' past state ↔
      wp W ok p (fun value => Q (.ok value)) (fun error => Q (.error error)) past state := by
  induction p generalizing past state with
  | pure => rfl
  | fail => rfl
  | perform op next ih =>
      exact forall_congr' fun _ => forall_congr' fun _ => forall_congr' fun answer =>
        forall_congr' fun _ => forall_congr' fun _ => and_congr Iff.rfl (ih answer)

/-- A test on a value. -/
theorem wp_ite {c : Prop} [Decidable c] {p q : Prog S ε α} :
    wp W ok (if c then p else q) Q E past state ↔
      (c → wp W ok p Q E past state) ∧ (¬c → wp W ok q Q E past state) := by
  split <;> simp [*]

/-- Consequence. -/
theorem wp_mono {p : Prog S ε α} (h : wp W ok p Q E past state)
    (hQ : ∀ value past state, Q value past state → Q' value past state)
    (hE : ∀ error past state, E error past state → E' error past state) :
    wp W ok p Q' E' past state := by
  induction p generalizing past state with
  | pure => exact hQ _ _ _ h
  | fail => exact hE _ _ _ h
  | perform op next ih =>
      intro now hnow answer after hanswer
      have hstep := h now hnow answer after hanswer
      exact ⟨hstep.1, ih answer hstep.2⟩

/-- Sequencing with the assertion in the middle named. -/
theorem wp_seq {p : Prog S ε α} {f : α → Prog S ε β} {R : α → Trace W → W.State → Prop}
    {Q : β → Trace W → W.State → Prop} (hp : wp W ok p R E past state)
    (hf : ∀ value past state, R value past state → wp W ok (f value) Q E past state) :
    wp W ok (p >>= f) Q E past state :=
  wp_bind.2 (wp_mono hp hf (fun _ _ _ h => h))

/-- Sequencing after a program that is run to its end. -/
theorem wp_seq_attempt {p : Prog S ε α} {f : Except ε α → Prog S ε' β}
    {A : α → Trace W → W.State → Prop} {B : ε → Trace W → W.State → Prop}
    {Q : β → Trace W → W.State → Prop} {E' : ε' → Trace W → W.State → Prop}
    (hp : wp W ok p A B past state)
    (hvalue : ∀ value past state, A value past state → wp W ok (f (.ok value)) Q E' past state)
    (herror : ∀ error past state, B error past state → wp W ok (f (.error error)) Q E' past state) :
    wp W ok (p.attempt >>= f) Q E' past state :=
  wp_bind.2 (wp_attempt.2 (wp_mono hp hvalue herror))

/-- A second fact about the results. -/
theorem wp_also {p : Prog S ε α} (h : wp W ok p Q E past state)
    (h' : wp W (fun _ _ => True) p Q' (fun _ _ _ => True) past state) :
    wp W ok p (fun value past state => Q value past state ∧ Q' value past state) E past state := by
  induction p generalizing past state with
  | pure => exact ⟨h, h'⟩
  | fail => exact h
  | perform op next ih =>
      intro now hnow answer after hanswer
      have hstep := h now hnow answer after hanswer
      exact ⟨hstep.1, ih answer hstep.2 (h' now hnow answer after hanswer).2⟩

/-- A safety condition that holds of all operations of a program may be added. -/
theorem wp_safe {φ : S.Op → Prop} {p : Prog S ε α} (hp : p.Only φ)
    (h : wp W (fun _ _ => True) p Q E past state) (hok : ∀ past m, φ m.op → ok past m) :
    wp W ok p Q E past state := by
  induction p generalizing past state with
  | pure => exact h
  | fail => exact h
  | perform op next ih =>
      intro now hnow answer after hanswer
      exact ⟨hok _ _ hp.1, ih answer (hp.2 answer) (h now hnow answer after hanswer).2⟩

/-- Two safety conditions. -/
theorem wp_and_safe {ok' : Trace W → Moment W → Prop} {p : Prog S ε α}
    (h : wp W ok p Q E past state)
    (h' : wp W ok' p (fun _ _ _ => True) (fun _ _ _ => True) past state) :
    wp W (fun past m => ok past m ∧ ok' past m) p Q E past state := by
  induction p generalizing past state with
  | pure => exact h
  | fail => exact h
  | perform op next ih =>
      intro now hnow answer after hanswer
      obtain ⟨hok, hnext⟩ := h now hnow answer after hanswer
      obtain ⟨hok', hnext'⟩ := h' now hnow answer after hanswer
      exact ⟨⟨hok, hok'⟩, ih answer hnext hnext'⟩

/-- A weaker safety condition. -/
theorem wp_weaken {ok' : Trace W → Moment W → Prop} {p : Prog S ε α} (h : wp W ok p Q E past state)
    (hok : ∀ past m, ok past m → ok' past m) : wp W ok' p Q E past state := by
  induction p generalizing past state with
  | pure => exact h
  | fail => exact h
  | perform op next ih =>
      intro now hnow answer after hanswer
      obtain ⟨hstep, hnext⟩ := h now hnow answer after hanswer
      exact ⟨hok _ _ hstep, ih answer hnext⟩

/-- The whole history of the program is safe, at each of its operations and at its end. -/
theorem wp_history {p : Prog S ε α} (h : wp W ok p Q E past state) (hpast : Accepts ok [] past) :
    wp W (fun past m => Accepts ok [] (past ++ [m])) p
      (fun value past state => Accepts ok [] past ∧ Q value past state)
      (fun error past state => Accepts ok [] past ∧ E error past state) past state := by
  induction p generalizing past state with
  | pure => exact ⟨hpast, h⟩
  | fail => exact ⟨hpast, h⟩
  | perform op next ih =>
      intro now hnow answer after hanswer
      obtain ⟨hok, hnext⟩ := h now hnow answer after hanswer
      have hsafe := accepts_append.2 ⟨hpast, hok⟩
      exact ⟨hsafe, ih answer hnext hsafe⟩

/-- A program that is judged by what it does itself, behind what was done before. -/
theorem wp_shift {p : Prog S ε α} {base : Trace W}
    (h : wp W (fun past m => ok (base ++ past) m) p (fun value past => Q value (base ++ past))
      (fun error past => E error (base ++ past)) past state) :
    wp W ok p Q E (base ++ past) state := by
  induction p generalizing past state with
  | pure => exact h
  | fail => exact h
  | perform op next ih =>
      intro now hnow answer after hanswer
      obtain ⟨hok, hnext⟩ := h now hnow answer after hanswer
      refine ⟨hok, ?_⟩
      rw [List.append_assoc]
      exact ih answer hnext

/-- Nothing is required. -/
theorem wp_true {p : Prog S ε α} :
    wp W (fun _ _ => True) p (fun _ _ _ => True) (fun _ _ _ => True) past state := by
  induction p generalizing past state with
  | pure => trivial
  | fail => trivial
  | perform op next ih => exact fun _ _ answer _ _ => ⟨trivial, ih answer⟩

/-- A program that performs only operations in `φ` keeps every invariant that those operations
and the other parties keep; `R` and `F` are what all its results and errors satisfy anyway. -/
theorem wp_of_all {φ : S.Op → Prop} {R : α → Prop} {F : ε → Prop} {p : Prog S ε α}
    {I : Trace W → W.State → Prop} (hp : p.All φ R F) (hkeep : W.Keeps ok φ I)
    (hI : I past state) :
    wp W ok p (fun value past state => R value ∧ I past state)
      (fun error past state => F error ∧ I past state) past state := by
  induction p generalizing past state with
  | pure => exact ⟨hp, hI⟩
  | fail => exact ⟨hp, hI⟩
  | perform op next ih =>
      intro now hnow answer after hanswer
      have hstep := hkeep past state now hI hnow op answer after hp.1 hanswer
      exact ⟨hstep.1, ih answer (hp.2 answer) hstep.2⟩

/-- The same where nothing else is known about results, and errors need no more than `I`. -/
theorem wp_of_only {φ : S.Op → Prop} {p : Prog S ε α} {I : Trace W → W.State → Prop}
    (hp : p.Only φ) (hkeep : W.Keeps ok φ I)
    (herr : ∀ error past state, I past state → E error past state) (hI : I past state) :
    wp W ok p (fun _ => I) E past state :=
  wp_mono (wp_of_all hp hkeep hI) (fun _ _ _ h => h.2) fun _ _ _ h => herr _ _ _ h.2

/-- What such a program adds to the history. -/
theorem wp_appends {φ : S.Op → Prop} {p : Prog S ε α} (hp : p.Only φ)
    (hok : ∀ past m, φ m.op → ok past m) :
    wp W ok p (fun _ past' _ => ∃ more, past' = past ++ more ∧ ∀ m ∈ more, φ m.op)
      (fun _ past' _ => ∃ more, past' = past ++ more ∧ ∀ m ∈ more, φ m.op) past state := by
  have hkeep : W.Keeps ok φ fun past' _ => ∃ more, past' = past ++ more ∧ ∀ m ∈ more, φ m.op := by
    intro past' state now h _ op answer after hop _
    obtain ⟨more, rfl, hmore⟩ := h
    refine ⟨hok _ _ hop, more ++ [⟨now, op, answer⟩], List.append_assoc .., fun m hm => ?_⟩
    rcases List.mem_append.1 hm with hm | hm
    · exact hmore m hm
    · obtain rfl := List.mem_singleton.1 hm
      exact hop
  exact wp_of_only hp hkeep (fun _ _ _ h => h) ⟨[], (List.append_nil past).symm, by simp⟩

end Rules

namespace Exec

/-- An execution may go on. -/
theorem trans {p q r : Prog S ε α} {tr more : Trace W} {state middle last : W.State}
    (h : Exec W state p tr middle q) (hmore : Exec W middle q more last r) :
    Exec W state p (tr ++ more) last r := by
  induction h with
  | stop => exact hmore
  | drift hdrift _ ih => exact .drift hdrift (ih hmore)
  | act hanswer _ ih => exact .act hanswer (ih hmore)

/-- Every prefix of an execution is safe, and what is left meets its weakest precondition in
some state from which the others led to the present one. -/
theorem sound {ok : Trace W → Moment W → Prop} {p q : Prog S ε α} {past tr : Trace W}
    {start state last : W.State} {Q : α → Trace W → W.State → Prop}
    {E : ε → Trace W → W.State → Prop} (h : Exec W state p tr last q)
    (hstart : W.Drifts start state) (hp : wp W ok p Q E past start) :
    Accepts ok past tr ∧ ∃ before, W.Drifts before last ∧ wp W ok q Q E (past ++ tr) before := by
  induction h generalizing past start with
  | stop state p => exact ⟨trivial, start, hstart, by simpa using hp⟩
  | drift hdrift _ ih => exact ih (hstart.tail hdrift) hp
  | @act state middle last op answer next q tr hanswer _ ih =>
      have hstep := hp state hstart answer middle hanswer
      obtain ⟨haccept, before, hbefore, hleft⟩ := ih .refl hstep.2
      exact ⟨⟨hstep.1, haccept⟩, before, hbefore, by simpa using hleft⟩

/-- The safety condition holds at every operation of an execution. -/
theorem safe {ok : Trace W → Moment W → Prop} {p q : Prog S ε α} {before after : Trace W}
    {now : Moment W} {state last : W.State} {Q : α → Trace W → W.State → Prop}
    {E : ε → Trace W → W.State → Prop} (h : Exec W state p (before ++ now :: after) last q)
    (hp : wp W ok p Q E [] state) : ok before now := by
  simpa using (h.sound .refl hp).1.at

/-- An execution that returned meets the postcondition, up to later steps of the others. -/
theorem returned {ok : Trace W → Moment W → Prop} {p : Prog S ε α} {tr : Trace W} {value : α}
    {state last : W.State} {Q : α → Trace W → W.State → Prop}
    {E : ε → Trace W → W.State → Prop} (h : Exec W state p tr last (.pure value))
    (hp : wp W ok p Q E [] state) : ∃ before, W.Drifts before last ∧ Q value tr before := by
  simpa using (h.sound .refl hp).2

/-- An execution that failed meets the error postcondition, up to later steps of the others. -/
theorem failed {ok : Trace W → Moment W → Prop} {p : Prog S ε α} {tr : Trace W} {error : ε}
    {state last : W.State} {Q : α → Trace W → W.State → Prop}
    {E : ε → Trace W → W.State → Prop} (h : Exec W state p tr last (.fail error))
    (hp : wp W ok p Q E [] state) : ∃ before, W.Drifts before last ∧ E error tr before := by
  simpa using (h.sound .refl hp).2

/-- What led up to an operation of an execution stops right before it. -/
theorem cut {p q : Prog S ε α} {before after : Trace W} {now : Moment W} {state last : W.State}
    (h : Exec W state p (before ++ now :: after) last q) :
    ∃ next, Exec W state p before now.state (.perform now.op next) := by
  generalize htr : before ++ now :: after = tr at h
  induction h generalizing before with
  | stop => simp at htr
  | drift hdrift _ ih =>
      obtain ⟨next, hbefore⟩ := ih htr
      exact ⟨next, .drift hdrift hbefore⟩
  | @act state middle last op answer next q tr hanswer _ ih =>
      cases before with
      | nil =>
          obtain ⟨hnow, -⟩ := List.cons_eq_cons.1 htr
          subst hnow
          exact ⟨next, .stop _ _⟩
      | cons first before =>
          obtain ⟨hfirst, hrest⟩ := List.cons_eq_cons.1 htr
          subst hfirst
          obtain ⟨left, hbefore⟩ := ih hrest
          exact ⟨left, .act hanswer hbefore⟩

/-- An execution of a sequence that returned is one of its first part and then one of its second. -/
theorem split_bind {p : Prog S ε α} {f : α → Prog S ε β} {value : β} {tr : Trace W}
    {state last : W.State} (h : Exec W state (p >>= f) tr last (.pure value)) :
    ∃ before after middle result, tr = before ++ after ∧
      Exec W state p before middle (.pure result) ∧
      Exec W middle (f result) after last (.pure value) := by
  generalize hseq : p >>= f = q at h
  generalize hend : Prog.pure value = r at h
  -- on the execution: the first program is followed until it returns
  induction h generalizing p with
  | stop state q =>
      subst hend
      cases p with
      | pure result => exact ⟨[], [], state, result, rfl, .stop _ _, hseq ▸ .stop _ _⟩
      | fail => simp at hseq
      | perform => simp at hseq
  | drift hdrift h ih =>
      obtain ⟨before, after, middle, result, rfl, hp, hf⟩ := ih hseq hend
      exact ⟨before, after, middle, result, rfl, .drift hdrift hp, hf⟩
  | act hanswer h ih =>
      subst hend
      cases p with
      | pure result =>
          refine ⟨[], _, _, result, rfl, .stop _ _, ?_⟩
          rw [show f result = _ from hseq]
          exact .act hanswer h
      | fail => simp at hseq
      | perform op next =>
          simp only [Prog.perform_bind, Prog.perform.injEq] at hseq
          obtain ⟨rfl, hnext⟩ := hseq
          obtain rfl := eq_of_heq hnext
          obtain ⟨before, after, middle, result, rfl, hp, hf⟩ := ih rfl rfl
          exact ⟨_ :: before, after, middle, result, rfl, .act hanswer hp, hf⟩

/-- An execution to the end that ended with a value is an execution that returned it. -/
theorem of_attempt {p : Prog S ε α} {value : α} {tr : Trace W} {state last : W.State}
    (h : Exec W state (p.attempt : Prog S ε' _) tr last (.pure (.ok value))) :
    Exec W state p tr last (.pure value) := by
  generalize hseq : (p.attempt : Prog S ε' _) = q at h
  generalize hend : (Prog.pure (.ok value) : Prog S ε' (Except ε α)) = r at h
  induction h generalizing p with
  | stop state q =>
      subst hend
      cases p with
      | pure result =>
          obtain rfl : result = value := by simpa [Prog.attempt] using hseq
          exact .stop _ _
      | fail => simp [Prog.attempt] at hseq
      | perform => simp [Prog.attempt] at hseq
  | drift hdrift h ih => exact .drift hdrift (ih hseq hend)
  | act hanswer h ih =>
      cases p with
      | pure => simp [Prog.attempt] at hseq
      | fail => simp [Prog.attempt] at hseq
      | perform op next =>
          simp only [Prog.attempt, Prog.perform.injEq] at hseq
          obtain ⟨rfl, hnext⟩ := hseq
          obtain rfl := eq_of_heq hnext
          exact .act hanswer (ih rfl hend)

section Steps

variable {p q : Prog S ε α} {tr : Trace W} {state last : W.State}

/-- Every operation of an execution got an answer the world allows. -/
theorem answered (h : Exec W state p tr last q) {m : Moment W} (hm : m ∈ tr) :
    ∃ after, W.Answers m.state m.op m.answer after := by
  induction h with
  | stop => simp at hm
  | drift _ _ ih => exact ih hm
  | act hanswer _ ih =>
      rcases List.mem_cons.1 hm with rfl | hm
      · exact ⟨_, hanswer⟩
      · exact ih hm

/-- What every step moves along, an execution moves along. -/
theorem ordered {R : W.State → W.State → Prop} (hrefl : ∀ a, R a a)
    (htrans : ∀ a b c, R a b → R b c → R a c) (hdrift : ∀ a b, W.Drift a b → R a b)
    (hanswer : ∀ a op answer b, W.Answers a op answer b → R a b) (h : Exec W state p tr last q) :
    R state last ∧ (∀ m ∈ tr, R state m.state ∧ R m.state last) ∧
      tr.Pairwise fun m n => R m.state n.state := by
  induction h with
  | stop state => exact ⟨hrefl state, by simp, .nil⟩
  | drift hstep _ ih =>
      have hfirst := hdrift _ _ hstep
      exact ⟨htrans _ _ _ hfirst ih.1,
        fun m hm => ⟨htrans _ _ _ hfirst (ih.2.1 m hm).1, (ih.2.1 m hm).2⟩, ih.2.2⟩
  | @act state middle last op answer next q tr hstep _ ih =>
      have hfirst := hanswer _ _ _ _ hstep
      refine ⟨htrans _ _ _ hfirst ih.1, fun m hm => ?_, ?_⟩
      · rcases List.mem_cons.1 hm with rfl | hm
        · exact ⟨hrefl _, htrans _ _ _ hfirst ih.1⟩
        · exact ⟨htrans _ _ _ hfirst (ih.2.1 m hm).1, (ih.2.1 m hm).2⟩
      · exact List.pairwise_cons.2 ⟨fun m hm => htrans _ _ _ hfirst (ih.2.1 m hm).1, ih.2.2⟩

end Steps

end Exec

/-! ## Playing a program against a script -/

namespace Prog

/-- Run `p` against a script, which gives every operation one answer and the state after it: the
trace, the last state and the end. -/
def play (W : World S) (script : W.State → (op : S.Op) → S.Answer op × W.State) :
    Prog S ε α → W.State → Trace W × W.State × Except ε α
  | .pure value, state => ([], state, .ok value)
  | .fail error, state => ([], state, .error error)
  | .perform op next, state =>
      let (answer, after) := script state op
      let (tr, last) := (next answer).play W script after
      (⟨state, op, answer⟩ :: tr, last)

/-- Playing is an execution, if the world allows what the script says. -/
theorem exec_play (script : W.State → (op : S.Op) → S.Answer op × W.State)
    (h : ∀ state op, W.Answers state op (script state op).1 (script state op).2)
    (p : Prog S ε α) (state : W.State) :
    Exec W state p (p.play W script state).1 (p.play W script state).2.1
      (.ofExcept (p.play W script state).2.2) := by
  induction p generalizing state with
  | pure => exact .stop _ _
  | fail => exact .stop _ _
  | perform op next ih => exact .act (h state op) (ih _ _)

/-- Run `p` against a script that also says how far the others get before each answer. -/
def enact (W : World S) (script : W.State → (op : S.Op) → W.State × S.Answer op × W.State) :
    Prog S ε α → W.State → Trace W × W.State × Except ε α
  | .pure value, state => ([], state, .ok value)
  | .fail error, state => ([], state, .error error)
  | .perform op next, state =>
      let (now, answer, after) := script state op
      let (tr, last) := (next answer).enact W script after
      (⟨now, op, answer⟩ :: tr, last)

/-- The others' steps come first. -/
theorem exec_drifts {p q : Prog S ε α} {tr : Trace W} {state middle last : W.State}
    (hdrifts : W.Drifts state middle) (h : Exec W middle p tr last q) :
    Exec W state p tr last q := by
  induction hdrifts using Relation.ReflTransGen.head_induction_on with
  | refl => exact h
  | head hstep _ ih => exact .drift hstep ih

/-- Enacting is an execution, if the world allows what the script says. -/
theorem exec_enact {script : W.State → (op : S.Op) → W.State × S.Answer op × W.State}
    (hdrifts : ∀ state op, W.Drifts state (script state op).1)
    (h : ∀ state op, W.Answers (script state op).1 op (script state op).2.1 (script state op).2.2)
    (p : Prog S ε α) (state : W.State) :
    Exec W state p (p.enact W script state).1 (p.enact W script state).2.1
      (.ofExcept (p.enact W script state).2.2) := by
  induction p generalizing state with
  | pure => exact .stop _ _
  | fail => exact .stop _ _
  | perform op next ih => exact exec_drifts (hdrifts state op) (.act (h state op) (ih _ _))

/-- Every end of a program is the end of an execution. -/
theorem wp_exec {p : Prog S ε α} {past : Trace W} {state : W.State} :
    wp W (fun _ _ => True) p
      (fun value past' last => ∃ tr, past' = past ++ tr ∧ Exec W state p tr last (.pure value))
      (fun error past' last => ∃ tr, past' = past ++ tr ∧ Exec W state p tr last (.fail error))
      past state := by
  induction p generalizing past state with
  | pure => exact ⟨[], (List.append_nil past).symm, .stop _ _⟩
  | fail => exact ⟨[], (List.append_nil past).symm, .stop _ _⟩
  | perform op next ih =>
      intro now hnow answer after hanswer
      refine ⟨trivial, wp_mono (ih answer) ?_ ?_⟩
      · intro value past' last h
        obtain ⟨tr, rfl, hexec⟩ := h
        refine ⟨⟨now, op, answer⟩ :: tr, ?_, exec_drifts hnow (.act hanswer hexec)⟩
        rw [List.append_assoc, List.singleton_append]
      · intro error past' last h
        obtain ⟨tr, rfl, hexec⟩ := h
        refine ⟨⟨now, op, answer⟩ :: tr, ?_, exec_drifts hnow (.act hanswer hexec)⟩
        rw [List.append_assoc, List.singleton_append]

end Prog

end Interaction
