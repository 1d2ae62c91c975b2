import Mathlib.Logic.Function.Basic
import PgMaintainer.Interaction.World

/-!
# Parties that share a state

Several parties run a program each against one state that they share. A step is an operation of one
of them, or one of them leaves. To each party the steps of the others are the drift of a world of
its own; `Reaches.wp` says that what its program keeps in that world it keeps among the others.
-/

namespace Interaction

variable {S : Signature} {ι ε α : Type}

/-- What parties share: the state, the answers that each of them may get, and what a party leaves
behind. -/
structure Common (S : Signature) (ι : Type) where
  State : Type
  Answers : ι → State → (op : S.Op) → S.Answer op → State → Prop
  Leaves : ι → State → State → Prop

/-- The world of one of the parties. -/
def Common.world (C : Common S ι) (i : ι) : World S where
  State := C.State
  Drift before after :=
    ∃ j ≠ i, (∃ op answer, C.Answers j before op answer after) ∨ C.Leaves j before after
  Answers := C.Answers i

/-- The world of one of the parties while the others rest. -/
abbrev Common.alone (C : Common S ι) (i : ι) : World S where
  State := C.State
  Drift _ _ := False
  Answers := C.Answers i

/-- The state, and what each party has left to do while it is there. -/
structure Config (C : Common S ι) (ε α : Type) where
  state : C.State
  left : ι → Option (Prog S ε α)

variable [DecidableEq ι] {C : Common S ι}

namespace Config

/-- A party has this left to do, in this state. -/
def set (c : Config C ε α) (i : ι) (rest : Option (Prog S ε α)) (state : C.State) :
    Config C ε α := ⟨state, Function.update c.left i rest⟩

variable {c : Config C ε α} {i j : ι} {rest : Option (Prog S ε α)} {state : C.State}

@[simp] theorem set_state : (c.set i rest state).state = state := rfl

@[simp] theorem set_left : (c.set i rest state).left i = rest := Function.update_self ..

/-- A step of one party leaves the others where they are. -/
theorem set_left_of_ne (h : j ≠ i) : (c.set i rest state).left j = c.left j :=
  Function.update_of_ne h ..

/-- Only what was set last counts. -/
@[simp] theorem set_set (other : Option (Prog S ε α)) (after : C.State) :
    (c.set i rest state).set i other after = c.set i other after := by
  simp [set]

/-- One step of one party. -/
inductive Step : Config C ε α → Config C ε α → Prop where
  | act {c : Config C ε α} {i : ι} {op : S.Op} {next : S.Answer op → Prog S ε α}
      {answer : S.Answer op} {after : C.State} : c.left i = some (.perform op next) →
      C.Answers i c.state op answer after → Step c (c.set i (some (next answer)) after)
  | leave {c : Config C ε α} {i : ι} {p : Prog S ε α} {after : C.State} : c.left i = some p →
      C.Leaves i c.state after → Step c (c.set i none after)

/-- Any number of steps of any parties. -/
abbrev Reaches : Config C ε α → Config C ε α → Prop := Relation.ReflTransGen Step

variable {d : Config C ε α} {ok : Trace (C.world i) → Moment (C.world i) → Prop}
  {Q : α → Trace (C.world i) → C.State → Prop} {E : ε → Trace (C.world i) → C.State → Prop}

/-- What a party has done among the others is an execution in the party's own world. By induction on
the steps. -/
theorem Reaches.exec (h : Reaches c d) {q : Prog S ε α} (hq : d.left i = some q) :
    ∃ p tr, c.left i = some p ∧ Exec (C.world i) c.state p tr d.state q := by
  induction h generalizing q with
  | refl => exact ⟨q, [], hq, .stop _ _⟩
  | @tail b d _ hstep ih =>
      cases hstep with
      | @act j op next answer after hleft hanswer =>
          by_cases hj : j = i
          · subst hj
            obtain rfl : next answer = q := Option.some.inj (set_left.symm.trans hq)
            obtain ⟨p, tr, hp, hexec⟩ := ih hleft
            exact ⟨p, _, hp, hexec.trans (.act hanswer (.stop _ _))⟩
          · rw [set_left_of_ne (Ne.symm hj)] at hq
            obtain ⟨p, tr, hp, hexec⟩ := ih hq
            have hdrift : (C.world i).Drift b.state after := ⟨j, hj, .inl ⟨op, answer, hanswer⟩⟩
            exact ⟨p, _, hp, hexec.trans (.drift hdrift (.stop _ _))⟩
      | @leave j r after hleft hleaves =>
          by_cases hj : j = i
          · subst hj
            rw [set_left] at hq
            cases hq
          · rw [set_left_of_ne (Ne.symm hj)] at hq
            obtain ⟨p, tr, hp, hexec⟩ := ih hq
            have hdrift : (C.world i).Drift b.state after := ⟨j, hj, .inr hleaves⟩
            exact ⟨p, _, hp, hexec.trans (.drift hdrift (.stop _ _))⟩

/-- So what its program keeps in that world, it keeps among the others. -/
theorem Reaches.wp (h : Reaches c d)
    (hstart : ∀ p, c.left i = some p → Interaction.wp (C.world i) ok p Q E [] c.state) :
    ∀ p, d.left i = some p → ∃ past before, (C.world i).Drifts before d.state ∧
      Interaction.wp (C.world i) ok p Q E past before := by
  intro q hq
  obtain ⟨p, tr, hp, hexec⟩ := h.exec hq
  obtain ⟨-, before, hdrifts, hwp⟩ := hexec.sound .refl (hstart p hp)
  exact ⟨tr, before, hdrifts, by simpa using hwp⟩

/-- A party that has returned has what its program promises, up to what the others did since. -/
theorem Reaches.returned (h : Reaches c d)
    (hstart : ∀ p, c.left i = some p → Interaction.wp (C.world i) ok p Q E [] c.state) {value : α}
    (hvalue : d.left i = some (.pure value)) :
    ∃ past before, (C.world i).Drifts before d.state ∧ Q value past before :=
  h.wp hstart _ hvalue

/-- A party may run on while the others rest. By induction on the execution. -/
theorem reaches_exec {first last : (C.alone i).State} {p q : Prog S ε α} {tr : Trace (C.alone i)}
    (h : Exec (C.alone i) first p tr last q) {c : Config C ε α} (hleft : c.left i = some p)
    (hstate : c.state = first) : c.Reaches (c.set i (some q) last) := by
  induction h generalizing c with
  | stop state p =>
      have hself : c.set i (some p) state = c := by
        rw [set, ← hstate, ← hleft, Function.update_eq_self]
      rw [hself]
  | drift hdrift => exact hdrift.elim
  | @act state middle last op answer next q tr hanswer _ ih =>
      subst hstate
      have hrest := ih (c := c.set i (some (next answer)) middle) set_left rfl
      rw [set_set] at hrest
      exact .head (.act hleft hanswer) hrest

end Config

end Interaction
