import PgMaintainer.Interaction.Parties

/-!
# Worlds that do less

A world refines another one if it takes only steps and gives only answers that the other allows, its
states seen through a map. What a program does in the former, it then does in the latter.
-/

namespace Interaction

variable {S : Signature} {ι ε α : Type}

/-- `V` does no more than `W`, its states seen through `f`. -/
structure World.Refines (V W : World S) (f : V.State → W.State) : Prop where
  drift : ∀ {before after}, V.Drift before after → W.Drift (f before) (f after)
  answers : ∀ {before op answer after}, V.Answers before op answer after →
    W.Answers (f before) op answer (f after)

/-- A moment, its state seen through `f`. -/
def Moment.map {V W : World S} (f : V.State → W.State) (m : Moment V) : Moment W :=
  ⟨f m.state, m.op, m.answer⟩

namespace World.Refines

variable {V W : World S} {f : V.State → W.State}

/-- Any number of steps of the others are steps there. -/
theorem drifts (h : V.Refines W f) {before after : V.State} (hdrifts : V.Drifts before after) :
    W.Drifts (f before) (f after) :=
  Relation.ReflTransGen.lift f (fun _ _ => h.drift) _ _ hdrifts

/-- An execution is one there. By induction on it. -/
theorem exec (h : V.Refines W f) {p q : Prog S ε α} {tr : Trace V} {state last : V.State}
    (hexec : Exec V state p tr last q) :
    Exec W (f state) p (tr.map (Moment.map f)) (f last) q := by
  induction hexec with
  | stop state p => exact .stop _ _
  | drift hdrift _ ih => exact .drift (h.drift hdrift) ih
  | act hanswer _ ih => exact .act (h.answers hanswer) ih

end World.Refines

/-! ## Parties whose answers are restricted -/

/-- The same state and the same parties, which get only answers in `φ`. -/
abbrev Common.restrict (C : Common S ι) (φ : (op : S.Op) → S.Answer op → Prop) : Common S ι where
  State := C.State
  Answers i before op answer after := C.Answers i before op answer after ∧ φ op answer
  Leaves := C.Leaves

/-- The world of a party does no more than without the restriction. -/
theorem Common.restrict_refines (C : Common S ι) (φ : (op : S.Op) → S.Answer op → Prop) (i : ι) :
    ((C.restrict φ).world i).Refines (C.world i) id where
  drift := by
    intro before after h
    obtain ⟨j, hj, ⟨op, answer, hanswer⟩ | hleaves⟩ := h
    · exact ⟨j, hj, .inl ⟨op, answer, hanswer.1⟩⟩
    · exact ⟨j, hj, .inr hleaves⟩
  answers h := h.1

end Interaction
