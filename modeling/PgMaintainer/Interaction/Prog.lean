import Mathlib.Logic.Basic

/-!
# Programs that act on the world

A program is a tree: it returns a value, fails with an error, or performs an operation and
goes on with the answer. Asynchronous code is such a tree with one node for every point at
which it waits, so that other parties can act between any two nodes.

`Prog.All φ R E p` reads a whole tree at once: every operation `p` may perform satisfies `φ`,
every value it may return satisfies `R`, and every error it may fail with satisfies `E`.
-/

namespace Interaction

/-- The operations a program may perform, each with the type of its answers. -/
structure Signature where
  Op : Type
  Answer : Op → Type

/-- A program over the signature `S` with errors `ε` and results `α`. -/
inductive Prog (S : Signature) (ε α : Type) where
  | pure (value : α) : Prog S ε α
  | fail (error : ε) : Prog S ε α
  | perform (op : S.Op) (next : S.Answer op → Prog S ε α) : Prog S ε α

variable {S : Signature} {ε ε' α β γ : Type}

namespace Prog

/-- Run `p` and hand its value to `f`; an error of `p` skips `f`. -/
def bind : Prog S ε α → (α → Prog S ε β) → Prog S ε β
  | .pure value, f => f value
  | .fail error, _ => .fail error
  | .perform op next, f => .perform op fun answer => (next answer).bind f

instance : Monad (Prog S ε) where
  pure := Prog.pure
  bind := Prog.bind

/-- Perform one operation and return its answer. -/
def request (op : S.Op) : Prog S ε (S.Answer op) := .perform op .pure

/-- Run `p` to its end and return how it ended. The result never fails. -/
def attempt : Prog S ε α → Prog S ε' (Except ε α)
  | .pure value => .pure (.ok value)
  | .fail error => .pure (.error error)
  | .perform op next => .perform op fun answer => (next answer).attempt

/-- Give the result of a computation that may have failed: the `?` operator. -/
def ofExcept : Except ε α → Prog S ε α
  | .ok value => .pure value
  | .error error => .fail error

@[simp] theorem pure_eq (value : α) : (Pure.pure value : Prog S ε α) = .pure value := rfl

@[simp] theorem pure_bind (value : α) (f : α → Prog S ε β) : .pure value >>= f = f value := rfl

@[simp] theorem fail_bind (error : ε) (f : α → Prog S ε β) :
    (.fail error >>= f : Prog S ε β) = .fail error := rfl

@[simp] theorem perform_bind (op : S.Op) (next : S.Answer op → Prog S ε α)
    (f : α → Prog S ε β) :
    .perform op next >>= f = .perform op fun answer => next answer >>= f := rfl

@[simp] theorem bind_assoc (p : Prog S ε α) (f : α → Prog S ε β) (g : β → Prog S ε γ) :
    p >>= f >>= g = p >>= fun value => f value >>= g := by
  induction p with
  | pure => rfl
  | fail => rfl
  | perform op next ih => exact congrArg (perform op) (funext ih)

@[simp] theorem bind_pure (p : Prog S ε α) : p >>= .pure = p := by
  induction p with
  | pure => rfl
  | fail => rfl
  | perform op next ih => exact congrArg (perform op) (funext ih)

/-- A sequence that is run to its end: its first part is. -/
theorem attempt_bind (p : Prog S ε α) (f : α → Prog S ε β) :
    ((p >>= f).attempt : Prog S ε' (Except ε β)) = p.attempt >>= fun result =>
      match result with
      | .ok value => (f value).attempt
      | .error error => .pure (.error error) := by
  induction p with
  | pure => rfl
  | fail => rfl
  | perform op next ih => exact congrArg (perform op) (funext ih)

/-! ## Facts about every path of a program -/

/-- Every operation of `p` satisfies `φ`, every result `R` and every error `E`. -/
def All (p : Prog S ε α) (φ : S.Op → Prop) (R : α → Prop) (E : ε → Prop) : Prop :=
  match p with
  | .pure value => R value
  | .fail error => E error
  | .perform op next => φ op ∧ ∀ answer, (next answer).All φ R E

variable {φ ψ : S.Op → Prop} {R R' : α → Prop} {E E' : ε → Prop}

@[simp] theorem all_pure {value : α} : (.pure value : Prog S ε α).All φ R E ↔ R value := Iff.rfl

@[simp] theorem all_fail {error : ε} : (.fail error : Prog S ε α).All φ R E ↔ E error := Iff.rfl

@[simp] theorem all_ite {c : Prop} [Decidable c] {p q : Prog S ε α} :
    (if c then p else q).All φ R E ↔ (c → p.All φ R E) ∧ (¬c → q.All φ R E) := by
  split <;> simp [*]

@[simp] theorem all_request {op : S.Op} {R : S.Answer op → Prop} :
    (request op : Prog S ε _).All φ R E ↔ φ op ∧ ∀ answer, R answer := Iff.rfl

/-- Sequencing: the second program starts from the results of the first. -/
@[simp] theorem all_bind {p : Prog S ε α} {f : α → Prog S ε β} {R : β → Prop} :
    (p >>= f).All φ R E ↔ p.All φ (fun value => (f value).All φ R E) E := by
  induction p with
  | pure => rfl
  | fail => rfl
  | perform op next ih => exact and_congr Iff.rfl (forall_congr' ih)

@[simp] theorem all_attempt {p : Prog S ε α} {R : Except ε α → Prop} {E' : ε' → Prop} :
    (p.attempt : Prog S ε' _).All φ R E' ↔
      p.All φ (fun value => R (.ok value)) (fun error => R (.error error)) := by
  induction p with
  | pure => rfl
  | fail => rfl
  | perform op next ih => exact and_congr Iff.rfl (forall_congr' ih)

/-- All three predicates may be weakened. -/
theorem All.mono {p : Prog S ε α} (h : p.All φ R E) (hφ : ∀ op, φ op → ψ op)
    (hR : ∀ value, R value → R' value) (hE : ∀ error, E error → E' error) :
    p.All ψ R' E' := by
  induction p with
  | pure value => exact hR value h
  | fail error => exact hE error h
  | perform op next ih => exact ⟨hφ op h.1, fun answer => ih answer (h.2 answer)⟩

/-- Two facts about every path hold together. -/
theorem All.and {p : Prog S ε α} (h : p.All φ R E) (h' : p.All ψ R' E') :
    p.All (fun op => φ op ∧ ψ op) (fun value => R value ∧ R' value)
      (fun error => E error ∧ E' error) := by
  induction p with
  | pure => exact ⟨h, h'⟩
  | fail => exact ⟨h, h'⟩
  | perform op next ih => exact ⟨⟨h.1, h'.1⟩, fun answer => ih answer (h.2 answer) (h'.2 answer)⟩

/-- `p` performs only operations in `φ`. -/
abbrev Only (p : Prog S ε α) (φ : S.Op → Prop) : Prop :=
  p.All φ (fun _ => True) (fun _ => True)

/-- Every program performs operations. -/
theorem only_true (p : Prog S ε α) : p.Only fun _ => True := by
  induction p with
  | pure => trivial
  | fail => trivial
  | perform op next ih => exact ⟨trivial, ih⟩

/-- A sequence performs only what its two parts perform. -/
theorem Only.bind {p : Prog S ε α} {f : α → Prog S ε β} (hp : p.Only φ)
    (hf : ∀ value, (f value).Only φ) : (p >>= f).Only φ :=
  all_bind.2 (hp.mono (fun _ h => h) (fun value _ => hf value) (fun _ h => h))

/-- Running a program to its end performs what the program performs. -/
theorem Only.attempt {p : Prog S ε α} (hp : p.Only φ) :
    (p.attempt : Prog S ε' _).Only φ :=
  all_attempt.2 hp

end Prog

end Interaction
