import PgMaintainer.Interaction.World
import PgMaintainer.Session

/-!
# Rules for the requests

How the two ways to read a program, `Prog.All` and `wp`, go through the requests of the main
program and through `withContext`.
-/

namespace PgMaintainer

open Interaction

section All

variable {ε α : Type} {φ : Op → Prop} {E : ε → Prop} {EA : AnyError → Prop} {EP : PgError → Prop}

@[simp] theorem all_call {c : Call} {R : Except PgError c.Row → Prop} :
    Prog.All (α := no_index (Except PgError c.Row)) (call c : Prog session ε _) φ R E ↔
      φ (.call c) ∧ ∀ answer, R answer := Iff.rfl

@[simp] theorem all_isClosed {R : Bool → Prop} :
    (isClosed : Prog session ε _).All φ R E ↔ φ .isClosed ∧ ∀ closed, R closed := Iff.rfl

@[simp] theorem all_shutdownRequested {R : Bool → Prop} :
    (shutdownRequested : Prog session ε _).All φ R E ↔
      φ .shutdownRequested ∧ ∀ requested, R requested := Iff.rfl

@[simp] theorem all_isRequested {R : Bool → Prop} :
    (isRequested : Prog session ε _).All φ R E ↔ φ .isRequested ∧ ∀ requested, R requested :=
  Iff.rfl

@[simp] theorem all_sleepOrShutdown {n : Nat} {R : Wake → Prop} :
    (sleepOrShutdown n : Prog session ε _).All φ R E ↔
      φ (.sleepOrShutdown n) ∧ ∀ wake, R wake := Iff.rfl

@[simp] theorem all_now {R : Nat → Prop} :
    (now : Prog session ε _).All φ R E ↔ φ .now ∧ ∀ time, R time := Iff.rfl

@[simp] theorem all_gateIsDisabled {R : Bool → Prop} :
    (gateIsDisabled : Prog session ε _).All φ R E ↔
      φ .gateIsDisabled ∧ ∀ disabled, R disabled := Iff.rfl

@[simp] theorem all_gateDisable {R : Unit → Prop} :
    (gateDisable : Prog session ε _).All φ R E ↔ φ .gateDisable ∧ R () :=
  and_congr Iff.rfl ⟨fun h => h (), fun h _ => h⟩

@[simp] theorem all_gateAddWaited {n : Nat} {R : Unit → Prop} :
    (gateAddWaited n : Prog session ε _).All φ R E ↔ φ (.gateAddWaited n) ∧ R () :=
  and_congr Iff.rfl ⟨fun h => h (), fun h _ => h⟩

@[simp] theorem all_gateRecordSkip {R : Unit → Prop} :
    (gateRecordSkip : Prog session ε _).All φ R E ↔ φ .gateRecordSkip ∧ R () :=
  and_congr Iff.rfl ⟨fun h => h (), fun h _ => h⟩

@[simp] theorem all_log {line : LogLine} {R : Unit → Prop} :
    (log line : Prog session ε _).All φ R E ↔ φ (.log line) ∧ R () :=
  and_congr Iff.rfl ⟨fun h => h (), fun h _ => h⟩

@[simp] theorem all_mark {m : Mark} {R : Unit → Prop} :
    (mark m : Prog session ε _).All φ R E ↔ φ (.mark m) ∧ R () :=
  and_congr Iff.rfl ⟨fun h => h (), fun h _ => h⟩

@[simp] theorem all_query {c : Call} {R : c.Row → Prop} :
    Prog.All (α := no_index c.Row) (query c) φ R EP ↔
      φ (.call c) ∧ (∀ row, R row) ∧ ∀ err, EP err := by
  refine and_congr Iff.rfl ⟨fun h => ⟨fun row => h (.ok row), fun err => h (.error err)⟩, ?_⟩
  rintro ⟨hrow, herr⟩ (err | row)
  · exact herr err
  · exact hrow row

@[simp] theorem all_queryContext {c : Call} {text : String} {R : c.Row → Prop} :
    Prog.All (α := no_index c.Row) (queryContext c text) φ R EA ↔
      φ (.call c) ∧ (∀ row, R row) ∧ ∀ err, EA ((AnyError.ofPg err).context text) := by
  refine and_congr Iff.rfl ⟨fun h => ⟨fun row => h (.ok row), fun err => h (.error err)⟩, ?_⟩
  rintro ⟨hrow, herr⟩ (err | row)
  · exact herr err
  · exact hrow row

@[simp] theorem all_withContext {p : RunM α} {text : String} {R : α → Prop} :
    (withContext p text).All φ R EA ↔ p.All φ R fun err => EA (err.context text) := by
  simp [withContext]

end All

section Wp

variable {W : World session} {ok : Trace W → Moment W → Prop} {past : Trace W} {state : W.State}
  {ε α : Type}

/-- A call: what must hold of every answer. -/
theorem wp_call {c : Call} {Q : Except PgError c.Row → Trace W → W.State → Prop}
    {E : ε → Trace W → W.State → Prop} :
    wp W ok (call c : Prog session ε _) Q E past state ↔
      ∀ now, W.Drifts state now → ∀ answer after, W.Answers now (.call c) answer after →
        ok past ⟨now, .call c, answer⟩ ∧ Q answer (past ++ [⟨now, .call c, answer⟩]) after :=
  Iff.rfl

/-- A call whose error goes up: what must hold of every row and of every error. -/
theorem wp_query {c : Call} {Q : c.Row → Trace W → W.State → Prop}
    {E : PgError → Trace W → W.State → Prop} :
    wp W ok (query c) Q E past state ↔
      wp W ok (call c : PgM _) (fun answer past state =>
        match answer with
        | .ok row => Q row past state
        | .error err => E err past state) E past state := by
  rw [query, wp_bind]
  refine forall₄_congr fun _ _ answer _ => forall_congr' fun _ => and_congr Iff.rfl ?_
  cases answer <;> rfl

/-- The same with a context on top of the error. -/
theorem wp_queryContext {c : Call} {text : String} {Q : c.Row → Trace W → W.State → Prop}
    {E : AnyError → Trace W → W.State → Prop} :
    wp W ok (queryContext c text) Q E past state ↔
      wp W ok (call c : RunM _) (fun answer past state =>
        match answer with
        | .ok row => Q row past state
        | .error err => E ((AnyError.ofPg err).context text) past state) E past state := by
  rw [queryContext, wp_bind]
  refine forall₄_congr fun _ _ answer _ => forall_congr' fun _ => and_congr Iff.rfl ?_
  cases answer <;> rfl

@[simp] theorem wp_withContext {p : RunM α} {text : String} {Q : α → Trace W → W.State → Prop}
    {E : AnyError → Trace W → W.State → Prop} :
    wp W ok (withContext p text) Q E past state ↔
      wp W ok p Q (fun err => E (err.context text)) past state := by
  simp [withContext]

end Wp

end PgMaintainer
