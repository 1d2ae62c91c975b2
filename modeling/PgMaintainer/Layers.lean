import Mathlib.Data.List.Basic

/-!
# Layers of settings

A setting is looked up in a stack of layers, the highest-ranked first. A layer may be silent
about it, set it to a value, or set it to something that is none of its values.

Programs keep a setting that no layer has filled yet in one of two ways: as an absent option,
or as the built-in value itself. `filled` and `overwritten` are what a stack of layers comes to
under each of them, and the theorems say exactly when that is what the highest-ranked layer
says.
-/

namespace Layers

variable {α : Type}

/-- What one layer says about a setting. -/
inductive Layer (α : Type) where
  | silent
  /-- The layer sets it, to something that is none of its values. -/
  | garbled
  | sets (value : α)
  deriving DecidableEq, Repr

namespace Layer

/-- A layer that sets the setting if an option is there. -/
def ofOption : Option α → Layer α
  | none => silent
  | some value => sets value

/-- A layer that can only switch a flag on. -/
def ofFlag : Bool → Layer Bool
  | false => silent
  | true => sets true

/-- A layer that sets the setting by a text, which `parse` may not accept. -/
def ofText {τ : Type} (parse : τ → Option α) : Option τ → Layer α
  | none => silent
  | some text =>
    match parse text with
    | none => garbled
    | some value => sets value

/-- The value a layer gives, if it gives one. -/
def value? : Layer α → Option α
  | sets value => some value
  | _ => none

@[simp] theorem value?_silent : (silent : Layer α).value? = none := rfl

@[simp] theorem value?_garbled : (garbled : Layer α).value? = none := rfl

@[simp] theorem value?_sets (value : α) : (sets value).value? = some value := rfl

@[simp] theorem value?_ofOption (o : Option α) : (ofOption o).value? = o := by
  cases o <;> rfl

@[simp] theorem value?_ofFlag (flag : Bool) :
    (ofFlag flag).value? = if flag then some true else none := by
  cases flag <;> rfl

@[simp] theorem value?_ofText {τ : Type} (parse : τ → Option α) (text : Option τ) :
    (ofText parse text).value? = text.bind parse := by
  cases text with
  | none => rfl
  | some text =>
      simp only [ofText, Option.bind_some]
      cases parse text <;> rfl

@[simp] theorem ofOption_ne_garbled (o : Option α) : ofOption o ≠ garbled := by
  cases o <;> simp [ofOption]

end Layer

/-- What the highest-ranked layer that is not silent says. -/
def governing : List (Layer α) → Layer α
  | [] => .silent
  | .silent :: rest => governing rest
  | layer :: _ => layer

@[simp] theorem governing_nil : governing ([] : List (Layer α)) = .silent := rfl

@[simp] theorem governing_silent (rest : List (Layer α)) :
    governing (.silent :: rest) = governing rest := rfl

@[simp] theorem governing_garbled (rest : List (Layer α)) :
    governing (.garbled :: rest) = .garbled := rfl

@[simp] theorem governing_sets (value : α) (rest : List (Layer α)) :
    governing (.sets value :: rest) = .sets value := rfl

/-- What governs is one of the layers. -/
theorem governing_ne_garbled {stack : List (Layer α)} (h : ∀ layer ∈ stack, layer ≠ .garbled) :
    governing stack ≠ .garbled := by
  induction stack with
  | nil => simp
  | cons layer rest ih =>
      cases layer with
      | silent => exact ih fun layer hlayer => h layer (List.mem_cons_of_mem _ hlayer)
      | garbled => exact absurd rfl (h .garbled List.mem_cons_self)
      | sets value => simp

/-- The highest-ranked layer decides: `effective` is its value, or the fallback if every layer
is silent. What is no value has no effect that would be right. -/
def Prevails (stack : List (Layer α)) (fallback effective : Option α) : Prop :=
  match governing stack with
  | .silent => effective = fallback
  | .garbled => False
  | .sets value => effective = some value

/-! ## An absent option is filled -/

/-- Fill an absent option from layer after layer. -/
def filled (stack : List (Layer α)) : Option α := stack.findSome? Layer.value?

@[simp] theorem filled_nil : filled ([] : List (Layer α)) = none := rfl

/-- The first layer with a value wins. -/
theorem filled_cons (layer : Layer α) (rest : List (Layer α)) :
    filled (layer :: rest) = layer.value?.or (filled rest) := by
  cases layer <;> rfl

/-- While no layer is garbled, filling gives the governing value. -/
theorem filled_eq_governing {stack : List (Layer α)} (h : governing stack ≠ .garbled) :
    filled stack = (governing stack).value? := by
  induction stack with
  | nil => rfl
  | cons layer rest ih =>
      cases layer with
      | silent => exact ih h
      | garbled => exact absurd rfl h
      | sets value => rfl

/-- Filling is right exactly when no garbled layer governs. -/
theorem prevails_filled_iff (stack : List (Layer α)) (fallback : Option α) :
    Prevails stack fallback ((filled stack).or fallback) ↔ governing stack ≠ .garbled := by
  by_cases h : governing stack = .garbled
  · simp [Prevails, h]
  · rw [filled_eq_governing h, Prevails]
    cases hg : governing stack with
    | silent => simp
    | garbled => exact absurd hg h
    | sets value => simp

/-! ## The built-in value is overwritten -/

variable [DecidableEq α]

/-- Take the layer's value if the current one is still the built-in one. -/
def overwrite (builtIn current : α) (layer : Layer α) : α :=
  if current = builtIn then layer.value?.getD current else current

/-- Overwrite the built-in value from layer after layer. -/
def overwritten (builtIn : α) (stack : List (Layer α)) : α :=
  stack.foldl (overwrite builtIn) builtIn

/-- The governing layer is garbled, or it sets the built-in value and a lower layer sets
another one. -/
def Undone (builtIn : α) : List (Layer α) → Prop
  | [] => False
  | .silent :: rest => Undone builtIn rest
  | .garbled :: _ => True
  | .sets value :: rest => value = builtIn ∧ ∃ other, .sets other ∈ rest ∧ other ≠ builtIn

/-- A value that equals the built-in one is overwritten. -/
theorem overwrite_self (builtIn : α) (layer : Layer α) :
    overwrite builtIn builtIn layer = layer.value?.getD builtIn := if_pos rfl

/-- Any other stays. -/
theorem overwrite_of_ne {builtIn current : α} (h : current ≠ builtIn) (layer : Layer α) :
    overwrite builtIn current layer = current := if_neg h

/-- A value that is not the built-in one stays. -/
theorem foldl_overwrite_of_ne {builtIn current : α} (h : current ≠ builtIn)
    (stack : List (Layer α)) : stack.foldl (overwrite builtIn) current = current := by
  induction stack with
  | nil => rfl
  | cons layer rest ih => rw [List.foldl_cons, overwrite_of_ne h, ih]

/-- The first layer is written over the built-in value. -/
theorem overwritten_cons (builtIn : α) (layer : Layer α) (rest : List (Layer α)) :
    overwritten builtIn (layer :: rest) =
      rest.foldl (overwrite builtIn) (layer.value?.getD builtIn) := by
  rw [overwritten, List.foldl_cons, overwrite_self]

/-- A layer without a value leaves no trace. -/
theorem overwritten_of_value?_none {builtIn : α} {layer : Layer α} (h : layer.value? = none)
    (rest : List (Layer α)) : overwritten builtIn (layer :: rest) = overwritten builtIn rest := by
  rw [overwritten_cons, h]
  rfl

/-- A layer that sets the built-in value leaves no trace. -/
theorem overwritten_sets_self (builtIn : α) (rest : List (Layer α)) :
    overwritten builtIn (.sets builtIn :: rest) = overwritten builtIn rest := by
  rw [overwritten_cons]
  rfl

/-- The built-in value is left exactly when no layer sets another one. -/
theorem overwritten_eq_self_iff (builtIn : α) (stack : List (Layer α)) :
    overwritten builtIn stack = builtIn ↔ ∀ other, .sets other ∈ stack → other = builtIn := by
  induction stack with
  | nil => simp [overwritten]
  | cons layer rest ih =>
      cases layer with
      | silent => simpa [overwritten_of_value?_none Layer.value?_silent] using ih
      | garbled => simpa [overwritten_of_value?_none Layer.value?_garbled] using ih
      | sets value =>
          by_cases h : value = builtIn
          · subst h
            rw [overwritten_sets_self, ih]
            simp
          · rw [overwritten_cons, Layer.value?_sets, Option.getD_some,
              foldl_overwrite_of_ne h]
            simp [h]

/-- Overwriting is right exactly when the governing layer is not undone. -/
theorem prevails_overwritten_iff (builtIn : α) (stack : List (Layer α)) :
    Prevails stack (some builtIn) (some (overwritten builtIn stack)) ↔
      ¬ Undone builtIn stack := by
  induction stack with
  | nil => simp [Prevails, Undone, overwritten]
  | cons layer rest ih =>
      cases layer with
      | silent =>
          rw [overwritten_of_value?_none Layer.value?_silent]
          exact ih
      | garbled => simp [Prevails, Undone]
      | sets value =>
          by_cases h : value = builtIn
          · subst h
            rw [overwritten_sets_self]
            simp [Prevails, Undone, overwritten_eq_self_iff]
          · rw [overwritten_cons, Layer.value?_sets, Option.getD_some,
              foldl_overwrite_of_ne h]
            simp [Prevails, Undone, h]

end Layers
