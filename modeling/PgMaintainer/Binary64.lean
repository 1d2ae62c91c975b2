import Mathlib.Algebra.Order.Field.Power
import Mathlib.Data.Int.Log
import Mathlib.Data.Rat.Floor

/-!
# Floating point of 64 bits

The values of IEEE 754 binary64 as comparisons, products and conversions see them. A finite value is
its rational number, so that the two zeros are one. Rounding is to the nearest value, and to the
even one of two.
-/

namespace Binary64

/-! ## Rounding -/

/-- The nearest integer, and the even one of two. -/
def roundEven (q : ℚ) : Int :=
  if q - ⌊q⌋ < 1 / 2 ∨ q - ⌊q⌋ = 1 / 2 ∧ ⌊q⌋ % 2 = 0 then ⌊q⌋ else ⌊q⌋ + 1

/-- The exponent of the last bit of the values around `q`. -/
def lastBit (q : ℚ) : Int := max (Int.log 2 |q|) (-1022) - 52

/-- The nearest multiple of the last bit. -/
def nearest (q : ℚ) : ℚ := roundEven (q / 2 ^ lastBit q) * 2 ^ lastBit q

section Nearest

variable {p q : ℚ} {n : Int}

end Nearest

/-! ## Values -/

/-- A value: a number, an infinity, or not a number. -/
inductive F64 where
  | nan
  | infinite (negative : Bool)
  | finite (q : ℚ)
  deriving DecidableEq, Repr

namespace F64

instance (n : Nat) : OfNat F64 n := ⟨.finite n⟩

/-- `x < y`, which is false of what is not a number. -/
protected def Less : F64 → F64 → Prop
  | .finite p, .finite q => p < q
  | .infinite true, .finite _ | .infinite true, .infinite false | .finite _, .infinite false => True
  | _, _ => False

/-- `x <= y`, which is false of what is not a number. -/
protected def AtMost : F64 → F64 → Prop
  | .finite p, .finite q => p ≤ q
  | .infinite true, .finite _ | .infinite true, .infinite _ | .finite _, .infinite false
  | .infinite false, .infinite false => True
  | _, _ => False

instance : LT F64 := ⟨F64.Less⟩

instance : LE F64 := ⟨F64.AtMost⟩

instance : DecidableRel (α := F64) (· < ·)
  | .finite p, .finite q => inferInstanceAs (Decidable (p < q))
  | .infinite true, .finite _ => .isTrue trivial
  | .infinite true, .infinite false => .isTrue trivial
  | .finite _, .infinite false => .isTrue trivial
  | .infinite true, .infinite true => .isFalse id
  | .infinite false, .infinite _ => .isFalse id
  | .infinite false, .finite _ => .isFalse id
  | .finite _, .infinite true => .isFalse id
  | .nan, _ => .isFalse id
  | .infinite true, .nan => .isFalse id
  | .infinite false, .nan => .isFalse id
  | .finite _, .nan => .isFalse id

instance : DecidableRel (α := F64) (· ≤ ·)
  | .finite p, .finite q => inferInstanceAs (Decidable (p ≤ q))
  | .infinite true, .finite _ => .isTrue trivial
  | .infinite true, .infinite _ => .isTrue trivial
  | .finite _, .infinite false => .isTrue trivial
  | .infinite false, .infinite false => .isTrue trivial
  | .infinite false, .infinite true => .isFalse id
  | .infinite false, .finite _ => .isFalse id
  | .finite _, .infinite true => .isFalse id
  | .nan, _ => .isFalse id
  | .infinite true, .nan => .isFalse id
  | .infinite false, .nan => .isFalse id
  | .finite _, .nan => .isFalse id

/-- The nearest value. What would have an exponent above 1023 is an infinity. -/
def round (q : ℚ) : F64 :=
  if |nearest q| < 2 ^ 1024 then .finite (nearest q) else .infinite (decide (q < 0))

/-- Whether the value is below zero. -/
def isNegative : F64 → Bool
  | .nan => false
  | .infinite negative => negative
  | .finite q => decide (q < 0)

/-- The product. -/
protected def mul : F64 → F64 → F64
  | .finite p, .finite q => round (p * q)
  | .nan, _ | _, .nan => .nan
  | x, y =>
    if x = 0 ∨ y = 0 then .nan else .infinite (xor x.isNegative y.isNegative)

instance : Mul F64 := ⟨F64.mul⟩

/-- The conversion to a signed integer of 64 bits: towards zero, and saturating. -/
def toI64 : F64 → Int
  | .nan => 0
  | .infinite true => -(2 ^ 63)
  | .infinite false => 2 ^ 63 - 1
  | .finite q => max (-(2 ^ 63)) (min (2 ^ 63 - 1) (if 0 ≤ q then ⌊q⌋ else ⌈q⌉))

/-- The number, if it is one. -/
def toRat? : F64 → Option ℚ
  | .finite q => some q
  | _ => none

section Lemmas

variable {x y : F64} {p q : ℚ}

@[simp] theorem finite_lt : finite p < finite q ↔ p < q := Iff.rfl

@[simp] theorem finite_le : finite p ≤ finite q ↔ p ≤ q := Iff.rfl

end Lemmas

end F64

end Binary64
