import Mathlib.Data.List.Infix
import PgMaintainer.Dsn.Uri
import PgMaintainer.Utf8

/-!
# Percent escapes

What percent decoding should do, and how `percent_decode` compares: it decodes `%+5` too, since a
number parser tells it whether two bytes are digits, and it panics where the two bytes behind a `%`
end inside a character.
-/

namespace PgMaintainer

/-! ## The escapes -/

/-- The byte that two hexadecimal digits denote. -/
def hexPair (high low : UInt8) : Option UInt8 := do
  let h ← hexDigit high
  let l ← hexDigit low
  pure (16 * h + l)

/-- From left to right, each `%` before two hexadecimal digits and these digits become the byte
they denote, and every other byte stays. -/
def decodeEscapes : List UInt8 → List UInt8
  | [] => []
  | [b] => [b]
  | [b, c] => [b, c]
  | b :: high :: low :: rest =>
    match hexPair high low with
    | some value => if b = 0x25 then value :: decodeEscapes rest
      else b :: decodeEscapes (high :: low :: rest)
    | none => b :: decodeEscapes (high :: low :: rest)

/-- A `%` with a plus sign and a hexadecimal digit behind it. -/
def plusEscapeAt : List UInt8 → Bool
  | percent :: plus :: digit :: _ =>
    percent = 0x25 && plus = 0x2B && (hexDigit digit).isSome
  | _ => false

/-- A `%` whose third byte behind it continues a character. -/
def cutAt : List UInt8 → Bool
  | percent :: _ :: _ :: b :: _ => percent = 0x25 && Text.isContinuation b
  | _ => false

/-- Somewhere there is a plus sign where a digit should be. -/
def HasPlusEscape (bytes : List UInt8) : Prop := ∃ rest ∈ bytes.tails, plusEscapeAt rest = true

/-- Somewhere the two bytes behind a `%` end inside a character. -/
def CutsCharacter (bytes : List UInt8) : Prop := ∃ rest ∈ bytes.tails, cutAt rest = true

instance (bytes : List UInt8) : Decidable (HasPlusEscape bytes) :=
  inferInstanceAs (Decidable (∃ rest ∈ bytes.tails, plusEscapeAt rest = true))

instance (bytes : List UInt8) : Decidable (CutsCharacter bytes) :=
  inferInstanceAs (Decidable (∃ rest ∈ bytes.tails, cutAt rest = true))

/-- An escape with a plus is at the front or further on. -/
theorem has_plus_escape_cons (b : UInt8) (bytes : List UInt8) :
    HasPlusEscape (b :: bytes) ↔ plusEscapeAt (b :: bytes) = true ∨ HasPlusEscape bytes := by
  simp [HasPlusEscape, List.tails]

/-- So is one that cuts a character. -/
theorem cuts_character_cons (b : UInt8) (bytes : List UInt8) :
    CutsCharacter (b :: bytes) ↔ cutAt (b :: bytes) = true ∨ CutsCharacter bytes := by
  simp [CutsCharacter, List.tails]

/-- A byte that is no percent sign begins nothing. -/
theorem cuts_character_skip {b : UInt8} (hb : b ≠ 0x25) (bytes : List UInt8) :
    CutsCharacter (b :: bytes) ↔ CutsCharacter bytes := by
  rw [cuts_character_cons]
  refine or_iff_right ?_
  rcases bytes with _ | ⟨_, _ | ⟨_, _ | ⟨_, _⟩⟩⟩ <;> simp [cutAt, hb]

/-- Only a percent sign begins an escape. -/
theorem has_plus_escape_skip {b : UInt8} (hb : b ≠ 0x25) (bytes : List UInt8) :
    HasPlusEscape (b :: bytes) ↔ HasPlusEscape bytes := by
  rw [has_plus_escape_cons]
  refine or_iff_right ?_
  rcases bytes with _ | ⟨_, _ | ⟨_, _⟩⟩ <;> simp [plusEscapeAt, hb]

/-- No digit is a percent sign. -/
theorem hex_digit_percent {b value : UInt8} (h : hexDigit b = some value) : b ≠ 0x25 := by
  rintro rfl
  have hnone : hexDigit 0x25 = none := by decide
  simp [hnone] at h

/-- Where the number parser finds a byte, there are two digits, or a plus sign and a digit. -/
theorem from_hex_cases {high low value : UInt8} (h : fromHex high low = some value) :
    (high = 0x2B ∧ hexDigit low = some value) ∨
      (high ≠ 0x2B ∧ high ≠ 0x25 ∧ low ≠ 0x25 ∧ hexPair high low = some value) := by
  unfold fromHex at h
  split at h
  case isTrue hplus => exact .inl ⟨hplus, h⟩
  case isFalse hplus =>
    obtain ⟨a, ha, h'⟩ := Option.bind_eq_some_iff.1 h
    obtain ⟨b, hb, -⟩ := Option.bind_eq_some_iff.1 h'
    exact .inr ⟨hplus, hex_digit_percent ha, hex_digit_percent hb, h⟩

/-- Where it finds none, there are not two digits. -/
theorem hex_pair_of_from_hex {high low : UInt8} (h : fromHex high low = none) :
    hexPair high low = none := by
  unfold fromHex at h
  split at h
  case isTrue hplus =>
    subst hplus
    rfl
  case isFalse => exact h

/-- A digit behind a plus sign is less than sixteen. -/
theorem hex_digit_lt {b value : UInt8} (h : hexDigit b = some value) : value.toNat < 16 := by
  have hall : ∀ n < 256, ∀ value ∈ hexDigit (UInt8.ofNat n), value.toNat < 16 := by
    set_option maxRecDepth 4000 in decide
  have hb := hall b.toNat (UInt8.toNat_lt b) value
  rw [UInt8.ofNat_toNat] at hb
  exact hb h

/-- A text may be cut before its first character. -/
theorem as_bytes_boundary (s : Text) (rest : List UInt8) (hrest : isCharBoundary rest = true) :
    isCharBoundary (s.asBytes ++ rest) = true := by
  cases s with
  | nil => exact hrest
  | cons c s =>
      obtain ⟨b, tail, hbytes, hb, -⟩ := Text.encoded_head c
      simp [Text.as_bytes_cons, hbytes, isCharBoundary, hb]

/-! ## What the loop does -/

/-- A byte that is no percent sign stays. -/
theorem percent_decode_cons {b : UInt8} (hb : b ≠ 0x25) (bytes : List UInt8) :
    percentDecodeBytes (b :: bytes) = (b :: ·) <$> percentDecodeBytes bytes := by
  rcases bytes with _ | ⟨high, _ | ⟨low, rest⟩⟩
  · rfl
  · rfl
  · rw [percentDecodeBytes, if_neg hb]

/-- A percent sign before two digits is decoded with them, if the text may be cut there. -/
theorem percent_decode_escape {high low value : UInt8} {rest : List UInt8}
    (hrest : isCharBoundary rest = true) (h : fromHex high low = some value) :
    percentDecodeBytes (0x25 :: high :: low :: rest) =
      (value :: ·) <$> percentDecodeBytes rest := by
  rw [percentDecodeBytes, if_pos rfl, if_pos hrest, h]

/-- Putting a byte in front changes no panic. -/
theorem map_error_iff {ε α β : Type} {x : Except ε α} {f : α → β} {e : ε} :
    f <$> x = .error e ↔ x = .error e := by
  cases x with
  | error e' =>
      show Except.error e' = .error e ↔ Except.error e' = .error e
      rw [Except.error.injEq, Except.error.injEq]
  | ok => exact ⟨nofun, nofun⟩

/-- An escape cuts a character if what is left of the text begins within one. -/
theorem cut_at_iff (b high low : UInt8) (rest : List UInt8) :
    cutAt (b :: high :: low :: rest) = true ↔ b = 0x25 ∧ isCharBoundary rest = false := by
  cases rest <;> simp [cutAt, isCharBoundary]

/-- Whether a percent sign begins a cut is decided by the byte behind its two bytes. -/
theorem cuts_character_percent (high low : UInt8) (rest : List UInt8) :
    CutsCharacter (0x25 :: high :: low :: rest) ↔
      isCharBoundary rest = false ∨ CutsCharacter (high :: low :: rest) := by
  rw [cuts_character_cons, cut_at_iff]
  simp

/-- Three bytes have no third behind a percent sign. -/
theorem not_cuts_short {bytes : List UInt8} (h : bytes.length < 4) : ¬CutsCharacter bytes := by
  intro ⟨rest, hrest, hat⟩
  have hle := ((List.mem_tails ..).1 hrest).length_le
  rcases rest with _ | ⟨_, _ | ⟨_, _ | ⟨_, _ | ⟨_, rest⟩⟩⟩⟩
  · cases hat
  · cases hat
  · cases hat
  · cases hat
  · simp only [List.length_cons] at hle
    omega

/-- The loop panics if and only if the two bytes behind some percent sign end inside a character.
It reaches every percent sign, since none is a digit. -/
theorem percent_decode_panics_iff (bytes : List UInt8) :
    percentDecodeBytes bytes = .error .panic ↔ CutsCharacter bytes := by
  fun_induction percentDecodeBytes bytes with
  | case1 => exact ⟨nofun, fun h => absurd h (not_cuts_short (by simp))⟩
  | case2 => exact ⟨nofun, fun h => absurd h (not_cuts_short (by simp))⟩
  | case3 => exact ⟨nofun, fun h => absurd h (not_cuts_short (by simp))⟩
  | case4 high low rest hrest value hvalue ih =>
      have hdigits : high ≠ 0x25 ∧ low ≠ 0x25 := by
        rcases from_hex_cases hvalue with ⟨rfl, hlow⟩ | ⟨-, hhigh, hlow, -⟩
        · exact ⟨by decide, hex_digit_percent hlow⟩
        · exact ⟨hhigh, hlow⟩
      have hskip : CutsCharacter (0x25 :: high :: low :: rest) ↔ CutsCharacter rest := by
        rw [cuts_character_percent, cuts_character_skip hdigits.1, cuts_character_skip hdigits.2]
        simp [hrest]
      exact map_error_iff.trans (ih.trans hskip.symm)
  | case5 high low rest hrest hvalue ih =>
      refine map_error_iff.trans (ih.trans ?_)
      rw [cuts_character_percent]
      simp [hrest]
  | case6 high low rest hrest =>
      rw [cuts_character_percent]
      exact ⟨fun _ => .inl (by simpa using hrest), fun _ => rfl⟩
  | case7 b high low rest hb ih =>
      exact map_error_iff.trans (ih.trans (cuts_character_skip hb _).symm)

/-- The loop has no other error. -/
theorem percent_decode_error {bytes : List UInt8} {halt : Halt}
    (h : percentDecodeBytes bytes = .error halt) : halt = .panic := by
  fun_induction percentDecodeBytes bytes with
  | case1 | case2 | case3 => cases h
  | case4 high low rest hrest value hvalue ih => exact ih (map_error_iff.1 h)
  | case5 high low rest hrest hvalue ih => exact ih (map_error_iff.1 h)
  | case6 => exact (Except.error.inj h).symm
  | case7 b high low rest hb ih => exact ih (map_error_iff.1 h)

end PgMaintainer
