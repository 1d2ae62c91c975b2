import PgMaintainer.Text

/-!
# UTF-8

The lossy reader of `Text` reads what `as_bytes` wrote, character by character, and a byte below
`0x80` is a character of its own wherever it stands.
-/

namespace PgMaintainer

namespace Text

/-! ## One character -/

/-- The value of a byte written as a number below 256. -/
theorem toNat_ofNat {n : Nat} (h : n < 256) : (UInt8.ofNat n).toNat = n := by
  rw [UInt8.toNat_ofNat']
  exact Nat.mod_eq_of_lt h

/-- A character is a number below `0xD800`, or from `0xE000` on and below `0x110000`. -/
theorem char_valid (c : Char) : c.toNat < 0xD800 ∨ (0xE000 ≤ c.toNat ∧ c.toNat < 0x110000) := by
  rcases c.valid with h | ⟨hlow, hhigh⟩
  · exact .inl h
  · exact .inr ⟨by have : 0xDFFF < c.toNat := hlow; omega, hhigh⟩

/-- A byte that continues a character, by its number. -/
theorem continuation_iff (b : UInt8) :
    isContinuation b = true ↔ 0x80 ≤ b.toNat ∧ b.toNat ≤ 0xBF := by
  simp [isContinuation, UInt8.le_iff_toNat_le]

/-- A second byte within its bounds, and bytes that continue. -/
theorem well_formed_of {low high b : UInt8} {rest : List UInt8} (hlow : low.toNat ≤ b.toNat)
    (hhigh : b.toNat ≤ high.toNat) (hrest : ∀ c ∈ rest, isContinuation c = true) :
    wellFormed low high (b :: rest) = (b :: rest).length := by
  have hall : rest.takeWhile isContinuation = rest := List.takeWhile_eq_self_iff.2 hrest
  rw [wellFormed, if_pos ⟨UInt8.le_iff_toNat_le.2 hlow, UInt8.le_iff_toNat_le.2 hhigh⟩, hall,
    List.length_cons, Nat.add_comm]

/-- A lead byte with the bytes it asks for. -/
theorem first_char_of_lead {b low high second : UInt8} {n : Nat} (tail rest : List UInt8)
    (hb : 0x80 ≤ b.toNat)
    (hlead : leadByte b = some (low, high, (second :: tail).length))
    (hlow : low.toNat ≤ second.toNat) (hhigh : second.toNat ≤ high.toNat)
    (htail : ∀ c ∈ tail, isContinuation c = true)
    (hcode : (second :: tail).foldl (fun code c => 64 * code + c.toNat % 64)
      (b.toNat % 2 ^ (6 - (second :: tail).length)) = n) :
    firstChar b (second :: tail ++ rest) = (Char.ofNat n, (second :: tail).length) := by
  have hnot : ¬b < 0x80 := by
    rw [UInt8.lt_iff_toNat_lt]
    show ¬b.toNat < 128
    omega
  have htake : (second :: tail ++ rest).take (second :: tail).length = second :: tail :=
    List.take_left' rfl
  rw [firstChar, if_neg hnot, hlead]
  simp only [htake, well_formed_of hlow hhigh htail, if_true, hcode]

/-- The first byte of a character of two. -/
theorem lead_byte_two {b : UInt8} (hlow : 0xC2 ≤ b.toNat) (hhigh : b.toNat ≤ 0xDF) :
    leadByte b = some (0x80, 0xBF, 1) := by
  rw [leadByte, if_pos]
  simp only [UInt8.le_iff_toNat_le]
  exact ⟨hlow, hhigh⟩

/-- After `0xE0` and `0xED` the second byte has bounds of its own: the other values would be
a shorter character written long, or a surrogate. -/
theorem lead_byte_three {b : UInt8} (hlow : 0xE0 ≤ b.toNat) (hhigh : b.toNat ≤ 0xEF) :
    leadByte b = some (if b.toNat = 0xE0 then 0xA0 else 0x80,
      if b.toNat = 0xED then 0x9F else 0xBF, 2) := by
  simp only [leadByte, UInt8.le_iff_toNat_le, ← UInt8.toNat_inj]
  simp only [show (0xC2 : UInt8).toNat = 0xC2 from rfl, show (0xDF : UInt8).toNat = 0xDF from rfl,
    show (0xE0 : UInt8).toNat = 0xE0 from rfl, show (0xED : UInt8).toNat = 0xED from rfl,
    show (0xE1 : UInt8).toNat = 0xE1 from rfl, show (0xEF : UInt8).toNat = 0xEF from rfl]
  rw [if_neg (by omega)]
  by_cases hfirst : b.toNat = 0xE0
  · simp [hfirst]
  by_cases hsurrogate : b.toNat = 0xED
  · simp [hsurrogate]
  · simp [hfirst, hsurrogate]
    omega

/-- After `0xF0` and `0xF4` the second byte has bounds of its own: the other values would be
a shorter character written long, or beyond the last one. -/
theorem lead_byte_four {b : UInt8} (hlow : 0xF0 ≤ b.toNat) (hhigh : b.toNat ≤ 0xF4) :
    leadByte b = some (if b.toNat = 0xF0 then 0x90 else 0x80,
      if b.toNat = 0xF4 then 0x8F else 0xBF, 3) := by
  have hcases : ∀ n, 0xF0 ≤ n → n ≤ 0xF4 → leadByte (UInt8.ofNat n) =
      some (if n = 0xF0 then 0x90 else 0x80, if n = 0xF4 then 0x8F else 0xBF, 3) := by
    intro n hlow hhigh
    obtain rfl | rfl | rfl | rfl | rfl :
      n = 0xF0 ∨ n = 0xF1 ∨ n = 0xF2 ∨ n = 0xF3 ∨ n = 0xF4 := by omega
    all_goals rfl
  have h := hcases b.toNat hlow hhigh
  rwa [UInt8.ofNat_toNat] at h

section Sizes

variable {b1 b2 b3 b4 : UInt8} {n : Nat} (rest : List UInt8)

/-- A character of two bytes. -/
theorem first_char_two (h1 : b1.toNat = n / 64 + 0xC0) (h2 : b2.toNat = n % 64 + 0x80)
    (hlow : 0x80 ≤ n) (hhigh : n < 0x800) : firstChar b1 (b2 :: rest) = (Char.ofNat n, 1) := by
  refine first_char_of_lead [] rest (by omega) (lead_byte_two (by omega) (by omega))
    ?_ ?_ (by simp) ?_
  · show 0x80 ≤ b2.toNat
    omega
  · show b2.toNat ≤ 0xBF
    omega
  · show 64 * (b1.toNat % 2 ^ 5) + b2.toNat % 64 = n
    omega

/-- A character of three bytes, not a surrogate. -/
theorem first_char_three (h1 : b1.toNat = n / 4096 + 0xE0) (h2 : b2.toNat = n / 64 % 64 + 0x80)
    (h3 : b3.toNat = n % 64 + 0x80) (hlow : 0x800 ≤ n) (hhigh : n < 0x10000)
    (hvalid : n < 0xD800 ∨ 0xE000 ≤ n) :
    firstChar b1 (b2 :: b3 :: rest) = (Char.ofNat n, 2) := by
  refine first_char_of_lead [b3] rest (by omega) (lead_byte_three (by omega) (by omega))
    ?_ ?_ ?_ ?_
  · split
    · show 0xA0 ≤ b2.toNat
      omega
    · show 0x80 ≤ b2.toNat
      omega
  · split
    · show b2.toNat ≤ 0x9F
      omega
    · show b2.toNat ≤ 0xBF
      omega
  · simp only [List.mem_singleton, forall_eq, continuation_iff]
    omega
  · show 64 * (64 * (b1.toNat % 2 ^ 4) + b2.toNat % 64) + b3.toNat % 64 = n
    omega

/-- A character of four bytes. -/
theorem first_char_four (h1 : b1.toNat = n / 262144 + 0xF0) (h2 : b2.toNat = n / 4096 % 64 + 0x80)
    (h3 : b3.toNat = n / 64 % 64 + 0x80) (h4 : b4.toNat = n % 64 + 0x80) (hlow : 0x10000 ≤ n)
    (hhigh : n < 0x110000) : firstChar b1 (b2 :: b3 :: b4 :: rest) = (Char.ofNat n, 3) := by
  refine first_char_of_lead [b3, b4] rest (by omega)
    (lead_byte_four (by omega) (by omega)) ?_ ?_ ?_ ?_
  · split
    · show 0x90 ≤ b2.toNat
      omega
    · show 0x80 ≤ b2.toNat
      omega
  · split
    · show b2.toNat ≤ 0x8F
      omega
    · show b2.toNat ≤ 0xBF
      omega
  · simp only [List.mem_cons, List.not_mem_nil, or_false, forall_eq_or_imp, forall_eq,
      continuation_iff]
    omega
  · show 64 * (64 * (64 * (b1.toNat % 2 ^ 3) + b2.toNat % 64) + b3.toNat % 64) + b4.toNat % 64 = n
    omega

end Sizes

/-- The bytes of a character are read as the character. -/
theorem first_char_encoded (c : Char) (rest : List UInt8) : ∃ b tail,
    String.utf8EncodeChar c = b :: tail ∧ firstChar b (tail ++ rest) = (c, tail.length) := by
  have hvalid := char_valid c
  have hc : Char.ofNat c.toNat = c := Char.ofNat_toNat c
  unfold String.utf8EncodeChar
  simp only [show c.val.toNat = c.toNat from rfl]
  generalize c.toNat = n at *
  -- the continuation bytes hold six bits each, the first byte the rest
  have hlast : (UInt8.ofNat (n % 64 + 0x80)).toNat = n % 64 + 0x80 := toNat_ofNat (by omega)
  have hmid : ∀ m, (UInt8.ofNat (m % 64 + 0x80)).toNat = m % 64 + 0x80 := fun m =>
    toNat_ofNat (by omega)
  split
  case isTrue hone =>
    refine ⟨_, _, rfl, ?_⟩
    have hb : (UInt8.ofNat n).toNat = n := toNat_ofNat (by omega)
    have hlow : UInt8.ofNat n < 0x80 := by
      rw [UInt8.lt_iff_toNat_lt, hb]
      show n < 128
      omega
    simp [firstChar, hlow, hb, hc]
  split
  case isFalse.isTrue htwo =>
    refine ⟨_, _, rfl, ?_⟩
    have h1 : (UInt8.ofNat (n / 64 % 32 + 0xC0)).toNat = n / 64 + 0xC0 := by
      rw [toNat_ofNat (by omega)]
      omega
    exact hc ▸ first_char_two rest h1 hlast (by omega) (by omega)
  split
  case isFalse.isFalse.isTrue hthree =>
    refine ⟨_, _, rfl, ?_⟩
    have h1 : (UInt8.ofNat (n / 4096 % 16 + 0xE0)).toNat = n / 4096 + 0xE0 := by
      rw [toNat_ofNat (by omega)]
      omega
    exact hc ▸ first_char_three rest h1 (hmid _) hlast (by omega) (by omega) (by omega)
  case isFalse.isFalse.isFalse =>
    refine ⟨_, _, rfl, ?_⟩
    have h1 : (UInt8.ofNat (n / 262144 % 8 + 0xF0)).toNat = n / 262144 + 0xF0 := by
      rw [toNat_ofNat (by omega)]
      omega
    exact hc ▸ first_char_four rest h1 (hmid _) (hmid _) hlast (by omega) (by omega)

/-- A character below `0x80` is one byte. -/
theorem encoded_ascii {c : Char} (hc : c.toNat < 0x80) :
    String.utf8EncodeChar c = [UInt8.ofNat c.toNat] := by
  have hone : c.val.toNat ≤ 0x7F := Nat.le_of_lt_succ hc
  rw [String.utf8EncodeChar]
  exact if_pos hone

/-- Any other is a byte that begins it and bytes that continue it. -/
theorem encoded_high {c : Char} (hc : 0x80 ≤ c.toNat) : ∃ b second tail,
    String.utf8EncodeChar c = b :: second :: tail ∧ 0xC0 ≤ b.toNat ∧
      ∀ x ∈ second :: tail, isContinuation x = true := by
  have hvalid := char_valid c
  unfold String.utf8EncodeChar
  simp only [show c.val.toNat = c.toNat from rfl]
  generalize c.toNat = n at *
  -- every byte but the first is below the next lead byte
  have hmid : ∀ m, isContinuation (UInt8.ofNat (m % 64 + 0x80)) = true := by
    intro m
    rw [continuation_iff, toNat_ofNat (by omega)]
    omega
  rw [if_neg (by omega)]
  split
  · refine ⟨_, _, _, rfl, ?_, by
      simp only [List.forall_mem_cons, hmid, List.not_mem_nil, false_imp_iff, implies_true,
        and_self]⟩
    rw [toNat_ofNat (by omega)]
    omega
  split
  · refine ⟨_, _, _, rfl, ?_, by
      simp only [List.forall_mem_cons, hmid, List.not_mem_nil, false_imp_iff, implies_true,
        and_self]⟩
    rw [toNat_ofNat (by omega)]
    omega
  · refine ⟨_, _, _, rfl, ?_, by
      simp only [List.forall_mem_cons, hmid, List.not_mem_nil, false_imp_iff, implies_true,
        and_self]⟩
    rw [toNat_ofNat (by omega)]
    omega

/-- A character begins with a byte that continues none. -/
theorem encoded_head (c : Char) : ∃ b tail, String.utf8EncodeChar c = b :: tail ∧
    isContinuation b = false ∧ ∀ x ∈ tail, isContinuation x = true := by
  by_cases hc : c.toNat < 0x80
  · refine ⟨_, [], encoded_ascii hc, ?_, by simp⟩
    rw [Bool.eq_false_iff, ne_eq, continuation_iff, toNat_ofNat (by omega)]
    omega
  · obtain ⟨b, second, tail, hbytes, hb, htail⟩ := encoded_high (by omega : 0x80 ≤ c.toNat)
    refine ⟨b, second :: tail, hbytes, ?_, htail⟩
    rw [Bool.eq_false_iff, ne_eq, continuation_iff]
    omega

/-! ## Texts -/

@[simp] theorem as_bytes_nil : asBytes [] = [] := rfl

@[simp] theorem as_bytes_cons (c : Char) (s : Text) :
    asBytes (c :: s) = String.utf8EncodeChar c ++ asBytes s := by
  rw [asBytes, List.flatMap_cons]
  rfl

@[simp] theorem as_bytes_append (s t : Text) : asBytes (s ++ t) = asBytes s ++ asBytes t :=
  List.flatMap_append

/-- The reader gives back what was encoded, whatever follows. -/
theorem lossy_as_bytes_append (s : Text) (rest : List UInt8) :
    fromUtf8Lossy (s.asBytes ++ rest) = s ++ fromUtf8Lossy rest := by
  induction s with
  | nil => rfl
  | cons c s ih =>
      obtain ⟨b, tail, hbytes, hfirst⟩ := first_char_encoded c (asBytes s ++ rest)
      have hcut : asBytes (c :: s) ++ rest = b :: (tail ++ (asBytes s ++ rest)) := by
        simp [hbytes]
      rw [hcut, fromUtf8Lossy, hfirst]
      simp [ih]

/-- Reading what was encoded. -/
theorem lossy_as_bytes (s : Text) : fromUtf8Lossy s.asBytes = s := by
  have h := lossy_as_bytes_append s []
  rwa [List.append_nil, fromUtf8Lossy, List.append_nil] at h

/-! ## Bytes below `0x80` -/

/-- A byte below `0x80` ends what a lead byte asks for. -/
theorem take_while_append_ascii {a : UInt8} (ha : a.toNat < 0x80) (pre rest : List UInt8) :
    (pre ++ a :: rest).takeWhile isContinuation = pre.takeWhile isContinuation := by
  have hstop : isContinuation a = false := by
    rw [Bool.eq_false_iff, ne_eq, continuation_iff]
    omega
  induction pre with
  | nil => simp [hstop]
  | cons b pre ih => by_cases hb : isContinuation b = true <;> simp [hb, ih]

/-- An ASCII byte ends what is well formed before a continuation byte. -/
theorem well_formed_append_ascii {a low high : UInt8} (ha : a.toNat < 0x80)
    (hlow : 0x80 ≤ low.toNat) (pre rest : List UInt8) :
    wellFormed low high (pre ++ a :: rest) = wellFormed low high pre := by
  cases pre with
  | nil =>
      have hstop : ¬(low ≤ a ∧ a ≤ high) := by
        intro h
        have := UInt8.le_iff_toNat_le.1 h.1
        omega
      simp [wellFormed, hstop]
  | cons b pre => simp [wellFormed, take_while_append_ascii ha]

/-- The bounds of a second byte are above `0x80`. -/
theorem lead_byte_low {b low high : UInt8} {n : Nat} (h : leadByte b = some (low, high, n)) :
    0x80 ≤ low.toNat := by
  unfold leadByte at h
  repeat' split at h
  all_goals cases h
  all_goals decide

/-- No more is well formed than there is. -/
theorem well_formed_le (low high : UInt8) (bytes : List UInt8) :
    wellFormed low high bytes ≤ bytes.length := by
  cases bytes with
  | nil => exact Nat.le_refl 0
  | cons b rest =>
      have htake := (rest.takeWhile_sublist isContinuation).length_le
      rw [wellFormed, List.length_cons]
      split
      · omega
      · exact Nat.zero_le _

/-- What a lead byte finds before a byte below `0x80` is all it finds, and it takes no more. -/
theorem first_char_append_ascii {a : UInt8} (ha : a.toNat < 0x80) (b : UInt8)
    (pre rest : List UInt8) : firstChar b (pre ++ a :: rest) = firstChar b pre ∧
      (firstChar b pre).2 ≤ pre.length := by
  unfold firstChar
  split
  case isTrue => exact ⟨rfl, Nat.zero_le _⟩
  split
  case h_1 => exact ⟨rfl, Nat.zero_le _⟩
  case h_2 low high n hlead =>
    have hlow := lead_byte_low hlead
    by_cases hn : n ≤ pre.length
    · rw [List.take_append_of_le_length hn]
      refine ⟨rfl, ?_⟩
      have hgood := well_formed_le low high (pre.take n)
      rw [List.length_take] at hgood
      by_cases hall : wellFormed low high (pre.take n) = n
      · simpa only [hall, if_true] using hn
      · simp only [hall, if_false]
        omega
    · -- the byte below `0x80` stands where a continuation was asked for
      have hcut : (pre ++ a :: rest).take n = pre ++ a :: rest.take (n - pre.length - 1) := by
        rw [List.take_append, List.take_of_length_le (by omega)]
        obtain ⟨k, hk⟩ : ∃ k, n - pre.length = k + 1 := ⟨n - pre.length - 1, by omega⟩
        rw [hk]
        rfl
      have hall : pre.take n = pre := List.take_of_length_le (by omega)
      have hgood := well_formed_le low high pre
      have hnot : wellFormed low high pre ≠ n := by omega
      rw [hcut, hall, well_formed_append_ascii ha hlow]
      simp only [hnot, if_false]
      exact ⟨trivial, hgood⟩

/-- A byte below `0x80` is a character of its own, and the bytes before it are read without it. By
induction on how many there are: each character takes some of them. -/
theorem lossy_append_ascii {a : UInt8} (ha : a.toNat < 0x80) (pre rest : List UInt8) :
    fromUtf8Lossy (pre ++ a :: rest) =
      fromUtf8Lossy pre ++ Char.ofNat a.toNat :: fromUtf8Lossy rest := by
  induction hlength : pre.length using Nat.strongRecOn generalizing pre with
  | ind n ih =>
      cases pre with
      | nil =>
          have hlow : a < 0x80 := UInt8.lt_iff_toNat_lt.2 ha
          simp [fromUtf8Lossy, firstChar, hlow]
      | cons b pre =>
          obtain ⟨hsame, htakes⟩ := first_char_append_ascii ha b pre rest
          have hdrop : (pre ++ a :: rest).drop (firstChar b pre).2 =
              pre.drop (firstChar b pre).2 ++ a :: rest := List.drop_append_of_le_length htakes
          have ih := ih (pre.drop (firstChar b pre).2).length (by simp at hlength ⊢; omega) _ rfl
          rw [List.cons_append, fromUtf8Lossy, hsame, hdrop, ih, fromUtf8Lossy.eq_def (b :: pre)]
          rfl

end Text

end PgMaintainer
