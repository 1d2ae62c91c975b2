import PgMaintainer.Dsn.Percent

/-!
# What percent decoding decodes

`percent_decode` agrees with the escapes as they are defined on every string but those with a plus
sign where the first digit should be, and it always undoes percent encoding.
-/

namespace PgMaintainer

/-! ## The escapes, byte by byte -/

/-- Any byte but a percent sign stands for itself. -/
theorem decode_escapes_cons {b : UInt8} (hb : b ≠ 0x25) (bytes : List UInt8) :
    decodeEscapes (b :: bytes) = b :: decodeEscapes bytes := by
  rcases bytes with _ | ⟨high, _ | ⟨low, rest⟩⟩
  · rfl
  · rfl
  · rw [decodeEscapes]
    split
    · rw [if_neg hb]
    · rfl

/-- Two hexadecimal digits stand for their byte. -/
theorem decode_escapes_pair {high low value : UInt8} (h : hexPair high low = some value)
    (rest : List UInt8) :
    decodeEscapes (0x25 :: high :: low :: rest) = value :: decodeEscapes rest := by
  rw [decodeEscapes, h]
  exact if_pos rfl

/-- Without them the percent sign stands for itself. -/
theorem decode_escapes_none {high low : UInt8} (h : hexPair high low = none) (rest : List UInt8) :
    decodeEscapes (0x25 :: high :: low :: rest) = 0x25 :: decodeEscapes (high :: low :: rest) := by
  rw [decodeEscapes, h]

/-- What a result with a byte in front came from. -/
theorem map_cons_ok {x : Except Halt (List UInt8)} {b : UInt8} {out : List UInt8}
    (h : (b :: ·) <$> x = .ok out) : ∃ tail, x = .ok tail ∧ out = b :: tail := by
  cases x with
  | error => cases h
  | ok tail =>
      cases h
      exact ⟨tail, rfl, rfl⟩

/-- Without a plus sign where a digit should be, what is decoded are the escapes. -/
theorem decoded_of_no_plus {bytes out : List UInt8} (h : percentDecodeBytes bytes = .ok out)
    (hplus : ¬HasPlusEscape bytes) : out = decodeEscapes bytes := by
  fun_induction percentDecodeBytes bytes generalizing out with
  | case1 | case2 | case3 =>
      cases h
      rfl
  | case4 high low rest hrest value hvalue ih =>
      obtain ⟨tail, htail, rfl⟩ := map_cons_ok h
      rcases from_hex_cases hvalue with ⟨rfl, hlow⟩ | ⟨-, hhigh, hlow, hpair⟩
      · exact absurd ((has_plus_escape_cons ..).2 (.inl (by simp [plusEscapeAt, hlow]))) hplus
      · have hrest : ¬HasPlusEscape rest := by
          intro hrest
          refine hplus ((has_plus_escape_cons ..).2 (.inr ?_))
          exact (has_plus_escape_skip hhigh _).2 ((has_plus_escape_skip hlow _).2 hrest)
        rw [decode_escapes_pair hpair, ih htail hrest]
  | case5 high low rest hrest hvalue ih =>
      obtain ⟨tail, htail, rfl⟩ := map_cons_ok h
      rw [decode_escapes_none (hex_pair_of_from_hex hvalue),
        ih htail fun hrest => hplus ((has_plus_escape_cons ..).2 (.inr hrest))]
  | case6 => cases h
  | case7 b high low rest hb ih =>
      obtain ⟨tail, htail, rfl⟩ := map_cons_ok h
      rw [decode_escapes_cons hb,
        ih htail fun hrest => hplus ((has_plus_escape_cons ..).2 (.inr hrest))]

/-- With one, the first such percent sign has become a byte below sixteen. -/
theorem decoded_of_plus {bytes out : List UInt8} (h : percentDecodeBytes bytes = .ok out)
    (hplus : HasPlusEscape bytes) : ∃ pre value rest rest', out = pre ++ value :: rest ∧
      decodeEscapes bytes = pre ++ 0x25 :: rest' ∧ value.toNat < 16 := by
  fun_induction percentDecodeBytes bytes generalizing out with
  | case1 | case2 | case3 => exact absurd hplus (by simp [HasPlusEscape, List.tails, plusEscapeAt])
  | case4 high low rest hrest value hvalue ih =>
      obtain ⟨tail, htail, rfl⟩ := map_cons_ok h
      rcases from_hex_cases hvalue with ⟨rfl, hlow⟩ | ⟨hno, hhigh, hlow, hpair⟩
      · exact ⟨[], value, tail, _, rfl, decode_escapes_none rfl _, hex_digit_lt hlow⟩
      · have hnot : ¬plusEscapeAt (0x25 :: high :: low :: rest) = true := by
          simp [plusEscapeAt, hno]
        have hrest : HasPlusEscape rest := by
          rw [has_plus_escape_cons, has_plus_escape_skip hhigh, has_plus_escape_skip hlow] at hplus
          exact hplus.resolve_left hnot
        obtain ⟨pre, byte, after, after', rfl, hspec, hbyte⟩ := ih htail hrest
        exact ⟨value :: pre, byte, after, after', rfl, by rw [decode_escapes_pair hpair, hspec]; rfl,
          hbyte⟩
  -- the percent sign is kept; without a digit behind it the plus is none of an escape
  | case5 high low rest hrest hvalue ih =>
      obtain ⟨tail, htail, rfl⟩ := map_cons_ok h
      have hnot : ¬plusEscapeAt (0x25 :: high :: low :: rest) = true := by
        intro hat
        simp only [plusEscapeAt, Bool.and_eq_true, decide_eq_true_eq] at hat
        obtain ⟨⟨-, rfl⟩, hlow⟩ := hat
        have hnone : hexDigit low = none := hvalue
        simp [hnone] at hlow
      rw [has_plus_escape_cons] at hplus
      obtain ⟨pre, byte, after, after', rfl, hspec, hbyte⟩ := ih htail (hplus.resolve_left hnot)
      refine ⟨0x25 :: pre, byte, after, after', rfl, ?_, hbyte⟩
      rw [decode_escapes_none (hex_pair_of_from_hex hvalue), hspec]
      rfl
  | case6 => cases h
  | case7 b high low rest hb ih =>
      obtain ⟨tail, htail, rfl⟩ := map_cons_ok h
      obtain ⟨pre, byte, after, after', rfl, hspec, hbyte⟩ :=
        ih htail ((has_plus_escape_skip hb _).1 hplus)
      refine ⟨b :: pre, byte, after, after', rfl, ?_, hbyte⟩
      rw [decode_escapes_cons hb, hspec]
      rfl

/-! ## Encoding -/

/-- The character of a hexadecimal digit. -/
def hexChar (n : Nat) : Char := if n < 10 then Char.ofNat (48 + n) else Char.ofNat (55 + n)

/-- The escape of a byte. -/
def encodeByte (b : UInt8) : Text := ['%', hexChar (b.toNat / 16), hexChar (b.toNat % 16)]

/-- The percent-encoding of a string, in which the characters in `keep` stay as they are. -/
def percentEncode (keep : Char → Bool) (s : Text) : Text :=
  s.flatMap fun c => if keep c then [c] else (String.utf8EncodeChar c).flatMap encodeByte

/-- An escape is read as the byte it was written for. -/
theorem percent_decode_encode_byte (b : UInt8) {rest : List UInt8}
    (hrest : isCharBoundary rest = true) :
    percentDecodeBytes ((encodeByte b).asBytes ++ rest) = (b :: ·) <$> percentDecodeBytes rest := by
  have hdigits : ∀ n < 256, (encodeByte (UInt8.ofNat n)).asBytes =
        [0x25, UInt8.ofNat (hexChar (n / 16)).toNat, UInt8.ofNat (hexChar (n % 16)).toNat] ∧
      fromHex (UInt8.ofNat (hexChar (n / 16)).toNat) (UInt8.ofNat (hexChar (n % 16)).toNat) =
        some (UInt8.ofNat n) := by
    set_option maxRecDepth 8000 in decide
  obtain ⟨hbytes, hvalue⟩ := hdigits b.toNat (UInt8.toNat_lt b)
  rw [UInt8.ofNat_toNat] at hbytes hvalue
  rw [hbytes]
  exact percent_decode_escape hrest hvalue

/-- Bytes that are no percent signs stay. -/
theorem percent_decode_append {bytes : List UInt8} (hbytes : ∀ b ∈ bytes, b ≠ 0x25)
    (rest : List UInt8) :
    percentDecodeBytes (bytes ++ rest) = (bytes ++ ·) <$> percentDecodeBytes rest := by
  induction bytes with
  | nil =>
      show percentDecodeBytes rest = (([] : List UInt8) ++ ·) <$> percentDecodeBytes rest
      cases percentDecodeBytes rest <;> rfl
  | cons b bytes ih =>
      obtain ⟨hb, hbytes⟩ := List.forall_mem_cons.1 hbytes
      rw [List.cons_append, percent_decode_cons hb, ih hbytes]
      cases percentDecodeBytes rest <;> rfl

/-- Escapes are read as the bytes they were written for. -/
theorem percent_decode_encode_bytes (bytes : List UInt8) {rest : List UInt8}
    (hrest : isCharBoundary rest = true) :
    percentDecodeBytes (Text.asBytes (bytes.flatMap encodeByte) ++ rest) =
      (bytes ++ ·) <$> percentDecodeBytes rest := by
  induction bytes with
  | nil =>
      show percentDecodeBytes rest = (([] : List UInt8) ++ ·) <$> percentDecodeBytes rest
      cases percentDecodeBytes rest <;> rfl
  | cons b bytes ih =>
      rw [List.flatMap_cons, Text.as_bytes_append, List.append_assoc,
        percent_decode_encode_byte b (as_bytes_boundary _ rest hrest), ih]
      cases percentDecodeBytes rest <;> rfl

/-- Only the percent sign has its byte. -/
theorem encoded_ne_percent {c : Char} (hc : c ≠ '%') : ∀ b ∈ String.utf8EncodeChar c, b ≠ 0x25 := by
  intro b hb
  by_cases hascii : c.toNat < 0x80
  · rw [Text.encoded_ascii hascii, List.mem_singleton] at hb
    rintro rfl
    have hcode : c.toNat = 0x25 := by
      have := congrArg UInt8.toNat hb
      rw [Text.toNat_ofNat (by omega)] at this
      exact this.symm
    exact hc (by rw [← Char.ofNat_toNat c, hcode])
  · obtain ⟨first, second, tail, hbytes, hfirst, htail⟩ :=
      Text.encoded_high (by omega : 0x80 ≤ c.toNat)
    rw [hbytes, List.mem_cons] at hb
    rintro rfl
    rcases hb with rfl | hb
    · exact absurd hfirst (by decide)
    · exact absurd (htail _ hb) (by decide)

/-- Decoding undoes encoding. -/
theorem percent_decode_encode {keep : Char → Bool} (hkeep : keep '%' = false) (s : Text) :
    percentDecodeBytes (percentEncode keep s).asBytes = .ok s.asBytes := by
  induction s with
  | nil => rfl
  | cons c s ih =>
      have hcut : percentEncode keep (c :: s) =
          (if keep c then [c] else (String.utf8EncodeChar c).flatMap encodeByte) ++
            percentEncode keep s := List.flatMap_cons
      have hboundary : isCharBoundary (percentEncode keep s).asBytes = true := by
        simpa using as_bytes_boundary (percentEncode keep s) [] rfl
      rw [hcut, Text.as_bytes_append, Text.as_bytes_cons]
      by_cases hc : keep c = true
      · have hpercent : c ≠ '%' := by
          rintro rfl
          simp [hkeep] at hc
        rw [if_pos hc, Text.as_bytes_cons, Text.as_bytes_nil, List.append_nil,
          percent_decode_append (encoded_ne_percent hpercent), ih]
        rfl
      · rw [if_neg hc, percent_decode_encode_bytes _ hboundary, ih]
        rfl

/-! ## Exact decoding -/

/-- `percent_decode` decodes exactly the escapes, unless a percent sign has a plus sign and a digit
behind it; and decoding the percent-encoding of a string gives the string back. -/
theorem percent_decode_exact_iff {s out : Text} (h : percentDecode s = .ok out) :
    (out = Text.fromUtf8Lossy (decodeEscapes s.asBytes) ↔ ¬HasPlusEscape s.asBytes) ∧
      ∀ keep t, keep '%' = false → percentDecode (percentEncode keep t) = .ok t := by
  obtain ⟨bytes, hbytes, rfl⟩ : ∃ bytes, percentDecodeBytes s.asBytes = .ok bytes ∧
      out = Text.fromUtf8Lossy bytes := by
    unfold percentDecode at h
    cases hbytes : percentDecodeBytes s.asBytes with
    | error => rw [hbytes] at h; cases h
    | ok bytes => rw [hbytes] at h; cases h; exact ⟨bytes, rfl, rfl⟩
  refine ⟨⟨?_, ?_⟩, ?_⟩
  · intro hsame hplus
    obtain ⟨pre, value, rest, rest', rfl, hspec, hvalue⟩ := decoded_of_plus hbytes hplus
    rw [hspec, Text.lossy_append_ascii (by omega), Text.lossy_append_ascii (by decide)] at hsame
    have hchar := (List.cons.inj (List.append_cancel_left hsame)).1
    have hcode : ∀ n < 16, Char.ofNat n ≠ Char.ofNat 0x25 := by decide
    exact hcode value.toNat hvalue hchar
  · intro hplus
    rw [decoded_of_no_plus hbytes hplus]
  · intro keep t hkeep
    unfold percentDecode
    rw [percent_decode_encode hkeep]
    show Except.ok (Text.fromUtf8Lossy t.asBytes) = .ok t
    rw [Text.lossy_as_bytes]

/-- At an escaped path, and encoding a string with all characters but letters. -/
theorem percent_decode_path :
    "/etc/ca".toList = Text.fromUtf8Lossy (decodeEscapes (Text.asBytes "%2Fetc%2Fca".toList)) ∧
      percentDecode (percentEncode Char.isAlpha "a é".toList) = .ok "a é".toList := by
  have hbytes : percentDecodeBytes (Text.asBytes "%2Fetc%2Fca".toList) =
      .ok (Text.asBytes "/etc/ca".toList) := by decide
  have hpath : percentDecode "%2Fetc%2Fca".toList = .ok "/etc/ca".toList := by
    rw [percentDecode, hbytes]
    exact congrArg Except.ok (Text.lossy_as_bytes _)
  have h := percent_decode_exact_iff hpath
  exact ⟨h.1.2 (by decide), h.2 Char.isAlpha "a é".toList (by decide)⟩

/-- A plus sign is taken for part of a number. -/
theorem plus_is_decoded : percentDecode "%+5".toList = .ok [Char.ofNat 5] ∧
    Text.fromUtf8Lossy (decodeEscapes (Text.asBytes "%+5".toList)) = "%+5".toList := by
  have hread : percentDecodeBytes (Text.asBytes "%+5".toList) =
      .ok (Text.asBytes [Char.ofNat 5]) := by decide
  have hkept : decodeEscapes (Text.asBytes "%+5".toList) = Text.asBytes "%+5".toList := by decide
  constructor
  · rw [percentDecode, hread]
    exact congrArg Except.ok (Text.lossy_as_bytes _)
  · rw [hkept]
    exact Text.lossy_as_bytes _

end PgMaintainer
