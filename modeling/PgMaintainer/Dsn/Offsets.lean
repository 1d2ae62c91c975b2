import PgMaintainer.Dsn.Render
import PgMaintainer.Dsn.Slices

/-!
# `dsn.rs` with its offsets

The scanners as they are written: on indices into a list of characters and on byte offsets of
a string, where an index out of range and a slice that cuts a character are panics. Each of them
comes to the function on texts of the same name, so none of its indices is out of range.
-/

namespace PgMaintainer

namespace Offsets

/-- `xs[i]`. -/
def index {α : Type} (xs : List α) (i : Nat) : Except Halt α :=
  match xs[i]? with
  | some x => pure x
  | none => .error .panic

/-- What is left from an index on begins with the character there. -/
theorem index_of_drop {α : Type} {xs rest : List α} {i : Nat} {x : α}
    (h : xs.drop i = x :: rest) : index xs i = .ok x := by
  have hx : xs[i]? = some x := by
    rw [← List.head?_drop, h]
    rfl
  rw [index, hx]
  rfl

/-- Where something is left, the index is in range. -/
theorem lt_of_drop {α : Type} {xs rest : List α} {i : Nat} {x : α} (h : xs.drop i = x :: rest) :
    i < xs.length := by
  by_contra hge
  rw [List.drop_of_length_le (by omega)] at h
  cases h

/-- One further on the rest is left. -/
theorem drop_succ {α : Type} {xs rest : List α} {i : Nat} {x : α} (h : xs.drop i = x :: rest) :
    xs.drop (i + 1) = rest := by
  rw [← List.drop_drop, h]
  rfl

/-! ## Percent escapes -/

/-- `u8::from_str_radix(hex, 16)` on a string of two bytes. -/
def fromStrRadix (hex : Text) : Option UInt8 :=
  match hex.asBytes with
  | [high, low] => fromHex high low
  | _ => none

/-- The loop of `percent_decode`. -/
def percentDecodeFrom (s : Text) (bytes : List UInt8) (i : Nat) (out : List UInt8) :
    Except Halt (List UInt8) :=
  if _h : i < bytes.length then do
    let b ← index bytes i
    if b = 0x25 ∧ i + 2 < bytes.length then
      let hex ← Text.slice s (i + 1) (i + 3)
      match fromStrRadix hex with
      | some value => percentDecodeFrom s bytes (i + 3) (out ++ [value])
      | none => percentDecodeFrom s bytes (i + 1) (out ++ [b])
    else
      percentDecodeFrom s bytes (i + 1) (out ++ [b])
  else
    pure out
termination_by bytes.length - i

/-- Decode `%XX` escapes. -/
def percentDecode (s : Text) : Except Halt Text := do
  let out ← percentDecodeFrom s s.asBytes 0 []
  pure (Text.fromUtf8Lossy out)

/-- The two bytes behind a percent sign are a slice if and only if no character goes on behind
them. -/
theorem slice_behind_percent {s : Text} {i : Nat} {high low : UInt8} {rest : List UInt8}
    (h : s.asBytes.drop i = 0x25 :: high :: low :: rest) :
    (isCharBoundary rest = true ∧
        ∃ hex, Text.slice s (i + 1) (i + 3) = .ok hex ∧ hex.asBytes = [high, low]) ∨
      (isCharBoundary rest = false ∧ Text.slice s (i + 1) (i + 3) = .error .panic) := by
  obtain ⟨before, c, after, rfl, rfl, hc, hafter⟩ := Text.drop_eq_ascii h (by decide)
  have hstart : Text.byteLen before + 1 = Text.byteLen (before ++ [c]) := by
    simp [hc]
  have hcut : Text.cut (before ++ c :: after) (Text.byteLen before + 1) =
      some (before ++ [c], after) := by
    rw [hstart, List.append_cons]
    exact Text.cut_append _ _
  have hsize : Text.byteLen before + 3 - (Text.byteLen before + 1) = 2 := by omega
  rw [Text.slice, if_neg (by omega), hcut]
  simp only [hsize]
  -- two bytes further on a character ends, or the slice is refused
  cases hpiece : Text.cut after 2 with
  | none =>
      refine .inr ⟨?_, rfl⟩
      rcases Text.cut_eq_none hpiece with hshort | hinside
      · rw [Text.byteLen, ← hafter] at hshort
        simp only [List.length_cons] at hshort
        omega
      · rwa [← hafter] at hinside
  | some pieces =>
      obtain ⟨piece, tail⟩ := pieces
      obtain ⟨rfl, hlength⟩ := Text.cut_eq_some hpiece
      rw [Text.as_bytes_append] at hafter
      have htwo : ([high, low] ++ rest : List UInt8) = piece.asBytes ++ Text.asBytes tail := hafter
      obtain ⟨hbytes, rfl⟩ := List.append_inj htwo hlength.symm
      refine .inl ⟨?_, piece, rfl, hbytes.symm⟩
      simpa using as_bytes_boundary tail [] rfl

/-- To push in front of a result, or to push a longer front. -/
theorem push_map (out : List UInt8) (b : UInt8) (x : Except Halt (List UInt8)) :
    (out ++ [b] ++ ·) <$> x = (out ++ ·) <$> ((b :: ·) <$> x) := by
  cases x with
  | error => rfl
  | ok tail =>
      show Except.ok _ = Except.ok _
      simp

/-- The loop comes to the decoder on bytes. -/
theorem percent_decode_from_eq (s : Text) (i : Nat) (out : List UInt8) :
    percentDecodeFrom s s.asBytes i out = (out ++ ·) <$> percentDecodeBytes (s.asBytes.drop i) := by
  generalize hbytes : s.asBytes = bytes
  induction hn : bytes.length - i using Nat.strongRecOn generalizing i out with
  | ind n ih =>
      rw [percentDecodeFrom]
      cases hrest : bytes.drop i with
      | nil =>
          have hend := List.drop_eq_nil_iff.1 hrest
          rw [dif_neg (by omega)]
          show Except.ok out = Except.ok (out ++ [])
          rw [List.append_nil]
      | cons b rest =>
          have hlt := lt_of_drop hrest
          have hnext := drop_succ hrest
          have hplain : percentDecodeFrom s bytes (i + 1) (out ++ [b]) =
              (out ++ ·) <$> ((b :: ·) <$> percentDecodeBytes rest) := by
            rw [ih (bytes.length - (i + 1)) (by omega) (i + 1) _ rfl, hnext, push_map]
          have hlength : rest.length = bytes.length - (i + 1) := by
            rw [← hnext, List.length_drop]
          rw [dif_pos hlt, index_of_drop hrest]
          show (if b = 0x25 ∧ i + 2 < bytes.length then _ else _) = _
          by_cases hb : b = 0x25
          · subst hb
            rcases rest with _ | ⟨high, _ | ⟨low, rest⟩⟩
            · rw [if_neg (by simp at hlength; omega), hplain]
              rfl
            · rw [if_neg (by simp at hlength; omega), hplain]
              rfl
            · rw [if_pos ⟨rfl, by simp at hlength; omega⟩]
              have hthird : bytes.drop (i + 3) = rest := drop_succ (drop_succ hnext)
              -- the slice panics where the text would be cut within a character
              rcases slice_behind_percent (s := s) (hbytes ▸ hrest) with
                ⟨hboundary, hex, hslice, hhex⟩ | ⟨hboundary, hslice⟩
              · rw [hslice]
                show (match fromStrRadix hex with
                  | some value => percentDecodeFrom s bytes (i + 3) (out ++ [value])
                  | none => percentDecodeFrom s bytes (i + 1) (out ++ [0x25])) = _
                have hvalue : fromStrRadix hex = fromHex high low := by rw [fromStrRadix, hhex]
                rw [hvalue, percentDecodeBytes, if_pos rfl, if_pos hboundary]
                cases fromHex high low with
                | some value =>
                    simp only
                    rw [ih (bytes.length - (i + 3)) (by omega) (i + 3) _ rfl, hthird, push_map]
                | none => exact hplain
              · rw [hslice, percentDecodeBytes, if_pos rfl, if_neg (by simp [hboundary])]
                rfl
          · rw [if_neg (fun h => hb h.1), hplain, percent_decode_cons hb]

/-- Decoding comes to the function on texts. -/
theorem percent_decode_eq (s : Text) : percentDecode s = PgMaintainer.percentDecode s := by
  rw [percentDecode, percent_decode_from_eq]
  show (([] ++ ·) <$> percentDecodeBytes s.asBytes >>= _) = _
  rw [PgMaintainer.percentDecode]
  cases percentDecodeBytes s.asBytes <;> rfl

/-! ## The authority -/

/-- The authority section of a URI. -/
def uriAuthority (s : Text) : Except Halt Text :=
  match Text.find ("//".toList.isPrefixOf ·) s with
  | none => pure []
  | some i => do
    let afterScheme ← s.sliceFrom (i + 2)
    let stop :=
      (Text.find (Text.startsWithAny ['/', '?']) afterScheme).getD (Text.byteLen afterScheme)
    Text.slice afterScheme 0 stop

/-- Whether a URI's authority names an explicit port. -/
def uriHasExplicitPort (s : Text) : Except Halt Bool := do
  let authority ← uriAuthority s
  let hostpart ← match Text.rfind '@' authority with
    | some i => Text.sliceFrom authority (i + 1)
    | none => pure authority
  match Text.rfind ']' hostpart with
  | some close => do
    let behind ← Text.sliceFrom hostpart (close + 1)
    pure (behind.head? = some ':')
  | none => pure (hostpart.contains ':')

/-- The search for `//` finds where the text behind it is cut off. -/
theorem find_slashes (s : Text) :
    (afterSlashes s = none ∧ Text.find ("//".toList.isPrefixOf ·) s = none) ∨
      ∃ before after, s = before ++ ("//".toList ++ after) ∧ afterSlashes s = some after ∧
        Text.find ("//".toList.isPrefixOf ·) s = some (Text.byteLen before) := by
  have hstart : ∀ c (s : Text), "//".toList.isPrefixOf (c :: s) = true ↔
      c = '/' ∧ s.head? = some '/' := by
    intro c s
    have hslashes : "//".toList = ['/', '/'] := by decide
    rw [hslashes]
    cases s with
    | nil => simp
    | cons d s =>
        simp only [List.isPrefixOf, Bool.and_eq_true, beq_iff_eq, List.head?_cons, Option.some.injEq,
          and_true]
        exact and_congr eq_comm eq_comm
  induction s with
  | nil => exact .inl ⟨rfl, rfl⟩
  | cons c s ih =>
      rw [Text.find, afterSlashes]
      -- the slashes begin here, or further on
      by_cases h : c = '/' ∧ s.head? = some '/'
      · obtain ⟨rfl, hhead⟩ := h
        obtain ⟨after, rfl⟩ : ∃ after, s = '/' :: after := by
          cases s with
          | nil => cases hhead
          | cons d s => exact ⟨s, by rw [Option.some.inj hhead]⟩
        rw [if_pos ((hstart ..).2 ⟨rfl, rfl⟩), if_pos ⟨rfl, rfl⟩]
        exact .inr ⟨[], after, rfl, rfl, rfl⟩
      · rw [if_neg (mt (hstart c s).1 h), if_neg h]
        rcases ih with ⟨hnone, hfind⟩ | ⟨before, after, hs, hafter, hfind⟩
        · exact .inl ⟨hnone, by rw [hfind]; rfl⟩
        · refine .inr ⟨c :: before, after, by rw [hs]; rfl, hafter, ?_⟩
          rw [hfind, Text.byte_len_cons, Nat.add_comm]
          rfl

/-- The text up to the first of some characters is a slice. -/
theorem slice_to_first (wanted : List Char) (s : Text) :
    Text.slice s 0 ((Text.find (Text.startsWithAny wanted) s).getD (Text.byteLen s)) =
      .ok (s.takeWhile fun c => decide (c ∉ wanted)) := by
  rcases Text.find_any_cases wanted s with
    ⟨hnone, hfind⟩ | ⟨before, c, after, rfl, hbefore, hc, hfind⟩
  · have hall : (s.takeWhile fun c => decide (c ∉ wanted)) = s :=
      List.takeWhile_eq_self_iff.2 fun c hmem => decide_eq_true (hnone c hmem)
    rw [hfind, hall]
    simpa using Text.slice_prefix s []
  · have hpart : ((before ++ c :: after).takeWhile fun c => decide (c ∉ wanted)) = before := by
      rw [List.takeWhile_append_of_pos fun d hd => decide_eq_true (hbefore d hd)]
      simp [hc]
    rw [hfind, hpart]
    exact Text.slice_prefix before (c :: after)

/-- The authority comes to the function on texts. -/
theorem uri_authority_eq (s : Text) : uriAuthority s = .ok (PgMaintainer.uriAuthority s) := by
  unfold uriAuthority PgMaintainer.uriAuthority
  rcases find_slashes s with ⟨hnone, hfind⟩ | ⟨before, after, hs, hafter, hfind⟩
  · rw [hfind, hnone]
    rfl
  · have hlength : Text.byteLen before + 2 = Text.byteLen (before ++ "//".toList) := by
      rw [Text.byte_len_append]
      rfl
    have hslice : s.sliceFrom (Text.byteLen before + 2) = .ok after := by
      rw [hs, hlength, ← List.append_assoc]
      exact Text.slice_from_append _ _
    rw [hfind, hafter]
    simp only [hslice]
    refine (slice_to_first ['/', '?'] after).trans ?_
    refine congrArg (fun p => Except.ok (after.takeWhile p)) (funext fun c => ?_)
    simp

/-- The text behind the last of a character is a slice. -/
theorem slice_behind_last (wanted : Char) (hsize : (String.utf8EncodeChar wanted).length = 1)
    (s : Text) : (Text.splitLast wanted s = none ∧ Text.rfind wanted s = none) ∨
      ∃ before after i, Text.splitLast wanted s = some (before, after) ∧
        Text.rfind wanted s = some i ∧ Text.slice s 0 i = .ok before ∧
        s.sliceFrom i = .ok (wanted :: after) ∧ s.sliceFrom (i + 1) = .ok after := by
  rcases Text.rfind_cases wanted s with ⟨hnone, hfind⟩ | ⟨before, after, rfl, hafter, hfind⟩
  · exact .inl ⟨Text.split_last_eq_none hnone, hfind⟩
  · refine .inr ⟨before, after, _, Text.split_last_append hafter before, hfind,
      Text.slice_prefix before _, Text.slice_from_append before _, ?_⟩
    have hlength : Text.byteLen before + 1 = Text.byteLen (before ++ [wanted]) := by
      rw [Text.byte_len_append, Text.byte_len_cons, hsize]
      rfl
    rw [hlength, List.append_cons]
    exact Text.slice_from_append _ _

/-- The port check comes to the function on texts. -/
theorem uri_has_explicit_port_eq (s : Text) :
    uriHasExplicitPort s = .ok (PgMaintainer.uriHasExplicitPort s) := by
  unfold uriHasExplicitPort PgMaintainer.uriHasExplicitPort
  rw [uri_authority_eq, ok_bind]
  generalize PgMaintainer.uriAuthority s = authority
  rcases slice_behind_last '@' (by decide) authority with
    ⟨hsplit, hfind⟩ | ⟨before, host, i, hsplit, hfind, -, -, hhost⟩
  · have hpure : (pure authority : Except Halt Text) = .ok authority := rfl
    simp only [hsplit, hfind, hpure, ok_bind]
    rcases slice_behind_last ']' (by decide) authority with
      ⟨hsplit, hfind⟩ | ⟨before, after, i, hsplit, hfind, -, -, hbehind⟩
    · simp only [hsplit, hfind]
      rfl
    · simp only [hsplit, hfind, hbehind, ok_bind]
      rfl
  · simp only [hsplit, hfind, hhost, ok_bind]
    rcases slice_behind_last ']' (by decide) host with
      ⟨hsplit, hfind⟩ | ⟨before, after, i, hsplit, hfind, -, -, hbehind⟩
    · simp only [hsplit, hfind]
      rfl
    · simp only [hsplit, hfind, hbehind, ok_bind]
      rfl

end Offsets

end PgMaintainer
