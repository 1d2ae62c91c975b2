import PgMaintainer.Dsn.Percent

/-!
# Slices by byte offsets

A `&str` is sliced by byte offsets, and an offset beyond its end or inside a character is a panic.
A search gives the offset of what it finds, and slicing there cuts the text between two characters.
-/

namespace PgMaintainer

namespace Text

/-- `str::len`: the number of bytes. -/
def byteLen (s : Text) : Nat := s.asBytes.length

/-- A text cut at a byte offset, unless it lies beyond the end or inside a character. -/
def cut : Text → Nat → Option (Text × Text)
  | s, 0 => some ([], s)
  | [], _ + 1 => none
  | c :: s, n + 1 =>
    let size := (String.utf8EncodeChar c).length
    if size ≤ n + 1 then (cut s (n + 1 - size)).map fun (before, after) => (c :: before, after)
    else none

/-- `&s[start..stop]`. -/
def slice (s : Text) (start stop : Nat) : Except Halt Text :=
  if stop < start then .error .panic
  else
    match cut s start with
    | none => .error .panic
    | some (_, after) =>
      match cut after (stop - start) with
      | none => .error .panic
      | some (piece, _) => pure piece

/-- `&s[start..]`. -/
def sliceFrom (s : Text) (start : Nat) : Except Halt Text := slice s start s.byteLen

/-- `str::find`: the offset of the first place from which on the text is as wanted. -/
def find (wanted : Text → Bool) : Text → Option Nat
  | [] => none
  | c :: s => if wanted (c :: s) then some 0
    else (find wanted s).map (· + (String.utf8EncodeChar c).length)

/-- `str::rfind` of a character: the offset of its last place. -/
def rfind (wanted : Char) : Text → Option Nat
  | [] => none
  | c :: s =>
    match rfind wanted s with
    | some i => some (i + (String.utf8EncodeChar c).length)
    | none => if c = wanted then some 0 else none

/-- Whether a text starts with one of these characters. -/
def startsWithAny (wanted : List Char) (s : Text) : Bool := s.head?.any (· ∈ wanted)

/-! ## Cutting -/

@[simp] theorem byte_len_nil : byteLen [] = 0 := rfl

@[simp] theorem byte_len_cons (c : Char) (s : Text) :
    byteLen (c :: s) = (String.utf8EncodeChar c).length + byteLen s := by
  rw [byteLen, as_bytes_cons, List.length_append]
  rfl

@[simp] theorem byte_len_append (s t : Text) : byteLen (s ++ t) = byteLen s + byteLen t := by
  rw [byteLen, as_bytes_append, List.length_append]
  rfl

/-- A character has at least one byte. -/
theorem encoded_length_pos (c : Char) : 0 < (String.utf8EncodeChar c).length := by
  obtain ⟨b, tail, hbytes, -⟩ := encoded_head c
  simp [hbytes]

/-- A text may be cut behind any of its characters. -/
theorem cut_append (before after : Text) :
    cut (before ++ after) before.byteLen = some (before, after) := by
  induction before with
  | nil => cases after <;> rfl
  | cons c before ih =>
      have hpos := encoded_length_pos c
      obtain ⟨n, hn⟩ : ∃ n, byteLen (c :: before) = n + 1 :=
        ⟨byteLen (c :: before) - 1, by rw [byte_len_cons]; omega⟩
      have hsize : (String.utf8EncodeChar c).length ≤ n + 1 := by
        rw [← hn, byte_len_cons]
        omega
      have hrest : n + 1 - (String.utf8EncodeChar c).length = byteLen before := by
        rw [← hn, byte_len_cons]
        omega
      rw [hn, List.cons_append, cut, if_pos hsize, hrest, ih]
      rfl

/-- A cut text is its two parts, and the first has as many bytes as was asked for. -/
theorem cut_eq_some {s before after : Text} {n : Nat} (h : cut s n = some (before, after)) :
    s = before ++ after ∧ before.byteLen = n := by
  induction s generalizing n before after with
  | nil =>
      cases n with
      | zero =>
          cases h
          exact ⟨rfl, rfl⟩
      | succ n => cases h
  | cons c s ih =>
      cases n with
      | zero =>
          cases h
          exact ⟨rfl, rfl⟩
      | succ n =>
          rw [cut] at h
          split at h
          case isTrue hsize =>
            obtain ⟨⟨before', after'⟩, hcut, heq⟩ := Option.map_eq_some_iff.1 h
            obtain ⟨rfl, rfl⟩ := Prod.mk.inj heq
            obtain ⟨rfl, hlength⟩ := ih hcut
            refine ⟨rfl, ?_⟩
            rw [byte_len_cons, hlength]
            omega
          case isFalse => cases h

/-- Where a text cannot be cut, it ends before, or a character goes on there. -/
theorem cut_eq_none {s : Text} {n : Nat} (h : cut s n = none) :
    byteLen s < n ∨ isCharBoundary (s.asBytes.drop n) = false := by
  induction s generalizing n with
  | nil =>
      cases n with
      | zero => cases h
      | succ n => exact .inl (Nat.succ_pos n)
  | cons c s ih =>
      cases n with
      | zero => cases h
      | succ n =>
          rw [byte_len_cons, as_bytes_cons]
          rw [cut] at h
          split at h
          case isTrue hsize =>
            rw [List.drop_append, List.drop_of_length_le hsize, List.nil_append]
            rcases ih (Option.map_eq_none_iff.1 h) with hlt | hinside
            · exact .inl (by omega)
            · exact .inr hinside
          case isFalse hsize =>
            -- the offset lies between the first byte of `c` and the character behind it
            obtain ⟨b, tail, hbytes, -, htail⟩ := encoded_head c
            rw [hbytes, List.length_cons] at hsize
            obtain ⟨x, more, hmore⟩ := List.exists_cons_of_ne_nil
              (show tail.drop n ≠ [] by rw [ne_eq, List.drop_eq_nil_iff]; omega)
            have hx : isContinuation x = true :=
              htail x ((List.drop_sublist n tail).subset (hmore ▸ List.mem_cons_self))
            refine .inr ?_
            rw [hbytes, List.cons_append, List.drop_succ_cons,
              List.drop_append_of_le_length (by omega), hmore]
            simp [isCharBoundary, hx]

/-- A byte below `0x80` is a character of its own. -/
theorem drop_eq_ascii {s : Text} {i : Nat} {a : UInt8} {rest : List UInt8}
    (h : s.asBytes.drop i = a :: rest) (ha : a.toNat < 0x80) : ∃ before c after,
      s = before ++ c :: after ∧ byteLen before = i ∧ String.utf8EncodeChar c = [a] ∧
        rest = asBytes after := by
  induction s generalizing i with
  | nil => simp at h
  | cons c s ih =>
      obtain ⟨b, tail, hbytes, -, htail⟩ := encoded_head c
      rw [as_bytes_cons] at h
      by_cases hi : (String.utf8EncodeChar c).length ≤ i
      · rw [List.drop_append, List.drop_of_length_le hi, List.nil_append] at h
        obtain ⟨before, d, after, rfl, hlength, hd, hrest⟩ := ih h
        refine ⟨c :: before, d, after, rfl, ?_, hd, hrest⟩
        rw [byte_len_cons, hlength]
        omega
      · cases i with
        | succ i =>
            -- a byte inside a character is not below `0x80`
            rw [hbytes, List.length_cons] at hi
            obtain ⟨x, more, hmore⟩ := List.exists_cons_of_ne_nil
              (show tail.drop i ≠ [] by rw [ne_eq, List.drop_eq_nil_iff]; omega)
            have hx := (continuation_iff x).1
              (htail x ((List.drop_sublist i tail).subset (hmore ▸ List.mem_cons_self)))
            rw [hbytes, List.cons_append, List.drop_succ_cons,
              List.drop_append_of_le_length (by omega), hmore] at h
            obtain rfl : x = a := (List.cons.inj h).1
            omega
        | zero =>
            rw [List.drop_zero] at h
            have hascii : c.toNat < 0x80 := by
              by_contra hhigh
              obtain ⟨first, second, more, hfirst, hlow, -⟩ := encoded_high (Nat.le_of_not_lt hhigh)
              rw [hfirst] at h
              obtain rfl : first = a := (List.cons.inj h).1
              omega
            rw [encoded_ascii hascii] at h
            obtain ⟨rfl, hrest⟩ := List.cons.inj h
            exact ⟨[], c, s, rfl, rfl, encoded_ascii hascii, hrest.symm⟩

/-- A slice between two places of a text. -/
theorem slice_append (before piece after : Text) :
    slice (before ++ (piece ++ after)) before.byteLen (before.byteLen + piece.byteLen) =
      .ok piece := by
  rw [slice, if_neg (by omega), cut_append]
  simp only [Nat.add_sub_cancel_left, cut_append]
  rfl

/-- A slice from the start to the end of a piece is that piece. -/
theorem slice_prefix (piece after : Text) : slice (piece ++ after) 0 piece.byteLen = .ok piece := by
  have h := slice_append [] piece after
  rwa [byte_len_nil, Nat.zero_add] at h

/-- A slice from the end of a piece on is what comes after it. -/
theorem slice_from_append (before after : Text) :
    sliceFrom (before ++ after) before.byteLen = .ok after := by
  have h := slice_append before after []
  rw [List.append_nil] at h
  rwa [sliceFrom, byte_len_append]

/-! ## Searching -/

/-- A search for characters finds the first of them. -/
theorem find_any_cases (wanted : List Char) (s : Text) :
    ((∀ c ∈ s, c ∉ wanted) ∧ find (startsWithAny wanted) s = none) ∨
      ∃ before c after, s = before ++ c :: after ∧ (∀ d ∈ before, d ∉ wanted) ∧ c ∈ wanted ∧
        find (startsWithAny wanted) s = some (byteLen before) := by
  induction s with
  | nil => exact .inl ⟨by simp, rfl⟩
  | cons c s ih =>
      by_cases hc : c ∈ wanted
      · refine .inr ⟨[], c, s, rfl, by simp, hc, ?_⟩
        rw [find, if_pos (by simp [startsWithAny, hc])]
        rfl
      · have hskip : find (startsWithAny wanted) (c :: s) =
            (find (startsWithAny wanted) s).map (· + (String.utf8EncodeChar c).length) := by
          rw [find, if_neg (by simp [startsWithAny, hc])]
        rcases ih with ⟨hnone, hfind⟩ | ⟨before, d, after, rfl, hbefore, hd, hfind⟩
        · refine .inl ⟨List.forall_mem_cons.2 ⟨hc, hnone⟩, ?_⟩
          rw [hskip, hfind]
          rfl
        · refine .inr ⟨c :: before, d, after, rfl, List.forall_mem_cons.2 ⟨hc, hbefore⟩, hd, ?_⟩
          rw [hskip, hfind, byte_len_cons, Nat.add_comm]
          rfl

/-- A search from the end finds the last place. -/
theorem rfind_cases (wanted : Char) (s : Text) : (wanted ∉ s ∧ rfind wanted s = none) ∨
    ∃ before after, s = before ++ wanted :: after ∧ wanted ∉ after ∧
      rfind wanted s = some (byteLen before) := by
  induction s with
  | nil => exact .inl ⟨List.not_mem_nil, rfl⟩
  | cons c s ih =>
      rcases ih with ⟨hnone, hfind⟩ | ⟨before, after, rfl, hafter, hfind⟩
      · by_cases hc : c = wanted
        · subst hc
          exact .inr ⟨[], s, rfl, hnone, by simp [rfind, hfind]⟩
        · refine .inl ⟨?_, by simp [rfind, hfind, hc]⟩
          intro hmem
          rcases List.mem_cons.1 hmem with rfl | hmem
          · exact hc rfl
          · exact hnone hmem
      · refine .inr ⟨c :: before, after, rfl, hafter, ?_⟩
        rw [rfind, hfind, byte_len_cons, Nat.add_comm]

end Text

end PgMaintainer
