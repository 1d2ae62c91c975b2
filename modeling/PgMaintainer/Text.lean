import Mathlib.Algebra.Group.Nat.Defs
import Mathlib.Data.List.DropRight
import Mathlib.Data.List.TakeDrop

/-!
# Text

A `&str` that the code scans is a list of characters. These are the functions of Rust's `str`
and `char` the scanners use, with their documented behaviour.
-/

namespace PgMaintainer

/-- A string as the scanners see it. -/
abbrev Text := List Char

/-- `char::is_whitespace`: the Unicode property `White_Space`. -/
def isWhitespace (c : Char) : Bool :=
  let n := c.toNat
  (9 ≤ n && n ≤ 13) || n == 0x20 || n == 0x85 || n == 0xA0 || n == 0x1680 ||
    (0x2000 ≤ n && n ≤ 0x200A) || n == 0x2028 || n == 0x2029 || n == 0x202F || n == 0x205F ||
    n == 0x3000

namespace Text

/-- Whether a text is in a list. -/
instance (s : Text) (texts : List Text) : Decidable (s ∈ texts) := inferInstance

/-- `str::trim_end`. -/
def trimEnd (s : Text) : Text := s.rdropWhile isWhitespace

/-- `str::trim`. -/
def trim (s : Text) : Text := trimEnd (s.dropWhile isWhitespace)

/-- `str::split_once` with a one-character separator: the text before its first occurrence and
the text after it. -/
def splitOnce (sep : Char) (s : Text) : Option (Text × Text) :=
  match s.span (· ≠ sep) with
  | (_, []) => none
  | (before, _ :: after) => some (before, after)

/-- The text is cut at its first separator. -/
theorem split_once_append {sep : Char} {before : Text} (h : sep ∉ before) (after : Text) :
    splitOnce sep (before ++ sep :: after) = some (before, after) := by
  have hspan : (before ++ sep :: after).span (· ≠ sep) = (before, sep :: after) := by
    have hkeep : ∀ c ∈ before, decide (c ≠ sep) = true := by
      intro c hc
      exact decide_eq_true fun heq => h (heq ▸ hc)
    rw [List.span_eq_takeWhile_dropWhile, List.takeWhile_append_of_pos hkeep,
      List.dropWhile_append_of_pos hkeep]
    simp
  rw [splitOnce, hspan]

/-- A text without separator is not cut. -/
theorem split_once_eq_none {sep : Char} {s : Text} (h : sep ∉ s) : splitOnce sep s = none := by
  have hspan : s.span (· ≠ sep) = (s, []) := by
    have hkeep : ∀ c ∈ s, decide (c ≠ sep) = true := by
      intro c hc
      exact decide_eq_true fun heq => h (heq ▸ hc)
    rw [List.span_eq_takeWhile_dropWhile, List.takeWhile_eq_self_iff.2 hkeep,
      List.dropWhile_eq_nil_iff.2 hkeep]
  rw [splitOnce, hspan]

/-- How a text stands to its first separator. -/
theorem split_once_cases (sep : Char) (s : Text) : (sep ∉ s ∧ splitOnce sep s = none) ∨
    ∃ before after, s = before ++ sep :: after ∧ sep ∉ before ∧
      splitOnce sep s = some (before, after) := by
  by_cases h : sep ∈ s
  · obtain ⟨before, after, rfl, hbefore⟩ := List.eq_append_cons_of_mem h
    exact .inr ⟨before, after, rfl, hbefore, split_once_append hbefore after⟩
  · exact .inl ⟨h, split_once_eq_none h⟩

/-- A piece between separators has none. -/
theorem not_mem_of_mem_split_on {sep : Char} {s piece : Text} (h : piece ∈ s.splitOn sep) :
    sep ∉ piece := by
  induction s generalizing piece with
  | nil =>
      obtain rfl : piece = [] := by simpa using h
      exact List.not_mem_nil
  | cons c s ih =>
      rw [List.splitOn_cons_eq_if_modifyHead] at h
      split at h
      · rcases List.mem_cons.1 h with rfl | h
        · exact List.not_mem_nil
        · exact ih h
      case isFalse hc =>
        have hc : ¬c = sep := by simpa using hc
        obtain ⟨first, pieces, hpieces⟩ := List.exists_cons_of_ne_nil (List.splitOn_ne_nil sep s)
        rw [hpieces, List.modifyHead_cons] at h
        rcases List.mem_cons.1 h with rfl | h
        · intro hmem
          rcases List.mem_cons.1 hmem with rfl | hmem
          · exact hc rfl
          · exact ih (hpieces ▸ List.mem_cons_self) hmem
        · exact ih (hpieces ▸ List.mem_cons_of_mem _ h)

/-- The text before the last occurrence of a character (`str::rfind`) and the text after it. -/
def splitLast (sep : Char) (s : Text) : Option (Text × Text) :=
  match s.reverse.span (· ≠ sep) with
  | (_, []) => none
  | (after, _ :: before) => some (before.reverse, after.reverse)

/-- The text is cut at its last separator. -/
theorem split_last_append {sep : Char} {after : Text} (h : sep ∉ after) (before : Text) :
    splitLast sep (before ++ sep :: after) = some (before, after) := by
  have hkeep : ∀ c ∈ after.reverse, decide (c ≠ sep) = true := by
    intro c hc
    exact decide_eq_true fun heq => h (heq ▸ List.mem_reverse.1 hc)
  have hspan : (before ++ sep :: after).reverse.span (· ≠ sep) =
      (after.reverse, sep :: before.reverse) := by
    rw [List.reverse_append, List.reverse_cons, List.append_assoc, List.span_eq_takeWhile_dropWhile,
      List.takeWhile_append_of_pos hkeep, List.dropWhile_append_of_pos hkeep]
    simp
  rw [splitLast, hspan]
  simp

/-- A text without separator is not cut from the end either. -/
theorem split_last_eq_none {sep : Char} {s : Text} (h : sep ∉ s) : splitLast sep s = none := by
  have hkeep : ∀ c ∈ s.reverse, decide (c ≠ sep) = true := by
    intro c hc
    exact decide_eq_true fun heq => h (heq ▸ List.mem_reverse.1 hc)
  have hspan : s.reverse.span (· ≠ sep) = (s.reverse, []) := by
    rw [List.span_eq_takeWhile_dropWhile, List.takeWhile_eq_self_iff.2 hkeep,
      List.dropWhile_eq_nil_iff.2 hkeep]
  rw [splitLast, hspan]

/-- How a text stands to its last separator. -/
theorem split_last_cases (sep : Char) (s : Text) : (sep ∉ s ∧ splitLast sep s = none) ∨
    ∃ before after, s = before ++ sep :: after ∧ sep ∉ after ∧
      splitLast sep s = some (before, after) := by
  by_cases h : sep ∈ s
  · obtain ⟨after, before, hsplit, hafter⟩ :=
      List.eq_append_cons_of_mem (List.mem_reverse.2 h)
    have hs : s = before.reverse ++ sep :: after.reverse := by
      rw [← List.reverse_reverse s, hsplit]
      simp
    have hnot : sep ∉ after.reverse := fun hmem => hafter (List.mem_reverse.1 hmem)
    refine .inr ⟨before.reverse, after.reverse, hs, hnot, ?_⟩
    rw [hs, split_last_append hnot]
  · exact .inl ⟨h, split_last_eq_none h⟩

/-- `str::replacen(pattern, replacement, 1)`. -/
def replaceFirst (pattern replacement : Text) : Text → Text
  | [] => if pattern = [] then replacement else []
  | c :: rest =>
    if pattern.isPrefixOf (c :: rest) then replacement ++ (c :: rest).drop pattern.length
    else c :: replaceFirst pattern replacement rest

/-- A pattern that stands at the front is replaced. -/
theorem replace_first_front {pattern : Text} (h : pattern ≠ []) (replacement tail : Text) :
    replaceFirst pattern replacement (pattern ++ tail) = replacement ++ tail := by
  cases pattern with
  | nil => exact absurd rfl h
  | cons c pattern =>
      have hpre : (c :: pattern).isPrefixOf (c :: (pattern ++ tail)) = true :=
        List.isPrefixOf_iff_prefix.2 (List.prefix_append (c :: pattern) tail)
      rw [List.cons_append, replaceFirst, if_pos hpre]
      simp

/-- Behind a text that lacks a character of the pattern, and ends with one that the pattern lacks,
it is the first one. -/
theorem replace_first_behind {front pattern : Text} {last other : Char} (hlast : last ∉ pattern)
    (hother : other ∈ pattern) (hfront : other ∉ front ++ [last]) (replacement tail : Text) :
    replaceFirst pattern replacement (front ++ [last] ++ (pattern ++ tail)) =
      front ++ [last] ++ (replacement ++ tail) := by
  have hnot : ∀ before : Text, other ∉ before ++ [last] →
      ¬pattern.isPrefixOf (before ++ [last] ++ (pattern ++ tail)) = true := by
    intro before hbefore hpre
    obtain h | h := List.prefix_or_prefix_of_prefix (List.isPrefixOf_iff_prefix.1 hpre)
      (List.prefix_append (before ++ [last]) (pattern ++ tail))
    · exact hbefore (h.subset hother)
    · exact hlast (h.subset (List.mem_append_right before (List.mem_singleton_self last)))
  induction front with
  | nil =>
      have hfirst : ¬pattern.isPrefixOf (last :: (pattern ++ tail)) = true := hnot [] hfront
      show replaceFirst pattern replacement (last :: (pattern ++ tail)) = _
      rw [replaceFirst, if_neg hfirst, replace_first_front (List.ne_nil_of_mem hother)]
      rfl
  | cons c front ih =>
      have hfirst : ¬pattern.isPrefixOf (c :: (front ++ [last] ++ (pattern ++ tail))) = true :=
        hnot (c :: front) hfront
      show replaceFirst pattern replacement (c :: (front ++ [last] ++ (pattern ++ tail))) = _
      rw [replaceFirst, if_neg hfirst, ih fun hmem => hfront (List.mem_cons_of_mem c hmem)]
      rfl

/-- `str::to_ascii_lowercase`. -/
def toAsciiLowercase (s : Text) : Text := s.map Char.toLower

/-- `str::to_lowercase` as far as a comparison with an ASCII text can see: the Kelvin sign is the
one character outside ASCII whose lower case is in ASCII. -/
def toLowercase (s : Text) : Text :=
  s.map fun c => if c = Char.ofNat 0x212A then 'k' else c.toLower

/-- `str::parse::<u16>`: decimal digits with an optional leading `+`. -/
def parseU16 (s : Text) : Option Nat :=
  let digits := match s with
    | '+' :: rest => rest
    | _ => s
  if digits = [] ∨ ¬ digits.all Char.isDigit then none
  else
    let n := digits.foldl (fun n c => 10 * n + (c.toNat - '0'.toNat)) 0
    if n < 2 ^ 16 then some n else none

/-! ## UTF-8 -/

/-- `str::as_bytes`. -/
def asBytes (s : Text) : List UInt8 := s.flatMap String.utf8EncodeChar

/-- A byte that continues a character. -/
def isContinuation (b : UInt8) : Bool := 0x80 ≤ b && b ≤ 0xBF

/-- For a byte that begins a longer character: the bounds of its second byte, and how many
bytes follow it. -/
def leadByte (b : UInt8) : Option (UInt8 × UInt8 × Nat) :=
  if 0xC2 ≤ b ∧ b ≤ 0xDF then some (0x80, 0xBF, 1)
  else if b = 0xE0 then some (0xA0, 0xBF, 2)
  else if b = 0xED then some (0x80, 0x9F, 2)
  else if 0xE1 ≤ b ∧ b ≤ 0xEF then some (0x80, 0xBF, 2)
  else if b = 0xF0 then some (0x90, 0xBF, 3)
  else if 0xF1 ≤ b ∧ b ≤ 0xF3 then some (0x80, 0xBF, 3)
  else if b = 0xF4 then some (0x80, 0x8F, 3)
  else none

/-- How many of the bytes that should follow a lead byte do. -/
def wellFormed (low high : UInt8) : List UInt8 → Nat
  | [] => 0
  | b :: rest => if low ≤ b ∧ b ≤ high then 1 + (rest.takeWhile isContinuation).length else 0

/-- The character at the front of a byte sequence, and how many bytes after the first it takes.
What is no character is the replacement character, for as many bytes as could have begun one. -/
def firstChar (b : UInt8) (rest : List UInt8) : Char × Nat :=
  if b < 0x80 then (Char.ofNat b.toNat, 0)
  else
    match leadByte b with
    | none => (Char.ofNat 0xFFFD, 0)
    | some (low, high, n) =>
      let good := wellFormed low high (rest.take n)
      if good = n then
        (Char.ofNat ((rest.take n).foldl (fun code c => 64 * code + c.toNat % 64)
          (b.toNat % 2 ^ (6 - n))), n)
      else
        (Char.ofNat 0xFFFD, good)

/-- `String::from_utf8_lossy`. -/
def fromUtf8Lossy : List UInt8 → Text
  | [] => []
  | b :: rest => (firstChar b rest).1 :: fromUtf8Lossy (rest.drop (firstChar b rest).2)
termination_by bytes => bytes.length
decreasing_by
  simp only [List.length_drop, List.length_cons]
  omega

end Text

end PgMaintainer
