import PgMaintainer.Dsn.Parse

/-!
# Keyword strings that are written and read again

What `split_keyword_pairs` reads of a string that was put together from pairs. Every text that
reads as one value, whatever follows it, may stand behind the `=` of a pair (`ReadsAs`), so the
escaped values, the mask and a plain number go through the same lemma.
-/

namespace PgMaintainer

/-- A text at which a value ends: nothing, or whitespace first. -/
def Ended (rest : Text) : Prop := ∀ c ∈ rest.head?, isWhitespace c = true

/-- A parameter name: not empty, and without `=` and whitespace. -/
def IsKey (key : Text) : Prop := key ≠ [] ∧ ∀ c ∈ key, isKeyChar c = true

/-- A keyword consists of its characters. -/
theorem is_key_of_all {key : Text} (hne : key ≠ []) (h : key.all isKeyChar = true) : IsKey key :=
  ⟨hne, List.all_eq_true.1 h⟩

/-- Behind a `=`, this text reads as this value. -/
def ReadsAs (text value : Text) : Prop :=
  ∀ rest, Ended rest → scanValue ((text ++ rest).dropWhile isWhitespace) = some (value, rest)

@[simp] theorem ended_nil : Ended [] := by simp [Ended]

@[simp] theorem ended_space {rest : Text} : Ended (' ' :: rest) := by
  intro c hc
  obtain rfl : ' ' = c := by simpa using hc
  decide

/-! ## Values -/

/-- What one character becomes between quotes. -/
def escapeChar (c : Char) : Text :=
  if c = '\\' then ['\\', '\\'] else if c = '\'' then ['\\', '\''] else [c]

/-- The two replacements of the code do not meet: the second finds no quote that the first
brought in. -/
theorem escape_chars_eq (s : Text) : escapeChars s = s.flatMap escapeChar := by
  induction s with
  | nil => rfl
  | cons c s ih =>
      simp only [escapeChars, List.flatMap_cons, List.flatMap_append] at ih ⊢
      rw [ih]
      congr 1
      by_cases hback : c = '\\'
      · subst hback
        rfl
      · simp [escapeChar, hback]

/-- An escaped text is read back up to the closing quote. -/
theorem scan_quoted_escaped (s rest : Text) :
    scanQuoted (escapeChars s ++ '\'' :: rest) = some (s, rest) := by
  rw [escape_chars_eq]
  induction s with
  | nil =>
      cases rest with
      | nil => simp [scanQuoted]
      | cons d rest => simp [scanQuoted]
  | cons c s ih =>
      rw [List.flatMap_cons, List.append_assoc]
      by_cases hback : c = '\\'
      · subst hback
        simp [escapeChar, scanQuoted, ih, pushChar]
      by_cases hquote : c = '\''
      · subst hquote
        simp [escapeChar, scanQuoted, ih, pushChar]
      have hplain : escapeChar c = [c] := by simp [escapeChar, hback, hquote]
      -- the scanner looks one character ahead, and there is one: the closing quote at the latest
      obtain ⟨d, more, hmore⟩ : ∃ d more, s.flatMap escapeChar ++ '\'' :: rest = d :: more :=
        List.exists_cons_of_ne_nil (by simp)
      rw [hplain, hmore, List.singleton_append, scanQuoted, if_neg hback, if_neg hquote, ← hmore, ih]
      rfl

/-- A text without special characters is read up to the whitespace behind it. -/
theorem scan_bare_plain {s rest : Text} (hs : ∀ c ∈ s, needsEscape c = false) (hrest : Ended rest) :
    scanBare (s ++ rest) = (s, rest) := by
  induction s with
  | nil =>
      cases rest with
      | nil => rfl
      | cons c rest =>
          have hc : isWhitespace c = true := hrest c rfl
          cases rest <;> simp [scanBare, hc]
  | cons c s ih =>
      have hc := hs c List.mem_cons_self
      simp only [needsEscape, Bool.or_eq_false_iff, beq_eq_false_iff_ne] at hc
      obtain ⟨⟨hspace, _⟩, hback⟩ := hc
      have ih := ih fun d hd => hs d (List.mem_cons_of_mem c hd)
      cases htail : s ++ rest with
      | nil =>
          obtain ⟨rfl, rfl⟩ := List.append_eq_nil_iff.1 htail
          simp [scanBare, hspace]
      | cons d more =>
          rw [htail] at ih
          rw [List.cons_append, htail, scanBare, if_neg (by simp [hspace]), if_neg hback, ih]
          rfl

/-- A text without special characters reads as itself, if there is one. -/
theorem reads_plain {s : Text} (hne : s ≠ []) (hs : ∀ c ∈ s, needsEscape c = false) :
    ReadsAs s s := by
  intro rest hrest
  obtain ⟨c, tail, rfl⟩ := List.exists_cons_of_ne_nil hne
  have hc := hs c List.mem_cons_self
  simp only [needsEscape, Bool.or_eq_false_iff, beq_eq_false_iff_ne] at hc
  obtain ⟨⟨hspace, hquote⟩, _⟩ := hc
  rw [List.cons_append, List.dropWhile_cons_of_neg (by simp [hspace]), ← List.cons_append]
  have hbare : scanValue (c :: tail ++ rest) = some (scanBare (c :: tail ++ rest)) := by
    unfold scanValue
    split
    · rename_i heq
      exact absurd (List.cons.inj heq).1 hquote
    · rfl
  rw [hbare, scan_bare_plain hs hrest]

/-- A text between quotes reads as the text. -/
theorem reads_quoted (s : Text) : ReadsAs ('\'' :: escapeChars s ++ ['\'']) s := by
  intro rest _
  rw [List.cons_append, List.cons_append, List.dropWhile_cons_of_neg (by decide), List.append_assoc]
  exact scan_quoted_escaped s rest

/-- What was quoted, if need be, reads as it was. -/
theorem reads_escaped (s : Text) : ReadsAs (escapeKeywordValue s) s := by
  unfold escapeKeywordValue
  split
  case isTrue => exact reads_quoted s
  case isFalse h =>
    rw [not_or] at h
    refine reads_plain h.1 fun c hc => ?_
    simpa using fun hneeds => h.2 (List.any_eq_true.2 ⟨c, hc, hneeds⟩)

/-- The mask reads as itself. -/
theorem reads_mask : ReadsAs mask mask := by
  have hall : mask.all (!needsEscape ·) = true := by decide
  refine reads_plain (by decide) fun c hc => ?_
  simpa using List.all_eq_true.1 hall c hc

/-! ## Pairs -/

/-- A string whose first pair is read. -/
theorem split_pair {key tail value rest : Text} (hkey : IsKey key)
    (hvalue : scanValue (tail.dropWhile isWhitespace) = some (value, rest)) :
    splitKeywordPairs (key ++ '=' :: tail) = ((key, value) :: ·) <$> splitKeywordPairs rest := by
  obtain ⟨hne, hchars⟩ := hkey
  obtain ⟨c, name, rfl⟩ := List.exists_cons_of_ne_nil hne
  have hspace : isWhitespace c = false := by
    have := hchars c List.mem_cons_self
    simp only [isKeyChar, Bool.and_eq_true, Bool.not_eq_true'] at this
    exact this.2
  have hstop : isKeyChar '=' = false := by decide
  have hstart : (c :: name ++ '=' :: tail).dropWhile isWhitespace = c :: (name ++ '=' :: tail) := by
    simp [hspace]
  have hname : (c :: (name ++ '=' :: tail)).takeWhile isKeyChar = c :: name := by
    rw [← List.cons_append, List.takeWhile_append_of_pos hchars]
    simp [hstop]
  have hafter : ((c :: (name ++ '=' :: tail)).dropWhile isKeyChar).dropWhile isWhitespace =
      '=' :: tail := by
    rw [← List.cons_append, List.dropWhile_append_of_pos hchars]
    simp [hstop, isWhitespace]
  -- the parser's own case splits, of which one is left each time
  rw [splitKeywordPairs]
  split
  case h_1 heq => exact absurd (hstart.symm.trans heq) (by simp)
  case h_2 d cs heq =>
    rw [hstart] at heq
    obtain ⟨rfl, rfl⟩ := List.cons.inj heq
    simp only [hname]
    rw [if_neg (by simp)]
    split
    case h_1 afterEq heq =>
      rw [hafter] at heq
      obtain rfl : afterEq = tail := ((List.cons.inj heq).2).symm
      split
      case h_1 value' rest' heq' =>
        obtain ⟨rfl, rfl⟩ : value = value' ∧ rest = rest' := by simpa [hvalue] using heq'
        cases splitKeywordPairs rest <;> rfl
      case h_2 heq' => simp [hvalue] at heq'
    case h_2 hno => exact absurd hafter (hno _)

@[simp] theorem split_nil : splitKeywordPairs [] = .ok [] := by
  rw [splitKeywordPairs]
  rfl

/-- Whitespace in front of a string is skipped. -/
theorem split_of_start {s t : Text} (h : s.dropWhile isWhitespace = t.dropWhile isWhitespace) :
    splitKeywordPairs s = splitKeywordPairs t := by
  rw [splitKeywordPairs.eq_def s, splitKeywordPairs.eq_def t, h]

/-- With nothing between a `=` and a space, what comes behind the space is read as the value. -/
theorem split_swallows {key tail : Text} {c : Char} {pairs : List (Text × Text)} (hkey : IsKey key)
    (hspace : isWhitespace c = false) (hquote : c ≠ '\'')
    (h : splitKeywordPairs (key ++ '=' :: ' ' :: c :: tail) = .ok pairs) :
    ∃ value more, pairs = (key, value) :: more ∧ value ≠ [] := by
  have hstart : (' ' :: c :: tail).dropWhile isWhitespace = c :: tail := by
    rw [List.dropWhile_cons_of_pos (by decide), List.dropWhile_cons_of_neg (by simp [hspace])]
  have hbare :
      scanValue (c :: tail) = some ((scanBare (c :: tail)).1, (scanBare (c :: tail)).2) := by
    unfold scanValue
    split
    · rename_i heq
      exact absurd (List.cons.inj heq).1 hquote
    · rfl
  have hvalue : (scanBare (c :: tail)).1 ≠ [] := by
    cases tail with
    | nil => simp [scanBare, hspace]
    | cons d tail =>
        rw [scanBare, if_neg (by simp [hspace])]
        split <;> simp [pushChar]
  rw [← hstart] at hbare
  rw [split_pair hkey hbare, hstart] at h
  cases hrest : splitKeywordPairs (scanBare (c :: tail)).2 with
  | error text =>
      rw [hrest] at h
      cases h
  | ok more =>
      rw [hrest] at h
      cases h
      exact ⟨_, more, rfl, hvalue⟩

/-- A pair of a keyword string as it is written, and what it stands for. -/
structure Written where
  key : Text
  text : Text
  value : Text

namespace Written

/-- The text of a pair. -/
def render (w : Written) : Text := w.key ++ '=' :: w.text

/-- The pair it is read as. -/
def pair (w : Written) : Text × Text := (w.key, w.value)

/-- The pair is read as it was meant. -/
def Reads (w : Written) : Prop := IsKey w.key ∧ ReadsAs w.text w.value

end Written

/-- Pairs with a space behind each are read one after the other. -/
theorem split_spaced {ws : List Written} (hws : ∀ w ∈ ws, w.Reads) (s : Text) :
    splitKeywordPairs (ws.flatMap (fun w => w.render ++ [' ']) ++ s) =
      (ws.map Written.pair ++ ·) <$> splitKeywordPairs s := by
  induction ws with
  | nil =>
      show splitKeywordPairs s = (([] : List (Text × Text)) ++ ·) <$> splitKeywordPairs s
      cases splitKeywordPairs s <;> rfl
  | cons w ws ih =>
      obtain ⟨hkey, htext⟩ := hws w List.mem_cons_self
      have ih := ih fun v hv => hws v (List.mem_cons_of_mem w hv)
      have hcut : (w :: ws).flatMap (fun w => w.render ++ [' ']) ++ s =
          w.key ++ '=' :: (w.text ++ ' ' :: (ws.flatMap (fun w => w.render ++ [' ']) ++ s)) := by
        simp [Written.render]
      rw [hcut, split_pair hkey (htext _ ended_space),
        split_of_start (List.dropWhile_cons_of_pos (by decide)), ih]
      cases splitKeywordPairs s <;> rfl

/-- Joining by spaces puts one behind each but the last. -/
theorem joined_concat (ws : List Written) (w : Written) :
    [' '].intercalate ((ws ++ [w]).map Written.render) =
      ws.flatMap (fun w => w.render ++ [' ']) ++ w.render := by
  induction ws with
  | nil => simp [List.intercalate]
  | cons v ws ih =>
      obtain ⟨x, xs, hx⟩ := List.exists_cons_of_ne_nil (show ws ++ [w] ≠ [] by simp)
      rw [hx] at ih
      rw [List.cons_append, hx, List.flatMap_cons, List.append_assoc, ← ih]
      simp [List.intercalate]

/-- Pairs joined by spaces read as they were meant. -/
theorem split_joined {ws : List Written} (hws : ∀ w ∈ ws, w.Reads) :
    splitKeywordPairs ([' '].intercalate (ws.map Written.render)) = .ok (ws.map Written.pair) := by
  rcases List.eq_nil_or_concat' ws with rfl | ⟨init, w, rfl⟩
  · exact split_nil
  · obtain ⟨hkey, htext⟩ := hws w (by simp)
    have hlast := split_pair hkey (htext [] ended_nil)
    rw [List.append_nil, split_nil] at hlast
    rw [joined_concat, split_spaced fun v hv => hws v (List.mem_append_left _ hv), Written.render,
      hlast]
    simp [Written.pair]

/-- How a pair is written again. -/
def writePair (pair : Text × Text) : Written := ⟨pair.1, escapeKeywordValue pair.2, pair.2⟩

/-- What is written is the pair. -/
theorem write_pair_pair (pair : Text × Text) : (writePair pair).pair = pair := rfl

/-- Pairs that were read once are read again from what is written of them. -/
theorem split_rendered {pairs : List (Text × Text)} (hkeys : ∀ pair ∈ pairs, IsKey pair.1) :
    splitKeywordPairs ([' '].intercalate (pairs.map renderPair)) = .ok pairs := by
  have hreads : ∀ w ∈ pairs.map writePair, w.Reads := by
    intro w hw
    obtain ⟨pair, hpair, rfl⟩ := List.mem_map.1 hw
    exact ⟨hkeys pair hpair, reads_escaped pair.2⟩
  have h := split_joined hreads
  rw [List.map_map, List.map_map] at h
  refine h.trans (congrArg Except.ok ?_)
  exact (List.map_congr_left fun pair _ => write_pair_pair pair).trans (List.map_id _)

/-! ## What is accepted -/

/-- The names of an accepted string are names. -/
theorem split_keys {s : Text} {pairs : List (Text × Text)} (h : splitKeywordPairs s = .ok pairs) :
    ∀ pair ∈ pairs, IsKey pair.1 := by
  fun_induction splitKeywordPairs s generalizing pairs with
  | case1 =>
      cases h
      simp
  | case2 => cases h
  | case3 s c cs hstart key hne afterEq hkey value rest hvalue =>
      rename_i ih
      cases htail : splitKeywordPairs rest with
      | error text =>
          rw [htail] at h
          cases h
      | ok tail =>
          rw [htail] at h
          cases h
          intro pair hpair
          rcases List.mem_cons.1 hpair with rfl | hmem
          · exact ⟨hne, fun d hd => List.mem_takeWhile_imp hd⟩
          · exact ih htail pair hmem
  | case4 => cases h
  | case5 => cases h

end PgMaintainer
