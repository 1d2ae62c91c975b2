import PgMaintainer.Dsn.Offsets

/-!
# `split_keyword_pairs` with its indices

The parser of keyword strings as it is written, on an index into the list of characters. What is
left from the index on is the text that the function of the same name reads, so every index is in
range and both give the same.
-/

namespace PgMaintainer

namespace Offsets

/-! ## The loops -/

/-- `while i < chars.len() && p(chars[i]) { i += 1 }`. -/
def skipWhile (p : Char → Bool) (chars : Text) (i : Nat) : Except Halt Nat :=
  if _h : i < chars.length then do
    let c ← index chars i
    if p c then skipWhile p chars (i + 1) else pure i
  else
    pure i
termination_by chars.length - i

/-- `chars[start..stop]`. -/
def indexRange (chars : Text) (start stop : Nat) : Except Halt Text :=
  if start ≤ stop ∧ stop ≤ chars.length then pure ((chars.drop start).take (stop - start))
  else .error .panic

/-- The loop over a quoted value: where it goes on and the value, or `none` if it was not closed. -/
def quotedFrom (chars : Text) (i : Nat) (value : Text) : Except Halt (Option (Nat × Text)) :=
  if _h : i < chars.length then do
    let c ← index chars i
    if c = '\\' ∧ i + 1 < chars.length then
      let d ← index chars (i + 1)
      quotedFrom chars (i + 2) (value ++ [d])
    else if c = '\'' then
      pure (some (i + 1, value))
    else
      quotedFrom chars (i + 1) (value ++ [c])
  else
    pure none
termination_by chars.length - i

/-- The loop over an unquoted value. -/
def bareFrom (chars : Text) (i : Nat) (value : Text) : Except Halt (Nat × Text) :=
  if _h : i < chars.length then do
    let c ← index chars i
    if isWhitespace c then
      pure (i, value)
    else if c = '\\' ∧ i + 1 < chars.length then
      let d ← index chars (i + 1)
      bareFrom chars (i + 2) (value ++ [d])
    else
      bareFrom chars (i + 1) (value ++ [c])
  else
    pure (i, value)
termination_by chars.length - i

/-- `i < chars.len() && chars[i] == c`. -/
def isAt (c : Char) (chars : Text) (i : Nat) : Except Halt Bool :=
  if i < chars.length then do
    let d ← index chars i
    pure (d = c)
  else
    pure false

/-- The value from an index on. -/
def valueFrom (chars : Text) (i : Nat) : Except Halt (Option (Nat × Text)) := do
  if ← isAt '\'' chars i then
    quotedFrom chars (i + 1) []
  else
    let (i, value) ← bareFrom chars i []
    pure (some (i, value))

/-- One round of the outer loop: the pair that was read and where the next round starts, or `none`
if only whitespace was left. -/
def pairFrom (chars : Text) (i : Nat) : Except Halt (Option ((Text × Text) × Nat)) := do
  let keyStart ← skipWhile isWhitespace chars i
  if chars.length ≤ keyStart then
    pure none
  else
    let keyEnd ← skipWhile isKeyChar chars keyStart
    let key ← indexRange chars keyStart keyEnd
    if key = [] then
      .error (.new "malformed keyword/value string: empty parameter name")
    else
      let i ← skipWhile isWhitespace chars keyEnd
      if ← isAt '=' chars i then
        let i ← skipWhile isWhitespace chars (i + 1)
        match ← valueFrom chars i with
        | some (i, value) => pure (some ((key, value), i))
        | none =>
          .error (.new (s!"malformed keyword/value string: unterminated quoted value for " ++
            s!"'{String.ofList key}'"))
      else
        .error (.new (s!"malformed keyword/value string: parameter '{String.ofList key}' has no " ++
          "'=' value"))

/-! ## What the loops come to -/

/-- The place where an index stands: what is left from there on. -/
structure Stands (chars : Text) (i : Nat) (rest : Text) : Prop where
  left : chars.drop i = rest
  le : i ≤ chars.length

namespace Stands

variable {chars rest : Text} {i : Nat} {c : Char}

/-- One character further on. -/
theorem succ (h : Stands chars i (c :: rest)) : Stands chars (i + 1) rest :=
  ⟨drop_succ h.left, lt_of_drop h.left⟩

/-- Where a character is left, the index is in range. -/
theorem lt (h : Stands chars i (c :: rest)) : i < chars.length := lt_of_drop h.left

/-- It is the character that the index reads. -/
theorem index_eq (h : Stands chars i (c :: rest)) : index chars i = .ok c := index_of_drop h.left

/-- Where none is left, the loop is at its end. -/
theorem not_lt (h : Stands chars i []) : ¬i < chars.length := by
  have := List.drop_eq_nil_iff.1 h.left
  omega

/-- Whether there is a second character. -/
theorem next_lt_iff (h : Stands chars i (c :: rest)) : i + 1 < chars.length ↔ rest ≠ [] := by
  have hlength : rest.length = chars.length - (i + 1) := by rw [← h.succ.left, List.length_drop]
  have := h.lt
  rw [← List.length_pos_iff]
  omega

end Stands

/-- Skipping leaves what is behind the skipped characters. -/
theorem skip_while_stands {chars rest : Text} {i : Nat} (p : Char → Bool)
    (h : Stands chars i rest) : ∃ j, skipWhile p chars i = .ok j ∧
      Stands chars j (rest.dropWhile p) ∧ i ≤ j ∧
      (chars.drop i).take (j - i) = rest.takeWhile p := by
  induction rest generalizing i with
  | nil =>
      refine ⟨i, ?_, h, Nat.le_refl i, by simp⟩
      rw [skipWhile, dif_neg h.not_lt]
      rfl
  | cons c rest ih =>
      rw [skipWhile, dif_pos h.lt, h.index_eq]
      by_cases hc : p c = true
      · obtain ⟨j, hj, hstands, hle, htake⟩ := ih h.succ
        refine ⟨j, ?_, by rwa [List.dropWhile_cons_of_pos hc], by omega, ?_⟩
        · show (if p c = true then _ else _) = _
          rw [if_pos hc, hj]
        · obtain ⟨k, rfl⟩ : ∃ k, j = i + 1 + k := ⟨j - (i + 1), by omega⟩
          rw [List.takeWhile_cons_of_pos hc, ← htake, h.left, h.succ.left]
          have hk : i + 1 + k - i = k + 1 := by omega
          have hk' : i + 1 + k - (i + 1) = k := by omega
          rw [hk, hk', List.take_succ_cons]
      · refine ⟨i, ?_, by rwa [List.dropWhile_cons_of_neg hc], Nat.le_refl i, ?_⟩
        · show (if p c = true then _ else _) = _
          rw [if_neg hc]
          rfl
        · rw [List.takeWhile_cons_of_neg hc, Nat.sub_self, List.take_zero]

/-- Of two places, the one with less behind it comes later. -/
theorem Stands.lt_of_shorter {chars rest rest' : Text} {i j : Nat} (hi : Stands chars i rest)
    (hj : Stands chars j rest') (hlength : rest'.length < rest.length) : i < j := by
  have hleft : rest.length = chars.length - i := by rw [← hi.left, List.length_drop]
  have hleft' : rest'.length = chars.length - j := by rw [← hj.left, List.length_drop]
  omega

section Values

variable {chars rest : Text} {i : Nat} {c d : Char}

/-- A quoted value that is not closed. -/
theorem quoted_from_end (h : Stands chars i []) (value : Text) :
    quotedFrom chars i value = .ok none := by
  rw [quotedFrom, dif_neg h.not_lt]
  rfl

/-- An escaped character of a quoted value. -/
theorem quoted_from_escape (h : Stands chars i ('\\' :: d :: rest)) (value : Text) :
    quotedFrom chars i value = quotedFrom chars (i + 2) (value ++ [d]) := by
  rw [quotedFrom, dif_pos h.lt, h.index_eq]
  show (if '\\' = '\\' ∧ i + 1 < chars.length then _ else _) = _
  rw [if_pos ⟨rfl, h.next_lt_iff.2 (List.cons_ne_nil _ _)⟩, h.succ.index_eq]
  rfl

/-- The closing quote. -/
theorem quoted_from_close (h : Stands chars i ('\'' :: rest)) (value : Text) :
    quotedFrom chars i value = .ok (some (i + 1, value)) := by
  have hquote : ¬('\'' = '\\' ∧ i + 1 < chars.length) := by simp
  rw [quotedFrom, dif_pos h.lt, h.index_eq, ok_bind, if_neg hquote, if_pos rfl]
  rfl

/-- Any other character of a quoted value. -/
theorem quoted_from_plain (h : Stands chars i (c :: rest)) (hquote : c ≠ '\'')
    (hescape : c ≠ '\\' ∨ rest = []) (value : Text) :
    quotedFrom chars i value = quotedFrom chars (i + 1) (value ++ [c]) := by
  have hplain : ¬(c = '\\' ∧ i + 1 < chars.length) := by
    intro ⟨hc, hlt⟩
    exact hescape.elim (fun hne => hne hc) (h.next_lt_iff.1 hlt)
  rw [quotedFrom, dif_pos h.lt, h.index_eq]
  show (if c = '\\' ∧ i + 1 < chars.length then _ else if c = '\'' then _ else _) = _
  rw [if_neg hplain, if_neg hquote]

/-- An unquoted value ends with the text. -/
theorem bare_from_end (h : Stands chars i []) (value : Text) :
    bareFrom chars i value = .ok (i, value) := by
  rw [bareFrom, dif_neg h.not_lt]
  rfl

/-- It ends before a blank. -/
theorem bare_from_space (h : Stands chars i (c :: rest)) (hspace : isWhitespace c = true)
    (value : Text) : bareFrom chars i value = .ok (i, value) := by
  rw [bareFrom, dif_pos h.lt, h.index_eq]
  show (if isWhitespace c = true then _ else _) = _
  rw [if_pos hspace]
  rfl

/-- An escaped character of an unquoted value. -/
theorem bare_from_escape (h : Stands chars i ('\\' :: d :: rest)) (value : Text) :
    bareFrom chars i value = bareFrom chars (i + 2) (value ++ [d]) := by
  have hspace : ¬isWhitespace '\\' = true := by decide
  have hmore := h.next_lt_iff.2 (List.cons_ne_nil _ _)
  rw [bareFrom, dif_pos h.lt, h.index_eq, ok_bind, if_neg hspace, if_pos ⟨rfl, hmore⟩,
    h.succ.index_eq, ok_bind]

/-- Any other character of an unquoted value. -/
theorem bare_from_plain (h : Stands chars i (c :: rest)) (hspace : ¬isWhitespace c = true)
    (hescape : c ≠ '\\' ∨ rest = []) (value : Text) :
    bareFrom chars i value = bareFrom chars (i + 1) (value ++ [c]) := by
  have hplain : ¬(c = '\\' ∧ i + 1 < chars.length) := by
    intro ⟨hc, hlt⟩
    exact hescape.elim (fun hne => hne hc) (h.next_lt_iff.1 hlt)
  rw [bareFrom, dif_pos h.lt, h.index_eq]
  show (if isWhitespace c = true then _ else if c = '\\' ∧ i + 1 < chars.length then _ else _) = _
  rw [if_neg hspace, if_neg hplain]

/-- The loop over a quoted value comes to the scan of what is left. -/
theorem quoted_from_scans (h : Stands chars i rest) (value : Text) :
    (scanQuoted rest = none ∧ quotedFrom chars i value = .ok none) ∨
      ∃ scanned rest' j, scanQuoted rest = some (scanned, rest') ∧
        quotedFrom chars i value = .ok (some (j, value ++ scanned)) ∧ Stands chars j rest' := by
  fun_induction scanQuoted rest generalizing i value with
  | case1 => exact .inl ⟨rfl, quoted_from_end h value⟩
  | case2 =>
      refine .inr ⟨[], [], i + 1, rfl, ?_, h.succ⟩
      rw [quoted_from_close h, List.append_nil]
  | case3 c hc =>
      refine .inl ⟨rfl, ?_⟩
      rw [quoted_from_plain h hc (.inr rfl), quoted_from_end h.succ]
  | case4 d rest ih =>
      rw [quoted_from_escape h]
      obtain ⟨hnone, hloop⟩ | ⟨scanned, rest', j, hscan, hloop, hj⟩ :=
        ih h.succ.succ (value ++ [d])
      · exact .inl ⟨by rw [hnone]; rfl, hloop⟩
      · refine .inr ⟨d :: scanned, rest', j, by rw [hscan]; rfl, ?_, hj⟩
        rw [hloop, List.append_assoc]
        rfl
  | case5 d rest =>
      refine .inr ⟨[], d :: rest, i + 1, rfl, ?_, h.succ⟩
      rw [quoted_from_close h, List.append_nil]
  | case6 c d rest hescape hquote ih =>
      rw [quoted_from_plain h hquote (.inl hescape)]
      obtain ⟨hnone, hloop⟩ | ⟨scanned, rest', j, hscan, hloop, hj⟩ := ih h.succ (value ++ [c])
      · exact .inl ⟨by rw [hnone]; rfl, hloop⟩
      · refine .inr ⟨c :: scanned, rest', j, by rw [hscan]; rfl, ?_, hj⟩
        rw [hloop, List.append_assoc]
        rfl

/-- The loop over an unquoted value comes to the scan of what is left. -/
theorem bare_from_scans (h : Stands chars i rest) (value : Text) :
    ∃ j, bareFrom chars i value = .ok (j, value ++ (scanBare rest).1) ∧
      Stands chars j (scanBare rest).2 := by
  fun_induction scanBare rest generalizing i value with
  | case1 => exact ⟨i, by rw [bare_from_end h, List.append_nil], h⟩
  | case2 c hspace => exact ⟨i, by rw [bare_from_space h hspace, List.append_nil], h⟩
  | case3 c hspace =>
      exact ⟨i + 1, by rw [bare_from_plain h hspace (.inr rfl), bare_from_end h.succ], h.succ⟩
  | case4 c d rest hspace => exact ⟨i, by rw [bare_from_space h hspace, List.append_nil], h⟩
  | case5 d rest hspace ih =>
      obtain ⟨j, hloop, hj⟩ := ih h.succ.succ (value ++ [d])
      refine ⟨j, ?_, hj⟩
      rw [bare_from_escape h, hloop, List.append_assoc]
      rfl
  | case6 c d rest hspace hescape ih =>
      obtain ⟨j, hloop, hj⟩ := ih h.succ (value ++ [c])
      refine ⟨j, ?_, hj⟩
      rw [bare_from_plain h hspace (.inl hescape), hloop, List.append_assoc]
      rfl

/-- No character is found at the end. -/
theorem is_at_end (h : Stands chars i []) (c : Char) : isAt c chars i = .ok false := by
  rw [isAt, if_neg h.not_lt]
  rfl

/-- The next character is compared. -/
theorem is_at_cons (h : Stands chars i (d :: rest)) (c : Char) :
    isAt c chars i = .ok (decide (d = c)) := by
  rw [isAt, if_pos h.lt, h.index_eq]
  rfl

/-- The value from a place on comes to the scan of what is left. -/
theorem value_from_scans (h : Stands chars i rest) :
    (scanValue rest = none ∧ valueFrom chars i = .ok none) ∨
      ∃ scanned rest' j, scanValue rest = some (scanned, rest') ∧
        valueFrom chars i = .ok (some (j, scanned)) ∧ Stands chars j rest' := by
  rw [valueFrom]
  have hbare (hrest : scanValue rest = some (scanBare rest)) (hat : isAt '\'' chars i = .ok false) :
      ∃ scanned rest' j, scanValue rest = some (scanned, rest') ∧
        (do
          if ← isAt '\'' chars i then quotedFrom chars (i + 1) []
          else
            let (i, value) ← bareFrom chars i []
            pure (some (i, value))) = .ok (some (j, scanned)) ∧ Stands chars j rest' := by
    obtain ⟨j, hloop, hj⟩ := bare_from_scans h []
    refine ⟨(scanBare rest).1, (scanBare rest).2, j, hrest, ?_, hj⟩
    rw [hat]
    show (do
      let (i, value) ← bareFrom chars i []
      pure (some (i, value))) = _
    rw [hloop]
    rfl
  cases rest with
  | nil => exact .inr (hbare rfl (is_at_end h _))
  | cons d rest =>
      -- a quote opens a quoted value
      by_cases hd : d = '\''
      · subst hd
        rw [is_at_cons h]
        exact quoted_from_scans h.succ []
      · refine .inr (hbare ?_ ?_)
        · rw [scanValue]
          intro _ heq
          exact hd (List.cons.inj heq).1
        · rw [is_at_cons h, decide_eq_false hd]

end Values

/-! ## The rounds -/

/-- One round of the outer loop on what is left: the pair that was read and what is left behind it,
or `none` if there was only whitespace. -/
def nextPair (s : Text) : Except Malformed (Option ((Text × Text) × Text)) :=
  match s.dropWhile isWhitespace with
  | [] => .ok none
  | c :: cs =>
    let key := (c :: cs).takeWhile isKeyChar
    if key = [] then
      .error "malformed keyword/value string: empty parameter name"
    else
      match ((c :: cs).dropWhile isKeyChar).dropWhile isWhitespace with
      | '=' :: afterEq =>
        match scanValue (afterEq.dropWhile isWhitespace) with
        | some (value, rest) => .ok (some ((key, value), rest))
        | none =>
          .error (s!"malformed keyword/value string: unterminated quoted value for " ++
            s!"'{String.ofList key}'")
      | _ =>
        .error (s!"malformed keyword/value string: parameter '{String.ofList key}' has no " ++
          "'=' value")

/-- The pairs of a text are that of one round and those of the others. -/
theorem split_keyword_pairs_eq (s : Text) : splitKeywordPairs s = (do
    match ← nextPair s with
    | some (pair, rest) =>
      let pairs ← splitKeywordPairs rest
      pure (pair :: pairs)
    | none => pure []) := by
  rw [splitKeywordPairs, nextPair]
  split
  · rename_i hstart
    rw [hstart]
    rfl
  · rename_i c cs hstart
    simp only [hstart]
    by_cases hkey : (c :: cs).takeWhile isKeyChar = []
    · rw [if_pos hkey, if_pos hkey]
      rfl
    · rw [if_neg hkey, if_neg hkey]
      split
      · rename_i afterEq heq
        simp only [heq]
        split
        · rename_i value rest hvalue
          simp only [hvalue]
          rfl
        · rename_i hvalue
          simp only [hvalue]
          rfl
      · rename_i hother
        split
        · rename_i afterEq heq
          exact absurd heq (hother afterEq)
        · rfl

/-- A round leaves a shorter rest. -/
theorem next_pair_shorter {s rest : Text} {pair : Text × Text}
    (h : nextPair s = .ok (some (pair, rest))) : rest.length < s.length := by
  unfold nextPair at h
  split at h
  · cases h
  · rename_i c cs hstart
    simp only at h
    split at h
    · cases h
    · split at h
      · rename_i afterEq hkey
        split at h
        · rename_i value rest' hvalue
          cases h
          -- the parts come one after the other, and the keyword is not empty
          have hrest : rest.length ≤ _ := scan_value_length hvalue
          have hspace := length_dropWhile_le isWhitespace afterEq
          have hdrop := length_dropWhile_le isWhitespace ((c :: cs).dropWhile isKeyChar)
          have hname := length_dropWhile_le isKeyChar (c :: cs)
          have hlead := length_dropWhile_le isWhitespace s
          rw [hkey] at hdrop
          rw [hstart] at hlead
          simp only [List.length_cons] at hdrop
          omega
        · cases h
      · cases h

/-- How a round on indices stands to the one on what is left. -/
inductive Round (chars : Text) : Except Malformed (Option ((Text × Text) × Text)) →
    Except Halt (Option ((Text × Text) × Nat)) → Prop where
  | refused (text : String) : Round chars (.error text) (.error (.new text))
  | nothing : Round chars (.ok none) (.ok none)
  | pair (pair : Text × Text) {rest : Text} {j : Nat} (h : Stands chars j rest) :
    Round chars (.ok (some (pair, rest))) (.ok (some (pair, j)))

/-- Every index of a round is in range, and the round comes to the one on what is left. -/
theorem pair_from_round {chars rest : Text} {i : Nat} (h : Stands chars i rest) :
    Round chars (nextPair rest) (pairFrom chars i) := by
  obtain ⟨keyStart, hstart, hkeyStart, -, -⟩ := skip_while_stands isWhitespace h
  rw [pairFrom, hstart, ok_bind, nextPair]
  split
  · rename_i hnil
    rw [hnil] at hkeyStart
    rw [if_pos (List.drop_eq_nil_iff.1 hkeyStart.left)]
    exact .nothing
  · rename_i c cs hcons
    rw [hcons] at hkeyStart
    obtain ⟨keyEnd, hend, hkeyEnd, hle, hkey⟩ := skip_while_stands isKeyChar hkeyStart
    have hname : indexRange chars keyStart keyEnd = .ok ((c :: cs).takeWhile isKeyChar) := by
      rw [indexRange, if_pos ⟨hle, hkeyEnd.le⟩, hkey]
      rfl
    rw [if_neg (Nat.not_le.2 hkeyStart.lt), hend, ok_bind, hname, ok_bind]
    generalize (c :: cs).takeWhile isKeyChar = key
    -- no keyword, then no equals sign, then a value that is not closed
    by_cases hempty : key = []
    · rw [if_pos hempty, if_pos hempty]
      exact .refused _
    · obtain ⟨eq, heq, hstands, -, -⟩ := skip_while_stands isWhitespace hkeyEnd
      rw [if_neg hempty, if_neg hempty, heq, ok_bind]
      split
      · rename_i afterEq hafter
        rw [hafter] at hstands
        obtain ⟨valueStart, hspace, hvalue, -, -⟩ := skip_while_stands isWhitespace hstands.succ
        rw [is_at_cons hstands, ok_bind, if_pos (by simp), hspace, ok_bind]
        obtain ⟨hscan, hfrom⟩ | ⟨scanned, rest', j, hscan, hfrom, hj⟩ := value_from_scans hvalue
        · rw [hscan, hfrom]
          exact .refused _
        · rw [hscan, hfrom]
          exact .pair _ hj
      · rename_i hother
        have hat : isAt '=' chars eq = .ok false := by
          cases hleft : ((c :: cs).dropWhile isKeyChar).dropWhile isWhitespace with
          | nil =>
              rw [hleft] at hstands
              exact is_at_end hstands _
          | cons d rest =>
              rw [hleft] at hstands
              rw [is_at_cons hstands, decide_eq_false]
              rintro rfl
              exact hother rest hleft
        rw [hat]
        exact .refused _

/-- A round goes on. -/
theorem pair_from_advances {chars : Text} {i j : Nat} {pair : Text × Text} (hi : i < chars.length)
    (h : pairFrom chars i = .ok (some (pair, j))) : i < j := by
  have hstands : Stands chars i (chars.drop i) := ⟨rfl, by omega⟩
  have hround := pair_from_round hstands
  rw [h] at hround
  cases hnext : nextPair (chars.drop i) with
  | error text =>
      rw [hnext] at hround
      cases hround
  | ok found =>
      rw [hnext] at hround
      cases hround with
      | pair _ hj => exact hstands.lt_of_shorter hj (next_pair_shorter hnext)

/-- The outer loop of `split_keyword_pairs`. -/
def splitFrom (chars : Text) (i : Nat) (pairs : List (Text × Text)) :
    Except Halt (List (Text × Text)) :=
  if _h : i < chars.length then
    match _hpair : pairFrom chars i with
    | .error halt => .error halt
    | .ok none => pure pairs
    | .ok (some (pair, j)) => splitFrom chars j (pairs ++ [pair])
  else
    pure pairs
termination_by chars.length - i
decreasing_by
  have := pair_from_advances _h _hpair
  omega

/-- Split a libpq keyword string into `(key, value)` pairs. -/
def splitKeywordPairs (s : Text) : Except Halt (List (Text × Text)) := splitFrom s 0 []

/-- What a refusal is to the callers. -/
def ofMalformed {α : Type} : Except Malformed α → Except Halt α
  | .ok a => .ok a
  | .error text => .error (.new text)

/-- The outer loop comes to the pairs of what is left. -/
theorem split_from_eq {chars rest : Text} {i : Nat} (h : Stands chars i rest)
    (pairs : List (Text × Text)) : splitFrom chars i pairs =
      ofMalformed ((pairs ++ ·) <$> PgMaintainer.splitKeywordPairs rest) := by
  induction hn : rest.length using Nat.strongRecOn generalizing rest i pairs with
  | ind n ih =>
      rw [splitFrom]
      cases rest with
      | nil =>
          rw [dif_neg h.not_lt, split_nil]
          show Except.ok pairs = .ok (pairs ++ [])
          rw [List.append_nil]
      | cons c rest =>
          rw [dif_pos h.lt, split_keyword_pairs_eq]
          have hround := pair_from_round h
          generalize hnext : nextPair (c :: rest) = next at hround
          generalize hfrom : pairFrom chars i = found at hround
          cases hround with
          | refused text => rfl
          | nothing =>
              show Except.ok pairs = .ok (pairs ++ [])
              rw [List.append_nil]
          | pair pair hj =>
              rename_i rest' j
              rw [ok_bind]
              simp only [ih _ (hn ▸ next_pair_shorter hnext) hj _ rfl]
              cases PgMaintainer.splitKeywordPairs rest' with
              | error text => rfl
              | ok more =>
                  show Except.ok (pairs ++ [pair] ++ more) = .ok (pairs ++ pair :: more)
                  rw [List.append_assoc]
                  rfl

/-- The pairs come to the function on texts. -/
theorem split_keyword_pairs_offsets (s : Text) :
    splitKeywordPairs s = ofMalformed (PgMaintainer.splitKeywordPairs s) := by
  have hstart : Stands s 0 s := ⟨rfl, Nat.zero_le _⟩
  rw [splitKeywordPairs, split_from_eq hstart]
  cases PgMaintainer.splitKeywordPairs s <;> rfl

end Offsets

end PgMaintainer
