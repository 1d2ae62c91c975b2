import PgMaintainer.Dsn.Indexed
import PgMaintainer.Properties.PasswordFile

/-!
# Writing and reading again

Two formats are read by loops that were written by hand, the keyword strings of a connection and the
lines of a password file. What is written in the format comes back as it was.
-/

namespace PgMaintainer

/-! ## Keyword strings -/

/-- A keyword string with these pairs. -/
def renderKeywordPairs (pairs : List (Text × Text)) : Text :=
  [' '].intercalate (pairs.map renderPair)

/-- The parser of keyword strings comes to an end on every string, with pairs or with a refusal,
since each of its rounds advances; it reads back every list of pairs with proper names; and rendering
the pairs of a string it accepts changes nothing. -/
theorem keyword_round_trip :
    (∀ chars i pair j, i < chars.length → Offsets.pairFrom chars i = .ok (some (pair, j)) →
      i < j) ∧
    (∀ s, (∃ pairs, Offsets.splitKeywordPairs s = .ok pairs) ∨
      ∃ text, Offsets.splitKeywordPairs s = .error (.new text)) ∧
    (∀ pairs, (∀ pair ∈ pairs, IsKey pair.1) →
      Offsets.splitKeywordPairs (renderKeywordPairs pairs) = .ok pairs) ∧
    ∀ s pairs, Offsets.splitKeywordPairs s = .ok pairs →
      Offsets.splitKeywordPairs (renderKeywordPairs pairs) = .ok pairs := by
  have hrendered : ∀ pairs, (∀ pair ∈ pairs, IsKey pair.1) →
      Offsets.splitKeywordPairs (renderKeywordPairs pairs) = .ok pairs := by
    intro pairs hkeys
    rw [Offsets.split_keyword_pairs_offsets, renderKeywordPairs, split_rendered hkeys]
    rfl
  refine ⟨fun _ _ _ _ => Offsets.pair_from_advances, fun s => ?_, hrendered, ?_⟩
  · rw [Offsets.split_keyword_pairs_offsets]
    cases splitKeywordPairs s with
    | ok pairs => exact .inl ⟨pairs, rfl⟩
    | error text => exact .inr ⟨text, rfl⟩
  · intro s pairs h
    rw [Offsets.split_keyword_pairs_offsets] at h
    cases hsplit : splitKeywordPairs s with
    | error text =>
        rw [hsplit] at h
        cases h
    | ok found =>
        rw [hsplit] at h
        obtain rfl : found = pairs := by cases h; rfl
        exact hrendered found (split_keys hsplit)

/-- A value with a quote, one with a space and an empty one. -/
def threePairs : List (Text × Text) :=
  [("user".toList, "o'neil".toList), ("password".toList, "a b\\".toList), ("dbname".toList, [])]

/-- They are quoted, and come back. -/
theorem three_pairs_come_back :
    renderKeywordPairs threePairs = "user='o\\'neil' password='a b\\\\' dbname=''".toList ∧
      Offsets.splitKeywordPairs (renderKeywordPairs threePairs) = .ok threePairs := by
  refine ⟨by decide, keyword_round_trip.2.2.1 threePairs ?_⟩
  simp only [threePairs, List.forall_mem_cons]
  refine ⟨?_, ?_, ?_, fun _ h => absurd h List.not_mem_nil⟩
  · exact is_key_of_all (by decide) (by decide)
  · exact is_key_of_all (by decide) (by decide)
  · exact is_key_of_all (by decide) (by decide)

/-! ## Lines of a password file -/

/-- A line with these fields. -/
def renderPgpassLine (fields : List Text) : Text :=
  [':'].intercalate (fields.map escapePgpassField)

/-- How many backslashes stand at the end of a text. -/
def trailingBackslashes (s : Text) : Nat := (s.reverse.takeWhile (· == '\\')).length

/-- Whether the character at this place has an odd number of backslashes in front of it, of which
the last belongs to it. -/
def isEscaped (line : Text) (i : Nat) : Bool := trailingBackslashes (line.take i) % 2 == 1

/-- The number of colons that no backslash takes. -/
def freeColons (s : Text) : Nat :=
  (List.range s.length).countP fun i => s[i]? == some ':' && !isEscaped s i

/-- The colons that no backslash takes, behind a text that was read before. -/
def freeColonsBehind (before s : Text) : Nat :=
  (List.range s.length).countP fun i =>
    s[i]? == some ':' && !isEscaped (before ++ s) (before.length + i)

section Colons

variable {before s : Text} {c : Char}

/-- A colon is free behind an even number of backslashes. -/
theorem free_colons_behind_cons : freeColonsBehind before (c :: s) =
    (if c = ':' ∧ trailingBackslashes before % 2 = 0 then 1 else 0) +
      freeColonsBehind (before ++ [c]) s := by
  have hrest : ∀ i, ((c :: s)[i + 1]? == some ':' &&
      !isEscaped (before ++ c :: s) (before.length + (i + 1))) =
      (s[i]? == some ':' &&
        !isEscaped (before ++ [c] ++ s) ((before ++ [c]).length + i)) := by
    intro i
    have hplace : before.length + (i + 1) = (before ++ [c]).length + i := by
      rw [List.length_append]
      show _ = before.length + 1 + i
      omega
    rw [List.getElem?_cons_succ, hplace, List.append_assoc]
    rfl
  have hfirst : ((c :: s)[0]? == some ':' &&
      !isEscaped (before ++ c :: s) (before.length + 0)) =
      decide (c = ':' ∧ trailingBackslashes before % 2 = 0) := by
    rw [isEscaped, Nat.add_zero, List.take_left]
    -- the number of backslashes is even or odd, and only an odd one escapes
    have hparity := Nat.mod_two_eq_zero_or_one (trailingBackslashes before)
    by_cases hc : c = ':'
    · obtain heven | hodd := hparity
      · simp [hc, heven]
      · simp [hc, hodd]
    · simp [hc]
  rw [freeColonsBehind, List.length_cons, List.range_succ_eq_map, List.countP_cons,
    List.countP_map, freeColonsBehind, Nat.add_comm]
  simp only [hfirst, decide_eq_true_eq]
  congr 1
  exact List.countP_congr fun i _ => by rw [Function.comp_apply, Nat.succ_eq_add_one, hrest]

/-- A backslash more, or none. -/
theorem trailing_backslashes_append (before : Text) (c : Char) :
    trailingBackslashes (before ++ [c]) =
      if c = '\\' then trailingBackslashes before + 1 else 0 := by
  rw [trailingBackslashes, List.reverse_append, List.reverse_singleton, List.singleton_append]
  by_cases hc : c = '\\'
  · rw [if_pos hc, List.takeWhile_cons_of_pos (by simp [hc])]
    rfl
  · rw [if_neg hc, List.takeWhile_cons_of_neg (by simp [hc])]
    rfl

end Colons

/-- Behind a text that leaves no backslash open, a line is cut once for each free colon. An open
backslash may be left where the line goes on with a character it does not take. -/
theorem length_split_from (line before current : Text)
    (h : trailingBackslashes before % 2 = 0 ∨ ∀ d ∈ line.head?, d ≠ ':' ∧ d ≠ '\\') :
    (splitPgpassFrom current line).length = freeColonsBehind before line + 1 := by
  fun_induction splitPgpassFrom current line generalizing before with
  | case1 => rfl
  | case2 current =>
      have heven : trailingBackslashes before % 2 = 0 := h.resolve_right fun hno => by
        exact absurd rfl (hno ':' rfl).1
      rw [free_colons_behind_cons, if_pos ⟨rfl, heven⟩]
      rfl
  | case3 current c hc =>
      rw [free_colons_behind_cons, if_neg fun h => hc h.1]
      rfl
  -- an escaped character: two backslashes, or one and a colon that is not free
  | case4 current d rest hd ih =>
      have heven : trailingBackslashes before % 2 = 0 := h.resolve_right fun hno => by
        exact absurd rfl (hno '\\' rfl).2
      have hopen := trailing_backslashes_append before '\\'
      rw [if_pos rfl] at hopen
      have hclosed : trailingBackslashes (before ++ ['\\'] ++ [d]) % 2 = 0 := by
        rw [trailing_backslashes_append]
        split
        · omega
        · rfl
      rw [free_colons_behind_cons, free_colons_behind_cons, ih _ (.inl hclosed), if_neg (by simp),
        if_neg (by omega)]
      omega
  -- a backslash that escapes nothing
  | case5 current d rest hd ih =>
      have hplain : ∀ e ∈ (d :: rest).head?, e ≠ ':' ∧ e ≠ '\\' := by
        intro e he
        obtain rfl : d = e := by simpa using he
        exact not_or.1 hd
      have hrest := ih (before ++ ['\\']) (.inr hplain)
      rw [free_colons_behind_cons, hrest, if_neg (by simp)]
      omega
  | case6 current d rest hescape ih =>
      have heven : trailingBackslashes before % 2 = 0 := h.resolve_right fun hno => by
        exact absurd rfl (hno ':' rfl).1
      have hclosed := trailing_backslashes_append before ':'
      rw [if_neg (by decide)] at hclosed
      have hrest := ih (before ++ [':']) (.inl (by rw [hclosed]))
      rw [List.length_cons, free_colons_behind_cons, hrest, if_pos ⟨rfl, heven⟩]
      omega
  | case7 current c d rest hescape hcolon ih =>
      have hclosed := trailing_backslashes_append before c
      rw [if_neg hescape] at hclosed
      have hrest := ih (before ++ [c]) (.inl (by rw [hclosed]))
      rw [free_colons_behind_cons, hrest, if_neg fun h => hcolon h.1]
      omega

/-- The fields of a rendered line. By induction on the fields. -/
theorem split_rendered_fields {fields : List Text} (h : fields ≠ []) :
    splitPgpassLine (renderPgpassLine fields) = fields := by
  induction fields with
  | nil => exact absurd rfl h
  | cons field fields ih =>
      cases fields with
      | nil =>
          show splitPgpassFrom [] ([':'].intercalate [escapePgpassField field]) = _
          rw [List.intercalate_singleton, split_pgpass_last]
      | cons next fields =>
          have hcut : renderPgpassLine (field :: next :: fields) =
              escapePgpassField field ++ ':' :: renderPgpassLine (next :: fields) := by
            simp [renderPgpassLine, List.intercalate]
          rw [hcut, splitPgpassLine, split_pgpass_field_colon]
          exact congrArg (field :: ·) (ih (List.cons_ne_nil _ _))

/-- Fields that are joined by colons, each with its backslashes and colons escaped, come back; and a
line has one field more than colons that are not escaped. -/
theorem pgpass_round_trip :
    (∀ fields, fields ≠ [] → splitPgpassLine (renderPgpassLine fields) = fields) ∧
      ∀ line, (splitPgpassLine line).length = freeColons line + 1 := by
  refine ⟨fun _ => split_rendered_fields, fun line => ?_⟩
  have hlength := length_split_from line [] [] (.inl rfl)
  have hstart : freeColonsBehind [] line = freeColons line := by
    rw [freeColonsBehind, freeColons, List.nil_append]
    simp only [List.length_nil, Nat.zero_add]
  rwa [hstart] at hlength

/-- A backslash before a colon, and at the end of a field. -/
theorem backslashes_come_back :
    renderPgpassLine ["a:b".toList, "c\\".toList, []] = "a\\:b:c\\\\:".toList ∧
      splitPgpassLine (renderPgpassLine ["a:b".toList, "c\\".toList, []]) =
        ["a:b".toList, "c\\".toList, []] :=
  ⟨by decide, pgpass_round_trip.1 _ (List.cons_ne_nil _ _)⟩

end PgMaintainer
