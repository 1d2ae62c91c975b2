import PgMaintainer.Text

/-!
# libpq keyword strings

Pairs are separated by whitespace, `=` may be surrounded by whitespace, and a value may be
single-quoted, in which case `\'` and `\\` are escapes and whitespace is literal. After
`split_keyword_pairs` and `escape_keyword_value` of `dsn.rs`.
-/

namespace PgMaintainer

/-- What a connection string can be read as: a value, or why it was refused. -/
abbrev Malformed := String

/-- A character that belongs to a parameter name. -/
def isKeyChar (c : Char) : Bool := c ≠ '=' && !isWhitespace c

/-- Put a character in front of the value of a scan. -/
def pushChar (c : Char) (scan : Text × Text) : Text × Text := (c :: scan.1, scan.2)

/-- A quoted value from behind its opening quote, and what follows the closing one; `none` if
there is none. -/
def scanQuoted : Text → Option (Text × Text)
  | [] => none
  | [c] => if c = '\'' then some ([], []) else none
  | c :: d :: rest =>
    if c = '\\' then (scanQuoted rest).map (pushChar d)
    else if c = '\'' then some ([], d :: rest)
    else (scanQuoted (d :: rest)).map (pushChar c)

/-- An unquoted value: up to the next whitespace, a backslash taking the character behind it. -/
def scanBare : Text → Text × Text
  | [] => ([], [])
  | [c] => if isWhitespace c then ([], [c]) else ([c], [])
  | c :: d :: rest =>
    if isWhitespace c then ([], c :: d :: rest)
    else if c = '\\' then pushChar d (scanBare rest)
    else pushChar c (scanBare (d :: rest))

/-- A value, and what follows it; `none` if its quote is never closed. -/
def scanValue : Text → Option (Text × Text)
  | '\'' :: rest => scanQuoted rest
  | s => some (scanBare s)

@[simp] theorem push_char_snd (c : Char) (scan : Text × Text) : (pushChar c scan).2 = scan.2 :=
  rfl

/-- A quoted value leaves a shorter rest. -/
theorem scan_quoted_length {s : Text} {scan : Text × Text} (h : scanQuoted s = some scan) :
    scan.2.length < s.length := by
  fun_induction scanQuoted s generalizing scan with
  | case1 => cases h
  | case2 => cases h; simp
  | case3 => cases h
  | case4 d rest ih =>
      obtain ⟨inner, hinner, rfl⟩ := Option.map_eq_some_iff.1 h
      have := ih hinner
      simp only [push_char_snd, List.length_cons]
      omega
  | case5 => cases h; simp
  | case6 c d rest hescape hquote ih =>
      obtain ⟨inner, hinner, rfl⟩ := Option.map_eq_some_iff.1 h
      have := ih hinner
      simp only [push_char_snd, List.length_cons] at this ⊢
      omega

/-- An unquoted value leaves no longer rest. -/
theorem scan_bare_length (s : Text) : (scanBare s).2.length ≤ s.length := by
  fun_induction scanBare s with
  | case1 => simp
  | case2 => simp
  | case3 => simp
  | case4 => simp
  | case5 d rest hspace ih =>
      simp only [push_char_snd, List.length_cons]
      omega
  | case6 c d rest hspace hescape ih =>
      simp only [push_char_snd, List.length_cons] at ih ⊢
      omega

/-- Reading a value never makes the text longer. -/
theorem scan_value_length {s : Text} {scan : Text × Text} (h : scanValue s = some scan) :
    scan.2.length ≤ s.length := by
  unfold scanValue at h
  split at h
  · have := scan_quoted_length h
    simp only [List.length_cons]
    omega
  · cases h
    exact scan_bare_length s

/-- Dropping a prefix never makes the text longer. -/
theorem length_dropWhile_le (p : Char → Bool) (s : Text) : (s.dropWhile p).length ≤ s.length :=
  (List.dropWhile_suffix p).length_le

/-- Split a libpq keyword string into `(key, value)` pairs. -/
def splitKeywordPairs (s : Text) : Except Malformed (List (Text × Text)) :=
  match _hstart : s.dropWhile isWhitespace with
  | [] => .ok []
  | c :: cs =>
    let key := (c :: cs).takeWhile isKeyChar
    if key = [] then
      .error "malformed keyword/value string: empty parameter name"
    else
      match _hkey : ((c :: cs).dropWhile isKeyChar).dropWhile isWhitespace with
      | '=' :: afterEq =>
        match _hvalue : scanValue (afterEq.dropWhile isWhitespace) with
        | some (value, rest) => do
          let pairs ← splitKeywordPairs rest
          pure ((key, value) :: pairs)
        | none =>
          .error (s!"malformed keyword/value string: unterminated quoted value for " ++
            s!"'{String.ofList key}'")
      | _ =>
        .error (s!"malformed keyword/value string: parameter '{String.ofList key}' has no " ++
          "'=' value")
termination_by s.length
decreasing_by
  have hrest : rest.length ≤ _ := scan_value_length _hvalue
  have hspace := length_dropWhile_le isWhitespace afterEq
  have hdrop := length_dropWhile_le isWhitespace ((c :: cs).dropWhile isKeyChar)
  have hname := length_dropWhile_le isKeyChar (c :: cs)
  have hlead := length_dropWhile_le isWhitespace s
  rw [_hkey] at hdrop
  rw [_hstart] at hlead
  simp only [List.length_cons] at hdrop
  omega

/-- A character that is not taken as it stands. -/
def needsEscape (c : Char) : Bool := isWhitespace c || c == '\'' || c == '\\'

/-- `s.replace('\\', "\\\\").replace('\'', "\\'")`. -/
def escapeChars (s : Text) : Text :=
  (s.flatMap fun c => if c = '\\' then ['\\', '\\'] else [c]).flatMap fun c =>
    if c = '\'' then ['\\', '\''] else [c]

/-- Quote a value for a libpq keyword string. -/
def escapeKeywordValue (s : Text) : Text :=
  if s = [] ∨ s.any needsEscape then '\'' :: escapeChars s ++ ['\''] else s

end PgMaintainer
