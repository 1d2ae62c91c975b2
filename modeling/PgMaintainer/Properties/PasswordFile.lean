import PgMaintainer.Startup.Environment

/-!
# What a password file says

Entries written one a line, their fields joined by colons, are read back. `get_password_from_pgpass`
trims each line first, so the host loses its leading and the password its trailing whitespace, and
an empty field matches every value, as `*` does.
-/

namespace PgMaintainer

/-! ## Writing a password file -/

/-- An entry of a password file. -/
structure PgpassEntry where
  host : Text
  port : Text
  database : Text
  username : Text
  password : Text

/-- A character of a field: a backslash stands before a backslash or colon. -/
def escapePgpassChar (c : Char) : Text := if c = ':' ∨ c = '\\' then ['\\', c] else [c]

/-- A field as it is written. -/
def escapePgpassField (field : Text) : Text := field.flatMap escapePgpassChar

/-- The line of an entry. -/
def PgpassEntry.line (e : PgpassEntry) : Text :=
  escapePgpassField e.host ++ ':' :: (escapePgpassField e.port ++ ':' ::
    (escapePgpassField e.database ++ ':' :: (escapePgpassField e.username ++ ':' ::
      escapePgpassField e.password)))

/-- A line of a password file: an entry, or a blank line or comment. -/
inductive PgpassLine where
  | entry (e : PgpassEntry)
  | filler (text : Text)

namespace PgpassLine

/-- How a line is written. -/
def text : PgpassLine → Text
  | .entry e => e.line
  | .filler text => text

/-- What is said of a line: no field of an entry has a line break, and what is no entry is blank or
a comment. -/
def WellFormed : PgpassLine → Prop
  | .entry e => ∀ field ∈ [e.host, e.port, e.database, e.username, e.password], '\n' ∉ field
  | .filler text => '\n' ∉ text ∧ (text.trim = [] ∨ text.trim.head? = some '#')

instance (line : PgpassLine) : Decidable line.WellFormed :=
  match line with
  | .entry e => inferInstanceAs (Decidable (∀ field ∈
      [e.host, e.port, e.database, e.username, e.password], '\n' ∉ field))
  | .filler text => inferInstanceAs (Decidable ('\n' ∉ text ∧
      (text.trim = [] ∨ text.trim.head? = some '#')))

/-- The entry on a line. -/
def entry? : PgpassLine → Option PgpassEntry
  | .entry e => some e
  | .filler _ => none

end PgpassLine

/-! ## Reading an entry back -/

/-- A field is escaped character by character. -/
theorem escape_cons (c : Char) (field : Text) :
    escapePgpassField (c :: field) = escapePgpassChar c ++ escapePgpassField field := rfl

/-- So two fields in a row are. -/
theorem escape_append (s t : Text) :
    escapePgpassField (s ++ t) = escapePgpassField s ++ escapePgpassField t :=
  List.flatMap_append

/-- Whitespace stays as it is. -/
theorem escape_space {c : Char} (h : isWhitespace c = true) : escapePgpassChar c = [c] := by
  rw [escapePgpassChar, if_neg]
  rintro (rfl | rfl)
  · exact absurd h (by decide)
  · exact absurd h (by decide)

/-- What stands for another character neither begins nor ends with whitespace. -/
theorem escape_other {c : Char} (h : ¬isWhitespace c = true) : ∃ first last before after,
    escapePgpassChar c = first :: after ∧ escapePgpassChar c = before ++ [last] ∧
      ¬isWhitespace first = true ∧ ¬isWhitespace last = true := by
  rw [escapePgpassChar]
  by_cases hc : c = ':' ∨ c = '\\'
  · rw [if_pos hc]
    exact ⟨'\\', c, ['\\'], [c], rfl, rfl, by decide, h⟩
  · rw [if_neg hc]
    exact ⟨c, c, [], [], rfl, rfl, h, h⟩

section Splitting

variable {c d : Char} {current rest : Text}

/-- A plain character goes into the field. -/
theorem split_pgpass_plain (hcolon : c ≠ ':') (hescape : c ≠ '\\') :
    splitPgpassFrom current (c :: rest) = splitPgpassFrom (c :: current) rest := by
  cases rest with
  | nil => simp [splitPgpassFrom, hcolon]
  | cons d rest => rw [splitPgpassFrom, if_neg hescape, if_neg hcolon]

/-- A colon ends the field. -/
theorem split_pgpass_colon :
    splitPgpassFrom current (':' :: rest) = current.reverse :: splitPgpassFrom [] rest := by
  cases rest with
  | nil => simp [splitPgpassFrom]
  | cons d rest => rw [splitPgpassFrom, if_neg (by decide), if_pos rfl]

/-- An escaped character goes into the field without its backslash. -/
theorem split_pgpass_escape (hd : d = ':' ∨ d = '\\') :
    splitPgpassFrom current ('\\' :: d :: rest) = splitPgpassFrom (d :: current) rest := by
  rw [splitPgpassFrom, if_pos rfl, if_pos hd]

/-- An escaped field is read as it was. -/
theorem split_pgpass_field (field : Text) :
    splitPgpassFrom current (escapePgpassField field ++ rest) =
      splitPgpassFrom (field.reverse ++ current) rest := by
  induction field generalizing current with
  | nil => rfl
  | cons c field ih =>
      rw [escape_cons, List.append_assoc, List.reverse_cons, List.append_assoc, escapePgpassChar]
      by_cases hc : c = ':' ∨ c = '\\'
      · rw [if_pos hc]
        exact (split_pgpass_escape hc).trans ih
      · rw [if_neg hc]
        have hplain := not_or.1 hc
        exact (split_pgpass_plain hplain.1 hplain.2).trans ih

/-- An escaped field is read up to the colon behind it. -/
theorem split_pgpass_field_colon (field : Text) :
    splitPgpassFrom [] (escapePgpassField field ++ ':' :: rest) =
      field :: splitPgpassFrom [] rest := by
  rw [split_pgpass_field, split_pgpass_colon, List.append_nil, List.reverse_reverse]

/-- The last field is read up to the end. -/
theorem split_pgpass_last (field : Text) :
    splitPgpassFrom [] (escapePgpassField field) = [field] := by
  have h : splitPgpassFrom [] (escapePgpassField field ++ []) =
      splitPgpassFrom (field.reverse ++ []) [] := split_pgpass_field field
  rw [List.append_nil, List.append_nil] at h
  rw [h, splitPgpassFrom, List.reverse_reverse]

end Splitting

/-- The fields of a line are those of its entry. -/
theorem split_pgpass_line (e : PgpassEntry) :
    splitPgpassLine e.line = [e.host, e.port, e.database, e.username, e.password] := by
  rw [splitPgpassLine, PgpassEntry.line, split_pgpass_field_colon, split_pgpass_field_colon,
    split_pgpass_field_colon, split_pgpass_field_colon, split_pgpass_last]

/-! ## Trimming a line -/

/-- What the trimmed line of an entry says: its host without leading whitespace and its password
without trailing whitespace. -/
def PgpassEntry.trimmed (e : PgpassEntry) : PgpassEntry :=
  { e with
    host := e.host.dropWhile isWhitespace
    password := e.password.trimEnd }

/-- Whitespace before a field is dropped before it was escaped. -/
theorem drop_space_escaped (field rest : Text) :
    (escapePgpassField field ++ ':' :: rest).dropWhile isWhitespace =
      escapePgpassField (field.dropWhile isWhitespace) ++ ':' :: rest := by
  induction field with
  | nil => exact List.dropWhile_cons_of_neg (by decide)
  | cons c field ih =>
      rw [escape_cons, List.append_assoc]
      by_cases hspace : isWhitespace c = true
      · rw [escape_space hspace, List.dropWhile_cons_of_pos hspace, ← ih]
        exact List.dropWhile_cons_of_pos hspace
      · obtain ⟨first, -, -, after, hfirst, -, hother, -⟩ := escape_other hspace
        rw [List.dropWhile_cons_of_neg hspace, escape_cons, hfirst, List.append_assoc]
        exact List.dropWhile_cons_of_neg hother

/-- So is whitespace behind a field. -/
theorem trim_end_escaped (before field : Text) :
    Text.trimEnd (before ++ ':' :: escapePgpassField field) =
      before ++ ':' :: escapePgpassField field.trimEnd := by
  unfold Text.trimEnd
  induction field using List.reverseRecOn with
  | nil => exact List.rdropWhile_concat_neg _ _ _ (by decide)
  | append_singleton field c ih =>
      have hlast : before ++ ':' :: escapePgpassField (field ++ [c]) =
          before ++ ':' :: escapePgpassField field ++ escapePgpassChar c := by
        have hsingle : escapePgpassField [c] = escapePgpassChar c := List.append_nil _
        rw [escape_append, hsingle, List.append_assoc]
        rfl
      by_cases hspace : isWhitespace c = true
      · rw [hlast, escape_space hspace, List.rdropWhile_concat_pos _ _ _ hspace,
          List.rdropWhile_concat_pos _ _ _ hspace, ih]
      · obtain ⟨-, last, init, -, -, hinit, -, hother⟩ := escape_other hspace
        rw [List.rdropWhile_concat_neg _ _ _ hspace, hlast, hinit, ← List.append_assoc]
        exact List.rdropWhile_concat_neg _ _ _ hother

/-- Trimming the line of an entry gives the line of what it says. -/
theorem trim_line (e : PgpassEntry) : e.line.trim = e.trimmed.line := by
  have hlast : ∀ host, escapePgpassField host ++ ':' :: (escapePgpassField e.port ++ ':' ::
      (escapePgpassField e.database ++ ':' :: (escapePgpassField e.username ++ ':' ::
        escapePgpassField e.password))) =
      (escapePgpassField host ++ ':' :: (escapePgpassField e.port ++ ':' ::
        (escapePgpassField e.database ++ ':' :: escapePgpassField e.username))) ++ ':' ::
        escapePgpassField e.password := by
    intro host
    simp
  rw [Text.trim, PgpassEntry.line, drop_space_escaped, hlast, trim_end_escaped]
  simp [PgpassEntry.trimmed, PgpassEntry.line]

/-! ## The first entry that matches -/

/-- Whether an entry is for a connection: the host without leading whitespace does not begin a
comment, and each of the first four fields is empty, `*` or the value asked for. -/
def PgpassEntry.isFor (e : PgpassEntry) (host : Text) (port : Nat) (database username : Text) :
    Bool :=
  (e.host.dropWhile isWhitespace).head? ≠ some '#' &&
    (pgpassFieldMatches (e.host.dropWhile isWhitespace) host &&
      pgpassFieldMatches e.port (decimal port) && pgpassFieldMatches e.database database &&
      pgpassFieldMatches e.username username)

/-- The password of an entry's line. -/
theorem line_password (e : PgpassEntry) (host : Text) (port : Nat) (database username : Text) :
    pgpassLinePassword host port database username e.line =
      if e.isFor host port database username then some e.password.trimEnd else none := by
  have hhead : (e.trimmed.line.head? = some '#') ↔
      (e.host.dropWhile isWhitespace).head? = some '#' := by
    rw [PgpassEntry.line]
    show (escapePgpassField (e.host.dropWhile isWhitespace) ++ _).head? = _ ↔ _
    cases e.host.dropWhile isWhitespace with
    | nil => simp [escapePgpassField]
    | cons c host =>
        rw [escape_cons, escapePgpassChar]
        by_cases hc : c = ':' ∨ c = '\\'
        · rw [if_pos hc]
          rcases hc with rfl | rfl
          · simp
          · simp
        · rw [if_neg hc]
          simp
  -- a written entry has its colons, so it is none of the filler lines
  have hempty : e.trimmed.line ≠ [] := by simp [PgpassEntry.line]
  unfold pgpassLinePassword PgpassEntry.isFor
  simp only [trim_line, split_pgpass_line, hempty, hhead, false_or]
  by_cases hcomment : (e.host.dropWhile isWhitespace).head? = some '#'
  · rw [if_pos hcomment]
    simp [hcomment]
  · rw [if_neg hcomment]
    simp [hcomment, PgpassEntry.trimmed]

/-- A blank line or comment has no password. -/
theorem filler_password {text : Text} (h : text.trim = [] ∨ text.trim.head? = some '#')
    (host : Text) (port : Nat) (database username : Text) :
    pgpassLinePassword host port database username text = none := by
  rw [pgpassLinePassword]
  exact if_pos h

/-! ## The lines of a file -/

/-- A carriage return at the end is trimmed anyway. -/
theorem trim_return (line : Text) : (line ++ ['\r']).trim = line.trim := by
  unfold Text.trim Text.trimEnd
  rw [List.dropWhile_append]
  split
  · rename_i hempty
    rw [List.isEmpty_iff.1 hempty]
    rfl
  · exact List.rdropWhile_concat_pos _ _ _ (by decide)

/-- The password of a line depends on the trimmed line only. -/
theorem line_password_congr {line line' : Text} (h : line.trim = line'.trim) (host : Text)
    (port : Nat) (database username : Text) :
    pgpassLinePassword host port database username line =
      pgpassLinePassword host port database username line' := by
  unfold pgpassLinePassword
  rw [h]

/-- Which lines there are makes no difference to the lookup: neither a carriage return before the
line break nor an empty line at the end says anything. -/
theorem lines_find_password (host : Text) (port : Nat) (database username content : Text) :
    (lines content).findSome? (pgpassLinePassword host port database username) =
      (content.splitOn '\n').findSome? (pgpassLinePassword host port database username) := by
  unfold lines
  -- a carriage return at the end is trimmed later anyway
  have hreturn : ∀ line : Text, pgpassLinePassword host port database username
      (if line.getLast? = some '\r' then line.dropLast else line) =
        pgpassLinePassword host port database username line := by
    intro line
    split
    case isTrue hlast =>
      refine line_password_congr ?_ ..
      conv_rhs => rw [← List.dropLast_append_getLast? _ hlast]
      exact (trim_return _).symm
    case isFalse => rfl
  obtain ⟨init, last, hparts⟩ : ∃ init last, content.splitOn '\n' = init ++ [last] := by
    rcases List.eq_nil_or_concat' (content.splitOn '\n') with hnil | hconcat
    · exact absurd hnil (List.splitOn_ne_nil _ _)
    · exact hconcat
  have hwhole : ∀ init : List Text, (init.map fun line =>
      if line.getLast? = some '\r' then line.dropLast else line).findSome?
        (pgpassLinePassword host port database username) =
      init.findSome? (pgpassLinePassword host port database username) := by
    intro init
    rw [List.findSome?_map]
    exact congrArg (List.findSome? · init) (funext hreturn)
  simp only [hparts, List.dropLast_concat, List.getLast?_concat, List.findSome?_append]
  cases last with
  | nil =>
      have hnone : pgpassLinePassword host port database username [] = none :=
        filler_password (.inl rfl) ..
      simp only [hwhole, List.findSome?_singleton, hnone, Option.or_none]
  | cons c last => simp only [List.findSome?_append, hwhole]

/-- The text of a file: its lines, with a line break behind each but the last. -/
def written (file : List PgpassLine) : Text := ['\n'].intercalate (file.map PgpassLine.text)

/-- Escaping brings no line break in. -/
theorem escape_line_break {field : Text} (h : '\n' ∉ field) : '\n' ∉ escapePgpassField field := by
  intro hmem
  obtain ⟨c, hc, hmem⟩ := List.mem_flatMap.1 hmem
  unfold escapePgpassChar at hmem
  split at hmem
  · rcases List.mem_cons.1 hmem with heq | hmem
    · cases heq
    · exact h (List.mem_singleton.1 hmem ▸ hc)
  · exact h (List.mem_singleton.1 hmem ▸ hc)

/-- A well-formed line has no line break. -/
theorem PgpassLine.WellFormed.text_no_break {line : PgpassLine} (h : line.WellFormed) :
    '\n' ∉ line.text := by
  cases line with
  | filler text => exact h.1
  | entry e =>
      have hfields : ∀ field ∈ [e.host, e.port, e.database, e.username, e.password],
          '\n' ∉ escapePgpassField field := fun field hfield => escape_line_break (h field hfield)
      simp only [List.forall_mem_cons] at hfields
      obtain ⟨hhost, hport, hdatabase, husername, hpassword, -⟩ := hfields
      show '\n' ∉ e.line
      simp [PgpassEntry.line, hhost, hport, hdatabase, husername, hpassword]

/-- The lookup finds the first line with a password. -/
theorem written_find_password {file : List PgpassLine} (h : ∀ line ∈ file, line.WellFormed)
    (host : Text) (port : Nat) (database username : Text) :
    ((written file).splitOn '\n').findSome? (pgpassLinePassword host port database username) =
      (file.map PgpassLine.text).findSome? (pgpassLinePassword host port database username) := by
  cases file with
  | nil =>
      have hnone : pgpassLinePassword host port database username [] = none :=
        filler_password (.inl rfl) ..
      show [[]].findSome? _ = none
      rw [List.findSome?_singleton, hnone]
  | cons line file =>
      have htexts : ∀ text ∈ (line :: file).map PgpassLine.text, '\n' ∉ text := by
        intro text htext
        obtain ⟨line, hline, rfl⟩ := List.mem_map.1 htext
        exact (h line hline).text_no_break
      rw [written, List.splitOn_intercalate '\n' htexts (by simp)]

/-- The first line with a password is that of the first entry for the connection. -/
theorem first_password {file : List PgpassLine} (h : ∀ line ∈ file, line.WellFormed) (host : Text)
    (port : Nat) (database username : Text) :
    file.findSome? (pgpassLinePassword host port database username ∘ PgpassLine.text) =
      ((file.filterMap PgpassLine.entry?).find? (·.isFor host port database username)).map
        fun e => e.password.trimEnd := by
  induction file with
  | nil => rfl
  | cons line file ih =>
      obtain ⟨hline, hrest⟩ := List.forall_mem_cons.1 h
      rw [List.findSome?_cons, Function.comp_apply]
      cases line with
      | filler text =>
          rw [PgpassLine.text, filler_password hline.2]
          exact ih hrest
      | entry e =>
          rw [PgpassLine.text, line_password]
          show _ = ((e :: file.filterMap PgpassLine.entry?).find? _).map _
          by_cases hfor : e.isFor host port database username = true
          · rw [if_pos hfor, List.find?_cons, hfor]
            rfl
          · rw [if_neg hfor, List.find?_cons, eq_false_of_ne_true hfor]
            exact ih hrest

/-- The lookup in a file gives the password, without trailing whitespace, of the first entry for
the connection, and nothing if there is none. -/
theorem pgpass_first_match {env : Environment} {file : List PgpassLine}
    (hfile : env.file (pgpassPath env) = some ⟨0o600, some (written file)⟩)
    (hlines : ∀ line ∈ file, line.WellFormed) (host : Text) (port : Nat)
    (database username : Text) :
    getPasswordFromPgpass env host port database username =
      ((file.filterMap PgpassLine.entry?).find? (·.isFor host port database username)).map
        fun e => e.password.trimEnd := by
  unfold getPasswordFromPgpass
  rw [hfile]
  simp only [ne_eq, not_true_eq_false, if_false, Option.bind_some]
  rw [lines_find_password, written_find_password hlines, List.findSome?_map, first_password hlines]

/-- An environment with one password file. -/
def passwordEnvironment (file : List PgpassLine) : Environment where
  var _ := .error .notPresent
  file _ := some ⟨0o600, some (written file)⟩

/-- A comment, a blank line, and two entries for any host with a colon in the password. -/
def twoEntries : List PgpassLine :=
  [.filler "# passwords".toList, .filler [],
    .entry ⟨"*".toList, "5433".toList, "app".toList, "bob".toList, "first".toList⟩,
    .entry ⟨"*".toList, "5432".toList, "app".toList, "bob".toList, "pass:word".toList⟩]

/-- The second entry matches. -/
theorem pgpass_second_entry : getPasswordFromPgpass (passwordEnvironment twoEntries)
    "db".toList 5432 "app".toList "bob".toList = some "pass:word".toList := by
  have hlines : ∀ line ∈ twoEntries, line.WellFormed := by decide
  rw [pgpass_first_match rfl hlines]
  decide

/-- An entry with no host is taken for every host, and the password of an entry loses the space at
its end. -/
theorem empty_field_and_trailing_space :
    getPasswordFromPgpass (passwordEnvironment
      [.entry ⟨[], "5432".toList, "app".toList, "bob".toList, "secret".toList⟩])
      "db".toList 5432 "app".toList "bob".toList = some "secret".toList ∧
    getPasswordFromPgpass (passwordEnvironment
      [.entry ⟨"db".toList, "5432".toList, "app".toList, "bob".toList, "secret ".toList⟩])
      "db".toList 5432 "app".toList "bob".toList = some "secret".toList := by
  decide

end PgMaintainer
