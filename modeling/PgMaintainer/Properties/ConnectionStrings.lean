import PgMaintainer.Dsn.Render
import PgMaintainer.Startup.Connection

/-!
# The connection string of a configuration

What `build_connection_string` writes is read again by the keyword grammar. Its own escaping leaves
an empty value unquoted, and the reader, which skips whitespace behind a `=`, then takes the pair
behind it for the value.
-/

namespace PgMaintainer

/-! ## Reading the parts -/

/-- A value that is not empty is quoted as in `escape_keyword_value`. -/
theorem reads_libpq {s : Text} (hs : s ≠ []) : ReadsAs (escapeLibpqValue s) s := by
  have hsame : escapeLibpqValue s = escapeKeywordValue s := by
    simp [escapeLibpqValue, escapeKeywordValue, hs]
  rw [hsame]
  exact reads_escaped s

/-- The digits of a number read as themselves. -/
theorem reads_decimal (n : Nat) : ReadsAs (decimal n) (decimal n) := by
  have hdigits : decimal n = Nat.toDigits 10 n := by
    rw [decimal, Nat.toString_eq_ofList_toDigits, String.toList_ofList]
  rw [hdigits]
  refine reads_plain Nat.toDigits_ne_nil fun c hc => ?_
  have hdigit := Nat.isDigit_of_mem_toDigits (by decide) (by decide) hc
  simp only [Char.isDigit, ge_iff_le, Bool.and_eq_true, decide_eq_true_eq, UInt32.le_iff_toNat_le]
    at hdigit
  have hlow : 48 ≤ c.toNat := hdigit.1
  have hhigh : c.toNat ≤ 57 := hdigit.2
  have hquote : c ≠ '\'' := by
    rintro rfl
    exact absurd hlow (by decide)
  have hback : c ≠ '\\' := by
    rintro rfl
    exact absurd hhigh (by decide)
  have hspace : isWhitespace c = false := by
    simp only [isWhitespace, Bool.or_eq_false_iff, Bool.and_eq_false_iff, beq_eq_false_iff_ne,
      decide_eq_false_iff_not]
    omega
  simp [needsEscape, hspace, hquote, hback]

/-- At the end of the string an empty password is read, too. -/
theorem read_last_libpq (s : Text) :
    scanValue ((escapeLibpqValue s).dropWhile isWhitespace) = some (s, []) := by
  by_cases hs : s = []
  · subst hs
    rfl
  · simpa using reads_libpq hs [] ended_nil

/-- Four pairs and a last part, written one after the other. -/
theorem parts_in_order {host port dbname user timeout host' port' dbname' user' timeout' : Text}
    (hhost : host' = host ++ ['=']) (hport : port' = ' ' :: port ++ ['='])
    (hdbname : dbname' = ' ' :: dbname ++ ['=']) (huser : user' = ' ' :: user ++ ['='])
    (htimeout : timeout' = ' ' :: timeout) (h p d u n last vh vp vd vu : Text) :
    host' ++ h ++ port' ++ p ++ dbname' ++ d ++ user' ++ u ++ timeout' ++ n ++ last =
      [⟨host, h, vh⟩, ⟨port, p, vp⟩, ⟨dbname, d, vd⟩, (⟨user, u, vu⟩ : Written)].flatMap
        (fun w => w.render ++ [' ']) ++ (timeout ++ n ++ last) := by
  subst hhost hport hdbname huser htimeout
  simp [Written.render]

/-- A number and, if there is one, a password behind it. -/
theorem split_number_password {timeout password timeout' password' : Text}
    (htimeout : IsKey timeout) (hpassword : IsKey password) (hcut : timeout' = timeout ++ ['='])
    (hcut' : password' = ' ' :: password ++ ['=']) (n : Nat) (secret : Option Text) :
    splitKeywordPairs (timeout' ++ decimal n ++ match secret with
      | some pw => password' ++ escapeLibpqValue pw
      | none => []) =
    .ok ((timeout, decimal n) :: (secret.map fun pw => (password, pw)).toList) := by
  subst hcut hcut'
  cases secret with
  | none =>
      have hfirst := split_pair htimeout (reads_decimal n [] ended_nil)
      rw [split_nil] at hfirst
      simpa using hfirst
  | some pw =>
      have hlast := split_pair hpassword (read_last_libpq pw)
      have hspace : splitKeywordPairs (' ' :: (password ++ '=' :: escapeLibpqValue pw)) =
          splitKeywordPairs (password ++ '=' :: escapeLibpqValue pw) :=
        split_of_start (List.dropWhile_cons_of_pos (by decide))
      have hfirst := split_pair htimeout (reads_decimal n
        (' ' :: (password ++ '=' :: escapeLibpqValue pw)) ended_space)
      rw [split_nil] at hlast
      rw [hspace, hlast] at hfirst
      simpa using hfirst

/-- Behind pairs that are read as they were meant, an empty value swallows what comes next. -/
theorem empty_value_swallows (before : List Written) {w : Written} {after : List Written}
    {last tail : Text} {c : Char} {pairs : List (Text × Text)}
    (hbefore : ∀ v ∈ before, v.Reads) (hkey : IsKey w.key)
    (hempty : w.text = []) (hnext : after.flatMap (fun v => v.render ++ [' ']) ++ last = c :: tail)
    (hspace : isWhitespace c = false) (hquote : c ≠ '\'')
    (h : splitKeywordPairs ((before ++ w :: after).flatMap (fun v => v.render ++ [' ']) ++ last) =
      .ok pairs) :
    ∃ value more, pairs = before.map Written.pair ++ (w.key, value) :: more ∧ value ≠ [] := by
  have hcut : (before ++ w :: after).flatMap (fun v => v.render ++ [' ']) ++ last =
      before.flatMap (fun v => v.render ++ [' ']) ++ (w.key ++ '=' :: ' ' :: c :: tail) := by
    rw [← hnext]
    simp [Written.render, hempty]
  rw [hcut, split_spaced hbefore] at h
  cases hlast : splitKeywordPairs (w.key ++ '=' :: ' ' :: c :: tail) with
  | error text =>
      rw [hlast] at h
      cases h
  | ok pairs' =>
      rw [hlast] at h
      cases h
      obtain ⟨value, more, rfl, hvalue⟩ := split_swallows hkey hspace hquote hlast
      exact ⟨value, more, rfl, hvalue⟩

/-! ## The pairs of a configuration -/

namespace ConnectionConfig

variable (c : ConnectionConfig)

/-- The pairs a connection string should hold, each with the configured value. -/
def pairs : List (Text × Text) :=
  [("host".toList, c.host), ("port".toList, decimal c.port), ("dbname".toList, c.database),
    ("user".toList, c.username), ("connect_timeout".toList, decimal c.connectTimeoutSeconds)] ++
    (c.password.map fun pw => ("password".toList, pw)).toList

/-- How the host is written. -/
def writtenHost : Written := ⟨"host".toList, escapeLibpqValue c.host, c.host⟩

/-- How the port is written. -/
def writtenPort : Written := ⟨"port".toList, decimal c.port, decimal c.port⟩

/-- How the database is written. -/
def writtenDatabase : Written := ⟨"dbname".toList, escapeLibpqValue c.database, c.database⟩

/-- How the user is written. -/
def writtenUser : Written := ⟨"user".toList, escapeLibpqValue c.username, c.username⟩

/-- The string from the timeout on. -/
def lastPart : Text :=
  "connect_timeout=".toList ++ decimal c.connectTimeoutSeconds ++
    match c.password with
    | some pw => " password=".toList ++ escapeLibpqValue pw
    | none => []

/-- The string is four pairs, each with a space behind it, and its last part. -/
theorem build_connection_string_eq :
    c.buildConnectionString =
      [c.writtenHost, c.writtenPort, c.writtenDatabase, c.writtenUser].flatMap
        (fun w => w.render ++ [' ']) ++ c.lastPart :=
  parts_in_order (by decide) (by decide) (by decide) (by decide) (by decide) ..

/-- The last part is read as it was meant, with an empty password too. -/
theorem split_last_part :
    splitKeywordPairs c.lastPart = .ok (("connect_timeout".toList, decimal c.connectTimeoutSeconds) ::
      (c.password.map fun pw => ("password".toList, pw)).toList) :=
  split_number_password (is_key_of_all (by decide) (by decide))
    (is_key_of_all (by decide) (by decide)) (by decide) (by decide) ..

/-- `host` is a keyword. -/
theorem host_key : IsKey "host".toList := is_key_of_all (by decide) (by decide)

/-- `port` is a keyword. -/
theorem port_key : IsKey "port".toList := is_key_of_all (by decide) (by decide)

/-- `dbname` is a keyword. -/
theorem dbname_key : IsKey "dbname".toList := is_key_of_all (by decide) (by decide)

/-- `user` is a keyword. -/
theorem user_key : IsKey "user".toList := is_key_of_all (by decide) (by decide)

section Set

variable {c} (hhost : c.host ≠ []) (hdatabase : c.database ≠ []) (huser : c.username ≠ [])

include hhost

/-- Host and port read back. -/
theorem host_reads : ∀ w ∈ [c.writtenHost, c.writtenPort], w.Reads := by
  simp only [List.mem_cons, List.not_mem_nil, or_false, forall_eq_or_imp, forall_eq]
  exact ⟨⟨host_key, reads_libpq hhost⟩, port_key, reads_decimal _⟩

include hdatabase

/-- So do they with the database. -/
theorem database_reads : ∀ w ∈ [c.writtenHost, c.writtenPort, c.writtenDatabase], w.Reads := by
  intro w hw
  rcases List.mem_append.1 (show w ∈ [c.writtenHost, c.writtenPort] ++ [c.writtenDatabase] from hw)
    with hw | hw
  · exact host_reads hhost w hw
  · obtain rfl := List.mem_singleton.1 hw
    exact ⟨dbname_key, reads_libpq hdatabase⟩

include huser

/-- With all three values set, the string reads as the configuration. -/
theorem split_of_set : splitKeywordPairs c.buildConnectionString = .ok c.pairs := by
  have hreads : ∀ w ∈ [c.writtenHost, c.writtenPort, c.writtenDatabase] ++ [c.writtenUser],
      w.Reads := by
    intro w hw
    rcases List.mem_append.1 hw with hw | hw
    · exact database_reads hhost hdatabase w hw
    · obtain rfl := List.mem_singleton.1 hw
      exact ⟨user_key, reads_libpq huser⟩
  rw [build_connection_string_eq]
  refine (split_spaced hreads _).trans ?_
  rw [split_last_part]
  rfl

end Set

section Read

variable {c} (h : splitKeywordPairs c.buildConnectionString = .ok c.pairs)

include h

/-- An empty host would read as the port's pair. -/
theorem host_set_of_split : c.host ≠ [] := by
  intro hempty
  rw [build_connection_string_eq] at h
  have htext : c.writtenHost.text = [] := by rw [writtenHost, hempty]; rfl
  obtain ⟨value, more, hpairs, hvalue⟩ := empty_value_swallows [] (by simp) host_key htext rfl
    (by decide) (by decide) h
  exact hvalue (hempty ▸ (Prod.mk.inj (List.cons.inj hpairs).1).2.symm)

/-- An empty database would read as the user's pair. -/
theorem database_set_of_split : c.database ≠ [] := by
  intro hempty
  have hhost := host_set_of_split h
  rw [build_connection_string_eq] at h
  have htext : c.writtenDatabase.text = [] := by rw [writtenDatabase, hempty]; rfl
  obtain ⟨value, more, hpairs, hvalue⟩ := empty_value_swallows [c.writtenHost, c.writtenPort]
    (host_reads hhost) dbname_key htext rfl (by decide) (by decide) h
  have hthird := (List.cons.inj (List.cons.inj (List.cons.inj hpairs).2).2).1
  exact hvalue (hempty ▸ (Prod.mk.inj hthird).2.symm)

/-- An empty user would read as the timeout's pair. -/
theorem username_set_of_split : c.username ≠ [] := by
  intro hempty
  have hhost := host_set_of_split h
  have hdatabase := database_set_of_split h
  rw [build_connection_string_eq] at h
  have htext : c.writtenUser.text = [] := by rw [writtenUser, hempty]; rfl
  obtain ⟨value, more, hpairs, hvalue⟩ := empty_value_swallows
    [c.writtenHost, c.writtenPort, c.writtenDatabase] (database_reads hhost hdatabase) user_key
    htext rfl (by decide) (by decide) h
  have hfourth :=
    (List.cons.inj (List.cons.inj (List.cons.inj (List.cons.inj hpairs).2).2).2).1
  exact hvalue (hempty ▸ (Prod.mk.inj hfourth).2.symm)

end Read

end ConnectionConfig

/-- The connection string reads as the configuration if and only if the host, the database and the
user are not empty. The password may be. -/
theorem connection_string_reads_iff (c : ConnectionConfig) :
    splitKeywordPairs c.buildConnectionString = .ok c.pairs ↔
      c.host ≠ [] ∧ c.database ≠ [] ∧ c.username ≠ [] := by
  constructor
  · intro h
    exact ⟨ConnectionConfig.host_set_of_split h, ConnectionConfig.database_set_of_split h,
      ConnectionConfig.username_set_of_split h⟩
  · intro ⟨hhost, hdatabase, huser⟩
    exact ConnectionConfig.split_of_set hhost hdatabase huser

/-- An environment that sets `PG_HOST` to nothing, and no more. -/
def emptyHostEnvironment : Environment where
  var name := if name = "PG_HOST".toList then .ok [] else .error .notPresent
  file _ := none

/-- The configuration of a run without arguments there. -/
def emptyHostConfig : ConnectionConfig := .fromArgs emptyHostEnvironment (.parse {})

/-- The port is read as the host, and no port is left. -/
theorem empty_host_takes_port :
    splitKeywordPairs emptyHostConfig.buildConnectionString =
        .ok [("host".toList, "port=5432".toList), ("dbname".toList, "postgres".toList),
          ("user".toList, "postgres".toList), ("connect_timeout".toList, "10".toList)] ∧
      splitKeywordPairs emptyHostConfig.buildConnectionString ≠ .ok emptyHostConfig.pairs := by
  decide +kernel

end PgMaintainer
