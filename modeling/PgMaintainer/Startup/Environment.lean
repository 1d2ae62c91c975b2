import PgMaintainer.Text

/-!
# Environment and files

What startup reads from outside: environment variables, and files by their path.
`credentials.rs` looks a password up in `~/.pgpass` or `$PGPASSFILE`.
-/

namespace PgMaintainer

/-- `std::env::VarError`. -/
inductive VarError where
  | notPresent
  | notUnicode
  deriving DecidableEq, Repr

/-- A file: its permission bits, and its content if it can be read as text. -/
structure FileEntry where
  mode : Nat
  content : Option Text

/-- The environment of the process. -/
structure Environment where
  var : Text → Except VarError Text
  /-- The file at a path, if there is one. -/
  file : Text → Option FileEntry

namespace Environment

variable (env : Environment)

/-- `env::var(name).ok()`. -/
def get? (name : String) : Option Text := (env.var name.toList).toOption

/-- `fs::read_to_string(path).ok()`. -/
def readToString (path : Text) : Option Text := (env.file path).bind FileEntry.content

end Environment

/-! ## Password files -/

/-- `str::lines`: split at line feeds, with a carriage return before one dropped; the text
behind the last one is a line if it is not empty. -/
def lines (s : Text) : List Text :=
  let parts := s.splitOn '\n'
  let whole := parts.dropLast.map fun line =>
    if line.getLast? = some '\r' then line.dropLast else line
  match parts.getLast? with
  | some [] | none => whole
  | some last => whole ++ [last]

/-- The loop of `split_pgpass_line` with the field it is reading, reversed. -/
def splitPgpassFrom (current : Text) : Text → List Text
  | [] => [current.reverse]
  | [c] => if c = ':' then [current.reverse, []] else [(c :: current).reverse]
  | c :: d :: rest =>
    if c = '\\' then
      if d = ':' ∨ d = '\\' then splitPgpassFrom (d :: current) rest
      else splitPgpassFrom ('\\' :: current) (d :: rest)
    else if c = ':' then current.reverse :: splitPgpassFrom [] (d :: rest)
    else splitPgpassFrom (c :: current) (d :: rest)

/-- Split a line at its colons; a backslash takes a colon or a backslash behind it. -/
def splitPgpassLine (line : Text) : List Text := splitPgpassFrom [] line

/-- Whether a field of a password file matches. -/
def pgpassFieldMatches (field wanted : Text) : Bool :=
  field = [] || field = ['*'] || field = wanted

/-- The decimal digits of a number. -/
def decimal (n : Nat) : Text := (toString n).toList

/-- The password of a line, if the line is an entry that matches. -/
def pgpassLinePassword (host : Text) (port : Nat) (database username line : Text) :
    Option Text :=
  let line := line.trim
  if line = [] ∨ line.head? = some '#' then none
  else
    match splitPgpassLine line with
    | [h, p, d, u, password] =>
      if pgpassFieldMatches h host && pgpassFieldMatches p (decimal port) &&
          pgpassFieldMatches d database && pgpassFieldMatches u username then
        some password
      else none
    | _ => none

/-- The path of the password file. -/
def pgpassPath (env : Environment) : Text :=
  (env.get? "PGPASSFILE").getD
    ((env.get? "HOME").getD ((env.get? "USERPROFILE").getD []) ++ "/.pgpass".toList)

/-- `get_password_from_pgpass`, its error read as no password as its caller does. -/
def getPasswordFromPgpass (env : Environment) (host : Text) (port : Nat)
    (database username : Text) : Option Text :=
  match env.file (pgpassPath env) with
  | none => none
  | some entry =>
    if entry.mode ≠ 0o600 then none
    else
      entry.content.bind fun content =>
        (lines content).findSome? (pgpassLinePassword host port database username)

end PgMaintainer
