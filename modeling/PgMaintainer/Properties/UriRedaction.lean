import PgMaintainer.Properties.PortDetection

/-!
# What a redacted URI says

The driver's parser reads a password in two places of a URI: in the userinfo, which ends at the
first `@`, and in the query, as a `password` parameter. The redaction looks for the first place
only, and only in the text before the first slash or question mark.
-/

namespace PgMaintainer

/-! ## A text and the secret in it -/

section Secret

variable (sep : Char) (named : Text → Bool)

/-- The name and the secret of a text that has a secret behind its first separator, which the name
decides. -/
def secretPart (s : Text) : Option (Text × Text) :=
  (s.splitOnce sep).filter fun part => named part.1

/-- A text without its secret. -/
def blankSecret (s : Text) : Text :=
  match secretPart sep named s with
  | some (name, _) => name ++ [sep]
  | none => s

/-- A text has no secret, or it is one behind a name. -/
theorem secret_part_cases (s : Text) :
    (secretPart sep named s = none ∧ blankSecret sep named s = s) ∨
      ∃ name secret, sep ∉ name ∧ named name = true ∧ s = name ++ sep :: secret := by
  obtain ⟨-, hcut⟩ | ⟨name, secret, rfl, hsep, hcut⟩ := Text.split_once_cases sep s
  · have hnone : secretPart sep named s = none := by
      rw [secretPart, hcut]
      rfl
    exact .inl ⟨hnone, by rw [blankSecret, hnone]⟩
  · by_cases hnamed : named name = true
    · exact .inr ⟨name, secret, hsep, hnamed, rfl⟩
    · have hnone : secretPart sep named (name ++ sep :: secret) = none := by
        rw [secretPart, hcut]
        exact Option.filter_some_neg (Bool.eq_false_of_not_eq_true hnamed)
      exact .inl ⟨hnone, by rw [blankSecret, hnone]⟩

variable {sep named}

/-- The secret is what comes after the separator. -/
theorem secret_part_append {name : Text} (hsep : sep ∉ name) (hnamed : named name = true)
    (secret : Text) : secretPart sep named (name ++ sep :: secret) = some (name, secret) := by
  rw [secretPart, Text.split_once_append hsep]
  exact Option.filter_some_pos hnamed

/-- Without its secret a part ends with the separator. -/
theorem blank_secret_append {name : Text} (hsep : sep ∉ name) (hnamed : named name = true)
    (secret : Text) : blankSecret sep named (name ++ sep :: secret) = name ++ [sep] := by
  rw [blankSecret, secret_part_append hsep hnamed]

/-- Two texts that are the same without their secrets are the same and have none, or differ behind
one name. -/
theorem blank_secret_cases {s t : Text} (h : blankSecret sep named s = blankSecret sep named t) :
    (s = t ∧ secretPart sep named s = none) ∨ ∃ name p q, sep ∉ name ∧ named name = true ∧
      s = name ++ sep :: p ∧ t = name ++ sep :: q := by
  obtain ⟨hs, hblank⟩ | ⟨name, p, hsep, hnamed, rfl⟩ :=
      secret_part_cases sep named s
  · obtain ⟨-, hother⟩ | ⟨name, q, hsep, hnamed, rfl⟩ :=
        secret_part_cases sep named t
    · exact .inl ⟨hblank.symm.trans (h.trans hother), hs⟩
    · rw [hblank, blank_secret_append hsep hnamed] at h
      rw [h, secret_part_append hsep hnamed] at hs
      cases hs
  · rw [blank_secret_append hsep hnamed] at h
    obtain ⟨ht, hblank⟩ | ⟨other, q, hsep', hnamed', rfl⟩ :=
        secret_part_cases sep named t
    · rw [hblank] at h
      rw [← h, secret_part_append hsep hnamed] at ht
      cases ht
    · rw [blank_secret_append hsep' hnamed'] at h
      obtain rfl := List.append_cancel_right h
      exact .inr ⟨name, p, q, hsep, hnamed, rfl, rfl⟩

/-- The same for the pieces of a text. -/
theorem pieces_eq_iff {l l' : List Text}
    (h : l.map (blankSecret sep named) = l'.map (blankSecret sep named)) :
    l = l' ↔ l.filterMap (fun s => (secretPart sep named s).map Prod.snd) =
      l'.filterMap (fun s => (secretPart sep named s).map Prod.snd) := by
  induction l generalizing l' with
  | nil =>
      cases l' with
      | nil => exact iff_of_true rfl rfl
      | cons t l' => cases h
  | cons s l ih =>
      cases l' with
      | nil => cases h
      | cons t l' =>
          obtain ⟨hhead, htail⟩ := List.cons.inj h
          have hrest := ih htail
          obtain ⟨rfl, hnone⟩ | ⟨name, p, q, hsep, hnamed, rfl, rfl⟩ := blank_secret_cases hhead
          · rw [List.filterMap_cons_none (by rw [hnone]; rfl),
              List.filterMap_cons_none (by rw [hnone]; rfl), ← hrest]
            simp
          · rw [List.filterMap_cons_some (by rw [secret_part_append hsep hnamed]; rfl),
              List.filterMap_cons_some (by rw [secret_part_append hsep hnamed]; rfl),
              List.cons.injEq, List.cons.injEq, ← hrest]
            simp

end Secret

/-! ## The passwords of a URI -/

/-- The text up to the two slashes. -/
def uriScheme (uri : Text) : Text := uri.take (uri.length - (behindScheme uri).length)

/-- The host and the path: what follows the userinfo up to a question mark. -/
def uriBody (uri : Text) : Text := uriBase (behindUserinfo uri)

/-- The segments of the query, which follows. -/
def uriQuery (uri : Text) : Option (List Text) :=
  ((behindUserinfo uri).splitOnce '?').map fun part => part.2.splitOn '&'

/-- The password of a userinfo: what follows its first colon. -/
def userinfoPassword (info : Text) : Option Text :=
  (secretPart ':' (fun _ => true) info).map Prod.snd

/-- Whether the key of a parameter reads as `password`. -/
def isPasswordKey (key : Text) : Bool := decodeText key = "password".toList

/-- The value of a segment of the query, if it is a `password` parameter. -/
def segmentPassword (segment : Text) : Option Text :=
  (secretPart '=' isPasswordKey segment).map Prod.snd

/-- The password in the userinfo. -/
def uriPassword (uri : Text) : Option Text := (uriUserinfo uri).bind userinfoPassword

/-- The passwords in the query. -/
def queryPasswords (uri : Text) : List Text := ((uriQuery uri).getD []).filterMap segmentPassword

/-- Two URIs that differ only in their passwords. -/
structure SameButPasswords (uri other : Text) : Prop where
  scheme : uriScheme uri = uriScheme other
  userinfo : (uriUserinfo uri).map (blankSecret ':' fun _ => true) =
    (uriUserinfo other).map (blankSecret ':' fun _ => true)
  body : uriBody uri = uriBody other
  query : (uriQuery uri).map (List.map (blankSecret '=' isPasswordKey)) =
    (uriQuery other).map (List.map (blankSecret '=' isPasswordKey))

/-- Nothing in the userinfo ends the authority. -/
def PlainUserinfo (uri : Text) : Prop := ∀ info ∈ uriUserinfo uri, '/' ∉ info ∧ '?' ∉ info

/-! ## The parts of a URI -/

/-- The userinfo with what ends it. -/
def atText : Option Text → Text
  | some info => info ++ ['@']
  | none => []

/-- The userinfo is written with its at sign. -/
theorem at_text_append (info rest : Text) : atText (some info) ++ rest = info ++ '@' :: rest :=
  (List.append_assoc info ['@'] rest)

/-- The query with what begins it. -/
def queryText : Option (List Text) → Text
  | some segments => '?' :: ['&'].intercalate segments
  | none => []

/-- A query is written with its question mark, or not at all. -/
theorem query_text_empty_or (query : Option (List Text)) :
    queryText query = [] ∨ (queryText query).head? = some '?' := by
  cases query with
  | none => exact .inl rfl
  | some segments => exact .inr rfl

/-- A URI is its parts. -/
theorem uri_parts (uri : Text) :
    behindScheme uri = atText (uriUserinfo uri) ++ (uriBody uri ++ queryText (uriQuery uri)) := by
  have hbehind : behindUserinfo uri = uriBody uri ++ queryText (uriQuery uri) := by
    unfold uriBody uriQuery
    obtain ⟨hno, hcut⟩ | ⟨body, query, hparts, hbody, hcut⟩ :=
        Text.split_once_cases '?' (behindUserinfo uri)
    · rw [hcut]
      rw [uri_base_eq_self hno]
      exact (List.append_nil _).symm
    · rw [hcut, hparts]
      rw [uri_base_append hbody]
      show body ++ '?' :: query = body ++ '?' :: ['&'].intercalate (query.splitOn '&')
      rw [List.intercalate_splitOn]
  rw [← hbehind]
  unfold uriUserinfo behindUserinfo
  obtain ⟨-, hcut⟩ | ⟨info, rest, hparts, -, hcut⟩ := Text.split_once_cases '@' (behindScheme uri)
  · rw [hcut]
    rfl
  · rw [hcut, hparts]
    simp [atText]

/-- A userinfo has no `@`. -/
theorem not_mem_userinfo {uri info : Text} (h : uriUserinfo uri = some info) : '@' ∉ info := by
  unfold uriUserinfo at h
  obtain ⟨-, hcut⟩ | ⟨before, rest, -, hbefore, hcut⟩ := Text.split_once_cases '@' (behindScheme uri)
  · rw [hcut] at h
    cases h
  · rw [hcut] at h
    cases h
    exact hbefore

/-! ## The redaction -/

/-- The authority with what looks like its password masked. -/
def maskAuthority (authority : Text) : Text :=
  match authority.splitLast '@' with
  | none => authority
  | some (userinfo, hostpart) =>
    match userinfo.splitOnce ':' with
    | none => authority
    | some (user, _) => user ++ ':' :: mask ++ '@' :: hostpart

/-- An authority without userinfo stays as it is. -/
theorem mask_authority_of_not_mem {authority : Text} (h : '@' ∉ authority) :
    maskAuthority authority = authority := by
  rw [maskAuthority, Text.split_last_eq_none h]

/-- What the redaction keeps of a host. -/
def hostKept (host : Text) : Text := ((host.splitLast '@').map Prod.snd).getD host

/-- The password of a userinfo in an authority is masked. -/
theorem mask_authority_password {user : Text} (huser : ':' ∉ user) (password host : Text) :
    maskAuthority (user ++ ':' :: password ++ '@' :: host) =
      user ++ ':' :: mask ++ '@' :: hostKept host := by
  unfold maskAuthority hostKept
  obtain ⟨hno, hcut⟩ | ⟨before, after, rfl, hafter, hcut⟩ := Text.split_last_cases '@' host
  · rw [Text.split_last_append hno, hcut]
    dsimp only
    rw [Text.split_once_append huser]
    rfl
  · have hlast : user ++ ':' :: password ++ '@' :: (before ++ '@' :: after) =
        (user ++ ':' :: (password ++ '@' :: before)) ++ '@' :: after := by simp
    rw [hlast, Text.split_last_append hafter, hcut]
    dsimp only
    rw [Text.split_once_append huser]
    rfl

/-- What is redacted of a URI is its authority. -/
theorem redact_uri {s : Text} (h : isUri s.trim = true) :
    redact s = uriScheme s.trim ++ (maskAuthority (uriAuthority s.trim) ++
      (behindScheme s.trim).dropWhile fun c => c ≠ '/' && c ≠ '?') := by
  obtain ⟨front, rest, huri, hslash, hat⟩ := uri_front h
  have hafter : afterSlashes s.trim = some rest := by rw [huri, after_slashes_front hslash]
  have hbehind : behindScheme s.trim = rest := by rw [behindScheme, hafter]; rfl
  have hscheme : uriScheme s.trim = front ++ ['/'] ++ ['/'] := by
    have hlength : s.trim.length - rest.length = (front ++ ['/', '/']).length := by
      rw [huri]
      simp only [List.length_append, List.length_cons, List.length_nil]
      omega
    have hcut : s.trim = front ++ ['/', '/'] ++ rest := by
      rw [huri]
      simp
    rw [uriScheme, hbehind, hlength, hcut, List.take_left]
    simp
  have hauthority : uriAuthority s.trim = rest.takeWhile fun c => c ≠ '/' && c ≠ '?' := by
    rw [uriAuthority, hafter]
  have hwhole : s.trim = uriScheme s.trim ++ (uriAuthority s.trim ++
      (behindScheme s.trim).dropWhile fun c => c ≠ '/' && c ≠ '?') := by
    rw [hscheme, hauthority, hbehind, List.takeWhile_append_dropWhile, huri]
    simp
  have hno : '/' ∉ uriAuthority s.trim := by
    rw [hauthority]
    intro hmem
    have hkept := List.mem_takeWhile_imp hmem
    simp at hkept
  generalize (behindScheme s.trim).dropWhile _ = tail at hwhole ⊢
  unfold redact maskAuthority
  rw [if_pos h]
  dsimp only
  -- the userinfo ends at the last at sign, and its password begins at the first colon
  obtain ⟨-, hcut⟩ | ⟨userinfo, host, hparts, -, hcut⟩ :=
    Text.split_last_cases '@' (uriAuthority s.trim)
  · rw [hcut]
    exact hwhole
  · rw [hcut]
    dsimp only
    cases hcolon : userinfo.splitOnce ':' with
    | none => exact hwhole
    | some part =>
        have hmem : '@' ∈ uriAuthority s.trim := by
          rw [hparts]
          exact List.mem_append_right _ List.mem_cons_self
        have hfront : '@' ∉ front ++ ['/'] ++ ['/'] := by simp [hat]
        have hreplace := Text.replace_first_behind hno hmem hfront
          (part.1 ++ ':' :: mask ++ '@' :: host) tail
        rw [← hscheme, ← hwhole] at hreplace
        exact hreplace

/-! ## Two URIs -/

section Parts

variable {uri : Text}

/-- The host ends before the query. -/
theorem drop_host_append (front : Text) {tail : Text} (h : tail = [] ∨ tail.head? = some '?') :
    (front ++ tail).dropWhile (fun c => c ≠ '/' && c ≠ '?') =
      front.dropWhile (fun c => c ≠ '/' && c ≠ '?') ++ tail := by
  have hsplit := List.takeWhile_append_dropWhile (p := fun c => c ≠ '/' && c ≠ '?')
    (l := front ++ tail)
  have hfront := List.takeWhile_append_dropWhile (p := fun c => c ≠ '/' && c ≠ '?') (l := front)
  rw [take_host_append front h] at hsplit
  refine List.append_cancel_left (hsplit.trans ?_)
  rw [← List.append_assoc, hfront]

/-- Behind a plain userinfo the authority is what it is in front of the host. -/
theorem authority_of_plain {before : Text}
    (h : ∀ c ∈ before, (fun c => c ≠ '/' && c ≠ '?') c = true) (rest : Text) :
    (before ++ rest).takeWhile (fun c => c ≠ '/' && c ≠ '?') =
        before ++ rest.takeWhile (fun c => c ≠ '/' && c ≠ '?') ∧
      (before ++ rest).dropWhile (fun c => c ≠ '/' && c ≠ '?') =
        rest.dropWhile (fun c => c ≠ '/' && c ≠ '?') :=
  ⟨List.takeWhile_append_of_pos h, List.dropWhile_append_of_pos h⟩

/-- A plain userinfo has neither a slash nor a question mark. -/
theorem plain_at_text (h : PlainUserinfo uri) :
    ∀ c ∈ atText (uriUserinfo uri), (fun c => c ≠ '/' && c ≠ '?') c = true := by
  cases hinfo : uriUserinfo uri with
  | none =>
      intro c hc
      cases hc
  | some info =>
      obtain ⟨hslash, hmark⟩ := h info hinfo
      intro c hc
      obtain hc | hc := List.mem_append.1 hc
      · have hne : c ≠ '/' := fun heq => hslash (heq ▸ hc)
        have hne' : c ≠ '?' := fun heq => hmark (heq ▸ hc)
        simp [hne, hne']
      · rw [List.mem_singleton.1 hc]
        decide

/-- The authority of a URI. -/
theorem authority_eq (h : isUri uri = true) :
    uriAuthority uri = (behindScheme uri).takeWhile fun c => c ≠ '/' && c ≠ '?' := by
  obtain ⟨rest, hrest⟩ := after_slashes_of_uri h
  rw [uriAuthority, behindScheme, hrest]
  rfl

/-- A URI is its scheme and what follows it. -/
theorem scheme_append (h : isUri uri = true) : uriScheme uri ++ behindScheme uri = uri := by
  obtain ⟨rest, hrest⟩ := after_slashes_of_uri h
  obtain ⟨front, rfl⟩ := after_slashes_suffix hrest
  rw [uriScheme, behindScheme, hrest]
  simp

/-- Where the userinfo is not plain, nothing is redacted. -/
theorem redact_not_plain {s : Text} (h : isUri s.trim = true) (hplain : ¬PlainUserinfo s.trim) :
    redact s = s.trim := by
  have hno : '@' ∉ uriAuthority s.trim := by
    obtain ⟨info, hinfo, hmark⟩ : ∃ info, uriUserinfo s.trim = some info ∧
        ¬('/' ∉ info ∧ '?' ∉ info) := by
      by_contra hnone
      exact hplain fun info hinfo => by_contra fun hmark => hnone ⟨info, hinfo, hmark⟩
    have hat := not_mem_userinfo hinfo
    rw [authority_eq h, uri_parts, hinfo, atText, List.append_assoc, List.takeWhile_append]
    split
    case isTrue hall =>
      -- all of the userinfo would belong to the host
      have hkept := List.takeWhile_eq_self_iff.1
        ((List.takeWhile_prefix (fun c => c ≠ '/' && c ≠ '?')).eq_of_length hall)
      refine absurd ⟨fun hmem => ?_, fun hmem => ?_⟩ hmark
      · exact absurd (hkept _ hmem) (by decide)
      · exact absurd (hkept _ hmem) (by decide)
    case isFalse =>
      exact fun hmem => hat ((List.takeWhile_prefix _).subset hmem)
  rw [redact_uri h, mask_authority_of_not_mem hno, authority_eq h, List.takeWhile_append_dropWhile,
    scheme_append h]

/-- Where it is plain, the query stays as it is. -/
theorem redact_plain {s : Text} (h : isUri s.trim = true) (hplain : PlainUserinfo s.trim) :
    redact s = uriScheme s.trim ++
      (maskAuthority (atText (uriUserinfo s.trim) ++
          (uriBody s.trim).takeWhile fun c => c ≠ '/' && c ≠ '?') ++
        ((uriBody s.trim).dropWhile (fun c => c ≠ '/' && c ≠ '?') ++
          queryText (uriQuery s.trim))) := by
  have hquery := query_text_empty_or (uriQuery s.trim)
  obtain ⟨htake, hdrop⟩ := authority_of_plain (plain_at_text hplain)
    (uriBody s.trim ++ queryText (uriQuery s.trim))
  rw [redact_uri h, authority_eq h, uri_parts, htake, hdrop, take_host_append _ hquery,
    drop_host_append _ hquery]

end Parts

namespace SameButPasswords

variable {u v : Text}

/-- Which of the two has the password does not matter. -/
theorem symm (h : SameButPasswords u v) : SameButPasswords v u :=
  ⟨h.scheme.symm, h.userinfo.symm, h.body.symm, h.query.symm⟩

/-- Their userinfos are the same and have no password, or differ behind one user name. -/
theorem userinfo_cases (h : SameButPasswords u v) :
    uriUserinfo u = uriUserinfo v ∨ ∃ user p q, ':' ∉ user ∧
      uriUserinfo u = some (user ++ ':' :: p) ∧ uriUserinfo v = some (user ++ ':' :: q) := by
  have hsame := h.userinfo
  cases hu : uriUserinfo u with
  | none =>
      rw [hu] at hsame
      exact .inl (Option.map_eq_none_iff.1 hsame.symm).symm
  | some info =>
      cases hv : uriUserinfo v with
      | none =>
          rw [hu, hv] at hsame
          cases hsame
      | some other =>
          rw [hu, hv] at hsame
          obtain ⟨rfl, -⟩ | ⟨user, p, q, hcolon, -, rfl, rfl⟩ :=
            blank_secret_cases (Option.some.inj hsame)
          · exact .inl rfl
          · exact .inr ⟨user, p, q, hcolon, rfl, rfl⟩

/-- The userinfos are equal if their passwords are. -/
theorem userinfo_eq_iff (h : SameButPasswords u v) :
    uriUserinfo u = uriUserinfo v ↔ uriPassword u = uriPassword v := by
  unfold uriPassword
  obtain heq | ⟨user, p, q, hcolon, hu, hv⟩ := h.userinfo_cases
  · rw [heq]
    exact iff_of_true rfl rfl
  · rw [hu, hv]
    show _ ↔ userinfoPassword (user ++ ':' :: p) = userinfoPassword (user ++ ':' :: q)
    rw [userinfoPassword, userinfoPassword, secret_part_append hcolon rfl,
      secret_part_append hcolon rfl]
    simp

/-- The query is what it is read from. -/
theorem query_text_eq_iff (u v : Text) :
    queryText (uriQuery u) = queryText (uriQuery v) ↔ uriQuery u = uriQuery v := by
  have hread : ∀ uri, uriQuery uri =
      ((queryText (uriQuery uri)).splitOnce '?').map fun part => part.2.splitOn '&' := by
    intro uri
    unfold uriQuery
    obtain ⟨-, hcut⟩ | ⟨body, query, -, -, hcut⟩ := Text.split_once_cases '?' (behindUserinfo uri)
    · rw [hcut]
      rfl
    · have hempty : '?' ∉ ([] : Text) := List.not_mem_nil
      have hsplit := Text.split_once_append hempty query
      rw [hcut]
      show _ = Option.map _ (Text.splitOnce '?' ('?' :: ['&'].intercalate (query.splitOn '&')))
      rw [List.intercalate_splitOn, show Text.splitOnce '?' ('?' :: query) = _ from hsplit]
      rfl
  constructor
  · intro h
    rw [hread u, h, ← hread v]
  · intro h
    rw [h]

/-- The queries are equal if their passwords are. -/
theorem query_eq_iff (h : SameButPasswords u v) :
    uriQuery u = uriQuery v ↔ queryPasswords u = queryPasswords v := by
  have hsame := h.query
  unfold queryPasswords
  cases hu : uriQuery u with
  | none =>
      rw [hu] at hsame
      rw [Option.map_eq_none_iff.1 hsame.symm]
      exact iff_of_true rfl rfl
  | some segments =>
      cases hv : uriQuery v with
      | none =>
          rw [hu, hv] at hsame
          cases hsame
      | some others =>
          rw [hu, hv] at hsame
          rw [Option.some.injEq]
          exact pieces_eq_iff (Option.some.inj hsame)

/-- Nothing but the passwords tells the URIs apart. -/
theorem eq_iff (h : SameButPasswords u v) (hu : isUri u = true) (hv : isUri v = true) :
    u = v ↔ queryPasswords u = queryPasswords v ∧ uriPassword u = uriPassword v := by
  rw [← h.query_eq_iff, ← h.userinfo_eq_iff]
  constructor
  · intro heq
    rw [heq]
    exact ⟨rfl, rfl⟩
  · intro ⟨hquery, hinfo⟩
    rw [← scheme_append hu, ← scheme_append hv, uri_parts u, uri_parts v, h.scheme, h.body, hquery,
      hinfo]

end SameButPasswords

section Redacted

variable {s t : Text}

/-- Both userinfos are plain: only the query can tell the redacted URIs apart. -/
theorem redact_eq_of_plain (hs : isUri s.trim = true) (ht : isUri t.trim = true)
    (h : SameButPasswords s.trim t.trim) (hplain : PlainUserinfo s.trim)
    (hother : PlainUserinfo t.trim) :
    redact s = redact t ↔ queryPasswords s.trim = queryPasswords t.trim := by
  have hmask : ∀ host : Text, maskAuthority (atText (uriUserinfo s.trim) ++ host) =
      maskAuthority (atText (uriUserinfo t.trim) ++ host) := by
    intro host
    obtain heq | ⟨user, p, q, hcolon, hu, hv⟩ := h.userinfo_cases
    · rw [heq]
    · have hp := mask_authority_password hcolon p host
      have hq := mask_authority_password hcolon q host
      rw [hu, hv, at_text_append, at_text_append]
      exact hp.trans hq.symm
  rw [redact_plain hs hplain, redact_plain ht hother, h.scheme, h.body, hmask,
    ← h.query_eq_iff, ← SameButPasswords.query_text_eq_iff]
  simp

/-- A masked password is no other password, unless that is three stars. -/
theorem redact_ne_of_not_plain (hs : isUri s.trim = true) (ht : isUri t.trim = true)
    (h : SameButPasswords s.trim t.trim) (hplain : PlainUserinfo s.trim)
    (hother : ¬PlainUserinfo t.trim) :
    redact s ≠ redact t ∧ uriPassword s.trim ≠ uriPassword t.trim := by
  have hne : uriUserinfo s.trim ≠ uriUserinfo t.trim := by
    intro heq
    unfold PlainUserinfo at hplain hother
    rw [heq] at hplain
    exact hother hplain
  refine ⟨fun heq => ?_, mt h.userinfo_eq_iff.2 hne⟩
  obtain hsame | ⟨user, p, q, hcolon, hu, hv⟩ := h.userinfo_cases
  · exact hne hsame
  · have hp := mask_authority_password hcolon p
      ((uriBody s.trim).takeWhile fun c => c ≠ '/' && c ≠ '?')
    rw [redact_not_plain ht hother, ← scheme_append ht, uri_parts, redact_plain hs hplain,
      h.scheme, hu, hv, at_text_append, at_text_append, hp] at heq
    have htext := List.append_cancel_left heq
    rw [List.append_assoc, List.append_assoc, List.append_assoc] at htext
    have hbehind := List.append_cancel_left htext
    have hsecret : mask ++ '@' :: _ = q ++ '@' :: (uriBody t.trim ++ queryText (uriQuery t.trim)) :=
      (List.cons.inj hbehind).2
    -- both sides are cut at their first `@`
    have hq : '@' ∉ q := fun hmem => not_mem_userinfo hv (by simp [hmem])
    have hmask : '@' ∉ mask := by decide
    have hcut := congrArg (Text.splitOnce '@') hsecret
    rw [Text.split_once_append hmask, Text.split_once_append hq] at hcut
    have hstars : mask = q := congrArg Prod.fst (Option.some.inj hcut)
    -- so the other password is the mask itself, which has neither sign
    refine hother fun info hinfo => ?_
    obtain rfl := Option.some.inj (hv.symm.trans hinfo)
    obtain ⟨hslash, hmark⟩ := hplain _ hu
    rw [← hstars]
    constructor
    · intro hmem
      obtain hmem | hmem := List.mem_append.1 hmem
      · exact hslash (List.mem_append_left _ hmem)
      · exact absurd hmem (by decide)
    · intro hmem
      obtain hmem | hmem := List.mem_append.1 hmem
      · exact hmark (List.mem_append_left _ hmem)
      · exact absurd hmem (by decide)

/-- Two URIs that differ only in their passwords are redacted to the same text if and only if they
have the same passwords in the query, and in the userinfo the same one or no slash and no question
mark. -/
theorem redact_uri_eq_iff (hs : isUri s.trim = true) (ht : isUri t.trim = true)
    (h : SameButPasswords s.trim t.trim) :
    redact s = redact t ↔ queryPasswords s.trim = queryPasswords t.trim ∧
      (uriPassword s.trim = uriPassword t.trim ∨ PlainUserinfo s.trim ∧ PlainUserinfo t.trim) := by
  by_cases hplain : PlainUserinfo s.trim
  · by_cases hother : PlainUserinfo t.trim
    · rw [redact_eq_of_plain hs ht h hplain hother]
      exact (and_iff_left (.inr ⟨hplain, hother⟩)).symm
    · obtain ⟨hredact, hpassword⟩ := redact_ne_of_not_plain hs ht h hplain hother
      refine iff_of_false hredact fun hcond => ?_
      obtain hsame | hboth := hcond.2
      · exact hpassword hsame
      · exact hother hboth.2
  · by_cases hother : PlainUserinfo t.trim
    · obtain ⟨hredact, hpassword⟩ := redact_ne_of_not_plain ht hs h.symm hother hplain
      refine iff_of_false hredact.symm fun hcond => ?_
      obtain hsame | hboth := hcond.2
      · exact hpassword hsame.symm
      · exact hplain hboth.1
    · rw [redact_not_plain hs hplain, redact_not_plain ht hother, h.eq_iff hs ht]
      refine and_congr_right fun _ => (or_iff_left ?_).symm
      exact fun hboth => hplain hboth.1

end Redacted

/-- A driver that knows the URIs of some passwords. -/
def driverFor (uri : Text → Text) (passwords : List Text) : ConfigFromStr := fun s =>
  match passwords.find? fun password => s = uri password with
  | some password => .ok
      { hosts := [.tcp "h".toList]
        ports := [5432]
        dbname := some "db".toList
        user := some "alice".toList
        password := some password.asBytes }
  | none => .error "unknown host"

/-- A URI with its password in the userinfo. -/
def userinfoUri (password : Text) : Text := "postgres://alice:".toList ++ password ++ "@h/db".toList

/-- A URI with its password in the query. -/
def queryUri (password : Text) : Text := "postgres://alice@h/db?password=".toList ++ password

/-- Two passwords without slashes and question marks are masked. -/
theorem plain_passwords_masked :
    redact (userinfoUri "s3cr3t".toList) = redact (userinfoUri "p%40ss".toList) := by
  have h : SameButPasswords (Text.trim (userinfoUri "s3cr3t".toList))
      (Text.trim (userinfoUri "p%40ss".toList)) :=
    ⟨by decide, by decide, by decide, by decide⟩
  refine (redact_uri_eq_iff (by decide) (by decide) h).2
    ⟨by decide, .inr ⟨fun info hinfo => ?_, fun info hinfo => ?_⟩⟩
  · have hread : uriUserinfo (Text.trim (userinfoUri "s3cr3t".toList)) =
        some "alice:s3cr3t".toList := by
      decide
    obtain rfl := Option.some.inj (hread.symm.trans hinfo)
    decide
  · have hread : uriUserinfo (Text.trim (userinfoUri "p%40ss".toList)) =
        some "alice:p%40ss".toList := by
      decide
    obtain rfl := Option.some.inj (hread.symm.trans hinfo)
    decide

/-- Accepted URIs with a slash in the password, or with the password in the query, are told apart
behind their redaction. -/
theorem slash_and_query_passwords_shown :
    (∀ password ∈ ["a/b".toList, "c/d".toList],
      (parseDsn (driverFor userinfoUri ["a/b".toList, "c/d".toList]) (userinfoUri password)).map
          ParsedDsn.password = .ok (some password) ∧
        (parseDsn (driverFor queryUri ["a/b".toList, "c/d".toList]) (queryUri password)).map
          ParsedDsn.password = .ok (some password)) ∧
    SameButPasswords (Text.trim (userinfoUri "a/b".toList)) (Text.trim (userinfoUri "c/d".toList)) ∧
    SameButPasswords (Text.trim (queryUri "a/b".toList)) (Text.trim (queryUri "c/d".toList)) ∧
    redact (userinfoUri "a/b".toList) ≠ redact (userinfoUri "c/d".toList) ∧
    redact (queryUri "a/b".toList) ≠ redact (queryUri "c/d".toList) := by
  refine ⟨?_, ⟨?_, ?_, ?_, ?_⟩, ⟨?_, ?_, ?_, ?_⟩, ?_, ?_⟩ <;> decide +kernel

end PgMaintainer
