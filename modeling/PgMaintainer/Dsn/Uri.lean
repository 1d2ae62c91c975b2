import PgMaintainer.DbError
import PgMaintainer.Text

/-!
# Connection URIs

How `dsn.rs` takes a `postgres://` or `postgresql://` URI apart. `percent_decode` slices its
string by bytes, which panics off a character boundary, so it may halt.
-/

namespace PgMaintainer

/-- Why a computation gives no value: it returned an error, or it panicked. -/
inductive Halt where
  | error (err : AnyError)
  | panic
  deriving DecidableEq, Repr

/-- Return the error of a text. -/
def Halt.new (text : String) : Halt := .error (.new text)

/-- A step that succeeds. -/
theorem ok_bind {ε α β : Type} (x : α) (f : α → Except ε β) : Except.ok x >>= f = f x := rfl

/-- True when the string looks like a `postgres://` / `postgresql://` URI. -/
def isUri (s : Text) : Bool :=
  "postgres://".toList.isPrefixOf s.toAsciiLowercase ||
    "postgresql://".toList.isPrefixOf s.toAsciiLowercase

/-! ## Percent escapes -/

/-- The value of a hexadecimal digit. -/
def hexDigit (b : UInt8) : Option UInt8 :=
  if 0x30 ≤ b ∧ b ≤ 0x39 then some (b - 0x30)
  else if 0x61 ≤ b ∧ b ≤ 0x66 then some (b - 0x61 + 10)
  else if 0x41 ≤ b ∧ b ≤ 0x46 then some (b - 0x41 + 10)
  else none

/-- `u8::from_str_radix(hex, 16)` on two bytes: two digits, or a plus sign and a digit. -/
def fromHex (high low : UInt8) : Option UInt8 :=
  if high = 0x2B then hexDigit low
  else do
    let h ← hexDigit high
    let l ← hexDigit low
    pure (16 * h + l)

/-- Whether a string may be cut before these bytes. -/
def isCharBoundary (rest : List UInt8) : Bool := rest.head?.all fun b => !Text.isContinuation b

/-- The loop of `percent_decode`: the bytes with their escapes decoded. -/
def percentDecodeBytes : List UInt8 → Except Halt (List UInt8)
  | [] => pure []
  | [b] => pure [b]
  | [b, c] => pure [b, c]
  | b :: high :: low :: rest =>
    if b = 0x25 then
      if isCharBoundary rest then
        match fromHex high low with
        | some value => (value :: ·) <$> percentDecodeBytes rest
        | none => (b :: ·) <$> percentDecodeBytes (high :: low :: rest)
      else .error .panic
    else (b :: ·) <$> percentDecodeBytes (high :: low :: rest)

/-- Decode `%XX` escapes. Invalid escapes are left as they are. -/
def percentDecode (s : Text) : Except Halt Text := do
  let out ← percentDecodeBytes s.asBytes
  pure (Text.fromUtf8Lossy out)

/-! ## The authority -/

/-- The text after the first `//`. -/
def afterSlashes : Text → Option Text
  | [] => none
  | c :: rest => if c = '/' ∧ rest.head? = some '/' then some rest.tail else afterSlashes rest

/-- The authority section of a URI: everything between `//` and the next `/` or `?`. -/
def uriAuthority (s : Text) : Text :=
  match afterSlashes s with
  | some rest => rest.takeWhile fun c => c ≠ '/' && c ≠ '?'
  | none => []

/-- Whether a URI's authority names an explicit port. -/
def uriHasExplicitPort (s : Text) : Bool :=
  let authority := uriAuthority s
  let hostpart := match authority.splitLast '@' with
    | some (_, host) => host
    | none => authority
  match hostpart.splitLast ']' with
  | some (_, behind) => behind.head? = some ':'
  | none => hostpart.contains ':'

end PgMaintainer
