import Mathlib.Logic.Basic

/-!
# Classification of database errors

What a dead connection looks like, after `db_error.rs`. `PgError` is `tokio_postgres::Error`
through its public accessors, and `AnyError` is `anyhow::Error` as its chain of causes,
outermost first. `AnyError.context` keeps the chain, `AnyError.new` starts one from a text, so
an error formatted into a new message loses its classification.
-/

namespace PgMaintainer

/-- The kinds of `std::io::ErrorKind` the code and its tests name; `other` stands for the rest. -/
inductive IoErrorKind where
  | brokenPipe
  | connectionReset
  | connectionAborted
  | unexpectedEof
  | notConnected
  | timedOut
  | permissionDenied
  | notFound
  | invalidInput
  | other
  deriving DecidableEq, Repr

/-- One cause below a `tokio_postgres::Error`: an I/O error, or some other error. -/
inductive ErrorSource where
  | io (kind : IoErrorKind) (text : String)
  | other (text : String)
  deriving DecidableEq, Repr

/-- The text of a cause. -/
def ErrorSource.text : ErrorSource → String
  | .io _ text => text
  | .other text => text

/-- A driver error: the connection is closed, the server reported an error, or another kind
with the sources below it. -/
inductive PgError where
  | closed
  | db (code message : String)
  | other (text : String) (sources : List ErrorSource)
  deriving DecidableEq, Repr

namespace PgError

/-- `is_closed()`. -/
def isClosed : PgError → Bool
  | .closed => true
  | _ => false

/-- `code()`: the SQLSTATE of an error the server reported. -/
def code : PgError → Option String
  | .db code _ => some code
  | _ => none

/-- The chain of `source()`s that may hold an I/O error. -/
def sources : PgError → List ErrorSource
  | .other _ sources => sources
  | _ => []

end PgError

/-- `lock_not_available`, reported when `lock_timeout` expires. -/
def lockNotAvailable : String := "55P03"

/-- `query_canceled`, reported for `pg_cancel_backend` and for a statement timeout. -/
def queryCanceled : String := "57014"

/-- True for SQLSTATEs that mean the session is gone. -/
def sqlstateIsConnectionLoss (code : String) : Bool :=
  "08".toList.isPrefixOf code.toList || ["57P01", "57P02", "57P03", "57P05"].contains code

/-- True for I/O error kinds that mean the socket is dead. -/
def ioKindIsConnectionLoss : IoErrorKind → Bool
  | .brokenPipe | .connectionReset | .connectionAborted => true
  | .unexpectedEof | .notConnected | .timedOut => true
  | .permissionDenied | .notFound | .invalidInput | .other => false

/-- True when one of the sources is a dead socket. -/
def sourcesAreConnectionLoss : List ErrorSource → Bool
  | [] => false
  | .io kind _ :: rest => ioKindIsConnectionLoss kind || sourcesAreConnectionLoss rest
  | .other _ :: rest => sourcesAreConnectionLoss rest

/-- True when a `tokio_postgres::Error` means the connection is lost. -/
def isConnectionLostPg (err : PgError) : Bool :=
  if err.isClosed then true
  else
    match err.code with
    | some code => sqlstateIsConnectionLoss code
    | none => sourcesAreConnectionLoss err.sources

/-- "message (SQLSTATE code)", the form used for server-reported causes. -/
def formatServerCause (message sqlstate : String) : String :=
  s!"{message} (SQLSTATE {sqlstate})"

/-- The error's own `Display`, which for a server-reported error is just "db error". -/
def PgError.display : PgError → String
  | .closed => "connection closed"
  | .db _ _ => "db error"
  | .other text _ => text

/-- Human-readable cause for a failed statement. -/
def describePgError : PgError → String
  | .db code message => formatServerCause message code
  | .closed => PgError.closed.display
  | .other text [] => text
  | .other text (source :: _) => s!"{text}: {source.text}"

/-- Typed error returned when the connection to the server is lost mid-run. -/
structure ConnectionLost where
  operation : String
  schema : String
  table : String
  /-- 1-based position of the table within the phase, and the phase's table count. -/
  position : Option (Nat × Nat)
  cause : String
  deriving DecidableEq, Repr

/-- The text logged once for a lost connection. -/
def ConnectionLost.display (lost : ConnectionLost) : String :=
  let position :=
    match lost.position with
    | some (i, n) => s!" (table {i}/{n})"
    | none => ""
  s!"Database connection lost during {lost.operation} on \"{lost.schema}\".\"{lost.table}\"" ++
    position ++
    s!": {lost.cause}. Remaining tables and phases were NOT processed. " ++
    "The advisory lock was released with the session; " ++
    "re-running is safe (candidates are re-discovered)."

/-- One error in an `anyhow` chain. -/
inductive Cause where
  | message (text : String)
  | connectionLost (lost : ConnectionLost)
  | pg (error : PgError)
  | io (kind : IoErrorKind)
  deriving DecidableEq, Repr

/-- `anyhow::Error`: the chain of causes, outermost first. -/
structure AnyError where
  chain : List Cause
  deriving DecidableEq, Repr

namespace AnyError

/-- `anyhow!(text)`: a new error whose chain is that one text. -/
def new (text : String) : AnyError := ⟨[.message text]⟩

/-- `.context(text)`: the text on top of the chain there was. -/
def context (err : AnyError) (text : String) : AnyError := ⟨.message text :: err.chain⟩

/-- The `?` conversion of a driver error: the error and the sources below it. -/
def ofPg (err : PgError) : AnyError :=
  ⟨.pg err :: err.sources.map fun
    | .io kind _ => .io kind
    | .other text => .message text⟩

/-- The `?` conversion of a lost connection. -/
def ofConnectionLost (lost : ConnectionLost) : AnyError := ⟨[.connectionLost lost]⟩

end AnyError

/-- Whether one cause in a chain is a lost connection. -/
def Cause.isConnectionLost : Cause → Bool
  | .connectionLost _ => true
  | .pg err => isConnectionLostPg err
  | .io kind => ioKindIsConnectionLoss kind
  | .message _ => false

/-- True when any error in the chain is a lost connection. -/
def isConnectionLost (err : AnyError) : Bool := err.chain.any Cause.isConnectionLost

/-- Process exit code for a fatal error: 3 for a lost connection, 1 otherwise. -/
def exitCodeFor (err : AnyError) : Nat := if isConnectionLost err then 3 else 1

/-- Exit code for a fatal error: 130 if a shutdown was requested, else the usual mapping. -/
def exitCode (err : AnyError) (shutdownRequested : Bool) : Nat :=
  if shutdownRequested then 130 else exitCodeFor err

/-! ## What wrapping does to the classification -/

@[simp] theorem is_connection_lost_new (text : String) :
    isConnectionLost (.new text) = false := rfl

@[simp] theorem is_connection_lost_context (err : AnyError) (text : String) :
    isConnectionLost (err.context text) = isConnectionLost err := by
  simp [isConnectionLost, AnyError.context, Cause.isConnectionLost]

@[simp] theorem is_connection_lost_of_connection_lost (lost : ConnectionLost) :
    isConnectionLost (.ofConnectionLost lost) = true := rfl

/-- A lost connection stays one when the driver error becomes an `anyhow` error. -/
theorem is_connection_lost_of_pg {err : PgError} (h : isConnectionLostPg err = true) :
    isConnectionLost (.ofPg err) = true := by
  simp [isConnectionLost, AnyError.ofPg, Cause.isConnectionLost, h]

@[simp] theorem exit_code_requested (err : AnyError) : exitCode err true = 130 := rfl

@[simp] theorem exit_code_not_requested (err : AnyError) :
    exitCode err false = exitCodeFor err := rfl

/-- A fatal error never gives the exit code of a success. -/
theorem exit_code_ne_zero (err : AnyError) (requested : Bool) : exitCode err requested ≠ 0 := by
  cases requested with
  | true => simp
  | false =>
      rw [exit_code_not_requested, exitCodeFor]
      split <;> simp

/-- A lost connection is not a lock timeout. -/
theorem code_ne_lock_of_lost {err : PgError} (h : isConnectionLostPg err = true) :
    err.code ≠ some lockNotAvailable := by
  cases err with
  | closed => simp [PgError.code]
  | other => simp [PgError.code]
  | db code message =>
      intro hcode
      obtain rfl : code = lockNotAvailable := Option.some.inj hcode
      exact absurd (show sqlstateIsConnectionLoss lockNotAvailable = true from h) (by decide)

end PgMaintainer
