import PgMaintainer.Operations.Statements

/-!
# The query for what holds the vacuum horizon back

`FIND_XMIN_HORIZON_BLOCKERS` of `queries.rs` over the three catalog views it reads. A view is a list
of rows, a column that may be NULL an `Option`, and an answer is any order of the united rows that
`ORDER BY` allows.
-/

namespace PgMaintainer

/-! ## Transaction ids -/

/-- A transaction id. -/
abbrev Xid := BitVec 32

/-- `age(xid)`, where `next` is the id of the next transaction: the distance of a normal id, and the
greatest `int4` for the permanent ones, which are 0, 1 and 2. -/
def Xid.age (next xid : Xid) : Int :=
  if xid.toNat < 3 then 2 ^ 31 - 1 else (next - xid).toInt

/-! ## The views -/

/-- A row of `pg_stat_activity`, with the seconds since its transaction and its query began. -/
structure ActivityRow where
  pid : Int
  usename : Option String
  state : Option String
  backendXmin : Option Xid
  xactSecs : Option Int
  querySecs : Option Int
  query : Option String
  deriving DecidableEq, Repr

/-- A row of `pg_replication_slots`. -/
structure ReplicationSlot where
  slotName : String
  slotType : String
  active : Bool
  xmin : Option Xid
  catalogXmin : Option Xid
  deriving DecidableEq, Repr

/-- A row of `pg_prepared_xacts`, with the seconds since it was prepared. -/
structure PreparedXact where
  gid : String
  owner : String
  transaction : Xid
  preparedSecs : Int
  deriving DecidableEq, Repr

/-- What the query sees: the three views, the next transaction id and the process id of the session
itself. -/
structure HorizonSnapshot where
  next : Xid
  ownPid : Int
  activity : List ActivityRow
  slots : List ReplicationSlot
  prepared : List PreparedXact

/-! ## The query -/

/-- `s as u64`. -/
def asU64 (s : Int) : Nat := (s % 2 ^ 64).toNat

/-- `left(query, 200)`. -/
def left200 (query : String) : String := String.ofList (query.toList.take 200)

variable (snapshot : HorizonSnapshot)

/-- The row of a backend. -/
def backendRow (row : ActivityRow) (backendXmin : Xid) : XminHorizonBlocker where
  holderType := "backend"
  identifier := s!"{row.pid}"
  detail := row.usename
  status := row.state
  xidAge := Xid.age snapshot.next backendXmin
  xactDurationSecs := row.xactSecs.map asU64
  queryDurationSecs := row.querySecs.map asU64
  querySnippet := row.query.map left200

/-- `COALESCE(xid, '0'::xid)`. -/
def coalesceZero (xid : Option Xid) : Xid := xid.getD 0

/-- The row of a replication slot. -/
def slotRow (slot : ReplicationSlot) : XminHorizonBlocker where
  holderType := "replication_slot"
  identifier := slot.slotName
  detail := some slot.slotType
  status := some (if slot.active then "true" else "false")
  xidAge := max (Xid.age snapshot.next (coalesceZero slot.xmin))
    (Xid.age snapshot.next (coalesceZero slot.catalogXmin))
  xactDurationSecs := none
  queryDurationSecs := none
  querySnippet := none

/-- The row of a prepared transaction. -/
def preparedRow (row : PreparedXact) : XminHorizonBlocker where
  holderType := "prepared_xact"
  identifier := row.gid
  detail := some row.owner
  status := none
  xidAge := Xid.age snapshot.next row.transaction
  xactDurationSecs := some (asU64 row.preparedSecs)
  queryDurationSecs := none
  querySnippet := none

/-- `WHERE xmin IS NOT NULL OR catalog_xmin IS NOT NULL`. -/
def ReplicationSlot.holds (slot : ReplicationSlot) : Bool :=
  slot.xmin.isSome || slot.catalogXmin.isSome

/-- The rows of the three sources, before they are sorted. -/
def unsortedBlockers : List XminHorizonBlocker :=
  (snapshot.activity.filterMap fun row =>
    if row.pid = snapshot.ownPid then none else row.backendXmin.map (backendRow snapshot row)) ++
  (snapshot.slots.filter ReplicationSlot.holds).map (slotRow snapshot) ++
  snapshot.prepared.map (preparedRow snapshot)

/-- An answer of the query: the rows in an order of falling age. No age is NULL. -/
def FindXminHorizonBlockers (rows : List XminHorizonBlocker) : Prop :=
  rows.Perm (unsortedBlockers snapshot) ∧ rows.Pairwise fun a b => b.xidAge ≤ a.xidAge

/-! ## What is logged at the start -/

/-- How a line of the log is marked. -/
inductive LogLevel where
  | info
  | warning
  deriving DecidableEq, Repr

/-- What `log_initial_xmin_horizon` logs about an observation. -/
def initialXminHorizon (warnAgeThreshold : Int) : HorizonObservation → LogLevel × String
  | .unobservable =>
    (.warning, "Cannot check the vacuum horizon — the connected role lacks pg_read_all_stats " ++
      "(granted by pg_monitor). Horizon diagnostics are disabled for this run.")
  | .observed [] =>
    (.info, "Vacuum horizon check: no long-running transactions, slots, or prepared " ++
      "transactions found.")
  | .observed (worst :: rest) =>
    if warnAgeThreshold ≤ worst.xidAge then
      let described := "; ".intercalate (((worst :: rest).take 3).map describeXminBlocker)
      (.warning, s!"Vacuum horizon may be pinned: {described} (oldest XID age: {worst.xidAge})")
    else
      let ageStr := formatXidAge worst.xidAge
      (.info, s!"Vacuum horizon is healthy (oldest XID age: {ageStr})")

end PgMaintainer
