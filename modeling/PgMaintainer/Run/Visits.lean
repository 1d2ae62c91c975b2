import PgMaintainer.Run.Passes

/-!
# The visits of a runner

A trace of a runner falls into visits, one for each table that its loop turned to. A visit first
goes through gates; its statement begins only where no shutdown was learnt of on the way. Of its
steps two kinds are accounted for, the counters and the rows of the logbook.
-/

namespace PgMaintainer

open Interaction

/-! ## Visits -/

section Steps

variable {W : World session}

/-- The loop turns to a table. -/
def Moment.turns (m : Moment W) : Bool :=
  match m.op with
  | .mark (.visit _) => true
  | _ => false

/-- The first step of a table's statement: a read of its dead tuples, or the statement. -/
def Moment.starts (m : Moment W) : Bool :=
  match m.op with
  | .call (.getDeadTupleCount _) | .call (.maintain _ _) => true
  | _ => false

/-- A shutdown is learnt of: the flag is read as set, or a sleep is cut short. -/
def Moment.news (m : Moment W) : Bool :=
  match m with
  | ⟨_, .shutdownRequested, requested⟩ => requested
  | ⟨_, .sleepOrShutdown _, wake⟩ => wake = .shutdown
  | _ => false

/-- The table that is counted, and how. -/
def Moment.tallied (m : Moment W) : Option Tally :=
  match m.op with
  | .mark (.tally _ tally) => some tally
  | _ => none

/-- The row that the logbook is given. -/
def Moment.row (m : Moment W) : Option LogEntry :=
  match m.op with
  | .call (.insertMaintenanceLog row) => some row
  | _ => none

end Steps

/-- What a runner's loop does from when it turns to a table until it turns to the next. -/
structure Visit (W : World session) where
  table : TableKey
  first : Moment W
  steps : Trace W
  turns : first.op = .mark (.visit table)
  stays : ∀ m ∈ steps, Moment.turns m = false

namespace Visit

variable {W : World session}

/-- All steps of the visit. -/
def trace (v : Visit W) : Trace W := v.first :: v.steps

/-- A shutdown was learnt of before the statement: the visit ends there. -/
def cutShort (v : Visit W) : Bool := (v.steps.takeWhile fun m => !Moment.starts m).any Moment.news

/-- The counters that the table went into. -/
def counted (v : Visit W) : List Tally := v.steps.filterMap Moment.tallied

/-- The rows that were offered to the logbook. -/
def rows (v : Visit W) : List LogEntry := v.steps.filterMap Moment.row

end Visit

namespace Visit

variable {W : World session} {v : Visit W} {m : Moment W}

/-- One more step of the visit. -/
def append (v : Visit W) (m : Moment W) (h : Moment.turns m = false) : Visit W where
  table := v.table
  first := v.first
  steps := v.steps ++ [m]
  turns := v.turns
  stays := by
    intro n hn
    obtain hn | hn := List.mem_append.1 hn
    · exact v.stays n hn
    · rwa [List.mem_singleton.1 hn]

variable {h : Moment.turns m = false}

/-- A step's count is added to those of the visit. -/
theorem counted_append : (v.append m h).counted = v.counted ++ (Moment.tallied m).toList := by
  rw [counted, append, List.filterMap_append]
  cases htally : Moment.tallied m <;> simp [htally, counted]

/-- A step's row is added to those of the visit. -/
theorem rows_append : (v.append m h).rows = v.rows ++ (Moment.row m).toList := by
  rw [rows, append, List.filterMap_append]
  cases hrow : Moment.row m <;> simp [hrow, rows]

/-- Once the statement has begun, no step makes the visit one that was cut short. -/
theorem cut_short_append (hbegun : v.steps.any Moment.starts = true) :
    (v.append m h).cutShort = v.cutShort := by
  obtain ⟨s, hs, hstarts⟩ := List.any_eq_true.1 hbegun
  have hlength : (v.steps.takeWhile fun m => !Moment.starts m).length ≠ v.steps.length := by
    intro hlength
    have hall := List.takeWhile_eq_self_iff.1
      ((List.takeWhile_prefix fun m => !Moment.starts m).eq_of_length hlength) s hs
    simp [hstarts] at hall
  rw [cutShort, append, List.takeWhile_append, if_neg hlength, cutShort]

end Visit

/-! ## On the way through a visit -/

section Stages

variable {W : World session} {table : TableKey} {told : Bool} {counted : List Tally}
  {rows : List LogEntry} {past : Trace W} {m : Moment W}

/-- The visit has only gone through gates so far; a shutdown was learnt of or not. -/
def AtGates (table : TableKey) (told : Bool) (past : Trace W) : Prop :=
  ∃ v : Visit W, past = v.trace ∧ v.table = table ∧ (∀ m ∈ v.steps, m.op.Gating) ∧
    v.steps.any Moment.news = told

/-- The statement has begun, without a shutdown. -/
def Working (table : TableKey) (counted : List Tally) (rows : List LogEntry) (past : Trace W) :
    Prop :=
  ∃ v : Visit W, past = v.trace ∧ v.table = table ∧ v.steps.any Moment.starts = true ∧
    v.cutShort = false ∧ v.counted = counted ∧ v.rows = rows

/-- The visit is over. -/
def VisitEnded (table : TableKey) (cut : Bool) (counted : List Tally) (rows : List LogEntry)
    (past : Trace W) : Prop :=
  ∃ v : Visit W, past = v.trace ∧ v.table = table ∧ v.cutShort = cut ∧ v.counted = counted ∧
    v.rows = rows

/-- Gates are none of what is accounted for. -/
theorem gating_plain (h : m.op.Gating) : Moment.turns m = false ∧ Moment.starts m = false ∧
    Moment.tallied m = none ∧ Moment.row m = none := by
  unfold Moment.turns Moment.starts Moment.tallied Moment.row
  obtain ⟨state, op, answer⟩ := m
  cases op with
  | call c => cases c <;> first | exact ⟨rfl, rfl, rfl, rfl⟩ | exact h.elim
  | mark mark => exact h.elim
  | _ => exact ⟨rfl, rfl, rfl, rfl⟩

/-- Nor are sleeps and reads of the flag what cannot tell of a shutdown. -/
theorem deaf_no_news (h : m.op.Deaf) : Moment.news m = false := by
  unfold Moment.news
  obtain ⟨state, op, answer⟩ := m
  cases op with
  | shutdownRequested => exact h.elim
  | sleepOrShutdown nanoseconds => exact h.elim
  | _ => rfl

/-- A step of the gates, with the news of a shutdown it may bring. -/
theorem AtGates.next (h : AtGates table told past) (hm : m.op.Gating) :
    AtGates table (told || Moment.news m) (past ++ [m]) := by
  obtain ⟨v, rfl, htable, hgating, htold⟩ := h
  refine ⟨v.append m (gating_plain hm).1, rfl, htable, fun n hn => ?_, ?_⟩
  · obtain hn | hn := List.mem_append.1 hn
    · exact hgating n hn
    · rwa [List.mem_singleton.1 hn]
  · rw [Visit.append, List.any_append, htold, List.any_cons, List.any_nil, Bool.or_false]

/-- The steps of a wait are all before the statement. -/
theorem AtGates.before {v : Visit W} (hgating : ∀ m ∈ v.steps, m.op.Gating) :
    (v.steps.takeWhile fun m => !Moment.starts m) = v.steps ∧ v.counted = [] ∧ v.rows = [] := by
  refine ⟨List.takeWhile_eq_self_iff.2 fun m hm => ?_, ?_, ?_⟩
  · rw [(gating_plain (hgating m hm)).2.1]
    rfl
  · exact List.filterMap_eq_nil_iff.2 fun m hm => (gating_plain (hgating m hm)).2.2.1
  · exact List.filterMap_eq_nil_iff.2 fun m hm => (gating_plain (hgating m hm)).2.2.2

/-- A visit may end at the gates. -/
theorem AtGates.ended (h : AtGates table told past) : VisitEnded table told [] [] past := by
  obtain ⟨v, rfl, htable, hgating, htold⟩ := h
  obtain ⟨hbefore, hcounted, hrows⟩ := AtGates.before hgating
  refine ⟨v, rfl, htable, ?_, hcounted, hrows⟩
  rw [Visit.cutShort, hbefore, htold]

/-- What a counter is. -/
theorem tally_plain {tally : Tally} (h : m.op = .mark (.tally table tally)) :
    Moment.turns m = false ∧ Moment.news m = false ∧ Moment.tallied m = some tally ∧
      Moment.row m = none := by
  obtain ⟨state, op, answer⟩ := m
  obtain rfl : op = _ := h
  exact ⟨rfl, rfl, rfl, rfl⟩

/-- What a row of the logbook is. -/
theorem row_plain {row : LogEntry} (h : m.op = .call (.insertMaintenanceLog row)) :
    Moment.turns m = false ∧ Moment.tallied m = none ∧ Moment.row m = some row := by
  obtain ⟨state, op, answer⟩ := m
  obtain rfl : op = _ := h
  exact ⟨rfl, rfl, rfl⟩

/-- A table that is counted without its statement. -/
theorem AtGates.count (h : AtGates table false past) {tally : Tally}
    (hm : m.op = .mark (.tally table tally)) : VisitEnded table false [tally] [] (past ++ [m]) := by
  obtain ⟨v, rfl, htable, hgating, htold⟩ := h
  obtain ⟨hturns, hnews, htally, hrow⟩ := tally_plain hm
  obtain ⟨hbefore, hcounted, hrows⟩ := AtGates.before hgating
  refine ⟨v.append m hturns, rfl, htable, ?_, ?_, ?_⟩
  · have hlast : ([m].takeWhile fun m => !Moment.starts m).any Moment.news = false := by
      rw [List.takeWhile_cons]
      split <;> simp [hnews]
    rw [Visit.cutShort, Visit.append, List.takeWhile_append, hbefore, if_pos rfl, List.any_append,
      htold, hlast]
    rfl
  · rw [Visit.counted_append, hcounted, htally]
    rfl
  · rw [Visit.rows_append, hrows, hrow]
    rfl

/-- The statement leaves the gates behind. -/
theorem AtGates.start (h : AtGates table false past) (hturns : Moment.turns m = false)
    (hm : Moment.starts m = true) (htally : Moment.tallied m = none) (hrow : Moment.row m = none) :
    Working table [] [] (past ++ [m]) := by
  obtain ⟨v, rfl, htable, hgating, htold⟩ := h
  obtain ⟨hbefore, hcounted, hrows⟩ := AtGates.before hgating
  refine ⟨v.append m hturns, rfl, htable, ?_, ?_, ?_, ?_⟩
  · rw [Visit.append, List.any_append, List.any_cons, hm, Bool.true_or, Bool.or_true]
  · rw [Visit.cutShort, Visit.append, List.takeWhile_append, hbefore, if_pos rfl,
      List.takeWhile_cons, hm]
    simpa using htold
  · rw [Visit.counted_append, hcounted, htally]
    rfl
  · rw [Visit.rows_append, hrows, hrow]
    rfl

/-- A step of the work, with what it counts and the row it sends. -/
theorem Working.next (h : Working table counted rows past) (hturns : Moment.turns m = false) :
    Working table (counted ++ (Moment.tallied m).toList) (rows ++ (Moment.row m).toList)
      (past ++ [m]) := by
  obtain ⟨v, rfl, htable, hbegun, hcut, rfl, rfl⟩ := h
  refine ⟨v.append m hturns, rfl, htable, ?_, ?_, Visit.counted_append, Visit.rows_append⟩
  · rw [Visit.append, List.any_append, hbegun, Bool.true_or]
  · rw [Visit.cut_short_append hbegun, hcut]

/-- A visit may end after any step of the work. -/
theorem Working.ended (h : Working table counted rows past) :
    VisitEnded table false counted rows past := by
  obtain ⟨v, rfl, htable, -, hcut, hcounted, hrows⟩ := h
  exact ⟨v, rfl, htable, hcut, hcounted, hrows⟩

/-- What is neither a mark nor a row of the logbook. -/
def Op.Unbooked : Op → Prop
  | .mark _ | .call (.insertMaintenanceLog _) => False
  | _ => True

/-- What is not booked turns to no table, counts none and sends no row. -/
theorem unbooked_plain (h : m.op.Unbooked) :
    Moment.turns m = false ∧ Moment.tallied m = none ∧ Moment.row m = none := by
  unfold Moment.turns Moment.tallied Moment.row
  obtain ⟨state, op, answer⟩ := m
  cases op with
  | call c => cases c <;> first | exact ⟨rfl, rfl, rfl⟩ | exact h.elim
  | mark mark => exact h.elim
  | _ => exact ⟨rfl, rfl, rfl⟩

/-- Reports are not booked. -/
theorem unbooked_admits_report : Op.AdmitsReport Op.Unbooked :=
  ⟨fun _ _ _ _ => trivial, trivial, trivial⟩

/-- What is not booked keeps a table at work. -/
theorem keeps_working :
    W.Keeps (fun _ _ => True) Op.Unbooked fun past _ => Working table counted rows past := by
  intro past state now h _ op answer after hop _
  obtain ⟨hturns, htally, hrow⟩ := unbooked_plain (m := ⟨now, op, answer⟩) hop
  have hnext := h.next hturns
  rw [htally, hrow] at hnext
  simp only [Option.toList_none, List.append_nil] at hnext
  exact ⟨trivial, hnext⟩

/-- What cannot tell of a shutdown keeps a table at the gates. -/
theorem keeps_at_gates :
    W.Keeps (fun _ _ => True) Op.Deaf fun past _ => AtGates table told past := by
  intro past state now h _ op answer after hop _
  have hnext := h.next (m := ⟨now, op, answer⟩) hop.gating
  rw [deaf_no_news (m := ⟨now, op, answer⟩) hop, Bool.or_false] at hnext
  exact ⟨trivial, hnext⟩

/-- A row of the logbook. -/
theorem Working.book (h : Working table counted rows past) {row : LogEntry}
    (hm : m.op = .call (.insertMaintenanceLog row)) :
    Working table counted (rows ++ [row]) (past ++ [m]) := by
  obtain ⟨hturns, htally, hrow⟩ := row_plain hm
  have hnext := h.next hturns
  rwa [htally, hrow, Option.toList_none, Option.toList_some, List.append_nil] at hnext

/-- A counter. -/
theorem Working.count (h : Working table counted rows past) {tally : Tally}
    (hm : m.op = .mark (.tally table tally)) :
    Working table (counted ++ [tally]) rows (past ++ [m]) := by
  obtain ⟨hturns, -, htally, hrow⟩ := tally_plain hm
  have hnext := h.next hturns
  rwa [htally, hrow, Option.toList_none, Option.toList_some, List.append_nil] at hnext

end Stages

end PgMaintainer
