import PgMaintainer.Run.Passes

/-!
# The marks of a runner

The marks in a trace tell how a runner's loop went: which tables it visited, and which counter
each of them went into. An `Entry` is what the pass over one table leaves, and the lemmas say
how a trace gains its marks: a visit, then the entry's counter, and nothing from anything else.
-/

namespace PgMaintainer

open Interaction

variable {W : World session}

/-- The mark a step sets. -/
def marked (m : Moment W) : Option Mark :=
  match (m.op : Op) with
  | .mark mark => some mark
  | _ => none

/-- A table whose pass went on, and the counter it went into. A dry run counts none. -/
abbrev Entry := TableKey × Option Tally

/-- The marks of the passes. -/
def loopMarks (entries : List Entry) : List Mark :=
  entries.flatMap fun e => .visit e.1 :: (e.2.map (Mark.tally e.1)).toList

@[simp] theorem loop_marks_nil : loopMarks [] = [] := rfl

@[simp] theorem loop_marks_append (entries more : List Entry) :
    loopMarks (entries ++ more) = loopMarks entries ++ loopMarks more := by
  simp [loopMarks]

/-- Operations that are no marks. -/
def Op.Unmarked (op : Op) : Prop := ∀ m, op ≠ .mark m

/-- What is aside makes no mark. -/
theorem Op.Aside.unmarked {op : Op} (h : op.Aside) : op.Unmarked := by
  rintro m rfl
  exact h

/-- What is aside is no mark. -/
theorem only_unmarked {ε α : Type} {p : Prog session ε α} (hp : p.Only Op.Aside) :
    p.Only Op.Unmarked :=
  hp.mono (fun _ => Op.Aside.unmarked) (fun _ h => h) fun _ h => h

/-- A step that makes no mark is not marked. -/
theorem marked_of_unmarked {m : Moment W} (h : m.op.Unmarked) : marked m = none := by
  unfold marked
  split
  · exact (h _ ‹_›).elim
  · rfl

/-- A step is marked by its operation. -/
theorem marked_of_op {m : Moment W} {mark : Mark} (h : m.op = .mark mark) :
    marked m = some mark := by
  simp [marked, h]

/-- A marked step is a mark. -/
theorem op_of_marked {m : Moment W} {mark : Mark} (h : marked m = some mark) :
    m.op = .mark mark := by
  unfold marked at h
  split at h
  · rename_i hop
    rw [hop, Option.some.inj h]
  · cases h

/-- Since `start` the loop has made the passes `entries`. -/
def Stands (front : Trace W) (start : Moment W) (entries : List Entry) (past : Trace W) : Prop :=
  ∃ run, past = front ++ start :: run ∧ run.filterMap marked = loopMarks entries

/-- The loop is in the pass over `table`. -/
def Within (front : Trace W) (start : Moment W) (entries : List Entry) (table : TableKey)
    (past : Trace W) : Prop :=
  ∃ run, past = front ++ start :: run ∧ run.filterMap marked = loopMarks entries ++ [.visit table]

variable {front past : Trace W} {start m : Moment W} {entries : List Entry} {table : TableKey}
  {tally : Tally}

/-- The next table's turn. -/
theorem Stands.visit (h : Stands front start entries past) (hm : m.op = .mark (.visit table)) :
    Within front start entries table (past ++ [m]) := by
  obtain ⟨run, rfl, hrun⟩ := h
  exact ⟨run ++ [m], by simp, by simp [hrun, marked_of_op hm]⟩

/-- A table is counted, and its visit is over. -/
theorem Within.count (h : Within front start entries table past)
    (hm : m.op = .mark (.tally table tally)) :
    Stands front start (entries ++ [(table, some tally)]) (past ++ [m]) := by
  obtain ⟨run, rfl, hrun⟩ := h
  exact ⟨run ++ [m], by simp, by simp [hrun, marked_of_op hm, loopMarks]⟩

/-- A pass that ends without a counter. -/
theorem Within.uncounted (h : Within front start entries table past) :
    Stands front start (entries ++ [(table, none)]) past := by
  obtain ⟨run, rfl, hrun⟩ := h
  exact ⟨run, rfl, by simp [hrun, loopMarks]⟩

/-- A step without a mark stays in the visit. -/
theorem Within.next (h : Within front start entries table past) (hm : m.op.Unmarked) :
    Within front start entries table (past ++ [m]) := by
  obtain ⟨run, rfl, hrun⟩ := h
  exact ⟨run ++ [m], by simp, by simp [hrun, marked_of_unmarked hm]⟩

/-- A runner that has just started. -/
theorem Stands.begin (front : Trace W) (start : Moment W) :
    Stands front start [] (front ++ [start]) :=
  ⟨[], rfl, rfl⟩

/-- So does a stretch of them. -/
theorem keeps_within : W.Keeps (fun _ _ => True) Op.Unmarked fun past _ =>
    Within front start entries table past :=
  fun _ _ _ h _ _ _ _ hop _ => ⟨trivial, h.next hop⟩

/-- The retries and what they retry set no mark. -/
theorem with_lock_timeout_retry_unmarked {r : Runner} {statement : Statement} (policy : RunPolicy)
    (hr : r.Performs statement) (table : TableKey) :
    (withLockTimeoutRetry policy (r.operation table)).Only Op.Unmarked := by
  rw [hr.operation]
  exact retry_loop_only (operation_only (by simp [Op.Unmarked]) (by simp [Op.Unmarked]))
    (by simp [Op.Unmarked]) (by simp [Op.Unmarked]) _ _

end PgMaintainer
