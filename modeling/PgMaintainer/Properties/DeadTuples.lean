import PgMaintainer.Properties.Accounting

/-!
# The figure behind a VACUUM

A VACUUM stands between two reads of the table's dead tuples, and what is reported about it is a
figure made of the two. The figure is what the comment on it promises as long as the estimate does
not grow; a VACUUM behind which there are more dead tuples than before goes unreported.
-/

namespace PgMaintainer

open Interaction

/-! ## The figure -/

/-- The figure that is promised: none without dead tuples before, zero where they did not decrease,
and the decrease otherwise. -/
def promisedFigure (before after : Int) : Option Int :=
  if before = 0 then none else if after < before then some (before - after) else some 0

/-- A value of 64 bits. -/
def FitsI64 (n : Int) : Prop := -(2 ^ 63) ≤ n ∧ n < 2 ^ 63

/-- What the two reads may be: the second is not negative where the first is zero. -/
structure Readings (before after : Int) : Prop where
  before_fits : FitsI64 before
  after_fits : FitsI64 after
  counted : 0 < before ∨ before = 0 ∧ 0 ≤ after

/-- The estimate did not grow, and its decrease is a value of 64 bits. -/
def DidNotGrow (before after : Int) : Prop := after ≤ before ∧ before - after < 2 ^ 63

/-- Within the range the difference is exact. -/
theorem saturating_sub_of_fits {a b : Int} (h : FitsI64 (a - b)) : saturatingSub a b = a - b := by
  obtain ⟨hlow, hhigh⟩ := h
  unfold saturatingSub
  omega

/-- A difference over 64 bits becomes the greatest value. -/
theorem saturating_sub_of_large {a b : Int} (h : 2 ^ 63 ≤ a - b) :
    saturatingSub a b = 2 ^ 63 - 1 := by
  unfold saturatingSub
  omega

/-- Saturation keeps the sign of a negative difference. -/
theorem saturating_sub_neg {a b : Int} (h : a < b) : saturatingSub a b < 0 := by
  unfold saturatingSub
  omega

/-- The figure is the promised one if there were no dead tuples, or the estimate did not grow. -/
theorem estimate_eq_promised_iff {before after : Int} (h : Readings before after) :
    estimateDeadTuplesReduced before after = promisedFigure before after ↔
      before = 0 ∨ DidNotGrow before after := by
  unfold estimateDeadTuplesReduced promisedFigure DidNotGrow
  obtain hpositive | ⟨rfl, hafter⟩ := h.counted
  · have hne : before ≠ 0 := by omega
    rw [if_neg hne]
    -- the difference is negative, beyond the range, zero or positive
    by_cases hgrew : before < after
    · have hneg := saturating_sub_neg hgrew
      have hzero : ¬(saturatingSub before after = 0 ∧ 0 < before) := by omega
      have hnone : ¬0 < saturatingSub before after := by omega
      have hnot : ¬after < before := by omega
      rw [if_neg hzero, if_neg hnone, if_neg hnot]
      constructor
      · intro h
        cases h
      · intro h
        omega
    by_cases hlarge : 2 ^ 63 ≤ before - after
    · rw [saturating_sub_of_large hlarge]
      have hless : after < before := by omega
      have hfigure : ¬((2 ^ 63 - 1 : Int) = 0 ∧ 0 < before) := by omega
      have hpos : (0 : Int) < 2 ^ 63 - 1 := by omega
      rw [if_neg hfigure, if_pos hpos, if_pos hless, Option.some_inj]
      omega
    have hfits : FitsI64 (before - after) := ⟨by omega, by omega⟩
    rw [saturating_sub_of_fits hfits]
    have hdid : before = 0 ∨ after ≤ before ∧ before - after < 2 ^ 63 := by omega
    by_cases hsame : before = after
    · have hzero : before - after = 0 ∧ 0 < before := by omega
      have hnot : ¬after < before := by omega
      rw [if_pos hzero, if_neg hnot]
      exact iff_of_true rfl hdid
    · have hzero : ¬(before - after = 0 ∧ 0 < before) := by omega
      have hpos : 0 < before - after := by omega
      have hless : after < before := by omega
      rw [if_neg hzero, if_pos hpos, if_pos hless]
      exact iff_of_true rfl hdid
  · have hzero : ¬(saturatingSub 0 after = 0 ∧ (0 : Int) < 0) := by omega
    have hpos : ¬0 < saturatingSub 0 after := by
      unfold saturatingSub
      omega
    rw [if_neg hzero, if_neg hpos, if_pos rfl]
    exact iff_of_true rfl (.inl rfl)

/-- Where the estimate did not decrease, the figure is zero only if it stayed as it was. -/
theorem estimate_eq_zero_iff {before after : Int} (hbefore : 0 < before) (hle : before ≤ after) :
    estimateDeadTuplesReduced before after = some 0 ↔ DidNotGrow before after := by
  unfold estimateDeadTuplesReduced DidNotGrow
  by_cases hsame : before = after
  · subst hsame
    have hfits : FitsI64 (before - before) := ⟨by omega, by omega⟩
    have hzero : before - before = 0 ∧ 0 < before := by omega
    rw [saturating_sub_of_fits hfits, if_pos hzero]
    exact iff_of_true rfl (by omega)
  · have hneg : saturatingSub before after < 0 := saturating_sub_neg (by omega)
    have hzero : ¬(saturatingSub before after = 0 ∧ 0 < before) := by omega
    have hnone : ¬0 < saturatingSub before after := by omega
    rw [if_neg hzero, if_neg hnone]
    constructor
    · intro h
      cases h
    · intro h
      omega

/-! ## What a VACUUM reads and reports -/

section Notes

variable {W : World session}

/-- The dead tuples that were read. -/
def Moment.deadTuples (m : Moment W) : Option Int :=
  match m with
  | ⟨_, .call (.getDeadTupleCount _), .ok n⟩ => some n
  | _ => none

/-- The change that was logged: the operation, the table, the figure and the blocker. -/
def Moment.change (m : Moment W) : Option (String × TableKey × Int × Option String) :=
  match m.op with
  | .log (.deadTupleChange operation table reduced blockedBy) =>
      some (operation, table, reduced, blockedBy)
  | _ => none

/-- The blocker of the vacuum horizon in the first row that was read. -/
def Moment.worstBlocker (m : Moment W) : Option XminHorizonBlocker :=
  match m with
  | ⟨_, .call .findXminHorizonBlockers, .ok (worst :: _)⟩ => some worst
  | _ => none

/-- What was read, logged and counted. -/
structure Noted (past : Trace W) (reads : List Int)
    (changes : List (String × TableKey × Int × Option String)) (worst : List XminHorizonBlocker)
    (tallies : List Tally) : Prop where
  reads : past.filterMap Moment.deadTuples = reads
  changes : past.filterMap Moment.change = changes
  worst : past.filterMap Moment.worstBlocker = worst
  tallies : past.filterMap Moment.tallied = tallies

variable {past : Trace W} {reads : List Int}
  {changes : List (String × TableKey × Int × Option String)} {worst : List XminHorizonBlocker}
  {tallies : List Tally} {state : W.State} {table : TableKey}

/-- One more entry at the end of a filtered list. -/
theorem filterMap_concat {α β : Type} (f : α → Option β) (xs : List α) (x : α) :
    (xs ++ [x]).filterMap f = xs.filterMap f ++ (f x).toList := by
  rw [List.filterMap_append]
  cases h : f x <;> simp [h]

/-- What is noted of a trace, one moment later. -/
theorem Noted.next (h : Noted past reads changes worst tallies) (m : Moment W) :
    Noted (past ++ [m]) (reads ++ (Moment.deadTuples m).toList)
      (changes ++ (Moment.change m).toList) (worst ++ (Moment.worstBlocker m).toList)
      (tallies ++ (Moment.tallied m).toList) := by
  obtain ⟨rfl, rfl, rfl, rfl⟩ := h
  exact ⟨filterMap_concat .., filterMap_concat .., filterMap_concat .., filterMap_concat ..⟩

/-- Operations that leave nothing to note. -/
def Op.Unnoted : Op → Prop
  | .call (.getDeadTupleCount _) | .call .findXminHorizonBlockers => False
  | .log (.deadTupleChange ..) | .mark (.tally ..) => False
  | _ => True

attribute [local simp] Op.Unnoted

/-- What is not of the kinds noted changes nothing. -/
theorem Noted.keep (h : Noted past reads changes worst tallies) {m : Moment W}
    (hm : m.op.Unnoted) : Noted (past ++ [m]) reads changes worst tallies := by
  have hnone : Moment.deadTuples m = none ∧ Moment.change m = none ∧
      Moment.worstBlocker m = none ∧ Moment.tallied m = none := by
    unfold Moment.deadTuples Moment.change Moment.worstBlocker Moment.tallied
    obtain ⟨state, op, answer⟩ := m
    cases op with
    | call c => cases c <;> first | exact ⟨rfl, rfl, rfl, rfl⟩ | exact hm.elim
    | log line => cases line <;> first | exact ⟨rfl, rfl, rfl, rfl⟩ | exact hm.elim
    | mark mark => cases mark <;> first | exact ⟨rfl, rfl, rfl, rfl⟩ | exact hm.elim
    | _ => exact ⟨rfl, rfl, rfl, rfl⟩
  obtain ⟨hreads, hchanges, hworst, htallies⟩ := hnone
  have hnext := h.next m
  rw [hreads, hchanges, hworst, htallies] at hnext
  simpa using hnext

/-- Nor does a stretch of it. -/
theorem keeps_noted : W.Keeps (fun _ _ => True) Op.Unnoted fun past _ =>
    Noted past reads changes worst tallies :=
  fun _ _ _ h _ _ _ _ hop _ => ⟨trivial, h.keep hop⟩

/-- A program that leaves nothing to note. -/
theorem wp_noted {ε α : Type} {p : Prog session ε α} (hp : p.Only Op.Unnoted)
    (h : Noted past reads changes worst tallies) :
    wp W (fun _ _ => True) p (fun _ past _ => Noted past reads changes worst tallies)
      (fun _ past _ => Noted past reads changes worst tallies) past state :=
  wp_of_only hp keeps_noted (fun _ _ _ h => h) h

/-- A read of the dead tuples. -/
theorem wp_dead_tuples (h : Noted past reads changes worst tallies) :
    wp W (fun _ _ => True) (query (.getDeadTupleCount table))
      (fun n past _ => Noted past (reads ++ [n]) changes worst tallies)
      (fun _ past _ => Noted past reads changes worst tallies) past state := by
  refine wp_query.2 (wp_call.2 ?_)
  intro now _ answer after _
  refine ⟨trivial, ?_⟩
  have hnext := h.next ⟨now, .call (.getDeadTupleCount table), answer⟩
  cases answer with
  | ok n =>
      simpa [Moment.deadTuples, Moment.change, Moment.worstBlocker, Moment.tallied] using hnext
  | error err =>
      simpa [Moment.deadTuples, Moment.change, Moment.worstBlocker, Moment.tallied] using hnext

/-- A VACUUM reads the dead tuples before and after, and makes its figure of the two. -/
theorem wp_vacuum_reads (options : VacuumOptions) (h : Noted past reads [] [] []) :
    wp W (fun _ _ => True) (vacuumTable options table)
      (fun result past _ => ∃ before after, Noted past (reads ++ [before, after]) [] [] [] ∧
        result.deadTuplesReducedApprox = estimateDeadTuplesReduced before after)
      (fun _ past _ => ∃ reads, Noted past reads [] [] []) past state := by
  refine wp_seq (wp_mono (wp_dead_tuples h) (fun _ _ _ h => h) fun _ _ _ h => ⟨_, h⟩) ?_
  intro before past state h
  have hstatement : (query (.maintain (.vacuum options) table)).Only Op.Unnoted := by
    simp
  refine wp_seq (wp_mono (wp_noted hstatement h) (fun _ _ _ h => h) fun _ _ _ h => ⟨_, h⟩) ?_
  intro _ past state h
  refine wp_seq (wp_mono (wp_dead_tuples h) (fun _ _ _ h => h) fun _ _ _ h => ⟨_, h⟩) ?_
  intro after past state h
  rw [List.append_assoc] at h
  exact ⟨before, after, h, rfl⟩

/-- So do the retries, in the last attempt. By induction on the retries left. -/
theorem wp_retry_reads (options : VacuumOptions) (left delayMs : Nat)
    (h : Noted past reads [] [] []) :
    wp W (fun _ _ => True) (retryLoop (vacuumTable options table) left delayMs)
      (fun result past _ => ∃ earlier before after,
        Noted past (earlier ++ [before, after]) [] [] [] ∧
        result.deadTuplesReducedApprox = estimateDeadTuplesReduced before after)
      (fun _ past _ => ∃ reads, Noted past reads [] [] []) past state := by
  have hattempt : ∀ {past state reads}, Noted past reads [] [] [] →
      wp W (fun _ _ => True) (vacuumTable options table)
        (fun result past _ => ∃ earlier before after,
          Noted past (earlier ++ [before, after]) [] [] [] ∧
          result.deadTuplesReducedApprox = estimateDeadTuplesReduced before after)
        (fun _ past _ => ∃ reads, Noted past reads [] [] []) past state :=
    fun h => wp_mono (wp_vacuum_reads options h) (fun _ _ _ h => ⟨_, h⟩) fun _ _ _ h => h
  induction left generalizing delayMs past state reads with
  | zero => exact hattempt h
  | succ left ih =>
      refine wp_seq_attempt (hattempt h) (fun _ _ _ h => h) ?_
      intro err past state h
      refine wp_ite.2 ⟨fun _ => h, fun _ => ?_⟩
      obtain ⟨reads, h⟩ := h
      refine wp_seq (wp_mono (wp_noted (by simp) h) (fun _ _ _ h => h)
        fun _ _ _ h => ⟨_, h⟩) fun requested past state h => ?_
      refine wp_ite.2 ⟨fun _ => ⟨_, h⟩, fun _ => ?_⟩
      refine wp_seq (wp_mono (wp_noted (by simp) h) (fun _ _ _ h => h)
        fun _ _ _ h => ⟨_, h⟩) fun wake past state h => ?_
      cases wake with
      | shutdown => exact ⟨_, h⟩
      | slept => exact ih _ h

/-- The blocker that a warning is to name: where the policy asks for it, the one in the first row. -/
def blockerNamed (policy : RunPolicy) (worst : List XminHorizonBlocker) : Option String :=
  if policy.checkXminHorizon then worst.head?.map describeXminBlocker else none

/-- What is logged about a figure. -/
def reportedChanges (policy : RunPolicy) (table : TableKey) (figure : Option Int)
    (worst : List XminHorizonBlocker) : List (String × TableKey × Int × Option String) :=
  match figure with
  | none => []
  | some n => [("VACUUM", table, n, if n = 0 then blockerNamed policy worst else none)]

/-- The first row is described. -/
theorem wp_describe_noted (h : Noted past reads [] [] tallies) :
    wp W (fun _ _ => True) describeWorstXminBlocker
      (fun blocker past _ => ∃ worst, Noted past reads [] worst tallies ∧
        blocker = worst.head?.map describeXminBlocker)
      (fun _ past _ => Noted past reads [] [] tallies) past state := by
  have hobserve : wp W (fun _ _ => True) observeXminHorizon
      (fun observation past _ => ∃ worst, Noted past reads [] worst tallies ∧
        ((observation = .unobservable ∨ observation = .observed []) ∧ worst = [] ∨
          ∃ first rest, observation = .observed (first :: rest) ∧ worst = [first]))
      (fun _ past _ => Noted past reads [] [] tallies) past state := by
    refine wp_seq (wp_noted (by simp) h) fun canRead past state h => ?_
    refine wp_ite.2 ⟨fun _ => ⟨[], h, .inl ⟨.inl rfl, rfl⟩⟩, fun _ => ?_⟩
    refine wp_bind.2 (wp_queryContext.2 (wp_call.2 ?_))
    intro now _ answer after _
    refine ⟨trivial, ?_⟩
    have hnext := h.next ⟨now, .call .findXminHorizonBlockers, answer⟩
    cases answer with
    | error err =>
        simpa [Moment.deadTuples, Moment.change, Moment.worstBlocker, Moment.tallied] using hnext
    | ok rows =>
        -- of the blockers only the first is noted
        cases rows with
        | nil =>
            refine ⟨[], ?_, .inl ⟨.inr rfl, rfl⟩⟩
            simpa [Moment.deadTuples, Moment.change, Moment.worstBlocker, Moment.tallied] using hnext
        | cons first rest =>
            refine ⟨[first], ?_, .inr ⟨first, rest, rfl, rfl⟩⟩
            simpa [Moment.deadTuples, Moment.change, Moment.worstBlocker, Moment.tallied] using hnext
  refine wp_seq hobserve fun observation past state h => ?_
  obtain ⟨worst, h, hworst⟩ := h
  obtain ⟨rfl | rfl, rfl⟩ | ⟨first, rest, rfl, rfl⟩ := hworst
  · exact ⟨[], h, rfl⟩
  · exact ⟨[], h, rfl⟩
  · exact ⟨[first], h, rfl⟩

/-- A change is logged. -/
theorem wp_change_noted {operation : String} {reduced : Int} {blockedBy : Option String}
    {E : AnyError → Trace W → W.State → Prop} (h : Noted past reads changes worst tallies) :
    wp W (fun _ _ => True)
      (log (.deadTupleChange operation table reduced blockedBy) : RunM Unit)
      (fun _ past _ => Noted past reads (changes ++ [(operation, table, reduced, blockedBy)]) worst
        tallies) E past state := by
  intro now _ answer after _
  have hnext := h.next ⟨now, .log (.deadTupleChange operation table reduced blockedBy), answer⟩
  refine ⟨trivial, ?_⟩
  simpa [Moment.deadTuples, Moment.change, Moment.worstBlocker, Moment.tallied] using hnext

/-- A table is counted. -/
theorem wp_tally_noted {tally : Tally} {E : AnyError → Trace W → W.State → Prop}
    (h : Noted past reads changes worst []) :
    wp W (fun _ _ => True) (mark (.tally table tally) : RunM Unit)
      (fun _ past _ => Noted past reads changes worst [tally]) E past state := by
  intro now _ answer after _
  have hnext := h.next ⟨now, .mark (.tally table tally), answer⟩
  refine ⟨trivial, ?_⟩
  simpa [Moment.deadTuples, Moment.change, Moment.worstBlocker, Moment.tallied] using hnext

/-- What the two runners report about a figure. -/
theorem wp_report_noted {policy : RunPolicy} (result : OperationResult)
    (h : Noted past reads [] [] []) :
    wp W (fun _ _ => True) (reportChangeOrBlocker policy table result)
      (fun _ past _ => ∃ worst, Noted past reads
        (reportedChanges policy table result.deadTuplesReducedApprox worst) worst [])
      (fun _ _ _ => True) past state := by
  unfold reportChangeOrBlocker
  cases hfigure : result.deadTuplesReducedApprox with
  | none => exact ⟨[], h⟩
  | some n =>
      refine wp_ite.2 ⟨fun hzero => wp_ite.2 ⟨fun hcheck => ?_, fun hcheck => ?_⟩, fun hzero => ?_⟩
      · have hchanges : ∀ {worst : List XminHorizonBlocker} {blocker : Option String},
            worst.head?.map describeXminBlocker = blocker →
            reportedChanges policy table (some n) worst = [("VACUUM", table, n, blocker)] := by
          intro worst blocker hblocker
          rw [reportedChanges, if_pos hzero, blockerNamed, if_pos hcheck, hblocker]
        refine wp_seq_attempt (wp_describe_noted h) ?_ ?_
        · intro blocker past state h
          obtain ⟨worst, h, hblocker⟩ := h
          cases blocker with
          | none =>
              refine wp_mono (wp_change_noted h) ?_ fun _ _ _ h => h
              intro _ past _ h
              refine ⟨worst, ?_⟩
              rwa [hchanges hblocker.symm]
          | some description =>
              refine wp_mono (wp_change_noted h) ?_ fun _ _ _ h => h
              intro _ past _ h
              refine ⟨worst, ?_⟩
              rwa [hchanges hblocker.symm]
        · -- the diagnostics failed, and the change is reported without a blocker
          intro err past state h
          refine wp_mono (wp_change_noted h) ?_ fun _ _ _ h => h
          intro _ past _ h
          refine ⟨[], ?_⟩
          rwa [hchanges rfl]
      · refine wp_mono (wp_change_noted h) ?_ fun _ _ _ h => h
        intro _ past _ h
        refine ⟨[], ?_⟩
        rwa [reportedChanges, if_pos hzero, blockerNamed, if_neg hcheck]
      · refine wp_mono (wp_change_noted h) ?_ fun _ _ _ h => h
        intro _ past _ h
        refine ⟨[], ?_⟩
        rwa [reportedChanges, if_neg hzero]

end Notes

/-! ## A pass of the two runners -/

section Pass

attribute [local simp] Op.Unnoted

variable {W : World session} {past : Trace W} {state : W.State} {table : TableKey}
  {policy : RunPolicy} {summary : OperationSummary} {reads : List Int}
  {changes : List (String × TableKey × Int × Option String)} {worst : List XminHorizonBlocker}

/-- A table that succeeded was read before and after, and what was logged is what its figure asks
for. -/
def FigureReported (policy : RunPolicy) (table : TableKey) (past : Trace W) : Prop :=
  past.filterMap Moment.tallied = [.succeeded] → ∃ earlier before after worst,
    Noted past (earlier ++ [before, after])
      (reportedChanges policy table (estimateDeadTuplesReduced before after) worst) worst
      [.succeeded]

/-- Operations that count no table as succeeded. -/
def Op.NoSuccess : Op → Prop
  | .mark (.tally _ .succeeded) => False
  | _ => True

attribute [local simp] Op.NoSuccess

/-- A table is counted as succeeded behind the two reads, and what was logged by then is what the
figure made of them asks for. -/
def ToldFirst (policy : RunPolicy) (table : TableKey) (past : Trace W) (m : Moment W) : Prop :=
  ∀ counted, m.op = .mark (.tally counted .succeeded) →
    counted = table ∧ ∃ earlier before after worst,
      Noted past (earlier ++ [before, after])
        (reportedChanges policy table (estimateDeadTuplesReduced before after) worst) worst []

/-- No success is counted, so nothing has to be told before. -/
theorem told_of_no_success {m : Moment W} (h : m.op.NoSuccess) : ToldFirst policy table past m := by
  intro counted hcounted
  rw [hcounted] at h
  exact h.elim

/-- A report counts no success. -/
theorem no_success_admits_report : Op.AdmitsReport Op.NoSuccess :=
  ⟨fun _ _ _ _ => trivial, trivial, trivial⟩

/-- What is not noted counts nothing. -/
theorem Op.Unnoted.no_success {op : Op} (h : op.Unnoted) : op.NoSuccess := by
  cases op with
  | mark mark => cases mark <;> first | exact h.elim | trivial
  | _ => trivial

/-- Where no table is counted as succeeded, nothing has to be told. -/
theorem wp_told {ε α : Type} {p : Prog session ε α} {Q : α → Trace W → W.State → Prop}
    {E : ε → Trace W → W.State → Prop} (hp : p.Only Op.NoSuccess)
    (h : wp W (fun _ _ => True) p Q E past state) :
    wp W (ToldFirst policy table) p Q E past state :=
  wp_safe hp h fun _ _ => told_of_no_success

/-- Nor where nothing is to be noted. -/
theorem wp_unnoted {ε α : Type} {p : Prog session ε α} (hp : p.Only Op.Unnoted)
    (h : Noted past reads changes worst []) :
    wp W (ToldFirst policy table) p (fun _ past _ => Noted past reads changes worst [])
      (fun _ _ _ => True) past state :=
  wp_mono (wp_told (hp.mono (fun _ h => h.no_success) (fun _ h => h) fun _ h => h)
    (wp_noted hp h)) (fun _ _ _ h => h)
    fun _ _ _ _ => trivial

/-- A table that was not counted as succeeded. -/
theorem Noted.reported {tallies : List Tally} (h : Noted past reads changes worst tallies)
    (htallies : tallies ≠ [.succeeded]) : FigureReported policy table past := by
  intro hsucceeded
  rw [h.tallies] at hsucceeded
  exact absurd hsucceeded htallies

/-- The gates are not noted. -/
theorem Op.Gating.unnoted {op : Op} (h : op.Gating) : op.Unnoted := by
  cases op with
  | call c => cases c <;> trivial
  | log line => cases line <;> trivial
  | mark mark => exact h.elim
  | _ => trivial

/-- Through the gates nothing is noted of the table. -/
theorem keeps_gates :
    W.Keeps (ToldFirst policy table) Op.Deaf fun past _ => Noted past [] [] [] [] :=
  fun _ _ _ h _ _ _ _ hop _ =>
    ⟨told_of_no_success hop.gating.unnoted.no_success, h.keep hop.gating.unnoted⟩

/-- The gates note nothing. -/
theorem pass_rules_noted : PassRules W (ToldFirst policy table)
    (fun past _ => Noted past [] [] [] []) (fun past _ => Noted past [] [] [] [])
    (fun _ _ _ => True) where
  aside := keeps_gates
  stopped := keeps_gates
  sleep := by
    intro nanoseconds past state h now _ wake after _
    refine ⟨told_of_no_success trivial, ?_⟩
    have hnext := h.keep (m := ⟨now, .sleepOrShutdown nanoseconds, wake⟩) trivial
    cases wake with
    | shutdown => exact hnext
    | slept => exact hnext
  err _ _ _ _ _ := trivial

/-- A table that is skipped. -/
theorem skip_reported (reason : SkipReason) (h : Noted past reads changes worst []) :
    wp W (ToldFirst policy table) (skipTable summary table reason)
      (fun _ past _ => Noted past reads changes worst [.skipped reason]) (fun _ _ _ => True) past
      state :=
  wp_told (by simp [skipTable]) (wp_seq (wp_tally_noted h) fun _ _ _ h => h)

/-- A table that failed, for good or because of its lock timeouts. -/
theorem record_failure_reported {r : Runner} (err : PgError) (durationMs : Int)
    (h : Noted past reads [] [] []) :
    wp W (ToldFirst policy table) (recordFailure r policy summary table err durationMs)
      (fun _ past _ => FigureReported policy table past) (fun _ _ _ => True) past state := by
  refine wp_ite.2 ⟨fun _ => ?_, fun _ => ?_⟩
  · exact wp_seq (skip_reported _ h) fun _ _ _ h => h.reported (by decide)
  · refine wp_seq (wp_unnoted (by simp [logMaintenanceOperation]) h) fun _ past state h => ?_
    exact wp_seq (wp_told (by simp) (wp_tally_noted h)) fun _ _ _ h => h.reported (by decide)

/-- A table that was interrupted. -/
theorem handle_shutdown_interrupt_reported {r : Runner} (durationMs : Int)
    (h : Noted past reads [] [] []) :
    wp W (ToldFirst policy table) (handleShutdownInterrupt r policy summary table durationMs)
      (fun _ past _ => FigureReported policy table past) (fun _ _ _ => True) past state := by
  have hskipped : ([.skipped .interrupted] : List Tally) ≠ [.succeeded] := by decide
  refine wp_seq (skip_reported _ h) fun _ past state h => ?_
  refine wp_told (by simp [logMaintenanceOperation]) ?_
  refine wp_seq (wp_mono (wp_noted (by simp) h) (fun _ _ _ h => h) fun _ _ _ _ => trivial) ?_
  intro closed past state h
  refine wp_ite.2 ⟨fun _ => h.reported hskipped, fun _ => ?_⟩
  have hlog : ∀ row, (logMaintenanceOperation policy.dryRun row).Only Op.Unnoted := by
    intro row
    simp [logMaintenanceOperation]
  exact wp_seq (wp_mono (wp_noted (hlog _) h) (fun _ _ _ h => h) fun _ _ _ _ => trivial)
    fun _ _ _ h => h.reported hskipped

/-- The statement of a table, with its retries. -/
theorem retry_reported (options : VacuumOptions) (h : Noted past [] [] [] []) :
    wp W (ToldFirst policy table) (withLockTimeoutRetry policy (vacuumTable options table))
      (fun result past _ => ∃ earlier before after,
        Noted past (earlier ++ [before, after]) [] [] [] ∧
        result.deadTuplesReducedApprox = estimateDeadTuplesReduced before after)
      (fun _ past _ => ∃ reads, Noted past reads [] [] []) past state := by
  have hvacuum : (vacuumTable options table).Only Op.NoSuccess := by
    simp [vacuumTable, betweenDeadTupleCounts]
  exact wp_told (retry_loop_only hvacuum trivial (fun _ => trivial) _ _)
    (wp_retry_reads options _ _ h)

/-- A table that succeeded: what is reported comes first, then its row, and then it is counted. -/
theorem record_success_reported {r : Runner} {options : VacuumOptions}
    (hr : r.Of (.vacuum options)) (hreport : r.report = reportChangeOrBlocker policy)
    (result : OperationResult) (durationMs : Int) {earlier : List Int} {before after : Int}
    (h : Noted past (earlier ++ [before, after]) [] [] [])
    (hfigure : result.deadTuplesReducedApprox = estimateDeadTuplesReduced before after) :
    wp W (ToldFirst policy table) (recordSuccess r policy summary table result durationMs)
      (fun _ past _ => FigureReported policy table past) (fun _ _ _ => True) past state := by
  have hreported : wp W (ToldFirst policy table) (r.report table result)
      (fun _ past _ => ∃ worst, Noted past (earlier ++ [before, after])
        (reportedChanges policy table (estimateDeadTuplesReduced before after) worst) worst [])
      (fun _ _ _ => True) past state := by
    have honly : (r.report table result).Only Op.NoSuccess :=
      (hr.report no_success_admits_report table result).mono (fun _ h => h) (fun _ h => h)
        fun _ _ => trivial
    refine wp_told honly ?_
    rw [hreport, ← hfigure]
    exact wp_report_noted result h
  refine wp_seq hreported fun _ past state h => ?_
  obtain ⟨worst, h⟩ := h
  refine wp_seq (wp_unnoted (by simp [logMaintenanceOperation]) h) fun _ past state h => ?_
  have hcounted : wp W (fun _ _ => True) (mark (.tally table .succeeded) : RunM Unit)
      (fun _ past _ => FigureReported policy table past) (fun _ _ _ => True) past state :=
    wp_mono (wp_tally_noted h) (fun _ _ _ h _ => ⟨earlier, before, after, worst, h⟩)
      fun _ _ _ h => h
  refine wp_seq (R := fun _ past _ => FigureReported policy table past) ?_ fun _ _ _ h => h
  intro now hnow answer later hanswer
  refine ⟨fun counted heq => ?_, (hcounted now hnow answer later hanswer).2⟩
  cases heq
  exact ⟨rfl, earlier, before, after, worst, h⟩

/-- A table whose turn it is. -/
theorem maintain_table_reported {r : Runner} {options : VacuumOptions}
    (hr : r.Of (.vacuum options)) (hreport : r.report = reportChangeOrBlocker policy)
    (count i : Nat)
    (h : Noted past [] [] [] []) :
    wp W (ToldFirst policy table) (maintainTable r policy count i table summary)
      (fun _ past _ => FigureReported policy table past) (fun _ _ _ => True) past state := by
  refine wp_ite.2 ⟨fun _ => ?_, fun _ => ?_⟩
  · exact wp_seq (wp_unnoted (by simp) h) fun _ _ _ h => h.reported (by decide)
  refine wp_seq (wp_unnoted (by simp) h) fun start past state h => ?_
  have hretry : wp W (ToldFirst policy table) (withLockTimeoutRetry policy (r.operation table))
      (fun result past _ => ∃ earlier before after,
        Noted past (earlier ++ [before, after]) [] [] [] ∧
        result.deadTuplesReducedApprox = estimateDeadTuplesReduced before after)
      (fun _ past _ => ∃ reads, Noted past reads [] [] []) past state := by
    rw [hr.operation]
    exact retry_reported options h
  refine wp_seq_attempt hretry ?_ ?_
  · intro result past state h
    obtain ⟨earlier, before, after, h, hfigure⟩ := h
    refine wp_seq (wp_unnoted (by simp) h) fun time past state h => ?_
    exact record_success_reported hr hreport result _ h hfigure
  · intro err past state h
    obtain ⟨reads, h⟩ := h
    refine wp_seq (wp_unnoted (by simp) h) fun time past state h => ?_
    refine wp_seq (wp_unnoted (by simp) h) fun requested past state h => ?_
    cases classifyOpError err requested with
    | connectionLost =>
        have hfails : (connectionLostError r.name table (some (i + 1, count))
            (describePgError err)).Only Op.NoSuccess := by
          simp [connectionLostError]
        exact wp_seq (R := fun _ _ _ => True) (wp_told hfails wp_true) fun _ _ _ _ => trivial
    | shutdownInterrupted =>
        exact wp_seq (handle_shutdown_interrupt_reported _ h) fun _ _ _ h => h
    | lockTimeout => exact record_failure_reported err _ h
    | other => exact record_failure_reported err _ h

/-- A pass of the two runners, by itself. -/
theorem gated_pass_reported {r : Runner} {options : VacuumOptions}
    (hr : r.Of (.vacuum options)) (hreport : r.report = reportChangeOrBlocker policy)
    (gate : Option ReplicaLagGate) (already : Option (List TableKey)) (count i : Nat) :
    wp W (ToldFirst policy table) (gatedPass r policy gate already count i table summary)
      (fun _ past _ => FigureReported policy table past) (fun _ _ _ => True) [] state := by
  refine pass_rules_noted.gated_pass (J := fun past _ => Noted past [] [] [] []) keeps_gates
    (fun _ _ _ _ _ => trivial) ?_ (fun _ _ h => h.reported (by decide)) ?_ ?_
    (fun _ _ h _ _ => maintain_table_reported hr hreport count i h) gate
  · intro past state h now _ requested after _
    have hnext := h.keep (m := ⟨now, .shutdownRequested, requested⟩) trivial
    refine ⟨told_of_no_success trivial, ?_⟩
    cases requested with
    | true => exact hnext
    | false => exact hnext
  · intro reason past state h _
    exact wp_mono (skip_reported reason h)
      (fun _ _ _ h => h.reported fun heq => by cases heq) fun _ _ _ h => h
  · have hnothing : Noted ([] : Trace W) [] [] [] [] := ⟨rfl, rfl, rfl, rfl⟩
    exact wp_unnoted (by simp) hnothing

/-! ### Where a pass stands -/

/-- The loop turned to a table, and to no other since. -/
def InVisit (table : TableKey) (past : Trace W) : Prop :=
  ∃ v : Visit W, past = v.trace ∧ v.table = table

/-- A visit goes on until the next table's turn. -/
theorem InVisit.next {m : Moment W} (h : InVisit table past) (hm : Moment.turns m = false) :
    InVisit table (past ++ [m]) := by
  obtain ⟨v, rfl, htable⟩ := h
  exact ⟨v.append m hm, rfl, htable⟩

/-- Operations that turn to no table. -/
def Op.Stays : Op → Prop
  | .mark (.visit _) => False
  | _ => True

/-- What happens around a statement stays in the visit. -/
theorem Op.Record.stays {op : Op} (h : op.Record) : op.Stays := by
  unfold Op.Stays
  split
  · exact h.elim
  · trivial

/-- What stays is no turn. -/
theorem Op.Stays.turns {m : Moment W} (h : m.op.Stays) : Moment.turns m = false := by
  unfold Moment.turns
  split
  · simp_all [Op.Stays]
  · rfl

/-- A table is counted as succeeded in its visit. -/
def CountsInVisit (table : TableKey) (past : Trace W) (m : Moment W) : Prop :=
  m.op.NoSuccess ∨ InVisit table past

/-- A stretch without a turn stays in the visit. -/
theorem keeps_in_visit {φ : Op → Prop} (hφ : ∀ m : Moment W, φ m.op → Moment.turns m = false) :
    W.Keeps (CountsInVisit table) φ fun past _ => InVisit table past :=
  fun _ _ _ h _ op answer _ hop _ => ⟨.inr h, h.next (hφ ⟨_, op, answer⟩ hop)⟩

/-- The gates stay in the visit. -/
theorem deaf_stays (m : Moment W) (h : m.op.Deaf) : Moment.turns m = false :=
  (gating_plain h.gating).1

/-- The rules of a pass, for an invariant that the gates do not touch. -/
theorem pass_rules_in_visit : PassRules W (CountsInVisit table)
    (fun past _ => InVisit table past) (fun past _ => InVisit table past) (fun _ _ _ => True) where
  aside := keeps_in_visit deaf_stays
  stopped := keeps_in_visit deaf_stays
  sleep := by
    intro nanoseconds past state h now _ wake after _
    refine ⟨.inr h, ?_⟩
    have hnext := h.next (m := ⟨now, .sleepOrShutdown nanoseconds, wake⟩) rfl
    cases wake with
    | shutdown => exact hnext
    | slept => exact hnext
  err _ _ _ _ _ := trivial

/-- A pass counts its table in its visit. -/
theorem gated_pass_in_visit {r : Runner} {statement : Statement} (hr : r.Performs statement)
    (gate : Option ReplicaLagGate) (already : Option (List TableKey)) (count i : Nat) :
    wp W (CountsInVisit table) (gatedPass r policy gate already count i table summary)
      (fun _ _ _ => True) (fun _ _ _ => True) [] state := by
  refine pass_rules_in_visit.gated_pass (J := fun past _ => InVisit table past)
    (keeps_in_visit deaf_stays) (fun _ _ _ _ _ => trivial) ?_ (fun _ _ _ => trivial) ?_ ?_ ?_ gate
  · intro past state h now _ requested after _
    have hnext := h.next (m := ⟨now, .shutdownRequested, requested⟩) rfl
    refine ⟨.inr h, ?_⟩
    cases requested with
    | true => exact hnext
    | false => exact hnext
  · intro reason past state h _
    have hskip : (skipTable summary table reason).Only Op.NoSuccess := by simp [skipTable]
    exact wp_safe hskip wp_true fun _ _ => .inl
  · intro now _ answer after _
    exact ⟨.inl trivial, ⟨table, ⟨now, .mark (.visit table), answer⟩, [], rfl, by simp⟩, rfl, rfl⟩
  · intro past state h _ _
    have hmaintain : (maintainTable r policy count i table summary).Only Op.Stays :=
      maintain_table_only hr (fun _ => Op.Record.stays) trivial trivial count i
    exact wp_mono (wp_of_only hmaintain (keeps_in_visit fun _ => Op.Stays.turns)
      (fun _ _ _ h => h) h) (fun _ _ _ _ => trivial) fun _ _ _ _ => trivial

end Pass

/-! ## The two runners -/

/-- The runners that say which blocker keeps a VACUUM from removing anything. -/
inductive WarningRunner : Phase → List TableKey → (RunPolicy → RunM OperationSummary) → Prop where
  | preventBloat (tables : List BloatTableInfo) (handled : List TableKey)
      (options : VacuumOptions) (gate : Option ReplicaLagGate) :
      WarningRunner .preventBloat (tables.map BloatTableInfo.key) fun policy =>
        runBloatVacuum tables policy handled options gate
  | needsVacuum (tables : List NeedsVacuumTableInfo) (vacuumed : List TableKey)
      (options : VacuumOptions) (gate : Option ReplicaLagGate) :
      WarningRunner .needsVacuum (tables.map NeedsVacuumTableInfo.key) fun policy =>
        runNeedsVacuum tables policy vacuumed options gate

/-- The dead tuples that were read in the visit. -/
def Visit.reads {W : World session} (v : Visit W) : List Int :=
  v.trace.filterMap Moment.deadTuples

/-- The warning that the dead tuples did not decrease was logged, with the blocker that was
observed if the policy asks for it. -/
def Visit.Warned {W : World session} (policy : RunPolicy) (v : Visit W) : Prop :=
  ("VACUUM", v.table, 0, blockerNamed policy (v.trace.filterMap Moment.worstBlocker)) ∈
    v.trace.filterMap Moment.change

/-- What was noted in a visit says whether it was warned. -/
theorem Noted.warned {W : World session} {v : Visit W} {policy : RunPolicy} {reads : List Int}
    {figure : Option Int} {worst : List XminHorizonBlocker} {tallies : List Tally}
    (h : Noted v.trace reads (reportedChanges policy v.table figure worst) worst tallies) :
    v.Warned policy ↔ figure = some 0 := by
  rw [Visit.Warned, h.changes, h.worst]
  cases figure with
  | none => simp [reportedChanges]
  | some n =>
      by_cases hzero : n = 0
      · simp [reportedChanges, hzero]
      · simp [reportedChanges, hzero, Ne.symm hzero]

/-- A visit of the two runners that succeeded has two last reads, and it is warned of it exactly
where the figure made of them is zero. -/
theorem warned_iff {W : World session} {v : Visit W} {r : Runner} {policy : RunPolicy}
    {options : VacuumOptions} (hr : r.Of (.vacuum options))
    (hreport : r.report = reportChangeOrBlocker policy) {gate : Option ReplicaLagGate}
    {already : Option (List TableKey)} {count : Nat}
    (hof : v.Of (gatedPass r policy gate already count)) (hcounted : v.counted = [.succeeded]) :
    ∃ earlier before after, v.reads = earlier ++ [before, after] ∧
      (v.Warned policy ↔ estimateDeadTuplesReduced before after = some 0) := by
  obtain ⟨i, summary, start, last, flow, hexec⟩ := hof
  obtain ⟨_, -, hreported⟩ :=
    hexec.returned (gated_pass_reported hr hreport gate already count i)
  have htallied : v.trace.filterMap Moment.tallied = [.succeeded] := by
    have hfirst : Moment.tallied v.first = none := by
      rw [Moment.tallied, v.turns]
    rw [Visit.trace, List.filterMap_cons_none hfirst]
    exact hcounted
  obtain ⟨earlier, before, after, worst, hnoted⟩ := hreported htallied
  exact ⟨earlier, before, after, hnoted.reads, hnoted.warned⟩

/-- Where a table is counted as succeeded, its visit so far has two last reads, and it was warned of
it exactly where the figure made of them is zero. -/
def CountedWarned {W : World session} (policy : RunPolicy) (tables : List TableKey) (past : Trace W)
    (m : Moment W) : Prop :=
  ∀ table, m.op = .mark (.tally table .succeeded) → table ∈ tables ∧
    ∃ front, ∃ v : Visit W, past = front ++ v.trace ∧ v.table = table ∧
      ∃ earlier before after, v.reads = earlier ++ [before, after] ∧
        (v.Warned policy ↔ estimateDeadTuplesReduced before after = some 0)

/-- So it is all along a run of the two runners: by its passes, each behind what was done before. -/
theorem loop_counts_warned {W : World session} {r : Runner} {policy : RunPolicy} {phase : Phase}
    {options : VacuumOptions} (hr : r.Of (.vacuum options))
    (hreport : r.report = reportChangeOrBlocker policy) (gate : Option ReplicaLagGate)
    (already : Option (List TableKey)) (count : Nat) (tables : List TableKey) (state : W.State) :
    wp W (CountedWarned policy tables) (runTables phase (gatedPass r policy gate already count)
      tables) (fun _ _ _ => True) (fun _ _ _ => True) [] state := by
  refine wp_seq (R := fun _ _ _ => True) ?_ fun _ past state _ => ?_
  · intro now _ answer after _
    exact ⟨fun table hcounted => (by cases hcounted), trivial⟩
  refine wp_mono (wp_sweep (I := fun _ _ _ _ => True) (D := fun _ _ _ => True) ?_ trivial)
    (fun _ _ _ _ => trivial) fun _ _ _ h => h
  intro done table rest htables i summary past state _
  have hpass : wp W (CountedWarned policy tables)
      (gatedPass r policy gate already count i table summary) (fun _ _ _ => True)
      (fun _ _ _ => True) (past ++ []) state := by
    refine wp_shift (wp_weaken (wp_and_safe (gated_pass_in_visit hr.performs gate already count i)
      (wp_mono (gated_pass_reported hr hreport gate already count i) (fun _ _ _ _ => trivial)
        fun _ _ _ _ => trivial)) fun work m h => ?_)
    obtain ⟨hvisit, htold⟩ := h
    intro counted hcounted
    obtain ⟨rfl, earlier, before, after, worst, hnoted⟩ := htold counted hcounted
    obtain hno | ⟨v, rfl, rfl⟩ := hvisit
    · rw [hcounted] at hno
      exact hno.elim
    refine ⟨?_, past, v, rfl, rfl, earlier, before, after, hnoted.reads, hnoted.warned⟩
    rw [htables]
    exact List.mem_append_right _ List.mem_cons_self
  rw [List.append_nil] at hpass
  exact wp_mono hpass (fun flow _ _ _ => by cases flow <;> trivial) fun _ _ _ h => h

/-- In a run of the loop that returns, the visits that succeeded warned of what did not shrink. -/
theorem loop_visits_warned {W : World session} {policy : RunPolicy} {phase : Phase} {r : Runner}
    {options : VacuumOptions} {gate : Option ReplicaLagGate} {already : Option (List TableKey)}
    {count : Nat} {tables : List TableKey} {start last : W.State} {tr : Trace W}
    {summary : OperationSummary} (hreal : policy.dryRun = false) (hr : r.Of (.vacuum options))
    (hreport : r.report = reportChangeOrBlocker policy)
    (hexec : Exec W start (runTables phase (gatedPass r policy gate already count) tables) tr last
      (.pure summary)) :
    ∃ visits, Account phase tables summary visits tr ∧
      ∀ v ∈ visits, v.counted = [.succeeded] →
        ∃ earlier before after, v.reads = earlier ++ [before, after] ∧
          (0 < before → before ≤ after → (v.Warned policy ↔ DidNotGrow before after)) := by
  obtain ⟨_, -, visits, haccount, hof⟩ := hexec.returned
    (wp_account fun i table summary state => gated_pass_settles hreal hr gate already count i
      table state)
  refine ⟨visits, haccount, fun v hv hcounted => ?_⟩
  obtain ⟨earlier, before, after, hreads, hwarned⟩ := warned_iff hr hreport (hof v hv) hcounted
  refine ⟨earlier, before, after, hreads, fun hbefore hle => ?_⟩
  rw [hwarned]
  exact estimate_eq_zero_iff hbefore hle

/-- The figure of `vacuum_table` is the promised one if and only if there were no dead tuples before
or the estimate did not grow. In the two runners that warn of an ineffective VACUUM, a table that
succeeded without a decrease is warned of under the same condition: in every visit of a run that
returns, and in any execution whenever a table is counted as succeeded. -/
theorem ineffective_vacuum_reported {W : World session} :
    (∀ (options : VacuumOptions) (table : TableKey) (start last : W.State) (tr : Trace W)
      (result : OperationResult),
      Exec W start (vacuumTable options table) tr last (.pure result) →
        ∃ before after, tr.filterMap Moment.deadTuples = [before, after] ∧
          (Readings before after →
            (result.deadTuplesReducedApprox = promisedFigure before after ↔
              before = 0 ∨ DidNotGrow before after))) ∧
      (∀ (policy : RunPolicy) (phase : Phase) (tables : List TableKey)
        (runner : RunPolicy → RunM OperationSummary) (start last : W.State) (tr : Trace W)
        (summary : OperationSummary),
        policy.dryRun = false → WarningRunner phase tables runner →
        Exec W start (runner policy) tr last (.pure summary) →
          ∃ visits, Account phase tables summary visits tr ∧
            ∀ v ∈ visits, v.counted = [.succeeded] →
              ∃ earlier before after, v.reads = earlier ++ [before, after] ∧
                (0 < before → before ≤ after → (v.Warned policy ↔ DidNotGrow before after))) ∧
      ∀ (policy : RunPolicy) (phase : Phase) (tables : List TableKey)
        (runner : RunPolicy → RunM OperationSummary) (start last : W.State)
        (done later : Trace W) (now : Moment W) (q : RunM OperationSummary) (table : TableKey),
        WarningRunner phase tables runner →
        Exec W start (runner policy) (done ++ now :: later) last q →
        now.op = .mark (.tally table .succeeded) → table ∈ tables ∧
          ∃ front, ∃ v : Visit W, done = front ++ v.trace ∧ v.table = table ∧
            ∃ earlier before after, v.reads = earlier ++ [before, after] ∧
              (0 < before → before ≤ after → (v.Warned policy ↔ DidNotGrow before after)) := by
  refine ⟨?_, ?_, ?_⟩
  · intro options table start last tr result hexec
    have hnothing : Noted ([] : Trace W) [] [] [] [] := ⟨rfl, rfl, rfl, rfl⟩
    obtain ⟨_, -, before, after, hnoted, hfigure⟩ :=
      hexec.returned (wp_vacuum_reads options hnothing)
    refine ⟨before, after, hnoted.reads, fun hreadings => ?_⟩
    rw [hfigure]
    exact estimate_eq_promised_iff hreadings
  · intro policy phase tables runner start last tr summary hreal hrunner hexec
    cases hrunner with
    | preventBloat tables handled options gate =>
        exact loop_visits_warned hreal ⟨rfl, fun hφ => hφ.report_change_or_blocker policy⟩ rfl hexec
    | needsVacuum tables vacuumed options gate =>
        exact loop_visits_warned hreal ⟨rfl, fun hφ => hφ.report_change_or_blocker policy⟩ rfl hexec
  · intro policy phase tables runner start last done later now q table hrunner hexec hcounted
    have hwarned : CountedWarned policy tables done now := by
      cases hrunner with
      | preventBloat tables handled options gate =>
          exact hexec.safe (loop_counts_warned ⟨rfl, fun hφ => hφ.report_change_or_blocker policy⟩
            rfl gate _ _ _ _)
      | needsVacuum tables vacuumed options gate =>
          exact hexec.safe (loop_counts_warned ⟨rfl, fun hφ => hφ.report_change_or_blocker policy⟩
            rfl gate _ _ _ _)
    obtain ⟨hmem, front, v, hfront, htable, earlier, before, after, hreads, hiff⟩ :=
      hwarned table hcounted
    refine ⟨hmem, front, v, hfront, htable, earlier, before, after, hreads, fun hbefore hle => ?_⟩
    rw [hiff]
    exact estimate_eq_zero_iff hbefore hle

/-- A table with 1000 dead tuples, and this many after a statement. -/
def deadTuplesThen (remaining : Int) (maintained : Bool) : (op : Op) → op.Answer × Bool
  | .call (.getDeadTupleCount _) => (.ok (if maintained then remaining else 1000), maintained)
  | .call (.maintain _ _) => (.ok (), true)
  | .call (.findActiveVacuums _) => (.ok [], maintained)
  | .call _ => (.error .closed, maintained)
  | .now => (0, maintained)
  | .sleepOrShutdown _ => (.slept, maintained)
  | .isClosed | .shutdownRequested | .isRequested | .gateIsDisabled => (false, maintained)
  | .gateDisable | .gateAddWaited _ | .gateRecordSkip | .log _ | .mark _ => ((), maintained)

/-- A plain VACUUM of one table. -/
def plainVacuum : PgM OperationResult :=
  vacuumTable ⟨false, false, false, none, none⟩ ("public", "t")

/-- The VACUUM of a bloated table. -/
def overBloated (policy : RunPolicy) : RunM OperationSummary :=
  runBloatVacuum [⟨"public", "t", 0, 1000, 0, none⟩] policy [] ⟨false, false, false, none, none⟩
    none

/-- What it does in a real run that looks for blockers. -/
def bloatedTrace (remaining : Int) : Trace (World.recalling session Bool) :=
  ((overBloated ⟨false, false, false, true, 10, 0, 50⟩).play (World.recalling session Bool)
    (deadTuplesThen remaining) false).1

/-- The session plays both reads of a table over bloated, from a thousand to `remaining`. -/
theorem exec_bloated (remaining : Int) : ∃ last q, Exec (World.recalling session Bool) false
    (overBloated ⟨false, false, false, true, 10, 0, 50⟩) (bloatedTrace remaining) last q :=
  ⟨_, _, Prog.exec_play (W := World.recalling session Bool) (deadTuplesThen remaining)
    (fun _ _ => trivial) _ false⟩

/-- 600 fewer are the figure. As many as before are warned of. -/
theorem decrease_reported :
    (∃ result, (plainVacuum.play (World.recalling session Bool) (deadTuplesThen 400) false).2.2 =
      .ok result ∧ result.deadTuplesReducedApprox = promisedFigure 1000 400) ∧
    ∃ front v, (bloatedTrace 1000).take 13 = front ++ Visit.trace v ∧ v.reads = [1000, 1000] ∧
      v.Warned ⟨false, false, false, true, 10, 0, 50⟩ := by
  constructor
  · have hexec := Prog.exec_play (W := World.recalling session Bool) (deadTuplesThen 400)
      (fun _ _ => trivial) plainVacuum false
    have hend : (plainVacuum.play (World.recalling session Bool) (deadTuplesThen 400) false).2.2 =
        .ok ⟨some 1000, some 600⟩ := by decide
    have hread : (plainVacuum.play (World.recalling session Bool) (deadTuplesThen 400)
        false).1.filterMap Moment.deadTuples = [1000, 400] := by decide
    rw [hend] at hexec
    obtain ⟨before, after, hreads, hfigure⟩ := ineffective_vacuum_reported.1 _ _ _ _ _ _ hexec
    rw [hread] at hreads
    cases hreads
    refine ⟨_, hend, (hfigure ⟨?_, ?_, .inl (by decide)⟩).2 (.inr ?_)⟩
    · exact ⟨by decide, by decide⟩
    · exact ⟨by decide, by decide⟩
    · exact ⟨by decide, by decide⟩
  · obtain ⟨last, q, hexec⟩ := exec_bloated 1000
    have hcounted : ((bloatedTrace 1000)[13]?.map (·.op)) =
        some (.mark (.tally ("public", "t") .succeeded)) := by
      decide
    obtain ⟨m, hm, hop⟩ := Option.map_eq_some_iff.1 hcounted
    rw [trace_split hm] at hexec
    obtain ⟨-, front, v, hfront, -, earlier, before, after, hreads, hwarned⟩ :=
      ineffective_vacuum_reported.2.2 _ _ _ _ _ _ _ _ _ _ _ (.preventBloat _ _ _ _) hexec hop
    have hboth : ((bloatedTrace 1000).take 13).filterMap Moment.deadTuples = [] ++ [1000, 1000] := by
      decide
    rw [hfront, List.filterMap_append] at hboth
    change _ ++ v.reads = _ at hboth
    rw [hreads, ← List.append_assoc] at hboth
    obtain ⟨hnone, hlast⟩ := List.append_inj' hboth rfl
    obtain ⟨-, rfl⟩ := List.append_eq_nil_iff.1 hnone
    cases hlast
    exact ⟨front, v, hfront, hreads, (hwarned (by decide) (by decide)).2 ⟨by decide, by decide⟩⟩

/-- 500 more: there is no figure, and no warning. -/
theorem growth_unreported :
    (∃ result, (plainVacuum.play (World.recalling session Bool) (deadTuplesThen 1500) false).2.2 =
      .ok result ∧ result.deadTuplesReducedApprox ≠ promisedFigure 1000 1500) ∧
    ((overBloated ⟨false, false, false, true, 10, 0, 50⟩).play (World.recalling session Bool)
      (deadTuplesThen 1500) false).2.2 = .ok ⟨1, 1, 0, 0⟩ ∧
    ((overBloated ⟨false, false, false, true, 10, 0, 50⟩).play (World.recalling session Bool)
      (deadTuplesThen 1500) false).1.filterMap Moment.deadTuples = [1000, 1500] ∧
    ((overBloated ⟨false, false, false, true, 10, 0, 50⟩).play (World.recalling session Bool)
      (deadTuplesThen 1500) false).1.filterMap Moment.change = [] := by
  refine ⟨⟨⟨some 1000, none⟩, ?_, ?_⟩, ?_, ?_, ?_⟩
  · decide
  · decide
  · decide
  · decide
  · decide

end PgMaintainer
