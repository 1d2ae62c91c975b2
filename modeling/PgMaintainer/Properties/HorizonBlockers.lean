import PgMaintainer.Queries.Horizon
import PgMaintainer.Rules

/-!
# The worst blocker

The rows for what holds the vacuum horizon back are sorted by one age, and the first of them is
reported. For backends and prepared transactions the age is the real one. A replication slot has two
transaction ids, of which one may be NULL, and the query reads NULL as the permanent id 0, whose age
is the greatest there is.
-/

namespace PgMaintainer

open Interaction

/-! ## Holders -/

section Holders

variable (snapshot : HorizonSnapshot)

/-- The age of the older of the ids that a slot holds. -/
def ReplicationSlot.realAge (slot : ReplicationSlot) : Int :=
  match slot.xmin, slot.catalogXmin with
  | some xmin, some catalogXmin =>
      max (Xid.age snapshot.next xmin) (Xid.age snapshot.next catalogXmin)
  | some xmin, none => Xid.age snapshot.next xmin
  | none, some catalogXmin => Xid.age snapshot.next catalogXmin
  | none, none => 0

/-- What may hold the horizon back. -/
inductive Holder where
  | backend (row : ActivityRow) (backendXmin : Xid)
  | slot (slot : ReplicationSlot)
  | prepared (row : PreparedXact)

namespace Holder

/-- It does so in this snapshot, and is no part of the session itself. -/
def Holds : Holder → Prop
  | backend row backendXmin =>
      row ∈ snapshot.activity ∧ row.pid ≠ snapshot.ownPid ∧ row.backendXmin = some backendXmin
  | slot s => s ∈ snapshot.slots ∧ s.holds = true
  | prepared row => row ∈ snapshot.prepared

/-- Its row. -/
def row : Holder → XminHorizonBlocker
  | backend r backendXmin => backendRow snapshot r backendXmin
  | slot s => slotRow snapshot s
  | prepared r => preparedRow snapshot r

/-- The age of the oldest id that it holds. -/
def realAge : Holder → Int
  | backend _ backendXmin => Xid.age snapshot.next backendXmin
  | slot s => s.realAge snapshot
  | prepared r => Xid.age snapshot.next r.transaction

/-- No holder has an older one. -/
def Worst (holder : Holder) : Prop :=
  holder.Holds snapshot ∧
    ∀ other, Holds snapshot other → other.realAge snapshot ≤ holder.realAge snapshot

end Holder

/-- The rows are those of the holders. -/
theorem mem_unsorted_blockers {row : XminHorizonBlocker} :
    row ∈ unsortedBlockers snapshot ↔
      ∃ holder, Holder.Holds snapshot holder ∧ holder.row snapshot = row := by
  rw [unsortedBlockers, List.mem_append, List.mem_append, List.mem_filterMap, List.mem_map,
    List.mem_map]
  constructor
  · intro h
    obtain (⟨r, hr, hrow⟩ | ⟨s, hs, rfl⟩) | ⟨r, hr, rfl⟩ := h
    · -- the session's own backend is left out
      by_cases hown : r.pid = snapshot.ownPid
      · rw [if_pos hown] at hrow
        cases hrow
      · rw [if_neg hown] at hrow
        obtain ⟨backendXmin, hxmin, rfl⟩ := Option.map_eq_some_iff.1 hrow
        exact ⟨.backend r backendXmin, ⟨hr, hown, hxmin⟩, rfl⟩
    · exact ⟨.slot s, List.mem_filter.1 hs, rfl⟩
    · exact ⟨.prepared r, hr, rfl⟩
  · intro h
    obtain ⟨holder, hholds, rfl⟩ := h
    cases holder with
    | backend r backendXmin =>
        obtain ⟨hr, hown, hxmin⟩ := hholds
        refine .inl (.inl ⟨r, hr, ?_⟩)
        rw [if_neg hown, hxmin]
        rfl
    | slot s => exact .inl (.inr ⟨s, List.mem_filter.2 hholds, rfl⟩)
    | prepared r => exact .inr ⟨r, hholds, rfl⟩

end Holders

/-! ## Ages -/

section Ages

variable {snapshot : HorizonSnapshot}

/-- No id is older than the permanent ones. -/
theorem age_le (next xid : Xid) : Xid.age next xid ≤ 2 ^ 31 - 1 := by
  unfold Xid.age
  by_cases hpermanent : xid.toNat < 3
  · rw [if_pos hpermanent]
  · rw [if_neg hpermanent]
    have hlt := BitVec.toInt_lt (x := next - xid)
    omega

/-- The age of a slot's row is the real one if both of its ids are there, or the real one is the
greatest anyway. -/
theorem slot_age_iff {slot : ReplicationSlot} (hholds : slot.holds = true) :
    (slotRow snapshot slot).xidAge = slot.realAge snapshot ↔
      slot.xmin.isSome = true ∧ slot.catalogXmin.isSome = true ∨
        slot.realAge snapshot = 2 ^ 31 - 1 := by
  obtain ⟨name, type, active, xmin, catalogXmin⟩ := slot
  -- a missing horizon counts as the oldest age there is
  cases xmin with
  | none =>
      cases catalogXmin with
      | none => cases hholds
      | some c =>
          have hage : (slotRow snapshot ⟨name, type, active, none, some c⟩).xidAge = 2 ^ 31 - 1 :=
            max_eq_left (age_le snapshot.next c)
          rw [hage]
          constructor
          · intro h
            exact .inr h.symm
          · intro h
            obtain ⟨hsome, -⟩ | h := h
            · cases hsome
            · exact h.symm
  | some x =>
      cases catalogXmin with
      | none =>
          have hage : (slotRow snapshot ⟨name, type, active, some x, none⟩).xidAge = 2 ^ 31 - 1 :=
            max_eq_right (age_le snapshot.next x)
          rw [hage]
          constructor
          · intro h
            exact .inr h.symm
          · intro h
            obtain ⟨-, hsome⟩ | h := h
            · cases hsome
            · exact h.symm
      | some c => exact iff_of_true rfl (.inl ⟨rfl, rfl⟩)

/-- The first of sorted rows has the greatest age. -/
theorem first_row_oldest {worst : XminHorizonBlocker} {rest : List XminHorizonBlocker}
    (h : FindXminHorizonBlockers snapshot (worst :: rest)) :
    ∀ row ∈ unsortedBlockers snapshot, row.xidAge ≤ worst.xidAge := by
  intro row hrow
  obtain hmem | hmem := List.mem_cons.1 (h.1.mem_iff.2 hrow)
  · rw [hmem]
  · exact (List.pairwise_cons.1 h.2).1 row hmem

end Ages

/-! ## What is reported -/

/-- The world of a server with these views. The query is answered with its rows, in any order that
it allows; any call may fail. -/
def beholding (snapshot : HorizonSnapshot) : World session where
  State := Unit
  Drift _ _ := False
  Answers _ op answer _ :=
    match op with
    | .call .findXminHorizonBlockers =>
      ∀ rows, answer = .ok rows → FindXminHorizonBlockers snapshot rows
    | _ => True

/-- The query tells the worst holder: the ages of its rows for slots are right, the first row is a
holder with the greatest real age, under that age, and this is what is compared with the warning age
at the start and what is described behind a VACUUM. -/
structure TellsWorst (snapshot : HorizonSnapshot) : Prop where
  slots : ∀ slot ∈ snapshot.slots, slot.holds = true →
    (slotRow snapshot slot).xidAge = slot.realAge snapshot
  first : ∀ worst rest, FindXminHorizonBlockers snapshot (worst :: rest) →
    ∃ holder, Holder.Worst snapshot holder ∧ worst = holder.row snapshot ∧
      worst.xidAge = holder.realAge snapshot
  compared : ∀ rows warnAgeThreshold, FindXminHorizonBlockers snapshot rows → rows ≠ [] →
    ∃ holder, Holder.Worst snapshot holder ∧
      ((initialXminHorizon warnAgeThreshold (.observed rows)).1 = .warning ↔
        warnAgeThreshold ≤ holder.realAge snapshot)
  described : ∀ (tr : Trace (beholding snapshot)) (last : Unit) (text : String),
    Exec (beholding snapshot) () describeWorstXminBlocker tr last (.pure (some text)) →
      ∃ holder, Holder.Worst snapshot holder ∧ text = describeXminBlocker (holder.row snapshot)

section Reported

variable {snapshot : HorizonSnapshot}

/-- What is described is the first row of an answer. -/
theorem wp_describe_first :
    wp (beholding snapshot) (fun _ _ => True) describeWorstXminBlocker
      (fun described _ _ => ∀ text, described = some text → ∃ worst rest,
        FindXminHorizonBlockers snapshot (worst :: rest) ∧ text = describeXminBlocker worst)
      (fun _ _ _ => True) [] () := by
  have hobserve : wp (beholding snapshot) (fun _ _ => True) observeXminHorizon
      (fun observation _ _ => ∀ rows, observation = .observed rows →
        FindXminHorizonBlockers snapshot rows) (fun _ _ _ => True) [] () := by
    refine wp_seq (R := fun _ _ _ => True) (wp_mono wp_true (fun _ _ _ _ => trivial)
      fun _ _ _ _ => trivial) fun canRead past _ _ => ?_
    refine wp_ite.2 ⟨fun _ rows h => ?_, fun _ => ?_⟩
    · cases h
    refine wp_bind.2 (wp_queryContext.2 (wp_call.2 ?_))
    intro now _ answer after hanswer
    refine ⟨trivial, ?_⟩
    cases answer with
    | error err => trivial
    | ok rows =>
        intro observed h
        cases h
        exact hanswer rows rfl
  refine wp_seq hobserve fun observation past _ hrows => ?_
  cases observation with
  | unobservable =>
      intro text h
      cases h
  | observed rows =>
      -- the source takes the first row, in whatever order the server sent them
      cases rows with
      | nil =>
          intro text h
          cases h
      | cons worst rest =>
          intro text h
          cases h
          exact ⟨worst, rest, hrows _ rfl, rfl⟩

/-- Where all ages are right, the first row is the worst holder. -/
theorem worst_of_first
    (hages : ∀ holder, Holder.Holds snapshot holder →
      (holder.row snapshot).xidAge = holder.realAge snapshot)
    {worst : XminHorizonBlocker} {rest : List XminHorizonBlocker}
    (h : FindXminHorizonBlockers snapshot (worst :: rest)) :
    ∃ holder, Holder.Worst snapshot holder ∧ worst = holder.row snapshot ∧
      worst.xidAge = holder.realAge snapshot := by
  have hmem : worst ∈ unsortedBlockers snapshot := h.1.mem_iff.1 List.mem_cons_self
  obtain ⟨holder, hholds, hrow⟩ := (mem_unsorted_blockers snapshot).1 hmem
  have hage : worst.xidAge = holder.realAge snapshot := by rw [← hrow, hages holder hholds]
  refine ⟨holder, ⟨hholds, fun other hother => ?_⟩, hrow.symm, hage⟩
  rw [← hage, ← hages other hother]
  exact first_row_oldest h _ ((mem_unsorted_blockers snapshot).2 ⟨other, hother, rfl⟩)

/-- With the real ages in the rows of the slots the worst blocker is told. -/
theorem tells_worst_of_ages
    (hslots : ∀ slot ∈ snapshot.slots, slot.holds = true →
      (slotRow snapshot slot).xidAge = slot.realAge snapshot) : TellsWorst snapshot := by
  have hages : ∀ holder, Holder.Holds snapshot holder →
      (holder.row snapshot).xidAge = holder.realAge snapshot := by
    intro holder hholds
    -- only the row of a slot may tell a wrong age
    cases holder with
    | backend r backendXmin => rfl
    | slot s => exact hslots s hholds.1 hholds.2
    | prepared r => rfl
  refine ⟨hslots, fun worst rest h => worst_of_first hages h, ?_, ?_⟩
  · intro rows warnAgeThreshold h hne
    obtain ⟨worst, rest, rfl⟩ := List.exists_cons_of_ne_nil hne
    obtain ⟨holder, hworst, -, hage⟩ := worst_of_first hages h
    refine ⟨holder, hworst, ?_⟩
    rw [← hage, initialXminHorizon]
    by_cases hover : warnAgeThreshold ≤ worst.xidAge
    · rw [if_pos hover]
      exact iff_of_true rfl hover
    · rw [if_neg hover]
      refine iff_of_false (fun hwarning => ?_) hover
      cases hwarning
  · intro tr last text hexec
    obtain ⟨_, -, hdescribed⟩ := hexec.returned wp_describe_first
    obtain ⟨worst, rest, h, rfl⟩ := hdescribed text rfl
    obtain ⟨holder, hworst, rfl, -⟩ := worst_of_first hages h
    exact ⟨holder, hworst, rfl⟩

end Reported

/-- The query tells the worst holder if and only if each slot that holds the horizon back has both
ids, or its real age is the greatest there is. -/
theorem tells_worst_iff (snapshot : HorizonSnapshot) :
    TellsWorst snapshot ↔ ∀ slot ∈ snapshot.slots, slot.holds = true →
      slot.xmin.isSome = true ∧ slot.catalogXmin.isSome = true ∨
        slot.realAge snapshot = 2 ^ 31 - 1 := by
  constructor
  · intro h slot hslot hholds
    exact (slot_age_iff hholds).1 (h.slots slot hslot hholds)
  · intro h
    exact tells_worst_of_ages fun slot hslot hholds =>
      (slot_age_iff hholds).2 (h slot hslot hholds)

/-- A backend with a million transactions behind it, and a physical slot with ten. -/
def youngSlot : HorizonSnapshot where
  next := 5000000
  ownPid := 1
  activity := [⟨1822, some "app_worker", some "active", some 4000000, none, none, none⟩]
  slots := [⟨"standby", "physical", true, some 4999990, none⟩]
  prepared := []

/-- The slot comes first, with the greatest age there is. -/
theorem young_slot_reported : ¬TellsWorst youngSlot ∧
    ∃ slot backend : Holder, backend.Worst youngSlot ∧ backend.realAge youngSlot = 1000000 ∧
      slot.realAge youngSlot = 10 ∧ (slot.row youngSlot).xidAge = 2 ^ 31 - 1 ∧
      FindXminHorizonBlockers youngSlot [slot.row youngSlot, backend.row youngSlot] := by
  refine ⟨fun h => ?_, .slot ⟨"standby", "physical", true, some 4999990, none⟩,
    .backend ⟨1822, some "app_worker", some "active", some 4000000, none, none, none⟩ 4000000,
    ⟨?_, ?_⟩, ?_, ?_, ?_, ?_, ?_⟩
  · exact absurd (h.slots _ List.mem_cons_self rfl) (by decide)
  · exact ⟨List.mem_cons_self, by decide, rfl⟩
  · intro other hother
    cases other with
    | backend r backendXmin =>
        obtain ⟨hr, -, hxmin⟩ := hother
        rw [List.mem_singleton.1 hr] at hxmin
        cases hxmin
        exact le_refl _
    | slot s =>
        rw [List.mem_singleton.1 hother.1]
        decide
    | prepared r => exact absurd hother List.not_mem_nil
  · decide
  · decide
  · decide
  · exact List.Perm.swap _ _ _
  · decide

end PgMaintainer
