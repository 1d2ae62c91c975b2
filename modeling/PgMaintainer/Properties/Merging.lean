import PgMaintainer.Operations.Discovery
import PgMaintainer.Ranking

/-!
# The merge of the two needs-vacuum lists

The classic query and the max-threshold pass may name the same table. The merge is the ranking
of the two lists one after the other, cut to the limit; and since it cuts, the classic query may
be cut to the limit already.
-/

namespace PgMaintainer

/-! ## The merge as a ranking -/

/-- Never maintained, or maintained at some time, two entries can always be ordered. -/
theorem lastMaintainedLe_total (a b : Option Int) :
    lastMaintainedLe a b ∨ lastMaintainedLe b a := by
  cases a with
  | none => exact .inl trivial
  | some a =>
      cases b with
      | none => exact .inr trivial
      | some b => exact Int.le_total a b

/-- The order of the last maintenance is transitive. -/
theorem lastMaintainedLe_trans {a b c : Option Int} (hab : lastMaintainedLe a b)
    (hbc : lastMaintainedLe b c) : lastMaintainedLe a c := by
  cases a with
  | none => trivial
  | some a =>
      cases b with
      | none => exact hab.elim
      | some b =>
          cases c with
          | none => exact hbc.elim
          | some c => exact Int.le_trans hab hbc

/-- Every order compares any two candidates. -/
instance (orderBy : Option OrderBy) : Std.Total (comesBefore orderBy) where
  total a b :=
    match orderBy with
    | none => Int.le_total b.nDeadTup a.nDeadTup
    | some .size => Int.le_total b.sizeBytes a.sizeBytes
    | some .lastMaintained => lastMaintainedLe_total a.lastMaintained b.lastMaintained

instance (orderBy : Option OrderBy) : IsTrans NeedsVacuumTableInfo (comesBefore orderBy) where
  trans _ b _ hab hbc :=
    match orderBy with
    | none => Int.le_trans (b := b.nDeadTup) hbc hab
    | some .size => Int.le_trans (b := b.sizeBytes) hbc hab
    | some .lastMaintained => lastMaintainedLe_trans (b := b.lastMaintained) hab hbc

/-- The `seen` set of the merge keeps the first entry of every key. -/
theorem firstOfEachKey_eq (seen : List TableKey) (tables : List NeedsVacuumTableInfo) :
    firstOfEachKey seen tables = Ranking.firstsOf NeedsVacuumTableInfo.key seen tables := by
  induction tables generalizing seen with
  | nil => rfl
  | cons t ts ih =>
      by_cases ht : t.key ∈ seen
      · simp only [firstOfEachKey, Ranking.firstsOf, if_pos ht, ih]
      · simp only [firstOfEachKey, Ranking.firstsOf, if_neg ht, ih]

section

variable (classic maxThreshold : List NeedsVacuumTableInfo) (orderBy : Option OrderBy)
  (limit : Int)

/-- The merge is the ranking of both lists, cut to the limit. -/
theorem merge_eq_truncate_rank :
    mergeNeedsVacuumCandidates classic maxThreshold orderBy limit =
      truncate limit (Ranking.rank NeedsVacuumTableInfo.key (comesBefore orderBy)
        (classic ++ maxThreshold)) := by
  rw [mergeNeedsVacuumCandidates, firstOfEachKey_eq, Ranking.rank]

/-- Cutting keeps a sublist. -/
theorem truncate_sublist (tables : List NeedsVacuumTableInfo) :
    (truncate limit tables).Sublist tables := by
  unfold truncate
  split
  · exact List.Sublist.refl _
  · exact List.take_sublist _ _

/-- Every entry of the merge is an entry of one of the lists. -/
theorem mem_merge {t : NeedsVacuumTableInfo}
    (ht : t ∈ mergeNeedsVacuumCandidates classic maxThreshold orderBy limit) :
    t ∈ classic ∨ t ∈ maxThreshold := by
  rw [merge_eq_truncate_rank] at ht
  have hrank := Ranking.mem_rank.1 ((truncate_sublist limit _).mem ht)
  exact List.mem_append.1 (List.mem_of_find?_eq_some hrank)

/-- Without a limit the merge is the ranking of both lists. -/
theorem merged_ranks :
    Ranking.Ranks NeedsVacuumTableInfo.key (comesBefore orderBy) (classic ++ maxThreshold)
      (mergeNeedsVacuumCandidates classic maxThreshold orderBy (-1)) := by
  rw [merge_eq_truncate_rank]
  exact Ranking.ranks_rank _

/-- It has an entry for every table that either list names. -/
theorem mem_merged_keys (key : TableKey) :
    key ∈ (mergeNeedsVacuumCandidates classic maxThreshold orderBy (-1)).map
        NeedsVacuumTableInfo.key ↔
      key ∈ classic.map NeedsVacuumTableInfo.key ∨
        key ∈ maxThreshold.map NeedsVacuumTableInfo.key := by
  rw [(merged_ranks classic maxThreshold orderBy).mem_keys, List.map_append, List.mem_append]

/-- With a limit the merge is cut to it. -/
theorem merge_eq_truncate :
    mergeNeedsVacuumCandidates classic maxThreshold orderBy limit =
      truncate limit (mergeNeedsVacuumCandidates classic maxThreshold orderBy (-1)) := by
  rw [merge_eq_truncate_rank, merge_eq_truncate_rank classic maxThreshold orderBy (-1)]
  rfl

/-- The merge without a limit is the ranking of the classic list followed by the max-threshold
list: one entry for every table either names, the first one, so a classic entry wins, in the
chosen order with ties as they came. With a limit it is the first so many entries of that, and
names no table twice either. -/
theorem merge_is_ranking :
    let merged := mergeNeedsVacuumCandidates classic maxThreshold orderBy
    Ranking.Ranks NeedsVacuumTableInfo.key (comesBefore orderBy) (classic ++ maxThreshold)
        (merged (-1)) ∧
      (∀ key, key ∈ (merged (-1)).map NeedsVacuumTableInfo.key ↔
        key ∈ classic.map NeedsVacuumTableInfo.key ∨
          key ∈ maxThreshold.map NeedsVacuumTableInfo.key) ∧
      (∀ t ∈ merged (-1), t.key ∈ classic.map NeedsVacuumTableInfo.key → t ∈ classic) ∧
      ((merged limit).map NeedsVacuumTableInfo.key).Nodup ∧
      merged limit = if limit < 0 then merged (-1) else (merged (-1)).take limit.toNat := by
  have hranks := merged_ranks classic maxThreshold orderBy
  refine ⟨hranks, mem_merged_keys _ _ _, fun t ht hkey => ?_, ?_, merge_eq_truncate _ _ _ _⟩
  · obtain ⟨u, hu, hut⟩ := List.mem_map.1 hkey
    have hfirst := (hranks.firsts t).1 ht
    -- the first entry of a key stands in the classic list, if there is one
    cases hclassic : classic.find? fun v => v.key = t.key with
    | none =>
        have hnone := List.find?_eq_none.1 hclassic u hu
        exact absurd hut (by simpa using hnone)
    | some v =>
        rw [List.find?_append, hclassic, Option.some_or] at hfirst
        exact Option.some.inj hfirst ▸ List.mem_of_find?_eq_some hclassic
  · show ((mergeNeedsVacuumCandidates classic maxThreshold orderBy limit).map _).Nodup
    rw [merge_eq_truncate]
    exact hranks.nodup.sublist ((truncate_sublist limit _).map _)

end

/-! ## The limit of the classic query -/

/-- Two candidates agree on what the order looks at. -/
def sameSortKey (orderBy : Option OrderBy) (a b : NeedsVacuumTableInfo) : Prop :=
  match orderBy with
  | none => a.nDeadTup = b.nDeadTup
  | some .size => a.sizeBytes = b.sizeBytes
  | some .lastMaintained => a.lastMaintained = b.lastMaintained

/-- Rows with the same key come before each other. -/
theorem comesBefore_of_sameSortKey {orderBy : Option OrderBy} {a b : NeedsVacuumTableInfo}
    (h : sameSortKey orderBy a b) : comesBefore orderBy a b := by
  cases orderBy with
  | none => exact (show a.nDeadTup = b.nDeadTup from h).ge
  | some orderBy =>
      cases orderBy with
      | size => exact (show a.sizeBytes = b.sizeBytes from h).ge
      | lastMaintained =>
          have heq : a.lastMaintained = b.lastMaintained := h
          have hself := (lastMaintainedLe_total a.lastMaintained a.lastMaintained).elim id id
          exact (heq ▸ hself : lastMaintainedLe a.lastMaintained b.lastMaintained)

/-- The classic query may apply the limit itself: the merge of its first `n` rows is the merge of
all of them, flags included. -/
theorem merge_take_eq_merge {full maxThreshold : List NeedsVacuumTableInfo}
    {orderBy : Option OrderBy} {n : Int} (hn : 0 < n)
    (hnodup : (full.map NeedsVacuumTableInfo.key).Nodup)
    (hsorted : full.Pairwise (comesBefore orderBy))
    (hagree : ∀ x ∈ maxThreshold, ∀ t ∈ full, x.key = t.key → sameSortKey orderBy t x) :
    mergeNeedsVacuumCandidates (full.take n.toNat) maxThreshold orderBy n =
      mergeNeedsVacuumCandidates full maxThreshold orderBy n := by
  rcases Nat.lt_or_ge n.toNat full.length with hlt | hle
  · have hlength : (full.take n.toNat).length = n.toNat :=
      List.length_take_of_le hlt.le
    have hsplit : full.take n.toNat ++ full.drop n.toNat = full := List.take_append_drop _ _
    rw [← hsplit] at hnodup hsorted
    have hrest : ∀ x ∈ maxThreshold, ∀ t ∈ full.drop n.toNat, x.key = t.key →
        comesBefore orderBy t x := fun x hx t ht hkey =>
      comesBefore_of_sameSortKey (hagree x hx t (List.mem_of_mem_drop ht) hkey)
    have hcut := Ranking.take_rank_of_cut hnodup hsorted hrest
    rw [← List.append_assoc, hsplit, hlength] at hcut
    simpa only [merge_eq_truncate_rank, truncate, if_neg hn.le.not_gt] using hcut
  · rw [List.take_of_length_le hle]

/-- A candidate with so many dead tuples. -/
def candidateWith (name : String) (nDeadTup : Int) (viaMaxThreshold : Bool) :
    NeedsVacuumTableInfo :=
  ⟨"public", name, 1000, nDeadTup, 8192, none, viaMaxThreshold⟩

/-- A table the limit cut comes back through the other list, with as many dead tuples as the
one that was kept: the kept one stays in front of it. -/
theorem merge_take_of_tie :
    mergeNeedsVacuumCandidates [candidateWith "orders" 90 false]
        [candidateWith "items" 90 true] none 1 =
      mergeNeedsVacuumCandidates [candidateWith "orders" 90 false, candidateWith "items" 90 false]
        [candidateWith "items" 90 true] none 1 :=
  @merge_take_eq_merge [candidateWith "orders" 90 false, candidateWith "items" 90 false]
    [candidateWith "items" 90 true] none 1 (by decide) (by decide) (by decide)
    fun x hx t ht hkey => by
      obtain rfl := List.mem_singleton.1 hx
      rcases List.mem_cons.1 ht with rfl | ht
      · exact absurd hkey (by decide)
      · obtain rfl := List.mem_singleton.1 ht
        rfl

end PgMaintainer
