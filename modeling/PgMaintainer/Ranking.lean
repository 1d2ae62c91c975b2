import Mathlib.Data.List.Sort

/-!
# Ranking the entries of a list

A list holds entries that carry a key, several of them perhaps the same one. A ranking of the
list has one entry for every key, the first one the list has, in a chosen order in which ties
keep the order of the list. `Ranks` says so without saying how; `rank` computes it by removing
the later entries of every key and sorting stably; `Ranks.unique` says that nothing else is a
ranking.

The last section is about cutting the list before it is ranked: what does not reach the first
places of the ranking may be left out.
-/

namespace Ranking

variable {α κ : Type}

/-! ## What a ranking is -/

section Spec

variable [DecidableEq α] [DecidableEq κ] (key : α → κ) (r : α → α → Prop)

/-- An entry stands before another one: the order allows it, and if it allows the opposite as
well then the list has the entry earlier. -/
def Precedes (input : List α) (a b : α) : Prop :=
  r a b ∧ (r b a → input.idxOf a < input.idxOf b)

/-- A ranking of the entries of a list. -/
structure Ranks (input out : List α) : Prop where
  /-- No two entries have the same key. -/
  nodup : (out.map key).Nodup
  /-- The entries are those the list has first for their key. -/
  firsts : ∀ t, t ∈ out ↔ input.find? (fun u => key u = key t) = some t
  /-- They stand in the order, ties as in the list. -/
  ordered : out.Pairwise (Precedes r input)

variable {key r} {input out : List α}

/-- A ranking has the keys of the list, no more and no fewer. -/
theorem Ranks.mem_keys (h : Ranks key r input out) (k : κ) :
    k ∈ out.map key ↔ k ∈ input.map key := by
  constructor
  · intro hk
    obtain ⟨t, ht, rfl⟩ := List.mem_map.1 hk
    exact List.mem_map_of_mem (List.mem_of_find?_eq_some ((h.firsts t).1 ht))
  · intro hk
    obtain ⟨t, ht, rfl⟩ := List.mem_map.1 hk
    cases hfind : input.find? (fun u => key u = key t) with
    | none => simp at hfind; exact absurd rfl (hfind t ht)
    | some u =>
        have hkey : key u = key t := by simpa using List.find?_some hfind
        exact List.mem_map.2 ⟨u, (h.firsts u).2 (by rw [hkey]; exact hfind), hkey⟩

end Spec

/-! ## The first entry of every key -/

section Firsts

variable [DecidableEq κ] (key : α → κ)

/-- Keep the first entry of every key not in `seen`. -/
def firstsOf (seen : List κ) : List α → List α
  | [] => []
  | t :: ts =>
    if key t ∈ seen then firstsOf seen ts else t :: firstsOf (key t :: seen) ts

variable {key} {seen seen' : List κ}

/-- Only which keys are seen matters. -/
theorem firstsOf_congr (h : ∀ k, k ∈ seen ↔ k ∈ seen') (l : List α) :
    firstsOf key seen l = firstsOf key seen' l := by
  induction l generalizing seen seen' with
  | nil => rfl
  | cons t ts ih =>
      have hcons : ∀ k, k ∈ key t :: seen ↔ k ∈ key t :: seen' := fun k => by
        simp [List.mem_cons, h k]
      simp only [firstsOf, h (key t), ih h, ih hcons]

/-- What is kept is the first entry of a key that was not seen. -/
theorem mem_firstsOf {l : List α} {t : α} :
    t ∈ firstsOf key seen l ↔ key t ∉ seen ∧ l.find? (fun u => key u = key t) = some t := by
  induction l generalizing seen with
  | nil => simp [firstsOf]
  | cons u us ih =>
      by_cases hu : key u ∈ seen
      · have hne : key t ∉ seen → key u ≠ key t := fun ht heq => ht (heq ▸ hu)
        rw [firstsOf, if_pos hu, ih]
        refine and_congr_right fun ht => ?_
        rw [List.find?_cons_of_neg (by simpa using hne ht)]
      · rw [firstsOf, if_neg hu, List.mem_cons, ih]
        -- `u` is the first of its key, so it decides for all that share it
        by_cases heq : key u = key t
        · rw [List.find?_cons_of_pos (by simpa using heq)]
          constructor
          · rintro (rfl | ⟨hmem, -⟩)
            · exact ⟨hu, rfl⟩
            · exact absurd (heq ▸ List.mem_cons_self) hmem
          · rintro ⟨-, h⟩
            exact .inl (Option.some.inj h).symm
        · rw [List.find?_cons_of_neg (by simpa using heq)]
          constructor
          · rintro (rfl | ⟨hmem, h⟩)
            · exact absurd rfl heq
            · exact ⟨fun ht => hmem (List.mem_cons_of_mem _ ht), h⟩
          · rintro ⟨hmem, h⟩
            exact .inr ⟨by simpa [Ne.symm heq] using hmem, h⟩

/-- Where every entry is its own key, what is kept is what was not seen. -/
theorem mem_firstsOf_id [DecidableEq α] {seen l : List α} {t : α} :
    t ∈ firstsOf id seen l ↔ t ∉ seen ∧ t ∈ l := by
  rw [mem_firstsOf]
  refine and_congr_right fun _ => ⟨List.mem_of_find?_eq_some, fun hmem => ?_⟩
  cases hfind : l.find? (fun u => id u = id t) with
  | none => exact absurd (List.find?_eq_none.1 hfind t hmem) (by simp)
  | some u =>
      have hkey : id u = id t := by simpa using List.find?_some hfind
      rw [show u = t from hkey]

/-- No two kept entries have the same key. -/
theorem nodup_firstsOf (l : List α) : ((firstsOf key seen l).map key).Nodup := by
  induction l generalizing seen with
  | nil => exact List.nodup_nil
  | cons t ts ih =>
      unfold firstsOf
      split
      · exact ih
      · refine List.nodup_cons.2 ⟨fun h => ?_, ih⟩
        obtain ⟨u, hu, hkey⟩ := List.mem_map.1 h
        exact (mem_firstsOf.1 hu).1 (hkey ▸ List.mem_cons_self)

/-- The kept entries stand in the order of the list. -/
theorem pairwise_firstsOf [DecidableEq α] (l : List α) :
    (firstsOf key seen l).Pairwise fun a b => l.idxOf a < l.idxOf b := by
  -- a kept entry of the tail is not the head, so its place is one further on
  have hshift : ∀ {t : α} {ts : List α} {seen : List κ}, key t ∈ seen →
      ∀ {a}, a ∈ firstsOf key seen ts → (t :: ts).idxOf a = ts.idxOf a + 1 := by
    intro t ts seen ht a ha
    refine List.idxOf_cons_ne _ fun heq => (mem_firstsOf.1 ha).1 (heq ▸ ht)
  induction l generalizing seen with
  | nil => exact List.Pairwise.nil
  | cons t ts ih =>
      unfold firstsOf
      split
      case isTrue ht =>
        refine ih.imp_of_mem fun ha hb hlt => ?_
        rw [hshift ht ha, hshift ht hb]
        exact Nat.add_lt_add_right hlt 1
      case isFalse ht =>
        refine List.pairwise_cons.2 ⟨fun b hb => ?_, ih.imp_of_mem fun ha hb hlt => ?_⟩
        · rw [List.idxOf_cons_self, hshift List.mem_cons_self hb]
          exact Nat.succ_pos _
        · rw [hshift List.mem_cons_self ha, hshift List.mem_cons_self hb]
          exact Nat.add_lt_add_right hlt 1

/-- A list without repeated or seen keys is kept whole. -/
theorem firstsOf_eq_self {l : List α} (hnodup : (l.map key).Nodup)
    (hseen : ∀ t ∈ l, key t ∉ seen) : firstsOf key seen l = l := by
  induction l generalizing seen with
  | nil => rfl
  | cons t ts ih =>
      obtain ⟨ht, hts⟩ := List.nodup_cons.1 hnodup
      rw [firstsOf, if_neg (hseen t List.mem_cons_self), ih hts]
      intro u hu hmem
      rcases List.mem_cons.1 hmem with heq | hmem
      · exact ht (heq ▸ List.mem_map_of_mem hu)
      · exact hseen u (List.mem_cons_of_mem _ hu) hmem

/-- After a first list, the second keeps what is new to both. -/
theorem firstsOf_append (l m : List α) :
    firstsOf key seen (l ++ m) = firstsOf key seen l ++ firstsOf key (l.map key ++ seen) m := by
  induction l generalizing seen with
  | nil => rfl
  | cons t ts ih =>
      have hseen : ∀ k, k ∈ ts.map key ++ key t :: seen ↔ k ∈ (t :: ts).map key ++ seen :=
        fun k => by simp only [List.mem_append, List.mem_cons, List.map_cons]; tauto
      by_cases ht : key t ∈ seen
      · have hdrop : ∀ k, k ∈ ts.map key ++ seen ↔ k ∈ (t :: ts).map key ++ seen := fun k => by
          rw [← hseen k, List.mem_append, List.mem_append, List.mem_cons]
          refine or_congr_right ⟨.inr, ?_⟩
          rintro (rfl | hk)
          · exact ht
          · exact hk
        simp only [List.cons_append, firstsOf, if_pos ht, ih, firstsOf_congr hdrop]
      · simp only [List.cons_append, firstsOf, if_neg ht, ih, firstsOf_congr hseen]

/-- Nothing is kept of a list whose keys were all seen. -/
theorem firstsOf_eq_nil {l : List α} (h : ∀ t ∈ l, key t ∈ seen) : firstsOf key seen l = [] := by
  induction l with
  | nil => rfl
  | cons t ts ih =>
      rw [firstsOf, if_pos (h t List.mem_cons_self)]
      exact ih fun u hu => h u (List.mem_cons_of_mem _ hu)

/-- To have seen more keys is to drop their entries from what is kept. -/
theorem filter_firstsOf (keys : List κ) (l : List α) :
    (firstsOf key seen l).filter (fun t => key t ∉ keys) = firstsOf key (keys ++ seen) l := by
  induction l generalizing seen with
  | nil => rfl
  | cons t ts ih =>
      by_cases ht : key t ∈ seen
      · simp only [firstsOf, if_pos ht, if_pos (List.mem_append_right keys ht), ih]
      · have hcons : ∀ k, k ∈ keys ++ key t :: seen ↔ k ∈ key t :: (keys ++ seen) := fun k => by
          simp only [List.mem_append, List.mem_cons]; tauto
        rw [firstsOf, if_neg ht, firstsOf]
        by_cases hkeys : key t ∈ keys
        · have hdrop : ∀ k, k ∈ keys ++ key t :: seen ↔ k ∈ keys ++ seen := fun k => by
            rw [hcons k, List.mem_cons]
            refine ⟨?_, .inr⟩
            rintro (rfl | hk)
            · exact List.mem_append_left _ hkeys
            · exact hk
          rw [if_pos (List.mem_append_left _ hkeys), List.filter_cons_of_neg (by simpa using hkeys),
            ih, firstsOf_congr hdrop]
        · rw [if_neg (by simp [hkeys, ht]), List.filter_cons_of_pos (by simpa using hkeys), ih,
            firstsOf_congr hcons]

end Firsts

/-! ## A stable sort -/

section StableSort

variable {r : α → α → Prop} [DecidableRel r]

/-- Insertion keeps a stable order if the inserted entry is the earliest. -/
theorem pairwise_orderedInsert_stable {earlier : α → α → Prop} {l : List α} {a : α}
    (h : l.Pairwise fun b c => r c b → earlier b c) (ha : ∀ b ∈ l, earlier a b) :
    (l.orderedInsert r a).Pairwise fun b c => r c b → earlier b c := by
  induction l with
  | nil => exact List.pairwise_singleton _ _
  | cons b l ih =>
      obtain ⟨hb, hl⟩ := List.pairwise_cons.1 h
      rw [List.orderedInsert_cons]
      split
      case isTrue hab =>
        exact List.pairwise_cons.2 ⟨fun c hc _ => ha c hc, h⟩
      case isFalse hab =>
        refine List.pairwise_cons.2
          ⟨fun c hc hcb => ?_, ih hl fun c hc => ha c (List.mem_cons_of_mem _ hc)⟩
        rcases (List.mem_orderedInsert r).1 hc with rfl | hc
        · exact absurd hcb hab
        · exact hb c hc hcb

/-- Of two entries the order allows either way, the sorted list has first what the list had
first. -/
theorem pairwise_insertionSort_stable {earlier : α → α → Prop} {l : List α}
    (h : l.Pairwise earlier) :
    (l.insertionSort r).Pairwise fun a b => r b a → earlier a b := by
  induction l with
  | nil => exact List.Pairwise.nil
  | cons a l ih =>
      obtain ⟨ha, hl⟩ := List.pairwise_cons.1 h
      exact pairwise_orderedInsert_stable (ih hl) fun b hb =>
        ha b ((List.mem_insertionSort r).1 hb)

variable [IsTrans α r]

/-- An inserted entry that a filter drops leaves no trace, one that it keeps is inserted into
what the filter keeps. -/
theorem filter_orderedInsert (p : α → Bool) {l : List α} (h : l.Pairwise r) (a : α) :
    (l.orderedInsert r a).filter p =
      if p a then (l.filter p).orderedInsert r a else l.filter p := by
  induction l with
  | nil => by_cases ha : p a <;> simp [ha]
  | cons b l ih =>
      obtain ⟨hb, hl⟩ := List.pairwise_cons.1 h
      rw [List.orderedInsert_cons]
      by_cases hab : r a b
      · rw [if_pos hab]
        by_cases ha : p a
        · rw [if_pos ha, List.filter_cons_of_pos ha]
          -- the entry comes before everything the filter keeps, so that is where it goes
          have hfirst : ∀ c ∈ (b :: l).filter p, r a c := fun c hc => by
            rcases List.mem_cons.1 (List.mem_of_mem_filter hc) with rfl | hc
            · exact hab
            · exact IsTrans.trans a b c hab (hb c hc)
          cases hkept : (b :: l).filter p with
          | nil => rfl
          | cons c m =>
              rw [List.orderedInsert_cons, if_pos (hfirst c (hkept ▸ List.mem_cons_self))]
        · rw [if_neg ha, List.filter_cons_of_neg ha]
      · rw [if_neg hab]
        by_cases hpb : p b
        · rw [List.filter_cons_of_pos hpb, List.filter_cons_of_pos hpb, ih hl]
          split
          · rw [List.orderedInsert_cons, if_neg hab]
          · rfl
        · rw [List.filter_cons_of_neg hpb, List.filter_cons_of_neg hpb, ih hl]

variable [Std.Total r]

/-- Sorting and filtering commute. -/
theorem filter_insertionSort (p : α → Bool) (l : List α) :
    (l.insertionSort r).filter p = (l.filter p).insertionSort r := by
  induction l with
  | nil => rfl
  | cons a l ih =>
      rw [List.insertionSort_cons, filter_orderedInsert p (List.pairwise_insertionSort r l), ih]
      by_cases ha : p a
      · rw [if_pos ha, List.filter_cons_of_pos ha, List.insertionSort_cons]
      · rw [if_neg ha, List.filter_cons_of_neg ha]

end StableSort

/-! ## The ranking of a list -/

section Rank

variable [DecidableEq κ] (key : α → κ) (r : α → α → Prop) [DecidableRel r]

/-- The first entry of every key, stably sorted. -/
def rank (input : List α) : List α :=
  (firstsOf key [] input).insertionSort r

variable {key r}

/-- A ranked entry is the first of its key. -/
theorem mem_rank {input : List α} {t : α} :
    t ∈ rank key r input ↔ input.find? (fun u => key u = key t) = some t := by
  rw [rank, List.mem_insertionSort, mem_firstsOf]
  exact and_iff_right List.not_mem_nil

/-- No key is ranked twice. -/
theorem nodup_rank (input : List α) : ((rank key r input).map key).Nodup :=
  ((List.perm_insertionSort r _).map key).nodup_iff.2 (nodup_firstsOf input)

variable [Std.Total r] [IsTrans α r]

/-- What `rank` computes is the ranking of the list. -/
theorem ranks_rank [DecidableEq α] (input : List α) : Ranks key r input (rank key r input) where
  nodup := nodup_rank input
  firsts _ := mem_rank
  ordered :=
    ((List.pairwise_insertionSort r _).and
      (pairwise_insertionSort_stable (pairwise_firstsOf input)))

end Rank

/-! ## Cutting a list before it is ranked -/

section Cut

variable {r : α → α → Prop} [DecidableRel r]

/-- In a list without repetitions, what precedes an entry in a sublist precedes it there. -/
theorem sublist_of_append_singleton {top before after : List α} {x : α}
    (h : (top ++ [x]).Sublist (before ++ x :: after)) (hx : x ∉ after) : top.Sublist before := by
  have hrev : (x :: top.reverse).Sublist (after.reverse ++ x :: before.reverse) := by
    simpa using List.reverse_sublist.2 h
  refine List.reverse_sublist.1 ?_
  replace hx : x ∉ after.reverse := by simpa using hx
  generalize after.reverse = l at hrev hx
  induction l with
  | nil => exact List.cons_sublist_cons.1 hrev
  | cons y l ih =>
      obtain ⟨hxy, hxl⟩ := not_or.1 (mt List.mem_cons.2 hx)
      cases hrev with
      | cons _ hrev => exact ih hrev hxl
      | cons_cons _ _ => exact absurd rfl hxy

/-- A filter leaves the first `n` entries alone if what it drops has `n` entries before it. -/
theorem take_eq_take_filter {p : α → Bool} {l : List α} {n : Nat}
    (h : ∀ before x after, l = before ++ x :: after → p x = false → n ≤ before.length) :
    l.take n = (l.filter p).take n := by
  induction l generalizing n with
  | nil => rfl
  | cons a l ih =>
      cases n with
      | zero => rfl
      | succ n =>
          have ha : p a = true := by
            by_contra hne
            simpa using h [] a l rfl (by simpa using hne)
          rw [List.filter_cons_of_pos ha, List.take_succ_cons, List.take_succ_cons, ih]
          intro before x after heq hx
          simpa using h (a :: before) x after (by rw [heq]; rfl) hx

/-- If every entry outside a filter has the same entries `top` before it, it does not reach the
first places, and they are those of the list the filter leaves. -/
theorem take_insertionSort_filter [Std.Total r] [IsTrans α r] {p : α → Bool} {l top : List α}
    (hnodup : l.Nodup)
    (htop : ∀ x ∈ l, p x = false → (top ++ [x]).Sublist l ∧ (top ++ [x]).Pairwise r) :
    (l.insertionSort r).take top.length =
      ((l.filter p).insertionSort r).take top.length := by
  have hsorted : (l.insertionSort r).Nodup :=
    (List.perm_insertionSort r l).nodup_iff.2 hnodup
  have hplace : ∀ before x after, l.insertionSort r = before ++ x :: after → p x = false →
      top.length ≤ before.length := by
    intro before x after heq hx
    have hmem : x ∈ l := (List.mem_insertionSort r).1 (heq ▸ by simp)
    obtain ⟨hsub, hpw⟩ := htop x hmem hx
    have hsub' : (top ++ [x]).Sublist (before ++ x :: after) :=
      heq ▸ List.sublist_insertionSort hpw hsub
    rw [heq] at hsorted
    have hafter : x ∉ after := (List.nodup_cons.1 (List.nodup_append.1 hsorted).2.1).1
    exact (sublist_of_append_singleton hsub' hafter).length_le
  rw [← filter_insertionSort]
  exact take_eq_take_filter hplace

variable [DecidableEq κ] {key : α → κ} [Std.Total r] [IsTrans α r]

/-- A list in the order, without repeated keys, may be cut to the places that are asked for
before it is ranked with a second list, if the entries of the second stand no earlier than those
of the first with the same key. What was cut may come back through the second list, but not
among the first places. -/
theorem take_rank_of_cut {kept cut rest : List α} (hnodup : ((kept ++ cut).map key).Nodup)
    (hsorted : (kept ++ cut).Pairwise r)
    (hrest : ∀ x ∈ rest, ∀ t ∈ cut, key x = key t → r t x) :
    (rank key r (kept ++ rest)).take kept.length =
      (rank key r (kept ++ (cut ++ rest))).take kept.length := by
  have hkeys := List.nodup_append.1 (List.map_append ▸ hnodup)
  have hkept : firstsOf key [] kept = kept :=
    firstsOf_eq_self hkeys.1 fun _ _ => List.not_mem_nil
  -- an entry with the key of one that was cut has all that is kept before it
  have hafter : ∀ {m : List α} {x}, x ∈ m → key x ∈ cut.map key → (x ∈ cut ∨ x ∈ rest) →
      (kept ++ [x]).Sublist (kept ++ m) ∧ (kept ++ [x]).Pairwise r := by
    intro m x hx hkey hfrom
    obtain ⟨t, ht, hxt⟩ := List.mem_map.1 hkey
    have hbefore : ∀ a ∈ kept, r a t := fun a ha =>
      (List.pairwise_append.1 hsorted).2.2 a ha t ht
    refine ⟨(List.singleton_sublist.2 hx).append_left kept, List.pairwise_append.2
      ⟨(List.pairwise_append.1 hsorted).1, List.pairwise_singleton _ _, fun a ha b hb => ?_⟩⟩
    obtain rfl := List.mem_singleton.1 hb
    rcases hfrom with hcut | hrst
    · exact (List.pairwise_append.1 hsorted).2.2 a ha b hcut
    · exact IsTrans.trans a t b (hbefore a ha) (hrest b hrst t ht hxt.symm)
  have htake : ∀ m, (∀ x ∈ m, x ∈ cut ∨ x ∈ rest) →
      (rank key r (kept ++ m)).take kept.length =
        ((firstsOf key (cut.map key) (kept ++ m)).insertionSort r).take kept.length := by
    intro m hm
    rw [← List.append_nil (cut.map key), ← filter_firstsOf]
    refine take_insertionSort_filter (nodup_firstsOf _).of_map fun x hx hcut => ?_
    rw [firstsOf_append, hkept] at hx ⊢
    have hkey : key x ∈ cut.map key := by simpa using hcut
    rcases List.mem_append.1 hx with hx | hx
    · exact absurd rfl (hkeys.2.2 _ (List.mem_map_of_mem hx) _ hkey)
    · exact hafter hx hkey (hm x (List.mem_of_find?_eq_some (mem_firstsOf.1 hx).2))
  rw [htake rest fun x hx => .inr hx, htake (cut ++ rest) fun x hx => List.mem_append.1 hx,
    firstsOf_append, firstsOf_append kept, firstsOf_append cut]
  rw [firstsOf_eq_nil (l := cut) fun t ht =>
    List.mem_append_right _ (List.mem_map_of_mem ht), List.nil_append]
  have hseen : ∀ k, k ∈ kept.map key ++ cut.map key ↔
      k ∈ cut.map key ++ (kept.map key ++ cut.map key) := fun k => by
    simp only [List.mem_append]
    tauto
  rw [firstsOf_congr hseen]

end Cut

end Ranking
