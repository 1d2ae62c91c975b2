import Mathlib.Data.List.Sort

/-!
# Answers of a query

`SELECT … FROM … WHERE … ORDER BY … LIMIT …` fixes which rows it returns and in which order, up to
the rows that its order does not tell apart. `Answers` says which lists are answers: what they show
is a selected row of the source, and unless the limit cuts rows off none of these is missing.
-/

namespace Selection

variable {α β : Type}

/-- The first rows, as many as the limit allows. -/
def cut (limit : Option Nat) (rows : List α) : List α :=
  match limit with
  | none => rows
  | some n => rows.take n

/-- A cut list is a part of the list. -/
theorem cut_sublist (limit : Option Nat) (rows : List α) : (cut limit rows).Sublist rows := by
  cases limit with
  | none => exact List.Sublist.refl rows
  | some n => exact List.take_sublist n rows

/-- A limit that is no smaller than the number of rows cuts nothing off. -/
theorem cut_of_length_le {limit : Option Nat} {rows : List α} (h : ∀ n ∈ limit, rows.length ≤ n) :
    cut limit rows = rows := by
  cases limit with
  | none => rfl
  | some n => exact List.take_of_length_le (h n rfl)

/-- An answer: the rows of `source` that meet `p`, in an order that `r` allows, cut at the limit
and shown through `row`. -/
def Answers (source : List α) (p : α → Bool) (r : α → α → Prop) (limit : Option Nat) (row : α → β)
    (rows : List β) : Prop :=
  ∃ sorted : List α, sorted.Perm (source.filter p) ∧ sorted.Pairwise r ∧
    rows = (cut limit sorted).map row

namespace Answers

variable {source : List α} {p : α → Bool} {r : α → α → Prop} {limit : Option Nat} {row : α → β}
  {rows : List β}

/-- Every row of an answer shows a row of the source that meets the condition. -/
theorem sound (h : Answers source p r limit row rows) {b : β} (hb : b ∈ rows) :
    ∃ a ∈ source, p a = true ∧ row a = b := by
  obtain ⟨sorted, hperm, -, rfl⟩ := h
  obtain ⟨a, ha, rfl⟩ := List.mem_map.1 hb
  have hselected := hperm.mem_iff.1 ((cut_sublist limit sorted).subset ha)
  exact ⟨a, (List.mem_filter.1 hselected).1, (List.mem_filter.1 hselected).2, rfl⟩

/-- If no row is cut off, the answer shows all of them. -/
theorem complete (h : Answers source p r limit row rows) (hlimit : ∀ n ∈ limit, source.length ≤ n)
    {a : α} (ha : a ∈ source) (hp : p a = true) : row a ∈ rows := by
  obtain ⟨sorted, hperm, -, rfl⟩ := h
  rw [cut_of_length_le]
  · exact List.mem_map_of_mem (hperm.mem_iff.2 (List.mem_filter.2 ⟨ha, hp⟩))
  · intro n hn
    rw [hperm.length_eq]
    exact (List.length_filter_le p source).trans (hlimit n hn)

/-- Nor are there more rows than the source has. -/
theorem length_le_source (h : Answers source p r limit row rows) : rows.length ≤ source.length := by
  obtain ⟨sorted, hperm, -, rfl⟩ := h
  calc ((cut limit sorted).map row).length = (cut limit sorted).length := List.length_map _
    _ ≤ sorted.length := (cut_sublist limit sorted).length_le
    _ = (source.filter p).length := hperm.length_eq
    _ ≤ source.length := List.length_filter_le p source

end Answers

end Selection
