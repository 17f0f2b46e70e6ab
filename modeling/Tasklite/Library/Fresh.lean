import Mathlib.Data.Finset.Basic
import Mathlib.Data.Finset.SDiff
import Mathlib.Data.Finset.Dedup
import Mathlib.Data.Finset.Lattice.Lemmas
import Mathlib.Data.List.Nodup

/-! Lists of rows identified by a key. `fresh` keeps the first row of every key
that has not been seen, `without` drops the rows of given keys; `keys` is the set
of keys that is left in either case, `having` are the rows of one key. -/

namespace Tasklite.Library.Fresh

variable {α κ : Type*} [DecidableEq κ]

/-- The keys that occur in a list of rows. -/
def keys (key : α → κ) (rows : List α) : Finset κ := (rows.map key).toFinset

/-- Keep a row when its key is neither in `seen` nor the key of an earlier row. -/
def fresh (key : α → κ) : Finset κ → List α → List α
  | _, [] => []
  | seen, row :: rows =>
      if key row ∈ seen then fresh key seen rows
      else row :: fresh key (insert (key row) seen) rows

/-- Drop every row whose key is in `dropped`. -/
def without (key : α → κ) (dropped : Finset κ) (rows : List α) : List α :=
  rows.filter (fun row => key row ∉ dropped)

variable {key : α → κ}

@[simp] theorem keys_nil : keys key ([] : List α) = ∅ := rfl

@[simp] theorem keys_cons (row : α) (rows : List α) :
    keys key (row :: rows) = insert (key row) (keys key rows) := by
  simp [keys]

@[simp] theorem keys_append (left right : List α) :
    keys key (left ++ right) = keys key left ∪ keys key right := by
  simp [keys]

theorem mem_keys {rows : List α} {k : κ} : k ∈ keys key rows ↔ ∃ row ∈ rows, key row = k := by
  simp [keys]

theorem key_mem_keys {rows : List α} {row : α} (member : row ∈ rows) : key row ∈ keys key rows :=
  mem_keys.mpr ⟨row, member, rfl⟩

theorem fresh_sublist (seen : Finset κ) (rows : List α) : (fresh key seen rows).Sublist rows := by
  induction rows generalizing seen with
  | nil => exact List.Sublist.slnil
  | cons row rows ih =>
    unfold fresh
    split
    · exact (ih seen).cons row
    · exact (ih _).cons_cons row

theorem key_notMem_of_mem_fresh {seen : Finset κ} {rows : List α} {row : α}
    (member : row ∈ fresh key seen rows) : key row ∉ seen := by
  induction rows generalizing seen with
  | nil => simp [fresh] at member
  | cons first rows ih =>
    unfold fresh at member
    split at member
    · exact ih member
    · rename_i unseen
      rcases List.mem_cons.mp member with rfl | later
      · exact unseen
      · exact fun old => ih later (Finset.mem_insert_of_mem old)

theorem fresh_nodup (seen : Finset κ) (rows : List α) :
    ((fresh key seen rows).map key).Nodup := by
  induction rows generalizing seen with
  | nil => simp [fresh]
  | cons row rows ih =>
    unfold fresh
    split
    · exact ih seen
    · simp only [List.map_cons, List.nodup_cons, List.mem_map, not_exists, not_and]
      refine ⟨fun later member same => ?_, ih _⟩
      exact key_notMem_of_mem_fresh member (same ▸ Finset.mem_insert_self _ _)

theorem keys_fresh (seen : Finset κ) (rows : List α) :
    keys key (fresh key seen rows) = keys key rows \ seen := by
  induction rows generalizing seen with
  | nil => simp [fresh]
  | cons row rows ih =>
    unfold fresh
    split
    · rename_i old
      rw [ih, keys_cons, Finset.insert_sdiff_of_mem _ old]
    · rename_i unseen
      rw [keys_cons, ih, keys_cons]
      ext k
      simp only [Finset.mem_insert, Finset.mem_sdiff]
      by_cases same : k = key row
      · simp [same, unseen]
      · simp [same]

/-- Of rows with distinct keys just the unseen ones are kept. -/
theorem fresh_eq_filter {seen : Finset κ} {rows : List α} (distinct : (rows.map key).Nodup) :
    fresh key seen rows = rows.filter fun row => key row ∉ seen := by
  induction rows generalizing seen with
  | nil => rfl
  | cons row rows ih =>
    simp only [List.map_cons, List.nodup_cons] at distinct
    unfold fresh
    by_cases met : key row ∈ seen
    · rw [if_pos met, ih distinct.2, List.filter_cons_of_neg (by simpa using met)]
    · rw [if_neg met, ih distinct.2, List.filter_cons_of_pos (by simpa using met)]
      congr 1
      apply List.filter_congr
      intro other member
      have different : key other ≠ key row := by
        intro same
        exact distinct.1 (same ▸ List.mem_map_of_mem member)
      simp [different]

/-- What is left of a list has nothing more to lose. -/
theorem fresh_fresh (seen : Finset κ) (rows : List α) :
    fresh key seen (fresh key seen rows) = fresh key seen rows := by
  rw [fresh_eq_filter (fresh_nodup seen rows), List.filter_eq_self]
  intro row member
  simpa using key_notMem_of_mem_fresh member

theorem without_sublist (dropped : Finset κ) (rows : List α) :
    (without key dropped rows).Sublist rows := List.filter_sublist

@[simp] theorem mem_without {dropped : Finset κ} {rows : List α} {row : α} :
    row ∈ without key dropped rows ↔ row ∈ rows ∧ key row ∉ dropped := by
  simp [without]

theorem keys_without (dropped : Finset κ) (rows : List α) :
    keys key (without key dropped rows) = keys key rows \ dropped := by
  ext k
  simp only [mem_keys, mem_without, Finset.mem_sdiff]
  constructor
  · rintro ⟨row, ⟨member, kept⟩, rfl⟩
    exact ⟨⟨row, member, rfl⟩, kept⟩
  · rintro ⟨⟨row, member, rfl⟩, kept⟩
    exact ⟨row, ⟨member, kept⟩, rfl⟩

theorem without_eq_self {dropped : Finset κ} {rows : List α}
    (absent : Disjoint (keys key rows) dropped) : without key dropped rows = rows := by
  unfold without
  rw [List.filter_eq_self]
  intro row member
  simpa using Finset.disjoint_left.mp absent (key_mem_keys member)

theorem without_without (first second : Finset κ) (rows : List α) :
    without key second (without key first rows) = without key (first ∪ second) rows := by
  unfold without
  rw [List.filter_filter]
  apply List.filter_congr
  intro row _
  by_cases gone : key row ∈ first <;> simp [gone]

section Having

/-- The rows of one key, in order. -/
def having (key : α → κ) (k : κ) (rows : List α) : List α := rows.filter fun row => key row = k

variable {k : κ} {rows : List α}

@[simp] theorem having_nil : having key k [] = [] := rfl

@[simp] theorem having_append (left right : List α) :
    having key k (left ++ right) = having key k left ++ having key k right := by
  simp [having]

theorem having_cons_self (row : α) (rows : List α) :
    having key (key row) (row :: rows) = row :: having key (key row) rows := by
  simp [having]

theorem having_cons_of_ne {row : α} (other : key row ≠ k) (rows : List α) :
    having key k (row :: rows) = having key k rows := by
  simp [having, other]

theorem having_eq_nil : having key k rows = [] ↔ k ∉ keys key rows := by
  simp [having, mem_keys]

theorem having_without (dropped : Finset κ) (rows : List α) :
    having key k (without key dropped rows) = if k ∈ dropped then [] else having key k rows := by
  unfold having without
  rw [List.filter_filter]
  split
  · rename_i gone
    rw [List.filter_eq_nil_iff]
    intro row _ both
    simp only [Bool.and_eq_true, decide_eq_true_eq] at both
    exact both.2 (both.1 ▸ gone)
  · rename_i kept
    apply List.filter_congr
    intro row _
    by_cases same : key row = k
    · simp [same, kept]
    · simp [same]

/-- The first row of every key that has not been seen. -/
theorem having_fresh (seen : Finset κ) (rows : List α) :
    having key k (fresh key seen rows) = if k ∈ seen then [] else (having key k rows).take 1 := by
  induction rows generalizing seen with
  | nil => simp [fresh]
  | cons row rows ih =>
    unfold fresh
    by_cases same : key row = k
    · subst same
      by_cases old : key row ∈ seen
      · simp [old, ih]
      · simp [old, ih, having_cons_self]
    · rw [having_cons_of_ne same]
      by_cases old : key row ∈ seen
      · simp [old, ih]
      · simp [old, ih, having_cons_of_ne same, Ne.symm same]

theorem length_having : (having key k rows).length = (rows.map key).count k := by
  induction rows with
  | nil => rfl
  | cons row rows ih =>
    by_cases same : key row = k
    · subst same
      simp [having_cons_self, ih]
    · simp [having_cons_of_ne same, same, ih]

theorem nodup_iff : (rows.map key).Nodup ↔ ∀ k, (having key k rows).length ≤ 1 := by
  simp only [List.nodup_iff_count_le_one, length_having]

theorem length_having_of_nodup (distinct : (rows.map key).Nodup) (member : k ∈ keys key rows) :
    (having key k rows).length = 1 := by
  have most := nodup_iff.mp distinct k
  have least : having key k rows ≠ [] := fun none => having_eq_nil.mp none member
  have positive := List.length_pos_iff.mpr least
  omega

end Having

end Tasklite.Library.Fresh
