import Mathlib.Data.Finset.Card
import Mathlib.Data.List.Sort
import Tasklite.Library.Dict
import Tasklite.Library.Fresh

/-! Tables with a primary key: the statements that write rows, the number of rows that they change, and the
order in which a query lists them. A transaction commits what its block leaves or takes all of it back. -/

namespace Tasklite.Library.Table

section Transactions

variable {σ ε α : Type*}

/-- Commit what the block leaves, or take everything back when it raises. -/
def transact (state : σ) (block : Except ε (σ × α)) : σ × Except ε α :=
  match block with
  | .error raised => (state, .error raised)
  | .ok (after, value) => (after, .ok value)

theorem transact_raised {state : σ} {block : Except ε (σ × α)} {raised : ε}
    (refused : (transact state block).2 = .error raised) : (transact state block).1 = state := by
  unfold transact at refused ⊢
  split at refused
  · rfl
  · cases refused

/-- What holds before a transaction and after its block holds after it. -/
theorem transact_keeps {state : σ} {block : Except ε (σ × α)} {invariant : σ → Prop} (before : invariant state)
    (after : ∀ next value, block = .ok (next, value) → invariant next) : invariant (transact state block).1 := by
  unfold transact
  split
  · exact before
  · exact after _ _ rfl

end Transactions

variable {κ ν : Type*} [DecidableEq κ]

/-- `INSERT`: a key that is there is a conflict. -/
def insert (table : Dict κ ν) (key : κ) (row : ν) : Option (Dict κ ν) :=
  if table.contains key then none else some (table.set key row)

/-- `INSERT` of several rows, one after the other. -/
def insertMany (table : Dict κ ν) : List (κ × ν) → Option (Dict κ ν)
  | [] => some table
  | row :: rows => match insert table row.1 row.2 with
      | none => none
      | some table => insertMany table rows

/-- `INSERT OR IGNORE` of several rows, with the number of those that were inserted. -/
def insertOrIgnoreMany (table : Dict κ ν) : List (κ × ν) → Dict κ ν × ℕ
  | [] => (table, 0)
  | row :: rows => match insert table row.1 row.2 with
      | none => insertOrIgnoreMany table rows
      | some table => ((insertOrIgnoreMany table rows).1, (insertOrIgnoreMany table rows).2 + 1)

/-- `INSERT OR REPLACE`: the row of the key goes, and the new one comes last. -/
def insertOrReplace (table : Dict κ ν) (key : κ) (row : ν) : Dict κ ν := (table.erase key).set key row

/-- `INSERT OR REPLACE` of several rows, one after the other. -/
def insertOrReplaceMany (table : Dict κ ν) (rows : List (κ × ν)) : Dict κ ν :=
  rows.foldl (fun table row => insertOrReplace table row.1 row.2) table

/-- `DELETE` of several keys, one after the other, with the number of rows that went. -/
def deleteMany (table : Dict κ ν) : List κ → Dict κ ν × ℕ
  | [] => (table, 0)
  | key :: keys =>
      let rest := deleteMany (table.erase key) keys
      (rest.1, rest.2 + if table.contains key then 1 else 0)

/-- `SELECT … ORDER BY`. -/
def orderBy (rank : κ × ν → ℤ) (table : Dict κ ν) : List (κ × ν) :=
  table.entries.insertionSort fun first second => rank first ≤ rank second

theorem get?_insertOrReplace (table : Dict κ ν) (key k : κ) (row : ν) :
    (insertOrReplace table key row).get? k = if k = key then some row else table.get? k := by
  rw [insertOrReplace, Dict.get?_set, Dict.get?_erase]
  split
  · rfl
  · rfl

section Inserting

theorem entries_insert {table after : Dict κ ν} {key : κ} {row : ν} (inserted : insert table key row = some after) :
    after.entries = table.entries ++ [(key, row)] := by
  unfold insert at inserted
  split at inserted
  · cases inserted
  · rename_i absent
    cases inserted
    exact Dict.place_of_notMem (fun member => absent (Dict.contains_iff.mpr member)) row

theorem insert_eq_none {table : Dict κ ν} {key : κ} {row : ν} : insert table key row = none ↔ key ∈ table.keys := by
  rw [insert, ← Dict.contains_iff]
  by_cases present : table.contains key = true
  · simp [present]
  · simp [present]

theorem keys_insert {table after : Dict κ ν} {key : κ} {row : ν} (inserted : insert table key row = some after) :
    after.keys.toFinset = Insert.insert key table.keys.toFinset := by
  ext k
  rw [Dict.keys, entries_insert inserted, List.map_append, List.mem_toFinset, Finset.mem_insert, List.mem_toFinset]
  simp [Dict.keys, or_comm]

/-- The rows with new keys come last, in their order. -/
theorem insertOrIgnoreMany_eq (table : Dict κ ν) (rows : List (κ × ν)) :
    (insertOrIgnoreMany table rows).1.entries = table.entries ++ Fresh.fresh Prod.fst table.keys.toFinset rows ∧
      (insertOrIgnoreMany table rows).2 = (Fresh.fresh Prod.fst table.keys.toFinset rows).length := by
  induction rows generalizing table with
  | nil => exact ⟨(List.append_nil _).symm, rfl⟩
  | cons row rows ih =>
    unfold insertOrIgnoreMany Fresh.fresh
    cases inserted : insert table row.1 row.2 with
    | none =>
      have present : row.1 ∈ table.keys.toFinset := List.mem_toFinset.mpr (insert_eq_none.mp inserted)
      rw [if_pos present]
      exact ih table
    | some after =>
      have absent : row.1 ∉ table.keys.toFinset := by
        intro member
        rw [insert_eq_none.mpr (List.mem_toFinset.mp member)] at inserted
        cases inserted
      rw [if_neg absent, ← keys_insert inserted]
      obtain ⟨entries, count⟩ := ih after
      constructor
      · show (insertOrIgnoreMany after rows).1.entries = _
        rw [entries, entries_insert inserted, List.append_assoc, List.singleton_append]
      · show (insertOrIgnoreMany after rows).2 + 1 = _
        rw [count, List.length_cons]

/-- Rows with keys of their own are all inserted. -/
theorem insertMany_of_fresh {table : Dict κ ν} {rows : List (κ × ν)}
    (fresh : Fresh.fresh Prod.fst table.keys.toFinset rows = rows) :
    ∃ after, insertMany table rows = some after ∧ after.entries = table.entries ++ rows := by
  induction rows generalizing table with
  | nil => exact ⟨table, rfl, (List.append_nil _).symm⟩
  | cons row rows ih =>
    unfold Fresh.fresh at fresh
    split at fresh
    · have shorter : (Fresh.fresh Prod.fst table.keys.toFinset rows).length ≤ rows.length :=
        (Fresh.fresh_sublist _ _).length_le
      rw [fresh, List.length_cons] at shorter
      omega
    · rename_i absent
      cases inserted : insert table row.1 row.2 with
      | none => exact absurd (List.mem_toFinset.mpr (insert_eq_none.mp inserted)) absent
      | some after =>
        rw [← keys_insert inserted] at fresh
        obtain ⟨last, rest, entries⟩ := ih (List.cons.inj fresh).2
        refine ⟨last, ?_, ?_⟩
        · rw [insertMany, inserted]
          exact rest
        · rw [entries, entries_insert inserted, List.append_assoc, List.singleton_append]

theorem entries_insertMany {table after : Dict κ ν} {rows : List (κ × ν)}
    (inserted : insertMany table rows = some after) : after.entries = table.entries ++ rows := by
  induction rows generalizing table with
  | nil =>
    rw [← Option.some.inj inserted, List.append_nil]
  | cons row rows ih =>
    unfold insertMany at inserted
    split at inserted
    · cases inserted
    · rename_i first one
      rw [ih inserted, entries_insert one, List.append_assoc, List.singleton_append]

theorem mem_insertOrReplaceMany {table : Dict κ ν} {rows : List (κ × ν)} {entry : κ × ν}
    (member : entry ∈ (insertOrReplaceMany table rows).entries) : entry ∈ table.entries ∨ entry ∈ rows := by
  induction rows generalizing table with
  | nil => exact .inl member
  | cons row rows ih =>
    rcases ih member with before | later
    · have found := Dict.mem_entries.mp before
      rw [get?_insertOrReplace] at found
      split at found
      · rename_i own
        refine .inr (List.mem_cons.mpr (.inl ?_))
        exact Prod.ext own (Option.some.inj found).symm
      · exact .inl (Dict.mem_entries.mpr found)
    · exact .inr (List.mem_cons_of_mem _ later)

theorem insertOrReplace_eq {table after : Dict κ ν} {key : κ} {row : ν}
    (inserted : insert table key row = some after) :
    insertOrReplace table key row = after := by
  unfold insert at inserted
  split at inserted
  · cases inserted
  · rename_i absent
    cases inserted
    have whole : table.erase key = table := by
      apply Dict.ext
      refine List.filter_eq_self.mpr fun entry member => ?_
      have other : entry.1 ≠ key := by
        rintro rfl
        exact absent (Dict.contains_iff.mpr (List.mem_map_of_mem member))
      simpa using other
    rw [insertOrReplace, whole]

theorem insertOrReplaceMany_eq {table after : Dict κ ν} {rows : List (κ × ν)}
    (inserted : insertMany table rows = some after) : insertOrReplaceMany table rows = after := by
  induction rows generalizing table with
  | nil => exact Option.some.inj inserted
  | cons row rows ih =>
    unfold insertMany at inserted
    split at inserted
    · cases inserted
    · rename_i first one
      show insertOrReplaceMany (insertOrReplace table row.1 row.2) rows = after
      rw [insertOrReplace_eq one]
      exact ih inserted

theorem get?_insertOrReplaceMany (table : Dict κ ν) (keys : List κ) (row : ν) (k : κ) :
    (insertOrReplaceMany table (keys.map fun key => (key, row))).get? k =
      if k ∈ keys then some row else table.get? k := by
  induction keys generalizing table with
  | nil => rfl
  | cons key keys ih =>
    show (insertOrReplaceMany (insertOrReplace table key row) (keys.map fun key => (key, row))).get? k = _
    rw [ih, get?_insertOrReplace]
    by_cases own : k = key
    · simp [own]
    · simp [own]

end Inserting

section Deleting

theorem entries_deleteMany (table : Dict κ ν) (keys : List κ) :
    (deleteMany table keys).1.entries = Fresh.without Prod.fst keys.toFinset table.entries := by
  induction keys generalizing table with
  | nil => exact (Fresh.without_eq_self (Finset.disjoint_empty_right _)).symm
  | cons key keys ih =>
    have first : (table.erase key).entries = Fresh.without Prod.fst {key} table.entries := by
      apply List.filter_congr
      simp
    calc (deleteMany table (key :: keys)).1.entries
        = Fresh.without Prod.fst keys.toFinset (table.erase key).entries := ih (table.erase key)
      _ = Fresh.without Prod.fst (key :: keys).toFinset table.entries := by
        rw [first, Fresh.without_without, List.toFinset_cons, Finset.insert_eq]

/-- The keys that went are counted once each. -/
theorem count_deleteMany (table : Dict κ ν) (keys : List κ) :
    (deleteMany table keys).2 = (keys.toFinset ∩ table.keys.toFinset).card := by
  induction keys generalizing table with
  | nil => rfl
  | cons key keys ih =>
    have left : (table.erase key).keys.toFinset = table.keys.toFinset.erase key := by
      ext k
      rw [List.mem_toFinset, Dict.mem_keys_erase, Finset.mem_erase, List.mem_toFinset]
    show (deleteMany (table.erase key) keys).2 + (if table.contains key then 1 else 0) = _
    rw [ih, left, List.toFinset_cons, Finset.inter_erase]
    by_cases present : key ∈ table.keys
    · have member : key ∈ table.keys.toFinset := List.mem_toFinset.mpr present
      have counted : key ∈ Insert.insert key keys.toFinset ∩ table.keys.toFinset :=
        Finset.mem_inter.mpr ⟨Finset.mem_insert_self _ _, member⟩
      rw [if_pos (Dict.contains_iff.mpr present), ← Finset.card_erase_add_one counted,
        Finset.insert_inter_of_mem member, Finset.erase_insert_eq_erase]
    · have missing : key ∉ table.keys.toFinset := fun member => present (List.mem_toFinset.mp member)
      rw [if_neg (fun found => present (Dict.contains_iff.mp found)), Finset.insert_inter_of_notMem missing,
        Finset.erase_eq_of_notMem fun member => missing (Finset.mem_inter.mp member).2, Nat.add_zero]

theorem length_entries (table : Dict κ ν) : table.entries.length = table.keys.toFinset.card := by
  rw [Dict.keys, List.toFinset_card_of_nodup table.distinct, List.length_map]

/-- The rows that went are the rows that are missing. -/
theorem count_eq_missing (table : Dict κ ν) (keys : List κ) :
    (deleteMany table keys).2 = table.entries.length - (deleteMany table keys).1.entries.length := by
  have left : (deleteMany table keys).1.keys.toFinset = table.keys.toFinset \ keys.toFinset := by
    rw [Dict.keys, entries_deleteMany]
    exact Fresh.keys_without keys.toFinset table.entries
  have most : (keys.toFinset ∩ table.keys.toFinset).card ≤ table.keys.toFinset.card :=
    Finset.card_le_card Finset.inter_subset_right
  rw [length_entries, length_entries, left, count_deleteMany, Finset.card_sdiff]
  omega

theorem get?_deleteMany (table : Dict κ ν) (keys : List κ) (k : κ) :
    (deleteMany table keys).1.get? k = if k ∈ keys then none else table.get? k := by
  induction keys generalizing table with
  | nil => rfl
  | cons key keys ih =>
    show (deleteMany (table.erase key) keys).1.get? k = _
    rw [ih, Dict.get?_erase]
    by_cases own : k = key
    · simp [own]
    · simp [own]

end Deleting

section Listing

variable {rank : κ × ν → ℤ}

/-- The rows of a table by their ranks, which are all different. -/
structure Listed (rank : κ × ν → ℤ) (table : Dict κ ν) (listing : List (κ × ν)) : Prop where
  perm : listing.Perm table.entries
  ordered : listing.Pairwise fun first second => rank first < rank second

omit [DecidableEq κ] in
theorem orderBy_eq {table : Dict κ ν} {listing : List (κ × ν)} (listed : Listed rank table listing) :
    orderBy rank table = listing := by
  have sorted : (orderBy rank table).Pairwise fun first second => rank first ≤ rank second :=
    List.pairwise_insertionSort _ _
  have same : (orderBy rank table).Perm listing := (List.perm_insertionSort _ _).trans listed.perm.symm
  have distinct : (listing.map rank).Nodup := List.pairwise_map.mpr (listed.ordered.imp ne_of_lt)
  refine List.Perm.eq_of_pairwise ?_ sorted (listed.ordered.imp le_of_lt) same
  intro first second member other below above
  exact List.inj_on_of_nodup_map distinct (same.mem_iff.mp member) other (le_antisymm below above)

theorem Listed.without {table after : Dict κ ν} {listing : List (κ × ν)} (listed : Listed rank table listing)
    (dropped : Finset κ) (entries : after.entries = Fresh.without Prod.fst dropped table.entries) :
    Listed rank after (Fresh.without Prod.fst dropped listing) where
  perm := by
    rw [entries]
    exact listed.perm.filter _
  ordered := listed.ordered.sublist (Fresh.without_sublist _ _)

omit [DecidableEq κ] in
/-- New rows below all others come first. -/
theorem Listed.front {table after : Dict κ ν} {listing rows : List (κ × ν)} (listed : Listed rank table listing)
    (entries : after.entries = table.entries ++ rows)
    (ordered : rows.Pairwise fun first second => rank first < rank second)
    (below : ∀ first ∈ rows, ∀ second ∈ table.entries, rank first < rank second) :
    Listed rank after (rows ++ listing) where
  perm := by
    rw [entries]
    exact List.perm_append_comm.trans (listed.perm.append_right rows)
  ordered := List.pairwise_append.mpr ⟨ordered, listed.ordered, fun first fresh second old =>
    below first fresh second (listed.perm.mem_iff.mp old)⟩

omit [DecidableEq κ] in
/-- New rows above all others come last. -/
theorem Listed.back {table after : Dict κ ν} {listing rows : List (κ × ν)} (listed : Listed rank table listing)
    (entries : after.entries = table.entries ++ rows)
    (ordered : rows.Pairwise fun first second => rank first < rank second)
    (above : ∀ first ∈ rows, ∀ second ∈ table.entries, rank second < rank first) :
    Listed rank after (listing ++ rows) where
  perm := by
    rw [entries]
    exact listed.perm.append_right rows
  ordered := List.pairwise_append.mpr ⟨listed.ordered, ordered, fun second old first fresh =>
    above first fresh second (listed.perm.mem_iff.mp old)⟩

end Listing

end Tasklite.Library.Table
