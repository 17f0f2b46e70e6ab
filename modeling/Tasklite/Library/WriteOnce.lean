import Tasklite.Library.Dict

/-! Tables that only grow. A row is appended under the next serial number, is open at
first, and may be closed once; from then on it stays as it is. -/

namespace Tasklite.Library.WriteOnce

variable {ρ ι : Type*}

/-- The keys rise in the order in which they were appended, and the next serial number is above them. -/
structure Serial (table : Dict Int ρ) (next : ℕ) : Prop where
  rising : table.keys.Pairwise (· < ·)
  below : ∀ key ∈ table.keys, key < next

/-- What became of a table: rows were appended, none has lost its identity, and a closed row is as it was. -/
structure Grows (identity : ρ → ι) (isOpen : ρ → Prop) (before after : Dict Int ρ) : Prop where
  keys : before.keys <+: after.keys
  kept : ∀ key row, before.get? key = some row → ∃ later, after.get? key = some later ∧
    identity later = identity row ∧ (¬ isOpen row → later = row)

variable {identity : ρ → ι} {isOpen : ρ → Prop} {before between after table : Dict Int ρ} {next : ℕ} {key : Int}
  {row later : ρ}

theorem serial_empty (next : ℕ) : Serial (Dict.empty : Dict Int ρ) next where
  rising := List.Pairwise.nil
  below := by
    intro key member
    cases member

theorem Serial.notMem (serial : Serial table next) : (next : Int) ∉ table.keys := by
  intro member
  exact Int.lt_irrefl _ (serial.below next member)

theorem keys_set_of_notMem (absent : key ∉ table.keys) : (table.set key row).keys = table.keys ++ [key] := by
  have placed : (table.set key row).entries = table.entries ++ [(key, row)] := Dict.place_of_notMem absent row
  unfold Dict.keys
  rw [placed, List.map_append]
  rfl

theorem keys_set_of_mem (present : key ∈ table.keys) : (table.set key row).keys = table.keys :=
  Dict.keys_place_of_mem present row

theorem mem_keys_of_get? (found : table.get? key = some row) : key ∈ table.keys := by
  rw [← Dict.contains_iff]
  unfold Dict.contains
  rw [found]
  rfl

/-- Appending a row under the next serial number. -/
theorem Serial.append (serial : Serial table next) (row : ρ) : Serial (table.set next row) (next + 1) where
  rising := by
    rw [keys_set_of_notMem serial.notMem]
    apply List.pairwise_append.mpr
    refine ⟨serial.rising, List.pairwise_singleton _ _, ?_⟩
    intro key member last equal
    rw [List.mem_singleton.mp equal]
    exact serial.below key member
  below := by
    intro key member
    rcases Dict.mem_keys_set.mp member with rfl | old
    · omega
    · have bound := serial.below key old
      omega

theorem Serial.close (serial : Serial table next) (found : table.get? key = some row) :
    Serial (table.set key later) next where
  rising := by
    rw [keys_set_of_mem (mem_keys_of_get? found)]
    exact serial.rising
  below := by
    rw [keys_set_of_mem (mem_keys_of_get? found)]
    exact serial.below

theorem grows_refl (table : Dict Int ρ) : Grows identity isOpen table table where
  keys := List.prefix_rfl
  kept := fun _ row found => ⟨row, found, rfl, fun _ => rfl⟩

theorem Grows.trans (first : Grows identity isOpen before between) (second : Grows identity isOpen between after) :
    Grows identity isOpen before after where
  keys := List.IsPrefix.trans first.keys second.keys
  kept := by
    intro key row found
    obtain ⟨middle, reached, same, closed⟩ := first.kept key row found
    obtain ⟨later, ends, still, stays⟩ := second.kept key middle reached
    refine ⟨later, ends, still.trans same, ?_⟩
    intro final
    have unchanged : middle = row := closed final
    rw [unchanged] at stays
    exact stays final

theorem grows_append (absent : key ∉ table.keys) (row : ρ) : Grows identity isOpen table (table.set key row) where
  keys := by
    rw [keys_set_of_notMem absent]
    exact List.prefix_append _ _
  kept := by
    intro other kept found
    have different : other ≠ key := by
      rintro rfl
      exact absent (mem_keys_of_get? found)
    exact ⟨kept, by rw [Dict.get?_set_of_ne _ _ different, found], rfl, fun _ => rfl⟩

/-- Closing an open row. -/
theorem grows_close (found : table.get? key = some row) (opened : isOpen row) (same : identity later = identity row) :
    Grows identity isOpen table (table.set key later) where
  keys := by
    have same : (table.set key later).keys = table.keys := keys_set_of_mem (mem_keys_of_get? found)
    exact ⟨[], by rw [List.append_nil, same]⟩
  kept := by
    intro other kept there
    by_cases equal : other = key
    · subst equal
      obtain rfl : row = kept := Option.some.inj (found.symm.trans there)
      exact ⟨later, Dict.get?_set_self _ _ _, same, fun closed => absurd opened closed⟩
    · exact ⟨kept, by rw [Dict.get?_set_of_ne _ _ equal, there], rfl, fun _ => rfl⟩

section Picked

variable (pick : ρ → Bool)

/-- The entries of the rows that a predicate picks, in their order. -/
def picked (table : Dict Int ρ) : List (Int × ρ) := table.entries.filter fun entry => pick entry.2

variable {pick}

theorem mem_picked {entry : Int × ρ} :
    entry ∈ picked pick table ↔ table.get? entry.1 = some entry.2 ∧ pick entry.2 = true := by
  unfold picked
  rw [List.mem_filter, ← Dict.mem_entries]

theorem picked_place_of_not {entries : List (Int × ρ)} (plain : pick later = false)
    (before : ∀ entry ∈ entries, entry.1 = key → pick entry.2 = false) :
    (Dict.place key later entries).filter (fun entry => pick entry.2) = entries.filter fun entry => pick entry.2 := by
  induction entries with
  | nil => simp [Dict.place, plain]
  | cons entry rest ih =>
    rcases entry with ⟨other, row⟩
    by_cases same : key = other
    · have unpicked : pick row = false := before (other, row) List.mem_cons_self same.symm
      simp [Dict.place, same, plain, unpicked]
    · have rest := ih fun entry member => before entry (List.mem_cons_of_mem _ member)
      simp only [Dict.place, if_neg same, List.filter_cons, rest]

/-- A row that is not picked, in the place of none or of another that was not picked. -/
theorem picked_set_of_not (plain : pick later = false)
    (before : ∀ row, table.get? key = some row → pick row = false) :
    picked pick (table.set key later) = picked pick table := by
  apply picked_place_of_not plain
  rintro ⟨other, row⟩ member rfl
  exact before row (Dict.mem_entries.mp member)

theorem picked_place_last {entries : List (Int × ρ)} (rising : (entries.map Prod.fst).Pairwise (· < ·))
    (found : (key, row) ∈ entries) (before : pick row = false) (now : pick later = true)
    (above : ∀ entry ∈ entries, pick entry.2 = true → entry.1 < key) :
    (Dict.place key later entries).filter (fun entry => pick entry.2) =
      (entries.filter fun entry => pick entry.2) ++ [(key, later)] := by
  induction entries with
  | nil => cases found
  | cons entry rest ih =>
    rcases entry with ⟨other, old⟩
    rw [List.map_cons, List.pairwise_cons] at rising
    by_cases same : key = other
    · subst same
      have own : old = row := by
        rcases List.mem_cons.mp found with first | later
        · exact (Prod.mk.inj first).2.symm
        · exact absurd (rising.1 key (List.mem_map_of_mem later)) (Int.lt_irrefl key)
      have none_later : rest.filter (fun entry => pick entry.2) = [] := by
        rw [List.filter_eq_nil_iff]
        intro entry member picked
        have low := above entry (List.mem_cons_of_mem _ member) picked
        have high := rising.1 entry.1 (List.mem_map_of_mem member)
        omega
      simp [Dict.place, own, before, now, none_later]
    · have later_found : (key, row) ∈ rest := by
        rcases List.mem_cons.mp found with first | later
        · exact absurd (Prod.mk.inj first).1 same
        · exact later
      have rest := ih rising.2 later_found fun entry member => above entry (List.mem_cons_of_mem _ member)
      simp only [Dict.place, if_neg same, List.filter_cons, rest]
      split <;> rfl

/-- A row that is picked now, above all that were picked before. -/
theorem picked_set_last (serial : Serial table next) (found : table.get? key = some row) (before : pick row = false)
    (now : pick later = true) (above : ∀ entry ∈ picked pick table, entry.1 < key) :
    picked pick (table.set key later) = picked pick table ++ [(key, later)] := by
  apply picked_place_last serial.rising (Dict.mem_entries.mpr found) before now
  intro entry member picks
  exact above entry (List.mem_filter.mpr ⟨member, picks⟩)

/-- Looking for a picked row from the end finds the last of them. -/
theorem find?_reverse_picked (table : Dict Int ρ) :
    (table.entries.map Prod.snd).reverse.find? pick = (picked pick table).getLast?.map Prod.snd := by
  unfold picked
  rw [← List.map_reverse, List.find?_map, List.getLast?_eq_head?_reverse, ← List.filter_reverse, List.head?_filter]
  rfl

end Picked

end Tasklite.Library.WriteOnce
