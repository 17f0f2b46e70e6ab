import Mathlib.Data.List.Nodup
import Mathlib.Data.List.Basic
import Mathlib.Data.List.Induction

/-! Dictionaries that remember insertion order. Writing to a key that is present
keeps the key's place, writing to a new key appends it. The keys of a dictionary
are distinct by construction. -/

namespace Tasklite.Library

variable {κ ν : Type*}

/-- Entries in insertion order, one for every key. -/
@[ext] structure Dict (κ ν : Type*) where
  entries : List (κ × ν)
  distinct : (entries.map Prod.fst).Nodup

namespace Dict

instance [DecidableEq κ] [DecidableEq ν] : DecidableEq (Dict κ ν) := fun left right =>
  decidable_of_iff (left.entries = right.entries) Dict.ext_iff.symm

/-- The keys in insertion order. -/
def keys (dict : Dict κ ν) : List κ := dict.entries.map Prod.fst

def empty : Dict κ ν := ⟨[], List.nodup_nil⟩

instance : Inhabited (Dict κ ν) := ⟨empty⟩

variable [DecidableEq κ]

/-- The value of a key in a list of entries. -/
def find (key : κ) : List (κ × ν) → Option ν
  | [] => none
  | (other, value) :: rest => if key = other then some value else find key rest

/-- Overwrite a key where it stands, or append it. -/
def place (key : κ) (value : ν) : List (κ × ν) → List (κ × ν)
  | [] => [(key, value)]
  | (other, previous) :: rest =>
      if key = other then (key, value) :: rest else (other, previous) :: place key value rest

theorem mem_keys_place {key k : κ} {value : ν} {entries : List (κ × ν)} :
    k ∈ (place key value entries).map Prod.fst ↔ k = key ∨ k ∈ entries.map Prod.fst := by
  induction entries with
  | nil => simp [place]
  | cons entry rest ih =>
    rcases entry with ⟨other, previous⟩
    by_cases same : key = other
    · simp [place, same]
    · simp only [place, if_neg same, List.map_cons, List.mem_cons, ih]
      tauto

theorem place_distinct (key : κ) (value : ν) {entries : List (κ × ν)}
    (distinct : (entries.map Prod.fst).Nodup) : ((place key value entries).map Prod.fst).Nodup := by
  induction entries with
  | nil => simp [place]
  | cons entry rest ih =>
    rcases entry with ⟨other, previous⟩
    rw [List.map_cons, List.nodup_cons] at distinct
    by_cases same : key = other
    · subst same
      simpa [place] using distinct
    · simp only [place, if_neg same, List.map_cons, List.nodup_cons]
      refine ⟨fun member => ?_, ih distinct.2⟩
      rcases mem_keys_place.mp member with equal | old
      · exact same equal.symm
      · exact distinct.1 old

theorem place_of_notMem {key : κ} {entries : List (κ × ν)} (absent : key ∉ entries.map Prod.fst) (value : ν) :
    place key value entries = entries ++ [(key, value)] := by
  induction entries with
  | nil => rfl
  | cons entry rest ih =>
    rcases entry with ⟨other, previous⟩
    rw [List.map_cons, List.mem_cons, not_or] at absent
    rw [place, if_neg absent.1, ih absent.2, List.cons_append]

theorem keys_place_of_mem {key : κ} {entries : List (κ × ν)} (present : key ∈ entries.map Prod.fst) (value : ν) :
    (place key value entries).map Prod.fst = entries.map Prod.fst := by
  induction entries with
  | nil => cases present
  | cons entry rest ih =>
    rcases entry with ⟨other, previous⟩
    by_cases same : key = other
    · simp [place, same]
    · have later : key ∈ rest.map Prod.fst := by simpa [same] using present
      rw [place, if_neg same, List.map_cons, List.map_cons, ih later]

def get? (dict : Dict κ ν) (key : κ) : Option ν := find key dict.entries

def contains (dict : Dict κ ν) (key : κ) : Bool := (dict.get? key).isSome

def set (dict : Dict κ ν) (key : κ) (value : ν) : Dict κ ν :=
  ⟨place key value dict.entries, place_distinct key value dict.distinct⟩

def erase (dict : Dict κ ν) (key : κ) : Dict κ ν :=
  ⟨dict.entries.filter (fun entry => entry.1 ≠ key),
    dict.distinct.sublist (List.filter_sublist.map Prod.fst)⟩

/-- Write a list of pairs, the last one of every key standing. -/
def update (dict : Dict κ ν) (pairs : List (κ × ν)) : Dict κ ν :=
  pairs.foldl (fun dict pair => dict.set pair.1 pair.2) dict

def ofPairs (pairs : List (κ × ν)) : Dict κ ν := empty.update pairs

theorem find_place (key k : κ) (value : ν) (entries : List (κ × ν)) :
    find k (place key value entries) = if k = key then some value else find k entries := by
  induction entries with
  | nil => simp [place, find]
  | cons entry rest ih =>
    rcases entry with ⟨other, previous⟩
    by_cases same : key = other
    · subst same
      by_cases asked : k = key <;> simp [place, find, asked]
    · simp only [place, if_neg same, find, ih]
      by_cases asked : k = other
      · subst asked
        simp [Ne.symm same]
      · simp [asked]

@[simp] theorem get?_empty (key : κ) : (empty : Dict κ ν).get? key = none := rfl

theorem get?_set (dict : Dict κ ν) (key k : κ) (value : ν) :
    (dict.set key value).get? k = if k = key then some value else dict.get? k :=
  find_place key k value dict.entries

@[simp] theorem get?_set_self (dict : Dict κ ν) (key : κ) (value : ν) :
    (dict.set key value).get? key = some value := by
  simp [get?_set]

theorem get?_set_of_ne (dict : Dict κ ν) {key k : κ} (value : ν) (different : k ≠ key) :
    (dict.set key value).get? k = dict.get? k := by
  simp [get?_set, different]

theorem find_filter (key k : κ) (entries : List (κ × ν)) :
    find k (entries.filter (fun entry => entry.1 ≠ key)) =
      if k = key then none else find k entries := by
  induction entries with
  | nil => simp [find]
  | cons entry rest ih =>
    rcases entry with ⟨other, value⟩
    by_cases dropped : other = key
    · rw [List.filter_cons_of_neg (by simpa using dropped), ih]
      by_cases asked : k = key
      · simp [asked]
      · have kept : k ≠ other := dropped ▸ asked
        simp [find, asked, kept]
    · rw [List.filter_cons_of_pos (by simpa using dropped), find, find, ih]
      by_cases asked : k = key
      · have moved : k ≠ other := fun same => dropped (same ▸ asked)
        simp [asked, asked ▸ moved]
      · simp [asked]

theorem get?_erase (dict : Dict κ ν) (key k : κ) :
    (dict.erase key).get? k = if k = key then none else dict.get? k :=
  find_filter key k dict.entries

/-- Erasing several keys. -/
theorem get?_eraseAll (dict : Dict κ ν) (keys : List κ) (k : κ) :
    (keys.foldl erase dict).get? k = if k ∈ keys then none else dict.get? k := by
  induction keys generalizing dict with
  | nil => rfl
  | cons key rest ih =>
    rw [List.foldl_cons, ih, get?_erase]
    by_cases own : k = key
    · simp [own]
    · simp [own]

/-- Giving several keys one value. -/
theorem get?_setAll (dict : Dict κ ν) (keys : List κ) (value : ν) (k : κ) :
    (keys.foldl (fun dict key => dict.set key value) dict).get? k =
      if k ∈ keys then some value else dict.get? k := by
  induction keys generalizing dict with
  | nil => rfl
  | cons key rest ih =>
    rw [List.foldl_cons, ih, get?_set]
    by_cases own : k = key
    · simp [own]
    · simp [own]

theorem mem_keys_iff {key : κ} {entries : List (κ × ν)} :
    key ∈ entries.map Prod.fst ↔ ∃ value, find key entries = some value := by
  induction entries with
  | nil => simp [find]
  | cons entry rest ih =>
    rcases entry with ⟨other, value⟩
    by_cases same : key = other
    · simp [find, same]
    · simp only [List.map_cons, List.mem_cons, same, false_or, find, if_false, ih]

theorem mem_entries_iff {entries : List (κ × ν)} (distinct : (entries.map Prod.fst).Nodup)
    {key : κ} {value : ν} : (key, value) ∈ entries ↔ find key entries = some value := by
  induction entries with
  | nil => simp [find]
  | cons entry rest ih =>
    rcases entry with ⟨other, previous⟩
    rw [List.map_cons, List.nodup_cons] at distinct
    by_cases same : key = other
    · subst same
      have absent : (key, value) ∉ rest := fun member => distinct.1 (List.mem_map.mpr ⟨_, member, rfl⟩)
      simp [find, absent, eq_comm]
    · simp [find, same, ih distinct.2]

theorem mem_entries {dict : Dict κ ν} {key : κ} {value : ν} :
    (key, value) ∈ dict.entries ↔ dict.get? key = some value :=
  mem_entries_iff dict.distinct

theorem get?_update_of_notMem (dict : Dict κ ν) {pairs : List (κ × ν)} {k : κ}
    (absent : k ∉ pairs.map Prod.fst) : (dict.update pairs).get? k = dict.get? k := by
  induction pairs generalizing dict with
  | nil => rfl
  | cons pair rest ih =>
    simp only [List.map_cons, List.mem_cons, not_or] at absent
    calc (dict.update (pair :: rest)).get? k
        = (dict.set pair.1 pair.2).get? k := ih (dict.set pair.1 pair.2) absent.2
      _ = dict.get? k := get?_set_of_ne dict pair.2 absent.1

theorem get?_update_of_mem (dict : Dict κ ν) {pairs : List (κ × ν)} {k : κ} {value : ν}
    (distinct : (pairs.map Prod.fst).Nodup) (member : (k, value) ∈ pairs) :
    (dict.update pairs).get? k = some value := by
  induction pairs generalizing dict with
  | nil => cases member
  | cons pair rest ih =>
    rw [List.map_cons, List.nodup_cons] at distinct
    rcases List.mem_cons.mp member with rfl | later
    · calc (dict.update ((k, value) :: rest)).get? k
          = (dict.set k value).get? k := get?_update_of_notMem (dict.set k value) distinct.1
        _ = some value := get?_set_self dict k value
    · exact ih (dict.set pair.1 pair.2) distinct.2 later

theorem get?_update (dict : Dict κ ν) {pairs : List (κ × ν)} (distinct : (pairs.map Prod.fst).Nodup) (k : κ) :
    (dict.update pairs).get? k = (find k pairs).or (dict.get? k) := by
  cases found : find k pairs with
  | none =>
    have absent : k ∉ pairs.map Prod.fst := by
      rw [mem_keys_iff, found]
      simp
    rw [get?_update_of_notMem dict absent, Option.none_or]
  | some value =>
    rw [get?_update_of_mem dict distinct ((mem_entries_iff distinct).mpr found), Option.some_or]

/-- The last pair with a key decides. -/
theorem get?_ofPairs (pairs : List (κ × ν)) (k : κ) :
    (ofPairs pairs).get? k = (pairs.reverse.find? fun pair => decide (pair.1 = k)).map Prod.snd := by
  unfold ofPairs
  induction pairs using List.reverseRecOn with
  | nil => rfl
  | append_singleton pairs pair ih =>
    have last : empty.update (pairs ++ [pair]) = (empty.update pairs).set pair.1 pair.2 := by simp [update]
    rw [last, get?_set, ih, List.reverse_append, List.reverse_singleton, List.singleton_append,
      List.find?_cons]
    by_cases same : k = pair.1
    · simp [same]
    · simp [same, Ne.symm same]

theorem update_concat (dict : Dict κ ν) (pairs : List (κ × ν)) (pair : κ × ν) :
    dict.update (pairs ++ [pair]) = (dict.update pairs).set pair.1 pair.2 := by
  simp [update]

/-- Pairs are written over what is there. -/
theorem get?_update_pairs (dict : Dict κ ν) (pairs : List (κ × ν)) (k : κ) :
    (dict.update pairs).get? k = ((ofPairs pairs).get? k).or (dict.get? k) := by
  unfold ofPairs
  induction pairs using List.reverseRecOn with
  | nil => rfl
  | append_singleton pairs pair ih =>
    rw [update_concat, update_concat, get?_set, get?_set]
    by_cases same : k = pair.1
    · rw [if_pos same, if_pos same, Option.some_or]
    · rw [if_neg same, if_neg same, ih]

/-- Pairs with distinct keys are the entries that they write. -/
theorem entries_ofPairs {pairs : List (κ × ν)} (distinct : (pairs.map Prod.fst).Nodup) :
    (ofPairs pairs).entries = pairs := by
  unfold ofPairs
  induction pairs using List.reverseRecOn with
  | nil => rfl
  | append_singleton pairs pair ih =>
    have last : empty.update (pairs ++ [pair]) = (empty.update pairs).set pair.1 pair.2 := by simp [update]
    rw [List.map_append, List.nodup_append] at distinct
    have earlier := ih distinct.1
    have absent : pair.1 ∉ (empty.update pairs).entries.map Prod.fst := by
      rw [earlier]
      exact fun member => distinct.2.2 _ member _ List.mem_cons_self rfl
    rw [last]
    exact (place_of_notMem absent pair.2).trans (by rw [earlier])

/-- What a list of pairs has written comes from one of them. -/
theorem mem_of_get?_ofPairs {pairs : List (κ × ν)} {k : κ} {value : ν}
    (found : (ofPairs pairs).get? k = some value) : (k, value) ∈ pairs := by
  have traced : ∀ (pairs : List (κ × ν)) (dict : Dict κ ν), (dict.update pairs).get? k = some value →
      (k, value) ∈ pairs ∨ dict.get? k = some value := by
    intro pairs
    induction pairs with
    | nil => exact fun _ found => .inr found
    | cons pair rest ih =>
      intro dict found
      rcases ih (dict.set pair.1 pair.2) found with later | before
      · exact .inl (List.mem_cons_of_mem _ later)
      · rw [get?_set] at before
        split at before
        · rename_i same
          cases before
          exact .inl (by simp [same])
        · exact .inr before
  rcases traced pairs empty found with member | nothing
  · exact member
  · simp at nothing

theorem find_perm {entries others : List (κ × ν)} (perm : entries.Perm others)
    (distinct : (entries.map Prod.fst).Nodup) (k : κ) : find k entries = find k others := by
  apply Option.ext
  intro value
  rw [← mem_entries_iff distinct, ← mem_entries_iff ((perm.map _).nodup distinct)]
  exact perm.mem_iff

section Erase

variable {dict : Dict κ ν} {key other : κ}

theorem ofPairs_entries (dict : Dict κ ν) : ofPairs dict.entries = dict :=
  Dict.ext (entries_ofPairs dict.distinct)

theorem erase_of_absent (absent : dict.get? key = none) : dict.erase key = dict := by
  apply Dict.ext
  apply List.filter_eq_self.mpr
  intro entry member
  have different : entry.1 ≠ key := by
    rintro rfl
    rw [mem_entries.mp member] at absent
    cases absent
  simpa using different

theorem filter_place (key : κ) (value : ν) (entries : List (κ × ν)) :
    (place key value entries).filter (fun entry => entry.1 ≠ key) = entries.filter fun entry => entry.1 ≠ key := by
  induction entries with
  | nil => simp [place]
  | cons entry rest ih =>
    rcases entry with ⟨current, previous⟩
    by_cases same : key = current
    · simp [place, same]
    · rw [place, if_neg same, List.filter_cons, List.filter_cons, ih]

theorem filter_place_of_ne (different : other ≠ key) (value : ν) (entries : List (κ × ν)) :
    (place key value entries).filter (fun entry => entry.1 ≠ other) =
      place key value (entries.filter fun entry => entry.1 ≠ other) := by
  induction entries with
  | nil => simp [place, different.symm]
  | cons entry rest ih =>
    rcases entry with ⟨current, previous⟩
    by_cases same : key = current
    · subst same
      simp [place, different.symm]
    · by_cases gone : current = other
      · subst gone
        simpa [place, same] using ih
      · simpa [place, same, gone] using ih

theorem erase_set_self (dict : Dict κ ν) (key : κ) (value : ν) : (dict.set key value).erase key = dict.erase key :=
  Dict.ext (filter_place key value dict.entries)

theorem erase_set_of_ne (dict : Dict κ ν) (different : other ≠ key) (value : ν) :
    (dict.set key value).erase other = (dict.erase other).set key value :=
  Dict.ext (filter_place_of_ne different value dict.entries)

theorem erase_comm (dict : Dict κ ν) (key other : κ) :
    (dict.erase key).erase other = (dict.erase other).erase key := by
  apply Dict.ext
  simp only [erase, List.filter_filter, Bool.and_comm]

end Erase

theorem contains_iff {dict : Dict κ ν} {key : κ} : dict.contains key = true ↔ key ∈ dict.keys := by
  rw [contains, Option.isSome_iff_exists]
  exact mem_keys_iff.symm

theorem mem_keys_set {dict : Dict κ ν} {key k : κ} {value : ν} :
    k ∈ (dict.set key value).keys ↔ k = key ∨ k ∈ dict.keys := mem_keys_place

theorem mem_keys_ofPairs {pairs : List (κ × ν)} {k : κ} :
    k ∈ (ofPairs pairs).keys ↔ k ∈ pairs.map Prod.fst := by
  have traced : ∀ (pairs : List (κ × ν)) (dict : Dict κ ν),
      k ∈ (dict.update pairs).keys ↔ k ∈ dict.keys ∨ k ∈ pairs.map Prod.fst := by
    intro pairs
    induction pairs with
    | nil => simp [update]
    | cons pair rest ih =>
      intro dict
      have step := ih (dict.set pair.1 pair.2)
      rw [mem_keys_set] at step
      rw [List.map_cons, List.mem_cons]
      exact step.trans (by tauto)
  exact (traced pairs empty).trans (by simp [empty, keys])

theorem mem_keys_erase {dict : Dict κ ν} {key k : κ} :
    k ∈ (dict.erase key).keys ↔ k ≠ key ∧ k ∈ dict.keys := by
  rw [← contains_iff, ← contains_iff, contains, contains, get?_erase]
  by_cases same : k = key <;> simp [same]

section Values

variable {μ : Type*} (convert : ν → μ)

def mapEntries (entries : List (κ × ν)) : List (κ × μ) := entries.map fun entry => (entry.1, convert entry.2)

omit [DecidableEq κ] in
theorem keys_mapEntries (entries : List (κ × ν)) :
    (mapEntries convert entries).map Prod.fst = entries.map Prod.fst := by
  simp [mapEntries, Function.comp_def]

theorem find_mapEntries (key : κ) (entries : List (κ × ν)) :
    find key (mapEntries convert entries) = (find key entries).map convert := by
  induction entries with
  | nil => rfl
  | cons entry rest ih =>
    rcases entry with ⟨other, value⟩
    by_cases same : key = other
    · simp [find, mapEntries, same]
    · simpa [find, mapEntries, same] using ih

/-- A function of the values of two dictionaries agrees on what the same pairs are written to. -/
theorem mapEntries_place (key : κ) (value : ν) (entries : List (κ × ν)) :
    mapEntries convert (place key value entries) = place key (convert value) (mapEntries convert entries) := by
  induction entries with
  | nil => rfl
  | cons entry rest ih =>
    rcases entry with ⟨other, previous⟩
    by_cases same : key = other
    · simp [place, mapEntries, same]
    · simpa [place, mapEntries, same] using ih

theorem mapEntries_update {left right : Dict κ ν} {pairs others : List (κ × ν)}
    (dicts : mapEntries convert left.entries = mapEntries convert right.entries)
    (same : mapEntries convert pairs = mapEntries convert others) :
    mapEntries convert (left.update pairs).entries = mapEntries convert (right.update others).entries := by
  induction pairs generalizing left right others with
  | nil =>
    have none : others = [] := List.map_eq_nil_iff.mp same.symm
    rw [none]
    exact dicts
  | cons pair rest ih =>
    cases others with
    | nil => cases same
    | cons other more =>
      obtain ⟨first, later⟩ := List.cons.inj same
      obtain ⟨keys, values⟩ := Prod.mk.inj first
      apply ih _ later
      show mapEntries convert (place pair.1 pair.2 left.entries) =
        mapEntries convert (place other.1 other.2 right.entries)
      rw [mapEntries_place, mapEntries_place, keys, values, dicts]

end Values

section Choice

variable {μ : Type*} (choose : ν → Option μ)

/-- The entries whose value has an image, with it. -/
def chooseEntries (entries : List (κ × ν)) : List (κ × μ) :=
  entries.filterMap fun entry => (choose entry.2).map fun image => (entry.1, image)

omit [DecidableEq κ] in
theorem keys_chooseEntries (entries : List (κ × ν)) :
    ((chooseEntries choose entries).map Prod.fst).Sublist (entries.map Prod.fst) := by
  induction entries with
  | nil => exact .slnil
  | cons entry rest ih =>
    cases chosen : choose entry.2 with
    | none => simpa [chooseEntries, chosen] using ih.cons entry.1
    | some image => simpa [chooseEntries, chosen] using ih.cons_cons entry.1

theorem find_chooseEntries {entries : List (κ × ν)} (distinct : (entries.map Prod.fst).Nodup) (key : κ) :
    find key (chooseEntries choose entries) = (find key entries).bind choose := by
  induction entries with
  | nil => rfl
  | cons entry rest ih =>
    rcases entry with ⟨other, value⟩
    rw [List.map_cons, List.nodup_cons] at distinct
    have later := ih distinct.2
    by_cases same : key = other
    · subst same
      have absent : find key rest = none := by
        cases found : find key rest with
        | none => rfl
        | some value => exact absurd (mem_keys_iff.mpr ⟨value, found⟩) distinct.1
      cases chosen : choose value with
      | none => simpa [chooseEntries, find, chosen, absent] using later
      | some image => simp [chooseEntries, find, chosen]
    · cases chosen : choose value with
      | none => simpa [chooseEntries, find, chosen, same] using later
      | some image => simpa [chooseEntries, find, chosen, same] using later

end Choice

section Traverse

variable {ε μ : Type*} (convert : κ → ν → Except ε μ)

/-- Convert every value, stopping at the first entry that is refused. -/
def traverseEntries : List (κ × ν) → Except ε (List (κ × μ))
  | [] => .ok []
  | (key, value) :: rest =>
      match convert key value with
      | .error refusal => .error refusal
      | .ok converted =>
          match traverseEntries rest with
          | .error refusal => .error refusal
          | .ok entries => .ok ((key, converted) :: entries)

omit [DecidableEq κ] in
theorem keys_traverseEntries {entries : List (κ × ν)} {converted : List (κ × μ)}
    (done : traverseEntries convert entries = .ok converted) :
    converted.map Prod.fst = entries.map Prod.fst := by
  induction entries generalizing converted with
  | nil => simp_all [traverseEntries]
  | cons entry rest ih =>
    rcases entry with ⟨key, value⟩
    unfold traverseEntries at done
    split at done
    · cases done
    · split at done
      · cases done
      · rename_i tail heq
        cases done
        simp [ih heq]

def traverse (dict : Dict κ ν) : Except ε (Dict κ μ) :=
  match done : traverseEntries convert dict.entries with
  | .error refusal => .error refusal
  | .ok entries => .ok ⟨entries, keys_traverseEntries convert done ▸ dict.distinct⟩

variable {convert}

omit [DecidableEq κ] in
/-- Every converted value comes from one of the source. -/
theorem mem_traverseEntries {entries : List (κ × ν)} {converted : List (κ × μ)}
    (done : traverseEntries convert entries = .ok converted) :
    ∀ entry ∈ converted, ∃ value, convert entry.1 value = .ok entry.2 := by
  induction entries generalizing converted with
  | nil =>
    cases done
    exact fun _ none => absurd none List.not_mem_nil
  | cons first rest ih =>
    rcases first with ⟨key, value⟩
    unfold traverseEntries at done
    split at done
    · cases done
    · rename_i image same
      split at done
      · cases done
      · rename_i tail later
        cases done
        exact List.forall_mem_cons.mpr ⟨⟨value, same⟩, ih later⟩

omit [DecidableEq κ] in
/-- Values that are converted back to themselves are accepted as they are. -/
theorem traverseEntries_back {back : μ → ν} {entries : List (κ × μ)}
    (accepted : ∀ entry ∈ entries, convert entry.1 (back entry.2) = .ok entry.2) :
    traverseEntries convert (entries.map fun entry => (entry.1, back entry.2)) = .ok entries := by
  induction entries with
  | nil => rfl
  | cons entry rest ih =>
    rw [List.forall_mem_cons] at accepted
    rw [List.map_cons, traverseEntries, accepted.1, ih accepted.2]

omit [DecidableEq κ] in
theorem mem_traverse {dict : Dict κ ν} {converted : Dict κ μ} (done : dict.traverse convert = .ok converted) :
    ∀ entry ∈ converted.entries, ∃ value, convert entry.1 value = .ok entry.2 := by
  unfold traverse at done
  split at done
  · cases done
  · rename_i entries found
    cases done
    exact mem_traverseEntries found

omit [DecidableEq κ] in
theorem traverse_back {back : μ → ν} {dict : Dict κ μ} {source : Dict κ ν}
    (accepted : ∀ entry ∈ dict.entries, convert entry.1 (back entry.2) = .ok entry.2)
    (same : source.entries = dict.entries.map fun entry => (entry.1, back entry.2)) :
    source.traverse convert = .ok dict := by
  have whole := same ▸ traverseEntries_back accepted
  unfold traverse
  split
  · rename_i refusal refused
    rw [whole] at refused
    cases refused
  · rename_i entries found
    rw [whole] at found
    cases found
    rfl

end Traverse

end Dict

end Tasklite.Library
