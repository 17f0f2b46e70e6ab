import Mathlib.Data.List.Perm.Basic
import Mathlib.Data.List.Sort
import Mathlib.Data.Prod.Lex

/-! Pairs in the order of their first entries, then of their second ones. Two lists are sorted alike exactly when one
is a rearrangement of the other. -/

namespace Tasklite.Library

section Sorted

variable {α β : Type} [LinearOrder α] [LinearOrder β]

/-- `sorted` of pairs. -/
def sortedPairs (pairs : List (α × β)) : List (α × β) :=
  pairs.insertionSort fun first second => toLex first ≤ toLex second

theorem sortedPairs_perm (pairs : List (α × β)) : (sortedPairs pairs).Perm pairs := List.perm_insertionSort _ pairs

theorem sortedPairs_eq_iff {pairs others : List (α × β)} :
    sortedPairs pairs = sortedPairs others ↔ pairs.Perm others := by
  constructor
  · intro same
    have shuffled := (sortedPairs_perm pairs).symm
    rw [same] at shuffled
    exact shuffled.trans (sortedPairs_perm others)
  · intro perm
    have sorts : ∀ pairs : List (α × β),
        (sortedPairs pairs).Pairwise fun first second => toLex first ≤ toLex second := by
      intro pairs
      exact List.pairwise_insertionSort _ pairs
    refine List.Perm.eq_of_pairwise ?_ (sorts pairs) (sorts others) ?_
    · intro first second _ _ below above
      exact toLex.injective (le_antisymm below above)
    · exact ((sortedPairs_perm pairs).trans perm).trans (sortedPairs_perm others).symm

end Sorted

section Images

variable {α β : Type} {f : α → β}

/-- What is a rearranged image is the image of something rearranged. -/
theorem exists_perm_of_map {mapped : List β} {list : List α} (perm : mapped.Perm (list.map f)) :
    ∃ ordered : List α, ordered.Perm list ∧ mapped = ordered.map f := by
  have related : Relation.Comp (· = List.map f ·) List.Perm mapped list := by
    rw [List.eq_map_comp_perm]
    exact perm
  obtain ⟨ordered, maps, same⟩ := related
  exact ⟨ordered, same, maps⟩

/-- Lists with one image are equal where the function tells their entries apart. -/
theorem eq_of_map_eq {left right : List α}
    (apart : ∀ first ∈ left, ∀ second ∈ right, f first = f second → first = second)
    (same : left.map f = right.map f) : left = right := by
  induction left generalizing right with
  | nil => rw [eq_comm, ← List.map_eq_nil_iff, ← same, List.map_nil]
  | cons first rest ih =>
    cases right with
    | nil => cases same
    | cons second more =>
      rw [List.map_cons, List.map_cons, List.cons_eq_cons] at same
      have heads := apart first List.mem_cons_self second List.mem_cons_self same.1
      have tails := ih (fun left member right inside =>
        apart left (List.mem_cons_of_mem _ member) right (List.mem_cons_of_mem _ inside)) same.2
      rw [heads, tails]

/-- So are they up to their order. -/
theorem perm_of_map_perm {left right : List α}
    (apart : ∀ first ∈ left, ∀ second ∈ right, f first = f second → first = second)
    (perm : (left.map f).Perm (right.map f)) : left.Perm right := by
  obtain ⟨ordered, shuffled, same⟩ := exists_perm_of_map perm
  have equal := eq_of_map_eq (fun first member second inside =>
    apart first member second (shuffled.mem_iff.mp inside)) same
  rw [equal]
  exact shuffled

end Images

end Tasklite.Library
