import Mathlib.Data.Finset.Card
import Mathlib.Logic.Relation
import Tasklite.Library.Fresh

/-! The closure of some nodes under their children, by a loop over a stack. Every node is
marked once and gets its label from the node it is reached from. -/

namespace Tasklite.Library.Closure

variable {α β : Type*} [DecidableEq α]

/-- What is to be visited, and every node marked so far. -/
structure Trail (α β : Type*) where
  stack : List (α × β)
  marked : List (α × β)

variable (children : α → List α) (grow : β → β)

/-- Take a node off the stack and mark its children, as far as they are not marked yet. -/
def visit (trail : Trail α β) : Trail α β :=
  match trail.stack with
  | [] => trail
  | (node, label) :: stack =>
      let found := (Fresh.fresh id (Fresh.keys Prod.fst trail.marked) (children node)).map
        fun child => (child, grow label)
      ⟨found.reverse ++ stack, trail.marked ++ found⟩

def start (roots : List (α × β)) : Trail α β := ⟨roots.reverse, roots⟩

def Child (parent child : α) : Prop := child ∈ children parent

/-- What holds after every visit: nodes are marked once, each is a root or a child of a marked node, and the
children of a node that has left the stack are marked. -/
structure Tracing (roots : List (α × β)) (trail : Trail α β) : Prop where
  distinct : (trail.marked.map Prod.fst).Nodup
  rooted : ∀ entry ∈ roots, entry ∈ trail.marked
  pending : ∀ entry ∈ trail.stack, entry ∈ trail.marked
  origin : ∀ entry ∈ trail.marked, entry ∈ roots ∨
    ∃ parent ∈ trail.marked, Child children parent.1 entry.1 ∧ entry.2 = grow parent.2
  reached : ∀ entry ∈ trail.marked, ∃ root ∈ roots, Relation.ReflTransGen (Child children) root.1 entry.1
  closed : ∀ entry ∈ trail.marked, entry.1 ∉ trail.stack.map Prod.fst →
    ∀ child, Child children entry.1 child → child ∈ trail.marked.map Prod.fst

variable {children grow} {roots : List (α × β)} {trail : Trail α β}

omit [DecidableEq α] in
theorem tracing_start (distinct : (roots.map Prod.fst).Nodup) : Tracing children grow roots (start roots) where
  distinct := distinct
  rooted := fun _ member => member
  pending := fun _ member => List.mem_reverse.mp member
  origin := fun _ member => .inl member
  reached := fun entry member => ⟨entry, member, Relation.ReflTransGen.refl⟩
  closed := by
    intro entry member absent
    refine absurd ?_ absent
    simpa [start] using ⟨entry.2, member⟩

/-- What a visit marks: the children that were not marked. -/
theorem mem_found {seen : Finset α} {rows : List α} {label : β} {entry : α × β} :
    entry ∈ (Fresh.fresh id seen rows).map (fun child => (child, label)) ↔
      entry.1 ∈ rows ∧ entry.1 ∉ seen ∧ entry.2 = label := by
  have listed : ∀ child, child ∈ Fresh.fresh id seen rows ↔ child ∈ rows ∧ child ∉ seen := by
    intro child
    have same := Finset.ext_iff.mp (@Fresh.keys_fresh _ _ _ id seen rows) child
    simpa [Fresh.keys] using same
  rw [List.mem_map]
  constructor
  · rintro ⟨child, new, rfl⟩
    exact ⟨((listed child).mp new).1, ((listed child).mp new).2, rfl⟩
  · rintro ⟨child, fresh, labelled⟩
    exact ⟨entry.1, (listed entry.1).mpr ⟨child, fresh⟩, by rw [← labelled]⟩

theorem tracing_visit (tracing : Tracing children grow roots trail) :
    Tracing children grow roots (visit children grow trail) := by
  obtain ⟨distinct, rooted, pending, origin, reached, closed⟩ := tracing
  unfold visit
  split
  · exact ⟨distinct, rooted, pending, origin, reached, closed⟩
  · rename_i node label stack shape
    have here : (node, label) ∈ trail.marked := pending _ (by rw [shape]; exact List.mem_cons_self)
    refine ⟨?_, ?_, ?_, ?_, ?_, ?_⟩
    · rw [List.map_append, List.map_map, List.nodup_append]
      refine ⟨distinct, ?_, ?_⟩
      · simpa [Function.comp_def] using @Fresh.fresh_nodup _ _ _ id (Fresh.keys Prod.fst trail.marked)
          (children node)
      · intro old before new after same
        have fresh := @Fresh.key_notMem_of_mem_fresh _ _ _ id _ _ _ (by simpa [Function.comp_def] using after)
        rw [← same] at fresh
        obtain ⟨entry, marked, rfl⟩ := List.mem_map.mp before
        exact fresh (Fresh.key_mem_keys marked)
    · exact fun entry member => List.mem_append_left _ (rooted entry member)
    · intro entry member
      rcases List.mem_append.mp member with new | old
      · exact List.mem_append_right _ (List.mem_reverse.mp new)
      · exact List.mem_append_left _ (pending entry (by rw [shape]; exact List.mem_cons_of_mem _ old))
    · intro entry member
      rcases List.mem_append.mp member with old | new
      · rcases origin entry old with root | ⟨parent, marked, child, labelled⟩
        · exact .inl root
        · exact .inr ⟨parent, List.mem_append_left _ marked, child, labelled⟩
      · obtain ⟨child, -, labelled⟩ := mem_found.mp new
        exact .inr ⟨(node, label), List.mem_append_left _ here, child, labelled⟩
    · intro entry member
      rcases List.mem_append.mp member with old | new
      · exact reached entry old
      · obtain ⟨child, -, -⟩ := mem_found.mp new
        obtain ⟨root, isRoot, path⟩ := reached (node, label) here
        exact ⟨root, isRoot, path.tail child⟩
    · intro entry member absent child isChild
      rw [List.map_append, List.map_reverse, List.mem_append, List.mem_reverse, not_or] at absent
      rw [List.map_append, List.mem_append]
      by_cases seen : child ∈ trail.marked.map Prod.fst
      · exact .inl seen
      · right
        rcases List.mem_append.mp member with old | new
        · by_cases visited : entry.1 = node
          · refine List.mem_map.mpr ⟨(child, grow label), mem_found.mpr ⟨visited ▸ isChild, ?_, rfl⟩, rfl⟩
            simpa [Fresh.keys] using seen
          · refine absurd (closed entry old ?_ child isChild) seen
            simpa [shape, visited] using absent.2
        · exact absurd (List.mem_map_of_mem new) absent.1

theorem tracing_iterate (tracing : Tracing children grow roots trail) (count : ℕ) :
    Tracing children grow roots ((visit children grow)^[count] trail) :=
  Function.Iterate.rec (Tracing children grow roots) tracing (fun _ => tracing_visit) count

section Depth

variable {depth : β → ℕ} {removed rest : List (α × β)}

omit [DecidableEq α] in
/-- Take the deepest nodes away first, and every node that is left can still be reached from a root that is
left, over nodes that are left. -/
theorem reached_rest (tracing : Tracing children grow roots trail)
    (deeper : ∀ label, depth (grow label) = depth label + 1) (split : trail.marked.Perm (removed ++ rest))
    (deepest : ∀ early ∈ removed, ∀ late ∈ rest, depth late.2 ≤ depth early.2) {entry : α × β}
    (left : entry ∈ rest) : ∃ root ∈ roots, root ∈ rest ∧
      Relation.ReflTransGen (fun parent child => Child children parent child ∧ child ∈ rest.map Prod.fst)
        root.1 entry.1 := by
  induction level : depth entry.2 using Nat.strong_induction_on generalizing entry with
  | _ level ih =>
    have marked : entry ∈ trail.marked := split.mem_iff.mpr (List.mem_append_right _ left)
    rcases tracing.origin entry marked with root | ⟨parent, above, child, labelled⟩
    · exact ⟨entry, root, left, Relation.ReflTransGen.refl⟩
    · have higher : depth parent.2 + 1 = depth entry.2 := by rw [labelled, deeper]
      have remains : parent ∈ rest := by
        rcases List.mem_append.mp (split.mem_iff.mp above) with gone | stays
        · have bound := deepest parent gone entry left
          omega
        · exact stays
      obtain ⟨root, isRoot, stays, path⟩ := ih (depth parent.2) (by omega) remains rfl
      exact ⟨root, isRoot, stays, path.tail ⟨child, List.mem_map_of_mem left⟩⟩

end Depth

section Finish

variable {nodes : Finset α}

/-- The number of visits that are left, at most. -/
def remaining (nodes : Finset α) (trail : Trail α β) : ℕ :=
  trail.stack.length + (nodes \ Fresh.keys Prod.fst trail.marked).card

theorem remaining_visit (inside : ∀ parent child, Child children parent child → child ∈ nodes)
    (going : trail.stack ≠ []) : remaining nodes (visit children grow trail) < remaining nodes trail := by
  unfold visit
  split
  · exact absurd ‹_› going
  · rename_i node label stack shape
    set seen := Fresh.keys Prod.fst trail.marked with seenDef
    have marked : Fresh.keys Prod.fst (trail.marked ++ (Fresh.fresh id seen (children node)).map
        fun child => (child, grow label)) = seen ∪ (children node).toFinset \ seen := by
      have same := @Fresh.keys_fresh _ _ _ id seen (children node)
      simp only [Fresh.keys, List.map_id] at same
      rw [Fresh.keys_append, ← seenDef, Fresh.keys, List.map_map, ← same]
      simp [Function.comp_def]
    have count : (Fresh.fresh id seen (children node)).length = ((children node).toFinset \ seen).card := by
      have distinct := @Fresh.fresh_nodup _ _ _ id seen (children node)
      have same := @Fresh.keys_fresh _ _ _ id seen (children node)
      simp only [Fresh.keys, List.map_id] at same distinct
      rw [← same, List.toFinset_card_of_nodup distinct]
    have within : (children node).toFinset \ seen ⊆ nodes \ seen := by
      apply Finset.sdiff_subset_sdiff _ (Finset.Subset.refl _)
      intro child member
      exact inside node child (List.mem_toFinset.mp member)
    have rest : (nodes \ (seen ∪ (children node).toFinset \ seen)).card =
        (nodes \ seen).card - ((children node).toFinset \ seen).card := by
      rw [← Finset.sup_eq_union, ← sdiff_sdiff_left, Finset.card_sdiff_of_subset within]
    have bound := Finset.card_le_card within
    simp only [remaining, marked, rest, shape, ← seenDef, List.length_append, List.length_reverse,
      List.length_map, List.length_cons, count]
    omega

theorem iterate_done (done : trail.stack = []) (count : ℕ) : (visit children grow)^[count] trail = trail := by
  apply Function.iterate_fixed
  unfold visit
  rw [done]

/-- The loop ends. -/
theorem stack_iterate (inside : ∀ parent child, Child children parent child → child ∈ nodes) {count : ℕ}
    (enough : remaining nodes trail ≤ count) : ((visit children grow)^[count] trail).stack = [] := by
  induction count generalizing trail with
  | zero =>
    have empty : trail.stack.length = 0 := by
      unfold remaining at enough
      omega
    exact List.length_eq_zero_iff.mp empty
  | succ count ih =>
    by_cases going : trail.stack = []
    · rw [iterate_done going]
      exact going
    · have less : remaining nodes (visit children grow trail) < remaining nodes trail := remaining_visit inside going
      rw [Function.iterate_succ_apply]
      exact ih (by omega)

theorem stack_start (inside : ∀ parent child, Child children parent child → child ∈ nodes) {count : ℕ}
    (enough : roots.length + nodes.card ≤ count) :
    ((visit children grow)^[count] (start roots)).stack = [] := by
  apply stack_iterate inside
  have bound := Finset.card_le_card (@Finset.sdiff_subset _ _ nodes (Fresh.keys Prod.fst roots))
  simp only [remaining, start, List.length_reverse]
  omega

/-- What is marked in the end is what can be reached from the roots. -/
theorem mem_marked_iff (distinct : (roots.map Prod.fst).Nodup)
    (inside : ∀ parent child, Child children parent child → child ∈ nodes) {count : ℕ}
    (enough : roots.length + nodes.card ≤ count) {node : α} :
    node ∈ ((visit children grow)^[count] (start roots)).marked.map Prod.fst ↔
      ∃ root ∈ roots.map Prod.fst, Relation.ReflTransGen (Child children) root node := by
  have tracing : Tracing children grow roots ((visit children grow)^[count] (start roots)) :=
    tracing_iterate (tracing_start distinct) count
  have ended : ((visit children grow)^[count] (start roots)).stack = [] := stack_start inside enough
  constructor
  · intro member
    obtain ⟨entry, marked, rfl⟩ := List.mem_map.mp member
    obtain ⟨root, isRoot, path⟩ := tracing.reached entry marked
    exact ⟨root.1, List.mem_map_of_mem isRoot, path⟩
  · rintro ⟨root, isRoot, path⟩
    induction path with
    | refl =>
      obtain ⟨entry, member, rfl⟩ := List.mem_map.mp isRoot
      exact List.mem_map_of_mem (tracing.rooted entry member)
    | tail _ child ih =>
      obtain ⟨entry, marked, same⟩ := List.mem_map.mp ih
      exact tracing.closed entry marked (by simp [ended]) _ (same ▸ child)

end Finish

end Tasklite.Library.Closure
