import Mathlib.Algebra.BigOperators.Group.Finset.Basic
import Mathlib.Algebra.GroupWithZero.Nat
import Mathlib.Algebra.Order.BigOperators.Group.Finset
import Mathlib.Data.Finset.Card
import Mathlib.Logic.Relation
import Tasklite.Library.Fresh

/-! Three searches over a finite graph given by lists of neighbours: the closure of a
set of roots, the removal of nodes whose needs are met, and the depth-first search
that collects the nodes of cycles. Each is a loop over a stack with a bound on the
number of its rounds that it never exhausts. -/

namespace Tasklite.Library.Graph

variable {α : Type*} [DecidableEq α]

section Reach

variable (children : α → List α) (roots : Finset α)

/-- Visit the stack; a child that is neither a root nor reached yet is reached now, under the root of the
node it is reached from. -/
def reach : ℕ → List (α × α) → List (α × α) → List (α × α)
  | 0, _, reached => reached
  | _ + 1, [], reached => reached
  | visits + 1, (node, root) :: stack, reached =>
      let found := (Fresh.fresh id (roots ∪ Fresh.keys Prod.fst reached) (children node)).map
        fun child => (child, root)
      reach visits (found.reverse ++ stack) (reached ++ found)

variable {children roots}

theorem keys_found (seen : Finset α) (root : α) (rows : List α) :
    Fresh.keys Prod.fst ((Fresh.fresh id seen rows).map fun child => (child, root)) =
      rows.toFinset \ seen := by
  have same := @Fresh.keys_fresh _ _ _ id seen rows
  simpa [Fresh.keys, Function.comp_def] using same

/-- Every node reached is the child of a root or of a node reached. -/
theorem parent_of_reach {visits : ℕ} {stack reached : List (α × α)}
    (known : ∀ entry ∈ stack, entry.1 ∈ roots ∪ Fresh.keys Prod.fst reached)
    (parents : ∀ node ∈ Fresh.keys Prod.fst reached, ∃ parent, node ∈ children parent ∧
      parent ∈ roots ∪ Fresh.keys Prod.fst reached) :
    ∀ node ∈ Fresh.keys Prod.fst (reach children roots visits stack reached),
      ∃ parent, node ∈ children parent ∧
        parent ∈ roots ∪ Fresh.keys Prod.fst (reach children roots visits stack reached) := by
  induction visits generalizing stack reached with
  | zero => exact parents
  | succ visits ih =>
    cases stack with
    | nil => exact parents
    | cons entry stack =>
      rcases entry with ⟨current, root⟩
      have visited := known (current, root) List.mem_cons_self
      unfold reach
      apply ih
      · intro entry member
        rw [Fresh.keys_append, ← Finset.union_assoc, Finset.mem_union]
        rcases List.mem_append.mp member with new | old
        · exact .inr (Fresh.key_mem_keys (List.mem_reverse.mp new))
        · exact .inl (known entry (List.mem_cons_of_mem _ old))
      · intro node member
        rw [Fresh.keys_append, keys_found] at member ⊢
        rw [← Finset.union_assoc]
        rcases Finset.mem_union.mp member with before | new
        · obtain ⟨parent, child, place⟩ := parents node before
          exact ⟨parent, child, Finset.mem_union_left _ place⟩
        · refine ⟨current, ?_, Finset.mem_union_left _ visited⟩
          exact List.mem_toFinset.mp (Finset.mem_sdiff.mp new).1

/-- Every node reached comes from its root. -/
theorem rooted_of_reach {visits : ℕ} {stack reached : List (α × α)}
    (pending : ∀ entry ∈ stack, entry.2 ∈ roots ∧
      Relation.ReflTransGen (fun parent child => child ∈ children parent) entry.2 entry.1)
    (before : ∀ entry ∈ reached, entry.2 ∈ roots ∧
      Relation.TransGen (fun parent child => child ∈ children parent) entry.2 entry.1) :
    ∀ entry ∈ reach children roots visits stack reached, entry.2 ∈ roots ∧
      Relation.TransGen (fun parent child => child ∈ children parent) entry.2 entry.1 := by
  induction visits generalizing stack reached with
  | zero => exact before
  | succ visits ih =>
    cases stack with
    | nil => exact before
    | cons entry stack =>
      rcases entry with ⟨current, root⟩
      obtain ⟨isRoot, path⟩ := pending (current, root) List.mem_cons_self
      have found : ∀ entry ∈ (Fresh.fresh id (roots ∪ Fresh.keys Prod.fst reached) (children current)).map
          (fun child => (child, root)), entry.2 ∈ roots ∧
            Relation.TransGen (fun parent child => child ∈ children parent) entry.2 entry.1 := by
        intro entry member
        obtain ⟨child, fresh, rfl⟩ := List.mem_map.mp member
        exact ⟨isRoot, Relation.TransGen.tail' path ((Fresh.fresh_sublist _ _).subset fresh)⟩
      unfold reach
      apply ih
      · intro entry member
        rcases List.mem_append.mp member with new | old
        · obtain ⟨rooted, way⟩ := found entry (List.mem_reverse.mp new)
          exact ⟨rooted, way.to_reflTransGen⟩
        · exact pending entry (List.mem_cons_of_mem _ old)
      · intro entry member
        rcases List.mem_append.mp member with old | new
        · exact before entry old
        · exact found entry new

theorem reach_nodup {visits : ℕ} {stack reached : List (α × α)} (distinct : (reached.map Prod.fst).Nodup) :
    ((reach children roots visits stack reached).map Prod.fst).Nodup := by
  induction visits generalizing stack reached with
  | zero => exact distinct
  | succ visits ih =>
    cases stack with
    | nil => exact distinct
    | cons entry stack =>
      rcases entry with ⟨current, root⟩
      unfold reach
      apply ih
      have once := @Fresh.fresh_nodup _ _ _ id (roots ∪ Fresh.keys Prod.fst reached) (children current)
      rw [List.map_id] at once
      rw [List.map_append, List.map_map, List.nodup_append]
      refine ⟨distinct, by simpa [Function.comp_def] using once, fun old before new after same => ?_⟩
      have fresh := @Fresh.key_notMem_of_mem_fresh _ _ _ id _ _ _ (by simpa [Function.comp_def] using after)
      rw [← same] at fresh
      exact fresh (Finset.mem_union_right _ (List.mem_toFinset.mpr before))

/-- With enough visits, roots and nodes reached are closed under children. -/
theorem closed_of_reach {nodes : Finset α} {visits : ℕ} {stack reached : List (α × α)}
    (inside : ∀ node, ∀ child ∈ children node, child ∈ nodes)
    (done : ∀ node ∈ roots ∪ Fresh.keys Prod.fst reached, node ∉ stack.map Prod.fst →
      ∀ child ∈ children node, child ∈ roots ∪ Fresh.keys Prod.fst reached)
    (enough : stack.length + (nodes \ (roots ∪ Fresh.keys Prod.fst reached)).card ≤ visits) :
    ∀ node ∈ roots ∪ Fresh.keys Prod.fst (reach children roots visits stack reached),
      ∀ child ∈ children node,
        child ∈ roots ∪ Fresh.keys Prod.fst (reach children roots visits stack reached) := by
  induction visits generalizing stack reached with
  | zero =>
    have empty : stack = [] := List.length_eq_zero_iff.mp (by omega)
    intro node member
    exact done node member (by simp [empty])
  | succ visits ih =>
    cases stack with
    | nil =>
      intro node member
      exact done node member (by simp)
    | cons entry stack =>
      rcases entry with ⟨current, root⟩
      set seen := roots ∪ Fresh.keys Prod.fst reached with seenDef
      have grown : roots ∪ Fresh.keys Prod.fst (reached ++
          (Fresh.fresh id seen (children current)).map fun child => (child, root)) =
          seen ∪ (children current).toFinset \ seen := by
        rw [Fresh.keys_append, keys_found, ← Finset.union_assoc]
      unfold reach
      apply ih
      · rw [grown]
        intro node member absent child isChild
        rw [Finset.union_sdiff_self_eq_union, Finset.mem_union, List.mem_toFinset]
        by_cases here : node = current
        · exact .inr (here ▸ isChild)
        · rw [List.map_append, List.mem_append, not_or] at absent
          rcases Finset.mem_union.mp member with before | new
          · refine .inl (done node before ?_ child isChild)
            simp [here, absent.2]
          · refine absurd ?_ absent.1
            rw [List.map_reverse, List.mem_reverse, ← List.mem_toFinset]
            have same := keys_found seen root (children current)
            unfold Fresh.keys at same
            rw [same]
            exact new
      · rw [grown, List.length_append, List.length_reverse, List.length_map, ← seenDef]
        have count : (Fresh.fresh id seen (children current)).length =
            ((children current).toFinset \ seen).card := by
          have distinct := @Fresh.fresh_nodup _ _ _ id seen (children current)
          have same := @Fresh.keys_fresh _ _ _ id seen (children current)
          simp only [Fresh.keys, List.map_id] at same distinct
          rw [← same, List.toFinset_card_of_nodup distinct]
        have within : (children current).toFinset \ seen ⊆ nodes \ seen := by
          apply Finset.sdiff_subset_sdiff _ (Finset.Subset.refl _)
          intro child member
          exact inside current child (List.mem_toFinset.mp member)
        have rest : (nodes \ (seen ∪ (children current).toFinset \ seen)).card =
            (nodes \ seen).card - ((children current).toFinset \ seen).card := by
          rw [← Finset.sup_eq_union, ← sdiff_sdiff_left, Finset.card_sdiff_of_subset within]
        have bound := Finset.card_le_card within
        simp only [List.length_cons] at enough
        omega

section Roots

variable {order : List α} {visits : ℕ}

/-- A search that starts with the roots on its stack, in any order. -/
theorem closed_of_roots {nodes : Finset α} (inside : ∀ node, ∀ child ∈ children node, child ∈ nodes)
    (covered : ∀ node ∈ roots, node ∈ order) (enough : order.length + nodes.card ≤ visits) {node child : α}
    (member : node ∈ roots ∪ Fresh.keys Prod.fst
      (reach children roots visits (order.map fun root => (root, root)).reverse []))
    (isChild : child ∈ children node) : child ∈ roots ∪ Fresh.keys Prod.fst
      (reach children roots visits (order.map fun root => (root, root)).reverse []) := by
  refine closed_of_reach inside ?_ ?_ node member child isChild
  · intro root isRoot absent
    refine absurd ?_ absent
    simpa [Function.comp_def] using covered root (by simpa using isRoot)
  · have bound := Finset.card_le_card (@Finset.sdiff_subset _ _ nodes
      (roots ∪ Fresh.keys Prod.fst ([] : List (α × α))))
    rw [List.length_reverse, List.length_map]
    omega

theorem parent_of_roots (sound : ∀ node ∈ order, node ∈ roots) {node : α}
    (member : node ∈ Fresh.keys Prod.fst
      (reach children roots visits (order.map fun root => (root, root)).reverse [])) :
    ∃ parent, node ∈ children parent ∧ parent ∈ roots ∪ Fresh.keys Prod.fst
      (reach children roots visits (order.map fun root => (root, root)).reverse []) := by
  refine parent_of_reach ?_ (by simp) node member
  intro entry onStack
  obtain ⟨root, listed, rfl⟩ := List.mem_map.mp (List.mem_reverse.mp onStack)
  exact Finset.mem_union_left _ (sound root listed)

end Roots

end Reach

section Reduce

/-- Lower the degree of each child by one; a child whose degree becomes 0 is ready. -/
def relax : List α → (α → ℤ) → List α → (α → ℤ) × List α
  | [], degree, ready => (degree, ready)
  | child :: rest, degree, ready =>
      let lowered := Function.update degree child (degree child - 1)
      relax rest lowered (if lowered child = 0 then child :: ready else ready)

variable (dependents : α → List α)

/-- Take the ready nodes off the stack one by one, relaxing their dependents. -/
def reduce : ℕ → List α → (α → ℤ) → List α → List α
  | 0, _, _, reduced => reduced
  | _ + 1, [], _, reduced => reduced
  | rounds + 1, node :: ready, degree, reduced =>
      let (lowered, ready) := relax (dependents node) degree ready
      reduce rounds ready lowered (reduced ++ [node])

theorem relax_degree (children : List α) (degree : α → ℤ) (ready : List α) (node : α) :
    (relax children degree ready).1 node = degree node - children.count node := by
  induction children generalizing degree ready with
  | nil => simp [relax]
  | cons child rest ih =>
    unfold relax
    rw [ih, List.count_cons]
    by_cases same : child = node
    · subst same
      simp
      omega
    · simp [Function.update_of_ne (Ne.symm same), same]

theorem relax_ready {children : List α} {degree : α → ℤ} {ready : List α}
    (covered : ∀ node, (children.count node : ℤ) ≤ degree node)
    (settled : ∀ node ∈ ready, degree node = 0) (distinct : ready.Nodup) :
    (relax children degree ready).2.Nodup ∧ ∀ node, node ∈ (relax children degree ready).2 ↔
      node ∈ ready ∨ (node ∈ children ∧ degree node = children.count node) := by
  induction children generalizing degree ready with
  | nil => exact ⟨distinct, by simp [relax]⟩
  | cons child rest ih =>
    have here := covered child
    rw [List.count_cons_self] at here
    have unready : child ∉ ready := fun member => by
      have zero := settled child member
      omega
    unfold relax
    set lowered := Function.update degree child (degree child - 1) with loweredDef
    have atChild : lowered child = degree child - 1 := Function.update_self ..
    have elsewhere : ∀ node, node ≠ child → lowered node = degree node :=
      fun node different => Function.update_of_ne different ..
    have stillCovered : ∀ node, (rest.count node : ℤ) ≤ lowered node := by
      intro node
      by_cases same : node = child
      · rw [same, atChild]
        omega
      · rw [elsewhere node same]
        have before := covered node
        rwa [List.count_cons_of_ne (Ne.symm same)] at before
    have stillSettled : ∀ node ∈ (if lowered child = 0 then child :: ready else ready),
        lowered node = 0 := by
      intro node member
      by_cases zero : lowered child = 0
      · rw [if_pos zero] at member
        rcases List.mem_cons.mp member with rfl | old
        · exact zero
        · rw [elsewhere node fun same => unready (same ▸ old)]
          exact settled node old
      · rw [if_neg zero] at member
        rw [elsewhere node fun same => unready (same ▸ member)]
        exact settled node member
    have stillDistinct : (if lowered child = 0 then child :: ready else ready).Nodup := by
      split
      · exact List.nodup_cons.mpr ⟨unready, distinct⟩
      · exact distinct
    obtain ⟨nodup, members⟩ := ih stillCovered stillSettled stillDistinct
    refine ⟨nodup, fun node => ?_⟩
    rw [members node]
    by_cases same : node = child
    · subst same
      rw [List.count_cons_self]
      constructor
      · rintro (new | ⟨_, exact_⟩)
        · refine .inr ⟨List.mem_cons_self, ?_⟩
          have zero : lowered node = 0 := by
            by_contra positive
            rw [if_neg positive] at new
            exact unready new
          have rest0 := stillCovered node
          rw [atChild] at zero rest0
          push_cast
          omega
        · refine .inr ⟨List.mem_cons_self, ?_⟩
          rw [atChild] at exact_
          push_cast
          omega
      · rintro (old | ⟨_, exact_⟩)
        · exact absurd old unready
        · push_cast at exact_
          by_cases later : node ∈ rest
          · exact .inr ⟨later, by omega⟩
          · rw [List.count_eq_zero_of_not_mem later] at exact_
            have zero : lowered node = 0 := by omega
            rw [if_pos zero]
            exact .inl List.mem_cons_self
    · rw [elsewhere node same, List.count_cons_of_ne (Ne.symm same), List.mem_cons]
      have pushed : node ∈ (if lowered child = 0 then child :: ready else ready) ↔ node ∈ ready := by
        split
        · simp [same]
        · rfl
      rw [pushed]
      simp [same]

section Needs

variable (nodes : List α) (needs : α → List α)

/-- Who needs a node, once for every time it is needed. -/
def dependentsOf (node : α) : List α :=
  nodes.flatMap fun other => List.replicate ((needs other).count node) other

/-- Remove nodes as long as one is left whose needs have all been removed. -/
def reduceAll : List α :=
  reduce (dependentsOf nodes needs) nodes.length (nodes.filter fun node => (needs node).isEmpty).reverse
    (fun node => (needs node).length) []

/-- Where the loop stands: a degree counts the needs that are left, and the nodes of degree 0 are
removed or ready. -/
structure Reducing (ready : List α) (degree : α → ℤ) (reduced : List α) : Prop where
  counts : ∀ node ∈ nodes, degree node = ((needs node).filter (· ∉ reduced)).length
  zero : ∀ node, node ∈ ready ∨ node ∈ reduced ↔ node ∈ nodes ∧ degree node = 0
  distinct : (reduced ++ ready).Nodup
  outside : ∀ node ∉ nodes, 0 ≤ degree node

variable {nodes needs}

theorem mem_dependentsOf {node other : α} :
    other ∈ dependentsOf nodes needs node ↔ other ∈ nodes ∧ node ∈ needs other := by
  simp only [dependentsOf, List.mem_flatMap, List.mem_replicate, ← Nat.pos_iff_ne_zero, List.count_pos_iff]
  constructor
  · rintro ⟨source, inside, needed, rfl⟩
    exact ⟨inside, needed⟩
  · rintro ⟨inside, needed⟩
    exact ⟨other, inside, needed, rfl⟩

theorem count_dependentsOf (distinct : nodes.Nodup) (node other : α) :
    (dependentsOf nodes needs node).count other =
      if other ∈ nodes then (needs other).count node else 0 := by
  unfold dependentsOf
  induction nodes with
  | nil => simp
  | cons first rest ih =>
    obtain ⟨absent, distinctRest⟩ := List.nodup_cons.mp distinct
    rw [List.flatMap_cons, List.count_append, ih distinctRest, List.count_replicate]
    by_cases same : first = other
    · subst same
      simp [absent]
    · have different : other ≠ first := Ne.symm same
      simp [same, different]

theorem filter_length_append (node : α) (reduced others : List α) (absent : node ∉ reduced) :
    (others.filter (· ∉ reduced ++ [node])).length + others.count node =
      (others.filter (· ∉ reduced)).length := by
  induction others with
  | nil => rfl
  | cons other rest ih =>
    by_cases same : other = node
    · subst same
      simp [absent]
      simp at ih
      omega
    · by_cases old : other ∈ reduced
      · simp [old, same]
        simpa using ih
      · simp [old, same]
        simp at ih
        omega

theorem reducing_step (distinct : nodes.Nodup) {node : α} {ready reduced : List α} {degree : α → ℤ}
    (reducing : Reducing nodes needs (node :: ready) degree reduced) :
    Reducing nodes needs (relax (dependentsOf nodes needs node) degree ready).2
      (relax (dependentsOf nodes needs node) degree ready).1 (reduced ++ [node]) := by
  obtain ⟨member, zero⟩ := (reducing.zero node).mp (.inl List.mem_cons_self)
  have apart := List.nodup_append.mp reducing.distinct
  have absent : node ∉ reduced := fun old => apart.2.2 node old node List.mem_cons_self rfl
  obtain ⟨unready, distinctReady⟩ := List.nodup_cons.mp apart.2.1
  have covered : ∀ other, ((dependentsOf nodes needs node).count other : ℤ) ≤ degree other := by
    intro other
    rw [count_dependentsOf distinct]
    by_cases inside : other ∈ nodes
    · rw [if_pos inside, reducing.counts other inside]
      have split := filter_length_append node reduced (needs other) absent
      omega
    · rw [if_neg inside]
      exact reducing.outside other inside
  have settled : ∀ other ∈ ready, degree other = 0 := fun other waiting =>
    ((reducing.zero other).mp (.inl (List.mem_cons_of_mem _ waiting))).2
  obtain ⟨nodup, members⟩ := relax_ready covered settled distinctReady
  have inNodes : ∀ other ∈ dependentsOf nodes needs node, other ∈ nodes :=
    fun other dependent => (mem_dependentsOf.mp dependent).1
  refine ⟨?_, ?_, ?_, ?_⟩
  · intro other inside
    rw [relax_degree, reducing.counts other inside, count_dependentsOf distinct, if_pos inside]
    have split := filter_length_append node reduced (needs other) absent
    omega
  · intro other
    rw [members other, relax_degree, List.mem_append, List.mem_singleton]
    have before := reducing.zero other
    rw [List.mem_cons] at before
    constructor
    · rintro ((waiting | ⟨dependent, exact_⟩) | (old | rfl))
      · obtain ⟨inside, none⟩ := before.mp (.inl (.inr waiting))
        have bound := covered other
        exact ⟨inside, by omega⟩
      · exact ⟨inNodes other dependent, by omega⟩
      · obtain ⟨inside, none⟩ := before.mp (.inr old)
        have bound := covered other
        exact ⟨inside, by omega⟩
      · have bound := covered other
        exact ⟨member, by omega⟩
    · rintro ⟨inside, none⟩
      by_cases dependent : other ∈ dependentsOf nodes needs node
      · exact .inl (.inr ⟨dependent, by omega⟩)
      · rw [List.count_eq_zero_of_not_mem dependent] at none
        rcases before.mpr ⟨inside, by simpa using none⟩ with (same | waiting) | old
        · exact .inr (.inr same)
        · exact .inl (.inl waiting)
        · exact .inr (.inl old)
  · rw [List.append_assoc, List.nodup_append]
    refine ⟨apart.1, ?_, ?_⟩
    · rw [List.singleton_append, List.nodup_cons]
      refine ⟨fun again => ?_, nodup⟩
      rcases (members node).mp again with waiting | ⟨dependent, exact_⟩
      · exact unready waiting
      · have positive := List.count_pos_iff.mpr dependent
        omega
    · intro old isOld other isNew same
      subst same
      rw [List.singleton_append, List.mem_cons] at isNew
      rcases isNew with rfl | later
      · exact absent isOld
      · rcases (members old).mp later with waiting | ⟨dependent, exact_⟩
        · exact apart.2.2 old isOld old (List.mem_cons_of_mem _ waiting) rfl
        · have positive := List.count_pos_iff.mpr dependent
          have none := ((reducing.zero old).mp (.inr isOld)).2
          omega
  · intro other outside
    rw [relax_degree, count_dependentsOf distinct, if_neg outside]
    simpa using reducing.outside other outside

/-- Run rule: what holds of a node whenever it holds of all its needs holds of every node removed; and a
node that is left has a need that is left. -/
theorem reduce_spec (distinct : nodes.Nodup) {holds : α → Prop} {rounds : ℕ} {ready reduced : List α}
    {degree : α → ℤ} (reducing : Reducing nodes needs ready degree reduced)
    (enough : nodes.length ≤ rounds + reduced.length)
    (step : ∀ node ∈ nodes, (∀ need ∈ needs node, holds need) → holds node)
    (before : ∀ node ∈ reduced, holds node) :
    (∀ node ∈ reduce (dependentsOf nodes needs) rounds ready degree reduced, node ∈ nodes ∧ holds node) ∧
      ∀ node ∈ nodes, node ∉ reduce (dependentsOf nodes needs) rounds ready degree reduced →
        ∃ need ∈ needs node, need ∉ reduce (dependentsOf nodes needs) rounds ready degree reduced := by
  have inside : ∀ node ∈ reduced, node ∈ nodes := fun node old => ((reducing.zero node).mp (.inr old)).1
  induction rounds generalizing ready reduced degree with
  | zero =>
    refine ⟨fun node old => ⟨inside node old, before node old⟩, fun node member left => ?_⟩
    have all := List.Subperm.perm_of_length_le
      ((List.subperm_of_subset (List.nodup_append.mp reducing.distinct).1 inside)) (by omega)
    exact absurd (all.mem_iff.mpr member) left
  | succ rounds ih =>
    cases ready with
    | nil =>
      refine ⟨fun node old => ⟨inside node old, before node old⟩, fun node member left => ?_⟩
      have positive : degree node ≠ 0 := fun none => by
        rcases (reducing.zero node).mpr ⟨member, none⟩ with waiting | old
        · simp at waiting
        · exact left old
      rw [reducing.counts node member] at positive
      have some : (needs node).filter (· ∉ reduced) ≠ [] := by
        intro empty
        rw [empty] at positive
        exact positive rfl
      obtain ⟨need, found⟩ := List.exists_mem_of_ne_nil _ some
      rw [List.mem_filter, decide_eq_true_eq] at found
      exact ⟨need, found⟩
    | cons node ready =>
      obtain ⟨member, none⟩ := (reducing.zero node).mp (.inl List.mem_cons_self)
      have met : ∀ need ∈ needs node, need ∈ reduced := by
        intro need needed
        by_contra missing
        rw [reducing.counts node member] at none
        have empty := List.length_eq_zero_iff.mp (by exact_mod_cast none)
        rw [List.filter_eq_nil_iff] at empty
        exact empty need needed (by simpa using missing)
      unfold reduce
      apply ih (reducing_step distinct reducing)
      · simp only [List.length_append, List.length_singleton]
        omega
      · intro other old
        rcases List.mem_append.mp old with old | here
        · exact before other old
        · rw [List.mem_singleton.mp here]
          exact step node member fun need needed => before need (met need needed)
      · intro other old
        rcases List.mem_append.mp old with old | here
        · exact inside other old
        · rw [List.mem_singleton.mp here]
          exact member

theorem reducing_initial (distinct : nodes.Nodup) :
    Reducing nodes needs (nodes.filter fun node => (needs node).isEmpty).reverse
      (fun node => (needs node).length) [] where
  counts := by simp
  zero := by simp
  distinct := by simpa using distinct.filter _
  outside := by simp

theorem reduce_nodup (distinct : nodes.Nodup) {rounds : ℕ} {ready reduced : List α} {degree : α → ℤ}
    (reducing : Reducing nodes needs ready degree reduced) :
    (reduce (dependentsOf nodes needs) rounds ready degree reduced).Nodup := by
  induction rounds generalizing ready reduced degree with
  | zero => exact (List.nodup_append.mp reducing.distinct).1
  | succ rounds ih =>
    cases ready with
    | nil => exact (List.nodup_append.mp reducing.distinct).1
    | cons node ready => exact ih (reducing_step distinct reducing)

theorem reduceAll_nodup (distinct : nodes.Nodup) : (reduceAll nodes needs).Nodup :=
  reduce_nodup distinct (reducing_initial distinct)

theorem reduceAll_induction (distinct : nodes.Nodup) {holds : α → Prop}
    (step : ∀ node ∈ nodes, (∀ need ∈ needs node, holds need) → holds node) :
    ∀ node ∈ reduceAll nodes needs, holds node := fun node member =>
  ((reduce_spec distinct (reducing_initial distinct) (by simp) step (by simp)).1 node member).2

theorem mem_nodes_of_reduceAll (distinct : nodes.Nodup) {node : α} (member : node ∈ reduceAll nodes needs) :
    node ∈ nodes :=
  ((reduce_spec distinct (reducing_initial distinct) (by simp) (fun _ _ _ => trivial) (by simp)).1
    node member).1

/-- A node that is not removed needs another that is not. -/
theorem need_of_left (distinct : nodes.Nodup) {node : α} (member : node ∈ nodes)
    (left : node ∉ reduceAll nodes needs) : ∃ need ∈ needs node, need ∉ reduceAll nodes needs :=
  (reduce_spec distinct (reducing_initial distinct) (by simp) (fun _ _ _ => trivial) (by simp)).2
    node member left

end Needs

end Reduce

section Cycles

inductive Colour where
  | white
  | grey
  | black
deriving DecidableEq

/-- The search from one root: the path with what is left of each node's successors, the nearest first. -/
structure Walk (α : Type*) where
  frames : List (α × List α)
  colour : α → Colour
  cycles : List α

variable (nodes : List α) (successors : α → List α)

/-- The part of the path, from its start, that a successor closes to a cycle. -/
def closedPart (frames : List (α × List α)) (node : α) : List α :=
  let path := (frames.map Prod.fst).reverse
  if node ∈ path then path.dropWhile (· ≠ node) else path

/-- One round of the search. Successors that are no nodes are passed over. -/
def advance (walk : Walk α) : Walk α :=
  match walk.frames with
  | [] => walk
  | (node, []) :: frames => { walk with frames, colour := Function.update walk.colour node .black }
  | (node, next :: rest) :: frames =>
      if next ∉ nodes then { walk with frames := (node, rest) :: frames }
      else match walk.colour next with
        | .grey => { walk with
            frames := (node, rest) :: frames
            cycles := walk.cycles ++ closedPart walk.frames next ++ [next] }
        | .white => { walk with
            frames := (next, successors next) :: (node, rest) :: frames
            colour := Function.update walk.colour next .grey }
        | .black => { walk with frames := (node, rest) :: frames }

/-- A round for every node and every successor is enough for a search from any root. -/
def rounds : ℕ := ∑ node ∈ nodes.toFinset, ((successors node).length + 1)

def explore (walk : Walk α) (root : α) : Walk α :=
  if walk.colour root = .white then
    (advance nodes successors)^[rounds nodes successors] { walk with
      frames := [(root, successors root)]
      colour := Function.update walk.colour root .grey }
  else walk

/-- The nodes of the cycles found, by a search from every node that has not been visited. -/
def findCycles : List α :=
  (nodes.foldl (explore nodes successors) ⟨[], fun _ => .white, []⟩).cycles

variable {nodes successors}

section Members

/-- The path and the cycles consist of nodes. -/
def Within (nodes : List α) (walk : Walk α) : Prop :=
  (∀ frame ∈ walk.frames, frame.1 ∈ nodes) ∧ ∀ node ∈ walk.cycles, node ∈ nodes

theorem mem_frames_of_closedPart {frames : List (α × List α)} {node other : α}
    (member : other ∈ closedPart frames node) : ∃ frame ∈ frames, frame.1 = other := by
  have onPath : other ∈ (frames.map Prod.fst).reverse := by
    simp only [closedPart] at member
    split at member
    · exact (List.dropWhile_sublist _).subset member
    · exact member
  simpa using onPath

theorem within_advance {walk : Walk α} (within : Within nodes walk) :
    Within nodes (advance nodes successors walk) := by
  obtain ⟨path, cycles⟩ := within
  unfold advance
  split
  · exact ⟨path, cycles⟩
  · rename_i node frames shape
    rw [shape] at path
    exact ⟨fun frame member => path frame (List.mem_cons_of_mem _ member), cycles⟩
  · rename_i node next rest frames shape
    rw [shape] at path
    have onward : ∀ frame ∈ (node, rest) :: frames, frame.1 ∈ nodes := by
      intro frame member
      rcases List.mem_cons.mp member with rfl | deeper
      · exact path (node, next :: rest) List.mem_cons_self
      · exact path frame (List.mem_cons_of_mem _ deeper)
    split
    · exact ⟨onward, cycles⟩
    · rename_i inside
      rw [not_not] at inside
      split
      · refine ⟨onward, fun other member => ?_⟩
        rcases List.mem_append.mp member with earlier | last
        · rcases List.mem_append.mp earlier with old | closed
          · exact cycles other old
          · rw [shape] at closed
            obtain ⟨frame, onPath, rfl⟩ := mem_frames_of_closedPart closed
            exact path frame onPath
        · rw [List.mem_singleton.mp last]
          exact inside
      · refine ⟨fun frame member => ?_, cycles⟩
        rcases List.mem_cons.mp member with rfl | deeper
        · exact inside
        · exact onward frame deeper
      · exact ⟨onward, cycles⟩

theorem within_explore {walk : Walk α} {root : α} (within : Within nodes walk) (member : root ∈ nodes) :
    Within nodes (explore nodes successors walk root) := by
  unfold explore
  split
  · refine Function.Iterate.rec (Within nodes) ?_ (fun _ => within_advance) _
    exact ⟨by simpa using member, within.2⟩
  · exact within

theorem mem_of_findCycles {node : α} (member : node ∈ findCycles nodes successors) : node ∈ nodes := by
  have throughout : ∀ (roots : List α) (walk : Walk α), roots ⊆ nodes → Within nodes walk →
      Within nodes (roots.foldl (explore nodes successors) walk) := by
    intro roots
    induction roots with
    | nil => exact fun _ _ within => within
    | cons root rest ih =>
      intro walk inside within
      obtain ⟨first, others⟩ := List.cons_subset.mp inside
      exact ih _ others (within_explore within first)
  have start : Within nodes (⟨[], fun _ => .white, []⟩ : Walk α) := ⟨by simp, by simp⟩
  exact (throughout nodes _ (List.Subset.refl _) start).2 node member

end Members

section Found

theorem advance_keeps {walk : Walk α} (found : walk.cycles ≠ []) :
    (advance nodes successors walk).cycles ≠ [] := by
  unfold advance
  split
  · exact found
  · exact found
  · split
    · exact found
    · split
      · simp
      · exact found
      · exact found

theorem explore_keeps {walk : Walk α} {root : α} (found : walk.cycles ≠ []) :
    (explore nodes successors walk root).cycles ≠ [] := by
  unfold explore
  split
  · refine Function.Iterate.rec (fun walk : Walk α => walk.cycles ≠ []) ?_ (fun _ => advance_keeps) _
    exact found
  · exact found

/-- What the search may still do: the successors of nodes not yet visited and those left on the path. -/
def remainingWork (nodes : List α) (successors : α → List α) (walk : Walk α) : ℕ :=
  (∑ node ∈ nodes.toFinset with walk.colour node = .white, ((successors node).length + 1)) +
    (walk.frames.map fun frame => frame.2.length + 1).sum

/-- Visiting a successor takes its own successors over to the path. -/
theorem work_visit {walk : Walk α} {node next : α} {rest : List α} {frames : List (α × List α)}
    (shape : walk.frames = (node, next :: rest) :: frames) (inside : next ∈ nodes)
    (white : walk.colour next = .white) :
    remainingWork nodes successors { walk with
      frames := (next, successors next) :: (node, rest) :: frames
      colour := Function.update walk.colour next .grey } + 1 = remainingWork nodes successors walk := by
  have visited : nodes.toFinset.filter
      (fun other => Function.update walk.colour next .grey other = .white) =
      (nodes.toFinset.filter fun other => walk.colour other = .white).erase next := by
    ext other
    simp only [Finset.mem_filter, Finset.mem_erase]
    by_cases same : other = next
    · simp [same]
    · simp [same]
  have unvisited : next ∈ nodes.toFinset.filter fun other => walk.colour other = .white := by
    simp [inside, white]
  have taken := Finset.add_sum_erase _ (fun other => (successors other).length + 1) unvisited
  simp only [remainingWork, visited, shape, List.map_cons, List.sum_cons, List.length_cons] at taken ⊢
  omega

theorem work_pass {walk : Walk α} {node next : α} {rest cycles : List α} {frames : List (α × List α)}
    (shape : walk.frames = (node, next :: rest) :: frames) :
    remainingWork nodes successors { walk with frames := (node, rest) :: frames, cycles := cycles } + 1 =
      remainingWork nodes successors walk := by
  simp only [remainingWork, shape, List.map_cons, List.sum_cons, List.length_cons]
  omega

/-- As long as no cycle has been found, no node has been left: the path goes on from its end. -/
structure Searching (nodes : List α) (successors : α → List α) (walk : Walk α) : Prop where
  onward : ∃ node rest frames, walk.frames = (node, rest) :: frames ∧ node ∈ nodes ∧
    ∀ next ∈ successors node, next ∈ nodes → next ∈ rest
  unfinished : ∀ node, walk.colour node ≠ .black

theorem update_grey_unfinished {colour : α → Colour} (unfinished : ∀ node, colour node ≠ .black)
    (next node : α) : Function.update colour next .grey node ≠ .black := by
  by_cases same : node = next
  · rw [same, Function.update_self]
    simp
  · rw [Function.update_of_ne same]
    exact unfinished node

theorem searching_advance (serial : ∀ node ∈ nodes, ∃ next ∈ successors node, next ∈ nodes) {walk : Walk α}
    (searching : Searching nodes successors walk) :
    (advance nodes successors walk).cycles ≠ [] ∨
      (Searching nodes successors (advance nodes successors walk) ∧
        remainingWork nodes successors (advance nodes successors walk) + 1 =
          remainingWork nodes successors walk) := by
  obtain ⟨⟨node, rest, frames, shape, member, ahead⟩, unfinished⟩ := searching
  cases rest with
  | nil =>
    obtain ⟨next, follows, inside⟩ := serial node member
    exact absurd (ahead next follows inside) List.not_mem_nil
  | cons next rest =>
    by_cases inside : next ∈ nodes
    · cases colour : walk.colour next with
      | grey =>
        left
        simp [advance, shape, inside, colour]
      | black => exact absurd colour (unfinished next)
      | white =>
        right
        have stepped : advance nodes successors walk = { walk with
            frames := (next, successors next) :: (node, rest) :: frames
            colour := Function.update walk.colour next .grey } := by
          simp [advance, shape, inside, colour]
        rw [stepped]
        exact ⟨⟨⟨next, successors next, _, rfl, inside, fun _ follows _ => follows⟩,
          update_grey_unfinished unfinished next⟩, work_visit shape inside colour⟩
    · right
      have stepped : advance nodes successors walk = { walk with frames := (node, rest) :: frames } := by
        simp [advance, shape, inside]
      rw [stepped]
      refine ⟨⟨⟨node, rest, frames, rfl, member, fun other follows isNode => ?_⟩, unfinished⟩, work_pass shape⟩
      rcases List.mem_cons.mp (ahead other follows isNode) with rfl | later
      · exact absurd isNode inside
      · exact later

theorem found_of_searching (serial : ∀ node ∈ nodes, ∃ next ∈ successors node, next ∈ nodes) {walk : Walk α}
    {count : ℕ} (searching : Searching nodes successors walk)
    (enough : remainingWork nodes successors walk ≤ count) :
    ((advance nodes successors)^[count] walk).cycles ≠ [] := by
  induction count generalizing walk with
  | zero =>
    obtain ⟨⟨node, rest, frames, shape, -, -⟩, -⟩ := searching
    simp only [remainingWork, shape, List.map_cons, List.sum_cons] at enough
    omega
  | succ count ih =>
    rw [Function.iterate_succ_apply]
    rcases searching_advance serial searching with found | ⟨further, less⟩
    · exact Function.Iterate.rec (fun walk : Walk α => walk.cycles ≠ []) found (fun _ => advance_keeps) _
    · exact ih further (by omega)

/-- If every node has a successor among the nodes, a cycle is found. -/
theorem findCycles_ne_nil (serial : ∀ node ∈ nodes, ∃ next ∈ successors node, next ∈ nodes)
    (some : nodes ≠ []) : findCycles nodes successors ≠ [] := by
  obtain ⟨root, rest, rfl⟩ := List.exists_cons_of_ne_nil some
  have kept : ∀ (roots : List α) (walk : Walk α), walk.cycles ≠ [] →
      (roots.foldl (explore (root :: rest) successors) walk).cycles ≠ [] := by
    intro roots
    induction roots with
    | nil => exact fun _ found => found
    | cons next others ih => exact fun walk found => ih _ (explore_keeps found)
  unfold findCycles
  rw [List.foldl_cons]
  apply kept
  unfold explore
  rw [if_pos rfl]
  apply found_of_searching serial
  · exact ⟨⟨root, successors root, [], rfl, List.mem_cons_self, fun _ follows _ => follows⟩,
      update_grey_unfinished (by simp) root⟩
  · have visited : (root :: rest).toFinset.filter
        (fun node => Function.update (fun _ => Colour.white) root .grey node = .white) =
        (root :: rest).toFinset.erase root := by
      ext node
      by_cases same : node = root
      · simp [same]
      · simp [same]
    have member : root ∈ (root :: rest).toFinset := by simp
    have whole := Finset.add_sum_erase _ (fun node => (successors node).length + 1) member
    simp only [remainingWork, visited, rounds, List.map_cons, List.map_nil, List.sum_cons, List.sum_nil]
    omega

end Found

end Cycles

end Tasklite.Library.Graph
