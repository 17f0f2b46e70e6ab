import Mathlib.Order.Bounds.Defs
import Tasklite.Engine.Deferral
import Tasklite.Models.Cycles

/-! The standstill as a partition of the queue. What the reduction removes is the least set of
jobs whose dependencies are all accounted for; of these, the ones behind a postponed job are
blocked. What it leaves is stuck, and holds a cycle unless a dependency is missing. -/

namespace Tasklite.Engine.Partition
open Tasklite.Library Tasklite.Models Tasklite.Models.Identity Tasklite.Models.PipelineState
  Tasklite.Engine.Deferral Tasklite.Engine.Lifecycle Selection Relation

section Meaning

variable [Python] (selection : Selection) (state : PipelineState)

/-- Queued, of a type that the selection keeps from running. -/
def Deferred (uid : String) : Prop :=
  ∃ job, state.rowOf none uid = some job ∧ selection.allowsTaskType job.taskType.val = false

/-- Queued, of a type that may run. -/
def Allowed (uid : String) : Prop :=
  ∃ job, state.rowOf none uid = some job ∧ selection.allowsTaskType job.taskType.val = true

/-- The queued job has the dependency, which need not be queued itself. -/
def Requires (uid dependency : String) : Prop :=
  ∃ job, state.rowOf none uid = some job ∧ dependency ∈ job.dependsOn

/-- Sets of jobs that hold every job that may run once all its dependencies are postponed, met or in the set. -/
def Closed (uids : Set String) : Prop :=
  ∀ uid, Allowed selection state uid → (∀ dependency, Requires state uid dependency →
    Deferred selection state dependency ∨ state.dependencyReady dependency = true ∨ dependency ∈ uids) → uid ∈ uids

/-- A job that may run depends on the uid. -/
def HoldsUp (dependency uid : String) : Prop := Allowed selection state uid ∧ Requires state uid dependency

end Meaning

section Theory

variable [Python] {selection : Selection} {state : PipelineState} {uid dependency : String}

section Facts

theorem get?_factsOf : (factsOf state.queuedJobs).get? uid =
    (state.rowOf none uid).map fun job => (job.taskType.val, job.dependsOn) := by
  have all : state.consideredJobs none = state.queuedJobs := by simp [consideredJobs]
  rw [factsOf, Dict.get?_ofPairs, rowOf, all, ← List.map_reverse, List.find?_map, Option.map_map]
  rfl

theorem deferred_iff : uid ∈ selection.deferredUids (factsOf state.queuedJobs) ↔ Deferred selection state uid := by
  rw [mem_deferredUids, get?_factsOf]
  simp [Deferred]

theorem allowed_iff : uid ∈ selection.allowedUids (factsOf state.queuedJobs) ↔ Allowed selection state uid := by
  rw [mem_allowedUids, get?_factsOf]
  simp [Allowed]

theorem requires_iff : dependency ∈ dependsOnOf (factsOf state.queuedJobs) uid ↔ Requires state uid dependency := by
  rw [dependsOnOf, get?_factsOf]
  cases row : state.rowOf none uid with
  | none => simp [Requires, row]
  | some job => simp [Requires, row]

theorem not_deferred_of_allowed (allowed : Allowed selection state uid) : ¬ Deferred selection state uid := by
  rintro ⟨job, row, barred⟩
  obtain ⟨other, same, may⟩ := allowed
  rw [row] at same
  rw [← Option.some.inj same, barred] at may
  cases may

/-- A queued uid whose rows parse is postponed or may run. -/
theorem deferred_or_allowed_iff (parses : state.queue.all (fun row => (Job.fromDict row).isOk) = true) :
    Deferred selection state uid ∨ Allowed selection state uid ↔ uid ∈ uidsOf state.queue := by
  constructor
  · rintro (⟨job, row, -⟩ | ⟨job, row, -⟩) <;>
    · have queued : job ∈ state.queuedJobs :=
        List.mem_of_mem_filter (List.mem_reverse.mp (List.mem_of_find?_eq_some row))
      have named : job.uid = uid := by simpa using List.find?_some row
      exact named ▸ queued_of_job queued
  · intro queued
    obtain ⟨value, found⟩ := facts_of_queued parses queued
    rw [get?_factsOf] at found
    obtain ⟨job, row, -⟩ := Option.map_eq_some_iff.mp found
    cases may : selection.allowsTaskType job.taskType.val with
    | true => exact .inr ⟨job, row, may⟩
    | false => exact .inl ⟨job, row, may⟩

end Facts

section Reduced

/-- What the reduction removes. -/
abbrev reduced (selection : Selection) (state : PipelineState) : List String :=
  selection.reducedUids (factsOf state.queuedJobs) state

theorem allowed_of_reduced (member : uid ∈ reduced selection state) : Allowed selection state uid :=
  allowed_iff.mp (Graph.mem_nodes_of_reduceAll allowedUids_nodup member)

theorem mem_unmet : dependency ∈ selection.unmet (factsOf state.queuedJobs) state uid ↔
    Requires state uid dependency ∧ ¬ Deferred selection state dependency ∧
      ¬ state.dependencyReady dependency = true := by
  rw [unmet, List.mem_filter, requires_iff, decide_eq_true_eq, deferred_iff]

theorem closed_reduced : Closed selection state {uid | uid ∈ reduced selection state} := by
  intro uid allowed accounted
  by_contra left
  obtain ⟨need, unmet, remains⟩ := Graph.need_of_left allowedUids_nodup (allowed_iff.mpr allowed) left
  obtain ⟨requires, barred, unready⟩ := mem_unmet.mp unmet
  rcases accounted need requires with deferred | ready | removed
  · exact barred deferred
  · exact unready ready
  · exact remains removed

theorem reduced_subset {uids : Set String} (closed : Closed selection state uids)
    (member : uid ∈ reduced selection state) : uid ∈ uids := by
  refine Graph.reduceAll_induction allowedUids_nodup (fun other allowed needs => ?_) uid member
  apply closed other (allowed_iff.mp allowed)
  intro dependency requires
  by_cases deferred : Deferred selection state dependency
  · exact .inl deferred
  · by_cases ready : state.dependencyReady dependency = true
    · exact .inr (.inl ready)
    · exact .inr (.inr (needs dependency (mem_unmet.mpr ⟨requires, deferred, ready⟩)))

end Reduced

section HeldUp

theorem holdsUp_iff : uid ∈ Graph.dependentsOf (selection.allowedUids (factsOf state.queuedJobs))
    (dependsOnOf (factsOf state.queuedJobs)) dependency ↔ HoldsUp selection state dependency uid := by
  rw [Graph.mem_dependentsOf, allowed_iff, requires_iff]
  rfl

/-- Whom the traversal has found a job behind. -/
theorem rooted_of_heldUp {entry : String × String}
    (member : entry ∈ selection.heldUp (factsOf state.queuedJobs)) :
    Deferred selection state entry.2 ∧ TransGen (HoldsUp selection state) entry.2 entry.1 := by
  have edges : (fun parent child => child ∈ Graph.dependentsOf (selection.allowedUids (factsOf state.queuedJobs))
      (dependsOnOf (factsOf state.queuedJobs)) parent) = HoldsUp selection state := by
    funext parent child
    exact propext holdsUp_iff
  have rooted := @Graph.rooted_of_reach _ _ (Graph.dependentsOf (selection.allowedUids
    (factsOf state.queuedJobs)) (dependsOnOf (factsOf state.queuedJobs)))
    (selection.deferredUids (factsOf state.queuedJobs)).toFinset _ _ [] ?_ (by simp) entry member
  · rw [edges, List.mem_toFinset, deferred_iff] at rooted
    exact rooted
  · intro other pending
    obtain ⟨root, listed, rfl⟩ := List.mem_map.mp (List.mem_reverse.mp pending)
    exact ⟨List.mem_toFinset.mpr ((Python.setOrder_perm _).mem_iff.mp listed), ReflTransGen.refl⟩

theorem mem_heldUp : uid ∈ (selection.heldUp (factsOf state.queuedJobs)).map Prod.fst ↔
    ∃ root, Deferred selection state root ∧ TransGen (HoldsUp selection state) root uid := by
  constructor
  · intro member
    obtain ⟨entry, listed, rfl⟩ := List.mem_map.mp member
    exact ⟨entry.2, rooted_of_heldUp listed⟩
  · rintro ⟨root, deferred, path⟩
    induction path with
    | single edge =>
      exact heldUp_of_dependency (allowed_iff.mpr edge.1) (requires_iff.mpr edge.2)
        (.inl (deferred_iff.mpr deferred))
    | tail _ edge ih =>
      exact heldUp_of_dependency (allowed_iff.mpr edge.1) (requires_iff.mpr edge.2) (.inr ih)

theorem heldUp_nodup : ((selection.heldUp (factsOf state.queuedJobs)).map Prod.fst).Nodup :=
  Graph.reach_nodup List.nodup_nil

end HeldUp

section Standstill

/-- The standstill that the facts of the queue give. -/
abbrev standstill (selection : Selection) (state : PipelineState) : SelectionStandstill :=
  selection.standstillOf state (factsOf state.queuedJobs)

theorem mem_blocked : uid ∈ (standstill selection state).blockedUids ↔
    uid ∈ reduced selection state ∧ uid ∈ (selection.heldUp (factsOf state.queuedJobs)).map Prod.fst := by
  simp only [standstill, standstillOf, mem_sortTexts, List.mem_map, List.mem_filter, decide_eq_true_eq]
  constructor
  · rintro ⟨entry, ⟨held, removed⟩, rfl⟩
    exact ⟨removed, entry, held, rfl⟩
  · rintro ⟨removed, entry, held, rfl⟩
    exact ⟨entry, ⟨held, removed⟩, rfl⟩

theorem mem_unblocked : uid ∈ (standstill selection state).unblockedUids ↔
    uid ∈ reduced selection state ∧ uid ∉ (standstill selection state).blockedUids := by
  simp only [standstill, standstillOf, mem_sortTexts, List.mem_filter, decide_eq_true_eq]

theorem mem_stuck : uid ∈ (standstill selection state).stuckUids ↔
    Allowed selection state uid ∧ uid ∉ reduced selection state := by
  simp only [standstill, standstillOf, mem_sortTexts, stuckUidsOf, List.mem_filter, decide_eq_true_eq,
    allowed_iff]

omit [Python] in
theorem sortTexts_nodup {texts : List String} (distinct : texts.Nodup) : (sortTexts texts).Nodup :=
  (List.perm_insertionSort _ texts).nodup_iff.mpr distinct

/-- The postponed, the blocked, the unblocked and the stuck jobs are the queue, each uid in one part. -/
theorem partition_nodup : (selection.deferredUids (factsOf state.queuedJobs) ++
    (standstill selection state).blockedUids ++ (standstill selection state).unblockedUids ++
    (standstill selection state).stuckUids).Nodup := by
  have deferred : (selection.deferredUids (factsOf state.queuedJobs)).Nodup :=
    (factsOf state.queuedJobs).distinct.sublist (List.filter_sublist.map Prod.fst)
  have removed : (reduced selection state).Nodup := Graph.reduceAll_nodup allowedUids_nodup
  have blocked : (standstill selection state).blockedUids.Nodup :=
    sortTexts_nodup (heldUp_nodup.sublist (List.filter_sublist.map Prod.fst))
  have unblocked : (standstill selection state).unblockedUids.Nodup := sortTexts_nodup (removed.filter _)
  have stuck : (standstill selection state).stuckUids.Nodup := sortTexts_nodup (allowedUids_nodup.filter _)
  have apart : ∀ uid ∈ selection.deferredUids (factsOf state.queuedJobs), ¬ Allowed selection state uid :=
    fun uid member allowed => not_deferred_of_allowed allowed (deferred_iff.mp member)
  refine ((deferred.append blocked ?_).append unblocked ?_).append stuck ?_
  · intro uid first second
    exact apart uid first (allowed_of_reduced (mem_blocked.mp second).1)
  · intro uid first second
    obtain ⟨member, free⟩ := mem_unblocked.mp second
    rcases List.mem_append.mp first with postponed | behind
    · exact apart uid postponed (allowed_of_reduced member)
    · exact free behind
  · intro uid first second
    obtain ⟨allowed, left⟩ := mem_stuck.mp second
    rcases List.mem_append.mp first with early | free
    · rcases List.mem_append.mp early with postponed | behind
      · exact apart uid postponed allowed
      · exact left (mem_blocked.mp behind).1
    · exact left (mem_unblocked.mp free).1

theorem mem_partition (parses : state.queue.all (fun row => (Job.fromDict row).isOk) = true) :
    uid ∈ selection.deferredUids (factsOf state.queuedJobs) ++ (standstill selection state).blockedUids ++
        (standstill selection state).unblockedUids ++ (standstill selection state).stuckUids ↔
      uid ∈ uidsOf state.queue := by
  rw [← @deferred_or_allowed_iff _ selection _ _ parses]
  simp only [List.mem_append, deferred_iff, mem_unblocked, mem_stuck]
  constructor
  · rintro (((postponed | behind) | ⟨member, -⟩) | ⟨allowed, -⟩)
    · exact .inl postponed
    · exact .inr (allowed_of_reduced (mem_blocked.mp behind).1)
    · exact .inr (allowed_of_reduced member)
    · exact .inr allowed
  · rintro (postponed | allowed)
    · exact .inl (.inl (.inl postponed))
    · by_cases member : uid ∈ reduced selection state
      · by_cases behind : uid ∈ (standstill selection state).blockedUids
        · exact .inl (.inl (.inr behind))
        · exact .inl (.inr ⟨member, behind⟩)
      · exact .inr ⟨allowed, member⟩

/-- Restricting the graph to some uids does not change the rows they stand for. -/
theorem rowOf_some {uids : Finset String} (inside : uid ∈ uids) :
    state.rowOf (some uids) uid = state.rowOf none uid := by
  have all : state.consideredJobs none = state.queuedJobs := by simp [consideredJobs]
  have within : state.consideredJobs (some uids) = state.queuedJobs.filter fun job => job.uid ∈ uids := by
    simp [consideredJobs]
  rw [rowOf, rowOf, all, within, ← List.filter_reverse, List.find?_filter]
  congr 1
  funext job
  by_cases same : job.uid = uid
  · simp [same, inside]
  · simp [same]

/-- A stuck job whose unmet dependencies are all queued depends on another stuck job. -/
theorem stuck_of_stuck (parses : state.queue.all (fun row => (Job.fromDict row).isOk) = true)
    (stuck : uid ∈ (standstill selection state).stuckUids)
    (known : ∀ dependency, Requires state uid dependency →
      dependency ∈ uidsOf state.queue ∨ state.dependencyReady dependency = true) :
    ∃ dependency, Requires state uid dependency ∧ dependency ∈ (standstill selection state).stuckUids := by
  obtain ⟨allowed, left⟩ := mem_stuck.mp stuck
  obtain ⟨need, unmet, remains⟩ := Graph.need_of_left allowedUids_nodup (allowed_iff.mpr allowed) left
  obtain ⟨requires, barred, unready⟩ := mem_unmet.mp unmet
  have queued := (known need requires).resolve_right unready
  have may := ((@deferred_or_allowed_iff _ selection _ _ parses).mpr queued).resolve_left barred
  exact ⟨need, requires, mem_stuck.mpr ⟨may, remains⟩⟩

/-- Stuck jobs without missing dependencies hold a cycle. -/
theorem cycles_of_stuck (parses : state.queue.all (fun row => (Job.fromDict row).isOk) = true)
    (some_ : (standstill selection state).stuckUids ≠ [])
    (known : ∀ uid ∈ (standstill selection state).stuckUids, ∀ dependency, Requires state uid dependency →
      dependency ∈ uidsOf state.queue ∨ state.dependencyReady dependency = true) :
    (standstill selection state).cycleUids ≠ [] := by
  set stuck := selection.stuckUidsOf (factsOf state.queuedJobs) state with stuckDef
  have listed : ∀ uid, uid ∈ (standstill selection state).stuckUids ↔ uid ∈ stuck := fun uid => mem_sortTexts
  have remains : stuck ≠ [] := fun none => some_ (sortTexts_eq_nil.mpr none)
  have cycles : (standstill selection state).cycleUids =
      state.findDependencyCycles (some stuck.toFinset) := if_neg (by simpa using remains)
  have searched : ∀ uid ∈ stuck, uid ∈ state.searchedUids (some stuck.toFinset) := by
    intro uid member
    obtain ⟨⟨job, row, -⟩, -⟩ := mem_stuck.mp ((listed uid).mpr member)
    have inside := List.mem_toFinset.mpr member
    rw [← rowOf_some inside] at row
    have named : job.uid = uid := by simpa using List.find?_some row
    exact mem_searchedUids.mpr ⟨job, List.mem_reverse.mp (List.mem_of_find?_eq_some row), named⟩
  have inStuck : ∀ uid ∈ state.searchedUids (some stuck.toFinset), uid ∈ stuck := by
    intro uid member
    obtain ⟨job, considered, named⟩ := mem_searchedUids.mp member
    have inside := (List.mem_filter.mp considered).2
    rw [named] at inside
    simpa using inside
  rw [cycles]
  apply Graph.findCycles_ne_nil
  · intro uid member
    have own := inStuck uid member
    obtain ⟨dependency, ⟨job, row, depends⟩, next⟩ := stuck_of_stuck parses ((listed uid).mpr own)
      (known uid ((listed uid).mpr own))
    rw [← rowOf_some (List.mem_toFinset.mpr own)] at row
    exact ⟨dependency, mem_searchedEdges.mpr ⟨job, row, depends⟩, searched dependency ((listed _).mp next)⟩
  · obtain ⟨uid, member⟩ := List.exists_mem_of_ne_nil _ remains
    exact List.ne_nil_of_mem (searched uid member)

theorem standstill_of_empty (none : state.queue = []) : standstill selection state = {} := by
  have jobs : state.queuedJobs = [] := by simp [queuedJobs, none]
  have order : Python.setOrder [] = [] := (Python.setOrder_perm []).eq_nil
  have facts : factsOf state.queuedJobs = Dict.empty := by rw [jobs]; rfl
  have allowed : selection.allowedUids Dict.empty = [] := order
  have reduced : selection.reducedUids Dict.empty state = [] := by
    rw [reducedUids, allowed]
    rfl
  have stuck : selection.stuckUidsOf Dict.empty state = [] := by
    rw [stuckUidsOf, allowed]
    rfl
  have held : selection.heldUp Dict.empty = [] := by
    have deferred : selection.deferredUids Dict.empty = [] := rfl
    rw [heldUp, deferred, allowed, order]
    rfl
  unfold standstill standstillOf
  rw [facts, reduced, stuck, held]
  rfl

end Standstill

/-- The standstill of a queue whose rows all parse, under a selection with rules. -/
theorem partitionStandstill_spec (active : selection.isActive = true)
    (parses : state.queue.all (fun row => (Job.fromDict row).isOk) = true) :
    ∃ parts, selection.partitionStandstill state = some parts ∧
      (∃ deferred : List String, (∀ uid, uid ∈ deferred ↔ Deferred selection state uid) ∧
        (deferred ++ parts.blockedUids ++ parts.unblockedUids ++ parts.stuckUids).Nodup ∧
        ∀ uid, uid ∈ deferred ++ parts.blockedUids ++ parts.unblockedUids ++ parts.stuckUids ↔
          uid ∈ uidsOf state.queue) ∧
      IsLeast {uids | (∀ uid ∈ uids, Allowed selection state uid) ∧ Closed selection state uids}
        {uid | uid ∈ parts.blockedUids ∨ uid ∈ parts.unblockedUids} ∧
      (∀ uid, uid ∈ parts.blockedUids ↔ (uid ∈ parts.blockedUids ∨ uid ∈ parts.unblockedUids) ∧
        ∃ root, Deferred selection state root ∧ TransGen (HoldsUp selection state) root uid) ∧
      (∀ pair ∈ parts.blockedBy, pair.1 ∈ parts.blockedUids ∧ Deferred selection state pair.2 ∧
        TransGen (HoldsUp selection state) pair.2 pair.1) ∧
      (parts.stuckUids ≠ [] → (∀ uid ∈ parts.stuckUids, ∀ dependency, Requires state uid dependency →
        dependency ∈ uidsOf state.queue ∨ state.dependencyReady dependency = true) → parts.cycleUids ≠ []) := by
  have partitioned : selection.partitionStandstill state = some (standstill selection state) := by
    unfold partitionStandstill
    rw [if_neg (by simp [active])]
    by_cases empty : state.queue = []
    · rw [if_pos (by simp [empty]), standstill_of_empty empty]
    · rw [if_neg (by simpa using empty), if_pos parses]
  have removed : ∀ uid, uid ∈ (standstill selection state).blockedUids ∨
      uid ∈ (standstill selection state).unblockedUids ↔ uid ∈ reduced selection state := by
    intro uid
    rw [mem_unblocked]
    constructor
    · rintro (behind | ⟨member, -⟩)
      · exact (mem_blocked.mp behind).1
      · exact member
    · intro member
      by_cases behind : uid ∈ (standstill selection state).blockedUids
      · exact .inl behind
      · exact .inr ⟨member, behind⟩
  refine ⟨_, partitioned, ⟨_, fun uid => deferred_iff, partition_nodup, fun uid => mem_partition parses⟩,
    ?_, ?_, ?_, cycles_of_stuck parses⟩
  · have same : {uid | uid ∈ (standstill selection state).blockedUids ∨
        uid ∈ (standstill selection state).unblockedUids} = {uid | uid ∈ reduced selection state} := by
      ext uid
      exact removed uid
    rw [same]
    exact ⟨⟨fun uid member => allowed_of_reduced member, closed_reduced⟩,
      fun uids closed uid member => reduced_subset closed.2 member⟩
  · intro uid
    rw [removed, mem_blocked, mem_heldUp]
  · intro pair member
    have entry := (List.mem_insertionSort _).mp member
    obtain ⟨held, inside⟩ := List.mem_filter.mp entry
    exact ⟨mem_blocked.mpr ⟨by simpa using inside, List.mem_map_of_mem held⟩, rooted_of_heldUp held⟩

end Theory

section Sample

local instance : Python := samplePython

/-- A job whose type is postponed, one that depends on it, and one that depends on itself. -/
def partedQueue : List Record :=
  [Dict.ofPairs [("task_type", .str "e"), ("job_id", .str "a")],
    Dict.ofPairs [("task_type", .str "t"), ("job_id", .str "b"), ("depends_on", .arr [.str "e::a"])],
    Dict.ofPairs [("task_type", .str "t"), ("job_id", .str "c"), ("depends_on", .arr [.str "t::c"])]]

theorem partitionStandstill_parted :
    let selection : Selection := ⟨[.exclude "e"]⟩
    let state := PipelineState.init Dict.empty Dict.empty Dict.empty partedQueue
    selection.isActive = true ∧ state.queue.all (fun row => (Job.fromDict row).isOk) = true ∧
      selection.partitionStandstill state =
        some ⟨["e::a"], ["t::b"], [], ["t::c"], ["t::c", "t::c"], [("t::b", "e::a")]⟩ ∧
      Deferred selection state "e::a" ∧ TransGen (HoldsUp selection state) "e::a" "t::b" := by
  intro selection state
  have active : selection.isActive = true := rfl
  have parses : state.queue.all (fun row => (Job.fromDict row).isOk) = true := by decide +kernel
  obtain ⟨parts, partitioned, -, -, -, pairs, -⟩ := partitionStandstill_spec active parses
  have found : selection.partitionStandstill state =
      some ⟨["e::a"], ["t::b"], [], ["t::c"], ["t::c", "t::c"], [("t::b", "e::a")]⟩ := by decide +kernel
  rw [found] at partitioned
  obtain rfl := Option.some.inj partitioned
  exact ⟨active, parses, found, (pairs ("t::b", "e::a") (by simp)).2⟩

end Sample

end Tasklite.Engine.Partition
