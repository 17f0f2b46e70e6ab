import Tasklite.Library.Ways
import Tasklite.Models.State

/-! Cycles among the queued jobs. What the search of the queue reports are members of cycles of
the dependency graph of the rows that parse, and there is nothing to report exactly when that
graph is acyclic. A member is passed over where no dependency closes the way on which it lies. -/

namespace Tasklite.Models.PipelineState
open Tasklite.Library Relation

variable [Python] (state : PipelineState) (nodeUids : Option (Finset String))

/-- The rows that parse and are not left out. -/
def consideredJobs : List Job :=
  state.queuedJobs.filter fun job => ∀ uids ∈ nodeUids, job.uid ∈ uids

/-- The row that a uid stands for: the last one, should several carry it. -/
def rowOf (uid : String) : Option Job :=
  (state.consideredJobs nodeUids).reverse.find? fun job => job.uid = uid

/-- An edge of the dependency graph of the rows: both ends are there. -/
def DependsOn (uid dependency : String) : Prop :=
  ∃ job, state.rowOf nodeUids uid = some job ∧ dependency ∈ job.dependsOn ∧
    ∃ other ∈ state.consideredJobs nodeUids, other.uid = dependency

/-- The nodes of the search, in the order of the roots. -/
def searchedUids : List String := (state.dependencyEdges nodeUids).keys

/-- The dependencies of a node, in the order of its set. -/
def searchedEdges (uid : String) : List String := ((state.dependencyEdges nodeUids).get? uid).getD []

/-- The search from a root, after those from the roots in `done`, when its loop has gone round so often. -/
def searchAt (done : List String) (root : String) (count : ℕ) : Graph.Walk String :=
  (Graph.advance (state.searchedUids nodeUids) (state.searchedEdges nodeUids))^[count]
    (Graph.opened (state.searchedEdges nodeUids)
      (done.foldl (Graph.explore (state.searchedUids nodeUids) (state.searchedEdges nodeUids))
        ⟨[], fun _ => .white, []⟩) root)

/-- The same list by a recursive search, at most `depth` calls deep. -/
def recursiveDependencyCycles (depth : ℕ) : List String :=
  Graph.recursiveCycles (state.searchedUids nodeUids) (state.searchedEdges nodeUids) depth

variable {state nodeUids} {uid dependency : String}

theorem mem_searchedUids :
    uid ∈ state.searchedUids nodeUids ↔ ∃ job ∈ state.consideredJobs nodeUids, job.uid = uid := by
  rw [searchedUids, dependencyEdges, Dict.mem_keys_ofPairs, List.map_map]
  exact List.mem_map

theorem searchedEdges_eq :
    state.searchedEdges nodeUids uid =
      ((state.rowOf nodeUids uid).map fun job => Python.setOrder (Fresh.fresh id ∅ job.dependsOn)).getD [] := by
  rw [searchedEdges, dependencyEdges, Dict.get?_ofPairs, ← List.map_reverse, List.find?_map, Option.map_map]
  rfl

theorem mem_searchedEdges : dependency ∈ state.searchedEdges nodeUids uid ↔
    ∃ job, state.rowOf nodeUids uid = some job ∧ dependency ∈ job.dependsOn := by
  rw [searchedEdges_eq]
  cases row : state.rowOf nodeUids uid with
  | none => simp
  | some job =>
    have listed : dependency ∈ Fresh.fresh id ∅ job.dependsOn ↔ dependency ∈ job.dependsOn := by
      have same : Fresh.keys id (Fresh.fresh id ∅ job.dependsOn) = Fresh.keys id job.dependsOn := by
        rw [Fresh.keys_fresh, Finset.sdiff_empty]
      simpa [Fresh.keys] using congrArg (dependency ∈ ·) same
    simp [(Python.setOrder_perm _).mem_iff, listed]

theorem follows_iff : Graph.Follows (state.searchedUids nodeUids) (state.searchedEdges nodeUids) uid dependency ↔
    state.DependsOn nodeUids uid dependency := by
  constructor
  · rintro ⟨-, present, follows⟩
    obtain ⟨job, row, depends⟩ := mem_searchedEdges.mp follows
    exact ⟨job, row, depends, mem_searchedUids.mp present⟩
  · rintro ⟨job, row, depends, present⟩
    have queued := List.mem_reverse.mp (List.mem_of_find?_eq_some row)
    have named : job.uid = uid := by simpa using List.find?_some row
    exact ⟨mem_searchedUids.mpr ⟨job, queued, named⟩, mem_searchedUids.mpr present,
      mem_searchedEdges.mpr ⟨job, row, depends⟩⟩

/-- Where no two rows carry one uid, the edges are those of the rows. -/
theorem dependsOn_iff_of_nodup (distinct : ((state.consideredJobs nodeUids).map Job.uid).Nodup) :
    state.DependsOn nodeUids uid dependency ↔
      ∃ job ∈ state.consideredJobs nodeUids, job.uid = uid ∧ dependency ∈ job.dependsOn ∧
        ∃ other ∈ state.consideredJobs nodeUids, other.uid = dependency := by
  have only : ∀ job, state.rowOf nodeUids uid = some job ↔
      job ∈ state.consideredJobs nodeUids ∧ job.uid = uid := by
    intro job
    constructor
    · intro row
      exact ⟨List.mem_reverse.mp (List.mem_of_find?_eq_some row), by simpa using List.find?_some row⟩
    · rintro ⟨queued, named⟩
      have found : (state.rowOf nodeUids uid).isSome := by
        rw [rowOf, List.find?_isSome]
        exact ⟨job, List.mem_reverse.mpr queued, by simpa using named⟩
      obtain ⟨other, row⟩ := Option.isSome_iff_exists.mp found
      have other_named : other.uid = uid := by simpa using List.find?_some row
      have same := List.inj_on_of_nodup_map distinct queued
        (List.mem_reverse.mp (List.mem_of_find?_eq_some row)) (named.trans other_named.symm)
      rw [same]
      exact row
  simp only [DependsOn, only, and_assoc]

theorem onCycle_iff : Graph.OnCycle (state.searchedUids nodeUids) (state.searchedEdges nodeUids) uid ↔
    TransGen (state.DependsOn nodeUids) uid uid := by
  have same : Graph.Follows (state.searchedUids nodeUids) (state.searchedEdges nodeUids) =
      state.DependsOn nodeUids := by
    funext uid dependency
    exact propext follows_iff
  rw [Graph.OnCycle, same]

section Search

variable {done rest : List String} {root : String}

theorem pathed_searchAt (roots : state.searchedUids nodeUids = done ++ root :: rest) (count : ℕ) :
    Graph.Pathed (state.searchedUids nodeUids) (state.searchedEdges nodeUids)
      (state.searchAt nodeUids done root count) := by
  have inside : ∀ other ∈ done, other ∈ state.searchedUids nodeUids := by
    intro other member
    rw [roots]
    exact List.mem_append_left _ member
  have member : root ∈ state.searchedUids nodeUids := by
    rw [roots]
    simp
  obtain ⟨pathed, closed⟩ := Graph.pathed_foldl inside Graph.pathed_start rfl
  exact Graph.pathed_iterate (Graph.pathed_opened pathed closed member) count

/-- A search from a root ends with an empty path. -/
theorem searchAt_ends (roots : state.searchedUids nodeUids = done ++ root :: rest) {count : ℕ}
    (enough : Graph.rounds (state.searchedUids nodeUids) (state.searchedEdges nodeUids) ≤ count) :
    (state.searchAt nodeUids done root count).frames = [] := by
  have member : root ∈ state.searchedUids nodeUids := by
    rw [roots]
    simp
  exact Graph.frames_of_iterate (pathed_searchAt roots 0) ((Graph.work_opened member).trans enough)

end Search

/-- For every queue, restriction and order of the sets: what is reported lies on cycles, nothing is reported
exactly when there are none, every search ends, a grey dependency is always found on the path, and the list is
that of the recursive search. -/
theorem findDependencyCycles_spec (state : PipelineState) (nodeUids : Option (Finset String)) :
    (∀ uid ∈ state.findDependencyCycles nodeUids, TransGen (state.DependsOn nodeUids) uid uid) ∧
      (state.findDependencyCycles nodeUids = [] ↔ ∀ uid, ¬ TransGen (state.DependsOn nodeUids) uid uid) ∧
      (∀ done root rest, state.searchedUids nodeUids = done ++ root :: rest →
        (∃ rounds, ∀ later, rounds ≤ later → (state.searchAt nodeUids done root later).frames = []) ∧
        ∀ count, ∀ frame ∈ (state.searchAt nodeUids done root count).frames.head?, ∀ next ∈ frame.2.head?,
          next ∈ state.searchedUids nodeUids → (state.searchAt nodeUids done root count).colour next = .grey →
          next ∈ (state.searchAt nodeUids done root count).frames.map Prod.fst) ∧
      ∀ depth, (state.searchedUids nodeUids).length ≤ depth →
        state.findDependencyCycles nodeUids = state.recursiveDependencyCycles nodeUids depth := by
  refine ⟨fun uid found => onCycle_iff.mp (Graph.onCycle_of_findCycles found), ?_, ?_,
    fun depth enough => Graph.findCycles_eq_recursive enough⟩
  · simp only [← onCycle_iff]
    exact Graph.findCycles_eq_nil_iff
  · intro done root rest roots
    constructor
    · exact ⟨_, fun later enough => searchAt_ends roots enough⟩
    · intro count _ _ next _ _ grey
      exact ((pathed_searchAt roots count).grey next).mp grey

section Reported

/-- The search comes to some uid by a way through `uid`, and a dependency of that uid leads back to `uid` or to an
earlier one of that way. -/
def ClosedThrough (state : PipelineState) (nodeUids : Option (Finset String)) (uid : String) : Prop :=
  ∃ last path, Graph.Way (state.searchedUids nodeUids) (state.searchedEdges nodeUids) last (last :: path) ∧
    Graph.Closes (state.searchedEdges nodeUids) (last :: path) uid

theorem mem_findDependencyCycles_iff :
    uid ∈ state.findDependencyCycles nodeUids ↔ state.ClosedThrough nodeUids uid :=
  Graph.mem_findCycles_iff

/-- For every queue, restriction and order of the sets: all members of cycles are reported exactly when the way
through each of them is closed. -/
theorem members_reported_iff (state : PipelineState) (nodeUids : Option (Finset String)) :
    (∀ uid, TransGen (state.DependsOn nodeUids) uid uid → uid ∈ state.findDependencyCycles nodeUids) ↔
      ∀ uid, TransGen (state.DependsOn nodeUids) uid uid → state.ClosedThrough nodeUids uid := by
  simp only [mem_findDependencyCycles_iff]

end Reported

end Tasklite.Models.PipelineState

namespace Tasklite.Models.PipelineState
open Tasklite.Library Relation

section Sample

local instance : Python := Python.sample

def sampleRow (id : String) (dependsOn : List String) : Record :=
  Dict.ofPairs [("task_type", .str "t"), ("job_id", .str id), ("depends_on", .arr (dependsOn.map .str))]

/-- Two ways from `t::a` through `t::d` back to it. -/
def twoWays : PipelineState := init Dict.empty Dict.empty Dict.empty
  [sampleRow "a" ["t::b", "t::c"], sampleRow "b" ["t::d"], sampleRow "c" ["t::d"], sampleRow "d" ["t::a"]]

theorem onCycle_twoWays : TransGen (twoWays.DependsOn none) "t::c" "t::c" := by
  have listed : ∀ uid ∈ ["t::a", "t::c", "t::d"], uid ∈ twoWays.searchedUids none := by decide +kernel
  have first : twoWays.DependsOn none "t::c" "t::d" :=
    follows_iff.mp ⟨listed _ (by decide), listed _ (by decide), by decide +kernel⟩
  have second : twoWays.DependsOn none "t::d" "t::a" :=
    follows_iff.mp ⟨listed _ (by decide), listed _ (by decide), by decide +kernel⟩
  have third : twoWays.DependsOn none "t::a" "t::c" :=
    follows_iff.mp ⟨listed _ (by decide), listed _ (by decide), by decide +kernel⟩
  exact .head first (.head second (.single third))

/-- The second of two ways runs into what has been left behind, and is not reported. -/
theorem second_way_passed_over : ¬ ∀ (state : PipelineState) (nodeUids : Option (Finset String)) (uid : String),
    TransGen (state.DependsOn nodeUids) uid uid → uid ∈ state.findDependencyCycles nodeUids := by
  intro all
  have reported : twoWays.findDependencyCycles none = ["t::a", "t::b", "t::d", "t::a"] := by decide +kernel
  have member := all twoWays none "t::c" onCycle_twoWays
  rw [reported] at member
  exact absurd member (by decide)

end Sample

end Tasklite.Models.PipelineState
