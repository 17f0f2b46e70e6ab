import Mathlib.Data.List.Sort
import Tasklite.Engine.Selection

/-! What a selection leaves of the queue when nothing can run. Jobs whose dependencies
can all be met are removed in turn; of the rest it is asked which are on a cycle, and of
the removed ones which are held up by a job that the selection postpones. -/

namespace Tasklite.Engine
open Tasklite.Library Tasklite.Models

/-- A standstill as the selection sees it. -/
structure SelectionStandstill where
  excludedUids : List String := []
  blockedUids : List String := []
  unblockedUids : List String := []
  stuckUids : List String := []
  cycleUids : List String := []
  blockedBy : List (String × String) := []
deriving DecidableEq

/-- No job that may run can finish in this run. -/
def SelectionStandstill.onlyBlockedByExclusion (standstill : SelectionStandstill) : Bool :=
  standstill.stuckUids.isEmpty && standstill.unblockedUids.isEmpty

def sortTexts (texts : List String) : List String := texts.insertionSort fun first second => first ≤ second

theorem mem_sortTexts {text : String} {texts : List String} : text ∈ sortTexts texts ↔ text ∈ texts :=
  List.mem_insertionSort _

theorem sortTexts_eq_nil {texts : List String} : sortTexts texts = [] ↔ texts = [] := by
  unfold sortTexts
  rw [← List.length_eq_zero_iff, List.length_insertionSort, List.length_eq_zero_iff]

namespace Selection

/-- The task type and the dependencies of every queued job, by uid. -/
abbrev QueueFacts := Dict String (String × List String)

section Topology

variable (selection : Selection) (facts : QueueFacts)

def factsOf (jobs : List Job) : QueueFacts :=
  Dict.ofPairs (jobs.map fun job => (job.uid, (job.taskType.val, job.dependsOn)))

def dependsOnOf (uid : String) : List String := ((facts.get? uid).map Prod.snd).getD []

/-- The jobs that may not run. -/
def deferredUids : List String :=
  (facts.entries.filter fun entry => !selection.allowsTaskType entry.2.1).map Prod.fst

def excludedUidsOf : List String :=
  (facts.entries.filter fun entry => selection.isExcluded entry.2.1).map Prod.fst

variable [Python] (state : PipelineState)

/-- The jobs that may run, in the order a set gives them back. -/
def allowedUids : List String :=
  Python.setOrder ((facts.entries.filter fun entry => selection.allowsTaskType entry.2.1).map Prod.fst)

omit [Python] in
/-- The dependencies that keep a job in the reduction: neither postponed nor met. -/
def unmet (uid : String) : List String :=
  (dependsOnOf facts uid).filter fun dependency =>
    dependency ∉ selection.deferredUids facts ∧ ¬ state.dependencyReady dependency

def reducedUids : List String :=
  Graph.reduceAll (selection.allowedUids facts) (selection.unmet facts state)

def stuckUidsOf : List String :=
  (selection.allowedUids facts).filter fun uid => uid ∉ selection.reducedUids facts state

/-- The jobs that depend on a postponed one, directly or through others, each with the postponed job it
was reached from. -/
def heldUp : List (String × String) :=
  Graph.reach (Graph.dependentsOf (selection.allowedUids facts) (dependsOnOf facts))
    (selection.deferredUids facts).toFinset
    ((selection.deferredUids facts).length + (selection.allowedUids facts).length)
    ((Python.setOrder (selection.deferredUids facts)).map fun uid => (uid, uid)).reverse []

end Topology

variable [Python] (selection : Selection) (state : PipelineState)

/-- The standstill of a queue whose rows all parse. -/
def standstillOf (facts : QueueFacts) : SelectionStandstill :=
  let reduced := selection.reducedUids facts state
  let stuck := selection.stuckUidsOf facts state
  let blocked := (selection.heldUp facts).filter fun entry => entry.1 ∈ reduced
  { excludedUids := sortTexts (selection.excludedUidsOf facts)
    blockedUids := sortTexts (blocked.map Prod.fst)
    unblockedUids := sortTexts (reduced.filter fun uid => uid ∉ blocked.map Prod.fst)
    stuckUids := sortTexts stuck
    cycleUids := if stuck.isEmpty then [] else state.findDependencyCycles (some stuck.toFinset)
    blockedBy := blocked.insertionSort fun first second => first.1 ≤ second.1 }

/-- Nothing without rules, and nothing when a row of the queue does not parse: then there are no
dependencies to rely on. -/
def partitionStandstill : Option SelectionStandstill :=
  if !selection.isActive then none
  else if state.queue.isEmpty then some {}
  else if state.queue.all fun snapshot => (Job.fromDict snapshot).isOk then
    some (selection.standstillOf state (factsOf state.queuedJobs))
  else none

end Selection

end Tasklite.Engine
