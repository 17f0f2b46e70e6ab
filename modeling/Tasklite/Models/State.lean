import Tasklite.Library.Fresh
import Tasklite.Library.Graph
import Tasklite.Models.Job

/-! The state of a run in memory: the queue, the terminal maps, and the uid indices
kept beside them. Every mutator ends with the assertions of the source; whether all
of them have held so far is recorded in `asserted`. -/

namespace Tasklite.Models
open Tasklite.Library

/-- The uid of a row, without parsing it when both parts are there. -/
def jobUidFromSnapshot [Python] (snapshot : Record) : String :=
  if Record.get snapshot "task_type" ≠ .null ∧ Record.get snapshot "job_id" ≠ .null then
    format (Record.get snapshot "task_type") ++ "::" ++ format (Record.get snapshot "job_id")
  else match Job.fromDict snapshot with
    | .ok job => job.uid
    | .error _ => "_unknown::" ++ Python.sha256 snapshot

structure PipelineState where
  successes : Dict String Record
  failed : Dict String Record
  cursors : Dict String String
  queue : List Record
  successUids : Finset String
  failedUids : Finset String
  queueUids : Finset String
  inFlightUids : Finset String
  triggerSkippedUids : Finset String
  asserted : Bool

namespace PipelineState

variable [Python]

/-- The uids of the rows of a queue. -/
def uidsOf (rows : List Record) : Finset String := Fresh.keys jobUidFromSnapshot rows

def init (successes failed : Dict String Record) (cursors : Dict String String) (queue : List Record) :
    PipelineState where
  successes := successes
  failed := failed
  cursors := cursors
  queue := queue
  successUids := successes.keys.toFinset
  failedUids := failed.keys.toFinset
  queueUids := uidsOf queue
  inFlightUids := ∅
  triggerSkippedUids := ∅
  asserted := true

def uidsConsistent (state : PipelineState) : Bool := state.queueUids = uidsOf state.queue

omit [Python] in
def terminalUidsConsistent (state : PipelineState) : Bool :=
  state.successUids = state.successes.keys.toFinset ∧ state.failedUids = state.failed.keys.toFinset

def stateConsistent (state : PipelineState) : Bool :=
  state.queueUids ∩ state.inFlightUids = ∅ ∧ state.successUids ∩ state.failedUids = ∅ ∧
    state.uidsConsistent ∧ state.terminalUidsConsistent

omit [Python] in
/-- Run one of the assertions. -/
def require (check : PipelineState → Bool) (state : PipelineState) : PipelineState :=
  { state with asserted := state.asserted && check state }

/-- The row at a place of the queue, and the state without it. -/
def popJob (state : PipelineState) (idx : ℕ) : Option (Record × PipelineState) :=
  state.queue[idx]?.map fun snapshot => (snapshot, require uidsConsistent { state with
    queue := state.queue.eraseIdx idx
    queueUids := state.queueUids.erase (jobUidFromSnapshot snapshot) })

def spawnJobs (state : PipelineState) (snapshots : List Record) (front : Bool) : PipelineState :=
  require uidsConsistent { state with
    queue := if front then snapshots ++ state.queue else state.queue ++ snapshots
    triggerSkippedUids := state.triggerSkippedUids \ uidsOf snapshots
    queueUids := state.queueUids ∪ uidsOf snapshots }

def removeQueuedUid (state : PipelineState) (jobUid : String) : PipelineState :=
  if jobUid ∉ state.queueUids then state
  else require uidsConsistent { state with
    queue := Fresh.without jobUidFromSnapshot {jobUid} state.queue
    queueUids := state.queueUids.erase jobUid }

def requeueJobs (state : PipelineState) (snapshots : List Record) (front : Bool) : PipelineState :=
  state.spawnJobs snapshots front

def registerInFlight (state : PipelineState) (jobUid : String) : PipelineState :=
  require stateConsistent { state with inFlightUids := insert jobUid state.inFlightUids }

def unregisterInFlight (state : PipelineState) (jobUid : String) : PipelineState :=
  require stateConsistent { state with inFlightUids := state.inFlightUids.erase jobUid }

def replaceQueue (state : PipelineState) (snapshots : List Record) : PipelineState :=
  require uidsConsistent { state with
    queue := snapshots
    queueUids := uidsOf snapshots
    triggerSkippedUids := state.triggerSkippedUids \ uidsOf snapshots }

section Cascade

/-- The queued rows that parse, in queue order. -/
def queuedJobs (state : PipelineState) : List Job :=
  state.queue.filterMap fun snapshot => (Job.fromDict snapshot).toOption

/-- The set of queued jobs that depend on a uid, in the order a set gives them back. -/
def dependents (state : PipelineState) (depUid : String) : List String :=
  Python.setOrder
    (Fresh.fresh id ∅ ((state.queuedJobs.filter fun job => depUid ∈ job.dependsOn).map Job.uid))

/-- What the loop over the dependents of one uid adds to the cascade. -/
def newlyReached (state : PipelineState) (excluded : Finset String) (seen : List String)
    (downstream : List String) : List String :=
  downstream.filter fun uid =>
    uid ∉ excluded ∧ uid ∉ seen ∧ ¬ state.successes.contains uid ∧ ¬ state.failed.contains uid

/-- The depth-first loop of `cascade_fail`: a stack of uids to visit and everything reached so far. Each
visit takes one uid off the stack and a uid is pushed at most once, so one visit for every queued row and
one for the root are enough. -/
def cascadeFrom (state : PipelineState) (excluded : Finset String) :
    ℕ → List String → List String → List String → List String
  | 0, _, _, cascade => cascade
  | _ + 1, [], _, cascade => cascade
  | visits + 1, current :: stack, seen, cascade =>
      let reached := state.newlyReached excluded seen (state.dependents current)
      cascadeFrom state excluded visits (reached.reverse ++ stack) (seen ++ reached) (cascade ++ reached)

/-- The queued jobs that a failure takes down with it. -/
def cascadeFail (state : PipelineState) (failedUid : String) (excluded : Finset String) : List String :=
  state.cascadeFrom excluded (state.queue.length + 1) [failedUid] [failedUid] []

end Cascade

section Cycles

/-- The dependencies of the queued jobs, of those among `nodeUids` if these are given. -/
def dependencyEdges (state : PipelineState) (nodeUids : Option (Finset String)) : Dict String (List String) :=
  Dict.ofPairs ((state.queuedJobs.filter fun job => ∀ uids ∈ nodeUids, job.uid ∈ uids).map fun job =>
    (job.uid, Python.setOrder (Fresh.fresh id ∅ job.dependsOn)))

/-- The members of the cycles that a depth-first search of the dependencies meets. -/
def findDependencyCycles (state : PipelineState) (nodeUids : Option (Finset String)) : List String :=
  let edges := state.dependencyEdges nodeUids
  Graph.findCycles edges.keys fun uid => (edges.get? uid).getD []

end Cycles

omit [Python]

/-- A dependency is met once its job has left the queue and has succeeded or need not run. -/
def dependencyReady (state : PipelineState) (jobUid : String) : Bool :=
  jobUid ∉ state.queueUids ∧ jobUid ∉ state.inFlightUids ∧
    (jobUid ∈ state.successUids ∨ jobUid ∈ state.triggerSkippedUids)

def markSuccess (state : PipelineState) (jobUid : String) (metadata : Record) : PipelineState :=
  require terminalUidsConsistent { state with
    triggerSkippedUids := state.triggerSkippedUids.erase jobUid
    failed := state.failed.erase jobUid
    failedUids := state.failedUids.erase jobUid
    successes := state.successes.set jobUid metadata
    successUids := insert jobUid state.successUids }

def markFailed (state : PipelineState) (jobUid : String) (metadata : Record) : PipelineState :=
  require terminalUidsConsistent { state with
    triggerSkippedUids := state.triggerSkippedUids.erase jobUid
    successes := state.successes.erase jobUid
    successUids := state.successUids.erase jobUid
    failed := state.failed.set jobUid metadata
    failedUids := insert jobUid state.failedUids }

section Console

def discardSuccess (state : PipelineState) (jobUid : String) : PipelineState :=
  require terminalUidsConsistent { state with
    successes := state.successes.erase jobUid
    successUids := state.successUids.erase jobUid }

def discardFailed (state : PipelineState) (jobUid : String) : PipelineState :=
  require terminalUidsConsistent { state with
    failed := state.failed.erase jobUid
    failedUids := state.failedUids.erase jobUid }

def addSuccess (state : PipelineState) (jobUid : String) (metadata : Record) : PipelineState :=
  require terminalUidsConsistent { state with
    successes := state.successes.set jobUid metadata
    successUids := insert jobUid state.successUids }

end Console

/-- `None` deletes a cursor. -/
def updateCursors (state : PipelineState) (updates : List (String × Option String)) : PipelineState :=
  { state with cursors := updates.foldl (fun cursors update => match update.2 with
      | none => cursors.erase update.1
      | some value => cursors.set update.1 value) state.cursors }

def markTriggerSkipped (state : PipelineState) (jobUid : String) : PipelineState :=
  { state with triggerSkippedUids := insert jobUid state.triggerSkippedUids }

end PipelineState

end Tasklite.Models
