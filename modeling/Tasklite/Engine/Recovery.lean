import Tasklite.Engine.Completion

/-! Loading a run's state from the backend, and saving the queue on the way out. Both
merge the queue on disk with another list of rows, because other processes go on
enqueueing in the meantime. -/

namespace Tasklite.Engine
open Tasklite.Library Tasklite.Models Tasklite.Backend

namespace Recovery

variable [Python]

/-- The rows on disk in their order, then the rows that only the loaded queue has, first of every uid. -/
def repairQueueOnLoad (queueSnapshots diskQueue : List Record) : List Record :=
  let merged := Fresh.fresh jobUidFromSnapshot ∅ diskQueue ++
    queueSnapshots.filter fun snapshot => jobUidFromSnapshot snapshot ∉ PipelineState.uidsOf diskQueue
  Fresh.fresh jobUidFromSnapshot ∅ merged

omit [Python] in
/-- The successes that are no failures as well. -/
def convergeTerminalOverlap (successes failed : Dict String Record) : Dict String Record :=
  Memory.eraseKeys successes (successes.keys.filter failed.contains)

/-- What happens around a load: the rows other processes enqueue between the two reads of the queue,
whether the second read raises, and whether deleting the overlap raises. -/
structure Window where
  enqueued : List (List Record × Bool) := []
  rereadFails : Bool := false
  deleteFails : Bool := false

def loadAndRepair (store : StateStore) (window : Window) : StateStore :=
  let loaded := store.backend
  let successes := convergeTerminalOverlap loaded.successes loaded.failed
  let converged := if window.deleteFails then store else { store with
    backend := (loaded.deleteSuccesses (loaded.successes.keys.filter loaded.failed.contains)).1 }
  let reread := window.enqueued.foldl (fun store batch => store.enqueueElsewhere batch.1 batch.2) converged
  let diskQueue := if window.rereadFails then [] else reread.backend.queue
  { reread with
    state := PipelineState.init successes loaded.failed loaded.cursors
      (repairQueueOnLoad loaded.queue diskQueue) }

/-- The rows that only the disk has go first, then the queue in memory, first of every uid. -/
def merge (memQueue diskQueue : List Record) : List Record :=
  (diskQueue.filter fun snapshot => jobUidFromSnapshot snapshot ∉ PipelineState.uidsOf memQueue) ++
    Fresh.fresh jobUidFromSnapshot ∅ memQueue

/-- Save the queue in one transaction. When the transaction raises, the disk stays as it is. -/
def saveQueueCrashSafe (store : StateStore) (raises : Bool) : StateStore :=
  let compute : List Record → Except String (List Record) := fun diskQueue =>
    if raises then .error "database is locked" else .ok (merge store.state.queue diskQueue)
  { store with backend := (store.backend.replaceQueueAtomic compute).1 }

end Recovery

end Tasklite.Engine
