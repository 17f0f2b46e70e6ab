import Tasklite.Engine.Resource
import Tasklite.Engine.Store

/-! Executions in flight and what happens when they end: the result of each is
committed as a success, a failure or a retry, its lease is given back, and the batch
goes on to the next one whatever the completion of one raises. -/

namespace Tasklite.Engine
open Tasklite.Library Tasklite.Models Tasklite.Backend

/-- A dispatched job whose result has not been committed yet. Its lease is named by its place in the
resource manager. -/
structure InFlightJob where
  jobUid : String
  snapshot : Record
  job : Job
  lease : ℕ
  attemptId : Option Int
  executionId : Option String

/-- The parts of the engine that a completion changes. -/
structure Runtime where
  store : StateStore
  tracker : Dict String InFlightJob
  resources : ResourceManager
  runId : Option String

/-- What the clock, the artifact journal and the hook do while one result is completed: whether reading,
checking or cleaning up the artifacts raises, which declared output is missing, what was declared, whether
the hook is interrupted, and whether clearing the declarations raises in the end. -/
structure Surroundings where
  instant : ℚ := 0
  artifactFault : Option String := none
  missingOutput : Option String := none
  artifacts : List (String × String) := []
  inputs : List String := []
  hookInterrupt : Option String := none
  clearingFault : Option String := none

namespace Runtime

def mapStore (runtime : Runtime) (change : StateStore → StateStore) : Runtime :=
  { runtime with store := change runtime.store }

/-- Register an entry in the tracker and in the state's index. -/
def track [Python] (runtime : Runtime) (entry : InFlightJob) : Runtime :=
  ({ runtime with tracker := runtime.tracker.set entry.jobUid entry }).mapStore fun store =>
    store.mapState fun state => state.registerInFlight entry.jobUid

/-- Take an entry out of the tracker, and out of the index if it is still there. -/
def settle [Python] (runtime : Runtime) (jobUid : String) : Runtime :=
  ({ runtime with tracker := runtime.tracker.erase jobUid }).mapStore fun store =>
    if jobUid ∈ store.state.inFlightUids then
      store.mapState fun state => state.unregisterInFlight jobUid
    else store

def releaseResources (runtime : Runtime) (entry : InFlightJob) : Runtime :=
  { runtime with resources := runtime.resources.releaseLease entry.lease }

/-- Apply the suspensions of a result. -/
def suspendAll (runtime : Runtime) (instant : ℚ) (suspensions : List (String × ℚ)) : Runtime := { runtime with
  resources := suspensions.foldl (fun manager suspension =>
    (manager.suspendResource instant suspension.1 suspension.2).1) runtime.resources }

variable [Python] (config : StoreConfig)

section Retry

/-- The row that a retry enqueues: the row as it was, with the fields of the job written over it, its own
resources, and the attempt counted unless the reason was transient. -/
def buildRetryJobSnapshot (job : Job) (snapshot : Record) (retryError : Option Json) (isTransient : Bool) :
    Record :=
  let counted := if isTransient then job else { job with
    attemptNo := ⟨job.attemptNo.val + 1, Nat.le_add_left 1 _⟩ }
  let side := JobRuntimeState.fromDict (Record.get snapshot "runtime")
  let noted := match retryError with
    | some error =>
        if error.truthy ∧ ¬ isTransient then side.recordRetryError (JobRuntimeState.errorText error)
        else side
    | none => side
  ((snapshot.update counted.toDict.entries).set "resources"
    (.obj (StateStore.entriesOf (Record.get snapshot "resources")))).set "runtime" (.obj noted.toDict.entries)

/-- The metadata of a job whose retries are used up. -/
def maxRetriesMetadata (snapshot : Record) (retryError : Option Json) : Record :=
  let side := JobRuntimeState.fromDict (Record.get snapshot "runtime")
  let base : Record := Dict.ofPairs [("error_message", .str errMaxRetries)]
  let last := if side.lastRetryError = "" then base
    else base.set "last_retry_error" (.str side.lastRetryError)
  match retryError with
  | some error => if error.truthy then last.set "retry_error" error else last
  | none => last

/-- A retry within the budget, or of a transient kind, is enqueued; the others fail. The flag says
whether the job will run again. -/
def applyRetry (store : StateStore) (entry : InFlightJob) (result : ExecutionResult) :
    StateStore × Except Signal Bool :=
  let isTransient := result.transientKind.isSome
  if ¬ isTransient ∧ entry.job.attemptNo.val > entry.job.maxRetries.getD 3 then
    match store.applyFailure config entry.jobUid (maxRetriesMetadata entry.snapshot result.retryError)
        entry.snapshot .failed entry.attemptId with
    | (raised, .error signal) => (raised, .error signal)
    | (failed, .ok _) => (failed, .ok false)
  else
    match store.applyRetry config entry.jobUid entry.snapshot
        (buildRetryJobSnapshot entry.job entry.snapshot result.retryError isTransient)
        result.transientKind entry.attemptId result.retryError with
    | (raised, .error signal) => (raised, .error signal)
    | (retried, .ok _) => (retried, .ok true)

end Retry

/-- The children that are let through: the first of every uid, unless it is queued or in flight. -/
def collectSpawnedJobSnapshots (store : StateStore) (spawnedJobs : List Job) : List Record :=
  (Fresh.fresh Job.uid (store.state.queueUids ∪ store.state.inFlightUids) spawnedJobs).map
    (store.normalizeSpawnedJob config)

def applySuccess (store : StateStore) (runId : Option String) (entry : InFlightJob)
    (result : ExecutionResult) (surroundings : Surroundings) : StateStore × Except Signal Bool :=
  match store.applySuccess config {
      jobUid := entry.jobUid
      resultMetadata := result.resultMetadata
      spawned := collectSpawnedJobSnapshots config store result.spawnedJobs
      cursorUpdates := Dict.ofPairs result.cursorUpdates
      artifacts := surroundings.artifacts
      inputs := surroundings.inputs
      runId := runId
      snapshot := entry.snapshot
      attemptId := entry.attemptId
      executionId := entry.executionId } with
  | (raised, .error signal) => (raised, .error signal)
  | (succeeded, .ok _) => (succeeded, .ok false)

def applyFailure (store : StateStore) (entry : InFlightJob) (result : ExecutionResult) :
    StateStore × Except Signal Bool :=
  match store.applyFailure config entry.jobUid result.resultMetadata entry.snapshot .failed
      entry.attemptId with
  | (raised, .error signal) => (raised, .error signal)
  | (failed, .ok _) => (failed, .ok false)

/-- A success whose declared output is missing is a failure. -/
def checkedResult (result : ExecutionResult) (surroundings : Surroundings) : ExecutionResult :=
  match surroundings.missingOutput with
  | some missing =>
      if result.success then { result with
        success := false
        resultMetadata := Dict.ofPairs [("error_message", .str missing)] }
      else result
  | none => result

/-- Commit a result, one way or another. -/
def commitResult (runtime : Runtime) (entry : InFlightJob) (result : ExecutionResult)
    (surroundings : Surroundings) : StateStore × Except Signal Bool :=
  if result.retryRequested then applyRetry config runtime.store entry result
  else if result.success then
    applySuccess config runtime.store runtime.runId entry result surroundings
  else applyFailure config runtime.store entry result

/-- The assertion at the start, the suspensions, the artifacts, and then the commit. -/
def applyResult (runtime : Runtime) (entry : InFlightJob) (result : ExecutionResult)
    (surroundings : Surroundings) : Runtime × Except Signal Bool :=
  if entry.jobUid ∉ runtime.store.state.inFlightUids then
    (runtime.mapStore fun store => store.mapState fun state => { state with asserted := false },
      .error (.raised ("identity vacuity violation: " ++ entry.jobUid ++
        " not in-flight at apply_result entry")))
  else
    let suspended := runtime.suspendAll surroundings.instant result.resourceSuspensions
    match result.artifactError <|> surroundings.artifactFault with
    | some message => (suspended, .error (.raised message))
    | none =>
        let (store, answer) := commitResult config suspended entry (checkedResult result surroundings)
          surroundings
        ({ suspended with store := store }, answer)

/-- The single exit of an execution. The lease is released whatever the commit raised; a job that was
archived by a strike has had its hook already. -/
def completeJob (runtime : Runtime) (entry : InFlightJob) (result : ExecutionResult)
    (surroundings : Surroundings) : Runtime × Option Signal :=
  let clear := fun (runtime : Runtime) => (runtime, surroundings.clearingFault.map Signal.raised)
  match applyResult config runtime entry result surroundings with
  | (applied, .error (.jobTerminated _)) => clear (applied.releaseResources entry)
  | (applied, .error signal) => (applied.releaseResources entry, some signal)
  | (applied, .ok willRetry) =>
      let released := applied.releaseResources entry
      let checked := checkedResult result surroundings
      let fired := released.mapStore fun store => store.fireAttemptFinished entry.jobUid
        ⟨checked.success, willRetry, checked.resultMetadata⟩
      match surroundings.hookInterrupt with
      | some message => (fired, some (.raised message))
      | none => clear fired

/-- Put a row back if its job has not been committed. -/
def requeueUncommitted (runtime : Runtime) (entry : InFlightJob) : Runtime :=
  runtime.mapStore fun store =>
    if entry.jobUid ∈ store.state.inFlightUids then
      (store.mapState fun state => state.unregisterInFlight entry.jobUid).mapState fun state =>
        state.requeueJobs [entry.snapshot] true
    else store

/-- Complete one entry, and settle it in any case. -/
def completeAndSettle (runtime : Runtime) (entry : InFlightJob) (result : ExecutionResult)
    (surroundings : Surroundings) : Runtime × Option Signal :=
  let (completed, signal) := completeJob config runtime entry result surroundings
  ((requeueUncommitted completed entry).settle entry.jobUid, signal)

/-- The loop of `settle_reaped`; what is raised in the end is the first thing that was raised. -/
def settleReaped : List (String × ExecutionResult × Surroundings) → Runtime → Option Signal →
    Runtime × Option Signal
  | [], runtime, error => (runtime, error)
  | (jobUid, result, surroundings) :: rest, runtime, error =>
      match runtime.tracker.get? jobUid with
      | none => settleReaped rest runtime error
      | some entry =>
          let (settled, signal) := completeAndSettle config runtime entry result surroundings
          settleReaped rest settled (error <|> signal)

/-- An entry that was cancelled: its artifacts are cleaned up, which may raise, and its row goes back. -/
def cancelAndSettle (runtime : Runtime) (entry : InFlightJob) (cleanupFault : Option String) :
    Runtime × Option Signal :=
  ((requeueUncommitted (runtime.releaseResources entry) entry).settle entry.jobUid,
    cleanupFault.map Signal.raised)

def settleCancelled : List (InFlightJob × Option String) → Runtime → Option Signal → Runtime × Option Signal
  | [], runtime, error => (runtime, error)
  | (entry, cleanupFault) :: rest, runtime, error =>
      let (settled, signal) := cancelAndSettle runtime entry cleanupFault
      settleCancelled rest settled (error <|> signal)

def settleDone : List (InFlightJob × ExecutionResult × Surroundings) → Runtime → Option Signal →
    Runtime × Option Signal
  | [], runtime, error => (runtime, error)
  | (entry, result, surroundings) :: rest, runtime, error =>
      let (settled, signal) := completeAndSettle config runtime entry result surroundings
      settleDone rest settled (error <|> signal)

/-- The cancelled entries first, then the finished ones. -/
def settleAborted (runtime : Runtime) (cancelled : List (InFlightJob × Option String))
    (done : List (InFlightJob × ExecutionResult × Surroundings)) : Runtime × Option Signal :=
  let (settled, error) := settleCancelled cancelled runtime none
  settleDone config done settled error

end Runtime

end Tasklite.Engine
