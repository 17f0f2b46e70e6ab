import Tasklite.Backend.Memory
import Tasklite.Engine.ErrorClass
import Tasklite.Engine.Selection

/-! The state store: every transition commits to the backend first and changes the
memory only when the commit was answered with true. A refused commit counts against
the job; the job goes back to the queue and the run crashes, or, from the threshold
on, the job is sent to the failure archive. -/

namespace Tasklite.Engine
open Tasklite.Library Tasklite.Models Tasklite.Backend

/-- What an operation of the engine raises. -/
inductive Signal where
  | commitCrash (message : String)
  | jobTerminated (message : String)
  | raised (message : String)
deriving DecidableEq

/-- A change of the backend's queue that was answered with true. -/
inductive Event where
  | enqueued (uids : List String)
  | succeeded (uid : String) (spawned : List String)
  | failed (uids : List String)
  | retried (uid : String)
  | skipped (uid : String)
deriving DecidableEq

/-- The backend's answer to one commit. Other processes may have enqueued rows before it. -/
structure Answer where
  enqueued : List (List Record × Bool) := []
  accepted : Bool := true

/-- What the store is built with. -/
structure StoreConfig where
  threshold : Int
  classify : Record → ErrorCategory
  selection : Selection
  planRequeue : Record → Option String → Bool
  tasks : TaskRegistry

/-- A call that finishes an attempt, with the row it is about to finish: the update of the row, or the commit of
a success and the answer to it. -/
inductive TraceCall where
  | update (attemptId : Int) (row : Option AttemptRecord)
  | success (attemptId : Option Int) (row : Option AttemptRecord) (accepted : Bool)

/-- The store, with what its surroundings are going to answer: the backend to the coming commits, and
whether the hook raises in the coming calls. A commit or call beyond the end of a list is answered well.
`events` is the history of the backend's queue, `finished` that of the hook, `traced` that of the attempts. -/
structure StateStore where
  backend : Memory
  state : PipelineState
  stats : StatKey → ℕ
  now : Text
  answers : List Answer
  hookRaises : List Bool
  events : List Event
  finished : List (String × AttemptOutcome)
  traced : List TraceCall := []

namespace StateStore

section Plumbing

/-- Another process enqueues rows; the memory of this one does not see it. -/
def enqueueElsewhere [Python] (store : StateStore) (snapshots : List Record) (front : Bool) : StateStore :=
  let (backend, uids) := store.backend.enqueueJobs snapshots front
  { store with backend := backend, events := store.events ++ [.enqueued uids] }

/-- Put a transaction to the backend. Refused from outside or by its own checks, it changes nothing. -/
def commit [Python] (store : StateStore) (event : Event) (transaction : Memory → Memory × Bool) :
    StateStore × Bool :=
  let answer := store.answers.headD {}
  let asked := answer.enqueued.foldl (fun store batch => store.enqueueElsewhere batch.1 batch.2)
    { store with answers := store.answers.tail }
  if answer.accepted then
    match transaction asked.backend with
    | (backend, true) => ({ asked with backend := backend, events := asked.events ++ [event] }, true)
    | (_, false) => (asked, false)
  else (asked, false)

def recordStat (store : StateStore) (key : StatKey) (amount : ℕ) : StateStore :=
  { store with stats := Function.update store.stats key (store.stats key + amount) }

/-- The one place that calls the hook. An exception of the hook is counted and goes no further. -/
def fireAttemptFinished (store : StateStore) (jobUid : String) (outcome : AttemptOutcome) : StateStore :=
  let called := { store with
    hookRaises := store.hookRaises.tail
    finished := store.finished ++ [(jobUid, outcome)] }
  if store.hookRaises.headD false then called.recordStat .hookErrors 1 else called

/-- Write a call down in the history of the attempts. -/
def noteCall (store : StateStore) (call : TraceCall) : StateStore := { store with traced := store.traced ++ [call] }

/-- Finish the trace of an attempt; whatever goes wrong there is only logged. -/
def finishAttempt (store : StateStore) (attemptId : Option Int) (outcome : Outcome)
    (errorMessage : Option Json) : StateStore :=
  match attemptId with
  | none => store
  | some id =>
      let noted := store.noteCall (.update id (store.backend.attempts.get? id))
      match errorMessage with
      | none | some .null =>
          { noted with backend := (store.backend.updateAttempt id outcome store.now.val none).1 }
      | some (.str text) =>
          { noted with backend := (store.backend.updateAttempt id outcome store.now.val (some text)).1 }
      | some _ => noted

/-- The error text of a failure's metadata, unless it is empty. -/
def attemptError [Python] (metadata : Record) : Option Json :=
  let raw := Record.get metadata "error_message"
  if raw.truthy then some (.str (format raw)) else none

end Plumbing

variable [Python] (config : StoreConfig)

section Intake

/-- An object's entries; every other value reads as the empty object. -/
def entriesOf : Json → List (String × Json)
  | .obj fields => fields
  | _ => []

def setDefault (record : Record) (key : String) (value : Json) : Record :=
  if Record.get record key = .null then record.set key value else record

/-- Fill in what the task specifies; resources the row names override the task's. -/
def normalizeJobSnapshot (snapshot : Record) (taskType : String) : Record :=
  let task := config.tasks.get? taskType
  let defaults : Record := Dict.ofPairs
    (((task.map fun task => task.resources.entries).getD []).map fun entry => (entry.1, entry.2.toJson))
  let merged := defaults.update (entriesOf (Record.get snapshot "resources"))
  let resourced := snapshot.set "resources" (.obj merged.entries)
  let budgeted := setDefault resourced "max_retries"
    (.int ((task.map fun task => task.maxRetries).getD 3))
  let timed := setDefault budgeted "timeout_seconds"
    ((task.map fun task => task.timeoutSeconds.toJson).getD (.int 3600))
  let flagged := setDefault timed "timeout_is_transient"
    (.bool ((task.map fun task => task.timeoutIsTransient).getD false))
  setDefault flagged "trigger" (.str ((task.map fun task => task.trigger).getD "once"))

def injectWorkerResource (snapshot : Record) : Record :=
  let resources : Record := Dict.ofPairs (entriesOf (Record.get snapshot "resources"))
  snapshot.set "resources" (.obj
    (if resources.contains workerResource then resources else resources.set workerResource (.float 1)).entries)

def finalizeIntakeSnapshot (store : StateStore) (snapshot : Record) (taskType : String) : Record :=
  let injected := injectWorkerResource (normalizeJobSnapshot config snapshot taskType)
  if (Record.get injected "first_enqueued_at").truthy then injected
  else injected.set "first_enqueued_at" (.str store.now.val)

/-- A child job came out of a JSON document, so the serialization check that follows cannot fail. -/
def normalizeSpawnedJob (store : StateStore) (job : Job) : Record :=
  store.finalizeIntakeSnapshot config job.toDict job.taskType.val

end Intake

section Memory

def mapState (store : StateStore) (change : PipelineState → PipelineState) : StateStore :=
  { store with state := change store.state }

def normalize (store : StateStore) (metadata : Record) : Record :=
  normalizeFailureMetadata config.classify store.now metadata

/-- The end of every path that fails a job in memory. -/
def markFailedMemory (store : StateStore) (jobUid : String) (metadata : Record) (unregister : Bool) :
    StateStore :=
  let marked := store.mapState fun state => state.markFailed jobUid (store.normalize config metadata)
  if unregister then marked.mapState fun state => state.unregisterInFlight jobUid else marked

/-- The queued jobs whose type the selection does not allow. -/
def selectionExcludedUids (store : StateStore) : Finset String :=
  if config.selection.isActive then
    ((store.state.queuedJobs.filter fun job => !config.selection.allowsTaskType job.taskType.val).map
      Job.uid).toFinset
  else ∅

/-- Put a row back for a transient reason: no budget is used and the row stays as it is. -/
def requeueTransient (store : StateStore) (snapshot : Record) (transientKind : String)
    (attemptId : Option Int) (errorMessage : Option Json) : StateStore :=
  let requeued := store.mapState fun state =>
    state.requeueJobs [snapshot] (config.planRequeue snapshot (some transientKind))
  let counted := match transientKindStatKey transientKind with
    | none => requeued
    | some key => requeued.recordStat key 1
  counted.finishAttempt attemptId .requeued errorMessage

end Memory

section Strike

/-- The text before the first separator, and what follows the separator. -/
def untilSeparator : List Char → List Char × List Char
  | [] => ([], [])
  | ':' :: ':' :: rest => ([], rest)
  | c :: rest => (c :: (untilSeparator rest).1, (untilSeparator rest).2)

/-- The smallest row of a uid: its first two parts. -/
def syntheticSnapshot (jobUid : String) : Record :=
  let (taskType, rest) := untilSeparator jobUid.toList
  Dict.ofPairs [("task_type", .str (String.ofList taskType)),
    ("job_id", .str (String.ofList (untilSeparator rest).1))]

def commitFailures (snapshot : Record) : Int :=
  (JobRuntimeState.fromDict (Record.get snapshot "runtime")).commitFailures

/-- Count one refused commit in the row. -/
def registerCommitFailure (snapshot : Record) : Record :=
  let runtime := (JobRuntimeState.fromDict (Record.get snapshot "runtime")).recordCommitFailure
  snapshot.set "runtime" (.obj runtime.toDict.entries)

/-- The payload of a row, for the failure archive. -/
def extractJobPayload (snapshot : Record) : Option Record :=
  match Record.get snapshot "payload" with
  | .obj fields => some (Dict.ofPairs fields)
  | _ => none

omit [Python] in
def refusal (jobUid reason : String) : Signal := .commitCrash
  ("Backend commit returned False for " ++ jobUid ++ " (" ++ reason ++
    "). On-disk queue preserved; crashing to avoid unbounded retry loop.")

/-- All paths on which a refused commit puts the job back and crashes. -/
def requeueAndCrash (store : StateStore) (jobUid : String) (snapshot : Option Record) (reason : String)
    (attemptId : Option Int) : StateStore × Signal :=
  let unregistered := store.mapState fun state => state.unregisterInFlight jobUid
  let requeued := match snapshot with
    | none => unregistered
    | some row => unregistered.mapState fun state => state.requeueJobs [row] true
  (requeued.finishAttempt attemptId .requeued (some (.str reason)), refusal jobUid reason)

/-- A refused commit of one job. It always raises: below the threshold the job is put back and the run
crashes, from the threshold on the job is archived as failed, if the backend takes that. -/
def handleCommitFailureStrike (store : StateStore) (jobUid reason : String) (snapshot : Option Record)
    (attemptId : Option Int) : StateStore × Signal :=
  let given := snapshot.getD (syntheticSnapshot jobUid)
  let row := registerCommitFailure given
  let failures := commitFailures given + 1
  if failures ≥ config.threshold then
    match store.commit (.failed [jobUid]) fun backend =>
        backend.commitJobFailure jobUid (strikeMetadata failures) (extractJobPayload row) with
    | (committed, true) =>
        let marked := ((committed.markFailedMemory config jobUid (strikeMetadata failures) true).recordStat
          .failed 1).finishAttempt attemptId .failed (some (.str errCommitFailure))
        (marked.fireAttemptFinished jobUid ⟨false, false, strikeMetadata failures⟩,
          .jobTerminated ("Job " ++ jobUid ++ " permanently failed after " ++ toString failures ++
            " commit attempts."))
    | (refused, false) => refused.requeueAndCrash jobUid (some row) reason attemptId
  else store.requeueAndCrash jobUid (some row) reason attemptId

/-- Change the first row of a uid. -/
def modifyFirst (jobUid : String) (change : Record → Record) : List Record → List Record
  | [] => []
  | row :: rest =>
      if jobUidFromSnapshot row = jobUid then change row :: rest else row :: modifyFirst jobUid change rest

/-- Archive one job of a refused batch. The in-flight index is left to the caller. -/
def bulkStrikeFinalize (store : StateStore) (jobUid : String) (row : Record) (failures : Int) :
    StateStore × Bool :=
  match store.commit (.failed [jobUid]) fun backend =>
      backend.commitJobFailure jobUid (strikeMetadata failures) (extractJobPayload row) with
  | (refused, false) => (refused, false)
  | (committed, true) =>
      let marked := (committed.markFailedMemory config jobUid (strikeMetadata failures) false).recordStat
        .failed 1
      (marked.fireAttemptFinished jobUid ⟨false, false, strikeMetadata failures⟩, true)

/-- The loop over a refused batch: each job is counted, in its first row if it has one, and archived
from the threshold on. The rows that are left, and whether a job of the batch was kept. -/
def handleBulkFailureStrike : List String → StateStore → List Record → Bool →
    StateStore × List Record × Bool
  | [], store, rows, kept => (store, rows, kept)
  | jobUid :: rest, store, rows, kept =>
      let found := rows.find? fun row => jobUidFromSnapshot row = jobUid
      let given := found.getD (syntheticSnapshot jobUid)
      let failures := commitFailures given + 1
      let counted := modifyFirst jobUid registerCommitFailure rows
      if failures ≥ config.threshold then
        match store.bulkStrikeFinalize config jobUid (registerCommitFailure given) failures with
        | (archived, true) =>
            handleBulkFailureStrike rest archived (Fresh.without jobUidFromSnapshot {jobUid} counted) kept
        | (refused, false) => handleBulkFailureStrike rest refused counted true
      else handleBulkFailureStrike rest store counted true

end Strike

section Transitions

/-- Register a committed batch in memory, calling the hook for each job. -/
def markEach (mark : StateStore → String → Record → StateStore) :
    List (String × Record) → StateStore → StateStore
  | [], store => store
  | (jobUid, metadata) :: rest, store =>
      markEach mark rest ((mark store jobUid metadata).fireAttemptFinished jobUid ⟨false, false, metadata⟩)

/-- What follows a batch of failures: the rows leave the queue and the jobs are marked, or the batch was
refused and every job of it gets a strike. -/
def settleBatch (mark : StateStore → String → Record → StateStore) (statKey : StatKey)
    (crashMessage : ℕ → ℕ → String) (metas : List (String × Record)) (store : StateStore) :
    StateStore × Except Signal (List String) :=
  let uids := metas.map Prod.fst
  match store.commit (.failed uids) fun backend => backend.commitJobFailures metas with
  | (committed, true) =>
      let removed := (committed.mapState fun state =>
        state.replaceQueue (Fresh.without jobUidFromSnapshot uids.toFinset state.queue)).recordStat
          statKey metas.length
      (markEach mark metas removed, .ok uids)
  | (refused, false) =>
      let (struck, rows, kept) := handleBulkFailureStrike config uids refused refused.state.queue false
      let replaced := struck.mapState fun state => state.replaceQueue rows
      if kept then (replaced, .error (.commitCrash (crashMessage metas.length rows.length)))
      else (replaced, .ok uids)

def cascadeCrashMessage (jobs kept : ℕ) : String :=
  "Backend commit_job_failures returned False for " ++ toString jobs ++ " cascade job(s); " ++
    toString kept ++ " kept in queue. Crashing to retry; on-disk queue preserved."

def bulkCrashMessage (jobs kept : ℕ) : String :=
  "Backend commit_job_failures returned False for " ++ toString jobs ++ " jobs. " ++ toString kept ++
    " kept in queue with incremented commit failure count. Crashing to retry."

/-- Fail everything in the queue that depends on a failed job. -/
def cascadeFail (store : StateStore) (failedUid : String) : StateStore × Except Signal (List String) :=
  let excluded := store.selectionExcludedUids config
  let uids := (store.state.cascadeFail failedUid excluded).filter fun uid => uid ∉ excluded
  if uids.isEmpty then (store, .ok [])
  else settleBatch config (fun store jobUid metadata => store.markFailedMemory config jobUid metadata true)
    .cascadeFailed cascadeCrashMessage (uids.map fun uid => (uid, dependencyMetadata failedUid)) store

/-- The metadata that a success is stored with. -/
def successMetadata (store : StateStore) (jobUid : String) (resultMetadata : Record)
    (artifacts : List (String × String)) (inputs : List String) (runId : Option String) : Record :=
  let placed := (resultMetadata.set "artifacts" (.obj (Dict.ofPairs
    (artifacts.map fun artifact => (artifact.1, .obj [("path", .str artifact.2)]))).entries)).set
      "last_succeeded_at" (.str store.now.val)
  let owned := match runId with
    | some run => placed.set "last_success_run_id" (.str run)
    | none => placed.erase "last_success_run_id"
  let paths := Fresh.fresh id ∅ (inputs.filter fun path => path ≠ "")
  let fed := if paths.isEmpty then owned.erase "inputs"
    else owned.set "inputs" (.arr (paths.map Json.str))
  let previous := match store.state.successes.get? jobUid with
    | some found => if found.entries.isEmpty then store.state.failed.get? jobUid else some found
    | none => store.state.failed.get? jobUid
  let count := (previous.map fun found => JobRuntimeState.counter (Record.get found "success_count")).getD 0
  fed.set "success_count" (.int (count + 1))

/-- What the completion of a success hands to the store. -/
structure SuccessRequest where
  jobUid : String
  resultMetadata : Record
  spawned : List Record
  cursorUpdates : Dict String (Option String)
  artifacts : List (String × String)
  inputs : List String
  runId : Option String
  snapshot : Record
  attemptId : Option Int
  executionId : Option String

def applySuccess (store : StateStore) (request : SuccessRequest) : StateStore × Except Signal Unit :=
  let metadata := store.successMetadata request.jobUid request.resultMetadata request.artifacts
    request.inputs request.runId
  let call := TraceCall.success request.attemptId (request.attemptId.bind store.backend.attempts.get?)
  match store.commit (.succeeded request.jobUid (request.spawned.map jobUidFromSnapshot)) fun backend =>
      backend.commitJobSuccess {
        jobUid := request.jobUid
        resultMetadata := metadata
        attemptId := request.attemptId
        executionId := request.executionId
        finishedAt := some store.now.val
        spawned := request.spawned
        cursorUpdates := request.cursorUpdates } with
  | (committed, true) =>
      let noted := committed.noteCall (call true)
      let spawned := if request.spawned.isEmpty then noted
        else noted.mapState fun state => state.spawnJobs request.spawned true
      let advanced := spawned.mapState fun state => state.updateCursors request.cursorUpdates.entries
      let marked := advanced.mapState fun state => state.markSuccess request.jobUid metadata
      let unregistered := marked.mapState fun state => state.unregisterInFlight request.jobUid
      (unregistered.recordStat .succeeded 1, .ok ())
  | (refused, false) =>
      let (struck, signal) := (refused.noteCall (call false)).handleCommitFailureStrike config request.jobUid
        "commit_job_success" (some request.snapshot) request.attemptId
      (struck, .error signal)

/-- Archive a failure and take its dependents down. The metadata as archived is the result. -/
def applyFailure (store : StateStore) (jobUid : String) (metadata : Record) (snapshot : Record)
    (countAs : StatKey) (attemptId : Option Int) : StateStore × Except Signal Record :=
  let normalized := store.normalize config metadata
  match store.commit (.failed [jobUid]) fun backend =>
      backend.commitJobFailure jobUid normalized (extractJobPayload snapshot) with
  | (committed, true) =>
      let marked := ((committed.markFailedMemory config jobUid normalized true).recordStat countAs 1
        ).finishAttempt attemptId .failed (attemptError normalized)
      match marked.cascadeFail config jobUid with
      | (raised, .error signal) => (raised, .error signal)
      | (cascaded, .ok _) => (cascaded, .ok normalized)
  | (refused, false) =>
      let reason := match attemptError normalized with
        | some (.str text) => text
        | _ => "commit_job_failure"
      let (struck, signal) := refused.handleCommitFailureStrike config jobUid reason (some snapshot) attemptId
      (struck, .error signal)

def applyRetry (store : StateStore) (jobUid : String) (snapshot retrySnapshot : Record)
    (transientKind : Option String) (attemptId : Option Int) (errorMessage : Option Json) :
    StateStore × Except Signal Unit :=
  let front := config.planRequeue retrySnapshot transientKind
  match store.commit (.retried jobUid) fun backend => backend.commitRetry jobUid retrySnapshot front with
  | (committed, true) =>
      let unregistered := committed.mapState fun state => state.unregisterInFlight jobUid
      let requeued := (unregistered.mapState fun state => state.requeueJobs [retrySnapshot] front).recordStat
        .retried 1
      let counted := match transientKind.bind transientKindStatKey with
        | none => requeued
        | some key => requeued.recordStat key 1
      (counted.finishAttempt attemptId .requeued errorMessage, .ok ())
  | (refused, false) =>
      let (struck, signal) := refused.handleCommitFailureStrike config jobUid "commit_retry" (some snapshot)
        attemptId
      (struck, .error signal)

/-- Take a job out of the queue for good, without a terminal record. A refusal never archives. -/
def applySkip (store : StateStore) (jobUid : String) (snapshot : Option Record) (attemptId : Option Int) :
    StateStore × Except Signal Unit :=
  match store.commit (.skipped jobUid) fun backend => backend.commitSkip jobUid with
  | (committed, true) =>
      let removed := committed.mapState fun state => state.removeQueuedUid jobUid
      let unregistered := removed.mapState fun state => state.unregisterInFlight jobUid
      ((unregistered.recordStat .skipped 1).finishAttempt attemptId .skipped none, .ok ())
  | (refused, false) =>
      let (crashed, signal) := refused.requeueAndCrash jobUid snapshot "commit_skip" attemptId
      (crashed, .error signal)

/-- Archive a batch of jobs that can never run. Jobs the selection leaves alone are not among them. -/
def applyBulkFailure (store : StateStore) (uidsMetas : List (String × Record)) :
    StateStore × Except Signal (List String) :=
  let excluded := store.selectionExcludedUids config
  let allowed := uidsMetas.filter fun entry => entry.1 ∉ excluded
  if excluded.Nonempty ∧ allowed.isEmpty then (store, .ok [])
  else settleBatch config (fun store jobUid metadata =>
      (store.mapState fun state => state.markFailed jobUid metadata).mapState fun state =>
        state.unregisterInFlight jobUid) .failed bulkCrashMessage
    (allowed.map fun entry => (entry.1, store.normalize config entry.2)) store

end Transitions

end StateStore

end Tasklite.Engine
