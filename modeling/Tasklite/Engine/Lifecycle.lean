import Tasklite.Engine.Governor
import Tasklite.Engine.Recovery
import Tasklite.Library.Machine

/-! The life of a run as a machine. Its operations are the calls that the event loop
makes, with what other processes, the backend and the executions answer as their
arguments. A row that was popped for dispatch is in `hand` until it is tracked,
put back or settled; after an uncaught commit crash only the abort, the saving of the
queue and the next load are left. -/

namespace Tasklite.Engine.Lifecycle
open Tasklite.Library Tasklite.Models Tasklite.Backend

structure Run where
  runtime : Runtime
  hand : Option (Record × Job)
  crashed : Bool

/-- What a dispatch adds to the row and the job when a worker has been started. -/
structure Launch where
  lease : ℕ
  attemptId : Option Int
  executionId : Option String

inductive Operation where
  /-- What the surroundings are going to answer from here on. -/
  | foresee (now : Text) (answers : List Answer) (hookRaises : List Bool)
  /-- Another process enqueues rows. -/
  | enqueue (snapshots : List Record) (front : Bool)
  /-- Take a row that parses out of the queue; unless a dependency has failed the row is filled in first,
  and gets a new activation number on its first attempt. -/
  | pop (idx : ℕ) (activationNo : Option {n : ℕ // 1 ≤ n})
  | popDepFailed (idx : ℕ)
  | track (launch : Launch)
  /-- An exception leaves the row in hand out of the memory. -/
  | drop
  /-- Put the row in hand back at the front, with the dispatch failure counted or not. -/
  | putBack (counted : Bool)
  | requeueTransient (transientKind : String) (attemptId : Option Int) (errorMessage : Option Json)
  /-- Archive the row in hand as failed. -/
  | reject (metadata : Record) (countAs : StatKey) (attemptId : Option Int)
  /-- The trigger decided that the row in hand need not run. -/
  | triggerSkip (attemptId : Option Int)
  /-- The selection skips a queued job. -/
  | selectionSkip (idx : ℕ)
  /-- Archive the queued rows of the given uids; without a list, all of them. -/
  | bulkFailure (targets : Option (List String)) (error : String)
  | settleReaped (reaped : List (String × ExecutionResult × Surroundings))
  /-- Settle all that is in flight: the finished ones with their result, the others as cancelled. -/
  | settleAborted (finished : String → Option (ExecutionResult × Surroundings))
      (cleanupFault : String → Option String)
  | saveQueueCrashSafe (raises : Bool)
  /-- The memory is lost, and the next run starts with resources of its own and loads the state. -/
  | crash (window : Recovery.Window) (resources : ResourceManager) (runId : Option String)

section Step

variable [Python] (config : StoreConfig)

def Run.mapStore (run : Run) (change : StateStore → StateStore) : Run :=
  { run with runtime := run.runtime.mapStore change }

/-- Where an operation on the store leads: only a commit crash ends the run here. -/
def Run.after (run : Run) (store : StateStore) : Option Signal → Run
  | some (.commitCrash _) => { run with runtime := { run.runtime with store := store }, crashed := true }
  | _ => { run with runtime := { run.runtime with store := store } }

def Run.settled (run : Run) (runtime : Runtime) : Option Signal → Run
  | some (.commitCrash _) => { run with runtime := runtime, crashed := true }
  | _ => { run with runtime := runtime }

/-- The signal of a call that may raise. -/
def raisedBy {α : Type} : Except Signal α → Option Signal
  | .error signal => some signal
  | .ok _ => none

def recordDispatchFailure (snapshot : Record) : Record :=
  snapshot.set "runtime" (.obj
    (JobRuntimeState.fromDict (Record.get snapshot "runtime")).recordDispatchFailure.toDict.entries)

/-- The row at a place of the queue, if it parses. -/
def parsedAt (state : PipelineState) (idx : ℕ) : Option (Record × Job) :=
  match state.queue[idx]? with
  | none => none
  | some row => (Job.fromDict row).toOption.map fun job => (row, job)

/-- Fill in the row that is looked at, where it stands. -/
def prepare (state : PipelineState) (idx : ℕ) (job : Job) : PipelineState :=
  { state with queue := state.queue.modify idx fun row =>
      StateStore.normalizeJobSnapshot config row job.taskType.val }

/-- Take the row at a place out of the queue. -/
def take (run : Run) (idx : ℕ) (activationNo : Option {n : ℕ // 1 ≤ n}) : Run :=
  match run.runtime.store.state.popJob idx with
  | none => run
  | some (row, state) =>
      let activated := match activationNo with
        | none => row
        | some number => row.set "activation_no" (.int number.val)
      match Job.fromDict activated with
      | .error _ => run
      | .ok job => { run.mapStore (fun store => { store with state := state }) with hand := some (activated, job) }

/-- A run that has just loaded its state. -/
def boot (store : StateStore) (window : Recovery.Window) (resources : ResourceManager)
    (runId : Option String) : Run where
  runtime := ⟨Recovery.loadAndRepair store window, Dict.empty, resources, runId⟩
  hand := none
  crashed := false

/-- One operation. What is not possible in a state leaves it as it is. -/
def step (run : Run) : Operation → Run
  | .foresee now answers hookRaises => run.mapStore fun store => { store with now, answers, hookRaises }
  | .enqueue snapshots front => run.mapStore fun store => store.enqueueElsewhere snapshots front
  | .pop idx activationNo =>
      match run.crashed, run.hand, parsedAt run.runtime.store.state idx with
      | false, none, some (_, job) =>
          take (run.mapStore fun store => store.mapState fun state => prepare config state idx job) idx
            activationNo
      | _, _, _ => run
  | .popDepFailed idx =>
      match run.crashed, run.hand, parsedAt run.runtime.store.state idx with
      | false, none, some _ => take run idx none
      | _, _, _ => run
  | .track launch =>
      match run.crashed, run.hand with
      | false, some (row, job) => { run with
          runtime := run.runtime.track
            ⟨job.uid, row, job, launch.lease, launch.attemptId, launch.executionId⟩
          hand := none }
      | _, _ => run
  | .drop => { run with hand := none }
  | .putBack counted =>
      match run.crashed, run.hand with
      | false, some (row, _) => { run.mapStore (fun store => store.mapState fun state => state.requeueJobs
          [if counted then recordDispatchFailure row else row] true) with hand := none }
      | _, _ => run
  | .requeueTransient transientKind attemptId errorMessage =>
      match run.crashed, run.hand with
      | false, some (row, _) => { run.mapStore (fun store =>
          store.requeueTransient config row transientKind attemptId errorMessage) with hand := none }
      | _, _ => run
  | .reject metadata countAs attemptId =>
      match run.crashed, run.hand with
      | false, some (row, job) =>
          let (store, answer) := run.runtime.store.applyFailure config job.uid metadata row countAs attemptId
          { run.after store (raisedBy answer) with hand := none }
      | _, _ => run
  | .triggerSkip attemptId =>
      match run.crashed, run.hand with
      | false, some (row, job) =>
          match run.runtime.store.applySkip job.uid (some row) attemptId with
          | (store, .ok _) => { run.after (store.mapState fun state => state.markTriggerSkipped job.uid) none with
              hand := none }
          | (store, .error signal) => { run.after store (some signal) with hand := none }
      | _, _ => run
  | .selectionSkip idx =>
      match run.crashed, run.hand, parsedAt run.runtime.store.state idx with
      | false, none, some (row, job) =>
          let (store, answer) := run.runtime.store.applySkip job.uid (some row) none
          run.after store (raisedBy answer)
      | _, _, _ => run
  | .bulkFailure targets error =>
      match run.crashed, run.hand, run.runtime.tracker.entries with
      | false, none, [] =>
          let (store, answer) := run.runtime.store.applyBulkFailure config
            (splitDeadlockByUids run.runtime.store.state.queue targets error)
          run.after store (raisedBy answer)
      | _, _, _ => run
  | .settleReaped reaped =>
      match run.crashed, run.hand with
      | false, none =>
          let (runtime, signal) := Runtime.settleReaped config reaped run.runtime none
          run.settled runtime signal
      | _, _ => run
  | .settleAborted finished cleanupFault =>
      match run.hand with
      | none =>
          let entries := run.runtime.tracker.entries.map Prod.snd
          let (runtime, signal) := Runtime.settleAborted config run.runtime
            ((entries.filter fun entry => (finished entry.jobUid).isNone).map fun entry =>
              (entry, cleanupFault entry.jobUid))
            (entries.filterMap fun entry => (finished entry.jobUid).map fun ending => (entry, ending))
          run.settled runtime signal
      | some _ => run
  | .saveQueueCrashSafe raises => run.mapStore fun store => Recovery.saveQueueCrashSafe store raises
  | .crash window resources runId => boot run.runtime.store window resources runId

end Step

section Sample

/-- A row without a task type, after some refused commits. -/
def unnamedRow (commitFailures : Int) : Record :=
  Dict.ofPairs [("job_id", .str "a"), ("runtime", .obj [("_commit_failures", .int commitFailures)])]

/-- The library as far as the samples use it: the digests of two unnamed rows. -/
@[reducible] def samplePython : Python where
  str := fun _ => "None"
  repr := fun _ => "None"
  int? := fun _ => none
  fixed := fun _ _ => "0"
  sha256 := fun row =>
    if row = unnamedRow 2 then "6d45e042fcf6d70425ba84659a0c581d1513cb8453b86a5d51ed846f1c0737a4"
    else if row = unnamedRow 3 then "3dc52814306d7c2c95fc6546d97a08c567a9cb0259ea2add5194812833866068"
    else ""
  setOrder := id
  setOrder_perm := fun _ => List.Perm.refl _

def sampleConfig : StoreConfig where
  threshold := 3
  classify := fun _ => .fatal
  selection := ⟨[]⟩
  planRequeue := fun _ _ => true
  tasks := Dict.empty

def sampleNow : Text := ⟨"2024-01-01T00:00:00.000000+00:00", by decide⟩

def sampleResources : ResourceManager := ⟨Dict.empty, Dict.empty, []⟩

def namedRow : Record := Dict.ofPairs [("task_type", .str "t"), ("job_id", .str "a")]

end Sample

end Tasklite.Engine.Lifecycle
