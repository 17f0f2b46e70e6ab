import Tasklite.Engine.Attempts
import Tasklite.Engine.Skipping

/-! One dispatch, from the choice of the scan to the worker in flight: the dependency
failure, the trigger, the trace of the attempt, the gates, the lease, and the exits of
each. The engine is then a machine that dispatches, completes, cancels, skips and
archives in any order. -/

namespace Tasklite.Engine
open Tasklite.Library Tasklite.Models

/-- How the start of a worker goes on once its lease is reserved: something raises before or after the claim, the
assertions of the engine fail, the user interrupts before or after the entry is registered, or it runs. -/
inductive Spawning where
  | raised (claimed : Option ℚ) (message : String)
  | asserted (message : String)
  | interrupted (tracked : Option ℚ)
  | started (claimed : ℚ)

/-- What the surroundings of one dispatch do: what the trigger decides, whether opening the trace raises, the jobs
whose lock an orphan holds, the signals that are drained, whether the clean-up of old artifacts raises, and how the
worker starts. -/
structure Launching where
  admission : Except String Bool := .ok true
  openFault : Option String := none
  held : Finset String := ∅
  drained : ℚ := 0
  signals : List SuspendSignal := []
  cleanupFault : Option String := none
  reserved : ℚ := 0
  spawning : Spawning := .started 0

/-- What leaves the block in which a worker is started. -/
inductive Fault where
  | crash (signal : Signal)
  | asserted (message : String)
  | interrupted
  | rateLimited (message : String)
  | failed (message : String)

/-- The parts of the engine that a run changes. -/
structure EngineRuntime where
  runtime : Runtime
  machine : SelectionMachine
  dispatchNo : ℕ

namespace StateStore

variable [Python] (config : StoreConfig)

/-- The exit of the jobs that are refused: the failure is archived, and the hook called. A job that was archived
by a strike has had its hook already. -/
def rejectAndCommit (store : StateStore) (jobUid : String) (snapshot metadata : Record) (countAs : StatKey)
    (attemptId : Option Int) : StateStore × Option Signal :=
  match store.applyFailure config jobUid metadata snapshot countAs attemptId with
  | (failed, .ok archived) => (failed.fireAttemptFinished jobUid ⟨false, false, archived⟩, none)
  | (struck, .error (.jobTerminated _)) => (struck, none)
  | (raised, .error signal) => (raised, some signal)

end StateStore

namespace EngineRuntime

def mapStore (engine : EngineRuntime) (change : StateStore → StateStore) : EngineRuntime :=
  { engine with runtime := engine.runtime.mapStore change }

def withResources (engine : EngineRuntime) (resources : ResourceManager) : EngineRuntime :=
  { engine with runtime := { engine.runtime with resources } }

theorem execution_ne_empty (runId : String) (dispatchNo : ℕ) : runId ++ "." ++ toString dispatchNo ≠ "" := by
  intro empty
  have letters := congrArg String.length empty
  simp only [String.length_append] at letters
  have dot : ".".length = 1 := rfl
  have nothing : "".length = 0 := rfl
  omega

/-- The identity of an execution: the run and the number of the dispatch. -/
def executionId (runId : Option String) (dispatchNo : ℕ) : Text :=
  ⟨runId.getD "None" ++ "." ++ toString dispatchNo, execution_ne_empty _ _⟩

variable [Python] (config : StoreConfig)

/-- Open the trace of an attempt: its id, if there is a run to belong to, and the identity of the execution. -/
def openAttempt (engine : EngineRuntime) (job : Job) (openFault : Option String) :
    EngineRuntime × Except String (Option Int × Text) :=
  let dispatchNo := engine.dispatchNo + 1
  let execution := executionId engine.runtime.runId dispatchNo
  match openFault with
  | some message => ({ engine with dispatchNo }, .error message)
  | none =>
      let (store, attemptId) := engine.runtime.store.recordAttemptDispatch job execution engine.runtime.runId
      ({ engine with runtime := { engine.runtime with store }, dispatchNo },
        .ok (attemptId.map fun id => (id : Int), execution))

/-- The id of an attempt whose trace may be missing. -/
def openedId {ε : Type} : Except ε (Option Int × Text) → Option Int
  | .ok (attemptId, _) => attemptId
  | .error _ => none

/-- Commit a rejection. -/
def rejectAndCommit (engine : EngineRuntime) (jobUid : String) (snapshot metadata : Record) (countAs : StatKey)
    (attemptId : Option Int) : EngineRuntime × Option Signal :=
  let (store, signal) := engine.runtime.store.rejectAndCommit config jobUid snapshot metadata countAs attemptId
  ({ engine with runtime := { engine.runtime with store } }, signal)

def requeueFront (engine : EngineRuntime) (snapshot : Record) : EngineRuntime :=
  engine.mapStore fun store => store.mapState fun state => state.requeueJobs [snapshot] true

section Gates

def noHandlerMetadata : Record :=
  Dict.ofPairs [("error_message", .str errNoHandler), ("is_fatal", .bool true)]

def payloadMetadata (errors : List String) : Record :=
  Dict.ofPairs [("error_message", .str errPayloadValidation), ("details", .arr (errors.map Json.str))]

/-- At most 200 characters of the exception are kept. -/
def dispatchFailureMetadata (failures : Int) (message : String) : Record :=
  Dict.ofPairs [("error_message", .str errDispatchFailure), ("failures", .int failures),
    ("detail", .str (String.ofList (message.toList.take 200)))]

/-- What the payload of a job lacks, if its task has a schema. -/
def payloadErrors (job : Job) : List String :=
  match (config.tasks.get? job.taskType.val).bind fun task => task.payloadSchema with
  | none => []
  | some validate => validate job.payload

/-- The gate for jobs with a failed dependency. The trace may be missing. -/
def dispatchDepFailed (engine : EngineRuntime) (idx : ℕ) (pendingDepFailure : Option String) (launching : Launching) :
    EngineRuntime × Option Signal :=
  match engine.runtime.store.state.popJob idx with
  | none => (engine, some (.raised "pop index out of range"))
  | some (row, state) =>
      let popped := engine.mapStore fun store => { store with state := state }
      match Job.fromDict row with
      | .error _ => (popped, some (.raised "the row does not parse"))
      | .ok job =>
          let (opened, answer) := popped.openAttempt job launching.openFault
          match pendingDepFailure with
          | none => (opened, none)
          | some failedUid => opened.rejectAndCommit config job.uid row (dependencyMetadata failedUid) .cascadeFailed
              (openedId answer)

/-- A trigger that does not let a job run skips it. The trace may be missing. -/
def dispatchSkip (engine : EngineRuntime) (row : Record) (job : Job) (launching : Launching) :
    EngineRuntime × Option Signal :=
  let (opened, answer) := engine.openAttempt job launching.openFault
  match opened.runtime.store.applySkip job.uid (some row) (openedId answer) with
  | (store, .ok _) => ({ opened with runtime := { opened.runtime with
      store := store.mapState fun state => state.markTriggerSkipped job.uid } }, none)
  | (store, .error signal) => ({ opened with runtime := { opened.runtime with store } }, some signal)

end Gates

section Spawn

/-- Reserve, check the payload, start the worker, claim the lease and register the entry. A job that is rejected for
its payload has none. -/
def spawnEntry (engine : EngineRuntime) (row : Record) (job : Job) (attemptId : Option Int) (execution : Text)
    (launching : Launching) : EngineRuntime × Except Fault (Option InFlightJob) :=
  match engine.runtime.resources.reserve launching.reserved job.taskType.val
      (job.resources.map Dict.entries) job.uid with
  | (resources, .error refusal) => (engine.withResources resources, .error (match refusal with
      | .rateLimitUnavailable _ _ => .rateLimited refusal.message
      | _ => .failed refusal.message))
  | (resources, .ok lease) =>
      let held := engine.withResources resources
      let released := engine.withResources (resources.releaseLease lease)
      let entry : InFlightJob := ⟨job.uid, row, job, lease, attemptId, some execution.val⟩
      let track := fun (engine : EngineRuntime) => { engine with runtime := engine.runtime.track entry }
      match payloadErrors config job with
      | error :: errors =>
          match released.rejectAndCommit config job.uid row (payloadMetadata (error :: errors)) .failed attemptId with
          | (rejected, none) => (rejected, .ok none)
          | (raised, some signal) => (raised, .error (.crash signal))
      | [] => match launching.spawning with
          | .raised none message => (released, .error (.failed message))
          | .raised (some now) message =>
              (held.withResources ((resources.claimLease now lease).1.releaseLease lease), .error (.failed message))
          | .asserted message => (released, .error (.asserted message))
          | .interrupted none => (released, .error .interrupted)
          | .interrupted (some now) =>
              (track (held.withResources ((resources.claimLease now lease).1.releaseLease lease)), .error .interrupted)
          | .started now =>
              match resources.claimLease now lease with
              | (manager, some refusal) =>
                  (held.withResources (manager.releaseLease lease), .error (.failed refusal.message))
              | (manager, none) => (track (held.withResources manager), .ok (some entry))

/-- The exception of a dispatch counts against the job, which goes back to the front or, from the threshold on,
is archived. -/
def handleDispatchFailure (engine : EngineRuntime) (row : Record) (job : Job) (attemptId : Option Int) (message : String) :
    EngineRuntime × Option Signal :=
  let counted := Lifecycle.recordDispatchFailure row
  let failures := (JobRuntimeState.fromDict (Record.get row "runtime")).dispatchFailures + 1
  let settled := { engine with runtime := engine.runtime.settle job.uid }
  if failures ≥ config.threshold then
    settled.rejectAndCommit config job.uid counted (dispatchFailureMetadata failures message) .failed attemptId
  else
    ((settled.requeueFront counted).mapStore fun store =>
      store.finishAttempt attemptId .requeued (some (.str ("dispatch failure: " ++ message))),
      some (.raised message))

/-- What is done about what leaves the block. -/
def handleFault (engine : EngineRuntime) (row : Record) (job : Job) (attemptId : Option Int) :
    Fault → EngineRuntime × Option Signal
  | .crash signal => (engine, some signal)
  | .asserted message => (engine, some (.raised message))
  | .interrupted =>
      if job.uid ∈ engine.runtime.tracker.keys then (engine, some (.raised "interrupted"))
      else (engine.requeueFront row, some (.raised "interrupted"))
  | .rateLimited message => (engine.mapStore fun store =>
      store.requeueTransient config row "rate_limited" attemptId (some (.str message)), none)
  | .failed message => engine.handleDispatchFailure config row job attemptId message

end Spawn

/-- A dispatch that has not started a worker: it has dealt with the job, or it raises. -/
def handled (outcome : EngineRuntime × Option Signal) : EngineRuntime × Except Signal (Option InFlightJob) :=
  (outcome.1, match outcome.2 with
    | none => .ok none
    | some signal => .error signal)

/-- The gates behind the trace: the handler, the orphan lock, the signals and artifacts, and the worker. -/
def dispatchOpened (engine : EngineRuntime) (row : Record) (job : Job) (attemptId : Option Int) (execution : Text)
    (launching : Launching) : EngineRuntime × Except Signal (Option InFlightJob) :=
  if config.tasks.contains job.taskType.val = false then
    handled (engine.rejectAndCommit config job.uid row noHandlerMetadata .failed attemptId)
  else if job.uid ∈ launching.held then (engine.mapStore fun store =>
    store.requeueTransient config row "lock_conflict" attemptId (some (.str "orphan lock conflict")), .ok none)
  else
    let drained := engine.withResources
      (engine.runtime.resources.applySuspendSignals launching.drained launching.signals)
    match launching.cleanupFault with
    | some message => (drained, .error (.raised message))
    | none =>
        match drained.spawnEntry config row job attemptId execution launching with
        | (spawned, .ok entry) => (spawned, .ok entry)
        | (faulty, .error fault) => handled (faulty.handleFault config row job attemptId fault)

/-- A job that is to run has its trace opened; without a trace it goes back and the run crashes. -/
def dispatchAdmitted (engine : EngineRuntime) (row : Record) (job : Job) (launching : Launching) :
    EngineRuntime × Except Signal (Option InFlightJob) :=
  match engine.openAttempt job launching.openFault with
  | (opened, .error message) => (opened.requeueFront row, .error (.commitCrash
      ("Failed to append attempt row for " ++ job.uid ++ " (" ++ message ++
        "). Job preserved in queue without starting handler.")))
  | (opened, .ok (attemptId, execution)) => opened.dispatchOpened config row job attemptId execution launching

/-- The number of a new activation: one more than the highest that was traced. -/
def nextActivation (engine : EngineRuntime) (jobUid : String) : {n : ℕ // 1 ≤ n} :=
  ⟨((engine.runtime.store.backend.loadAttempts jobUid).map fun record => record.activationNo.val).foldl max 0 + 1,
    Nat.le_add_left 1 _⟩

/-- Fill in the row at a place, where it stands. -/
def fillIn (engine : EngineRuntime) (idx : ℕ) (taskType : Json) : EngineRuntime :=
  engine.mapStore fun store => store.mapState fun state => { state with
    queue := state.queue.modify idx fun row => StateStore.normalizeJobSnapshot config row (match taskType with
      | .str name => name
      | _ => "") }

/-- The row is filled in where it stands. On its first attempt the trigger is asked, and the job gets a new
activation; a retry runs on. -/
def dispatchRunnable (engine : EngineRuntime) (idx : ℕ) (launching : Launching) :
    EngineRuntime × Except Signal (Option InFlightJob) :=
  match (engine.runtime.store.state.queue[idx]?).bind fun row => row.get? "task_type" with
  | none => (engine, .error (.raised "task_type"))
  | some taskType =>
      let prepared := engine.fillIn config idx taskType
      match prepared.runtime.store.state.popJob idx with
      | none => (prepared, .error (.raised "pop index out of range"))
      | some (row, state) =>
          let popped := prepared.mapStore fun store => { store with state := state }
          match Job.fromDict row with
          | .error _ => (prepared, .error (.raised "the row does not parse"))
          | .ok job =>
              if job.attemptNo.val ≤ 1 then
                match launching.admission with
                | .error message => (prepared, .error (.raised message))
                | .ok false => handled (popped.dispatchSkip row job launching)
                | .ok true =>
                    let activation := prepared.nextActivation job.uid
                    popped.dispatchAdmitted config (row.set "activation_no" (.int activation.val))
                      { job with activationNo := activation } launching
              else popped.dispatchAdmitted config row job launching

/-- One dispatch of what a scan has chosen: the entry of the worker, or nothing if the job was dealt with otherwise. -/
def dispatchJob (engine : EngineRuntime) (sched : ScheduleResult) (launching : Launching) :
    EngineRuntime × Except Signal (Option InFlightJob) :=
  match sched.runnableIdx with
  | none => (engine, .ok none)
  | some idx =>
      if sched.kind = .depFailed then handled (engine.dispatchDepFailed config idx sched.pendingDepFailure launching)
      else engine.dispatchRunnable config idx launching

section Machine

/-- What the loop does, one job at a time. -/
inductive Operation where
  /-- What the surroundings are going to answer from here on. -/
  | foresee (now : Text) (answers : List Answer) (hookRaises : List Bool)
  /-- Another process enqueues rows. -/
  | enqueue (snapshots : List Record) (front : Bool)
  | dispatch (sched : ScheduleResult) (launching : Launching)
  /-- Complete the entry of a job in flight, reaped or finished before it was aborted. -/
  | complete (jobUid : String) (result : ExecutionResult) (surroundings : Surroundings)
  /-- Give an entry up that was aborted before it finished. -/
  | cancel (jobUid : String) (cleanupFault : Option String)
  | applySkips
  /-- Archive a batch of jobs that can never run. -/
  | bulkFailure (uidsMetas : List (String × Record))
  | clearInFlight
  | saveQueueCrashSafe (raises : Bool)
  /-- The memory is lost, and the next run starts with resources of its own and loads the state. -/
  | restart (window : Recovery.Window) (resources : ResourceManager) (machine : SelectionMachine)
      (runId : Option String)

/-- An engine that has just loaded its state. -/
def boot (store : StateStore) (window : Recovery.Window) (resources : ResourceManager) (machine : SelectionMachine)
    (runId : Option String) : EngineRuntime where
  runtime := ⟨Recovery.loadAndRepair store window, Dict.empty, resources, runId⟩
  machine := machine
  dispatchNo := 0

def step (engine : EngineRuntime) : Operation → EngineRuntime
  | .foresee now answers hookRaises => engine.mapStore fun store => { store with now, answers, hookRaises }
  | .enqueue snapshots front => engine.mapStore fun store => store.enqueueElsewhere snapshots front
  | .dispatch sched launching => (engine.dispatchJob config sched launching).1
  | .complete jobUid result surroundings =>
      match engine.runtime.tracker.get? jobUid with
      | none => engine
      | some entry => { engine with
          runtime := (Runtime.completeAndSettle config engine.runtime entry result surroundings).1 }
  | .cancel jobUid cleanupFault =>
      match engine.runtime.tracker.get? jobUid with
      | none => engine
      | some entry => { engine with runtime := (Runtime.cancelAndSettle engine.runtime entry cleanupFault).1 }
  | .applySkips =>
      let phase := (SelectionMachine.applySkips ⟨engine.machine, engine.runtime.store, engine.dispatchNo⟩
        engine.runtime.runId).1
      { runtime := { engine.runtime with store := phase.store }
        machine := phase.machine
        dispatchNo := phase.dispatchNo }
  | .bulkFailure uidsMetas => engine.mapStore fun store => (store.applyBulkFailure config uidsMetas).1
  | .clearInFlight => { engine with runtime := { engine.runtime with tracker := Dict.empty } }
  | .saveQueueCrashSafe raises => engine.mapStore fun store => Recovery.saveQueueCrashSafe store raises
  | .restart window resources machine runId => boot engine.runtime.store window resources machine runId

end Machine

end EngineRuntime

end Tasklite.Engine
