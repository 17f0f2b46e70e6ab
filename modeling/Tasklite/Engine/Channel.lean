import Mathlib.Logic.Function.Basic
import Tasklite.Engine.Types

/-! The execution channel on the scheduler's side. Messages of a worker end up in four
places: a result, an error, the declarations of its job, and one list of suspend
signals that all workers share. A receiver is modelled by the items it will still
deliver; how many of them a non-blocking read finds is part of each call's input. -/

namespace Tasklite.Engine
open Tasklite.Library Tasklite.Models

/-- A message whose envelope has been checked, or what reading the pipe raised instead. -/
inductive PipeItem where
  | output (payload : Json)
  | input (payload : Json)
  | suspend (payload : Json)
  | result (payload : Json)
  | exception (text : String)
  | osError
deriving DecidableEq

/-- The parts of the engine the channel calls. `declare` adds one artifact declaration to those of a
job, `decode` reads a result payload, `processDeath` classifies a process that left none. -/
structure ChannelServices (δ : Type) where
  declare : δ → Record → Except String δ
  decode : JobHandle → Record → Except String ExecutionResult
  processDeath : JobHandle → Bool → ExecutionResult

/-- The dictionaries of the channel, keyed by execution id, the declarations and inputs of each job, and
the signals not handed out yet, with the signals accepted so far as history. -/
structure Channel (δ : Type) where
  receivers : String → Option (List PipeItem)
  handles : List JobHandle
  results : String → Option Record
  errors : String → Option String
  pendingSignals : List SuspendSignal
  artifacts : String → δ
  inputs : String → List String
  accepted : List SuspendSignal

namespace Channel

variable {δ : Type} (services : ChannelServices δ)

/-- A channel without workers. -/
def start (nothing : δ) : Channel δ :=
  ⟨fun _ => none, [], fun _ => none, fun _ => none, [], fun _ => nothing, fun _ => [], []⟩

/-- The pipe of a new worker, and the items it is going to carry. -/
def register (channel : Channel δ) (handle : JobHandle) : Channel δ := { channel with
  receivers := Function.update channel.receivers handle.executionId (some [])
  handles := channel.handles ++ [handle] }

/-- `[name, seconds]` with a name and a number that fits a float. -/
def suspendPayload : Json → Option (String × ℚ)
  | .arr [.str name, amount] =>
      match Number.ofJson amount with
      | some number => if name ≠ "" ∧ number.isFinite then some (name, number.value) else none
      | none => none
  | _ => none

/-- Take in one message whose envelope is right. -/
def acceptMessage (channel : Channel δ) (handle : JobHandle) : PipeItem → Except String (Channel δ)
  | .output (.obj fields) =>
      match services.declare (channel.artifacts handle.jobUid) (Dict.ofPairs fields) with
      | .error text => .error text
      | .ok declared =>
          .ok { channel with artifacts := Function.update channel.artifacts handle.jobUid declared }
  | .output _ => .error ("invalid artifact declaration for " ++ handle.jobUid)
  | .input (.obj fields) =>
      match Record.get (Dict.ofPairs fields) "path" with
      | .str path =>
          if path = "" then .error ("invalid input declaration for " ++ handle.jobUid)
          else .ok { channel with
            inputs := Function.update channel.inputs handle.jobUid (channel.inputs handle.jobUid ++ [path]) }
      | _ => .error ("invalid input declaration for " ++ handle.jobUid)
  | .input _ => .error ("invalid input declaration for " ++ handle.jobUid)
  | .suspend payload =>
      match suspendPayload payload with
      | none => .error ("invalid suspend signal for " ++ handle.jobUid)
      | some (name, seconds) => .ok { channel with
          pendingSignals := channel.pendingSignals ++ [⟨handle.jobUid, name, seconds⟩]
          accepted := channel.accepted ++ [⟨handle.jobUid, name, seconds⟩] }
  | .result (.obj fields) =>
      if (channel.errors handle.executionId).isSome then .ok channel
      else .ok { channel with
        results := Function.update channel.results handle.executionId (some (Dict.ofPairs fields)) }
  | .result _ => .error ("invalid result payload for " ++ handle.jobUid)
  | .exception text => .error text
  | .osError => .ok channel

/-- The first error of an execution stands, and no result does beside it. -/
def setError (channel : Channel δ) (handle : JobHandle) (text : String) : Channel δ := { channel with
  errors := Function.update channel.errors handle.executionId
    (some ((channel.errors handle.executionId).getD text))
  results := Function.update channel.results handle.executionId none }

def processPipeItem (channel : Channel δ) (handle : JobHandle) (item : PipeItem) : Channel δ :=
  match acceptMessage services channel handle item with
  | .ok accepted => accepted
  | .error text => setError channel handle text

def processItems (channel : Channel δ) (handle : JobHandle) (items : List PipeItem) : Channel δ :=
  items.foldl (fun channel item => processPipeItem services channel handle item) channel

/-- Read what has arrived, the first `available` items. -/
def receiveAvailable (channel : Channel δ) (handle : JobHandle) (available : ℕ) : Channel δ :=
  match channel.receivers handle.executionId with
  | none => channel
  | some items =>
      processItems services { channel with
          receivers := Function.update channel.receivers handle.executionId (some (items.drop available)) }
        handle (items.take available)

/-- Read everything up to the end of the pipe. -/
def drainFinished (channel : Channel δ) (handle : JobHandle) : Channel δ :=
  match channel.receivers handle.executionId with
  | none => channel
  | some items =>
      processItems services { channel with
          receivers := Function.update channel.receivers handle.executionId (some []) }
        handle items

/-- The signals of a job that nobody has drained yet. -/
def undrained (channel : Channel δ) (jobUid : String) : List SuspendSignal :=
  channel.pendingSignals.filter (fun signal => signal.jobUid = jobUid)

/-- Take the undrained signals of a job out of the shared list. -/
def salvageSignals (channel : Channel δ) (jobUid : String) : Channel δ × List SuspendSignal :=
  ({ channel with
      pendingSignals := channel.pendingSignals.filter (fun signal => signal.jobUid ≠ jobUid) },
    channel.undrained jobUid)

/-- Forget an execution: its pipe, its handle, its result. -/
def closeHandle (channel : Channel δ) (handle : JobHandle) : Channel δ := { channel with
  receivers := Function.update channel.receivers handle.executionId none
  handles := channel.handles.filter (fun other => other.executionId ≠ handle.executionId)
  results := Function.update channel.results handle.executionId none }

def clearError (channel : Channel δ) (handle : JobHandle) : Channel δ := { channel with
  errors := Function.update channel.errors handle.executionId none }

/-- A decoded result and the signals merged into it. -/
structure Collected where
  handle : JobHandle
  decoded : ExecutionResult
  salvaged : List SuspendSignal
deriving DecidableEq

/-- The result as it is handed out: its own suspensions, then the merged ones. -/
def Collected.result (collected : Collected) : ExecutionResult := { collected.decoded with
  resourceSuspensions := collected.decoded.resourceSuspensions ++
    collected.salvaged.map fun signal => (signal.resource, signal.seconds) }

/-- The outcome of a process that has ended, before anything is closed: its error is raised, its
result decoded, and a process without either classified by how it died. -/
def decodeOutcome (channel : Channel δ) (handle : JobHandle) (isTimeout : Bool) :
    Except String ExecutionResult :=
  match channel.errors handle.executionId with
  | some text => .error text
  | none =>
      match channel.results handle.executionId with
      | some payload => services.decode handle payload
      | none => .ok { services.processDeath handle isTimeout with resourceSuspensions := [] }

/-- Drain, decode, and close in every case. When there is an error it is raised and the signals that
were salvaged for the result go nowhere. -/
def collectOutcome (channel : Channel δ) (handle : JobHandle) (isTimeout : Bool) :
    Channel δ × Except String Collected :=
  let drained := drainFinished services channel handle
  let outcome := decodeOutcome services drained handle isTimeout
  let (salvaged, signals) := salvageSignals (clearError drained handle) handle.jobUid
  (closeHandle salvaged handle, outcome.map fun decoded => ⟨handle, decoded, signals⟩)

/-- What a call finds of one worker: the items that have arrived, whether the process is alive, past its
deadline, and still alive after the last wait. -/
structure Feed where
  available : ℕ
  alive : Bool
  overdue : Bool
  stuck : Bool

/-- What reaping does with one handle. -/
inductive Verdict where
  | running
  | collected (outcome : Collected)
  | raised (text : String)
deriving DecidableEq

def Verdict.ofOutcome : Except String Collected → Verdict
  | .ok outcome => .collected outcome
  | .error text => .raised text

/-- Whether a handle is collected now, and whether as a timeout. -/
def due (received : Channel δ) (handle : JobHandle) (feed : Feed) : Option Bool :=
  if (received.errors handle.executionId).isSome || (received.results handle.executionId).isSome then
    some false
  else if !feed.alive then some false
  else if feed.overdue then some feed.stuck
  else none

def reapHandle (channel : Channel δ) (handle : JobHandle) (feed : Feed) : Channel δ × Verdict :=
  let received := receiveAvailable services channel handle feed.available
  match due received handle feed with
  | none => (received, .running)
  | some isTimeout =>
      let collected := collectOutcome services received handle isTimeout
      (collected.1, .ofOutcome collected.2)

/-- The loop of `reap_completed`. An error leaves it at once, and what was collected is gone. -/
def reapCompleted (feed : JobHandle → Feed) : List JobHandle → Channel δ → List Collected →
    Channel δ × Except String (List Collected)
  | [], channel, completed => (channel, .ok completed)
  | handle :: rest, channel, completed =>
      match reapHandle services channel handle (feed handle) with
      | (after, .running) => reapCompleted feed rest after completed
      | (after, .collected outcome) => reapCompleted feed rest after (completed ++ [outcome])
      | (after, .raised text) => (after, .error text)

/-- Receive for the registered handles of the given jobs and hand out all signals of these jobs. -/
def drainActiveSignals (channel : Channel δ) (feed : JobHandle → Feed) (uids : List String) :
    Channel δ × List SuspendSignal :=
  let received := (channel.handles.filter (fun handle => handle.jobUid ∈ uids)).foldl
    (fun channel handle => receiveAvailable services channel handle (feed handle).available) channel
  ({ received with pendingSignals := received.pendingSignals.filter (fun signal => signal.jobUid ∉ uids) },
    received.pendingSignals.filter (fun signal => signal.jobUid ∈ uids))

/-- A received result that has a status other than `interrupted`. -/
def finalPayload (channel : Channel δ) (handle : JobHandle) : Option Record :=
  if (channel.errors handle.executionId).isSome then none
  else match channel.results handle.executionId with
    | none => none
    | some payload =>
        if payload.contains "status" ∧ Record.get payload "status" ≠ .str "interrupted" then some payload
        else none

/-- Decode a final result and merge the undrained signals of its job into it. -/
def consumeResultIfPresent (channel : Channel δ) (handle : JobHandle) :
    Channel δ × Except String (Option Collected) :=
  match finalPayload channel handle with
  | none => (channel, .ok none)
  | some payload =>
      let popped := { channel with results := Function.update channel.results handle.executionId none }
      match services.decode handle payload with
      | .error text => (popped, .error text)
      | .ok decoded =>
          let (salvaged, signals) := salvageSignals popped handle.jobUid
          (salvaged, .ok (some ⟨handle, decoded, signals⟩))

/-- The first pass of an abort: who has a result already. -/
def classify (feed : JobHandle → Feed) : List JobHandle → Channel δ → List Collected → List JobHandle →
    Channel δ × Except String (List Collected × List JobHandle)
  | [], channel, done, waiting => (channel, .ok (done, waiting))
  | handle :: rest, channel, done, waiting =>
      match consumeResultIfPresent services
          (receiveAvailable services channel handle (feed handle).available) handle with
      | (after, .error text) => (after, .error text)
      | (after, .ok (some outcome)) => classify feed rest after (done ++ [outcome]) waiting
      | (after, .ok none) => classify feed rest after done (waiting ++ [handle])

/-- Between the passes: drain what the finished ones still sent and close them. -/
def closeDone : List Collected → Channel δ → Channel δ × List Collected
  | [], channel => (channel, [])
  | outcome :: rest, channel =>
      let drained := drainFinished services channel outcome.handle
      let (salvaged, signals) := salvageSignals drained outcome.handle.jobUid
      let closed := clearError (closeHandle salvaged outcome.handle) outcome.handle
      let (last, others) := closeDone rest closed
      (last, { outcome with salvaged := outcome.salvaged ++ signals } :: others)

structure AbortOutcome where
  completed : List Collected
  cancelled : List JobHandle
  salvagedSignals : List SuspendSignal

/-- The second pass: the processes are dead, their pipes are read to the end, and who has a result now is
completed; the signals of the others are handed out by themselves. -/
def settleWaiting : List JobHandle → Channel δ → AbortOutcome → Channel δ × Except String AbortOutcome
  | [], channel, outcome => (channel, .ok outcome)
  | handle :: rest, channel, outcome =>
      match consumeResultIfPresent services (drainFinished services channel handle) handle with
      | (after, .error text) => (after, .error text)
      | (after, .ok (some collected)) =>
          settleWaiting rest (clearError (closeHandle after handle) handle)
            { outcome with completed := outcome.completed ++ [collected] }
      | (after, .ok none) =>
          let (salvaged, signals) := salvageSignals after handle.jobUid
          settleWaiting rest (clearError (closeHandle salvaged handle) handle)
            { outcome with
              cancelled := outcome.cancelled ++ [handle]
              salvagedSignals := outcome.salvagedSignals ++ signals }

def abortInFlight (channel : Channel δ) (feed : JobHandle → Feed) (handles : List JobHandle) :
    Channel δ × Except String AbortOutcome :=
  match classify services feed handles channel [] [] with
  | (classified, .error text) => (classified, .error text)
  | (classified, .ok (done, waiting)) =>
      let (closed, merged) := closeDone services done classified
      settleWaiting services waiting closed ⟨merged, [], []⟩

end Channel

end Tasklite.Engine
