import Tasklite.Models.Attempt
import Tasklite.Models.State

/-! The in-memory backend: an ordered queue, the terminal maps and the attempt rows.
Every commit checks first and changes afterwards, so that a refused one leaves all
collections as they were. -/

namespace Tasklite.Backend
open Tasklite.Library Tasklite.Models

structure Memory where
  successes : Dict String Record
  failed : Dict String Record
  failurePayloads : Dict String Record
  cursors : Dict String String
  queue : List Record
  attempts : Dict Int AttemptRecord
  attemptSeq : ℕ

namespace Memory

def empty : Memory := ⟨Dict.empty, Dict.empty, Dict.empty, Dict.empty, [], Dict.empty, 1⟩

variable [Python]

/-- The rows of a replacement, the first of every uid. -/
def dedupCopy (snapshots : List Record) : List Record := Fresh.fresh jobUidFromSnapshot ∅ snapshots

def saveQueue (backend : Memory) (snapshots : List Record) : Memory :=
  { backend with queue := dedupCopy snapshots }

/-- Replace the queue by what `compute` makes of it; nothing happens when `compute` raises. -/
def replaceQueueAtomic {ε : Type} (backend : Memory) (compute : List Record → Except ε (List Record)) :
    Memory × Except ε Unit :=
  match compute backend.queue with
  | .error raised => (backend, .error raised)
  | .ok rows => (backend.saveQueue rows, .ok ())

/-- The queue without the rows of one uid. -/
def remaining (backend : Memory) (jobUid : String) : List Record :=
  Fresh.without jobUidFromSnapshot {jobUid} backend.queue

/-- Whether spawned rows have a uid in common with the rows that stay, or with each other. -/
def spawnConflict (kept spawned : List Record) : Bool :=
  Fresh.fresh jobUidFromSnapshot (Fresh.keys jobUidFromSnapshot kept) spawned ≠ spawned

omit [Python] in
/-- The attempt row that a success finishes: it exists, belongs to the job and the execution, and is
still running. -/
def runningAttempt (backend : Memory) (jobUid : String) (attemptId : Option Int)
    (executionId : Option String) : Option (Int × AttemptRecord) :=
  match attemptId with
  | none => none
  | some id =>
      match backend.attempts.get? id with
      | none => none
      | some record =>
          if executionId = some "" ∨ record.jobUid.val ≠ jobUid ∨
              (∃ execution ∈ executionId, record.executionId.val ≠ execution) ∨ record.outcome ≠ .running
          then none
          else some (id, record)

omit [Python] in
/-- `None` deletes a cursor. -/
def updateCursors (cursors : Dict String String) (updates : List (String × Option String)) :
    Dict String String :=
  updates.foldl (fun cursors update => match update.2 with
    | none => cursors.erase update.1
    | some value => cursors.set update.1 value) cursors

/-- What a successful execution commits. -/
structure Success where
  jobUid : String
  resultMetadata : Record
  attemptId : Option Int
  executionId : Option String
  finishedAt : Option String
  spawned : List Record
  cursorUpdates : Dict String (Option String)

def commitJobSuccess (backend : Memory) (success : Success) : Memory × Bool :=
  match backend.runningAttempt success.jobUid success.attemptId success.executionId,
      validateAttemptFinish .succeeded success.finishedAt none with
  | some (id, record), some ending =>
      if spawnConflict (backend.remaining success.jobUid) success.spawned then (backend, false)
      else ({ backend with
        attempts := backend.attempts.set id (record.finish ending)
        successes := backend.successes.set success.jobUid success.resultMetadata
        queue := success.spawned ++ backend.remaining success.jobUid
        failed := backend.failed.erase success.jobUid
        failurePayloads := backend.failurePayloads.erase success.jobUid
        cursors := updateCursors backend.cursors success.cursorUpdates.entries }, true)
  | _, _ => (backend, false)

/-- The latest payload stands; without one the earlier is kept. -/
def commitJobFailure (backend : Memory) (jobUid : String) (metadata : Record) (payload : Option Record) :
    Memory × Bool :=
  ({ backend with
    failed := backend.failed.set jobUid metadata
    failurePayloads := match payload with
      | none => backend.failurePayloads
      | some payload => backend.failurePayloads.set jobUid payload
    queue := backend.remaining jobUid
    successes := backend.successes.erase jobUid }, true)

def commitRetry (backend : Memory) (poppedJobUid : String) (requeued : Record) (front : Bool) :
    Memory × Bool :=
  let kept := backend.remaining poppedJobUid
  if jobUidFromSnapshot requeued ≠ poppedJobUid ∧ jobUidFromSnapshot requeued ∈ PipelineState.uidsOf kept then
    (backend, false)
  else ({ backend with queue := if front then requeued :: kept else kept ++ [requeued] }, true)

def commitJobFailures (backend : Memory) (uidsMetadata : List (String × Record)) : Memory × Bool :=
  ({ backend with
    failed := uidsMetadata.foldl (fun failed entry => failed.set entry.1 entry.2) backend.failed
    successes := uidsMetadata.foldl (fun successes entry => successes.erase entry.1) backend.successes
    queue := Fresh.without jobUidFromSnapshot (uidsMetadata.map Prod.fst).toFinset backend.queue }, true)

def commitSkip (backend : Memory) (jobUid : String) : Memory × Bool :=
  ({ backend with queue := backend.remaining jobUid }, true)

omit [Python] in
def appendFailed (backend : Memory) (jobUid : String) (metadata : Record) : Memory :=
  { backend with failed := backend.failed.set jobUid metadata }

/-- Insert the rows whose uid is new, to the queue and within the batch; the inserted uids. -/
def enqueueJobs (backend : Memory) (snapshots : List Record) (front : Bool) : Memory × List String :=
  let fresh := Fresh.fresh jobUidFromSnapshot (PipelineState.uidsOf backend.queue) snapshots
  ({ backend with queue := if front then fresh ++ backend.queue else backend.queue ++ fresh },
    fresh.map jobUidFromSnapshot)

def deleteQueueUids (backend : Memory) (jobUids : List String) : Memory × ℕ :=
  let kept := Fresh.without jobUidFromSnapshot jobUids.toFinset backend.queue
  ({ backend with queue := kept }, backend.queue.length - kept.length)

omit [Python]

def eraseKeys {ν : Type} (dict : Dict String ν) (jobUids : List String) : Dict String ν :=
  jobUids.foldl Dict.erase dict

def deleteFailed (backend : Memory) (jobUids : List String) : Memory × ℕ :=
  ({ backend with
    failed := eraseKeys backend.failed jobUids
    failurePayloads := eraseKeys backend.failurePayloads (jobUids.filter backend.failed.contains) },
    (Fresh.fresh id ∅ (jobUids.filter backend.failed.contains)).length)

def deleteSuccesses (backend : Memory) (jobUids : List String) : Memory × ℕ :=
  ({ backend with successes := eraseKeys backend.successes jobUids },
    (Fresh.fresh id ∅ (jobUids.filter backend.successes.contains)).length)

/-- Refused as a whole when one of the uids has failed. -/
def seedSuccesses (backend : Memory) (jobUids : List String) : Memory × Option ℕ :=
  if jobUids.any backend.failed.contains then (backend, none)
  else ({ backend with
    successes := jobUids.foldl (fun successes uid => successes.set uid Dict.empty) backend.successes },
    some jobUids.length)

def seedCursor (backend : Memory) (key value : String) : Memory × Bool :=
  if key = "" then (backend, false) else ({ backend with cursors := backend.cursors.set key value }, true)

def appendAttempt (backend : Memory) (record : AttemptRecord) : Memory × Option ℕ :=
  if validateAttemptDispatch record then
    ({ backend with
      attempts := backend.attempts.set backend.attemptSeq record
      attemptSeq := backend.attemptSeq + 1 }, some backend.attemptSeq)
  else (backend, none)

/-- Finish a running row once: `some false` for a row that is not there, `none` for what raises. -/
def updateAttempt (backend : Memory) (attemptId : Int) (outcome : Outcome) (finishedAt : String)
    (errorMessage : Option String) : Memory × Option Bool :=
  match validateAttemptFinish outcome (some finishedAt) errorMessage with
  | none => (backend, none)
  | some ending =>
      match backend.attempts.get? attemptId with
      | none => (backend, some false)
      | some record =>
          if record.outcome ≠ .running then (backend, none)
          else ({ backend with attempts := backend.attempts.set attemptId (record.finish ending) }, some true)

def loadAttempts (backend : Memory) (jobUid : String) : List AttemptRecord :=
  (backend.attempts.entries.map Prod.snd).filter fun record => record.jobUid.val = jobUid

/-- The finishing time of the latest successful attempt. -/
def loadLatestSucceededFinishedAt (backend : Memory) (jobUid : String) : Option String :=
  match (backend.attempts.entries.map Prod.snd).reverse.find? fun record =>
      record.jobUid.val = jobUid ∧ record.outcome = .succeeded with
  | none => none
  | some record => record.finishedAt.map Subtype.val

end Memory

end Tasklite.Backend
