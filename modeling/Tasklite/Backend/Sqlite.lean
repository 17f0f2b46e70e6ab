import Tasklite.Backend.Memory
import Tasklite.Library.Table

/-! The SQLite backend: a queue table whose rows are ordered by integer positions, the terminal tables, the
cursors and the attempts. Every method is one transaction; what it raises takes the whole of it back. -/

namespace Tasklite.Backend
open Tasklite.Library Tasklite.Models

/-- What a block raises: an integer that no column holds, a uid that is there already, no attempt id left, a check
of the block's own, or what the function raised that the block was given. -/
inductive SqlError where
  | overflowError
  | integrityError
  | operationalError
  | runtimeError
  | typeError
  | valueError
  | compute (raised : String)
deriving DecidableEq, Repr

/-- `dumps` and `loads`, as far as records are written and read. The empty record comes back as it was. -/
class JsonText where
  dumps : Record → Except SqlError String
  loads : String → Except SqlError Record
  empty_back : ∃ text, dumps Dict.empty = .ok text ∧ loads text = .ok Dict.empty

export JsonText (dumps loads)

structure QueueRow where
  queuePosition : Int
  jobSnapshot : String
deriving DecidableEq

structure FailedRow where
  metadata : String
  payload : Option String
deriving DecidableEq

/-- The columns of an attempt, its id apart. -/
structure AttemptRow where
  jobUid : String
  activationNo : Int
  attemptNo : Int
  executionId : String
  runId : String
  startedAt : String
  finishedAt : Option String
  outcome : Outcome
  errorMessage : Option String
deriving DecidableEq

/-- The tables, and the largest attempt id that was ever given. -/
structure Sqlite where
  queue : Dict String QueueRow
  successes : Dict String String
  failed : Dict String FailedRow
  attempts : Dict Int AttemptRow
  attemptSequence : ℕ
  cursors : Dict String String

namespace AttemptRow

def text? (text : String) : Option Text := if filled : text ≠ "" then some ⟨text, filled⟩ else none

def optionalText? : Option String → Option (Option Text)
  | none => some none
  | some text => (text? text).map some

def counter? (value : Int) : Option {n : ℕ // 1 ≤ n} :=
  if positive : 1 ≤ value.toNat then some ⟨value.toNat, positive⟩ else none

def record? (row : AttemptRow) : Option AttemptRecord := do
  let jobUid ← text? row.jobUid
  let activationNo ← counter? row.activationNo
  let attemptNo ← counter? row.attemptNo
  let executionId ← text? row.executionId
  let runId ← text? row.runId
  let startedAt ← text? row.startedAt
  let finishedAt ← optionalText? row.finishedAt
  let errorMessage ← optionalText? row.errorMessage
  return ⟨jobUid, activationNo, attemptNo, executionId, runId, startedAt, row.outcome, finishedAt, errorMessage⟩

/-- The record of a row; the constructor checks every field again. -/
def fromDict (row : AttemptRow) : Except SqlError AttemptRecord :=
  match row.record? with
  | none => .error .valueError
  | some record => .ok record

/-- The values that an insert binds. -/
def ofRecord (record : AttemptRecord) : AttemptRow where
  jobUid := record.jobUid
  activationNo := record.activationNo.val
  attemptNo := record.attemptNo.val
  executionId := record.executionId
  runId := record.runId
  startedAt := record.startedAt
  finishedAt := record.finishedAt.map Subtype.val
  outcome := record.outcome
  errorMessage := record.errorMessage.map Subtype.val

/-- The update of the three columns that end an attempt. -/
def finish (row : AttemptRow) (ending : AttemptFinish) : AttemptRow := { row with
  outcome := ending.outcome
  finishedAt := some ending.finishedAt
  errorMessage := ending.errorMessage.map Subtype.val }

theorem text?_val (text : Text) : text? text = some text := dif_pos text.property

theorem optionalText?_map (text : Option Text) : optionalText? (text.map Subtype.val) = some text := by
  cases text with
  | none => rfl
  | some text => exact congrArg (Option.map some) (text?_val text)

theorem counter?_val (counter : {n : ℕ // 1 ≤ n}) : counter? counter.val = some counter := dif_pos counter.property

theorem fromDict_ofRecord (record : AttemptRecord) : fromDict (ofRecord record) = .ok record := by
  have same : (ofRecord record).record? = some record := by
    simp only [record?, ofRecord, text?_val, counter?_val, optionalText?_map]
    rfl
  rw [fromDict, same]

theorem ofRecord_finish (record : AttemptRecord) (ending : AttemptFinish) :
    ofRecord (record.finish ending) = (ofRecord record).finish ending := rfl

end AttemptRow

namespace Sqlite

def empty : Sqlite := ⟨Dict.empty, Dict.empty, Dict.empty, Dict.empty, 0, Dict.empty⟩

/-- The integers that a column holds have 64 bits. -/
def fits (value : Int) : Bool := -9223372036854775808 ≤ value ∧ value ≤ 9223372036854775807

def bindInteger (value : Int) : Except SqlError Int := if fits value then .ok value else .error .overflowError

/-- What a commit answers: whether its block went through. -/
def committed (sqlite : Sqlite) (block : Except SqlError (Sqlite × Unit)) : Sqlite × Bool :=
  match Table.transact sqlite block with
  | (after, .ok _) => (after, true)
  | (after, .error _) => (after, false)

/-- `count` positions in order: those before the first row of the queue, or those behind its last one. -/
def queuePositionRange (queue : Dict String QueueRow) (count : ℕ) (front : Bool) : List Int :=
  let positions := queue.entries.map fun row => row.2.queuePosition
  let base := if front then (positions.min?.getD 0) - count else (positions.max?.getD (-1)) + 1
  (List.range count).map fun (i : ℕ) => base + (i : Int)

variable [Python] [JsonText]

/-- The values of rows that take the positions in turn. -/
def newRows : List Record → List Int → Except SqlError (List (String × QueueRow))
  | snapshot :: snapshots, position :: positions => do
      let jobSnapshot ← dumps snapshot
      let queuePosition ← bindInteger position
      let rows ← newRows snapshots positions
      return (jobUidFromSnapshot snapshot, ⟨queuePosition, jobSnapshot⟩) :: rows
  | _, _ => return []

omit [Python] [JsonText] in
def insertRows (queue : Dict String QueueRow) (rows : List (String × QueueRow)) :
    Except SqlError (Dict String QueueRow) :=
  match Table.insertMany queue rows with
  | none => .error .integrityError
  | some queue => .ok queue

section Loading

omit [Python]

def position (row : String × QueueRow) : Int := row.2.queuePosition

def loadQueue (sqlite : Sqlite) : Except SqlError (List Record) :=
  (Table.orderBy position sqlite.queue).mapM fun row => loads row.2.jobSnapshot

/-- A dict of the records that the texts of rows spell. -/
def loadRecords (rows : List (String × String)) : Except SqlError (Dict String Record) := do
  let pairs ← rows.mapM fun row => do
    let record ← loads row.2
    return (row.1, record)
  return Dict.ofPairs pairs

def loadSuccesses (sqlite : Sqlite) : Except SqlError (Dict String Record) := loadRecords sqlite.successes.entries

def loadFailed (sqlite : Sqlite) : Except SqlError (Dict String Record) :=
  loadRecords (Dict.mapEntries FailedRow.metadata sqlite.failed.entries)

/-- The payloads of the rows that have one. -/
def loadFailurePayloads (sqlite : Sqlite) : Except SqlError (Dict String Record) :=
  loadRecords (Dict.chooseEntries FailedRow.payload sqlite.failed.entries)

def loadCursors (sqlite : Sqlite) : Dict String String := Dict.ofPairs sqlite.cursors.entries

def loadAttempts (sqlite : Sqlite) (jobUid : String) : Except SqlError (List AttemptRecord) :=
  ((Table.orderBy Prod.fst sqlite.attempts).filter fun row => row.2.jobUid = jobUid).mapM fun row => row.2.fromDict

def loadLatestSucceededFinishedAt (sqlite : Sqlite) (jobUid : String) : Option String :=
  match (Table.orderBy Prod.fst sqlite.attempts).reverse.find? fun row =>
      row.2.jobUid = jobUid ∧ row.2.outcome = .succeeded with
  | none => none
  | some row => row.2.finishedAt.filter (· ≠ "")

end Loading

section Rewriting

/-- The rows of a replacement, the first of every uid, numbered from zero. -/
def rewriteQueueRows (sqlite : Sqlite) (snapshots : List Record) : Except SqlError (Sqlite × Unit) := do
  let kept := Fresh.fresh jobUidFromSnapshot ∅ snapshots
  let rows ← newRows kept ((List.range kept.length).map Int.ofNat)
  return ({ sqlite with queue := Table.insertOrReplaceMany Dict.empty rows }, ())

def saveQueue (sqlite : Sqlite) (snapshots : List Record) : Sqlite × Except SqlError Unit :=
  Table.transact sqlite (sqlite.rewriteQueueRows snapshots)

def replaceQueueAtomic (sqlite : Sqlite) (compute : List Record → Except String (List Record)) :
    Sqlite × Except SqlError Unit :=
  Table.transact sqlite do
    let diskQueue ← sqlite.loadQueue
    match compute diskQueue with
    | .error raised => .error (.compute raised)
    | .ok rows => sqlite.rewriteQueueRows rows

end Rewriting

section Commits

omit [Python] [JsonText] in
/-- The row that a success ends: it exists, belongs to the job and the execution, and is still running. -/
def runningRow (sqlite : Sqlite) (attemptId : Int) (jobUid : String) (executionId : Option String) :
    Except SqlError AttemptRow :=
  match sqlite.attempts.get? attemptId with
  | none => .error .runtimeError
  | some row =>
      if row.jobUid ≠ jobUid then .error .runtimeError
      else if ∃ execution ∈ executionId, row.executionId ≠ execution then .error .runtimeError
      else if row.outcome ≠ .running then .error .runtimeError
      else .ok row

/-- Insert the spawned rows before all others; one that was there already is an error. -/
def insertSpawned (queue : Dict String QueueRow) (spawned : List Record) :
    Except SqlError (Dict String QueueRow) := do
  let rows ← newRows spawned (queuePositionRange queue spawned.length true)
  let inserted := Table.insertOrIgnoreMany queue rows
  if inserted.2 < spawned.length then .error .runtimeError else .ok inserted.1

omit [Python] [JsonText] in
/-- `None` deletes a cursor. -/
def updateCursors (cursors : Dict String String) (updates : List (String × Option String)) :
    Dict String String :=
  updates.foldl (fun cursors update => match update.2 with
    | none => cursors.erase update.1
    | some value => Table.insertOrReplace cursors update.1 value) cursors

def commitJobSuccess (sqlite : Sqlite) (success : Memory.Success) : Sqlite × Bool :=
  match success.attemptId with
  | none => (sqlite, false)
  | some attemptId =>
      if success.executionId = some "" then (sqlite, false)
      else match validateAttemptFinish .succeeded success.finishedAt none with
      | none => (sqlite, false)
      | some ending => sqlite.committed do
          let attemptId ← bindInteger attemptId
          let row ← sqlite.runningRow attemptId success.jobUid success.executionId
          let metadata ← dumps success.resultMetadata
          let queue ← insertSpawned (sqlite.queue.erase success.jobUid) success.spawned
          return ({ sqlite with
            attempts := sqlite.attempts.set attemptId (row.finish ending)
            successes := Table.insertOrReplace sqlite.successes success.jobUid metadata
            queue := queue
            failed := sqlite.failed.erase success.jobUid
            cursors := updateCursors sqlite.cursors success.cursorUpdates.entries }, ())

omit [Python] in
/-- The payload that a failure leaves in its row: its own, or else the earlier one. -/
def effectivePayload (failed : Dict String FailedRow) (jobUid : String) :
    Option Record → Except SqlError (Option Record)
  | some payload => .ok (some payload)
  | none => match (failed.get? jobUid).bind FailedRow.payload with
      | none => .ok none
      | some text => (loads text).map some

omit [Python] in
def dumpsPayload : Option Record → Except SqlError (Option String)
  | none => .ok none
  | some payload => (dumps payload).map some

omit [Python] in
/-- Write the row of a failure. Without a payload the earlier one is kept. -/
def writeFailedRow (failed : Dict String FailedRow) (jobUid : String) (metadata : Record)
    (payload : Option Record) : Except SqlError (Dict String FailedRow) := do
  let effective ← effectivePayload failed jobUid payload
  let metadata ← dumps metadata
  let payload ← dumpsPayload effective
  return Table.insertOrReplace failed jobUid ⟨metadata, payload⟩

omit [Python] in
def commitJobFailure (sqlite : Sqlite) (jobUid : String) (metadata : Record) (payload : Option Record) :
    Sqlite × Bool :=
  sqlite.committed do
    let failed ← writeFailedRow sqlite.failed jobUid metadata payload
    return ({ sqlite with
      failed := failed
      queue := sqlite.queue.erase jobUid
      successes := sqlite.successes.erase jobUid }, ())

omit [Python] [JsonText] in
def commitSkip (sqlite : Sqlite) (jobUid : String) : Sqlite × Bool :=
  sqlite.committed (.ok ({ sqlite with queue := sqlite.queue.erase jobUid }, ()))

def commitRetry (sqlite : Sqlite) (poppedJobUid : String) (requeued : Record) (front : Bool) : Sqlite × Bool :=
  sqlite.committed do
    let queue := sqlite.queue.erase poppedJobUid
    let rows ← newRows [requeued] (queuePositionRange queue 1 front)
    let queue ← insertRows queue rows
    return ({ sqlite with queue := queue }, ())

omit [Python] in
def writeFailedRows : Dict String FailedRow → List (String × Record) → Except SqlError (Dict String FailedRow)
  | failed, [] => .ok failed
  | failed, entry :: entries => do
      let failed ← writeFailedRow failed entry.1 entry.2 none
      writeFailedRows failed entries

omit [Python] in
def commitJobFailures (sqlite : Sqlite) (uidsMetadata : List (String × Record)) : Sqlite × Bool :=
  sqlite.committed do
    let failed ← writeFailedRows sqlite.failed uidsMetadata
    return ({ sqlite with
      failed := failed
      queue := (Table.deleteMany sqlite.queue (uidsMetadata.map Prod.fst)).1
      successes := (Table.deleteMany sqlite.successes (uidsMetadata.map Prod.fst)).1 }, ())

omit [Python] in
def appendFailed (sqlite : Sqlite) (jobUid : String) (metadata : Record) : Sqlite × Except SqlError Unit :=
  Table.transact sqlite do
    let failed ← writeFailedRow sqlite.failed jobUid metadata none
    return ({ sqlite with failed := failed }, ())

end Commits

/-- Insert the rows whose uid is new, to the table and within the batch; the inserted uids. -/
def enqueueJobs (sqlite : Sqlite) (snapshots : List Record) (front : Bool) :
    Sqlite × Except SqlError (List String) :=
  Table.transact sqlite do
    let fresh := Fresh.fresh jobUidFromSnapshot sqlite.queue.keys.toFinset snapshots
    let rows ← newRows fresh (queuePositionRange sqlite.queue fresh.length front)
    let queue ← insertRows sqlite.queue rows
    return ({ sqlite with queue := queue }, fresh.map jobUidFromSnapshot)

omit [Python]

section Removal

omit [JsonText]

def deleteQueueUids (sqlite : Sqlite) (jobUids : List String) : Sqlite × ℕ :=
  let deleted := Table.deleteMany sqlite.queue jobUids
  ({ sqlite with queue := deleted.1 }, deleted.2)

def deleteFailed (sqlite : Sqlite) (jobUids : List String) : Sqlite × ℕ :=
  let deleted := Table.deleteMany sqlite.failed jobUids
  ({ sqlite with failed := deleted.1 }, deleted.2)

def deleteSuccesses (sqlite : Sqlite) (jobUids : List String) : Sqlite × ℕ :=
  let deleted := Table.deleteMany sqlite.successes jobUids
  ({ sqlite with successes := deleted.1 }, deleted.2)

end Removal

/-- Refused as a whole when one of the uids has failed. -/
def seedSuccesses (sqlite : Sqlite) (jobUids : List String) : Sqlite × Except SqlError ℕ :=
  if jobUids = [] then (sqlite, .ok 0)
  else Table.transact sqlite do
    if jobUids.any sqlite.failed.contains then .error .valueError
    else
      let metadata ← dumps Dict.empty
      let rows := jobUids.map fun jobUid => (jobUid, metadata)
      return ({ sqlite with successes := Table.insertOrReplaceMany sqlite.successes rows }, jobUids.length)

section Attempts

omit [JsonText]

def seedCursor (sqlite : Sqlite) (key value : String) : Sqlite × Except SqlError Unit :=
  if key = "" then (sqlite, .error .typeError)
  else Table.transact sqlite
    (.ok ({ sqlite with cursors := Table.insertOrReplace sqlite.cursors key value }, ()))

/-- The id after all that were ever given. -/
def nextAttemptId (sqlite : Sqlite) : Except SqlError ℕ :=
  if fits (sqlite.attemptSequence + 1) then .ok (sqlite.attemptSequence + 1) else .error .operationalError

def appendAttempt (sqlite : Sqlite) (record : AttemptRecord) : Sqlite × Except SqlError ℕ :=
  if validateAttemptDispatch record then
    Table.transact sqlite do
      let _ ← bindInteger record.activationNo.val
      let _ ← bindInteger record.attemptNo.val
      let attemptId ← sqlite.nextAttemptId
      return ({ sqlite with
        attempts := sqlite.attempts.set attemptId (.ofRecord record)
        attemptSequence := attemptId }, attemptId)
  else (sqlite, .error .valueError)

/-- Finish a running row once; `False` for a row that is not there. -/
def updateAttempt (sqlite : Sqlite) (attemptId : Int) (outcome : Outcome) (finishedAt : String)
    (errorMessage : Option String) : Sqlite × Except SqlError Bool :=
  match validateAttemptFinish outcome (some finishedAt) errorMessage with
  | none => (sqlite, .error .valueError)
  | some ending => Table.transact sqlite do
      let attemptId ← bindInteger attemptId
      match sqlite.attempts.get? attemptId with
      | none => .ok (sqlite, false)
      | some row =>
          if row.outcome ≠ .running then .error .valueError
          else .ok ({ sqlite with attempts := sqlite.attempts.set attemptId (row.finish ending) }, true)

end Attempts

end Sqlite

end Tasklite.Backend
