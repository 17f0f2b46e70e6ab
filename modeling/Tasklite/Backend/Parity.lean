import Tasklite.Backend.Simulation
import Tasklite.Library.Machine

/-! The two backends under one list of operations. They answer the same and load the same exactly as long as the
integers that the SQLite backend has to bind have room in their columns, and neither changes anything when an
operation raises or answers `False`. -/

namespace Tasklite.Backend.Parity
open Tasklite.Library Tasklite.Models Mirroring Simulation

/-- The writing methods of a backend with their arguments. -/
inductive Operation where
  | enqueueJobs (snapshots : List Record) (front : Bool)
  | saveQueue (snapshots : List Record)
  | replaceQueueAtomic (compute : List Record → Except String (List Record))
  | commitJobSuccess (success : Memory.Success)
  | commitJobFailure (jobUid : String) (metadata : Record) (payload : Option Record)
  | commitJobFailures (uidsMetadata : List (String × Record))
  | commitRetry (poppedJobUid : String) (requeued : Record) (front : Bool)
  | commitSkip (jobUid : String)
  | appendFailed (jobUid : String) (metadata : Option Record)
  | deleteQueueUids (jobUids : List String)
  | deleteFailed (jobUids : List String)
  | deleteSuccesses (jobUids : List String)
  | seedSuccesses (jobUids : List String)
  | seedCursor (key value : String)
  | appendAttempt (record : AttemptRecord)
  | updateAttempt (attemptId : Int) (outcome : Outcome) (finishedAt : String) (errorMessage : Option String)

/-- What a call gives back. -/
inductive Reply where
  | raised
  | done
  | flag (accepted : Bool)
  | count (number : ℕ)
  | uids (jobUids : List String)
deriving DecidableEq

namespace Reply

def ofExcept {ε α : Type} (give : α → Reply) : Except ε α → Reply
  | .error _ => .raised
  | .ok value => give value

def ofOption {α : Type} (give : α → Reply) : Option α → Reply
  | none => .raised
  | some value => give value

/-- An operation that changes nothing. -/
def Refused (reply : Reply) : Prop := reply = .raised ∨ reply = .flag false

end Reply

section Operations

variable [Python] [JsonText]

omit [JsonText] in
def memoryCall (memory : Memory) : Operation → Memory × Reply
  | .enqueueJobs snapshots front => (memory.enqueueJobs snapshots front).map id .uids
  | .saveQueue snapshots => (memory.saveQueue snapshots, .done)
  | .replaceQueueAtomic compute => (memory.replaceQueueAtomic compute).map id (.ofExcept fun _ => .done)
  | .commitJobSuccess success => (memory.commitJobSuccess success).map id .flag
  | .commitJobFailure jobUid metadata payload => (memory.commitJobFailure jobUid metadata payload).map id .flag
  | .commitJobFailures uidsMetadata => (memory.commitJobFailures uidsMetadata).map id .flag
  | .commitRetry poppedJobUid requeued front => (memory.commitRetry poppedJobUid requeued front).map id .flag
  | .commitSkip jobUid => (memory.commitSkip jobUid).map id .flag
  | .appendFailed jobUid metadata => (memory.appendFailed jobUid (metadata.getD Dict.empty), .done)
  | .deleteQueueUids jobUids => (memory.deleteQueueUids jobUids).map id .count
  | .deleteFailed jobUids => (memory.deleteFailed jobUids).map id .count
  | .deleteSuccesses jobUids => (memory.deleteSuccesses jobUids).map id .count
  | .seedSuccesses jobUids => (memory.seedSuccesses jobUids).map id (.ofOption .count)
  | .seedCursor key value => (memory.seedCursor key value).map id fun accepted => if accepted then .done else .raised
  | .appendAttempt record => (memory.appendAttempt record).map id (.ofOption .count)
  | .updateAttempt attemptId outcome finishedAt errorMessage =>
      (memory.updateAttempt attemptId outcome finishedAt errorMessage).map id (.ofOption .flag)

def sqliteCall (sqlite : Sqlite) : Operation → Sqlite × Reply
  | .enqueueJobs snapshots front => (sqlite.enqueueJobs snapshots front).map id (.ofExcept .uids)
  | .saveQueue snapshots => (sqlite.saveQueue snapshots).map id (.ofExcept fun _ => .done)
  | .replaceQueueAtomic compute => (sqlite.replaceQueueAtomic compute).map id (.ofExcept fun _ => .done)
  | .commitJobSuccess success => (sqlite.commitJobSuccess success).map id .flag
  | .commitJobFailure jobUid metadata payload => (sqlite.commitJobFailure jobUid metadata payload).map id .flag
  | .commitJobFailures uidsMetadata => (sqlite.commitJobFailures uidsMetadata).map id .flag
  | .commitRetry poppedJobUid requeued front => (sqlite.commitRetry poppedJobUid requeued front).map id .flag
  | .commitSkip jobUid => (sqlite.commitSkip jobUid).map id .flag
  | .appendFailed jobUid metadata =>
      (sqlite.appendFailed jobUid (metadata.getD Dict.empty)).map id (.ofExcept fun _ => .done)
  | .deleteQueueUids jobUids => (sqlite.deleteQueueUids jobUids).map id .count
  | .deleteFailed jobUids => (sqlite.deleteFailed jobUids).map id .count
  | .deleteSuccesses jobUids => (sqlite.deleteSuccesses jobUids).map id .count
  | .seedSuccesses jobUids => (sqlite.seedSuccesses jobUids).map id (.ofExcept .count)
  | .seedCursor key value => (sqlite.seedCursor key value).map id (.ofExcept fun _ => .done)
  | .appendAttempt record => (sqlite.appendAttempt record).map id (.ofExcept .count)
  | .updateAttempt attemptId outcome finishedAt errorMessage =>
      (sqlite.updateAttempt attemptId outcome finishedAt errorMessage).map id (.ofExcept .flag)

/-- The records of an operation are in JSON normal form. -/
def Operation.Plain : Operation → Prop
  | .enqueueJobs snapshots _ => ∀ record ∈ snapshots, Normal record
  | .saveQueue snapshots => ∀ record ∈ snapshots, Normal record
  | .replaceQueueAtomic compute => ∀ queue rows, (∀ record ∈ queue, Normal record) → compute queue = .ok rows →
      ∀ record ∈ rows, Normal record
  | .commitJobSuccess success => Normal success.resultMetadata ∧ ∀ record ∈ success.spawned, Normal record
  | .commitJobFailure _ metadata payload => Normal metadata ∧ ∀ record ∈ payload, Normal record
  | .commitJobFailures uidsMetadata => ∀ entry ∈ uidsMetadata, Normal entry.2
  | .commitRetry _ requeued _ => Normal requeued
  | .appendFailed _ metadata => ∀ record ∈ metadata, Normal record
  | _ => True

/-- The integers that an operation binds have room in their columns: the positions of the rows that it inserts, the
counters and the id of an attempt. What is refused for another reason needs no room. -/
def Fits (sqlite : Sqlite) : Operation → Prop
  | .enqueueJobs snapshots front => Room (Sqlite.queuePositionRange sqlite.queue
      (Fresh.fresh jobUidFromSnapshot sqlite.queue.keys.toFinset snapshots).length front)
  | .saveQueue snapshots => Room (numbers snapshots)
  | .replaceQueueAtomic compute => ∀ queue rows, sqlite.loadQueue = .ok queue → compute queue = .ok rows →
      Room (numbers rows)
  | .commitJobSuccess success => Accepted sqlite success →
      Room (Sqlite.queuePositionRange (sqlite.queue.erase success.jobUid) success.spawned.length true)
  | .commitRetry poppedJobUid requeued front =>
      jobUidFromSnapshot requeued ∉ (sqlite.queue.erase poppedJobUid).keys →
        Room (Sqlite.queuePositionRange (sqlite.queue.erase poppedJobUid) 1 front)
  | .appendAttempt record => validateAttemptDispatch record = true → Countable sqlite record
  | .updateAttempt attemptId outcome finishedAt errorMessage =>
      (validateAttemptFinish outcome (some finishedAt) errorMessage).isSome = true → Sqlite.fits attemptId = true
  | _ => True

end Operations

section Steps

variable [Python] [JsonText] {memory : Memory} {sqlite : Sqlite}

/-- One operation on both sides: where it fits, the replies are the same and the mirror is kept. -/
theorem call_mirrors (mirrors : Mirrors memory sqlite) {operation : Operation} (plain : operation.Plain)
    (room : Fits sqlite operation) :
    (memoryCall memory operation).2 = (sqliteCall sqlite operation).2 ∧
      Mirrors (memoryCall memory operation).1 (sqliteCall sqlite operation).1 := by
  cases operation with
  | enqueueJobs snapshots front =>
    obtain ⟨after, called, mirrored⟩ := enqueueJobs_mirrors mirrors plain room
    simp only [sqliteCall, called]
    exact ⟨rfl, mirrored⟩
  | saveQueue snapshots =>
    obtain ⟨after, called, mirrored⟩ := saveQueue_mirrors mirrors plain room
    simp only [sqliteCall, called]
    exact ⟨rfl, mirrored⟩
  | replaceQueueAtomic compute =>
    simp only [sqliteCall, memoryCall, replaceQueueAtomic_eq mirrors, Memory.replaceQueueAtomic]
    cases computed : compute memory.queue with
    | error raised => exact ⟨rfl, mirrors⟩
    | ok rows =>
      have normal := plain _ rows (queued_normal mirrors.queue) computed
      obtain ⟨after, called, mirrored⟩ := saveQueue_mirrors mirrors normal
        (room _ rows (loadQueue_eq mirrors.queue) computed)
      simp only [called]
      exact ⟨rfl, mirrored⟩
  | commitJobSuccess success =>
    by_cases accepted : Accepted sqlite success
    · obtain ⟨after, called, answered, mirrored⟩ :=
        commitJobSuccess_mirrors mirrors accepted plain.1 plain.2 (room accepted)
      simp only [sqliteCall, memoryCall, called]
      exact ⟨congrArg Reply.flag answered, mirrored⟩
    · obtain ⟨left, right⟩ := commitJobSuccess_conflict mirrors plain.2 accepted
      simp only [sqliteCall, memoryCall, left, right]
      exact ⟨rfl, mirrors⟩
  | commitJobFailure jobUid metadata payload =>
    obtain ⟨after, called, mirrored⟩ := commitJobFailure_mirrors mirrors plain.1 plain.2 jobUid
    simp only [sqliteCall, called]
    exact ⟨rfl, mirrored⟩
  | commitJobFailures uidsMetadata =>
    obtain ⟨after, called, mirrored⟩ := commitJobFailures_mirrors mirrors plain
    simp only [sqliteCall, called]
    exact ⟨rfl, mirrored⟩
  | commitRetry poppedJobUid requeued front =>
    by_cases conflict : jobUidFromSnapshot requeued ∈ (sqlite.queue.erase poppedJobUid).keys
    · obtain ⟨left, right⟩ : sqlite.commitRetry poppedJobUid requeued front = (sqlite, false) ∧
          memory.commitRetry poppedJobUid requeued front = (memory, false) :=
        commitRetry_conflict mirrors plain conflict
      simp only [sqliteCall, memoryCall, left, right]
      exact ⟨rfl, mirrors⟩
    · obtain ⟨after, called, answered, mirrored⟩ := commitRetry_mirrors mirrors plain conflict (room conflict)
      simp only [sqliteCall, memoryCall, called]
      exact ⟨congrArg Reply.flag answered, mirrored⟩
  | commitSkip jobUid =>
    obtain ⟨after, called, mirrored⟩ := commitSkip_mirrors mirrors jobUid
    simp only [sqliteCall, called]
    exact ⟨rfl, mirrored⟩
  | appendFailed jobUid metadata =>
    have normal : Normal (metadata.getD Dict.empty) := by
      cases metadata with
      | none => exact normal_empty
      | some record => exact plain record rfl
    obtain ⟨after, called, mirrored⟩ := appendFailed_mirrors mirrors normal jobUid
    simp only [sqliteCall, called]
    exact ⟨rfl, mirrored⟩
  | deleteQueueUids jobUids =>
    obtain ⟨counted, mirrored⟩ := deleteQueueUids_mirrors mirrors jobUids
    exact ⟨congrArg Reply.count counted.symm, mirrored⟩
  | deleteFailed jobUids =>
    obtain ⟨counted, mirrored⟩ := deleteFailed_mirrors mirrors jobUids
    exact ⟨congrArg Reply.count counted.symm, mirrored⟩
  | deleteSuccesses jobUids =>
    obtain ⟨counted, mirrored⟩ := deleteSuccesses_mirrors mirrors jobUids
    exact ⟨congrArg Reply.count counted.symm, mirrored⟩
  | seedSuccesses jobUids =>
    rcases seedSuccesses_mirrors mirrors jobUids with ⟨raised, left, right⟩ | ⟨after, called, answered, mirrored⟩
    · simp only [sqliteCall, memoryCall, left, right]
      exact ⟨rfl, mirrors⟩
    · simp only [sqliteCall, memoryCall, called]
      exact ⟨congrArg (Reply.ofOption Reply.count) answered, mirrored⟩
  | seedCursor key value =>
    rcases seedCursor_mirrors mirrors key value with ⟨left, right⟩ | ⟨after, called, answered, mirrored⟩
    · simp only [sqliteCall, memoryCall, left, right]
      exact ⟨rfl, mirrors⟩
    · simp only [sqliteCall, memoryCall, called]
      exact ⟨if_pos answered, mirrored⟩
  | appendAttempt record =>
    by_cases valid : validateAttemptDispatch record = true
    · obtain ⟨after, called, mirrored⟩ := appendAttempt_mirrors mirrors valid (room valid)
      simp only [sqliteCall, memoryCall, called]
      refine ⟨?_, mirrored⟩
      simp only [Memory.appendAttempt, if_pos valid]
      rfl
    · simp only [sqliteCall, memoryCall, Memory.appendAttempt, Sqlite.appendAttempt, if_neg valid]
      exact ⟨rfl, mirrors⟩
  | updateAttempt attemptId outcome finishedAt errorMessage =>
    cases ended : validateAttemptFinish outcome (some finishedAt) errorMessage with
    | none =>
      simp only [sqliteCall, memoryCall, Memory.updateAttempt, Sqlite.updateAttempt, ended]
      exact ⟨rfl, mirrors⟩
    | some ending =>
      rcases updateAttempt_mirrors mirrors outcome finishedAt errorMessage (room (by rw [ended]; rfl)) with
        ⟨raised, left, right⟩ | ⟨after, answer, called, answered, mirrored⟩
      · simp only [sqliteCall, memoryCall, left, right]
        exact ⟨rfl, mirrors⟩
      · simp only [sqliteCall, memoryCall, called]
        exact ⟨congrArg (Reply.ofOption Reply.flag) answered, mirrored⟩

/-- Where an operation does not fit, the replies differ. -/
theorem fits_of_replies (mirrors : Mirrors memory sqlite) {operation : Operation}
    (same : (memoryCall memory operation).2 = (sqliteCall sqlite operation).2) : Fits sqlite operation := by
  have saving : ∀ snapshots, Reply.done = Reply.ofExcept (fun _ => .done) (sqlite.saveQueue snapshots).2 →
      Room (numbers snapshots) := by
    intro snapshots saved
    by_contra cramped
    obtain ⟨raised, refused⟩ : ∃ raised, sqlite.rewriteQueueRows snapshots = .error raised :=
      rewriteQueueRows_refused cramped
    rw [Sqlite.saveQueue, refused] at saved
    cases saved
  cases operation with
  | enqueueJobs snapshots front =>
    by_contra cramped
    obtain ⟨raised, refused⟩ := enqueueJobs_refused cramped
    simp only [sqliteCall, memoryCall, Prod.map_snd, refused] at same
    cases same
  | saveQueue snapshots => exact saving snapshots same
  | replaceQueueAtomic compute =>
    intro queue rows loaded computed
    cases Except.ok.inj (loaded.symm.trans (loadQueue_eq mirrors.queue))
    simp only [sqliteCall, memoryCall, replaceQueueAtomic_eq mirrors, Memory.replaceQueueAtomic, computed,
      Prod.map_snd] at same
    exact saving rows same
  | commitJobSuccess success =>
    intro accepted
    by_contra cramped
    obtain ⟨id, record, ending, -, -, -, -, accepts⟩ := commitJobSuccess_accepts mirrors accepted
    simp only [sqliteCall, memoryCall, Prod.map_snd, commitJobSuccess_refused cramped, accepts] at same
    cases same
  | commitRetry poppedJobUid requeued front =>
    intro new
    by_contra cramped
    simp only [sqliteCall, memoryCall, Prod.map_snd, commitRetry_refused cramped,
      commitRetry_accepts mirrors new] at same
    cases same
  | appendAttempt record =>
    intro valid
    by_contra uncountable
    obtain ⟨raised, refused⟩ := appendAttempt_refused uncountable
    simp only [sqliteCall, memoryCall, Prod.map_snd, refused, Memory.appendAttempt, if_pos valid] at same
    cases same
  | updateAttempt attemptId outcome finishedAt errorMessage =>
    intro valid
    by_contra large
    obtain ⟨ending, ended⟩ := Option.isSome_iff_exists.mp valid
    obtain ⟨⟨raised, refused⟩, missing⟩ := updateAttempt_refused mirrors ended large
    simp only [sqliteCall, memoryCall, Prod.map_snd, refused, missing] at same
    cases same
  | _ => trivial

omit [JsonText] in
/-- The in-memory backend checks first and changes afterwards. -/
theorem memoryCall_refused (memory : Memory) {operation : Operation}
    (refused : (memoryCall memory operation).2.Refused) : (memoryCall memory operation).1 = memory := by
  cases operation with
  | replaceQueueAtomic compute =>
    simp only [memoryCall, Memory.replaceQueueAtomic] at refused ⊢
    cases computed : compute memory.queue with
    | error raised => rfl
    | ok rows =>
      rw [computed] at refused
      rcases refused with raised | declined
      · cases raised
      · cases declined
  | commitJobSuccess success =>
    simp only [memoryCall, Memory.commitJobSuccess] at refused ⊢
    split
    · rename_i id record ending attempted ended
      rw [attempted, ended] at refused
      dsimp only at refused
      split at refused
      · rename_i conflict
        rw [if_pos conflict]
        rfl
      · rcases refused with raised | declined
        · cases raised
        · cases declined
    · rfl
  | commitRetry poppedJobUid requeued front =>
    simp only [memoryCall, Memory.commitRetry] at refused ⊢
    split at refused
    · rename_i conflict
      rw [if_pos conflict]
      rfl
    · rcases refused with raised | declined
      · cases raised
      · cases declined
  | seedSuccesses jobUids =>
    simp only [memoryCall, Memory.seedSuccesses] at refused ⊢
    split at refused
    · rename_i conflict
      rw [if_pos conflict]
      rfl
    · rcases refused with raised | declined
      · cases raised
      · cases declined
  | seedCursor key value =>
    simp only [memoryCall, Memory.seedCursor] at refused ⊢
    split at refused
    · rename_i blank
      rw [if_pos blank]
      rfl
    · rcases refused with raised | declined
      · cases raised
      · cases declined
  | appendAttempt record =>
    simp only [memoryCall, Memory.appendAttempt] at refused ⊢
    split at refused
    · rcases refused with raised | declined
      · cases raised
      · cases declined
    · rename_i invalid
      rw [if_neg invalid]
      rfl
  | updateAttempt attemptId outcome finishedAt errorMessage =>
    simp only [memoryCall, Memory.updateAttempt] at refused ⊢
    split at refused
    · rfl
    · split at refused
      · rfl
      · split at refused
        · rename_i ended
          rw [if_pos ended]
          rfl
        · rcases refused with raised | declined
          · cases raised
          · cases declined
  | _ =>
    rcases refused with raised | declined
    · cases raised
    · cases declined

omit [Python] [JsonText] in
/-- A transaction whose values are no refusals is taken back when it is refused. -/
theorem transact_refused {α : Type} {give : α → Reply} (accepts : ∀ value, ¬(give value).Refused)
    {block : Except SqlError (Sqlite × α)} (refused : (Reply.ofExcept give (Table.transact sqlite block).2).Refused) :
    (Table.transact sqlite block).1 = sqlite := by
  cases ended : (Table.transact sqlite block).2 with
  | error raised => exact Table.transact_raised ended
  | ok value =>
    rw [ended] at refused
    exact absurd refused (accepts value)

omit [Python] [JsonText] in
theorem committed_refused {block : Except SqlError (Sqlite × Unit)}
    (refused : (Reply.flag (sqlite.committed block).2).Refused) : (sqlite.committed block).1 = sqlite := by
  cases block with
  | error raised => rfl
  | ok outcome =>
    rcases refused with raised | declined
    · cases raised
    · cases declined

/-- What raises takes the transaction back. -/
theorem sqliteCall_refused (sqlite : Sqlite) {operation : Operation}
    (refused : (sqliteCall sqlite operation).2.Refused) : (sqliteCall sqlite operation).1 = sqlite := by
  cases operation with
  | enqueueJobs snapshots front => exact transact_refused (by simp [Reply.Refused]) refused
  | saveQueue snapshots => exact transact_refused (by simp [Reply.Refused]) refused
  | replaceQueueAtomic compute => exact transact_refused (by simp [Reply.Refused]) refused
  | commitJobSuccess success =>
    simp only [sqliteCall, Sqlite.commitJobSuccess] at refused ⊢
    split at refused
    · rfl
    · split at refused
      · rename_i blank
        rw [if_pos blank]
        rfl
      · rename_i named
        rw [if_neg named]
        split at refused
        · rfl
        · exact committed_refused refused
  | commitJobFailure jobUid metadata payload => exact committed_refused refused
  | commitJobFailures uidsMetadata => exact committed_refused refused
  | commitRetry poppedJobUid requeued front => exact committed_refused refused
  | appendFailed jobUid metadata => exact transact_refused (by simp [Reply.Refused]) refused
  | seedSuccesses jobUids =>
    simp only [sqliteCall, Sqlite.seedSuccesses] at refused ⊢
    split at refused
    · rename_i none
      rw [if_pos none]
      rfl
    · rename_i some
      rw [if_neg some]
      exact transact_refused (by simp [Reply.Refused]) refused
  | seedCursor key value =>
    simp only [sqliteCall, Sqlite.seedCursor] at refused ⊢
    split at refused
    · rename_i blank
      rw [if_pos blank]
      rfl
    · rcases refused with raised | declined
      · cases raised
      · cases declined
  | appendAttempt record =>
    simp only [sqliteCall, Sqlite.appendAttempt] at refused ⊢
    split at refused
    · rename_i valid
      rw [if_pos valid]
      exact transact_refused (by simp [Reply.Refused]) refused
    · rename_i invalid
      rw [if_neg invalid]
      rfl
  | updateAttempt attemptId outcome finishedAt errorMessage =>
    simp only [sqliteCall, Sqlite.updateAttempt] at refused ⊢
    split at refused
    · rfl
    · rename_i ending _
      by_cases room : Sqlite.fits attemptId = true
      · rw [Sqlite.bindInteger, if_pos room] at refused ⊢
        cases found : sqlite.attempts.get? attemptId with
        | none =>
          simp only [bind, Except.bind, found]
          rfl
        | some row =>
          simp only [bind, Except.bind, found] at refused ⊢
          by_cases running : row.outcome ≠ .running
          · rw [if_pos running]
            rfl
          · rw [if_neg running] at refused
            rcases refused with raised | declined
            · cases raised
            · cases declined
      · rw [Sqlite.bindInteger, if_neg room]
        rfl
  | _ =>
    rcases refused with raised | declined
    · cases raised
    · cases declined

end Steps

section Runs

variable [Python] [JsonText]

/-- The replies of a backend to a list of operations. -/
def replies {σ : Type} (call : σ → Operation → σ × Reply) : σ → List Operation → List Reply
  | _, [] => []
  | state, operation :: rest => (call state operation).2 :: replies call (call state operation).1 rest

omit [JsonText] in
def memoryStep (memory : Memory) (operation : Operation) : Memory := (memoryCall memory operation).1

def sqliteStep (sqlite : Sqlite) (operation : Operation) : Sqlite := (sqliteCall sqlite operation).1

theorem run_mirrors {memory : Memory} {sqlite : Sqlite} (mirrors : Mirrors memory sqlite)
    {operations : List Operation} (plain : ∀ operation ∈ operations, operation.Plain)
    (room : Machine.Along sqliteStep Fits sqlite operations) :
    replies memoryCall memory operations = replies sqliteCall sqlite operations ∧
      Mirrors (Machine.run memoryStep memory operations) (Machine.run sqliteStep sqlite operations) := by
  induction operations generalizing memory sqlite with
  | nil => exact ⟨rfl, mirrors⟩
  | cons operation rest ih =>
    obtain ⟨same, kept⟩ := call_mirrors mirrors (plain operation List.mem_cons_self) room.1
    obtain ⟨later, last⟩ := ih kept (fun other member => plain other (List.mem_cons_of_mem _ member)) room.2
    exact ⟨congrArg₂ List.cons same later, last⟩

theorem along_of_replies {memory : Memory} {sqlite : Sqlite} (mirrors : Mirrors memory sqlite)
    {operations : List Operation} (plain : ∀ operation ∈ operations, operation.Plain)
    (same : replies memoryCall memory operations = replies sqliteCall sqlite operations) :
    Machine.Along sqliteStep Fits sqlite operations := by
  induction operations generalizing memory sqlite with
  | nil => trivial
  | cons operation rest ih =>
    obtain ⟨first, later⟩ := List.cons.inj same
    have room := fits_of_replies mirrors first
    have kept := (call_mirrors mirrors (plain operation List.mem_cons_self) room).2
    exact ⟨room, ih kept (fun other member => plain other (List.mem_cons_of_mem _ member)) later⟩

end Runs

section Sample

def waiting : Record := Dict.ofPairs [("task_type", .str "t"), ("job_id", .str "a")]

def waitingText : String := "\x7b\"task_type\": \"t\", \"job_id\": \"a\"\x7d"

/-- `dumps` and `loads` of the two records that the sample writes. -/
@[reducible] def sampleText : JsonText where
  dumps record :=
    if record = waiting then .ok waitingText else if record = Dict.empty then .ok "\x7b\x7d" else .error .valueError
  loads text :=
    if text = waitingText then .ok waiting else if text = "\x7b\x7d" then .ok Dict.empty else .error .valueError
  empty_back := ⟨"\x7b\x7d", by decide, by decide⟩

local instance : Python := Python.sample
local instance : JsonText := sampleText

theorem first_number : 1 ≤ 1 := le_refl 1

def dispatched : AttemptRecord where
  jobUid := ⟨"t::a", by simp⟩
  activationNo := ⟨1, first_number⟩
  attemptNo := ⟨1, first_number⟩
  executionId := ⟨"r.1", by simp⟩
  runId := ⟨"r", by simp⟩
  startedAt := ⟨"2024-01-01T00:00:00Z", by simp⟩
  outcome := .running

/-- A job that is enqueued, dispatched and done, and one that is seeded. -/
def sampleOperations : List Operation := [
  .enqueueJobs [waiting] false,
  .appendAttempt dispatched,
  .commitJobSuccess ⟨"t::a", Dict.empty, some 1, some "r.1", some "2024-01-01T00:00:01Z", [], Dict.empty⟩,
  .seedSuccesses ["t::b"]]

theorem normal_waiting : Normal waiting := ⟨waitingText, by decide, by decide⟩

theorem sampleOperations_plain : ∀ operation ∈ sampleOperations, operation.Plain := by
  simp only [sampleOperations, List.forall_mem_cons, Operation.Plain]
  have none {p : Record → Prop} : ∀ row ∈ [], p row := fun _ absent => absurd absent List.not_mem_nil
  exact ⟨⟨normal_waiting, none⟩, trivial, ⟨normal_empty, none⟩, trivial,
    fun _ absent => absurd absent List.not_mem_nil⟩

/-- A counter that the in-memory backend takes and no column holds. -/
def tooLarge : AttemptRecord := { dispatched with
  activationNo := ⟨9223372036854775808, Nat.le_add_left 1 9223372036854775807⟩ }

example : (memoryCall Memory.empty (.appendAttempt tooLarge)).2 = .count 1 := by decide

example : (sqliteCall Sqlite.empty (.appendAttempt tooLarge)).2 = .raised := by decide

end Sample

end Tasklite.Backend.Parity
