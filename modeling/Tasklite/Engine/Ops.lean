import Mathlib.Data.List.Sort
import Tasklite.Engine.Store

/-! The console for operators. Between runs it takes failures back, forgets what is
archived, and marks jobs as done; it changes the backend first and the memory after. -/

namespace Tasklite.Engine.OpsConsole
open Tasklite.Library Tasklite.Models Tasklite.Backend

section Texts

def startsWith (text beginning : String) : Bool := beginning.toList.isPrefixOf text.toList

/-- How often the separator occurs, from left to right and without overlaps. -/
def separators : List Char → ℕ
  | [] => 0
  | ':' :: ':' :: rest => separators rest + 1
  | _ :: rest => separators rest

/-- Sorted, each text once. -/
def sortedSet (texts : List String) : List String :=
  (Fresh.fresh id ∅ texts).insertionSort fun first second => first ≤ second

/-- A list of texts as it is printed. -/
def shown [Python] (texts : List String) : String := Python.repr (.arr (texts.map Json.str))

end Texts

def discardAllFailed (store : StateStore) (jobUids : List String) : StateStore :=
  store.mapState fun state => jobUids.foldl PipelineState.discardFailed state

/-- Delete failures of the given types, or of all; fatal ones are kept on demand. -/
def clearFailures (store : StateStore) (taskTypes : Option (List String)) (keepFatal : Bool) :
    StateStore × Except PyError ℕ :=
  if ∃ types ∈ taskTypes, "" ∈ types then
    (store, .error (.typeError "task_types must contain only non-empty str, got ''"))
  else
    let toDelete := (store.backend.failed.entries.filter fun entry =>
      (∀ types ∈ taskTypes, types.any fun taskType => startsWith entry.1 (taskType ++ "::")) ∧
        ¬ (keepFatal ∧ (Record.get entry.2 "is_fatal").truthy)).map Prod.fst
    if toDelete.isEmpty then (store, .ok 0)
    else
      let (backend, deleted) := store.backend.deleteFailed toDelete
      (discardAllFailed { store with backend := backend } toDelete, .ok deleted)

section Retry

variable [Python] (config : StoreConfig)

/-- The intake of jobs writes to the backend alone. -/
def enqueueJobs (store : StateStore) (jobs : List Job) (front : Bool) : StateStore :=
  store.enqueueElsewhere (jobs.map (store.normalizeSpawnedJob config)) front

/-- Move a failed job back to the queue, in a new activation and with the payload that was archived. -/
def retryFailure (store : StateStore) (jobUid : String) : StateStore × Except PyError Bool :=
  if store.backend.failed.contains jobUid then
    let (taskType, jobId) := StateStore.untilSeparator jobUid.toList
    let priorActivation := ((store.backend.loadAttempts jobUid).map fun record =>
      record.activationNo.val).foldl max 0
    let payload := (store.backend.failurePayloads.get? jobUid).getD Dict.empty
    match Job.fromDict (Dict.ofPairs [("task_type", .str (String.ofList taskType)),
        ("job_id", .str (String.ofList jobId)), ("payload", .obj payload.entries),
        ("activation_no", .int (priorActivation + 1))]) with
    | .error refusal => (store, .error refusal)
    | .ok job =>
        let enqueued := enqueueJobs config store [job] true
        (discardAllFailed { enqueued with backend := (enqueued.backend.deleteFailed [jobUid]).1 } [jobUid],
          .ok true)
  else (store, .error (.keyError ("job_uid " ++ Python.repr (.str jobUid) ++ " not in failure archive")))

end Retry

section History

variable [Python]

/-- A target is a uid, or the uids of a type; the predicate may spare some. -/
def matchesTarget (targets : List String) (predicate : Option (String → Bool)) (uid : String) : Bool :=
  (targets.any fun target => uid = target ∨ (("::".toList.isSuffixOf target.toList : Bool) ∧ startsWith uid target)) &&
    predicate.all fun spares => spares uid

omit [Python] in
/-- The first half of a clearing: the successes that match. -/
def clearSuccesses (store : StateStore) (matched : List String) : StateStore × ℕ :=
  if matched.isEmpty then (store, 0)
  else
    let (backend, deleted) := store.backend.deleteSuccesses matched
    (({ store with backend := backend }).mapState fun state =>
      matched.foldl PipelineState.discardSuccess state, deleted)

omit [Python] in
def clearFailed (store : StateStore) (matched : List String) : StateStore × ℕ :=
  if matched.isEmpty then (store, 0)
  else
    let (backend, deleted) := store.backend.deleteFailed matched
    (discardAllFailed { store with backend := backend } matched, deleted)

/-- Delete what is archived of some uids, from the successes, the failures or both. -/
def clearHistory (store : StateStore) (targets places : List String) (predicate : Option (String → Bool)) :
    StateStore × Except PyError ℕ :=
  let unknown := sortedSet (places.filter fun place => place ≠ "successes" ∧ place ≠ "failed")
  if unknown.isEmpty then
    let (forgotten, successes) :=
      if "successes" ∈ places then
        clearSuccesses store (store.backend.successes.keys.filter (matchesTarget targets predicate))
      else (store, 0)
    let (cleared, failed) :=
      if "failed" ∈ places then
        clearFailed forgotten (forgotten.backend.failed.keys.filter (matchesTarget targets predicate))
      else (forgotten, 0)
    (cleared, .ok (successes + failed))
  else (store, .error (.valueError ("where contains unknown target(s): " ++ shown unknown ++
    "; allowed: 'successes', 'failed'")))

/-- What is wrong with a uid that is to be marked as done. -/
def seedRefusal (jobUid : String) : Option PyError :=
  if separators jobUid.toList ≠ 1 then
    some (.valueError ("seed_successes job_uid must be 'task_type::job_id' str with exactly " ++
      "one '::' separator, got " ++ Python.repr (.str jobUid)))
  else if (StateStore.untilSeparator jobUid.toList).1 = [] ∨ (StateStore.untilSeparator jobUid.toList).2 = [] then
    some (.valueError ("seed_successes job_uid must have non-empty task_type and job_id, got " ++
      Python.repr (.str jobUid)))
  else none

/-- Mark jobs as done, with empty metadata. Jobs that have failed or are queued are refused, all at once. -/
def seedSuccesses (store : StateStore) (jobUids : List String) : StateStore × Except PyError ℕ :=
  match jobUids.findSome? seedRefusal with
  | some refusal => (store, .error refusal)
  | none =>
      let failed := sortedSet (jobUids.filter store.backend.failed.contains)
      let queued := sortedSet (jobUids.filter fun uid =>
        uid ∈ store.state.queueUids ∪ PipelineState.uidsOf store.backend.queue)
      if ¬ failed.isEmpty then (store, .error (.valueError
        ("seed_successes refuses uid(s) already in the failure archive: " ++ shown failed ++
          "; successes/failed must stay disjoint. Clear the failure entries first " ++
          "(clear_failures/clear_history) if archiving is intended.")))
      else if ¬ queued.isEmpty then (store, .error (.valueError
        ("seed_successes refuses uid(s) still resident in the queue: " ++ shown queued ++
          "; successes/queue must stay disjoint. Drain or clear the queue entries first " ++
          "if archiving is intended.")))
      else
        match store.backend.seedSuccesses jobUids with
        | (_, none) => (store, .error (.valueError "seed_successes refuses uid(s) already in failed"))
        | (backend, some written) =>
            (({ store with backend := backend }).mapState fun state =>
              jobUids.foldl (fun state uid => state.addSuccess uid Dict.empty) state, .ok written)

end History

end Tasklite.Engine.OpsConsole
