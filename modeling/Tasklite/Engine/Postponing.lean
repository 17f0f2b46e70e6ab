import Tasklite.Engine.Attempts
import Tasklite.Engine.Batches
import Tasklite.Engine.Mirror
import Tasklite.Engine.Scanning

/-! A postponed job is left alone. As long as the selection excludes its type, its row
stays as it is in the memory and on disk, and nothing is recorded about it, whatever
becomes of the other jobs and of the commits. -/

namespace Tasklite.Engine.Postponing
open Tasklite.Library Tasklite.Models Tasklite.Models.Identity Tasklite.Backend Tasklite.Engine.Custody
  Tasklite.Engine.Lifecycle Tasklite.Engine.Strikes Tasklite.Engine.Scanning PipelineState StateStore

section Theory

variable [Python] {config : StoreConfig} {uid : String} {row : Record} {start store : StateStore}

section Parts

variable {state : PipelineState} {backend : Memory} {rows : List Record}

/-- A change of the memory that leaves a uid alone. -/
structure Spares (uid : String) (before after : PipelineState) : Prop where
  rows : rowsOf uid after.queue = rowsOf uid before.queue
  indexed : uid ∈ before.queueUids → uid ∈ after.queueUids
  landed : uid ∉ before.inFlightUids → uid ∉ after.inFlightUids
  awake : uid ∉ before.triggerSkippedUids → uid ∉ after.triggerSkippedUids
  successes : after.successes.get? uid = before.successes.get? uid
  failed : after.failed.get? uid = before.failed.get? uid

theorem spares_refl (state : PipelineState) : Spares uid state state :=
  ⟨rfl, id, id, id, rfl, rfl⟩

theorem Spares.trans {between after : PipelineState} (first : Spares uid state between)
    (second : Spares uid between after) : Spares uid state after where
  rows := second.rows.trans first.rows
  indexed := second.indexed ∘ first.indexed
  landed := second.landed ∘ first.landed
  awake := second.awake ∘ first.awake
  successes := second.successes.trans first.successes
  failed := second.failed.trans first.failed

/-- Rows of other uids, in front or at the back. -/
theorem rowsOf_beside {others : List Record} (apart : uid ∉ uidsOf others) (front : Bool) :
    rowsOf uid (if front then others ++ rows else rows ++ others) = rowsOf uid rows := by
  have none : rowsOf uid others = [] := rowsOf_eq_nil.mpr apart
  unfold rowsOf at none ⊢
  split <;> simp [Fresh.having_append, none]

theorem spares_spawnJobs {others : List Record} (apart : uid ∉ uidsOf others) (front : Bool) :
    Spares uid state (state.spawnJobs others front) where
  rows := rowsOf_beside apart front
  indexed := fun present => Finset.mem_union_left _ present
  landed := id
  awake := fun outside member => outside (Finset.mem_sdiff.mp member).1
  successes := rfl
  failed := rfl

theorem rowsOf_without {dropped : Finset String} (kept : uid ∉ dropped) :
    rowsOf uid (Fresh.without jobUidFromSnapshot dropped rows) = rowsOf uid rows := by
  unfold rowsOf
  rw [Fresh.having_without, if_neg kept]

theorem spares_removeQueuedUid {jobUid : String} (other : jobUid ≠ uid) :
    Spares uid state (state.removeQueuedUid jobUid) := by
  unfold removeQueuedUid
  split
  · exact spares_refl state
  · exact ⟨rowsOf_without (by simpa using Ne.symm other), fun present => Finset.mem_erase.mpr ⟨Ne.symm other, present⟩,
      id, id, rfl, rfl⟩

theorem spares_replaceQueue (same : rowsOf uid rows = rowsOf uid state.queue) (some : rowsOf uid rows ≠ []) :
    Spares uid state (state.replaceQueue rows) where
  rows := same
  indexed := fun _ => by
    by_contra absent
    exact some (rowsOf_eq_nil.mpr absent)
  landed := id
  awake := fun outside member => outside (Finset.mem_sdiff.mp member).1
  successes := rfl
  failed := rfl

theorem spares_registerInFlight {jobUid : String} (other : jobUid ≠ uid) :
    Spares uid state (state.registerInFlight jobUid) where
  rows := rfl
  indexed := id
  landed := fun landed member => (Finset.mem_insert.mp member).elim (Ne.symm other) landed
  awake := id
  successes := rfl
  failed := rfl

theorem spares_unregisterInFlight (jobUid : String) : Spares uid state (state.unregisterInFlight jobUid) where
  rows := rfl
  indexed := id
  landed := fun landed member => landed (Finset.mem_of_mem_erase member)
  awake := id
  successes := rfl
  failed := rfl

theorem spares_markSuccess {jobUid : String} (other : jobUid ≠ uid) (metadata : Record) :
    Spares uid state (state.markSuccess jobUid metadata) where
  rows := rfl
  indexed := id
  landed := id
  awake := fun outside member => outside (Finset.mem_of_mem_erase member)
  successes := Dict.get?_set_of_ne _ _ (Ne.symm other)
  failed := by
    show (state.failed.erase jobUid).get? uid = _
    rw [Dict.get?_erase, if_neg (Ne.symm other)]

theorem spares_markFailed {jobUid : String} (other : jobUid ≠ uid) (metadata : Record) :
    Spares uid state (state.markFailed jobUid metadata) where
  rows := rfl
  indexed := id
  landed := id
  awake := fun outside member => outside (Finset.mem_of_mem_erase member)
  successes := by
    show (state.successes.erase jobUid).get? uid = _
    rw [Dict.get?_erase, if_neg (Ne.symm other)]
  failed := Dict.get?_set_of_ne _ _ (Ne.symm other)

theorem spares_updateCursors (updates : List (String × Option String)) :
    Spares uid state (state.updateCursors updates) := ⟨rfl, id, id, id, rfl, rfl⟩

theorem spares_markTriggerSkipped {jobUid : String} (other : jobUid ≠ uid) :
    Spares uid state (state.markTriggerSkipped jobUid) where
  rows := rfl
  indexed := id
  landed := id
  awake := fun outside member => (Finset.mem_insert.mp member).elim (Ne.symm other) outside
  successes := rfl
  failed := rfl

/-- A change of the backend that leaves a uid alone. -/
structure SparesDisk (uid : String) (before after : Memory) : Prop where
  rows : rowsOf uid after.queue = rowsOf uid before.queue
  attempts : (after.loadAttempts uid).length ≤ (before.loadAttempts uid).length
  successes : after.successes.get? uid = before.successes.get? uid
  failed : after.failed.get? uid = before.failed.get? uid

theorem sparesDisk_refl (backend : Memory) : SparesDisk uid backend backend :=
  ⟨rfl, le_rfl, rfl, rfl⟩

theorem SparesDisk.trans {between after : Memory} (first : SparesDisk uid backend between)
    (second : SparesDisk uid between after) : SparesDisk uid backend after where
  rows := second.rows.trans first.rows
  attempts := second.attempts.trans first.attempts
  successes := second.successes.trans first.successes
  failed := second.failed.trans first.failed

omit [Python] in
/-- Writing an attempt adds none to a job, unless it is one of the job's and has a new id. -/
theorem count_place (key : Int) (record : AttemptRecord) {entries : List (Int × AttemptRecord)}
    (own : record.jobUid.val = uid → ∃ previous, Dict.find key entries = some previous ∧ previous.jobUid.val = uid) :
    (((Dict.place key record entries).map Prod.snd).filter fun other => other.jobUid.val = uid).length ≤
      ((entries.map Prod.snd).filter fun other => other.jobUid.val = uid).length := by
  induction entries with
  | nil =>
    have foreign : record.jobUid.val ≠ uid := by
      intro same
      obtain ⟨previous, found, -⟩ := own same
      cases found
    simp [Dict.place, foreign]
  | cons entry rest ih =>
    rcases entry with ⟨other, previous⟩
    by_cases same : key = other
    · rw [Dict.place, if_pos same]
      rw [Dict.find, if_pos same] at own
      by_cases mine : record.jobUid.val = uid
      · obtain ⟨_, found, theirs⟩ := own mine
        cases found
        simp [mine, theirs]
      · simp only [List.map_cons, List.filter_cons, mine, decide_false, Bool.false_eq_true, if_false]
        split
        · exact Nat.le_succ _
        · exact le_rfl
    · rw [Dict.place, if_neg same]
      rw [Dict.find, if_neg same] at own
      have later := ih own
      simp only [List.map_cons, List.filter_cons]
      split
      · exact Nat.succ_le_succ later
      · exact later

omit [Python] in
theorem loadAttempts_set (key : Int) (record : AttemptRecord)
    (own : record.jobUid.val = uid → ∃ previous, backend.attempts.get? key = some previous ∧
      previous.jobUid.val = uid) :
    ({ backend with attempts := backend.attempts.set key record }.loadAttempts uid).length ≤
      (backend.loadAttempts uid).length :=
  count_place key record own

theorem sparesDisk_updateAttempt (attemptId : Int) (outcome : Outcome) (finishedAt : String)
    (errorMessage : Option String) :
    SparesDisk uid backend (backend.updateAttempt attemptId outcome finishedAt errorMessage).1 := by
  unfold Memory.updateAttempt
  split
  · exact sparesDisk_refl backend
  · split
    · exact sparesDisk_refl backend
    · rename_i record found
      split
      · exact sparesDisk_refl backend
      · exact ⟨rfl, loadAttempts_set attemptId _ fun own => ⟨record, found, own⟩, rfl, rfl⟩

theorem sparesDisk_appendAttempt {record : AttemptRecord} (other : record.jobUid.val ≠ uid) :
    SparesDisk uid backend (backend.appendAttempt record).1 := by
  unfold Memory.appendAttempt
  split
  · exact ⟨rfl, loadAttempts_set _ _ fun own => absurd own other, rfl, rfl⟩
  · exact sparesDisk_refl backend

theorem sparesDisk_enqueueJobs (snapshots : List Record) (front : Bool) (present : uid ∈ uidsOf backend.queue) :
    SparesDisk uid backend (backend.enqueueJobs snapshots front).1 where
  rows := rowsOf_beside (by
    intro inserted
    obtain ⟨other, fresh, same⟩ := Fresh.mem_keys.mp inserted
    exact Fresh.key_notMem_of_mem_fresh fresh (same ▸ present)) front
  attempts := le_rfl
  successes := rfl
  failed := rfl

theorem rowsOf_remaining {jobUid : String} (other : jobUid ≠ uid) :
    rowsOf uid (backend.remaining jobUid) = rowsOf uid backend.queue :=
  rowsOf_without (by simpa using Ne.symm other)

theorem sparesDisk_commitJobFailure {jobUid : String} (other : jobUid ≠ uid) (metadata : Record)
    (payload : Option Record) :
    SparesDisk uid backend (backend.commitJobFailure jobUid metadata payload).1 where
  rows := rowsOf_remaining other
  attempts := le_rfl
  successes := by
    show (backend.successes.erase jobUid).get? uid = _
    rw [Dict.get?_erase, if_neg (Ne.symm other)]
  failed := Dict.get?_set_of_ne _ _ (Ne.symm other)

theorem sparesDisk_commitSkip {jobUid : String} (other : jobUid ≠ uid) :
    SparesDisk uid backend (backend.commitSkip jobUid).1 :=
  ⟨rowsOf_remaining other, le_rfl, rfl, rfl⟩

theorem sparesDisk_commitRetry {jobUid : String} {requeued : Record} (other : jobUid ≠ uid)
    (apart : jobUidFromSnapshot requeued ≠ uid) (front : Bool) :
    SparesDisk uid backend (backend.commitRetry jobUid requeued front).1 := by
  unfold Memory.commitRetry
  dsimp only
  split
  · exact sparesDisk_refl backend
  · refine ⟨?_, le_rfl, rfl, rfl⟩
    have outside : uid ∉ uidsOf [requeued] := by simpa [uidsOf] using Ne.symm apart
    exact (rowsOf_beside outside front).trans (rowsOf_remaining other)

theorem sparesDisk_commitJobFailures {metas : List (String × Record)} (others : uid ∉ metas.map Prod.fst) :
    SparesDisk uid backend (backend.commitJobFailures metas).1 where
  rows := rowsOf_without (by simpa using others)
  attempts := le_rfl
  successes := by
    show (metas.foldl (fun successes entry => successes.erase entry.1) backend.successes).get? uid = _
    generalize backend.successes = successes
    induction metas generalizing successes with
    | nil => rfl
    | cons entry rest ih =>
      rw [List.map_cons, List.mem_cons, not_or] at others
      rw [List.foldl_cons, ih others.2, Dict.get?_erase, if_neg others.1]
  failed := by
    show (metas.foldl (fun failed entry => failed.set entry.1 entry.2) backend.failed).get? uid = _
    generalize backend.failed = failed
    induction metas generalizing failed with
    | nil => rfl
    | cons entry rest ih =>
      rw [List.map_cons, List.mem_cons, not_or] at others
      rw [List.foldl_cons, ih others.2, Dict.get?_set_of_ne _ _ others.1]

/-- A success spawns no row of a uid that is queued. -/
theorem sparesDisk_commitJobSuccess {success : Memory.Success} (other : success.jobUid ≠ uid)
    (present : uid ∈ uidsOf backend.queue) : SparesDisk uid backend (backend.commitJobSuccess success).1 := by
  unfold Memory.commitJobSuccess
  split
  · rename_i id record ending running finished
    split
    · exact sparesDisk_refl backend
    · rename_i unopposed
      have kept := @rowsOf_remaining _ uid backend success.jobUid other
      have apart : uid ∉ uidsOf success.spawned := by
        intro spawned
        obtain ⟨child, listed, same⟩ := Fresh.mem_keys.mp spawned
        have fresh : Fresh.fresh jobUidFromSnapshot
            (Fresh.keys jobUidFromSnapshot (backend.remaining success.jobUid)) success.spawned =
            success.spawned := by simpa [Memory.spawnConflict] using unopposed
        rw [← fresh] at listed
        have absent := Fresh.key_notMem_of_mem_fresh listed
        rw [same] at absent
        have none : rowsOf uid (backend.remaining success.jobUid) = [] := rowsOf_eq_nil.mpr absent
        rw [kept] at none
        exact rowsOf_eq_nil.mp none present
      obtain ⟨found, belongs⟩ : backend.attempts.get? id = some record ∧ record.jobUid.val = success.jobUid := by
        unfold Memory.runningAttempt at running
        split at running
        · cases running
        · split at running
          · cases running
          · rename_i stored
            split at running
            · cases running
            · rename_i accepted
              cases running
              push Not at accepted
              exact ⟨stored, accepted.2.1⟩
      refine ⟨(rowsOf_beside apart true).trans kept, ?_, ?_, ?_⟩
      · exact loadAttempts_set id _ fun own => absurd (belongs.symm.trans own) other
      · exact Dict.get?_set_of_ne _ _ (Ne.symm other)
      · show (backend.failed.erase success.jobUid).get? uid = _
        rw [Dict.get?_erase, if_neg (Ne.symm other)]
  · exact sparesDisk_refl backend

end Parts

section Store

variable {after : StateStore}

/-- What is recorded of the successes of a job, in the memory or on disk. -/
def successRecords (uid : String) (store : StateStore) : Set Record :=
  {metadata | store.state.successes.get? uid = some metadata ∨ store.backend.successes.get? uid = some metadata}

/-- What is recorded of the failures of a job. -/
def failureRecords (uid : String) (store : StateStore) : Set Record :=
  {metadata | store.state.failed.get? uid = some metadata ∨ store.backend.failed.get? uid = some metadata}

/-- The event takes a job out of the queue or replaces its row. -/
def Ends (uid : String) : Event → Prop
  | .enqueued _ => False
  | .succeeded jobUid _ | .retried jobUid | .skipped jobUid => jobUid = uid
  | .failed jobUids => uid ∈ jobUids

/-- A job that nothing has happened to since the start: its row stands alone in the memory and on disk, it
is not under way, and nothing has been recorded of it. -/
structure Untouched (uid : String) (row : Record) (start store : StateStore) : Prop where
  memory : rowsOf uid store.state.queue = [row]
  disk : rowsOf uid store.backend.queue = [row]
  indexed : uid ∈ store.state.queueUids
  landed : uid ∉ store.state.inFlightUids
  awake : uid ∉ store.state.triggerSkippedUids
  attempts : (store.backend.loadAttempts uid).length ≤ (start.backend.loadAttempts uid).length
  successes : successRecords uid store ⊆ successRecords uid start
  failures : failureRecords uid store ⊆ failureRecords uid start
  events : ∃ news, store.events = start.events ++ news ∧ ∀ event ∈ news, ¬ Ends uid event

theorem Untouched.onDisk (untouched : Untouched uid row start store) : uid ∈ uidsOf store.backend.queue := by
  by_contra absent
  have none : rowsOf uid store.backend.queue = [] := rowsOf_eq_nil.mpr absent
  rw [untouched.disk] at none
  cases none

theorem Untouched.queued (untouched : Untouched uid row start store) : row ∈ store.state.queue := by
  have member : row ∈ rowsOf uid store.state.queue := by
    rw [untouched.memory]
    exact List.mem_singleton_self row
  exact (List.mem_filter.mp member).1

/-- A job that is left alone by a change of the memory and of the backend stays untouched. -/
theorem Untouched.spared (untouched : Untouched uid row start store)
    (state : Spares uid store.state after.state) (backend : SparesDisk uid store.backend after.backend)
    (events : ∃ news, after.events = store.events ++ news ∧ ∀ event ∈ news, ¬ Ends uid event) :
    Untouched uid row start after where
  memory := state.rows.trans untouched.memory
  disk := backend.rows.trans untouched.disk
  indexed := state.indexed untouched.indexed
  landed := state.landed untouched.landed
  awake := state.awake untouched.awake
  attempts := backend.attempts.trans untouched.attempts
  successes := by
    intro metadata recorded
    apply untouched.successes
    simp only [successRecords, Set.mem_ofPred_eq, state.successes, backend.successes] at recorded ⊢
    exact recorded
  failures := by
    intro metadata recorded
    apply untouched.failures
    simp only [failureRecords, Set.mem_ofPred_eq, state.failed, backend.failed] at recorded ⊢
    exact recorded
  events := by
    obtain ⟨news, told, quiet⟩ := untouched.events
    obtain ⟨more, later, silent⟩ := events
    refine ⟨news ++ more, by rw [later, told, List.append_assoc], fun event member => ?_⟩
    rcases List.mem_append.mp member with old | new
    · exact quiet event old
    · exact silent event new

theorem Untouched.mapState (untouched : Untouched uid row start store) {change : PipelineState → PipelineState}
    (spares : Spares uid store.state (change store.state)) : Untouched uid row start (store.mapState change) :=
  untouched.spared spares (sparesDisk_refl _) ⟨[], by simp [StateStore.mapState], by simp⟩

theorem Untouched.onBackend (untouched : Untouched uid row start store) {backend : Memory}
    (spares : SparesDisk uid store.backend backend) : Untouched uid row start { store with backend := backend } :=
  untouched.spared (spares_refl _) spares ⟨[], by simp, by simp⟩

theorem Untouched.recordStat (untouched : Untouched uid row start store) (key : StatKey) (amount : ℕ) :
    Untouched uid row start (store.recordStat key amount) :=
  untouched.spared (spares_refl _) (sparesDisk_refl _) ⟨[], by simp [StateStore.recordStat], by simp⟩

theorem Untouched.fireAttemptFinished (untouched : Untouched uid row start store) (jobUid : String)
    (outcome : AttemptOutcome) : Untouched uid row start (store.fireAttemptFinished jobUid outcome) := by
  unfold StateStore.fireAttemptFinished
  dsimp only
  split <;> exact untouched.spared (spares_refl _) (sparesDisk_refl _) ⟨[], by simp [StateStore.recordStat], by simp⟩

theorem Untouched.noteCall (untouched : Untouched uid row start store) (call : TraceCall) :
    Untouched uid row start (store.noteCall call) :=
  untouched.spared (spares_refl _) (sparesDisk_refl _) ⟨[], by simp [StateStore.noteCall], by simp⟩

theorem Untouched.finishAttempt (untouched : Untouched uid row start store) (attemptId : Option Int)
    (outcome : Outcome) (errorMessage : Option Json) :
    Untouched uid row start (store.finishAttempt attemptId outcome errorMessage) := by
  unfold StateStore.finishAttempt
  cases attemptId with
  | none => exact untouched
  | some id =>
    dsimp only
    split
    · exact (untouched.noteCall _).onBackend (sparesDisk_updateAttempt _ _ _ _)
    · exact (untouched.noteCall _).onBackend (sparesDisk_updateAttempt _ _ _ _)
    · exact (untouched.noteCall _).onBackend (sparesDisk_updateAttempt _ _ _ _)
    · exact untouched.noteCall _

theorem Untouched.enqueueElsewhere (untouched : Untouched uid row start store) (snapshots : List Record)
    (front : Bool) : Untouched uid row start (store.enqueueElsewhere snapshots front) :=
  untouched.spared (spares_refl _) (sparesDisk_enqueueJobs snapshots front untouched.onDisk)
    ⟨[.enqueued (store.backend.enqueueJobs snapshots front).2], rfl, by simp [Ends]⟩

theorem untouched_enqueued (batches : List (List Record × Bool)) (untouched : Untouched uid row start store) :
    Untouched uid row start (batches.foldl (fun store batch => store.enqueueElsewhere batch.1 batch.2) store) := by
  induction batches generalizing store with
  | nil => exact untouched
  | cons batch rest ih => exact ih (untouched.enqueueElsewhere batch.1 batch.2)

/-- A commit about other jobs. -/
theorem Untouched.commit (untouched : Untouched uid row start store) {event : Event}
    {transaction : Memory → Memory × Bool} (quiet : ¬ Ends uid event)
    (spares : ∀ backend, uid ∈ uidsOf backend.queue → SparesDisk uid backend (transaction backend).1) :
    Untouched uid row start (store.commit event transaction).1 := by
  have waiting : Untouched uid row start { store with answers := store.answers.tail } :=
    untouched.spared (spares_refl _) (sparesDisk_refl _) ⟨[], by simp, by simp⟩
  have asked := untouched_enqueued (store.answers.headD {}).enqueued waiting
  unfold StateStore.commit
  dsimp only
  split
  · split
    · rename_i backend ran
      have spared := spares _ asked.onDisk
      rw [ran] at spared
      exact asked.spared (spares_refl _) spared ⟨[event], rfl, by simpa using quiet⟩
    · exact asked
  · exact asked

end Store

section Transitions

variable {jobUid : String} {snapshot : Record}

/-- No row without a name has this uid. -/
def Plain (uid : String) : Prop := ∀ digest, uid ≠ "_unknown::" ++ digest

/-- A uid that no unnamed row has is not taken over by a row that is counted. -/
theorem uid_registered_ne (plain : Plain uid) (apart : jobUidFromSnapshot snapshot ≠ uid) :
    jobUidFromSnapshot (registerCommitFailure snapshot) ≠ uid := by
  by_cases identified : Identified snapshot
  · rw [(uid_registerCommitFailure identified).2]
    exact apart
  · have unnamed : ¬ Identified (registerCommitFailure snapshot) := by
      unfold Identified registerCommitFailure at *
      dsimp only
      rwa [Record.get_set_of_ne _ _ (by decide), Record.get_set_of_ne _ _ (by decide)]
    unfold jobUidFromSnapshot
    split
    · exact absurd ‹_› unnamed
    · split
      · rename_i parsed
        exact absurd (identified_of_fromDict parsed) unnamed
      · exact Ne.symm (plain _)

theorem Untouched.markFailedMemory (untouched : Untouched uid row start store) (other : jobUid ≠ uid)
    (metadata : Record) (unregister : Bool) :
    Untouched uid row start (store.markFailedMemory config jobUid metadata unregister) := by
  have marked : Untouched uid row start (store.mapState fun state =>
      state.markFailed jobUid (store.normalize config metadata)) := untouched.mapState (spares_markFailed other _)
  unfold StateStore.markFailedMemory
  dsimp only
  split
  · exact marked.mapState (spares_unregisterInFlight _)
  · exact marked

theorem Untouched.requeue (untouched : Untouched uid row start store) (apart : jobUidFromSnapshot snapshot ≠ uid)
    (front : Bool) :
    Untouched uid row start (store.mapState fun state => state.requeueJobs [snapshot] front) := by
  apply untouched.mapState
  apply spares_spawnJobs
  simpa [uidsOf] using Ne.symm apart

theorem Untouched.requeueTransient (untouched : Untouched uid row start store)
    (apart : jobUidFromSnapshot snapshot ≠ uid) (transientKind : String) (attemptId : Option Int)
    (errorMessage : Option Json) :
    Untouched uid row start (store.requeueTransient config snapshot transientKind attemptId errorMessage) := by
  have requeued := untouched.requeue apart (config.planRequeue snapshot (some transientKind))
  unfold StateStore.requeueTransient
  dsimp only
  split
  · exact requeued.finishAttempt _ _ _
  · exact (requeued.recordStat _ _).finishAttempt _ _ _

theorem Untouched.requeueAndCrash (untouched : Untouched uid row start store) {given : Option Record}
    (apart : ∀ snapshot ∈ given, jobUidFromSnapshot snapshot ≠ uid) (reason : String) (attemptId : Option Int) :
    Untouched uid row start (store.requeueAndCrash jobUid given reason attemptId).1 := by
  have unregistered : Untouched uid row start (store.mapState fun state => state.unregisterInFlight jobUid) :=
    untouched.mapState (spares_unregisterInFlight _)
  unfold StateStore.requeueAndCrash
  dsimp only
  cases given with
  | none => exact unregistered.finishAttempt _ _ _
  | some snapshot => exact (unregistered.requeue (apart snapshot rfl) true).finishAttempt _ _ _

theorem Untouched.commitFailure (untouched : Untouched uid row start store) (other : jobUid ≠ uid)
    (metadata : Record) (payload : Option Record) :
    Untouched uid row start (store.commit (.failed [jobUid]) fun backend =>
      backend.commitJobFailure jobUid metadata payload).1 :=
  untouched.commit (by simpa [Ends] using Ne.symm other) fun _ _ => sparesDisk_commitJobFailure other metadata payload

theorem Untouched.handleCommitFailureStrike (untouched : Untouched uid row start store) (plain : Plain uid)
    (other : jobUid ≠ uid) (apart : jobUidFromSnapshot snapshot ≠ uid) (reason : String)
    (attemptId : Option Int) :
    Untouched uid row start
      (store.handleCommitFailureStrike config jobUid reason (some snapshot) attemptId).1 := by
  have counted : ∀ struck ∈ some (registerCommitFailure snapshot), jobUidFromSnapshot struck ≠ uid := by
    intro struck same
    cases same
    exact uid_registered_ne plain apart
  unfold StateStore.handleCommitFailureStrike
  dsimp only [Option.getD_some]
  split
  · have committed := untouched.commitFailure other (strikeMetadata (commitFailures snapshot + 1))
      (extractJobPayload (registerCommitFailure snapshot))
    split
    · rename_i archived answer
      rw [answer] at committed
      exact (((committed.markFailedMemory other _ true).recordStat _ _).finishAttempt _ _ _).fireAttemptFinished _ _
    · rename_i refused answer
      rw [answer] at committed
      exact committed.requeueAndCrash counted reason attemptId
  · exact untouched.requeueAndCrash counted reason attemptId

section Bulk

variable {rows : List Record}

theorem rowsOf_counted (plain : Plain uid) (other : jobUid ≠ uid) :
    rowsOf uid (modifyFirst jobUid registerCommitFailure rows) = rowsOf uid rows := by
  induction rows with
  | nil => rfl
  | cons first rest ih =>
    unfold modifyFirst
    split
    · rename_i same
      have apart : jobUidFromSnapshot first ≠ uid := same ▸ other
      unfold rowsOf
      rw [Fresh.having_cons_of_ne (uid_registered_ne plain apart), Fresh.having_cons_of_ne apart]
    · unfold rowsOf at ih ⊢
      by_cases own : jobUidFromSnapshot first = uid
      · subst own
        rw [Fresh.having_cons_self, Fresh.having_cons_self, ih]
      · rw [Fresh.having_cons_of_ne own, Fresh.having_cons_of_ne own, ih]

theorem Untouched.bulkStrikeFinalize (untouched : Untouched uid row start store) (other : jobUid ≠ uid)
    (failures : Int) : Untouched uid row start (store.bulkStrikeFinalize config jobUid snapshot failures).1 := by
  have committed := untouched.commitFailure other (strikeMetadata failures) (extractJobPayload snapshot)
  unfold StateStore.bulkStrikeFinalize
  split
  · rename_i refused answer
    rw [answer] at committed
    exact committed
  · rename_i archived answer
    rw [answer] at committed
    exact ((committed.markFailedMemory other _ false).recordStat _ _).fireAttemptFinished _ _

theorem Untouched.handleBulkFailureStrike (untouched : Untouched uid row start store) (plain : Plain uid)
    {uids : List String} (others : uid ∉ uids) (kept : Bool) (present : rowsOf uid rows = [row]) :
    Untouched uid row start (handleBulkFailureStrike config uids store rows kept).1 ∧
      rowsOf uid (StateStore.handleBulkFailureStrike config uids store rows kept).2.1 = [row] := by
  induction uids generalizing store rows kept with
  | nil => exact ⟨untouched, present⟩
  | cons jobUid rest ih =>
    rw [List.mem_cons, not_or] at others
    have counted : rowsOf uid (modifyFirst jobUid registerCommitFailure rows) = [row] :=
      (rowsOf_counted plain (Ne.symm others.1)).trans present
    simp only [StateStore.handleBulkFailureStrike]
    split
    · have finalized := @Untouched.bulkStrikeFinalize _ config uid row start store jobUid
        (registerCommitFailure ((rows.find? fun row => jobUidFromSnapshot row = jobUid).getD
          (syntheticSnapshot jobUid))) untouched (Ne.symm others.1)
        (commitFailures ((rows.find? fun row => jobUidFromSnapshot row = jobUid).getD
          (syntheticSnapshot jobUid)) + 1)
      split
      · rename_i archived answer
        rw [answer] at finalized
        exact ih finalized others.2 kept ((rowsOf_without (by simpa using others.1)).trans counted)
      · rename_i refused answer
        rw [answer] at finalized
        exact ih finalized others.2 true counted
    · exact ih untouched others.2 true counted

theorem Untouched.markEach (untouched : Untouched uid row start store)
    {mark : StateStore → String → Record → StateStore} {metas : List (String × Record)}
    (marks : ∀ store jobUid metadata, jobUid ≠ uid → Untouched uid row start store →
      Untouched uid row start (mark store jobUid metadata))
    (others : uid ∉ metas.map Prod.fst) : Untouched uid row start (StateStore.markEach mark metas store) := by
  induction metas generalizing store with
  | nil => exact untouched
  | cons entry rest ih =>
    rw [List.map_cons, List.mem_cons, not_or] at others
    exact ih ((marks store entry.1 entry.2 (Ne.symm others.1) untouched).fireAttemptFinished _ _) others.2

/-- A batch of failures of other jobs. -/
theorem Untouched.settleBatch (untouched : Untouched uid row start store) (plain : Plain uid)
    {mark : StateStore → String → Record → StateStore} {statKey : StatKey} {crashMessage : ℕ → ℕ → String}
    {metas : List (String × Record)}
    (marks : ∀ store jobUid metadata, jobUid ≠ uid → Untouched uid row start store →
      Untouched uid row start (mark store jobUid metadata))
    (others : uid ∉ metas.map Prod.fst) :
    Untouched uid row start (StateStore.settleBatch config mark statKey crashMessage metas store).1 := by
  have committed : Untouched uid row start (store.commit (.failed (metas.map Prod.fst)) fun backend =>
      backend.commitJobFailures metas).1 :=
    untouched.commit (by simpa [Ends] using others) fun _ _ => sparesDisk_commitJobFailures others
  unfold StateStore.settleBatch
  dsimp only
  split
  · rename_i archived answer
    rw [answer] at committed
    have kept : rowsOf uid (Fresh.without jobUidFromSnapshot (metas.map Prod.fst).toFinset archived.state.queue) =
        rowsOf uid archived.state.queue := rowsOf_without (by simpa using others)
    have removed : Untouched uid row start (archived.mapState fun state => state.replaceQueue
        (Fresh.without jobUidFromSnapshot (metas.map Prod.fst).toFinset state.queue)) :=
      committed.mapState (spares_replaceQueue kept (by simp [kept, committed.memory]))
    exact (removed.recordStat _ _).markEach marks others
  · rename_i refused answer
    rw [answer] at committed
    have struck := @Untouched.handleBulkFailureStrike _ config uid row start refused refused.state.queue committed
      plain _ others false committed.memory
    rcases loop : StateStore.handleBulkFailureStrike config (metas.map Prod.fst) refused refused.state.queue false
      with ⟨finish, left, kept⟩
    rw [loop] at struck
    have replaced : Untouched uid row start (finish.mapState fun state => state.replaceQueue left) :=
      struck.1.mapState (spares_replaceQueue (struck.2.trans struck.1.memory.symm) (by simp [struck.2]))
    dsimp only
    split <;> exact replaced

end Bulk

/-- The row parses to a job of this uid whose type the selection excludes. -/
def Postponed (config : StoreConfig) (uid : String) (row : Record) : Prop :=
  ∃ job, Job.fromDict row = .ok job ∧ job.uid = uid ∧ config.selection.isActive = true ∧
    config.selection.allowsTaskType job.taskType.val = false

theorem Untouched.excluded (untouched : Untouched uid row start store) (postponed : Postponed config uid row) :
    uid ∈ store.selectionExcludedUids config := by
  obtain ⟨job, parsed, same, active, barred⟩ := postponed
  have queued : job ∈ store.state.queuedJobs := by
    rw [queuedJobs, List.mem_filterMap]
    exact ⟨row, untouched.queued, by simp [parsed, Except.toOption]⟩
  unfold selectionExcludedUids
  rw [if_pos active, List.mem_toFinset, List.mem_map]
  exact ⟨job, List.mem_filter.mpr ⟨queued, by simp [barred]⟩, same⟩

section Apply

variable (plain : Plain uid) (postponed : Postponed config uid row)

include plain postponed

theorem Untouched.applyBulkFailure (untouched : Untouched uid row start store) (uidsMetas : List (String × Record)) :
    Untouched uid row start (store.applyBulkFailure config uidsMetas).1 := by
  have excluded := untouched.excluded postponed
  unfold StateStore.applyBulkFailure
  dsimp only
  split
  · exact untouched
  · apply untouched.settleBatch plain
    · intro store jobUid metadata other untouched
      have marked : Untouched uid row start (store.mapState fun state => state.markFailed jobUid metadata) :=
        untouched.mapState (spares_markFailed other _)
      exact marked.mapState (spares_unregisterInFlight _)
    · intro member
      rw [List.map_map] at member
      obtain ⟨entry, kept, same⟩ := List.mem_map.mp member
      have allowed : entry.1 ∉ store.selectionExcludedUids config := by simpa using (List.mem_filter.mp kept).2
      rw [show entry.1 = uid from same] at allowed
      exact allowed excluded

theorem Untouched.cascadeFail (untouched : Untouched uid row start store) (failedUid : String) :
    Untouched uid row start (store.cascadeFail config failedUid).1 := by
  have excluded := untouched.excluded postponed
  unfold StateStore.cascadeFail
  dsimp only
  split
  · exact untouched
  · apply untouched.settleBatch plain
    · exact fun store jobUid metadata other untouched => untouched.markFailedMemory other metadata true
    · intro member
      rw [List.map_map] at member
      obtain ⟨listed, kept, same⟩ := List.mem_map.mp member
      have allowed : listed ∉ store.selectionExcludedUids config := by simpa using (List.mem_filter.mp kept).2
      rw [show listed = uid from same] at allowed
      exact allowed excluded

theorem Untouched.applyFailure (untouched : Untouched uid row start store) (other : jobUid ≠ uid)
    (apart : jobUidFromSnapshot snapshot ≠ uid) (metadata : Record) (countAs : StatKey) (attemptId : Option Int) :
    Untouched uid row start (store.applyFailure config jobUid metadata snapshot countAs attemptId).1 := by
  have committed := untouched.commitFailure other (store.normalize config metadata) (extractJobPayload snapshot)
  unfold StateStore.applyFailure
  dsimp only
  split
  · rename_i archived answer
    rw [answer] at committed
    have marked : Untouched uid row start (((archived.markFailedMemory config jobUid
        (store.normalize config metadata) true).recordStat countAs 1).finishAttempt attemptId .failed
          (attemptError (store.normalize config metadata))) :=
      ((committed.markFailedMemory other _ true).recordStat _ _).finishAttempt _ _ _
    have cascaded := Untouched.cascadeFail plain postponed marked jobUid
    split
    · rename_i raised signal outcome
      rw [outcome] at cascaded
      exact cascaded
    · rename_i finish failed outcome
      rw [outcome] at cascaded
      exact cascaded
  · rename_i refused answer
    rw [answer] at committed
    exact committed.handleCommitFailureStrike plain other apart _ attemptId

omit postponed in
theorem Untouched.applyRetry (untouched : Untouched uid row start store) (other : jobUid ≠ uid)
    (apart : jobUidFromSnapshot snapshot ≠ uid) {retrySnapshot : Record}
    (away : jobUidFromSnapshot retrySnapshot ≠ uid) (transientKind : Option String) (attemptId : Option Int)
    (errorMessage : Option Json) :
    Untouched uid row start
      (store.applyRetry config jobUid snapshot retrySnapshot transientKind attemptId errorMessage).1 := by
  have committed : Untouched uid row start (store.commit (.retried jobUid) fun backend =>
      backend.commitRetry jobUid retrySnapshot (config.planRequeue retrySnapshot transientKind)).1 :=
    untouched.commit other fun _ _ => sparesDisk_commitRetry other away _
  unfold StateStore.applyRetry
  dsimp only
  split
  · rename_i retried answer
    rw [answer] at committed
    have unregistered : Untouched uid row start (retried.mapState fun state => state.unregisterInFlight jobUid) :=
      committed.mapState (spares_unregisterInFlight _)
    have requeued := (unregistered.requeue away (config.planRequeue retrySnapshot transientKind)).recordStat
      .retried 1
    split
    · exact requeued.finishAttempt _ _ _
    · exact (requeued.recordStat _ _).finishAttempt _ _ _
  · rename_i refused answer
    rw [answer] at committed
    exact committed.handleCommitFailureStrike plain other apart _ attemptId

omit plain postponed in
theorem Untouched.applySkip (untouched : Untouched uid row start store) (other : jobUid ≠ uid)
    {given : Option Record} (apart : ∀ snapshot ∈ given, jobUidFromSnapshot snapshot ≠ uid)
    (attemptId : Option Int) : Untouched uid row start (store.applySkip jobUid given attemptId).1 := by
  have committed : Untouched uid row start (store.commit (.skipped jobUid) fun backend =>
      backend.commitSkip jobUid).1 := untouched.commit other fun _ _ => sparesDisk_commitSkip other
  unfold StateStore.applySkip
  split
  · rename_i skipped answer
    rw [answer] at committed
    have removed : Untouched uid row start (skipped.mapState fun state => state.removeQueuedUid jobUid) :=
      committed.mapState (spares_removeQueuedUid other)
    have unregistered : Untouched uid row start ((skipped.mapState fun state =>
        state.removeQueuedUid jobUid).mapState fun state => state.unregisterInFlight jobUid) :=
      removed.mapState (spares_unregisterInFlight _)
    exact (unregistered.recordStat _ _).finishAttempt attemptId .skipped none
  · rename_i refused answer
    rw [answer] at committed
    exact committed.requeueAndCrash apart _ attemptId

omit postponed in
theorem Untouched.applySuccess (untouched : Untouched uid row start store) {request : SuccessRequest}
    (other : request.jobUid ≠ uid) (apart : jobUidFromSnapshot request.snapshot ≠ uid)
    (spawned : uid ∉ uidsOf request.spawned) :
    Untouched uid row start (store.applySuccess config request).1 := by
  have committed : Untouched uid row start (store.commit
      (.succeeded request.jobUid (request.spawned.map jobUidFromSnapshot)) fun backend =>
        backend.commitJobSuccess (Mirror.successOf store request)).1 :=
    untouched.commit other fun _ present => sparesDisk_commitJobSuccess other present
  unfold Mirror.successOf at committed
  unfold StateStore.applySuccess
  dsimp only
  split
  · rename_i succeeded answer
    rw [answer] at committed
    set noted := succeeded.noteCall
      (.success request.attemptId (request.attemptId.bind store.backend.attempts.get?) true) with call
    have grown : Untouched uid row start (if request.spawned.isEmpty then noted
        else noted.mapState fun state => state.spawnJobs request.spawned true) := by
      split
      · exact committed.noteCall _
      · exact (committed.noteCall _).mapState (spares_spawnJobs spawned true)
    have advanced : Untouched uid row start ((if request.spawned.isEmpty then noted
        else noted.mapState fun state => state.spawnJobs request.spawned true).mapState fun state =>
          state.updateCursors request.cursorUpdates.entries) := grown.mapState (spares_updateCursors _)
    exact ((advanced.mapState (spares_markSuccess other _)).mapState
      (spares_unregisterInFlight _)).recordStat _ _
  · rename_i refused answer
    rw [answer] at committed
    exact (committed.noteCall _).handleCommitFailureStrike plain other apart _ _

end Apply

end Transitions

section Completion

variable (plain : Plain uid) (postponed : Postponed config uid row) {runtime : Runtime} {entry : InFlightJob}

/-- An execution of another job. -/
structure Foreign (uid : String) (entry : InFlightJob) : Prop where
  jobUid : entry.jobUid ≠ uid
  snapshot : jobUidFromSnapshot entry.snapshot ≠ uid
  job : entry.job.uid ≠ uid

/-- The job is untouched, and everything in flight is another's. -/
structure Clear (uid : String) (row : Record) (start : StateStore) (runtime : Runtime) : Prop where
  untouched : Untouched uid row start runtime.store
  foreign : ∀ key entry, runtime.tracker.get? key = some entry → Foreign uid entry

/-- No child has the uid of a queued job. -/
theorem notMem_collectSpawned (indexed : uid ∈ store.state.queueUids) (spawnedJobs : List Job) :
    uid ∉ uidsOf (Runtime.collectSpawnedJobSnapshots config store spawnedJobs) := by
  intro member
  obtain ⟨child, listed, same⟩ := Fresh.mem_keys.mp member
  obtain ⟨job, fresh, made⟩ := List.mem_map.mp listed
  rw [← made, (Batches.uid_normalizeSpawnedJob config store job).2] at same
  apply Fresh.key_notMem_of_mem_fresh fresh
  rw [same]
  exact Finset.mem_union_left _ indexed

include plain postponed

theorem untouched_commitResult (untouched : Untouched uid row start runtime.store) (foreign : Foreign uid entry)
    (result : ExecutionResult) (surroundings : Surroundings) :
    Untouched uid row start (Runtime.commitResult config runtime entry result surroundings).1 := by
  unfold Runtime.commitResult
  split
  · unfold Runtime.applyRetry
    dsimp only
    split
    · have failed := Untouched.applyFailure plain postponed untouched foreign.jobUid foreign.snapshot
        (Runtime.maxRetriesMetadata entry.snapshot result.retryError) .failed entry.attemptId
      split <;> (rename_i ended; rw [ended] at failed; exact failed)
    · have away := (Batches.uid_buildRetryJobSnapshot entry.job entry.snapshot result.retryError
        result.transientKind.isSome).2
      have retried := @Untouched.applyRetry _ config uid row start runtime.store entry.jobUid entry.snapshot plain
        untouched foreign.jobUid foreign.snapshot _ (away.trans_ne foreign.job) result.transientKind
        entry.attemptId result.retryError
      split <;> (rename_i ended; rw [ended] at retried; exact retried)
  · split
    · have succeeded := @Untouched.applySuccess _ config uid row start runtime.store plain untouched
        ⟨entry.jobUid, result.resultMetadata,
          Runtime.collectSpawnedJobSnapshots config runtime.store result.spawnedJobs,
          Dict.ofPairs result.cursorUpdates, surroundings.artifacts, surroundings.inputs, runtime.runId,
          entry.snapshot, entry.attemptId, entry.executionId⟩ foreign.jobUid foreign.snapshot
        (notMem_collectSpawned untouched.indexed _)
      unfold Runtime.applySuccess
      split <;> (rename_i ended; rw [ended] at succeeded; exact succeeded)
    · have failed := Untouched.applyFailure plain postponed untouched foreign.jobUid foreign.snapshot
        result.resultMetadata .failed entry.attemptId
      unfold Runtime.applyFailure
      split <;> (rename_i ended; rw [ended] at failed; exact failed)

theorem clear_applyResult (clear : Clear uid row start runtime) (foreign : Foreign uid entry)
    (result : ExecutionResult) (surroundings : Surroundings) :
    Clear uid row start (Runtime.applyResult config runtime entry result surroundings).1 := by
  unfold Runtime.applyResult
  split
  · have noted : Untouched uid row start (runtime.store.mapState fun state => { state with asserted := false }) :=
      clear.untouched.mapState ⟨rfl, id, id, id, rfl, rfl⟩
    exact ⟨noted, clear.foreign⟩
  · dsimp only
    split
    · exact ⟨clear.untouched, clear.foreign⟩
    · refine ⟨?_, clear.foreign⟩
      exact untouched_commitResult plain postponed clear.untouched foreign _ surroundings

theorem clear_completeJob (clear : Clear uid row start runtime) (foreign : Foreign uid entry)
    (result : ExecutionResult) (surroundings : Surroundings) :
    Clear uid row start (Runtime.completeJob config runtime entry result surroundings).1 := by
  have applied := clear_applyResult plain postponed clear foreign result surroundings
  unfold Runtime.completeJob
  dsimp only
  generalize Runtime.applyResult config runtime entry result surroundings = outcome at applied ⊢
  obtain ⟨reached, answer⟩ := outcome
  cases answer with
  | error signal => cases signal <;> exact ⟨applied.untouched, applied.foreign⟩
  | ok willRetry =>
    have fired := applied.untouched.fireAttemptFinished entry.jobUid
      ⟨(Runtime.checkedResult result surroundings).success, willRetry,
        (Runtime.checkedResult result surroundings).resultMetadata⟩
    dsimp only
    cases surroundings.hookInterrupt <;> exact ⟨fired, applied.foreign⟩

omit plain postponed in
/-- The row of another execution goes back, and the execution is settled. -/
theorem clear_settled (clear : Clear uid row start runtime) (foreign : Foreign uid entry) :
    Clear uid row start ((Runtime.requeueUncommitted runtime entry).settle entry.jobUid) := by
  have requeued : Untouched uid row start (Runtime.requeueUncommitted runtime entry).store := by
    show Untouched uid row start (if entry.jobUid ∈ runtime.store.state.inFlightUids then _ else runtime.store)
    split
    · have unregistered : Untouched uid row start (runtime.store.mapState fun state =>
          state.unregisterInFlight entry.jobUid) := clear.untouched.mapState (spares_unregisterInFlight _)
      exact unregistered.requeue foreign.snapshot true
    · exact clear.untouched
  constructor
  · show Untouched uid row start (if entry.jobUid ∈ (Runtime.requeueUncommitted runtime entry).store.state.inFlightUids
      then _ else (Runtime.requeueUncommitted runtime entry).store)
    split
    · exact requeued.mapState (spares_unregisterInFlight _)
    · exact requeued
  · intro key other tracked
    have erased : (runtime.tracker.erase entry.jobUid).get? key = some other := tracked
    rw [Dict.get?_erase] at erased
    split at erased
    · cases erased
    · exact clear.foreign key other erased

theorem clear_settleReaped (reaped : List (String × ExecutionResult × Surroundings)) (error : Option Signal)
    (clear : Clear uid row start runtime) :
    Clear uid row start (Runtime.settleReaped config reaped runtime error).1 := by
  induction reaped generalizing runtime error with
  | nil => exact clear
  | cons item rest ih =>
    obtain ⟨jobUid, result, surroundings⟩ := item
    unfold Runtime.settleReaped
    split
    · exact ih error clear
    · rename_i entry tracked
      have foreign := clear.foreign jobUid entry tracked
      exact ih _ (clear_settled (clear_completeJob plain postponed clear foreign result surroundings) foreign)

omit plain postponed in
theorem clear_settleCancelled (cancelled : List (InFlightJob × Option String)) (error : Option Signal)
    (clear : Clear uid row start runtime) (foreign : ∀ item ∈ cancelled, Foreign uid item.1) :
    Clear uid row start (Runtime.settleCancelled cancelled runtime error).1 := by
  induction cancelled generalizing runtime error with
  | nil => exact clear
  | cons item rest ih =>
    obtain ⟨entry, cleanupFault⟩ := item
    have released : Clear uid row start (runtime.releaseResources entry) := ⟨clear.untouched, clear.foreign⟩
    exact ih _ (clear_settled released (foreign _ List.mem_cons_self))
      fun other later => foreign other (List.mem_cons_of_mem _ later)

theorem clear_settleDone (done : List (InFlightJob × ExecutionResult × Surroundings)) (error : Option Signal)
    (clear : Clear uid row start runtime) (foreign : ∀ item ∈ done, Foreign uid item.1) :
    Clear uid row start (Runtime.settleDone config done runtime error).1 := by
  induction done generalizing runtime error with
  | nil => exact clear
  | cons item rest ih =>
    obtain ⟨entry, result, surroundings⟩ := item
    have own := foreign _ List.mem_cons_self
    exact ih _ (clear_settled (clear_completeJob plain postponed clear own result surroundings) own)
      fun other later => foreign other (List.mem_cons_of_mem _ later)

end Completion

end Theory

end Tasklite.Engine.Postponing
