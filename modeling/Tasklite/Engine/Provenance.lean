import Tasklite.Engine.Runs

/-! What holds of every copy of a row. A row is on disk, in the queue in memory, in the
hands of the dispatch or with a running job, and the engine rewrites it in a few ways
only. A property that these rewritings keep holds of all copies in every run, whatever
the commits answer, whatever raises and wherever the run is cut off. -/

namespace Tasklite.Engine.Provenance
open Tasklite.Library Tasklite.Models Tasklite.Backend
open PipelineState StateStore Lifecycle Custody Durability Runs

variable [Python] (config : StoreConfig) {P : Record → Prop}

/-- A property that every rewriting of a row keeps and that spawned rows have. -/
structure Closed (P : Record → Prop) : Prop where
  struck : ∀ row, P row → P (registerCommitFailure row)
  undispatched : ∀ row, P row → P (recordDispatchFailure row)
  filled : ∀ row job, P row → Job.fromDict row = .ok job → P (normalizeJobSnapshot config row job.taskType.val)
  activated : ∀ row (number : {n : ℕ // 1 ≤ n}), P row → P (row.set "activation_no" (.int number.val))
  retried : ∀ row job retryError isTransient, P row → Job.fromDict row = .ok job →
    (isTransient = true ∨ job.attemptNo.val ≤ job.maxRetries.getD 3) →
    P (Runtime.buildRetryJobSnapshot job row retryError isTransient)
  spawned : ∀ (store : StateStore) job, P (store.normalizeSpawnedJob config job)

/-- The rows that the store has, on disk, in memory, and still to come from other processes. -/
structure Stocked (P : Record → Prop) (store : StateStore) : Prop where
  disk : ∀ row ∈ store.backend.queue, P row
  memory : ∀ row ∈ store.state.queue, P row
  foreseen : ∀ answer ∈ store.answers, ∀ batch ∈ answer.enqueued, ∀ row ∈ batch.1, P row

variable {config} {store after : StateStore} {uid : String} {row snapshot : Record}

section Plumbing

omit [Python] in
theorem Stocked.alike (stocked : Stocked P store) (alike : Alike store after) : Stocked P after where
  disk := alike.queue ▸ stocked.disk
  memory := alike.state ▸ stocked.memory
  foreseen := alike.answers ▸ stocked.foreseen

omit [Python] in
theorem Stocked.mapState {change : PipelineState → PipelineState} (stocked : Stocked P store)
    (memory : ∀ row ∈ (change store.state).queue, P row) : Stocked P (store.mapState change) :=
  ⟨stocked.disk, memory, stocked.foreseen⟩

theorem stocked_enqueueElsewhere {snapshots : List Record} (stocked : Stocked P store)
    (named : ∀ row ∈ snapshots, P row) (front : Bool) : Stocked P (store.enqueueElsewhere snapshots front) := by
  refine ⟨?_, stocked.memory, stocked.foreseen⟩
  have fresh : ∀ row ∈ Fresh.fresh jobUidFromSnapshot (uidsOf store.backend.queue) snapshots, P row :=
    fun row member => named row ((Fresh.fresh_sublist _ _).subset member)
  show ∀ row ∈ (if front then _ ++ store.backend.queue else store.backend.queue ++ _), P row
  cases front with
  | true => exact List.forall_mem_append.mpr ⟨fresh, stocked.disk⟩
  | false => exact List.forall_mem_append.mpr ⟨stocked.disk, fresh⟩

theorem stocked_foldl {batches : List (List Record × Bool)} (stocked : Stocked P store)
    (named : ∀ batch ∈ batches, ∀ row ∈ batch.1, P row) :
    Stocked P (batches.foldl (fun store batch => store.enqueueElsewhere batch.1 batch.2) store) := by
  induction batches generalizing store with
  | nil => exact stocked
  | cons batch rest ih =>
    rw [List.forall_mem_cons] at named
    exact ih (stocked_enqueueElsewhere stocked named.1 batch.2) named.2

/-- A transaction keeps what it keeps of the rows on disk, whatever was answered. -/
theorem stocked_commit (stocked : Stocked P store) (event : Event) (transaction : Memory → Memory × Bool)
    (keeps : ∀ backend : Memory, (∀ row ∈ backend.queue, P row) → ∀ row ∈ (transaction backend).1.queue, P row) :
    Stocked P (store.commit event transaction).1 := by
  have answered : ∀ batch ∈ (store.answers.headD {}).enqueued, ∀ row ∈ batch.1, P row := by
    cases given : store.answers with
    | nil => exact fun _ none => absurd none List.not_mem_nil
    | cons answer rest =>
      apply stocked.foreseen answer
      rw [given]
      exact List.mem_cons_self
  have later : Stocked P { store with answers := store.answers.tail } :=
    ⟨stocked.disk, stocked.memory, fun answer member => stocked.foreseen answer (List.mem_of_mem_tail member)⟩
  have asked := stocked_foldl later answered
  unfold commit
  dsimp only
  split
  · split
    · rename_i backend changed
      refine ⟨?_, asked.memory, asked.foreseen⟩
      have kept := keeps _ asked.disk
      rw [changed] at kept
      exact kept
    · exact asked
  · exact asked

theorem disk_without {backend : Memory} (disk : ∀ row ∈ backend.queue, P row) (dropped : Finset String) :
    ∀ row ∈ Fresh.without jobUidFromSnapshot dropped backend.queue, P row :=
  fun row member => disk row (Fresh.mem_without.mp member).1

theorem memory_requeue {state : PipelineState} {rows : List Record} (named : ∀ row ∈ rows, P row)
    (memory : ∀ row ∈ state.queue, P row) (front : Bool) : ∀ row ∈ (state.requeueJobs rows front).queue, P row := by
  show ∀ row ∈ (if front then rows ++ state.queue else state.queue ++ rows), P row
  cases front with
  | true => exact List.forall_mem_append.mpr ⟨named, memory⟩
  | false => exact List.forall_mem_append.mpr ⟨memory, named⟩

omit [Python] in
theorem only {row : Record} (holds : P row) : ∀ other ∈ [row], P other := by
  simpa using holds

theorem stocked_markFailedMemory (config : StoreConfig) (stocked : Stocked P store) (jobUid : String)
    (metadata : Record) (unregister : Bool) :
    Stocked P (store.markFailedMemory config jobUid metadata unregister) := by
  unfold markFailedMemory
  dsimp only
  split <;> exact ⟨stocked.disk, stocked.memory, stocked.foreseen⟩

end Plumbing

section Strike

variable (closed : Closed config P)

theorem stocked_requeueAndCrash {snapshot : Option Record} (stocked : Stocked P store)
    (own : ∀ row, snapshot = some row → P row) (jobUid reason : String) (attemptId : Option Int) :
    Stocked P (store.requeueAndCrash jobUid snapshot reason attemptId).1 := by
  unfold requeueAndCrash
  dsimp only
  apply Stocked.alike _ (alike_finishAttempt _ _ _ _)
  split
  · exact ⟨stocked.disk, stocked.memory, stocked.foreseen⟩
  · rename_i row
    exact ⟨stocked.disk, memory_requeue (only (own row rfl)) stocked.memory true, stocked.foreseen⟩

theorem keeps_commitJobFailure (jobUid : String) (metadata : Record) (payload : Option Record) (backend : Memory)
    (disk : ∀ row ∈ backend.queue, P row) :
    ∀ row ∈ (backend.commitJobFailure jobUid metadata payload).1.queue, P row :=
  disk_without disk {jobUid}

include closed

/-- A strike against a job with a row of its own. -/
theorem stocked_handleCommitFailureStrike (stocked : Stocked P store) (own : P row) (jobUid reason : String)
    (attemptId : Option Int) :
    Stocked P (store.handleCommitFailureStrike config jobUid reason (some row) attemptId).1 := by
  have counted : ∀ other, some (registerCommitFailure row) = some other → P other :=
    fun other same => Option.some.inj same ▸ closed.struck row own
  unfold handleCommitFailureStrike
  dsimp only [Option.getD_some]
  split
  · have committed := stocked_commit stocked (.failed [jobUid]) _
      (keeps_commitJobFailure jobUid (strikeMetadata (commitFailures row + 1))
        (extractJobPayload (registerCommitFailure row)))
    split
    · rename_i asked accepted
      rw [accepted] at committed
      apply Stocked.alike _ (alike_fireAttemptFinished _ _ _)
      apply Stocked.alike _ (alike_finishAttempt _ _ _ _)
      exact (stocked_markFailedMemory config committed jobUid _ true).alike (alike_recordStat _ _ _)
    · rename_i asked refused
      rw [refused] at committed
      exact stocked_requeueAndCrash committed counted jobUid reason attemptId
  · exact stocked_requeueAndCrash stocked counted jobUid reason attemptId

theorem struck_modifyFirst {rows : List Record} (named : ∀ row ∈ rows, P row) (jobUid : String) :
    ∀ row ∈ modifyFirst jobUid registerCommitFailure rows, P row := by
  induction rows with
  | nil => exact named
  | cons row rest ih =>
    rw [List.forall_mem_cons] at named
    unfold modifyFirst
    split
    · exact List.forall_mem_cons.mpr ⟨closed.struck row named.1, named.2⟩
    · exact List.forall_mem_cons.mpr ⟨named.1, ih named.2⟩

omit closed in
theorem stocked_bulkStrikeFinalize (config : StoreConfig) (stocked : Stocked P store) (jobUid : String)
    (row : Record) (failures : Int) :
    Stocked P (store.bulkStrikeFinalize config jobUid row failures).1 := by
  have committed := stocked_commit stocked (.failed [jobUid]) _
    (keeps_commitJobFailure jobUid (strikeMetadata failures) (extractJobPayload row))
  unfold bulkStrikeFinalize
  split
  · rename_i asked refused
    rw [refused] at committed
    exact committed
  · rename_i asked accepted
    rw [accepted] at committed
    apply Stocked.alike _ (alike_fireAttemptFinished _ _ _)
    exact (stocked_markFailedMemory config committed jobUid _ false).alike (alike_recordStat _ _ _)

/-- The strikes against a refused batch: the store and the rows that are left. -/
theorem stocked_handleBulkFailureStrike {uids : List String} {rows : List Record} {kept : Bool}
    (stocked : Stocked P store) (named : ∀ row ∈ rows, P row) :
    Stocked P (handleBulkFailureStrike config uids store rows kept).1 ∧
      ∀ row ∈ (handleBulkFailureStrike config uids store rows kept).2.1, P row := by
  induction uids generalizing store rows kept with
  | nil => exact ⟨stocked, named⟩
  | cons jobUid rest ih =>
    have counted := struck_modifyFirst closed named jobUid
    unfold handleBulkFailureStrike
    dsimp only
    split
    · have finished := stocked_bulkStrikeFinalize config stocked jobUid
        (registerCommitFailure ((rows.find? fun row => jobUidFromSnapshot row = jobUid).getD
          (syntheticSnapshot jobUid)))
        (commitFailures ((rows.find? fun row => jobUidFromSnapshot row = jobUid).getD
          (syntheticSnapshot jobUid)) + 1)
      split
      · rename_i archived accepted
        rw [accepted] at finished
        exact ih finished fun row member => counted row (Fresh.mem_without.mp member).1
      · rename_i asked refused
        rw [refused] at finished
        exact ih finished counted
    · exact ih stocked counted

end Strike

section Transitions

variable (closed : Closed config P)

omit [Python] in
theorem stocked_markEach {mark : StateStore → String → Record → StateStore}
    (marks : ∀ store jobUid metadata, Stocked P store → Stocked P (mark store jobUid metadata))
    {metas : List (String × Record)} (stocked : Stocked P store) : Stocked P (markEach mark metas store) := by
  induction metas generalizing store with
  | nil => exact stocked
  | cons entry rest ih =>
    exact ih ((marks store entry.1 entry.2 stocked).alike (alike_fireAttemptFinished _ _ _))

include closed

theorem stocked_settleBatch {mark : StateStore → String → Record → StateStore}
    (marks : ∀ store jobUid metadata, Stocked P store → Stocked P (mark store jobUid metadata))
    (statKey : StatKey) (crashMessage : ℕ → ℕ → String) (metas : List (String × Record))
    (stocked : Stocked P store) : Stocked P (settleBatch config mark statKey crashMessage metas store).1 := by
  have committed := stocked_commit stocked (.failed (metas.map Prod.fst))
    (fun backend => backend.commitJobFailures metas)
    (fun _ disk => disk_without disk (metas.map Prod.fst).toFinset)
  unfold settleBatch
  dsimp only
  split
  · rename_i asked accepted
    rw [accepted] at committed
    apply stocked_markEach marks
    apply Stocked.alike _ (alike_recordStat _ _ _)
    apply committed.mapState
    exact fun row member => committed.memory row (Fresh.mem_without.mp member).1
  · rename_i asked refused
    rw [refused] at committed
    have struck := @stocked_handleBulkFailureStrike _ _ _ _ closed (metas.map Prod.fst) _ false committed
      committed.memory
    split <;> exact ⟨struck.1.disk, struck.2, struck.1.foreseen⟩

theorem stocked_cascadeFail (stocked : Stocked P store) (failedUid : String) :
    Stocked P (store.cascadeFail config failedUid).1 := by
  unfold StateStore.cascadeFail
  dsimp only
  split
  · exact stocked
  · exact stocked_settleBatch closed
      (fun store jobUid metadata stocked => stocked_markFailedMemory config stocked jobUid metadata true) _ _ _
      stocked

theorem stocked_applyFailure (stocked : Stocked P store) (own : P row) (jobUid : String) (metadata : Record)
    (countAs : StatKey) (attemptId : Option Int) :
    Stocked P (store.applyFailure config jobUid metadata row countAs attemptId).1 := by
  have committed := stocked_commit stocked (.failed [jobUid]) _
    (keeps_commitJobFailure jobUid (store.normalize config metadata) (extractJobPayload row))
  unfold applyFailure
  dsimp only
  split
  · rename_i asked accepted
    rw [accepted] at committed
    have marked := ((stocked_markFailedMemory config committed jobUid
      (store.normalize config metadata) true).alike (alike_recordStat _ countAs 1)).alike
        (alike_finishAttempt _ attemptId .failed (attemptError (store.normalize config metadata)))
    have cascaded := stocked_cascadeFail closed marked jobUid
    split
    · rename_i ended
      rw [ended] at cascaded
      exact cascaded
    · rename_i ended
      rw [ended] at cascaded
      exact cascaded
  · rename_i asked refused
    rw [refused] at committed
    exact stocked_handleCommitFailureStrike closed committed own jobUid _ attemptId

theorem stocked_applyBulkFailure (stocked : Stocked P store) (uidsMetas : List (String × Record)) :
    Stocked P (store.applyBulkFailure config uidsMetas).1 := by
  unfold applyBulkFailure
  dsimp only
  split
  · exact stocked
  · refine stocked_settleBatch closed ?_ _ _ _ stocked
    exact fun store jobUid metadata stocked => ⟨stocked.disk, stocked.memory, stocked.foreseen⟩

theorem stocked_applySuccess (stocked : Stocked P store) (request : SuccessRequest) (own : P request.snapshot)
    (children : ∀ row ∈ request.spawned, P row) : Stocked P (store.applySuccess config request).1 := by
  have keeps : ∀ success : Memory.Success, success.spawned = request.spawned → ∀ backend : Memory,
      (∀ row ∈ backend.queue, P row) → ∀ row ∈ (backend.commitJobSuccess success).1.queue, P row := by
    intro success same backend disk
    unfold Memory.commitJobSuccess
    split
    · split
      · exact disk
      · exact List.forall_mem_append.mpr ⟨same ▸ children, disk_without disk {success.jobUid}⟩
    · exact disk
  unfold applySuccess
  dsimp only
  have committed := stocked_commit stocked (.succeeded request.jobUid (request.spawned.map jobUidFromSnapshot)) _
    (keeps ⟨request.jobUid, store.successMetadata request.jobUid request.resultMetadata request.artifacts
      request.inputs request.runId, request.attemptId, request.executionId, some store.now.val, request.spawned,
      request.cursorUpdates⟩ rfl)
  split
  · rename_i asked accepted
    rw [accepted] at committed
    dsimp only
    split
    · exact ⟨committed.disk, committed.memory, committed.foreseen⟩
    · exact ⟨committed.disk, memory_requeue children committed.memory true, committed.foreseen⟩
  · rename_i asked refused
    rw [refused] at committed
    exact stocked_handleCommitFailureStrike closed (committed.alike (alike_noteCall _ _)) own request.jobUid _
      request.attemptId

theorem stocked_applyRetry {retrySnapshot : Record} (stocked : Stocked P store) (own : P row)
    (again : P retrySnapshot) (jobUid : String) (transientKind : Option String) (attemptId : Option Int)
    (errorMessage : Option Json) :
    Stocked P (store.applyRetry config jobUid row retrySnapshot transientKind attemptId errorMessage).1 := by
  have keeps : ∀ (front : Bool) (backend : Memory), (∀ row ∈ backend.queue, P row) →
      ∀ row ∈ (backend.commitRetry jobUid retrySnapshot front).1.queue, P row := by
    intro front backend disk
    have kept := disk_without disk {jobUid}
    unfold Memory.commitRetry
    dsimp only
    split
    · exact disk
    · cases front with
      | true => exact List.forall_mem_cons.mpr ⟨again, kept⟩
      | false => exact List.forall_mem_append.mpr ⟨kept, only again⟩
  have committed := stocked_commit stocked (.retried jobUid) _
    (keeps (config.planRequeue retrySnapshot transientKind))
  unfold applyRetry
  dsimp only
  split
  · rename_i asked accepted
    rw [accepted] at committed
    have requeued : Stocked P ((asked.mapState fun state => state.unregisterInFlight jobUid).mapState fun state =>
        state.requeueJobs [retrySnapshot] (config.planRequeue retrySnapshot transientKind)) :=
      ⟨committed.disk, memory_requeue (only again) committed.memory _, committed.foreseen⟩
    apply Stocked.alike _ (alike_finishAttempt _ _ _ _)
    split
    · exact requeued.alike (alike_recordStat _ _ _)
    · exact (requeued.alike (alike_recordStat _ _ _)).alike (alike_recordStat _ _ _)
  · rename_i asked refused
    rw [refused] at committed
    exact stocked_handleCommitFailureStrike closed committed own jobUid _ attemptId

omit closed in
theorem stocked_applySkip {snapshot : Option Record} (stocked : Stocked P store)
    (own : ∀ row, snapshot = some row → P row) (jobUid : String) (attemptId : Option Int) :
    Stocked P (store.applySkip jobUid snapshot attemptId).1 := by
  have committed := stocked_commit stocked (.skipped jobUid) (fun backend => backend.commitSkip jobUid)
    (fun _ disk => disk_without disk {jobUid})
  unfold applySkip
  split
  · rename_i asked accepted
    rw [accepted] at committed
    dsimp only
    apply Stocked.alike _ (alike_finishAttempt _ _ _ _)
    apply Stocked.alike _ (alike_recordStat _ _ _)
    refine ⟨committed.disk, ?_, committed.foreseen⟩
    show ∀ row ∈ (asked.state.removeQueuedUid jobUid).queue, P row
    unfold removeQueuedUid
    split
    · exact committed.memory
    · exact fun row member => committed.memory row (Fresh.mem_without.mp member).1
  · rename_i asked refused
    rw [refused] at committed
    exact stocked_requeueAndCrash committed own jobUid _ attemptId

omit closed in
theorem stocked_requeueTransient (stocked : Stocked P store) (own : P row) (transientKind : String)
    (attemptId : Option Int) (errorMessage : Option Json) :
    Stocked P (store.requeueTransient config row transientKind attemptId errorMessage) := by
  have requeued : Stocked P (store.mapState fun state =>
      state.requeueJobs [row] (config.planRequeue row (some transientKind))) :=
    stocked.mapState (memory_requeue (only own) stocked.memory _)
  unfold requeueTransient
  dsimp only
  apply Stocked.alike _ (alike_finishAttempt _ _ _ _)
  split
  · exact requeued
  · exact requeued.alike (alike_recordStat _ _ _)

end Transitions

section Completion

/-- A running entry has a row with the property, and its job is what the row says. -/
def Borne (P : Record → Prop) (entry : InFlightJob) : Prop :=
  P entry.snapshot ∧ Job.fromDict entry.snapshot = .ok entry.job

/-- The rows of the store and of what is running. -/
structure Manned (P : Record → Prop) (runtime : Runtime) : Prop where
  stocked : Stocked P runtime.store
  running : ∀ uid entry, runtime.tracker.get? uid = some entry → Borne P entry

variable (closed : Closed config P) {runtime : Runtime} {entry : InFlightJob}

include closed

theorem stocked_commitRetry (stocked : Stocked P store) (borne : Borne P entry) (result : ExecutionResult) :
    Stocked P (Runtime.applyRetry config store entry result).1 := by
  obtain ⟨own, parsed⟩ := borne
  unfold Runtime.applyRetry
  dsimp only
  split
  · have failed := stocked_applyFailure closed stocked own entry.jobUid
      (Runtime.maxRetriesMetadata entry.snapshot result.retryError) .failed entry.attemptId
    split
    · rename_i ended
      rw [ended] at failed
      exact failed
    · rename_i ended
      rw [ended] at failed
      exact failed
  · rename_i within
    have again : P (Runtime.buildRetryJobSnapshot entry.job entry.snapshot result.retryError
        result.transientKind.isSome) := by
      apply closed.retried _ _ _ _ own parsed
      by_contra spent
      simp only [not_or, not_le] at spent
      exact within spent
    have retried := stocked_applyRetry closed stocked own again entry.jobUid result.transientKind entry.attemptId
      result.retryError
    split
    · rename_i ended
      rw [ended] at retried
      exact retried
    · rename_i ended
      rw [ended] at retried
      exact retried

theorem stocked_commitSuccess (stocked : Stocked P store) (borne : Borne P entry) (runId : Option String)
    (result : ExecutionResult) (surroundings : Surroundings) :
    Stocked P (Runtime.applySuccess config store runId entry result surroundings).1 := by
  have children : ∀ row ∈ Runtime.collectSpawnedJobSnapshots config store result.spawnedJobs, P row := by
    intro row member
    obtain ⟨job, -, rfl⟩ := List.mem_map.mp member
    exact closed.spawned store job
  have succeeded := stocked_applySuccess closed stocked ⟨entry.jobUid, result.resultMetadata,
    Runtime.collectSpawnedJobSnapshots config store result.spawnedJobs, Dict.ofPairs result.cursorUpdates,
    surroundings.artifacts, surroundings.inputs, runId, entry.snapshot, entry.attemptId, entry.executionId⟩
    borne.1 children
  unfold Runtime.applySuccess
  split
  · rename_i ended
    rw [ended] at succeeded
    exact succeeded
  · rename_i ended
    rw [ended] at succeeded
    exact succeeded

theorem stocked_commitFailure (stocked : Stocked P store) (borne : Borne P entry) (result : ExecutionResult) :
    Stocked P (Runtime.applyFailure config store entry result).1 := by
  have failed := stocked_applyFailure closed stocked borne.1 entry.jobUid result.resultMetadata .failed
    entry.attemptId
  unfold Runtime.applyFailure
  split
  · rename_i ended
    rw [ended] at failed
    exact failed
  · rename_i ended
    rw [ended] at failed
    exact failed

theorem manned_applyResult (manned : Manned P runtime) (borne : Borne P entry) (result : ExecutionResult)
    (surroundings : Surroundings) : Manned P (Runtime.applyResult config runtime entry result surroundings).1 := by
  unfold Runtime.applyResult
  split
  · exact ⟨⟨manned.stocked.disk, manned.stocked.memory, manned.stocked.foreseen⟩, manned.running⟩
  · dsimp only
    split
    · exact ⟨manned.stocked, manned.running⟩
    · refine ⟨?_, manned.running⟩
      unfold Runtime.commitResult
      split
      · exact stocked_commitRetry closed manned.stocked borne _
      · split
        · exact stocked_commitSuccess closed manned.stocked borne _ _ _
        · exact stocked_commitFailure closed manned.stocked borne _

theorem manned_completeJob (manned : Manned P runtime) (borne : Borne P entry) (result : ExecutionResult)
    (surroundings : Surroundings) : Manned P (Runtime.completeJob config runtime entry result surroundings).1 := by
  have applied := manned_applyResult closed manned borne result surroundings
  unfold Runtime.completeJob
  dsimp only
  split
  · rename_i ended
    rw [ended] at applied
    exact ⟨applied.stocked, applied.running⟩
  · rename_i ended
    rw [ended] at applied
    exact ⟨applied.stocked, applied.running⟩
  · rename_i ended
    rw [ended] at applied
    split <;> exact ⟨applied.stocked.alike (alike_fireAttemptFinished _ _ _), applied.running⟩

omit closed in
theorem manned_requeueUncommitted (manned : Manned P runtime) (borne : Borne P entry) :
    Manned P (runtime.requeueUncommitted entry) := by
  refine ⟨?_, manned.running⟩
  show Stocked P (ite _ _ _)
  split
  · exact ⟨manned.stocked.disk, memory_requeue (only borne.1) manned.stocked.memory true, manned.stocked.foreseen⟩
  · exact manned.stocked

omit closed in
theorem manned_settle (manned : Manned P runtime) (jobUid : String) : Manned P (runtime.settle jobUid) := by
  refine ⟨?_, ?_⟩
  · show Stocked P (ite _ _ _)
    split
    · exact ⟨manned.stocked.disk, manned.stocked.memory, manned.stocked.foreseen⟩
    · exact manned.stocked
  · intro uid entry tracked
    have looked := (Dict.get?_erase runtime.tracker jobUid uid).symm.trans tracked
    split at looked
    · cases looked
    · exact manned.running uid entry looked

theorem manned_completeAndSettle (manned : Manned P runtime) (borne : Borne P entry) (result : ExecutionResult)
    (surroundings : Surroundings) :
    Manned P (Runtime.completeAndSettle config runtime entry result surroundings).1 :=
  manned_settle (manned_requeueUncommitted (manned_completeJob closed manned borne result surroundings) borne) _

theorem manned_settleReaped {reaped : List (String × ExecutionResult × Surroundings)} {error : Option Signal}
    (manned : Manned P runtime) : Manned P (Runtime.settleReaped config reaped runtime error).1 := by
  induction reaped generalizing runtime error with
  | nil => exact manned
  | cons first rest ih =>
    obtain ⟨jobUid, result, surroundings⟩ := first
    unfold Runtime.settleReaped
    split
    · exact ih manned
    · rename_i entry tracked
      exact ih (manned_completeAndSettle closed manned (manned.running jobUid entry tracked) result surroundings)

omit closed in
theorem manned_settleCancelled {cancelled : List (InFlightJob × Option String)} {error : Option Signal}
    (manned : Manned P runtime) (borne : ∀ pair ∈ cancelled, Borne P pair.1) :
    Manned P (Runtime.settleCancelled cancelled runtime error).1 := by
  induction cancelled generalizing runtime error with
  | nil => exact manned
  | cons first rest ih =>
    rw [List.forall_mem_cons] at borne
    unfold Runtime.settleCancelled
    apply ih _ borne.2
    have released : Manned P (runtime.releaseResources first.1) := ⟨manned.stocked, manned.running⟩
    exact manned_settle (manned_requeueUncommitted released borne.1) _

theorem manned_settleDone {done : List (InFlightJob × ExecutionResult × Surroundings)} {error : Option Signal}
    (manned : Manned P runtime) (borne : ∀ triple ∈ done, Borne P triple.1) :
    Manned P (Runtime.settleDone config done runtime error).1 := by
  induction done generalizing runtime error with
  | nil => exact manned
  | cons first rest ih =>
    rw [List.forall_mem_cons] at borne
    unfold Runtime.settleDone
    exact ih (manned_completeAndSettle closed manned borne.1 first.2.1 first.2.2) borne.2

end Completion

section Step

/-- Every copy of a row has the property, also the one that the dispatch holds. -/
structure Everywhere (P : Record → Prop) (run : Run) : Prop where
  manned : Manned P run.runtime
  inHand : ∀ row job, run.hand = some (row, job) → P row ∧ Job.fromDict row = .ok job

/-- The rows that other processes enqueue in the course of an operation. -/
def Brings (row : Record) : Operation → Prop
  | .foresee _ answers _ => ∃ answer ∈ answers, ∃ batch ∈ answer.enqueued, row ∈ batch.1
  | .enqueue snapshots _ => row ∈ snapshots
  | .crash window _ _ => ∃ batch ∈ window.enqueued, row ∈ batch.1
  | _ => False

variable (closed : Closed config P) {run : Run}

theorem everywhere_store {store : StateStore} {crashed : Bool} (everywhere : Everywhere P run)
    (stocked : Stocked P store) :
    Everywhere P { run with runtime := { run.runtime with store := store }, crashed := crashed } :=
  ⟨⟨stocked, everywhere.manned.running⟩, everywhere.inHand⟩

theorem Everywhere.freed (everywhere : Everywhere P run) : Everywhere P { run with hand := none } :=
  ⟨everywhere.manned, fun _ _ free => by cases free⟩

theorem everywhere_after {store : StateStore} {signal : Option Signal} (everywhere : Everywhere P run)
    (stocked : Stocked P store) : Everywhere P (run.after store signal) := by
  unfold Run.after
  split <;> exact everywhere_store everywhere stocked

theorem everywhere_settled {runtime : Runtime} {signal : Option Signal} (manned : Manned P runtime)
    (free : run.hand = none) : Everywhere P (run.settled runtime signal) := by
  have inHand : ∀ row job, run.hand = some (row, job) → P row ∧ Job.fromDict row = .ok job := by
    intro row job held
    rw [free] at held
    cases held
  unfold Run.settled
  split <;> exact ⟨manned, inHand⟩

theorem everywhere_boot (stocked : Stocked P store) {window : Recovery.Window}
    (windowed : ∀ batch ∈ window.enqueued, ∀ row ∈ batch.1, P row) (resources : ResourceManager)
    (runId : Option String) : Everywhere P (boot store window resources runId) := by
  have converged : Stocked P (if window.deleteFails then store else { store with
      backend := (store.backend.deleteSuccesses
        (store.backend.successes.keys.filter store.backend.failed.contains)).1 }) := by
    split
    · exact stocked
    · exact ⟨stocked.disk, stocked.memory, stocked.foreseen⟩
  have reread := stocked_foldl converged windowed
  refine ⟨⟨⟨reread.disk, ?_, reread.foreseen⟩, fun _ _ tracked => by cases tracked⟩, fun _ _ free => by cases free⟩
  intro row queued
  have merged := (Fresh.fresh_sublist _ _).subset queued
  rcases List.mem_append.mp merged with onDisk | loaded
  · have listed := (Fresh.fresh_sublist _ _).subset onDisk
    split at listed
    · exact absurd listed List.not_mem_nil
    · exact reread.disk row listed
  · exact stocked.disk row (List.mem_of_mem_filter loaded)

theorem stocked_save (stocked : Stocked P store) (raises : Bool) :
    Stocked P (Recovery.saveQueueCrashSafe store raises) := by
  refine ⟨?_, stocked.memory, stocked.foreseen⟩
  unfold Recovery.saveQueueCrashSafe Memory.replaceQueueAtomic
  cases raises with
  | true => exact stocked.disk
  | false =>
    intro row member
    have merged := (Fresh.fresh_sublist _ _).subset member
    rcases List.mem_append.mp merged with onDisk | queued
    · exact stocked.disk row (List.mem_of_mem_filter onDisk)
    · exact stocked.memory row ((Fresh.fresh_sublist _ _).subset queued)

/-- What runs next is a queued row as it is, or with an activation number written into it. -/
theorem everywhere_take (closed : Closed config P) (everywhere : Everywhere P run) (idx : ℕ)
    (activationNo : Option {n : ℕ // 1 ≤ n}) : Everywhere P (take run idx activationNo) := by
  unfold take
  split
  · exact everywhere
  · rename_i row state popped
    obtain ⟨found, looked, same⟩ := Option.map_eq_some_iff.mp popped
    obtain ⟨rfl, rfl⟩ := Prod.mk.inj same
    have own : P found := everywhere.manned.stocked.memory found (List.mem_of_getElem? looked)
    dsimp only
    split
    · exact everywhere
    · rename_i job built
      refine ⟨⟨⟨everywhere.manned.stocked.disk, ?_, everywhere.manned.stocked.foreseen⟩,
        everywhere.manned.running⟩, ?_⟩
      · exact fun row member => everywhere.manned.stocked.memory row (List.mem_of_mem_eraseIdx member)
      · intro row other held
        obtain ⟨rfl, rfl⟩ := Prod.mk.inj (Option.some.inj held)
        refine ⟨?_, built⟩
        cases activationNo with
        | none => exact own
        | some number => exact closed.activated found number own

theorem everywhere_pop (closed : Closed config P) (everywhere : Everywhere P run) {idx : ℕ} {job : Job}
    (parsed : parsedAt run.runtime.store.state idx = some (row, job)) (activationNo : Option {n : ℕ // 1 ≤ n}) :
    Everywhere P (take (run.mapStore fun store => store.mapState fun state => prepare config state idx job) idx
      activationNo) := by
  obtain ⟨looked, parses⟩ := parsedAt_some parsed
  have own : P row := everywhere.manned.stocked.memory row (List.mem_of_getElem? looked)
  apply everywhere_take closed
  refine ⟨⟨⟨everywhere.manned.stocked.disk, ?_, everywhere.manned.stocked.foreseen⟩,
    everywhere.manned.running⟩, everywhere.inHand⟩
  intro other member
  obtain ⟨place, at_⟩ := List.mem_iff_getElem?.mp member
  have modified : (run.runtime.store.state.queue.modify idx fun row =>
      normalizeJobSnapshot config row job.taskType.val)[place]? = some other := at_
  rw [List.getElem?_modify] at modified
  split at modified
  · rename_i same
    subst same
    rw [looked] at modified
    rw [← Option.some.inj modified]
    exact closed.filled row job own parses
  · obtain ⟨_, kept, rfl⟩ := Option.map_eq_some_iff.mp modified
    exact everywhere.manned.stocked.memory _ (List.mem_of_getElem? kept)

/-- One operation of any kind, commit crashes and exceptions included. -/
theorem everywhere_step (closed : Closed config P) (everywhere : Everywhere P run) {operation : Operation}
    (brought : ∀ row, Brings row operation → P row) : Everywhere P (step config run operation) := by
  have stocked := everywhere.manned.stocked
  cases operation with
  | foresee now answers hookRaises =>
    exact everywhere_store everywhere ⟨stocked.disk, stocked.memory,
      fun answer given batch listed row member => brought row ⟨answer, given, batch, listed, member⟩⟩
  | enqueue snapshots front => exact everywhere_store everywhere (stocked_enqueueElsewhere stocked brought front)
  | pop idx activationNo =>
    simp only [step]
    split
    · rename_i parsed
      exact everywhere_pop closed everywhere parsed activationNo
    · exact everywhere
  | popDepFailed idx =>
    simp only [step]
    split
    · exact everywhere_take closed everywhere idx none
    · exact everywhere
  | track launch =>
    simp only [step]
    split
    · rename_i hand
      refine ⟨⟨⟨stocked.disk, stocked.memory, stocked.foreseen⟩, ?_⟩, fun _ _ free => by cases free⟩
      intro uid entry tracked
      have looked := (Dict.get?_set run.runtime.tracker _ uid _).symm.trans tracked
      split at looked
      · rw [← Option.some.inj looked]
        exact everywhere.inHand _ _ hand
      · exact everywhere.manned.running uid entry looked
    · exact everywhere
  | drop => exact everywhere.freed
  | putBack counted =>
    simp only [step]
    split
    · rename_i row job _ hand
      have own := (everywhere.inHand row job hand).1
      have back : P (if counted then recordDispatchFailure row else row) := by
        split
        · exact closed.undispatched row own
        · exact own
      exact (everywhere_store everywhere
        (stocked.mapState (memory_requeue (only back) stocked.memory true))).freed
    · exact everywhere
  | requeueTransient transientKind attemptId errorMessage =>
    simp only [step]
    split
    · rename_i hand
      exact (everywhere_store everywhere (stocked_requeueTransient stocked (everywhere.inHand _ _ hand).1
        transientKind attemptId errorMessage)).freed
    · exact everywhere
  | reject metadata countAs attemptId =>
    simp only [step]
    split
    · rename_i hand
      exact (everywhere_after everywhere (stocked_applyFailure closed stocked (everywhere.inHand _ _ hand).1 _
        metadata countAs attemptId)).freed
    · exact everywhere
  | triggerSkip attemptId =>
    simp only [step]
    split
    · rename_i row job _ hand
      have skipped := stocked_applySkip stocked
        (fun other same => Option.some.inj same ▸ (everywhere.inHand row job hand).1) job.uid attemptId
      split
      · rename_i after answer ended
        rw [ended] at skipped
        have marked : Stocked P (after.mapState fun state => state.markTriggerSkipped job.uid) :=
          ⟨skipped.disk, skipped.memory, skipped.foreseen⟩
        exact (everywhere_after everywhere marked).freed
      · rename_i ended
        rw [ended] at skipped
        exact (everywhere_after everywhere skipped).freed
    · exact everywhere
  | selectionSkip idx =>
    simp only [step]
    split
    · rename_i row job _ _ parsed
      have own : P row := stocked.memory row (List.mem_of_getElem? (parsedAt_some parsed).1)
      exact everywhere_after everywhere
        (stocked_applySkip stocked (fun other same => Option.some.inj same ▸ own) job.uid none)
    · exact everywhere
  | bulkFailure targets error =>
    simp only [step]
    split
    · exact everywhere_after everywhere (stocked_applyBulkFailure closed stocked _)
    · exact everywhere
  | settleReaped reaped =>
    simp only [step]
    split
    · rename_i free
      exact everywhere_settled (manned_settleReaped closed everywhere.manned) free
    · exact everywhere
  | settleAborted finished cleanupFault =>
    simp only [step]
    split
    · rename_i free
      have borne : ∀ entry ∈ run.runtime.tracker.entries.map Prod.snd, Borne P entry := by
        intro entry member
        obtain ⟨tracked, listed, rfl⟩ := List.mem_map.mp member
        exact everywhere.manned.running tracked.1 tracked.2 (Dict.mem_entries.mp listed)
      apply everywhere_settled _ free
      apply manned_settleDone closed
      · apply manned_settleCancelled everywhere.manned
        intro pair member
        obtain ⟨entry, listed, rfl⟩ := List.mem_map.mp member
        exact borne entry (List.mem_of_mem_filter listed)
      · intro triple member
        obtain ⟨entry, listed, found⟩ := List.mem_filterMap.mp member
        obtain ⟨ending, -, rfl⟩ := Option.map_eq_some_iff.mp found
        exact borne entry listed
    · exact everywhere
  | saveQueueCrashSafe raises => exact everywhere_store everywhere (stocked_save stocked raises)
  | crash window resources runId =>
    exact everywhere_boot stocked (fun batch listed row member => brought row ⟨batch, listed, member⟩) resources runId

end Step

section Run

/-- The copies of a row that a run has: on disk, in memory, in the hands of the dispatch and running. -/
def Copy (run : Run) (row : Record) : Prop :=
  row ∈ run.runtime.store.backend.queue ∨ row ∈ run.runtime.store.state.queue ∨
    (∃ job, run.hand = some (row, job)) ∨
    ∃ uid entry, run.runtime.tracker.get? uid = some entry ∧ entry.snapshot = row

theorem Everywhere.copy {run : Run} (everywhere : Everywhere P run) (copy : Copy run row) : P row := by
  rcases copy with disk | queued | ⟨job, held⟩ | ⟨uid, entry, tracked, rfl⟩
  · exact everywhere.manned.stocked.disk row disk
  · exact everywhere.manned.stocked.memory row queued
  · exact (everywhere.inHand row job held).1
  · exact (everywhere.manned.running uid entry tracked).1

/-- A property that the rewritings keep holds of every copy in every run, if it holds of all rows that are
on disk at first and of all that other processes bring. -/
theorem everywhere_run (closed : Closed config P) {backend : Memory} (opening : ∀ row ∈ backend.queue, P row)
    (now : Text) {window : Recovery.Window} (windowed : ∀ batch ∈ window.enqueued, ∀ row ∈ batch.1, P row)
    (resources : ResourceManager) (runId : Option String) {operations : List Operation}
    (brought : ∀ operation ∈ operations, ∀ row, Brings row operation → P row) :
    Everywhere P (history config backend now window resources runId operations) := by
  have stocked : Stocked P (fresh backend now) :=
    ⟨opening, fun _ none => absurd none List.not_mem_nil, fun _ none => absurd none List.not_mem_nil⟩
  exact @Machine.run_invariant_of_mem _ _ (step config) (Everywhere P)
    (fun operation => ∀ row, Brings row operation → P row) _
    (everywhere_boot stocked windowed resources runId)
    (fun _ _ brought everywhere => everywhere_step closed everywhere brought) _ brought

end Run

end Tasklite.Engine.Provenance
