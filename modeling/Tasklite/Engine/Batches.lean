import Tasklite.Engine.Settlement

/-! Settling a batch of executions. Whatever the completion of an entry raises, and
whether before or after the commit, the entry is settled: it has left the tracker and
the index, its lease is released, and its row is back in the queue unless a commit
decided otherwise. -/

namespace Tasklite.Engine.Batches
open Tasklite.Library Tasklite.Models Tasklite.Models.Identity Tasklite.Models.Coherence Tasklite.Backend
open PipelineState StateStore Ledger Custody Strikes Settlement

variable [Python] {uid : String} {row : Record} {runtime after : Runtime} {entry : InFlightJob}
variable {store : StateStore} (config : StoreConfig)

section Intake

theorem uid_setDefault {key : String} {value : Json} (notType : "task_type" ≠ key) (notId : "job_id" ≠ key)
    (identified : Identified row) : Identified (setDefault row key value) ∧
      jobUidFromSnapshot (setDefault row key value) = jobUidFromSnapshot row := by
  unfold setDefault
  split
  · exact ⟨identified_set notType notId identified, uid_set notType notId identified⟩
  · exact ⟨identified, rfl⟩

/-- Filling in what the task specifies keeps the uid. -/
theorem uid_normalizeJobSnapshot (identified : Identified row) (taskType : String) :
    Identified (normalizeJobSnapshot config row taskType) ∧
      jobUidFromSnapshot (normalizeJobSnapshot config row taskType) = jobUidFromSnapshot row := by
  unfold normalizeJobSnapshot
  dsimp only
  generalize Json.obj _ = resources
  have resourced : Identified (row.set "resources" resources) ∧
      jobUidFromSnapshot (row.set "resources" resources) = jobUidFromSnapshot row :=
    ⟨identified_set (by decide) (by decide) identified, uid_set (by decide) (by decide) identified⟩
  have budgeted := @uid_setDefault _ _ "max_retries" (.int (((config.tasks.get? taskType).map
    fun task => task.maxRetries).getD 3)) (by decide) (by decide) resourced.1
  have timed := @uid_setDefault _ _ "timeout_seconds" (((config.tasks.get? taskType).map
    fun task => task.timeoutSeconds.toJson).getD (.int 3600)) (by decide) (by decide) budgeted.1
  have flagged := @uid_setDefault _ _ "timeout_is_transient" (.bool (((config.tasks.get? taskType).map
    fun task => task.timeoutIsTransient).getD false)) (by decide) (by decide) timed.1
  have triggered := @uid_setDefault _ _ "trigger" (.str (((config.tasks.get? taskType).map
    fun task => task.trigger).getD "once")) (by decide) (by decide) flagged.1
  exact ⟨triggered.1, triggered.2.trans (flagged.2.trans (timed.2.trans (budgeted.2.trans resourced.2)))⟩

/-- A child is enqueued under its own uid. -/
theorem uid_normalizeSpawnedJob (store : StateStore) (job : Job) :
    Identified (store.normalizeSpawnedJob config job) ∧
      jobUidFromSnapshot (store.normalizeSpawnedJob config job) = job.uid := by
  obtain ⟨taskType, jobId⟩ := toDict_parts job
  obtain ⟨identified, own⟩ := uid_of_parts taskType jobId
  obtain ⟨normalized, same⟩ := uid_normalizeJobSnapshot config identified job.taskType.val
  unfold normalizeSpawnedJob finalizeIntakeSnapshot injectWorkerResource
  dsimp only
  generalize Json.obj _ = resources
  have injected : Identified ((normalizeJobSnapshot config job.toDict job.taskType.val).set "resources" resources) :=
    identified_set (by decide) (by decide) normalized
  have named : jobUidFromSnapshot
      ((normalizeJobSnapshot config job.toDict job.taskType.val).set "resources" resources) = job.uid := by
    rw [uid_set (by decide) (by decide) normalized, same, own]
  split
  · exact ⟨injected, named⟩
  · exact ⟨identified_set (by decide) (by decide) injected,
      (uid_set (by decide) (by decide) injected).trans named⟩

/-- The children that are let through are free to be spawned. -/
theorem spawnable_collectSpawned (orderly : Orderly ∅ store.state.queue store.state) (jobs : List Job) :
    Spawnable ∅ store.state (Runtime.collectSpawnedJobSnapshots config store jobs) := by
  have uids : (Runtime.collectSpawnedJobSnapshots config store jobs).map jobUidFromSnapshot =
      (Fresh.fresh Job.uid (store.state.queueUids ∪ store.state.inFlightUids) jobs).map Job.uid := by
    unfold Runtime.collectSpawnedJobSnapshots
    rw [List.map_map]
    apply List.map_congr_left
    intro job _
    rw [Function.comp_apply]
    exact (uid_normalizeSpawnedJob config store job).2
  have free : Disjoint (uidsOf (Runtime.collectSpawnedJobSnapshots config store jobs))
      (store.state.queueUids ∪ store.state.inFlightUids) := by
    rw [Finset.disjoint_left]
    intro uid member
    rw [uidsOf, Fresh.keys, uids] at member
    obtain ⟨job, listed, rfl⟩ := List.mem_map.mp (List.mem_toFinset.mp member)
    exact Fresh.key_notMem_of_mem_fresh listed
  rw [Finset.disjoint_union_right, orderly.coherent.queueUids] at free
  refine ⟨?_, ?_, free.1, free.2, Finset.disjoint_empty_right _⟩
  · intro row member
    obtain ⟨job, -, rfl⟩ := List.mem_map.mp member
    exact (uid_normalizeSpawnedJob config store job).1
  · rw [uids]
    exact Fresh.fresh_nodup _ _

end Intake

section Entry

/-- An entry whose row and job belong to its uid. -/
structure Genuine (entry : InFlightJob) : Prop where
  named : Identified entry.snapshot
  own : jobUidFromSnapshot entry.snapshot = entry.jobUid
  job : entry.job.uid = entry.jobUid

/-- A retry is enqueued under the uid of its job. -/
theorem uid_buildRetryJobSnapshot (job : Job) (snapshot : Record) (retryError : Option Json) (isTransient : Bool) :
    Identified (Runtime.buildRetryJobSnapshot job snapshot retryError isTransient) ∧
      jobUidFromSnapshot (Runtime.buildRetryJobSnapshot job snapshot retryError isTransient) = job.uid := by
  unfold Runtime.buildRetryJobSnapshot
  dsimp only
  generalize counting : (if isTransient then job else { job with
    attemptNo := ⟨job.attemptNo.val + 1, Nat.le_add_left 1 _⟩ }) = counted
  have same : counted.uid = job.uid := by
    rw [← counting]
    split <;> rfl
  obtain ⟨taskType, jobId⟩ := update_toDict_parts counted snapshot
  obtain ⟨identified, own⟩ := uid_of_parts taskType jobId
  generalize Json.obj (entriesOf _) = resources
  have resourced : Identified ((snapshot.update counted.toDict.entries).set "resources" resources) :=
    identified_set (by decide) (by decide) identified
  refine ⟨identified_set (by decide) (by decide) resourced, ?_⟩
  rw [uid_set (by decide) (by decide) resourced, uid_set (by decide) (by decide) identified, own, same]

theorem applySuccess_fst (store : StateStore) (runId : Option String) (entry : InFlightJob)
    (result : ExecutionResult) (surroundings : Surroundings) :
    (Runtime.applySuccess config store runId entry result surroundings).1 = (store.applySuccess config
      ⟨entry.jobUid, result.resultMetadata, Runtime.collectSpawnedJobSnapshots config store result.spawnedJobs,
        Dict.ofPairs result.cursorUpdates, surroundings.artifacts, surroundings.inputs, runId, entry.snapshot,
        entry.attemptId, entry.executionId⟩).1 := by
  unfold Runtime.applySuccess
  split <;> (rename_i ended; rw [ended])

/-- The commit of a result gives the entry up, in all three ways. -/
theorem gives_commitResult (orderly : Orderly ∅ runtime.store.state.queue runtime.store.state)
    (flying : entry.jobUid ∈ runtime.store.state.inFlightUids) (genuine : Genuine entry)
    (result : ExecutionResult) (surroundings : Surroundings) :
    Gives runtime.store ∅ entry.jobUid entry.snapshot
      (Runtime.commitResult config runtime entry result surroundings).1 := by
  have owned : Owned ∅ runtime.store.state entry.jobUid := Or.inr flying
  unfold Runtime.commitResult
  split
  · unfold Runtime.applyRetry
    dsimp only
    split
    · have failed := gives_applyFailure config orderly owned genuine.named genuine.own
        (Runtime.maxRetriesMetadata entry.snapshot result.retryError) .failed entry.attemptId
      split <;> (rename_i ended; rw [ended] at failed; exact failed)
    · obtain ⟨named, same⟩ := uid_buildRetryJobSnapshot entry.job entry.snapshot result.retryError
        result.transientKind.isSome
      have retried := gives_applyRetry config orderly owned genuine.named genuine.own named
        (same.trans genuine.job) result.transientKind entry.attemptId result.retryError
      split <;> (rename_i ended; rw [ended] at retried; exact retried)
  · split
    · rw [applySuccess_fst]
      exact gives_applySuccess config ⟨_, _, _, _, _, _, _, _, _, _⟩ orderly owned genuine.named genuine.own
        (spawnable_collectSpawned config orderly result.spawnedJobs)
    · unfold Runtime.applyFailure
      have failed := gives_applyFailure config orderly owned genuine.named genuine.own
        result.resultMetadata .failed entry.attemptId
      split <;> (rename_i ended; rw [ended] at failed; exact failed)

/-- Up to its end a completion has given the entry up, or not touched the store. -/
theorem gives_completeJob (orderly : Orderly ∅ runtime.store.state.queue runtime.store.state)
    (flying : entry.jobUid ∈ runtime.store.state.inFlightUids) (genuine : Genuine entry)
    (result : ExecutionResult) (surroundings : Surroundings) :
    let completed := (Runtime.completeJob config runtime entry result surroundings).1
    (Gives runtime.store ∅ entry.jobUid entry.snapshot completed.store ∨ completed.store = runtime.store) ∧
      completed.tracker = runtime.tracker ∧
      completed.resources = (runtime.suspendAll surroundings.instant
        result.resourceSuspensions).resources.releaseLease entry.lease := by
  have applied : let applied := (Runtime.applyResult config runtime entry result surroundings).1
      (Gives runtime.store ∅ entry.jobUid entry.snapshot applied.store ∨
        applied.store = runtime.store ∧
          ∃ message, (Runtime.applyResult config runtime entry result surroundings).2 = .error (.raised message)) ∧
      applied.tracker = runtime.tracker ∧
      applied.resources = (runtime.suspendAll surroundings.instant result.resourceSuspensions).resources := by
    unfold Runtime.applyResult
    rw [if_neg (not_not_intro flying)]
    dsimp only
    split
    · rename_i message _
      exact ⟨Or.inr ⟨rfl, message, rfl⟩, rfl, rfl⟩
    · exact ⟨Or.inl (gives_commitResult config orderly flying genuine _ surroundings), rfl, rfl⟩
  unfold Runtime.completeJob
  dsimp only
  generalize Runtime.applyResult config runtime entry result surroundings = outcome at applied ⊢
  obtain ⟨reached, answer⟩ := outcome
  dsimp only at applied
  obtain ⟨store, tracker, resources⟩ := applied
  cases answer with
  | error signal =>
    have kept : Gives runtime.store ∅ entry.jobUid entry.snapshot reached.store ∨
        reached.store = runtime.store := by
      rcases store with gives | ⟨same, -⟩
      · exact Or.inl gives
      · exact Or.inr same
    cases signal <;> exact ⟨kept, tracker, by rw [← resources]; rfl⟩
  | ok willRetry =>
    rcases store with gives | ⟨-, message, impossible⟩
    · have fired := gives.alike (alike_fireAttemptFinished reached.store entry.jobUid
        ⟨(Runtime.checkedResult result surroundings).success, willRetry,
          (Runtime.checkedResult result surroundings).resultMetadata⟩)
      dsimp only
      cases surroundings.hookInterrupt <;> exact ⟨Or.inl fired, tracker, by rw [← resources]; rfl⟩
    · cases impossible

end Entry

section Settle

/-- The lease at a place has been given back. -/
def Released (resources : ResourceManager) (lease : ℕ) : Prop :=
  ∀ held ∈ resources.leases[lease]?, held.status = .released

omit [Python] in
theorem leases_suspendAll (runtime : Runtime) (instant : ℚ) (suspensions : List (String × ℚ)) :
    (runtime.suspendAll instant suspensions).resources.leases = runtime.resources.leases := by
  unfold Runtime.suspendAll
  generalize runtime.resources = resources
  induction suspensions generalizing resources with
  | nil => rfl
  | cons suspension rest ih =>
    have one : (resources.suspendResource instant suspension.1 suspension.2).1.leases = resources.leases := by
      unfold ResourceManager.suspendResource
      split <;> rfl
    exact (ih _).trans one

omit [Python] in
theorem released_releaseLease (resources : ResourceManager) (lease : ℕ) :
    Released (resources.releaseLease lease) lease := by
  unfold Released ResourceManager.releaseLease
  split
  · rename_i absent
    simp [absent]
  · rename_i held found
    split
    · rename_i released
      simp [found, released]
    · obtain ⟨inside, -⟩ := List.getElem?_eq_some_iff.mp found
      intro other member
      dsimp only at member
      rw [ResourceManager.leases_releaseAll, List.getElem?_set_self inside, Option.mem_some_iff] at member
      rw [← member]

omit [Python] in
theorem Released.releaseLease {resources : ResourceManager} {lease : ℕ} (released : Released resources lease)
    (other : ℕ) : Released (resources.releaseLease other) lease := by
  by_cases same : other = lease
  · rw [same]
    exact released_releaseLease resources lease
  · unfold ResourceManager.releaseLease
    split
    · exact released
    · split
      · exact released
      · unfold Released
        dsimp only
        rw [List.getElem?_set_ne same, ResourceManager.leases_releaseAll]
        exact released

/-- What settling one entry means. -/
structure Settles (runtime : Runtime) (entry : InFlightJob) (after : Runtime) : Prop where
  gives : Gives runtime.store ∅ entry.jobUid entry.snapshot after.store
  tracker : after.tracker = runtime.tracker.erase entry.jobUid
  released : Released after.resources entry.lease
  keeps : ∀ lease, Released runtime.resources lease → Released after.resources lease

/-- After the completion, the row goes back if nothing was committed, and the entry is settled. -/
theorem gives_requeueUncommitted {store : StateStore}
    (orderly : Orderly ∅ runtime.store.state.queue runtime.store.state)
    (flying : entry.jobUid ∈ runtime.store.state.inFlightUids) (genuine : Genuine entry)
    (completed : after.store = store)
    (ended : Gives runtime.store ∅ entry.jobUid entry.snapshot store ∨ store = runtime.store) :
    Gives runtime.store ∅ entry.jobUid entry.snapshot
      ((Runtime.requeueUncommitted after entry).settle entry.jobUid).store := by
  have settled : ∀ other : Runtime, entry.jobUid ∉ other.store.state.inFlightUids →
      (other.settle entry.jobUid).store = other.store := by
    intro other landed
    show (if entry.jobUid ∈ other.store.state.inFlightUids then _ else other.store) = _
    rw [if_neg landed]
  rcases ended with gives | same
  · have landed : entry.jobUid ∉ after.store.state.inFlightUids := by
      rw [completed, gives.flight]
      exact Finset.notMem_erase _ _
    have kept : Runtime.requeueUncommitted after entry = after := by
      show ({ after with
        store := if entry.jobUid ∈ after.store.state.inFlightUids then _ else after.store } : Runtime) = after
      rw [if_neg landed]
    rw [kept, settled after landed, completed]
    exact gives
  · have whole : after.store = runtime.store := completed.trans same
    have requeued : (Runtime.requeueUncommitted after entry).store = runtime.store.mapState fun state =>
        (state.unregisterInFlight entry.jobUid).requeueJobs [entry.snapshot] true := by
      show (if entry.jobUid ∈ after.store.state.inFlightUids then _ else _) = _
      rw [whole, if_pos flying]
      rfl
    have landed : entry.jobUid ∉ (Runtime.requeueUncommitted after entry).store.state.inFlightUids := by
      rw [requeued]
      exact Finset.notMem_erase _ _
    rw [settled _ landed, requeued]
    exact ⟨@passes_requeue _ _ _ _ _ _ 0 orderly (Or.inr flying) genuine.named genuine.own genuine.own rfl true, rfl⟩

theorem settles_completeAndSettle (orderly : Orderly ∅ runtime.store.state.queue runtime.store.state)
    (flying : entry.jobUid ∈ runtime.store.state.inFlightUids) (genuine : Genuine entry)
    (result : ExecutionResult) (surroundings : Surroundings) :
    Settles runtime entry (Runtime.completeAndSettle config runtime entry result surroundings).1 := by
  obtain ⟨ended, tracker, resources⟩ := gives_completeJob config orderly flying genuine result surroundings
  refine ⟨gives_requeueUncommitted orderly flying genuine rfl ended, ?_, ?_, ?_⟩
  · exact congrArg (Dict.erase · entry.jobUid) tracker
  · show Released (Runtime.completeJob config runtime entry result surroundings).1.resources entry.lease
    rw [resources]
    exact released_releaseLease _ _
  · intro lease released
    show Released (Runtime.completeJob config runtime entry result surroundings).1.resources lease
    rw [resources]
    apply Released.releaseLease
    unfold Released
    rw [leases_suspendAll]
    exact released

theorem settles_cancelAndSettle (orderly : Orderly ∅ runtime.store.state.queue runtime.store.state)
    (flying : entry.jobUid ∈ runtime.store.state.inFlightUids) (genuine : Genuine entry)
    (cleanupFault : Option String) :
    Settles runtime entry (Runtime.cancelAndSettle runtime entry cleanupFault).1 where
  gives := gives_requeueUncommitted orderly flying genuine rfl (Or.inr rfl)
  tracker := rfl
  released := released_releaseLease _ _
  keeps := fun _ released => released.releaseLease entry.lease

end Settle

section Batch

/-- The tracker has exactly what is in flight, under its uid, and the memory is in order. -/
structure Running (runtime : Runtime) : Prop where
  orderly : Orderly ∅ runtime.store.state.queue runtime.store.state
  index : ∀ uid, uid ∈ runtime.tracker.keys ↔ uid ∈ runtime.store.state.inFlightUids
  entries : ∀ uid entry, runtime.tracker.get? uid = some entry → entry.jobUid = uid ∧ Genuine entry

theorem Running.flying (running : Running runtime) (tracked : runtime.tracker.get? uid = some entry) :
    uid ∈ runtime.store.state.inFlightUids :=
  (running.index uid).mp (Dict.mem_keys_iff.mpr ⟨entry, tracked⟩)

theorem Settles.running (settles : Settles runtime entry after) (running : Running runtime) : Running after where
  orderly := by simpa using settles.gives.passes.orderly
  index := by
    intro uid
    rw [settles.tracker, settles.gives.flight, Dict.mem_keys_erase, Finset.mem_erase, running.index]
  entries := by
    intro uid other tracked
    rw [settles.tracker, Dict.get?_erase] at tracked
    split at tracked
    · cases tracked
    · exact running.entries uid other tracked

/-- Tracked entries are settled one after the other. -/
inductive SettlesAll : Runtime → List InFlightJob → Runtime → Prop
  | nil (runtime : Runtime) : SettlesAll runtime [] runtime
  | cons {runtime between after : Runtime} {entry : InFlightJob} {rest : List InFlightJob}
      (tracked : runtime.tracker.get? entry.jobUid = some entry) (settles : Settles runtime entry between)
      (later : SettlesAll between rest after) : SettlesAll runtime (entry :: rest) after

variable {between : Runtime} {entries others : List InFlightJob}

theorem SettlesAll.append (first : SettlesAll runtime entries between)
    (second : SettlesAll between others after) : SettlesAll runtime (entries ++ others) after := by
  induction first with
  | nil => exact second
  | cons tracked settles _ ih => exact .cons tracked settles (ih second)

theorem SettlesAll.running (settled : SettlesAll runtime entries after) (running : Running runtime) :
    Running after := by
  induction settled with
  | nil => exact running
  | cons _ settles _ ih => exact ih (settles.running running)

theorem SettlesAll.keeps (settled : SettlesAll runtime entries after) (lease : ℕ)
    (released : Released runtime.resources lease) : Released after.resources lease := by
  induction settled with
  | nil => exact released
  | cons _ settles _ ih => exact ih (settles.keeps lease released)

/-- The rows of a job that has landed are moved only by what is committed while others are settled. -/
theorem SettlesAll.aside (settled : SettlesAll runtime entries after) (running : Running runtime)
    (landed : uid ∉ runtime.store.state.inFlightUids)
    (once : (rowsOf uid runtime.store.state.queue).length ≤ 1) :
    uid ∉ after.store.state.inFlightUids ∧
      ∃ events, after.store.events = runtime.store.events ++ events ∧
        MovesAt uid runtime.store.state.queue after.store.state.queue events := by
  induction settled with
  | nil => exact ⟨landed, [], by simp, movesAt_refl _ rfl⟩
  | @cons runtime between after entry rest tracked settles _ ih =>
    have genuine := (running.entries _ _ tracked).2
    have different : uid ≠ entry.jobUid := fun same => landed (same ▸ running.flying tracked)
    have same : rowsOf uid (entry.snapshot :: runtime.store.state.queue) = rowsOf uid runtime.store.state.queue :=
      rowsOf_cons_of_ne genuine.own different
    obtain ⟨events, told, moves⟩ := settles.gives.passes.moved
    have move := moves uid (same ▸ once)
    have next : uid ∉ between.store.state.inFlightUids := by
      rw [settles.gives.flight]
      exact fun member => landed (Finset.mem_of_mem_erase member)
    obtain ⟨gone, later, following, moving⟩ := ih (settles.running running) next (move.length_le (same ▸ once))
    refine ⟨gone, events ++ later, by rw [following, told, List.append_assoc], ?_⟩
    apply MovesAt.trans _ moving
    unfold MovesAt at move ⊢
    rw [same] at move
    exact move

/-- What is promised of every entry of a batch: it has left the tracker and the index, its lease is
released, and its uid is in the queue exactly once, with the row it was dispatched with and perhaps strikes
counted in it, if no commit decided about the job; it is not queued if the last commit was terminal. -/
structure SettledExactly (before after : Runtime) (entry : InFlightJob) : Prop where
  untracked : entry.jobUid ∉ after.tracker.keys
  landed : entry.jobUid ∉ after.store.state.inFlightUids
  released : Released after.resources entry.lease
  row : ∃ events, after.store.events = before.store.events ++ events ∧
    MovesAt entry.jobUid [entry.snapshot] after.store.state.queue events

/-- The row of the entry that is settled first. -/
theorem SettlesAll.first (settles : Settles runtime entry between) (later : SettlesAll between entries after)
    (running : Running runtime) (tracked : runtime.tracker.get? entry.jobUid = some entry) :
    SettledExactly runtime after entry := by
  have genuine := (running.entries _ _ tracked).2
  have absent : entry.jobUid ∉ uidsOf runtime.store.state.queue :=
    running.orderly.notMem_of_owned (Or.inr (running.flying tracked))
  have single : rowsOf entry.jobUid (entry.snapshot :: runtime.store.state.queue) =
      rowsOf entry.jobUid [entry.snapshot] :=
    (rowsOf_cons_self genuine.own absent).trans (rowsOf_cons_self genuine.own (by simp [uidsOf])).symm
  have once : (rowsOf entry.jobUid (entry.snapshot :: runtime.store.state.queue)).length ≤ 1 := by
    rw [rowsOf_cons_self genuine.own absent, List.length_singleton]
  have landed : entry.jobUid ∉ between.store.state.inFlightUids := by
    rw [settles.gives.flight]
    exact Finset.notMem_erase _ _
  obtain ⟨events, told, moves⟩ := settles.gives.passes.moved
  have move := moves entry.jobUid once
  obtain ⟨gone, news, following, moving⟩ := later.aside (settles.running running) landed (move.length_le once)
  have finish := later.running (settles.running running)
  refine ⟨fun listed => gone ((finish.index _).mp listed), gone, later.keeps _ settles.released, events ++ news,
    by rw [following, told, List.append_assoc], ?_⟩
  apply MovesAt.trans _ moving
  unfold MovesAt at move ⊢
  rw [single] at move
  exact move

/-- Every entry of the batch is settled as promised, wherever it stands. -/
theorem SettlesAll.exactly (settled : SettlesAll runtime entries after) (running : Running runtime)
    (member : entry ∈ entries) (tracked : runtime.tracker.get? entry.jobUid = some entry) :
    SettledExactly runtime after entry := by
  induction settled with
  | nil => cases member
  | @cons runtime between after head rest known settles later ih =>
    by_cases same : entry.jobUid = head.jobUid
    · have equal : entry = head := by
        rw [same, known, Option.some.injEq] at tracked
        exact tracked.symm
      rw [equal]
      exact SettlesAll.first settles later running known
    · -- nothing is decided about the entry while another one is settled
      have waiting : entry ∈ rest := by
        rcases List.mem_cons.mp member with equal | inside
        · exact absurd (congrArg InFlightJob.jobUid equal) same
        · exact inside
      have still : between.tracker.get? entry.jobUid = some entry := by
        rw [settles.tracker, Dict.get?_erase, if_neg same]
        exact tracked
      have next := settles.running running
      obtain ⟨untracked, landed, released, news, following, moves⟩ := ih next waiting still
      obtain ⟨events, told, -⟩ := settles.gives.passes.moved
      have quiet := (settles.gives.passes.aside entry.jobUid (Or.inr (next.flying still))).2 events told
      refine ⟨untracked, landed, released, events ++ news, by rw [following, told, List.append_assoc], ?_⟩
      unfold MovesAt at moves ⊢
      rw [lastVerdict_append, quiet]
      cases decided : lastVerdict entry.jobUid news with
      | none =>
        rw [decided] at moves
        exact moves
      | some queued =>
        rw [decided] at moves
        cases queued <;> exact moves

end Batch

section Loops

/-- The loop over reaped executions settles those that are tracked. -/
theorem settlesAll_settleReaped (reaped : List (String × ExecutionResult × Surroundings))
    (running : Running runtime) (error : Option Signal) :
    ∃ entries, SettlesAll runtime entries (Runtime.settleReaped config reaped runtime error).1 ∧
      ∀ uid ∈ reaped.map Prod.fst, ∀ entry, runtime.tracker.get? uid = some entry → entry ∈ entries := by
  induction reaped generalizing runtime error with
  | nil => exact ⟨[], .nil runtime, by simp⟩
  | cons head rest ih =>
    rcases head with ⟨uid, result, surroundings⟩
    unfold Runtime.settleReaped
    cases found : runtime.tracker.get? uid with
    | none =>
      obtain ⟨entries, settled, listed⟩ := ih running error
      refine ⟨entries, settled, ?_⟩
      intro other member entry tracked
      rcases List.mem_cons.mp member with rfl | later
      · rw [found] at tracked
        cases tracked
      · exact listed other later entry tracked
    | some entry =>
      obtain ⟨own, genuine⟩ := running.entries _ _ found
      have flying := running.flying found
      subst own
      have settles := settles_completeAndSettle config running.orderly flying genuine result surroundings
      obtain ⟨entries, settled, listed⟩ := ih (settles.running running)
        (error <|> (Runtime.completeAndSettle config runtime entry result surroundings).2)
      refine ⟨entry :: entries, .cons found settles settled, ?_⟩
      intro other member found' tracked
      by_cases same : other = entry.jobUid
      · rw [same, found, Option.some.injEq] at tracked
        exact tracked ▸ List.mem_cons_self
      · apply List.mem_cons_of_mem
        apply listed other
        · rcases List.mem_cons.mp member with equal | later
          · exact absurd equal same
          · exact later
        · rw [settles.tracker, Dict.get?_erase, if_neg same]
          exact tracked

/-- Different tracked entries. -/
def Distinct (runtime : Runtime) (entries : List InFlightJob) : Prop :=
  (entries.map InFlightJob.jobUid).Nodup ∧
    ∀ entry ∈ entries, runtime.tracker.get? entry.jobUid = some entry

omit [Python] in
theorem Distinct.tail {rest : List InFlightJob} (distinct : Distinct runtime (entry :: rest))
    (tracker : after.tracker = runtime.tracker.erase entry.jobUid) : Distinct after rest := by
  obtain ⟨once, tracked⟩ := distinct
  rw [List.map_cons, List.nodup_cons] at once
  refine ⟨once.2, fun other member => ?_⟩
  rw [tracker, Dict.get?_erase, if_neg]
  · exact tracked other (List.mem_cons_of_mem _ member)
  · exact fun same => once.1 (List.mem_map.mpr ⟨other, member, same⟩)

theorem settlesAll_settleCancelled (cancelled : List (InFlightJob × Option String)) (running : Running runtime)
    (distinct : Distinct runtime (cancelled.map Prod.fst)) (error : Option Signal) :
    SettlesAll runtime (cancelled.map Prod.fst) (Runtime.settleCancelled cancelled runtime error).1 := by
  induction cancelled generalizing runtime error with
  | nil => exact .nil runtime
  | cons head rest ih =>
    rcases head with ⟨entry, cleanupFault⟩
    have tracked := distinct.2 entry List.mem_cons_self
    have settles := settles_cancelAndSettle running.orderly (running.flying tracked)
      (running.entries _ _ tracked).2 cleanupFault
    exact .cons tracked settles (ih (settles.running running) (distinct.tail settles.tracker) _)

theorem settlesAll_settleDone (ended : List (InFlightJob × ExecutionResult × Surroundings))
    (running : Running runtime) (distinct : Distinct runtime (ended.map Prod.fst)) (error : Option Signal) :
    SettlesAll runtime (ended.map Prod.fst) (Runtime.settleDone config ended runtime error).1 := by
  induction ended generalizing runtime error with
  | nil => exact .nil runtime
  | cons head rest ih =>
    rcases head with ⟨entry, result, surroundings⟩
    have tracked := distinct.2 entry List.mem_cons_self
    have settles := settles_completeAndSettle config running.orderly (running.flying tracked)
      (running.entries _ _ tracked).2 result surroundings
    exact .cons tracked settles (ih (settles.running running) (distinct.tail settles.tracker) _)

theorem SettlesAll.tracker {entries : List InFlightJob} (settled : SettlesAll runtime entries after) :
    after.tracker.get? uid = if uid ∈ entries.map InFlightJob.jobUid then none else runtime.tracker.get? uid := by
  induction settled with
  | nil => simp
  | @cons runtime between after head rest _ settles _ ih =>
    rw [ih, settles.tracker, Dict.get?_erase, List.map_cons]
    by_cases same : uid = head.jobUid
    · simp [same]
    · simp [same]

theorem settlesAll_settleAborted {cancelled : List (InFlightJob × Option String)}
    {ended : List (InFlightJob × ExecutionResult × Surroundings)} (running : Running runtime)
    (distinct : Distinct runtime (cancelled.map Prod.fst ++ ended.map Prod.fst)) :
    SettlesAll runtime (cancelled.map Prod.fst ++ ended.map Prod.fst)
      (Runtime.settleAborted config runtime cancelled ended).1 := by
  obtain ⟨once, tracked⟩ := distinct
  rw [List.map_append, List.nodup_append'] at once
  have first := settlesAll_settleCancelled cancelled running
    ⟨once.1, fun entry member => tracked entry (List.mem_append_left _ member)⟩ none
  apply first.append
  apply settlesAll_settleDone config ended (first.running running)
  refine ⟨once.2.1, fun entry member => ?_⟩
  rw [first.tracker, if_neg]
  · exact tracked entry (List.mem_append_right _ member)
  · exact fun cancel => once.2.2 cancel (List.mem_map.mpr ⟨entry, member, rfl⟩)

end Loops

section Main

end Main

end Tasklite.Engine.Batches
