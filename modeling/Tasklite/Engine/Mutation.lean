import Mathlib.Logic.Relation
import Tasklite.Engine.Filling

/-! What the engine does to the state of a run. Between two loads the state changes by calls of its mutators
only, so that a relation that every mutator respects is respected by every operation. -/

namespace Tasklite.Engine.Mutation
open Tasklite.Library Tasklite.Models Tasklite.Backend
open StateStore

variable [Python]

/-- One call of a mutator, or an assertion that fails. -/
inductive Mutates (state : PipelineState) : PipelineState → Prop
  | popped {idx : ℕ} {row : Record} {after : PipelineState} (popping : state.popJob idx = some (row, after)) :
      Mutates state after
  | spawned (snapshots : List Record) (front : Bool) : Mutates state (state.spawnJobs snapshots front)
  | removed (jobUid : String) : Mutates state (state.removeQueuedUid jobUid)
  | registered (jobUid : String) : Mutates state (state.registerInFlight jobUid)
  | unregistered (jobUid : String) : Mutates state (state.unregisterInFlight jobUid)
  | replaced (snapshots : List Record) : Mutates state (state.replaceQueue snapshots)
  | succeeded (jobUid : String) (metadata : Record) : Mutates state (state.markSuccess jobUid metadata)
  | failed (jobUid : String) (metadata : Record) : Mutates state (state.markFailed jobUid metadata)
  | advanced (updates : List (String × Option String)) : Mutates state (state.updateCursors updates)
  | refuted : Mutates state { state with asserted := false }

abbrev Moves : PipelineState → PipelineState → Prop := Relation.ReflTransGen Mutates

/-- What a store does to the state by an operation. -/
abbrev Evolves (store after : StateStore) : Prop := Moves store.state after.state

section Store

variable (config : StoreConfig) {store between after : StateStore}

theorem evolves_refl (store : StateStore) : Evolves store store := .refl

theorem Evolves.trans (first : Evolves store between) (second : Evolves between after) : Evolves store after :=
  Relation.ReflTransGen.trans first second

theorem Evolves.of_eq {finish : StateStore} (evolves : Evolves store after) (same : finish.state = after.state) :
    Evolves store finish := by
  rw [Evolves, same]
  exact evolves

theorem Evolves.mapState {change : PipelineState → PipelineState} (evolves : Evolves store after)
    (mutates : Mutates after.state (change after.state)) : Evolves store (after.mapState change) :=
  evolves.tail mutates

theorem evolves_mapState {change : PipelineState → PipelineState}
    (mutates : Mutates store.state (change store.state)) :
    Evolves store (store.mapState change) :=
  (evolves_refl store).mapState mutates

theorem evolves_commit {event : Event} {transaction : Memory → Memory × Bool} {answer : Bool}
    (ended : store.commit event transaction = (after, answer)) : Evolves store after := by
  apply (evolves_refl store).of_eq
  rw [← Filling.commit_state store event transaction, ended]

theorem Evolves.recordStat (evolves : Evolves store after) (key : StatKey) (amount : ℕ) :
    Evolves store (after.recordStat key amount) := evolves

theorem Evolves.noteCall (evolves : Evolves store after) (call : TraceCall) : Evolves store (after.noteCall call) :=
  evolves

theorem Evolves.finishAttempt (evolves : Evolves store after) (attemptId : Option Int) (outcome : Outcome)
    (errorMessage : Option Json) : Evolves store (after.finishAttempt attemptId outcome errorMessage) :=
  evolves.of_eq (Custody.alike_finishAttempt after attemptId outcome errorMessage).state

theorem Evolves.fireAttemptFinished (evolves : Evolves store after) (jobUid : String) (outcome : AttemptOutcome) :
    Evolves store (after.fireAttemptFinished jobUid outcome) :=
  evolves.of_eq (Custody.alike_fireAttemptFinished after jobUid outcome).state

theorem Evolves.markFailedMemory (evolves : Evolves store after) (jobUid : String) (metadata : Record)
    (unregister : Bool) : Evolves store (after.markFailedMemory config jobUid metadata unregister) := by
  have marked : Evolves store (after.mapState fun state =>
      state.markFailed jobUid (after.normalize config metadata)) :=
    evolves.mapState (.failed jobUid _)
  cases unregister with
  | false => exact marked
  | true => exact marked.mapState (.unregistered jobUid)

theorem evolves_requeueTransient (store : StateStore) (snapshot : Record) (transientKind : String)
    (attemptId : Option Int) (errorMessage : Option Json) :
    Evolves store (store.requeueTransient config snapshot transientKind attemptId errorMessage) := by
  have requeued : Evolves store (store.mapState fun state =>
      state.requeueJobs [snapshot] (config.planRequeue snapshot (some transientKind))) :=
    evolves_mapState (.spawned [snapshot] _)
  unfold requeueTransient
  dsimp only
  apply Evolves.finishAttempt
  split
  · exact requeued
  · exact requeued.recordStat _ 1

/-- The job leaves the index, and its row goes back to the front. -/
theorem Evolves.requeueAndCrash (evolves : Evolves store after) (jobUid : String) (snapshot : Option Record)
    (reason : String) (attemptId : Option Int) :
    Evolves store (after.requeueAndCrash jobUid snapshot reason attemptId).1 := by
  have unregistered : Evolves store (after.mapState fun state => state.unregisterInFlight jobUid) :=
    evolves.mapState (.unregistered jobUid)
  unfold StateStore.requeueAndCrash
  apply Evolves.finishAttempt
  cases snapshot with
  | none => exact unregistered
  | some row => exact unregistered.mapState (.spawned [row] true)

theorem Evolves.strike (evolves : Evolves store after) (jobUid reason : String) (snapshot : Option Record)
    (attemptId : Option Int) :
    Evolves store (after.handleCommitFailureStrike config jobUid reason snapshot attemptId).1 := by
  unfold handleCommitFailureStrike
  dsimp only
  split
  · split
    · rename_i committed took
      have committed := evolves.trans (evolves_commit took)
      exact (((committed.markFailedMemory config _ _ true).recordStat .failed 1).finishAttempt
        _ _ _).fireAttemptFinished _ _
    · rename_i refused took
      exact (evolves.trans (evolves_commit took)).requeueAndCrash _ _ _ _
  · exact evolves.requeueAndCrash _ _ _ _

theorem evolves_bulkStrikeFinalize {jobUid : String} {row : Record} {failures : Int} {answer : Bool}
    (ended : store.bulkStrikeFinalize config jobUid row failures = (after, answer)) : Evolves store after := by
  unfold bulkStrikeFinalize at ended
  split at ended
  · rename_i refused took
    obtain ⟨rfl, -⟩ := Prod.mk.inj ended
    exact evolves_commit took
  · rename_i committed took
    obtain ⟨rfl, -⟩ := Prod.mk.inj ended
    exact (((evolves_commit took).markFailedMemory config _ _ false).recordStat .failed 1).fireAttemptFinished _ _

theorem evolves_handleBulkFailureStrike (uids : List String) (store : StateStore) (rows : List Record) (kept : Bool) :
    Evolves store (handleBulkFailureStrike config uids store rows kept).1 := by
  induction uids generalizing store rows kept with
  | nil => exact evolves_refl store
  | cons uid rest ih =>
    unfold handleBulkFailureStrike
    dsimp only
    split
    · split
      · rename_i archived ended
        exact (evolves_bulkStrikeFinalize config ended).trans (ih archived _ kept)
      · rename_i refused ended
        exact (evolves_bulkStrikeFinalize config ended).trans (ih refused _ true)
    · exact ih store _ true

theorem Evolves.markEach {mark : StateStore → String → Record → StateStore}
    (marks : ∀ store uid metadata, Evolves store (mark store uid metadata)) (metas : List (String × Record))
    (evolves : Evolves store after) : Evolves store (markEach mark metas after) := by
  induction metas generalizing after with
  | nil => exact evolves
  | cons entry rest ih =>
    rcases entry with ⟨uid, metadata⟩
    exact ih ((evolves.trans (marks after uid metadata)).fireAttemptFinished uid _)

theorem evolves_settleBatch {mark : StateStore → String → Record → StateStore}
    (marks : ∀ store uid metadata, Evolves store (mark store uid metadata)) (statKey : StatKey)
    (crashMessage : ℕ → ℕ → String) (metas : List (String × Record)) (store : StateStore) :
    Evolves store (settleBatch config mark statKey crashMessage metas store).1 := by
  unfold settleBatch
  dsimp only
  split
  · rename_i committed took
    exact (((evolves_commit took).mapState (.replaced _)).recordStat _ _).markEach marks metas
  · rename_i refused took
    have struck := (evolves_commit took).trans (evolves_handleBulkFailureStrike config (metas.map Prod.fst)
      refused refused.state.queue false)
    split
    · exact struck.mapState (.replaced _)
    · exact struck.mapState (.replaced _)

theorem evolves_cascadeFail (store : StateStore) (failedUid : String) :
    Evolves store (store.cascadeFail config failedUid).1 := by
  unfold cascadeFail
  dsimp only
  split
  · exact evolves_refl store
  · refine evolves_settleBatch config (fun store uid metadata => ?_) _ _ _ store
    exact (evolves_refl store).markFailedMemory config uid metadata true

theorem evolves_applyBulkFailure (store : StateStore) (uidsMetas : List (String × Record)) :
    Evolves store (store.applyBulkFailure config uidsMetas).1 := by
  unfold applyBulkFailure
  dsimp only
  split
  · exact evolves_refl store
  · refine evolves_settleBatch config (fun store uid metadata => ?_) _ _ _ store
    exact (evolves_mapState (.failed uid metadata)).mapState (.unregistered uid)

theorem evolves_applySuccess (store : StateStore) (request : SuccessRequest) :
    Evolves store (store.applySuccess config request).1 := by
  unfold StateStore.applySuccess
  dsimp only
  split
  · rename_i committed took
    have noted := (evolves_commit took).noteCall
      (.success request.attemptId (request.attemptId.bind store.backend.attempts.get?) true)
    apply Evolves.recordStat
    refine ((Evolves.mapState ?_ (.advanced _)).mapState (.succeeded _ _)).mapState (.unregistered _)
    split
    · exact noted
    · exact noted.mapState (.spawned _ true)
  · rename_i refused took
    exact ((evolves_commit took).noteCall _).strike config _ _ _ _

theorem evolves_applyFailure (store : StateStore) (jobUid : String) (metadata snapshot : Record) (countAs : StatKey)
    (attemptId : Option Int) :
    Evolves store (store.applyFailure config jobUid metadata snapshot countAs attemptId).1 := by
  unfold StateStore.applyFailure
  dsimp only
  split
  · rename_i committed took
    have marked := (((evolves_commit took).markFailedMemory config jobUid (store.normalize config metadata)
      true).recordStat countAs 1).finishAttempt attemptId .failed (attemptError (store.normalize config metadata))
    have cascaded := marked.trans (evolves_cascadeFail config _ jobUid)
    split
    · rename_i raised signal cascading
      rw [cascading] at cascaded
      exact cascaded
    · rename_i failed uids cascading
      rw [cascading] at cascaded
      exact cascaded
  · rename_i refused took
    exact (evolves_commit took).strike config _ _ _ _

theorem evolves_applyRetry (store : StateStore) (jobUid : String) (snapshot retrySnapshot : Record)
    (transientKind : Option String) (attemptId : Option Int) (errorMessage : Option Json) :
    Evolves store (store.applyRetry config jobUid snapshot retrySnapshot transientKind attemptId errorMessage).1 := by
  unfold StateStore.applyRetry
  dsimp only
  split
  · rename_i committed took
    have unregistered : Evolves store (committed.mapState fun state => state.unregisterInFlight jobUid) :=
      (evolves_commit took).mapState (.unregistered jobUid)
    have requeued : Evolves store ((committed.mapState fun state =>
        state.unregisterInFlight jobUid).mapState fun state => state.requeueJobs [retrySnapshot] (config.planRequeue retrySnapshot transientKind)) :=
      unregistered.mapState (.spawned [retrySnapshot] _)
    apply Evolves.finishAttempt
    split
    · exact requeued.recordStat .retried 1
    · exact (requeued.recordStat .retried 1).recordStat _ 1
  · rename_i refused took
    exact (evolves_commit took).strike config _ _ _ _

theorem evolves_applySkip (store : StateStore) (jobUid : String) (snapshot : Option Record) (attemptId : Option Int) :
    Evolves store (store.applySkip jobUid snapshot attemptId).1 := by
  unfold applySkip
  dsimp only
  split
  · rename_i committed took
    exact ((((evolves_commit took).mapState (.removed jobUid)).mapState (.unregistered jobUid)).recordStat
      .skipped 1).finishAttempt _ _ _
  · rename_i refused took
    exact (evolves_commit took).requeueAndCrash _ _ _ _

theorem evolves_rejectAndCommit (store : StateStore) (jobUid : String) (snapshot metadata : Record) (countAs : StatKey)
    (attemptId : Option Int) :
    Evolves store (store.rejectAndCommit config jobUid snapshot metadata countAs attemptId).1 := by
  have applied := evolves_applyFailure config store jobUid metadata snapshot countAs attemptId
  unfold StateStore.rejectAndCommit
  split
  · rename_i failed archived ended
    rw [ended] at applied
    exact applied.fireAttemptFinished _ _
  · rename_i struck message ended
    rw [ended] at applied
    exact applied
  · rename_i raised signal other ended
    rw [ended] at applied
    exact applied

end Store

section Completions

variable (config : StoreConfig) {runtime after : Runtime}

theorem evolves_commitResult (runtime : Runtime) (entry : InFlightJob) (result : ExecutionResult)
    (surroundings : Surroundings) :
    Evolves runtime.store (Runtime.commitResult config runtime entry result surroundings).1 := by
  unfold Runtime.commitResult
  split
  · unfold Runtime.applyRetry
    dsimp only
    split
    · have failed := evolves_applyFailure config runtime.store entry.jobUid
        (Runtime.maxRetriesMetadata entry.snapshot result.retryError) entry.snapshot .failed entry.attemptId
      split
      · rename_i raised signal ended
        rw [ended] at failed
        exact failed
      · rename_i archived metadata ended
        rw [ended] at failed
        exact failed
    · have retried := evolves_applyRetry config runtime.store entry.jobUid entry.snapshot
        (Runtime.buildRetryJobSnapshot entry.job entry.snapshot result.retryError result.transientKind.isSome)
        result.transientKind entry.attemptId result.retryError
      split
      · rename_i raised signal ended
        rw [ended] at retried
        exact retried
      · rename_i requeued done ended
        rw [ended] at retried
        exact retried
  · split
    · rw [Batches.applySuccess_fst]
      exact evolves_applySuccess config runtime.store ⟨_, _, _, _, _, _, _, _, _, _⟩
    · have failed := evolves_applyFailure config runtime.store entry.jobUid result.resultMetadata entry.snapshot
        .failed entry.attemptId
      unfold Runtime.applyFailure
      split
      · rename_i raised signal ended
        rw [ended] at failed
        exact failed
      · rename_i archived metadata ended
        rw [ended] at failed
        exact failed

theorem evolves_applyResult (runtime : Runtime) (entry : InFlightJob) (result : ExecutionResult)
    (surroundings : Surroundings) :
    Evolves runtime.store (Runtime.applyResult config runtime entry result surroundings).1.store := by
  unfold Runtime.applyResult
  split
  · exact evolves_mapState .refuted
  · dsimp only
    split
    · exact evolves_refl runtime.store
    · exact evolves_commitResult config _ entry _ surroundings

theorem evolves_completeJob (runtime : Runtime) (entry : InFlightJob) (result : ExecutionResult)
    (surroundings : Surroundings) :
    Evolves runtime.store (Runtime.completeJob config runtime entry result surroundings).1.store := by
  have applied := evolves_applyResult config runtime entry result surroundings
  unfold Runtime.completeJob
  dsimp only
  split
  · rename_i after message ended
    rw [ended] at applied
    exact applied
  · rename_i after signal terminated ended
    rw [ended] at applied
    exact applied
  · rename_i after willRetry ended
    rw [ended] at applied
    have fired := applied.fireAttemptFinished entry.jobUid ⟨(Runtime.checkedResult result surroundings).success,
      willRetry, (Runtime.checkedResult result surroundings).resultMetadata⟩
    split
    · exact fired
    · exact fired

theorem evolves_requeueUncommitted (runtime : Runtime) (entry : InFlightJob) :
    Evolves runtime.store (runtime.requeueUncommitted entry).store := by
  unfold Runtime.requeueUncommitted Runtime.mapStore
  dsimp only
  split
  · exact (evolves_mapState (.unregistered entry.jobUid)).mapState (.spawned [entry.snapshot] true)
  · exact evolves_refl runtime.store

theorem evolves_settle (runtime : Runtime) (jobUid : String) :
    Evolves runtime.store (runtime.settle jobUid).store := by
  unfold Runtime.settle Runtime.mapStore
  dsimp only
  split
  · exact evolves_mapState (.unregistered jobUid)
  · exact evolves_refl runtime.store

theorem evolves_completeAndSettle (runtime : Runtime) (entry : InFlightJob) (result : ExecutionResult)
    (surroundings : Surroundings) :
    Evolves runtime.store (Runtime.completeAndSettle config runtime entry result surroundings).1.store :=
  ((evolves_completeJob config runtime entry result surroundings).trans (evolves_requeueUncommitted _ entry)).trans
    (evolves_settle _ entry.jobUid)

theorem evolves_cancelAndSettle (runtime : Runtime) (entry : InFlightJob) (cleanupFault : Option String) :
    Evolves runtime.store (Runtime.cancelAndSettle runtime entry cleanupFault).1.store :=
  (evolves_requeueUncommitted (runtime.releaseResources entry) entry).trans (evolves_settle _ entry.jobUid)

open SelectionMachine in
theorem evolves_skipEach (rows : Dict String (Record × Job)) (seeds : List String) (runId : Option String)
    (items : List (String × ℕ × String)) (phase : Phase) (skipped : ℕ) :
    Evolves phase.store (skipEach rows seeds runId items phase skipped).1.store := by
  induction items generalizing phase skipped with
  | nil => exact evolves_refl phase.store
  | cons item rest ih =>
    rcases item with ⟨uid, depth, root⟩
    unfold skipEach
    split
    · exact ih phase skipped
    · rename_i row job found
      have skips := evolves_applySkip phase.store uid (some row) none
      dsimp only
      split
      · rename_i store signal ended
        rw [ended] at skips
        exact skips
      · rename_i store done ended
        rw [ended] at skips
        refine Evolves.trans ?_ (ih _ _)
        exact skips.of_eq (recordAttemptSkip_frame job _ _).1

theorem evolves_applySkips (phase : SelectionMachine.Phase) (runId : Option String) :
    Evolves phase.store (SelectionMachine.applySkips phase runId).1.store := by
  unfold SelectionMachine.applySkips
  split
  · exact evolves_refl phase.store
  · exact evolves_skipEach _ _ _ _ _ _

end Completions

section Dispatching

open EngineRuntime

variable (config : StoreConfig) {engine between after : EngineRuntime}

/-- What the engine does to the state of its store. -/
abbrev Proceeds (engine after : EngineRuntime) : Prop := Evolves engine.runtime.store after.runtime.store

theorem proceeds_refl (engine : EngineRuntime) : Proceeds engine engine := .refl

theorem Proceeds.rejectAndCommit (proceeds : Proceeds engine after) (jobUid : String) (snapshot metadata : Record)
    (countAs : StatKey) (attemptId : Option Int) :
    Proceeds engine (after.rejectAndCommit config jobUid snapshot metadata countAs attemptId).1 :=
  Evolves.trans proceeds (evolves_rejectAndCommit config after.runtime.store jobUid snapshot metadata countAs
    attemptId)

theorem Proceeds.requeueFront (proceeds : Proceeds engine after) (snapshot : Record) :
    Proceeds engine (after.requeueFront snapshot) :=
  Evolves.mapState proceeds (.spawned [snapshot] true)

omit [Python] in
theorem openAttempt_keeps (engine : EngineRuntime) (job : Job) (openFault : Option String) :
    (engine.openAttempt job openFault).1.runtime.store.state = engine.runtime.store.state ∧
      (engine.openAttempt job openFault).1.runtime.store.events = engine.runtime.store.events := by
  unfold openAttempt recordAttemptDispatch
  cases openFault with
  | some message => exact ⟨rfl, rfl⟩
  | none =>
    dsimp only
    split
    · exact ⟨rfl, rfl⟩
    · split
      · exact ⟨rfl, rfl⟩
      · exact ⟨rfl, rfl⟩

theorem proceeds_spawnEntry (engine : EngineRuntime) (row : Record) (job : Job) (attemptId : Option Int)
    (execution : Text) (launching : Launching) :
    Proceeds engine (engine.spawnEntry config row job attemptId execution launching).1 := by
  unfold EngineRuntime.spawnEntry
  dsimp only
  split
  · exact proceeds_refl engine
  · rename_i resources lease reserved
    split
    · rename_i error errors invalid
      have rejected := (proceeds_refl (engine.withResources (resources.releaseLease lease))).rejectAndCommit config
        job.uid row (payloadMetadata (error :: errors)) .failed attemptId
      split
      · rename_i after ended
        rw [ended] at rejected
        exact rejected
      · rename_i after signal ended
        rw [ended] at rejected
        exact rejected
    · split
      · exact proceeds_refl engine
      · exact proceeds_refl engine
      · exact proceeds_refl engine
      · exact proceeds_refl engine
      · exact evolves_mapState (.registered job.uid)
      · split
        · exact proceeds_refl engine
        · exact evolves_mapState (.registered job.uid)

theorem proceeds_handleDispatchFailure (engine : EngineRuntime) (row : Record) (job : Job) (attemptId : Option Int)
    (message : String) : Proceeds engine (engine.handleDispatchFailure config row job attemptId message).1 := by
  have settled : Proceeds engine { engine with runtime := engine.runtime.settle job.uid } :=
    evolves_settle engine.runtime job.uid
  unfold EngineRuntime.handleDispatchFailure
  dsimp only
  split
  · exact settled.rejectAndCommit config _ _ _ _ _
  · exact Evolves.finishAttempt (settled.requeueFront _) _ _ _

theorem proceeds_handleFault (engine : EngineRuntime) (row : Record) (job : Job) (attemptId : Option Int)
    (fault : Fault) : Proceeds engine (engine.handleFault config row job attemptId fault).1 := by
  cases fault with
  | crash signal => exact proceeds_refl engine
  | asserted message => exact proceeds_refl engine
  | interrupted =>
    simp only [EngineRuntime.handleFault]
    split
    · exact proceeds_refl engine
    · exact (proceeds_refl engine).requeueFront row
  | rateLimited message => exact evolves_requeueTransient config engine.runtime.store row "rate_limited" attemptId _
  | failed message => exact proceeds_handleDispatchFailure config engine row job attemptId message

theorem proceeds_dispatchOpened (engine : EngineRuntime) (row : Record) (job : Job) (attemptId : Option Int)
    (execution : Text) (launching : Launching) :
    Proceeds engine (engine.dispatchOpened config row job attemptId execution launching).1 := by
  unfold EngineRuntime.dispatchOpened
  split
  · exact (proceeds_refl engine).rejectAndCommit config job.uid row _ _ attemptId
  · split
    · exact evolves_requeueTransient config engine.runtime.store row "lock_conflict" attemptId _
    · dsimp only
      set drained := engine.withResources
        (engine.runtime.resources.applySuspendSignals launching.drained launching.signals) with awake
      split
      · exact proceeds_refl engine
      · have spawned := proceeds_spawnEntry config drained row job attemptId execution launching
        split
        · rename_i after ended
          rw [ended] at spawned
          exact spawned
        · rename_i after fault ended
          rw [ended] at spawned
          exact Evolves.trans spawned (proceeds_handleFault config after row job attemptId fault)

theorem proceeds_dispatchAdmitted (engine : EngineRuntime) (row : Record) (job : Job) (launching : Launching) :
    Proceeds engine (engine.dispatchAdmitted config row job launching).1 := by
  have opens : Proceeds engine (engine.openAttempt job launching.openFault).1 :=
    (evolves_refl engine.runtime.store).of_eq (openAttempt_keeps engine job launching.openFault).1
  unfold dispatchAdmitted
  split
  · rename_i opened message ended
    rw [ended] at opens
    exact opens.requeueFront row
  · rename_i opened attemptId execution ended
    rw [ended] at opens
    exact Evolves.trans opens (proceeds_dispatchOpened config opened row job attemptId execution launching)

theorem proceeds_dispatchDepFailed (engine : EngineRuntime) (idx : ℕ) (pendingDepFailure : Option String)
    (launching : Launching) :
    Proceeds engine (engine.dispatchDepFailed config idx pendingDepFailure launching).1 := by
  unfold dispatchDepFailed
  split
  · exact proceeds_refl engine
  · rename_i row state taken
    dsimp only
    set popped := engine.mapStore fun store => { store with state := state } with removed
    have pops : Proceeds engine popped := .single (.popped taken)
    split
    · exact pops
    · rename_i job parsed
      have opens : Proceeds engine (popped.openAttempt job launching.openFault).1 :=
        pops.of_eq (openAttempt_keeps popped job launching.openFault).1
      split
      · exact opens
      · exact opens.rejectAndCommit config job.uid row _ _ _

end Dispatching

end Tasklite.Engine.Mutation
