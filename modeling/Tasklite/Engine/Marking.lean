import Tasklite.Engine.Mutation

/-! The jobs that their triggers have skipped. A mark is set when a skip is committed and the job has left the queue,
and no operation queues a job without clearing its mark. A dispatch that does not skip its job may start a worker; the
state is then that of the queue without the row, with the job in the index. -/

namespace Tasklite.Engine.Marking
open Tasklite.Library Tasklite.Models Tasklite.Models.Identity
open Tasklite.Engine.Mutation PipelineState EngineRuntime

section Marks

variable [Python] {state between after : PipelineState}

/-- The index agrees with the queue as long as the assertions hold. -/
def Indexed (state : PipelineState) : Prop := state.asserted = true → state.queueUids = uidsOf state.queue

/-- No job is marked as skipped that was not before, and no marked job is queued that was not before. -/
structure Retains (state after : PipelineState) : Prop where
  asserted : after.asserted = true → state.asserted = true
  indexed : Indexed state → Indexed after
  marked : ∀ uid ∈ after.triggerSkippedUids, uid ∈ state.triggerSkippedUids
  queued : ∀ uid ∈ after.triggerSkippedUids, uid ∈ uidsOf after.queue → uid ∈ uidsOf state.queue

theorem retains_refl (state : PipelineState) : Retains state state :=
  ⟨id, id, fun _ marked => marked, fun _ _ queued => queued⟩

theorem Retains.trans (first : Retains state between) (second : Retains between after) : Retains state after where
  asserted := fun sound => first.asserted (second.asserted sound)
  indexed := fun indexed => second.indexed (first.indexed indexed)
  marked := fun uid marked => first.marked uid (second.marked uid marked)
  queued := fun uid marked queued => first.queued uid (second.marked uid marked) (second.queued uid marked queued)

omit [Python] in
theorem asserted_of_require {check : PipelineState → Bool} (sound : (require check state).asserted = true) :
    state.asserted = true ∧ check state = true := by
  simpa [require] using sound

theorem indexed_of_require (sound : (require uidsConsistent state).asserted = true) :
    state.queueUids = uidsOf state.queue := by
  simpa [uidsConsistent] using (asserted_of_require sound).2

/-- A change of the queue, checked against the index. -/
theorem retains_requeued (asserted : between.asserted = state.asserted)
    (marked : between.triggerSkippedUids ⊆ state.triggerSkippedUids)
    (queued : ∀ uid ∈ between.triggerSkippedUids, uid ∈ uidsOf between.queue → uid ∈ uidsOf state.queue) :
    Retains state (require uidsConsistent between) where
  asserted := fun sound => asserted ▸ (asserted_of_require sound).1
  indexed := by
    intro _ sound
    have consistent := indexed_of_require sound
    exact consistent
  marked := fun _ kept => marked kept
  queued := queued

/-- A change that leaves the queue and its index alone. -/
theorem retains_aside (check : PipelineState → Bool) (asserted : between.asserted = state.asserted)
    (queue : between.queue = state.queue) (index : between.queueUids = state.queueUids)
    (marked : between.triggerSkippedUids ⊆ state.triggerSkippedUids) : Retains state (require check between) where
  asserted := fun sound => asserted ▸ (asserted_of_require sound).1
  indexed := by
    intro indexed sound
    show between.queueUids = uidsOf between.queue
    rw [queue, index]
    exact indexed (asserted ▸ (asserted_of_require sound).1)
  marked := fun _ kept => marked kept
  queued := by
    intro uid _ queued
    rw [← queue]
    exact queued

theorem uidsOf_subset {rows others : List Record} (subset : rows ⊆ others) : uidsOf rows ⊆ uidsOf others := by
  intro uid queued
  rw [uidsOf, Fresh.mem_keys] at queued ⊢
  obtain ⟨row, member, same⟩ := queued
  exact ⟨row, subset member, same⟩

theorem retains_mutates (mutates : Mutates state after) : Retains state after := by
  cases mutates with
  | @popped idx _ _ popping =>
    obtain ⟨row, found, taken⟩ := Option.map_eq_some_iff.mp popping
    obtain ⟨rfl, rfl⟩ := Prod.mk.inj taken
    exact retains_requeued rfl (Finset.Subset.refl _) fun uid _ queued =>
      uidsOf_subset (List.eraseIdx_sublist _ _).subset queued
  | spawned snapshots front =>
    apply retains_requeued
    · rfl
    · exact Finset.sdiff_subset
    · intro uid marked queued
      have other : uid ∉ uidsOf snapshots := (Finset.mem_sdiff.mp marked).2
      have added : uid ∈ uidsOf snapshots ∪ uidsOf state.queue := by
        cases front with
        | true => simpa [uidsOf] using queued
        | false => simpa [uidsOf, or_comm] using queued
      exact (Finset.mem_union.mp added).resolve_left other
  | removed jobUid =>
    unfold removeQueuedUid
    split
    · exact retains_refl state
    · exact retains_requeued rfl (Finset.Subset.refl _) fun uid _ queued =>
        uidsOf_subset (Fresh.without_sublist _ _).subset queued
  | registered jobUid => exact retains_aside stateConsistent rfl rfl rfl (Finset.Subset.refl _)
  | unregistered jobUid => exact retains_aside stateConsistent rfl rfl rfl (Finset.Subset.refl _)
  | replaced snapshots =>
    apply retains_requeued
    · rfl
    · exact Finset.sdiff_subset
    · intro uid marked queued
      exact absurd queued (Finset.mem_sdiff.mp marked).2
  | succeeded jobUid metadata => exact retains_aside terminalUidsConsistent rfl rfl rfl (Finset.erase_subset _ _)
  | failed jobUid metadata => exact retains_aside terminalUidsConsistent rfl rfl rfl (Finset.erase_subset _ _)
  | advanced updates => exact ⟨id, id, fun _ marked => marked, fun _ _ queued => queued⟩
  | refuted =>
    exact ⟨fun held => Bool.noConfusion held, fun _ held => Bool.noConfusion held, fun _ marked => marked,
      fun _ _ queued => queued⟩

/-- The queue with one row changed under its uid. -/
theorem uidsOf_modify {rows : List Record} {idx : ℕ} {change : Record → Record}
    (same : ∀ row, rows[idx]? = some row → jobUidFromSnapshot (change row) = jobUidFromSnapshot row) :
    uidsOf (rows.modify idx change) = uidsOf rows := by
  have names : (rows.modify idx change).map jobUidFromSnapshot = rows.map jobUidFromSnapshot := by
    apply List.ext_getElem?
    intro place
    rw [List.getElem?_map, List.getElem?_map, List.getElem?_modify]
    by_cases here : idx = place
    · subst here
      cases found : rows[idx]? with
      | none => simp
      | some row => simp [same row found]
    · simp [here]
  unfold uidsOf Fresh.keys
  rw [names]

theorem retains_moves (moves : Moves state after) : Retains state after := by
  induction moves with
  | refl => exact retains_refl state
  | tail _ step ih => exact ih.trans (retains_mutates step)

end Marks

section Dispatch

open StateStore

variable [Python] {config : StoreConfig} {engine between after : EngineRuntime} {job : Job} {idx : ℕ}

omit [Python] in
theorem get_setDefault {row : Record} {key other : String} {value : Json} (apart : key ≠ other) :
    Record.get (setDefault row other value) key = Record.get row key := by
  unfold setDefault
  split
  · exact Record.get_set_of_ne row value apart
  · rfl

omit [Python] in
/-- Filling a row in leaves its dependencies alone. -/
theorem dependsOn_normalizeJobSnapshot (config : StoreConfig) (row : Record) (taskType : String) :
    Record.get (normalizeJobSnapshot config row taskType) "depends_on" = Record.get row "depends_on" := by
  unfold normalizeJobSnapshot
  dsimp only
  rw [get_setDefault (by decide), get_setDefault (by decide), get_setDefault (by decide), get_setDefault (by decide),
    Record.get_set_of_ne _ _ (by decide)]

abbrev stateOf (engine : EngineRuntime) : PipelineState := engine.runtime.store.state

abbrev entries (engine : EngineRuntime) : Dict String InFlightJob := engine.runtime.tracker

/-- The entries are those that were there, but for one of the job, which is in the index now. -/
def Tracks (job : Job) (engine after : EngineRuntime) : Prop :=
  ∀ uid entry, (entries after).get? uid = some entry → (entries engine).get? uid = some entry ∨
    uid = job.uid ∧ entry.job = job ∧ stateOf after = (stateOf engine).registerInFlight job.uid

theorem tracks_of_same (same : entries after = entries engine) : Tracks job engine after := by
  intro uid entry tracked
  rw [same] at tracked
  exact .inl tracked

theorem spawnEntry_tracks (engine : EngineRuntime) (row : Record) (job : Job) (attemptId : Option Int)
    (execution : Text) (launching : Launching) :
    let outcome := engine.spawnEntry config row job attemptId execution launching
    Tracks job engine outcome.1 ∧ ∀ fault, outcome.2 = .error fault →
      fault = .interrupted ∨ entries outcome.1 = entries engine := by
  have registered : ∀ (manager : ResourceManager) (entry : InFlightJob), entry.job = job → entry.jobUid = job.uid →
      Tracks job engine { engine with runtime := ({ engine.runtime with resources := manager }).track entry } := by
    intro manager entry own named uid other tracked
    have found : ((entries engine).set entry.jobUid entry).get? uid = some other := tracked
    rw [Dict.get?_set] at found
    split at found
    · rename_i here
      cases found
      exact .inr ⟨here.trans named, own, by rw [← named]; rfl⟩
    · exact .inl found
  unfold EngineRuntime.spawnEntry
  dsimp only
  split
  · exact ⟨tracks_of_same rfl, fun _ _ => .inr rfl⟩
  · rename_i resources lease reserved
    split
    · split
      · rename_i rejected ended
        refine ⟨tracks_of_same ?_, fun fault clean => by cases clean⟩
        rw [← congrArg (fun outcome => entries outcome.1) ended]
        rfl
      · rename_i raised signal ended
        have same : entries raised = entries engine := by
          rw [← congrArg (fun outcome => entries outcome.1) ended]
          rfl
        exact ⟨tracks_of_same same, fun _ _ => .inr same⟩
    · split
      · exact ⟨tracks_of_same rfl, fun _ _ => .inr rfl⟩
      · exact ⟨tracks_of_same rfl, fun _ _ => .inr rfl⟩
      · exact ⟨tracks_of_same rfl, fun _ _ => .inr rfl⟩
      · exact ⟨tracks_of_same rfl, fun _ _ => .inr rfl⟩
      · refine ⟨registered _ _ rfl rfl, ?_⟩
        rintro fault ⟨⟩
        exact .inl rfl
      · split
        · exact ⟨tracks_of_same rfl, fun _ _ => .inr rfl⟩
        · exact ⟨registered _ _ rfl rfl, fun fault clean => by cases clean⟩

/-- What leaves the block starts no worker. -/
theorem handleFault_tracks {fault : Fault} (tracks : Tracks job engine between)
    (calm : fault = .interrupted ∨ entries between = entries engine) (row : Record) (attemptId : Option Int) :
    Tracks job engine (between.handleFault config row job attemptId fault).1 := by
  cases fault with
  | crash signal => exact tracks
  | asserted message => exact tracks
  | interrupted =>
    simp only [EngineRuntime.handleFault]
    split
    · exact tracks
    · rename_i absent
      intro uid entry tracked
      rcases tracks uid entry tracked with old | ⟨here, -, -⟩
      · exact .inl old
      · have present : (entries between).contains job.uid = true := by
          rw [Dict.contains, ← here]
          exact Option.isSome_of_eq_some tracked
        exact absurd (Dict.contains_iff.mp present) absent
  | rateLimited message =>
    have same : entries between = entries engine := by simpa using calm
    exact tracks_of_same same
  | failed message =>
    have same : entries between = entries engine := by simpa using calm
    have fewer : entries (between.handleDispatchFailure config row job attemptId message).1 =
        (entries engine).erase job.uid := by
      rw [← same]
      unfold EngineRuntime.handleDispatchFailure
      dsimp only
      split
      · rfl
      · rfl
    intro uid entry tracked
    rw [EngineRuntime.handleFault, fewer, Dict.get?_erase] at tracked
    split at tracked
    · cases tracked
    · exact .inl tracked

theorem dispatchOpened_tracks (engine : EngineRuntime) (row : Record) (job : Job) (attemptId : Option Int)
    (execution : Text) (launching : Launching) :
    Tracks job engine (engine.dispatchOpened config row job attemptId execution launching).1 := by
  unfold EngineRuntime.dispatchOpened
  split
  · exact tracks_of_same rfl
  · split
    · exact tracks_of_same rfl
    · dsimp only
      split
      · exact tracks_of_same rfl
      · obtain ⟨tracks, calm⟩ := @spawnEntry_tracks _ config (engine.withResources
          (engine.runtime.resources.applySuspendSignals launching.drained launching.signals)) row job attemptId
            execution launching
        split
        · rename_i after ended
          rw [ended] at tracks
          exact tracks
        · rename_i after fault ended
          rw [ended] at tracks calm
          exact handleFault_tracks tracks (calm fault rfl) row attemptId

omit [Python] in
theorem openAttempt_entries (engine : EngineRuntime) (job : Job) (openFault : Option String) :
    entries (engine.openAttempt job openFault).1 = entries engine :=
  (Tracing.openAttempt_traced engine job openFault).2

theorem dispatchSkip_entries (engine : EngineRuntime) (row : Record) (job : Job) (launching : Launching) :
    entries (engine.dispatchSkip row job launching).1 = entries engine := by
  have same := openAttempt_entries engine job launching.openFault
  unfold dispatchSkip
  dsimp only
  split
  · exact same
  · exact same

theorem dispatchAdmitted_tracks (engine : EngineRuntime) (row : Record) (job : Job) (launching : Launching) :
    Tracks job engine (engine.dispatchAdmitted config row job launching).1 := by
  have state : stateOf (engine.openAttempt job launching.openFault).1 = stateOf engine :=
    (openAttempt_keeps engine job launching.openFault).1
  have same := openAttempt_entries engine job launching.openFault
  unfold dispatchAdmitted
  split
  · rename_i opened message ended
    rw [ended] at same
    exact tracks_of_same same
  · rename_i opened attemptId execution ended
    rw [ended] at same state
    intro uid entry tracked
    have news := @dispatchOpened_tracks _ config opened row job attemptId execution launching uid entry tracked
    rwa [same, state] at news

/-- An accepted skip takes the job out of the queue, and is written down. -/
theorem applySkip_ok {store skipped : StateStore} {uid : String} {snapshot : Option Record} {attemptId : Option Int}
    (ended : store.applySkip uid snapshot attemptId = (skipped, .ok ())) :
    skipped.state = (store.state.removeQueuedUid uid).unregisterInFlight uid ∧
      .skipped uid ∈ skipped.events.drop store.events.length := by
  unfold applySkip at ended
  obtain ⟨asked, heard, refused | ⟨-, accepted⟩⟩ := Custody.commit_cases store (.skipped uid)
    fun backend => backend.commitSkip uid
  · rw [refused] at ended
    simp at ended
  · rw [accepted] at ended
    obtain ⟨rfl, -⟩ := Prod.mk.inj ended
    have alike := fun store => Custody.alike_finishAttempt store attemptId .skipped none
    obtain ⟨news, told, -⟩ := heard.quiet
    rw [(alike _).state, (alike _).events]
    refine ⟨?_, ?_⟩
    · show (asked.state.removeQueuedUid uid).unregisterInFlight uid = _
      rw [heard.state]
    · show Event.skipped uid ∈ (asked.events ++ [Event.skipped uid]).drop store.events.length
      rw [told, List.append_assoc, List.drop_left]
      simp

/-- What a dispatch does to the marks: it retains them, or it marks a job that it has skipped. -/
inductive Marks (engine after : EngineRuntime) : Prop
  | retained (retains : Retains (stateOf engine) (stateOf after))
  | skipped {uid : String} {state : PipelineState} (retains : Retains (stateOf engine) state)
      (absent : Indexed (stateOf engine) → state.asserted = true → uid ∉ uidsOf state.queue)
      (marked : stateOf after = state.markTriggerSkipped uid)
      (told : .skipped uid ∈ after.runtime.store.events.drop engine.runtime.store.events.length)

theorem Marks.after_retains (retains : Retains (stateOf engine) (stateOf between))
    (same : between.runtime.store.events = engine.runtime.store.events) (marks : Marks between after) :
    Marks engine after := by
  cases marks with
  | retained later => exact .retained (retains.trans later)
  | skipped later absent marked told =>
    rw [same] at told
    exact .skipped (retains.trans later) (fun indexed => absent (retains.indexed indexed)) marked told

theorem absent_removeQueuedUid {state : PipelineState} {uid : String}
    (indexed : state.queueUids = uidsOf state.queue) :
    uid ∉ uidsOf (state.removeQueuedUid uid).queue := by
  unfold removeQueuedUid
  split
  · rename_i absent
    rwa [← indexed]
  · show uid ∉ uidsOf (Fresh.without jobUidFromSnapshot {uid} state.queue)
    rw [uidsOf, Fresh.keys_without]
    simp

theorem dispatchSkip_marks (engine : EngineRuntime) (row : Record) (job : Job) (launching : Launching) :
    Marks engine (engine.dispatchSkip row job launching).1 := by
  obtain ⟨state, events⟩ := openAttempt_keeps engine job launching.openFault
  have skips := evolves_applySkip (engine.openAttempt job launching.openFault).1.runtime.store job.uid (some row)
    (openedId (engine.openAttempt job launching.openFault).2)
  unfold dispatchSkip
  dsimp only
  split
  · rename_i store done ended
    obtain ⟨left, told⟩ := applySkip_ok ended
    rw [ended] at skips
    have retains : Retains (stateOf engine) store.state := by
      rw [stateOf, ← state]
      exact retains_moves skips
    refine .skipped retains ?_ rfl (events ▸ told)
    intro indexed sound
    rw [left] at sound ⊢
    apply absent_removeQueuedUid
    rw [state]
    apply indexed
    rw [left, state] at retains
    exact retains.asserted (state ▸ sound)
  · rename_i store signal ended
    rw [ended] at skips
    refine .retained ?_
    rw [stateOf, ← state]
    exact retains_moves skips

omit [Python] in
theorem fillIn_eq (config : StoreConfig) (engine : EngineRuntime) (idx : ℕ) (taskType : Json) : ∃ name,
    stateOf (engine.fillIn config idx taskType) = { stateOf engine with
      queue := (stateOf engine).queue.modify idx fun row => normalizeJobSnapshot config row name } :=
  ⟨_, rfl⟩

theorem retains_fillIn (engine : EngineRuntime) (taskType : Json)
    (identified : ∀ row, (stateOf engine).queue[idx]? = some row → Identified row) :
    Retains (stateOf engine) (stateOf (engine.fillIn config idx taskType)) := by
  obtain ⟨name, filled⟩ := fillIn_eq config engine idx taskType
  have same : uidsOf (stateOf (engine.fillIn config idx taskType)).queue = uidsOf (stateOf engine).queue := by
    rw [filled]
    exact uidsOf_modify fun row found => (Batches.uid_normalizeJobSnapshot config (identified row found) _).2
  refine ⟨id, fun indexed sound => ?_, fun _ marked => marked, fun _ _ queued => same ▸ queued⟩
  rw [same]
  exact indexed sound

theorem dispatchRunnable_marks (engine : EngineRuntime) (launching : Launching)
    (identified : ∀ row, (stateOf engine).queue[idx]? = some row → Identified row) :
    Marks engine (engine.dispatchRunnable config idx launching).1 := by
  unfold dispatchRunnable
  split
  · exact .retained (retains_refl _)
  · rename_i taskType named
    have filled := @retains_fillIn _ config idx engine taskType identified
    dsimp only
    split
    · exact .retained filled
    · rename_i row state taken
      set popped := (engine.fillIn config idx taskType).mapStore fun store => { store with state := state } with left
      have pops : Retains (stateOf engine) (stateOf popped) := filled.trans (retains_mutates (.popped taken))
      have admitted : ∀ row job, Marks engine (popped.dispatchAdmitted config row job launching).1 := fun row job =>
        .retained (pops.trans (retains_moves (proceeds_dispatchAdmitted config popped row job launching)))
      split
      · exact .retained filled
      · rename_i job parsed
        split
        · split
          · exact .retained filled
          · exact .after_retains pops rfl (dispatchSkip_marks popped row job launching)
          · exact admitted _ _
        · exact admitted _ _

/-- A worker has been started for the row at a place. -/
structure Launched (config : StoreConfig) (idx : ℕ) (engine after : EngineRuntime) (entry : InFlightJob) : Prop where
  popped : ∃ taskType row state job, (stateOf (engine.fillIn config idx taskType)).popJob idx = some (row, state) ∧
    Job.fromDict row = .ok job ∧ entry.job.dependsOn = job.dependsOn ∧ stateOf after = state.registerInFlight job.uid

theorem dispatchRunnable_launched {launching : Launching} {answer : Except Signal (Option InFlightJob)} {uid : String}
    {entry : InFlightJob} (ended : engine.dispatchRunnable config idx launching = (after, answer))
    (tracked : (entries after).get? uid = some entry) (new : (entries engine).get? uid ≠ some entry) :
    Launched config idx engine after entry := by
  unfold dispatchRunnable at ended
  split at ended
  · cases ended
    exact absurd tracked new
  · rename_i taskType named
    dsimp only at ended
    split at ended
    · cases ended
      exact absurd tracked new
    · rename_i row state taken
      set popped := (engine.fillIn config idx taskType).mapStore fun store => { store with state := state } with left
      split at ended
      · cases ended
        exact absurd tracked new
      · rename_i job parsed
        have admitted : ∀ (row : Record) (other : Job),
            popped.dispatchAdmitted config row other launching = (after, answer) →
            other.dependsOn = job.dependsOn → other.uid = job.uid → Launched config idx engine after entry := by
          intro row other same depends own
          have news := @dispatchAdmitted_tracks _ config popped row other launching uid entry
          rw [same] at news
          rcases news tracked with old | ⟨-, rfl, registered⟩
          · exact absurd old new
          · exact ⟨taskType, _, state, job, taken, parsed, depends, own ▸ registered⟩
        split at ended
        · split at ended
          · cases ended
            exact absurd tracked new
          · have same := dispatchSkip_entries popped row job launching
            rw [show (popped.dispatchSkip row job launching).1 = after from congrArg Prod.fst ended] at same
            rw [same] at tracked
            exact absurd tracked new
          · exact admitted _ _ ended rfl rfl
        · exact admitted _ _ ended rfl rfl

theorem dispatchDepFailed_entries (engine : EngineRuntime) (pendingDepFailure : Option String)
    (launching : Launching) :
    entries (engine.dispatchDepFailed config idx pendingDepFailure launching).1 = entries engine := by
  unfold dispatchDepFailed
  split
  · rfl
  · rename_i row state taken
    dsimp only
    set popped := engine.mapStore fun store => { store with state := state } with left
    split
    · rfl
    · rename_i job parsed
      have same := openAttempt_entries popped job launching.openFault
      split
      · exact same
      · exact same

theorem dispatchJob_marks (engine : EngineRuntime) {sched : ScheduleResult} (launching : Launching)
    (identified : ∀ idx, sched.runnableIdx = some idx → sched.kind ≠ .depFailed →
      ∀ row, (stateOf engine).queue[idx]? = some row → Identified row) :
    Marks engine (engine.dispatchJob config sched launching).1 := by
  unfold dispatchJob
  split
  · exact .retained (retains_refl _)
  · rename_i idx chosen
    split
    · exact .retained (retains_moves (proceeds_dispatchDepFailed config engine idx sched.pendingDepFailure launching))
    · rename_i other
      exact dispatchRunnable_marks engine launching (identified idx chosen other)

theorem dispatchJob_launched {sched : ScheduleResult} {launching : Launching}
    {answer : Except Signal (Option InFlightJob)} {uid : String} {entry : InFlightJob}
    (ended : engine.dispatchJob config sched launching = (after, answer))
    (tracked : (entries after).get? uid = some entry) (new : (entries engine).get? uid ≠ some entry) :
    ∃ idx, sched.runnableIdx = some idx ∧ sched.kind ≠ .depFailed ∧ Launched config idx engine after entry := by
  unfold dispatchJob at ended
  split at ended
  · cases ended
    exact absurd tracked new
  · rename_i idx chosen
    split at ended
    · have same := @dispatchDepFailed_entries _ config idx engine sched.pendingDepFailure launching
      rw [show (engine.dispatchDepFailed config idx sched.pendingDepFailure launching).1 = after
        from congrArg Prod.fst ended] at same
      rw [same] at tracked
      exact absurd tracked new
    · rename_i other
      exact ⟨idx, chosen, other, dispatchRunnable_launched ended tracked new⟩

end Dispatch

end Tasklite.Engine.Marking
