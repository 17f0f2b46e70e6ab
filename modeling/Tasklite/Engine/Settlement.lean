import Tasklite.Engine.Strikes

/-! What each transition of the store does to the custody of jobs. A job that the
dispatch holds or that is in flight is given up by it in every case: its commit was
accepted, or its row is back in the queue. -/

namespace Tasklite.Engine.Settlement
open Tasklite.Library Tasklite.Models Tasklite.Models.Identity Tasklite.Models.Coherence Tasklite.Backend
open PipelineState StateStore Ledger Custody Strikes

variable [Python] {uid : String} {row snapshot : Record} {rows : List Record}
variable {opening held : Finset String} {state : PipelineState} {store asked after : StateStore}
variable (config : StoreConfig)

section Failure

theorem gives_applyFailure (orderly : Orderly held store.state.queue store.state)
    (owned : Owned held store.state uid) (identified : Identified snapshot)
    (own : jobUidFromSnapshot snapshot = uid) (metadata : Record) (countAs : StatKey) (attemptId : Option Int) :
    Gives store held uid snapshot (store.applyFailure config uid metadata snapshot countAs attemptId).1 := by
  unfold applyFailure
  dsimp only
  obtain ⟨asked, heard, refused | ⟨-, accepted⟩⟩ := commit_cases store (.failed [uid]) fun backend =>
    backend.commitJobFailure uid (store.normalize config metadata) (extractJobPayload snapshot)
  · rw [refused]
    apply Gives.heard heard
    rw [← heard.state] at orderly owned
    exact gives_handleCommitFailureStrike config orderly owned identified own _ attemptId
  · rw [accepted]
    have marked := (gives_failed config heard orderly owned own (store.normalize config metadata)
      (store.normalize config metadata) (extractJobPayload snapshot)).alike
      ((alike_recordStat _ countAs 1).trans (alike_finishAttempt _ attemptId .failed
        (attemptError (store.normalize config metadata))))
    have cascaded := marked.keeps (keeps_cascadeFail config marked.passes.orderly uid)
    dsimp only
    split
    · rename_i ended
      rw [ended] at cascaded
      exact cascaded
    · rename_i ended
      rw [ended] at cascaded
      exact cascaded

end Failure

section Retry

/-- The backend keeps the uids of its queue over a retry. -/
theorem backed_retried {retry : Record} (front : Bool) (backed : Backed opening held asked.state.queue asked)
    (owned : Owned held asked.state uid) (identified : Identified retry) (same : jobUidFromSnapshot retry = uid) :
    Backed opening (held.erase uid) (placed retry asked.state.queue front) { asked with
      backend := (asked.backend.commitRetry uid retry front).1
      events := asked.events ++ [.retried uid]
      state := (asked.state.unregisterInFlight uid).requeueJobs [retry] front } := by
  have requeued := backed_requeue backed owned identified same front
  have queued : uid ∈ uidsOf asked.backend.queue := by
    apply backed.backed
    rcases owned with holding | flying
    · exact Finset.mem_union_right _ holding
    · exact Finset.mem_union_left _ (Finset.mem_union_right _ flying)
  refine ⟨requeued.named, ?_, ?_, lawful_commitRetry backed.lawful front same queued, backed.foreseen⟩
  · intro row member
    have listed : (asked.backend.commitRetry uid retry front).1.queue =
        if front then retry :: asked.backend.remaining uid else asked.backend.remaining uid ++ [retry] := by
      simp [Memory.commitRetry, same]
    have either : row = retry ∨ row ∈ asked.backend.remaining uid := by
      rw [listed] at member
      cases front <;> simp at member <;> tauto
    rcases either with rfl | old
    · exact identified
    · exact backed.namedDisk row (Fresh.mem_without.mp old).1
  · show _ ⊆ uidsOf (asked.backend.commitRetry uid retry front).1.queue
    rw [(uidsOf_commitRetry front same queued).2]
    exact requeued.backed

theorem moved_retried {retry : Record} (heard : Asked store asked) (absent : uid ∉ uidsOf rows)
    (own : jobUidFromSnapshot snapshot = uid) (same : jobUidFromSnapshot retry = uid) (front : Bool)
    (told : after.events = asked.events ++ [.retried uid]) :
    Moved store (snapshot :: rows) after (placed retry rows front) := by
  apply moved_event heard told
  intro other
  rw [rowsOf_placed retry rows front (same ▸ absent) other]
  by_cases this : other = uid
  · subst this
    simp only [verdict, if_pos]
    exact congrArg List.length (rowsOf_cons_self same absent)
  · simpa only [verdict, if_neg this] using
      (rowsOf_cons_of_ne same this).trans (rowsOf_cons_of_ne own this).symm

theorem gives_applyRetry {retry : Record} (orderly : Orderly held store.state.queue store.state)
    (owned : Owned held store.state uid) (identified : Identified snapshot)
    (own : jobUidFromSnapshot snapshot = uid) (named : Identified retry) (same : jobUidFromSnapshot retry = uid)
    (transientKind : Option String) (attemptId : Option Int) (errorMessage : Option Json) :
    Gives store held uid snapshot
      (store.applyRetry config uid snapshot retry transientKind attemptId errorMessage).1 := by
  unfold applyRetry
  dsimp only
  obtain ⟨asked, heard, refused | ⟨-, accepted⟩⟩ := commit_cases store (.retried uid) fun backend =>
    backend.commitRetry uid retry (config.planRequeue retry transientKind)
  · rw [refused]
    apply Gives.heard heard
    rw [← heard.state] at orderly owned
    exact gives_handleCommitFailureStrike config orderly owned identified own _ attemptId
  · rw [accepted]
    have absent := orderly.notMem_of_owned owned
    generalize config.planRequeue retry transientKind = front at *
    have requeued : Gives store held uid snapshot { asked with
        backend := (asked.backend.commitRetry uid retry front).1
        events := asked.events ++ [.retried uid]
        state := (asked.state.unregisterInFlight uid).requeueJobs [retry] front } := by
      refine ⟨⟨?_, ?_, ?_, ?_⟩, ?_⟩
      · rw [heard.state]
        exact orderly_requeue orderly owned named same front
      · rw [heard.state]
        show Moved store _ _ (placed retry store.state.queue front)
        exact moved_retried heard absent own same front rfl
      · apply aside_event heard rfl
        intro other still
        obtain ⟨before, different⟩ := Owned.of_erase rfl still
        exact ⟨heard.state ▸ before, by simp [verdict, different]⟩
      · intro opening backed
        have found := heard.backed opening held _ backed
        rw [← heard.state] at found owned
        exact backed_retried front found owned named same
      · show asked.state.inFlightUids.erase uid = _
        rw [heard.state]
    apply requeued.alike
    dsimp only
    split
    · exact (alike_recordStat _ _ _).trans (alike_finishAttempt _ _ _ _)
    · exact (alike_recordStat _ _ _).trans ((alike_recordStat _ _ _).trans (alike_finishAttempt _ _ _ _))

end Retry

section Success

variable {spawned : List Record}

/-- Rows that may be spawned: they name their jobs, one row for each, and none of these is in custody. -/
structure Spawnable (held : Finset String) (state : PipelineState) (spawned : List Record) : Prop where
  named : ∀ row ∈ spawned, Identified row
  distinct : (spawned.map jobUidFromSnapshot).Nodup
  queued : Disjoint (uidsOf spawned) (uidsOf state.queue)
  flying : Disjoint (uidsOf spawned) state.inFlightUids
  holding : Disjoint (uidsOf spawned) held

/-- A success decides nothing about the other owned jobs. -/
theorem Spawnable.verdict_of_owned (spawnable : Spawnable held state spawned) {other : String}
    (owned : Owned held state other) (different : other ≠ uid) :
    verdict other (.succeeded uid (spawned.map jobUidFromSnapshot)) = none := by
  have absent : other ∉ spawned.map jobUidFromSnapshot := by
    intro child
    rcases owned with holding | flying
    · exact Finset.disjoint_left.mp spawnable.holding (List.mem_toFinset.mpr child) holding
    · exact Finset.disjoint_left.mp spawnable.flying (List.mem_toFinset.mpr child) flying
  simp only [verdict, if_neg absent, if_neg different]

theorem spawnJobs_nil (coherent : Coherent state) : state.spawnJobs [] true = state := by
  have indexed : ({ state with
      queue := [] ++ state.queue
      triggerSkippedUids := state.triggerSkippedUids \ uidsOf []
      queueUids := state.queueUids ∪ uidsOf [] } : PipelineState) = state := by
    simp [uidsOf]
  unfold spawnJobs
  rw [if_pos rfl, indexed, require_of_holds (uidsConsistent_iff.mpr coherent.queueUids)]

/-- The memory after an accepted success. -/
def succeeded (state : PipelineState) (spawned : List Record) (updates : List (String × Option String))
    (uid : String) (metadata : Record) : PipelineState :=
  (((state.spawnJobs spawned true).updateCursors updates).markSuccess uid metadata).unregisterInFlight uid

theorem orderly_succeeded (orderly : Orderly held state.queue state) (spawnable : Spawnable held state spawned)
    (updates : List (String × Option String)) (uid : String) (metadata : Record) :
    Orderly (held.erase uid) (spawned ++ state.queue) (succeeded state spawned updates uid metadata) := by
  have held_apart := orderly.heldApart
  simp only [Finset.disjoint_union_right] at held_apart
  have uids : uidsOf (spawned ++ state.queue) = uidsOf spawned ∪ uidsOf state.queue := Fresh.keys_append _ _
  refine ⟨?_, ?_, ?_, ?_⟩
  · apply coherent_unregisterInFlight
    apply coherent_markSuccess
    exact coherent_updateCursors (coherent_spawnJobs orderly.coherent true spawnable.flying) updates
  · intro row member
    rcases List.mem_append.mp member with new | old
    · exact Or.inl (spawnable.named row new)
    · rcases orderly.plain row old with named | once
      · exact Or.inl named
      · right
        have absent : jobUidFromSnapshot row ∉ uidsOf spawned :=
          Finset.disjoint_right.mp spawnable.queued (Fresh.key_mem_keys old)
        rw [rowsOf, Fresh.having_append, Fresh.having_eq_nil.mpr absent]
        exact once
  · rw [uids]
    apply Finset.disjoint_union_left.mpr
    exact ⟨spawnable.flying.mono_right (Finset.erase_subset _ _),
      orderly.apart.mono_right (Finset.erase_subset _ _)⟩
  · rw [uids]
    simp only [Finset.disjoint_union_right]
    refine ⟨⟨⟨?_, ?_⟩, ?_⟩, ?_⟩
    · exact spawnable.holding.symm.mono_left (Finset.erase_subset _ _)
    · exact held_apart.1.1.mono_left (Finset.erase_subset _ _)
    · exact (held_apart.1.2.mono_left (Finset.erase_subset _ _)).mono_right (Finset.erase_subset _ _)
    · apply (held_apart.2.mono_left (Finset.erase_subset _ _)).mono_right
      exact (Finset.erase_subset _ _).trans Finset.sdiff_subset

theorem moved_succeeded (heard : Asked store asked) (orderly : Orderly held store.state.queue store.state)
    (owned : Owned held store.state uid) (spawnable : Spawnable held store.state spawned)
    (own : jobUidFromSnapshot snapshot = uid)
    (told : after.events = asked.events ++ [.succeeded uid (spawned.map jobUidFromSnapshot)]) :
    Moved store (snapshot :: store.state.queue) after (spawned ++ store.state.queue) := by
  have absent := orderly.notMem_of_owned owned
  apply moved_event heard told
  intro other
  rw [rowsOf, Fresh.having_append]
  by_cases child : other ∈ spawned.map jobUidFromSnapshot
  · have new : other ∈ uidsOf spawned := List.mem_toFinset.mpr child
    have idle : other ∉ uidsOf store.state.queue := Finset.disjoint_left.mp spawnable.queued new
    simp only [verdict, if_pos child]
    rw [Fresh.having_eq_nil.mpr idle, List.append_nil]
    exact Fresh.length_having_of_nodup spawnable.distinct new
  · have old : other ∉ uidsOf spawned := fun new => child (List.mem_toFinset.mp new)
    rw [Fresh.having_eq_nil.mpr old, List.nil_append]
    by_cases this : other = uid
    · subst this
      simpa only [verdict, if_neg child, if_pos] using Fresh.having_eq_nil.mpr absent
    · simp only [verdict, if_neg child, if_neg this]
      exact (rowsOf_cons_of_ne own this).symm

/-- What an accepted success leaves on disk. -/
theorem backed_succeeded {success : Memory.Success} (backed : Backed opening held asked.state.queue asked)
    (orderly : Orderly held asked.state.queue asked.state) (owned : Owned held asked.state success.jobUid)
    (spawnable : Spawnable held asked.state success.spawned)
    (accepted : (asked.backend.commitJobSuccess success).2 = true) (updates : List (String × Option String))
    (metadata : Record) :
    Backed opening (held.erase success.jobUid) (success.spawned ++ asked.state.queue) { asked with
      backend := (asked.backend.commitJobSuccess success).1
      events := asked.events ++ [.succeeded success.jobUid (success.spawned.map jobUidFromSnapshot)]
      state := succeeded asked.state success.spawned updates success.jobUid metadata } := by
  have absent := orderly.notMem_of_owned owned
  obtain ⟨-, -, queue, -, -⟩ := commitJobSuccess_true accepted
  refine ⟨?_, ?_, ?_, lawful_commitJobSuccess backed.lawful accepted, backed.foreseen⟩
  · intro row member
    rcases List.mem_append.mp member with new | old
    · exact spawnable.named row new
    · exact backed.named row old
  · intro row member
    rw [show _ = success.spawned ++ asked.backend.remaining success.jobUid from queue] at member
    rcases List.mem_append.mp member with new | old
    · exact spawnable.named row new
    · exact backed.namedDisk row (Fresh.mem_without.mp old).1
  · have disk : uidsOf (asked.backend.commitJobSuccess success).1.queue =
        uidsOf success.spawned ∪ (uidsOf asked.backend.queue).erase success.jobUid := by
      rw [queue, uidsOf, Fresh.keys_append]
      exact congrArg _ (uidsOf_remaining success.jobUid)
    have flight : (succeeded asked.state success.spawned updates success.jobUid metadata).inFlightUids =
        asked.state.inFlightUids.erase success.jobUid := rfl
    have whole := backed.backed
    show uidsOf (success.spawned ++ asked.state.queue) ∪ (succeeded asked.state success.spawned updates
      success.jobUid metadata).inFlightUids ∪ _ ⊆ uidsOf (asked.backend.commitJobSuccess success).1.queue
    rw [disk, flight, uidsOf, Fresh.keys_append]
    simp only [Finset.union_subset_iff] at whole ⊢
    refine ⟨⟨⟨Finset.subset_union_left, ?_⟩, ?_⟩, ?_⟩
    · intro uid queued
      apply Finset.mem_union_right _ (Finset.mem_erase.mpr ⟨?_, whole.1.1 queued⟩)
      exact fun same => absent (same ▸ queued)
    · exact (Finset.erase_subset_erase _ whole.1.2).trans Finset.subset_union_right
    · exact (Finset.erase_subset_erase _ whole.2).trans Finset.subset_union_right

/-- The request of a success whose children may all be spawned. -/
theorem gives_applySuccess (request : SuccessRequest) (orderly : Orderly held store.state.queue store.state)
    (owned : Owned held store.state request.jobUid) (identified : Identified request.snapshot)
    (own : jobUidFromSnapshot request.snapshot = request.jobUid)
    (spawnable : Spawnable held store.state request.spawned) :
    Gives store held request.jobUid request.snapshot (store.applySuccess config request).1 := by
  unfold applySuccess
  dsimp only
  generalize store.successMetadata request.jobUid request.resultMetadata request.artifacts
    request.inputs request.runId = metadata
  obtain ⟨asked, heard, refused | ⟨taken, accepted⟩⟩ := commit_cases store
    (.succeeded request.jobUid (request.spawned.map jobUidFromSnapshot)) fun backend =>
      backend.commitJobSuccess ⟨request.jobUid, metadata, request.attemptId, request.executionId,
        some store.now.val, request.spawned, request.cursorUpdates⟩
  · rw [refused]
    have noted := heard.noteCall
      (.success request.attemptId (request.attemptId.bind store.backend.attempts.get?) false)
    apply Gives.heard noted
    rw [← noted.state] at orderly owned
    exact gives_handleCommitFailureStrike config orderly owned identified own _ request.attemptId
  · rw [accepted]
    have coherent : Coherent asked.state := heard.state ▸ orderly.coherent
    have spawns : ∀ committed : StateStore, committed.state = asked.state →
        (if request.spawned.isEmpty then committed
          else committed.mapState fun state => state.spawnJobs request.spawned true) =
        committed.mapState fun state => state.spawnJobs request.spawned true := by
      intro committed same
      split
      · rename_i none
        rw [List.isEmpty_iff.mp none]
        show committed = { committed with state := committed.state.spawnJobs [] true }
        rw [same, spawnJobs_nil coherent, ← same]
      · rfl
    have done : Gives store held request.jobUid request.snapshot { asked with
        backend := (asked.backend.commitJobSuccess ⟨request.jobUid, metadata, request.attemptId,
          request.executionId, some store.now.val, request.spawned, request.cursorUpdates⟩).1
        events := asked.events ++ [.succeeded request.jobUid (request.spawned.map jobUidFromSnapshot)]
        state := succeeded asked.state request.spawned request.cursorUpdates.entries request.jobUid metadata } := by
      refine ⟨⟨?_, ?_, ?_, ?_⟩, ?_⟩
      · rw [heard.state]
        exact orderly_succeeded orderly spawnable _ _ _
      · rw [heard.state]
        exact moved_succeeded heard orderly owned spawnable own rfl
      · apply aside_event heard rfl
        intro other still
        obtain ⟨before, different⟩ := Owned.of_erase rfl still
        rw [heard.state] at before
        exact ⟨before, spawnable.verdict_of_owned before different⟩
      · intro opening backed
        have found := heard.backed opening held _ backed
        rw [← heard.state] at found orderly owned spawnable
        exact backed_succeeded found orderly owned spawnable taken request.cursorUpdates.entries metadata
      · show asked.state.inFlightUids.erase request.jobUid = _
        rw [heard.state]
    dsimp only
    rw [spawns]
    · exact done.alike ((alike_noteCall _ _).trans (alike_recordStat _ _ _))
    · rfl

end Success

section Skip

/-- A held job that is skipped is given up, and is not queued any more unless the skip was refused. -/
theorem gives_applySkip (orderly : Orderly held store.state.queue store.state)
    (owned : Owned held store.state uid) (identified : Identified snapshot)
    (own : jobUidFromSnapshot snapshot = uid) (attemptId : Option Int) :
    Gives store held uid snapshot (store.applySkip uid (some snapshot) attemptId).1 ∧
      ((store.applySkip uid (some snapshot) attemptId).2 = .ok () →
        (store.applySkip uid (some snapshot) attemptId).1.state.queue = store.state.queue) := by
  have absent := orderly.notMem_of_owned owned
  unfold applySkip
  dsimp only
  obtain ⟨asked, heard, refused | ⟨-, accepted⟩⟩ := commit_cases store (.skipped uid) fun backend =>
    backend.commitSkip uid
  · rw [refused]
    rw [← heard.state] at orderly owned
    exact ⟨Gives.heard heard
      (@gives_requeueAndCrash _ _ _ _ _ 0 orderly owned identified own _ attemptId), fun ended => nomatch ended⟩
  · rw [accepted]
    have unqueued : asked.state.removeQueuedUid uid = asked.state := by
      rw [heard.state, removeQueuedUid, if_pos]
      rw [orderly.coherent.queueUids]
      exact absent
    have skipped : Gives store held uid snapshot { asked with
        backend := (asked.backend.commitSkip uid).1
        events := asked.events ++ [.skipped uid]
        state := asked.state.unregisterInFlight uid } := by
      refine ⟨⟨?_, ?_, ?_, ?_⟩, ?_⟩
      · rw [heard.state]
        exact Orderly.release orderly (coherent_unregisterInFlight orderly.coherent uid) rfl
          (Finset.Subset.refl _)
      · rw [heard.state]
        apply moved_event heard rfl
        intro other
        by_cases this : other = uid
        · subst this
          simp only [verdict, if_pos]
          exact rowsOf_eq_nil.mpr absent
        · simp only [verdict, if_neg this]
          exact (rowsOf_cons_of_ne own this).symm
      · apply aside_event heard rfl
        intro other still
        obtain ⟨before, different⟩ := Owned.of_erase rfl still
        exact ⟨heard.state ▸ before, by simp [verdict, different]⟩
      · intro opening backed
        have found := heard.backed opening held _ backed
        rw [heard.state]
        apply Backed.remove found
        · show asked.backend.remaining uid = Fresh.without jobUidFromSnapshot {uid} asked.backend.queue
          rfl
        · exact lawful_commitSkip found.lawful uid
        · rfl
        · exact backed.named
        · rw [heard.state]
          exact custody_release absent rfl
      · show asked.state.inFlightUids.erase uid = _
        rw [heard.state]
    have kept : ∀ committed : StateStore, committed.state = asked.state →
        committed.mapState (fun state => state.removeQueuedUid uid) = committed := by
      intro committed same
      show { committed with state := committed.state.removeQueuedUid uid } = committed
      rw [same, unqueued, ← same]
    dsimp only
    rw [kept]
    · have alike := (alike_recordStat { asked with
          backend := (asked.backend.commitSkip uid).1
          events := asked.events ++ [.skipped uid]
          state := asked.state.unregisterInFlight uid } .skipped 1).trans
        (alike_finishAttempt _ attemptId .skipped none)
      have queue : asked.state.queue = store.state.queue := by rw [heard.state]
      exact ⟨skipped.alike alike, fun _ => (congrArg PipelineState.queue alike.state).trans queue⟩
    · rfl

/-- A row of a job that is still queued is put back beside the others. -/
theorem orderly_requeued_again (orderly : Orderly held state.queue state) (idle : ¬ Owned held state uid)
    (named : ∀ row ∈ state.queue, jobUidFromSnapshot row = uid → Identified row)
    (identified : Identified snapshot) (own : jobUidFromSnapshot snapshot = uid) (queued : uid ∈ uidsOf state.queue) :
    Orderly held (snapshot :: state.queue) ((state.unregisterInFlight uid).requeueJobs [snapshot] true) := by
  have landed : uid ∉ state.inFlightUids := fun flying => idle (Or.inr flying)
  have uids : uidsOf (snapshot :: state.queue) = uidsOf state.queue := by
    rw [uidsOf, Fresh.keys_cons, own]
    exact Finset.insert_eq_self.mpr queued
  rw [unregisterInFlight_self orderly.coherent landed]
  refine ⟨?_, ?_, uids ▸ orderly.apart, ?_⟩
  · apply coherent_requeueJobs orderly.coherent
    simpa [uidsOf, own] using landed
  · intro row member
    rcases List.mem_cons.mp member with rfl | old
    · exact Or.inl identified
    · by_cases this : jobUidFromSnapshot row = uid
      · exact Or.inl (named row old this)
      · rw [rowsOf_cons_of_ne own this]
        exact orderly.plain row old
  · rw [uids]
    exact orderly.heldApart.mono_right (Finset.union_subset_union_right Finset.sdiff_subset)

/-- The skip of a queued job was refused: there is one more row of it. -/
theorem stays_requeueAndCrash (heard : Asked store asked) (orderly : Orderly held store.state.queue store.state)
    (idle : ¬ Owned held store.state uid)
    (named : ∀ row ∈ store.state.queue, jobUidFromSnapshot row = uid → Identified row)
    (identified : Identified snapshot) (own : jobUidFromSnapshot snapshot = uid)
    (queued : uid ∈ uidsOf store.state.queue) (reason : String) (attemptId : Option Int) :
    Stays store held (asked.requeueAndCrash uid (some snapshot) reason attemptId).1 := by
  have landed : uid ∉ store.state.inFlightUids := fun flying => idle (Or.inr flying)
  have requeued : Stays store held (asked.mapState fun state =>
      (state.unregisterInFlight uid).requeueJobs [snapshot] true) := by
    refine ⟨?_, ?_, ?_⟩
    · show Orderly held (snapshot :: asked.state.queue)
        ((asked.state.unregisterInFlight uid).requeueJobs [snapshot] true)
      rw [heard.state]
      exact orderly_requeued_again orderly idle named identified own queued
    · intro opening backed
      have found := heard.backed opening held _ backed
      have fewer : uidsOf (snapshot :: asked.state.queue) ∪ asked.state.inFlightUids.erase uid ∪ held ⊆
          uidsOf store.state.queue ∪ asked.state.inFlightUids ∪ held := by
        rw [uidsOf, Fresh.keys_cons, own, heard.state]
        apply Finset.union_subset_union_left
        apply Finset.union_subset_union _ (Finset.erase_subset _ _)
        exact Finset.insert_subset queued (Finset.Subset.refl _)
      refine ⟨?_, found.namedDisk, fewer.trans found.backed, found.lawful, found.foreseen⟩
      intro row member
      rcases List.mem_cons.mp member with rfl | old
      · exact identified
      · rw [heard.state] at old
        exact backed.named row old
    · show asked.state.inFlightUids.erase uid = _
      rw [heard.state, Finset.erase_eq_of_notMem landed]
  exact requeued.alike (alike_finishAttempt _ attemptId .requeued (some (.str reason)))

/-- The skip of a queued job was accepted: its rows are gone. -/
theorem keeps_skipped (heard : Asked store asked) (orderly : Orderly held store.state.queue store.state)
    (idle : ¬ Owned held store.state uid) (queued : uid ∈ uidsOf store.state.queue) :
    Keeps store held { asked with
      backend := (asked.backend.commitSkip uid).1
      events := asked.events ++ [.skipped uid]
      state := (asked.state.removeQueuedUid uid).unregisterInFlight uid } := by
  have waiting : Idle held store.state [uid] := fun other member => List.mem_singleton.mp member ▸ idle
  have gone := passes_removed heard orderly waiting
    (fun other => by simp [verdict]) rfl (fun _ lawful => lawful_commitSkip lawful uid)
  have landed : uid ∉ store.state.inFlightUids := fun flying => idle (Or.inr flying)
  have removed : store.state.removeQueuedUid uid = require uidsConsistent { store.state with
      queue := Fresh.without jobUidFromSnapshot {uid} store.state.queue
      queueUids := store.state.queueUids.erase uid } := by
    rw [removeQueuedUid, if_neg]
    rw [orderly.coherent.queueUids]
    exact not_not_intro queued
  have coherent := coherent_removeQueuedUid orderly.coherent uid
  have unregistered : (store.state.removeQueuedUid uid).unregisterInFlight uid =
      store.state.removeQueuedUid uid := by
    apply unregisterInFlight_self coherent
    rw [removed]
    exact landed
  have queue : (store.state.removeQueuedUid uid).queue =
      Fresh.without jobUidFromSnapshot [uid].toFinset store.state.queue := by
    rw [removed]
    rfl
  have flight : (store.state.removeQueuedUid uid).inFlightUids = asked.state.inFlightUids := by
    rw [removed, heard.state]
    rfl
  have skipped : (store.state.removeQueuedUid uid).triggerSkippedUids = asked.state.triggerSkippedUids := by
    rw [removed, heard.state]
    rfl
  have whole := gone.trans (passes_mapState (fun _ => store.state.removeQueuedUid uid) gone.orderly coherent
    flight skipped.subset)
  rw [heard.state, unregistered]
  refine ⟨?_, ?_⟩
  · show Passes _ _ _ _ _ _ (store.state.removeQueuedUid uid).queue
    rw [queue]
    exact whole
  · show (store.state.removeQueuedUid uid).inFlightUids = _
    rw [flight, heard.state]

/-- Skipping a queued job. -/
theorem stays_applySkip (orderly : Orderly held store.state.queue store.state)
    (idle : ¬ Owned held store.state uid)
    (named : ∀ row ∈ store.state.queue, jobUidFromSnapshot row = uid → Identified row)
    (identified : Identified snapshot) (own : jobUidFromSnapshot snapshot = uid)
    (queued : uid ∈ uidsOf store.state.queue) (attemptId : Option Int) :
    Stays store held (store.applySkip uid (some snapshot) attemptId).1 ∧
      ((store.applySkip uid (some snapshot) attemptId).2 = .ok () →
        Keeps store held (store.applySkip uid (some snapshot) attemptId).1) := by
  unfold applySkip
  dsimp only
  obtain ⟨asked, heard, refused | ⟨-, accepted⟩⟩ := commit_cases store (.skipped uid) fun backend =>
    backend.commitSkip uid
  · rw [refused]
    exact ⟨stays_requeueAndCrash heard orderly idle named identified own queued _ attemptId,
      fun ended => nomatch ended⟩
  · rw [accepted]
    have keeps := (keeps_skipped heard orderly idle queued).alike
      ((alike_recordStat _ .skipped 1).trans (alike_finishAttempt _ attemptId .skipped none))
    exact ⟨keeps.stays, fun _ => keeps⟩

end Skip

section Requeue

/-- A row in hand is put back as it is, for a transient reason. -/
theorem gives_requeueTransient (orderly : Orderly held store.state.queue store.state) (holding : uid ∈ held)
    (identified : Identified snapshot) (own : jobUidFromSnapshot snapshot = uid) (transientKind : String)
    (attemptId : Option Int) (errorMessage : Option Json) :
    Gives store held uid snapshot
      (store.requeueTransient config snapshot transientKind attemptId errorMessage) := by
  have landed : uid ∉ store.state.inFlightUids := by
    intro flying
    apply Finset.disjoint_left.mp orderly.heldApart holding
    simp [flying]
  generalize placing : config.planRequeue snapshot (some transientKind) = front
  have requeued : Gives store held uid snapshot
      (store.mapState fun state => state.requeueJobs [snapshot] front) := by
    have passes := @passes_requeue _ uid snapshot snapshot held store 0 orderly (Or.inl holding) identified own own
      rfl front
    have same : (store.mapState fun state => (state.unregisterInFlight uid).requeueJobs [snapshot] front) =
        store.mapState fun state => state.requeueJobs [snapshot] front := by
      show { store with state := (store.state.unregisterInFlight uid).requeueJobs [snapshot] front } =
        { store with state := store.state.requeueJobs [snapshot] front }
      rw [unregisterInFlight_self orderly.coherent landed]
    rw [same] at passes
    exact ⟨passes, (Finset.erase_eq_of_notMem landed).symm⟩
  unfold requeueTransient
  dsimp only
  rw [placing]
  apply requeued.alike
  split
  · exact alike_finishAttempt _ _ _ _
  · exact (alike_recordStat _ _ _).trans (alike_finishAttempt _ _ _ _)

end Requeue

section Bulk

/-- A batch of queued jobs is archived; the rows of these jobs have to name them. -/
theorem keeps_applyBulkFailure {uidsMetas : List (String × Record)}
    (orderly : Orderly held store.state.queue store.state) (idle : Idle held store.state (uidsMetas.map Prod.fst))
    (named : ∀ row ∈ store.state.queue, jobUidFromSnapshot row ∈ uidsMetas.map Prod.fst → Identified row) :
    Keeps store held (store.applyBulkFailure config uidsMetas).1 := by
  have fewer : ∀ uid ∈ ((uidsMetas.filter fun entry => entry.1 ∉ store.selectionExcludedUids config).map
      fun entry => (entry.1, store.normalize config entry.2)).map Prod.fst, uid ∈ uidsMetas.map Prod.fst := by
    intro uid member
    simp only [List.map_map, List.mem_map, Function.comp_apply] at member ⊢
    obtain ⟨entry, listed, rfl⟩ := member
    exact ⟨entry, (List.mem_filter.mp listed).1, rfl⟩
  unfold applyBulkFailure
  dsimp only
  split
  · exact keeps_refl orderly
  · apply keeps_settleBatch config _ _ _ orderly
    · exact fun uid member => idle uid (fewer uid member)
    · exact fun row member listed => named row member (fewer _ listed)
    · exact fun store uid metadata => ⟨metadata, rfl⟩

end Bulk

end Tasklite.Engine.Settlement
