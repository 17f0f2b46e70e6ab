import Tasklite.Models.Identity

/-! The representation invariant of the pipeline state, and what each mutator needs to
keep it. -/

namespace Tasklite.Models.Coherence
open Tasklite.Library Tasklite.Models.Identity PipelineState

variable [Python] {state : PipelineState} {jobUid : String} {rows : List Record}

/-- The indices are the key sets of what they index, a job is not queued and in flight or succeeded and
failed at once, and no assertion has failed. -/
structure Coherent (state : PipelineState) : Prop where
  queueUids : state.queueUids = uidsOf state.queue
  successUids : state.successUids = state.successes.keys.toFinset
  failedUids : state.failedUids = state.failed.keys.toFinset
  queueInFlight : Disjoint state.queueUids state.inFlightUids
  terminal : Disjoint state.successUids state.failedUids
  skippedQueue : Disjoint state.triggerSkippedUids state.queueUids
  skippedInFlight : Disjoint state.triggerSkippedUids state.inFlightUids
  asserted : state.asserted = true

/-- No uid is queued twice. -/
def Tidy (state : PipelineState) : Prop := (state.queue.map jobUidFromSnapshot).Nodup

theorem uidsConsistent_iff : state.uidsConsistent = true ↔ state.queueUids = uidsOf state.queue := by
  simp [uidsConsistent]

omit [Python] in
theorem terminalUidsConsistent_iff : state.terminalUidsConsistent = true ↔
    state.successUids = state.successes.keys.toFinset ∧
      state.failedUids = state.failed.keys.toFinset := by
  simp [terminalUidsConsistent]

theorem stateConsistent_of_coherent (coherent : Coherent state) : state.stateConsistent = true := by
  have queued := Finset.disjoint_iff_inter_eq_empty.mp coherent.queueInFlight
  have ended := Finset.disjoint_iff_inter_eq_empty.mp coherent.terminal
  simp only [stateConsistent, decide_eq_true_eq, uidsConsistent_iff, terminalUidsConsistent_iff]
  exact ⟨queued, ended, coherent.queueUids, coherent.successUids, coherent.failedUids⟩

omit [Python] in
/-- An assertion that holds changes nothing. -/
theorem require_of_holds {check : PipelineState → Bool} (holds : check state = true) :
    require check state = state := by
  simp [require, holds]

section Load

theorem coherent_init {successes failed : Dict String Record} (cursors : Dict String String)
    (rows : List Record) (apart : ∀ uid ∈ successes.keys, uid ∉ failed.keys) :
    Coherent (PipelineState.init successes failed cursors rows) where
  queueUids := rfl
  successUids := rfl
  failedUids := rfl
  queueInFlight := Finset.disjoint_empty_right _
  terminal := by
    rw [Finset.disjoint_left]
    intro uid success failure
    exact apart uid (List.mem_toFinset.mp success) (List.mem_toFinset.mp failure)
  skippedQueue := Finset.disjoint_empty_left _
  skippedInFlight := Finset.disjoint_empty_left _
  asserted := rfl

end Load

section Queue

/-- Rows whose jobs are not in flight may be enqueued. -/
theorem coherent_spawnJobs (coherent : Coherent state) (front : Bool)
    (idle : Disjoint (uidsOf rows) state.inFlightUids) : Coherent (state.spawnJobs rows front) := by
  have indexed : state.queueUids ∪ uidsOf rows =
      uidsOf (if front then rows ++ state.queue else state.queue ++ rows) := by
    rw [coherent.queueUids]
    cases front <;> simp [uidsOf, Finset.union_comm]
  unfold spawnJobs
  rw [require_of_holds (uidsConsistent_iff.mpr indexed)]
  refine { coherent with
    queueUids := indexed
    queueInFlight := Finset.disjoint_union_left.mpr ⟨coherent.queueInFlight, idle⟩
    skippedQueue := Finset.disjoint_union_right.mpr ⟨?_, Finset.sdiff_disjoint⟩
    skippedInFlight := ?_ }
  · exact coherent.skippedQueue.mono_left Finset.sdiff_subset
  · exact coherent.skippedInFlight.mono_left Finset.sdiff_subset

theorem coherent_requeueJobs (coherent : Coherent state) (front : Bool)
    (idle : Disjoint (uidsOf rows) state.inFlightUids) : Coherent (state.requeueJobs rows front) :=
  coherent_spawnJobs coherent front idle

/-- The queue may be replaced by rows whose jobs are not in flight. -/
theorem coherent_replaceQueue (coherent : Coherent state)
    (idle : Disjoint (uidsOf rows) state.inFlightUids) : Coherent (state.replaceQueue rows) := by
  unfold replaceQueue
  rw [require_of_holds (uidsConsistent_iff.mpr rfl)]
  exact { coherent with
    queueUids := rfl
    queueInFlight := idle
    skippedQueue := Finset.sdiff_disjoint
    skippedInFlight := coherent.skippedInFlight.mono_left Finset.sdiff_subset }

theorem coherent_removeQueuedUid (coherent : Coherent state) (jobUid : String) :
    Coherent (state.removeQueuedUid jobUid) := by
  unfold removeQueuedUid
  split
  · exact coherent
  · have indexed : state.queueUids.erase jobUid =
        uidsOf (Fresh.without jobUidFromSnapshot {jobUid} state.queue) := by
      rw [uidsOf, Fresh.keys_without, Finset.sdiff_singleton_eq_erase, coherent.queueUids, uidsOf]
    rw [require_of_holds (uidsConsistent_iff.mpr indexed)]
    exact { coherent with
      queueUids := indexed
      queueInFlight := coherent.queueInFlight.mono_left (Finset.erase_subset _ _)
      skippedQueue := coherent.skippedQueue.mono_right (Finset.erase_subset _ _) }

end Queue

section InFlight

theorem coherent_registerInFlight (coherent : Coherent state) (idle : jobUid ∉ state.queueUids)
    (awake : jobUid ∉ state.triggerSkippedUids) : Coherent (state.registerInFlight jobUid) := by
  have registered : Coherent { state with inFlightUids := insert jobUid state.inFlightUids } := { coherent with
    queueInFlight := Finset.disjoint_insert_right.mpr ⟨idle, coherent.queueInFlight⟩
    skippedInFlight := Finset.disjoint_insert_right.mpr ⟨awake, coherent.skippedInFlight⟩ }
  unfold registerInFlight
  rw [require_of_holds (stateConsistent_of_coherent registered)]
  exact registered

theorem unregisterInFlight_eq (coherent : Coherent state) (jobUid : String) :
    state.unregisterInFlight jobUid = { state with inFlightUids := state.inFlightUids.erase jobUid } ∧
      Coherent { state with inFlightUids := state.inFlightUids.erase jobUid } := by
  have unregistered : Coherent { state with inFlightUids := state.inFlightUids.erase jobUid } := { coherent with
    queueInFlight := coherent.queueInFlight.mono_right (Finset.erase_subset _ _)
    skippedInFlight := coherent.skippedInFlight.mono_right (Finset.erase_subset _ _) }
  exact ⟨require_of_holds (stateConsistent_of_coherent unregistered), unregistered⟩

theorem coherent_unregisterInFlight (coherent : Coherent state) (jobUid : String) :
    Coherent (state.unregisterInFlight jobUid) := by
  rw [(unregisterInFlight_eq coherent jobUid).1]
  exact (unregisterInFlight_eq coherent jobUid).2

end InFlight

section Terminal

omit [Python] in
theorem keys_set_toFinset (dict : Dict String Record) (jobUid : String) (metadata : Record) :
    (dict.set jobUid metadata).keys.toFinset = insert jobUid dict.keys.toFinset := by
  ext uid
  simp [Dict.mem_keys_set]

omit [Python] in
theorem keys_erase_toFinset (dict : Dict String Record) (jobUid : String) :
    (dict.erase jobUid).keys.toFinset = dict.keys.toFinset.erase jobUid := by
  ext uid
  simp [Dict.mem_keys_erase]

theorem coherent_markSuccess (coherent : Coherent state) (jobUid : String) (metadata : Record) :
    Coherent (state.markSuccess jobUid metadata) := by
  have successes : insert jobUid state.successUids = (state.successes.set jobUid metadata).keys.toFinset := by
    rw [keys_set_toFinset, coherent.successUids]
  have failed : state.failedUids.erase jobUid = (state.failed.erase jobUid).keys.toFinset := by
    rw [keys_erase_toFinset, coherent.failedUids]
  unfold markSuccess
  rw [require_of_holds (terminalUidsConsistent_iff.mpr ⟨successes, failed⟩)]
  exact { coherent with
    successUids := successes
    failedUids := failed
    terminal := Finset.disjoint_insert_left.mpr
      ⟨Finset.notMem_erase _ _, coherent.terminal.mono_right (Finset.erase_subset _ _)⟩
    skippedQueue := coherent.skippedQueue.mono_left (Finset.erase_subset _ _)
    skippedInFlight := coherent.skippedInFlight.mono_left (Finset.erase_subset _ _) }

theorem coherent_markFailed (coherent : Coherent state) (jobUid : String) (metadata : Record) :
    Coherent (state.markFailed jobUid metadata) := by
  have failed : insert jobUid state.failedUids = (state.failed.set jobUid metadata).keys.toFinset := by
    rw [keys_set_toFinset, coherent.failedUids]
  have successes : state.successUids.erase jobUid = (state.successes.erase jobUid).keys.toFinset := by
    rw [keys_erase_toFinset, coherent.successUids]
  unfold markFailed
  rw [require_of_holds (terminalUidsConsistent_iff.mpr ⟨successes, failed⟩)]
  exact { coherent with
    successUids := successes
    failedUids := failed
    terminal := Finset.disjoint_insert_right.mpr
      ⟨Finset.notMem_erase _ _, coherent.terminal.mono_left (Finset.erase_subset _ _)⟩
    skippedQueue := coherent.skippedQueue.mono_left (Finset.erase_subset _ _)
    skippedInFlight := coherent.skippedInFlight.mono_left (Finset.erase_subset _ _) }

theorem coherent_updateCursors (coherent : Coherent state) (updates : List (String × Option String)) :
    Coherent (state.updateCursors updates) := { coherent with }

theorem coherent_markTriggerSkipped (coherent : Coherent state) (idle : jobUid ∉ state.queueUids)
    (landed : jobUid ∉ state.inFlightUids) : Coherent (state.markTriggerSkipped jobUid) := { coherent with
  skippedQueue := Finset.disjoint_insert_left.mpr ⟨idle, coherent.skippedQueue⟩
  skippedInFlight := Finset.disjoint_insert_left.mpr ⟨landed, coherent.skippedInFlight⟩ }

end Terminal

end Tasklite.Models.Coherence
