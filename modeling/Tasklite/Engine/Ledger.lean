import Tasklite.Engine.Lifecycle
import Tasklite.Models.Coherence

/-! The ledger of the backend's queue: which uids were there at the start or inserted
later and not removed since, read off the history of accepted commits. -/

namespace Tasklite.Engine.Ledger
open Tasklite.Library Tasklite.Models Tasklite.Models.Identity Tasklite.Backend
open PipelineState StateStore

variable [Python] {backend : Memory} {opening : Finset String} {events : List Event} {jobUid : String}

/-- What an accepted commit does to the set of uids that stand in the queue. -/
def post (standing : Finset String) : Event → Finset String
  | .enqueued uids => standing ∪ uids.toFinset
  | .succeeded uid spawned => standing.erase uid ∪ spawned.toFinset
  | .failed uids => standing \ uids.toFinset
  | .retried _ => standing
  | .skipped uid => standing.erase uid

/-- The uids that were queued at the start or inserted later, and not removed since. -/
def standing (opening : Finset String) (events : List Event) : Finset String := events.foldl post opening

/-- The uids that an event inserts. -/
def insertedBy : Event → Finset String
  | .enqueued uids => uids.toFinset
  | .succeeded _ spawned => spawned.toFinset
  | _ => ∅

/-- The uids that an event takes out without a terminal record. -/
def skippedBy : Event → Finset String
  | .skipped uid => {uid}
  | _ => ∅

/-- The backend's queue holds exactly what stands in the ledger, and every uid that was queued at the start
or inserted later is queued, has succeeded or failed, or was skipped. -/
structure Lawful (opening : Finset String) (backend : Memory) (events : List Event) : Prop where
  exact : uidsOf backend.queue = standing opening events
  accounted : ∀ uid, (uid ∈ opening ∨ ∃ event ∈ events, uid ∈ insertedBy event) →
    uid ∈ uidsOf backend.queue ∨ uid ∈ backend.successes.keys ∨ uid ∈ backend.failed.keys ∨
      ∃ event ∈ events, uid ∈ skippedBy event

theorem lawful_nil (backend : Memory) : Lawful (uidsOf backend.queue) backend [] where
  exact := rfl
  accounted := by
    intro uid known
    simp only [List.not_mem_nil, false_and, exists_false, or_false] at known
    exact Or.inl known

omit [Python] in
theorem standing_concat (event : Event) :
    standing opening (events ++ [event]) = post (standing opening events) event := by
  simp [standing]

/-- One more event: the queue follows the ledger, and nothing that is accounted for gets lost. -/
theorem Lawful.concat {after : Memory} {event : Event} (lawful : Lawful opening backend events)
    (exact : uidsOf after.queue = post (uidsOf backend.queue) event)
    (inserts : insertedBy event ⊆ uidsOf after.queue)
    (keeps : ∀ uid, uid ∈ uidsOf backend.queue → uid ∈ uidsOf after.queue ∨ uid ∈ after.successes.keys ∨
      uid ∈ after.failed.keys ∨ uid ∈ skippedBy event)
    (ends : ∀ uid, uid ∈ backend.successes.keys ∨ uid ∈ backend.failed.keys →
      uid ∈ after.successes.keys ∨ uid ∈ after.failed.keys) :
    Lawful opening after (events ++ [event]) where
  exact := by rw [exact, standing_concat, lawful.exact]
  accounted := by
    intro uid known
    have before : uid ∈ insertedBy event ∨ uid ∈ opening ∨ ∃ event ∈ events, uid ∈ insertedBy event := by
      rcases known with opened | ⟨other, member, insertion⟩
      · exact Or.inr (Or.inl opened)
      · rcases List.mem_append.mp member with old | new
        · exact Or.inr (Or.inr ⟨other, old, insertion⟩)
        · exact Or.inl (List.mem_singleton.mp new ▸ insertion)
    rcases before with new | old
    · exact Or.inl (inserts new)
    · rcases lawful.accounted uid old with queued | success | failure | ⟨other, member, skip⟩
      · rcases keeps uid queued with still | success | failure | skip
        · exact Or.inl still
        · exact Or.inr (Or.inl success)
        · exact Or.inr (Or.inr (Or.inl failure))
        · exact Or.inr (Or.inr (Or.inr ⟨event, by simp, skip⟩))
      · have ended := ends uid (Or.inl success)
        tauto
      · have ended := ends uid (Or.inr failure)
        tauto
      · exact Or.inr (Or.inr (Or.inr ⟨other, List.mem_append_left _ member, skip⟩))

/-- The ledger reads the queue's uids and the keys of the terminal maps, nothing else. -/
theorem Lawful.congr {after : Memory} (lawful : Lawful opening backend events)
    (queue : uidsOf after.queue = uidsOf backend.queue)
    (ends : ∀ uid, uid ∈ backend.successes.keys ∨ uid ∈ backend.failed.keys →
      uid ∈ after.successes.keys ∨ uid ∈ after.failed.keys) : Lawful opening after events where
  exact := by rw [queue, lawful.exact]
  accounted := by
    intro uid known
    rw [queue]
    rcases lawful.accounted uid known with queued | success | failure | skip
    · exact Or.inl queued
    · have ended := ends uid (Or.inl success)
      tauto
    · have ended := ends uid (Or.inr failure)
      tauto
    · exact Or.inr (Or.inr (Or.inr skip))

section Transactions

theorem uidsOf_enqueueJobs (snapshots : List Record) (front : Bool) :
    uidsOf (backend.enqueueJobs snapshots front).1.queue =
      uidsOf backend.queue ∪ (backend.enqueueJobs snapshots front).2.toFinset := by
  have listed : ((Fresh.fresh jobUidFromSnapshot (uidsOf backend.queue) snapshots).map
      jobUidFromSnapshot).toFinset = uidsOf (Fresh.fresh jobUidFromSnapshot (uidsOf backend.queue) snapshots) := rfl
  unfold Memory.enqueueJobs
  rw [listed]
  cases front
  · simp [uidsOf]
  · simp [uidsOf, Finset.union_comm]

theorem lawful_enqueueJobs (lawful : Lawful opening backend events) (snapshots : List Record) (front : Bool) :
    Lawful opening (backend.enqueueJobs snapshots front).1
      (events ++ [.enqueued (backend.enqueueJobs snapshots front).2]) := by
  have grown : uidsOf (backend.enqueueJobs snapshots front).1.queue =
      uidsOf backend.queue ∪ (backend.enqueueJobs snapshots front).2.toFinset := uidsOf_enqueueJobs snapshots front
  apply lawful.concat grown
  · intro uid insertion
    rw [grown]
    exact Finset.mem_union_right _ insertion
  · intro uid queued
    rw [grown]
    exact Or.inl (Finset.mem_union_left _ queued)
  · exact fun uid ended => ended

theorem uidsOf_remaining (jobUid : String) :
    uidsOf (backend.remaining jobUid) = (uidsOf backend.queue).erase jobUid := by
  rw [Memory.remaining, uidsOf, Fresh.keys_without, Finset.sdiff_singleton_eq_erase, uidsOf]

/-- What an accepted success has done. -/
theorem commitJobSuccess_true {success : Memory.Success} (accepted : (backend.commitJobSuccess success).2 = true) :
    Disjoint (uidsOf success.spawned) ((uidsOf backend.queue).erase success.jobUid) ∧
      (success.spawned.map jobUidFromSnapshot).Nodup ∧
      (backend.commitJobSuccess success).1.queue = success.spawned ++ backend.remaining success.jobUid ∧
      (backend.commitJobSuccess success).1.successes =
        backend.successes.set success.jobUid success.resultMetadata ∧
      (backend.commitJobSuccess success).1.failed = backend.failed.erase success.jobUid := by
  unfold Memory.commitJobSuccess at accepted ⊢
  split at accepted
  · split at accepted
    · cases accepted
    · rename_i clear
      have kept : Fresh.fresh jobUidFromSnapshot (uidsOf (backend.remaining success.jobUid)) success.spawned =
          success.spawned := by
        simpa [Memory.spawnConflict, uidsOf] using clear
      refine ⟨?_, ?_, by simp [clear], by simp [clear], by simp [clear]⟩
      · rw [Finset.disjoint_left, ← uidsOf_remaining]
        intro uid spawned old
        obtain ⟨row, member, rfl⟩ := Fresh.mem_keys.mp spawned
        rw [← kept] at member
        exact Fresh.key_notMem_of_mem_fresh member old
      · rw [← kept]
        exact Fresh.fresh_nodup _ _
  · cases accepted

theorem lawful_commitJobSuccess {success : Memory.Success} (lawful : Lawful opening backend events)
    (accepted : (backend.commitJobSuccess success).2 = true) :
    Lawful opening (backend.commitJobSuccess success).1
      (events ++ [.succeeded success.jobUid (success.spawned.map jobUidFromSnapshot)]) := by
  obtain ⟨-, -, queue, successes, failed⟩ := commitJobSuccess_true accepted
  have moved : uidsOf (backend.commitJobSuccess success).1.queue =
      (uidsOf backend.queue).erase success.jobUid ∪ uidsOf success.spawned := by
    rw [queue, uidsOf, Fresh.keys_append, Finset.union_comm]
    exact congrArg (· ∪ _) (uidsOf_remaining success.jobUid)
  apply lawful.concat moved
  · rw [moved]
    exact Finset.subset_union_right
  · intro uid queued
    rw [moved, successes]
    by_cases same : uid = success.jobUid
    · exact Or.inr (Or.inl (Dict.mem_keys_set.mpr (Or.inl same)))
    · exact Or.inl (Finset.mem_union_left _ (Finset.mem_erase.mpr ⟨same, queued⟩))
  · intro uid ended
    rw [successes, failed]
    by_cases same : uid = success.jobUid
    · exact Or.inl (Dict.mem_keys_set.mpr (Or.inl same))
    · rcases ended with success_ | failure
      · exact Or.inl (Dict.mem_keys_set.mpr (Or.inr success_))
      · exact Or.inr (Dict.mem_keys_erase.mpr ⟨same, failure⟩)

omit [Python] in
theorem mem_keys_foldl_set {metas : List (String × Record)} {failed : Dict String Record} {uid : String} :
    uid ∈ (metas.foldl (fun failed entry => failed.set entry.1 entry.2) failed).keys ↔
      uid ∈ metas.map Prod.fst ∨ uid ∈ failed.keys := by
  induction metas generalizing failed with
  | nil => simp
  | cons entry rest ih =>
    simp only [List.foldl_cons, ih, Dict.mem_keys_set, List.map_cons, List.mem_cons]
    tauto

omit [Python] in
theorem mem_keys_foldl_erase {metas : List (String × Record)} {successes : Dict String Record} {uid : String} :
    uid ∈ (metas.foldl (fun successes entry => successes.erase entry.1) successes).keys ↔
      uid ∉ metas.map Prod.fst ∧ uid ∈ successes.keys := by
  induction metas generalizing successes with
  | nil => simp
  | cons entry rest ih =>
    simp only [List.foldl_cons, ih, Dict.mem_keys_erase, List.map_cons, List.mem_cons, not_or]
    tauto

theorem lawful_commitJobFailures (lawful : Lawful opening backend events) (metas : List (String × Record)) :
    Lawful opening (backend.commitJobFailures metas).1 (events ++ [.failed (metas.map Prod.fst)]) := by
  have moved : uidsOf (backend.commitJobFailures metas).1.queue =
      uidsOf backend.queue \ (metas.map Prod.fst).toFinset := Fresh.keys_without _ _
  apply lawful.concat moved
  · exact Finset.empty_subset _
  · intro uid queued
    rw [moved]
    by_cases gone : uid ∈ metas.map Prod.fst
    · exact Or.inr (Or.inr (Or.inl (mem_keys_foldl_set.mpr (Or.inl gone))))
    · exact Or.inl (Finset.mem_sdiff.mpr ⟨queued, by simpa using gone⟩)
  · intro uid ended
    by_cases gone : uid ∈ metas.map Prod.fst
    · exact Or.inr (mem_keys_foldl_set.mpr (Or.inl gone))
    · rcases ended with success | failure
      · exact Or.inl (mem_keys_foldl_erase.mpr ⟨gone, success⟩)
      · exact Or.inr (mem_keys_foldl_set.mpr (Or.inr failure))

/-- A single failure is a batch of one, with a payload. -/
theorem lawful_commitJobFailure (lawful : Lawful opening backend events) (jobUid : String) (metadata : Record)
    (payload : Option Record) :
    Lawful opening (backend.commitJobFailure jobUid metadata payload).1 (events ++ [.failed [jobUid]]) := by
  have batch := lawful_commitJobFailures lawful [(jobUid, metadata)]
  exact ⟨batch.exact, batch.accounted⟩

/-- A retry puts back what it takes. -/
theorem uidsOf_commitRetry {requeued : Record} (front : Bool) (same : jobUidFromSnapshot requeued = jobUid)
    (queued : jobUid ∈ uidsOf backend.queue) :
    (backend.commitRetry jobUid requeued front).2 = true ∧
      uidsOf (backend.commitRetry jobUid requeued front).1.queue = uidsOf backend.queue := by
  unfold Memory.commitRetry
  simp only [same, ne_eq, not_true_eq_false, false_and, if_false, true_and]
  have whole : insert jobUid (uidsOf (backend.remaining jobUid)) = uidsOf backend.queue := by
    rw [uidsOf_remaining, Finset.insert_erase queued]
  cases front
  · simpa [uidsOf, same, Finset.union_comm] using whole
  · simpa [uidsOf, same] using whole

theorem lawful_commitRetry {requeued : Record} (lawful : Lawful opening backend events) (front : Bool)
    (same : jobUidFromSnapshot requeued = jobUid) (queued : jobUid ∈ uidsOf backend.queue) :
    Lawful opening (backend.commitRetry jobUid requeued front).1 (events ++ [.retried jobUid]) := by
  have still := (uidsOf_commitRetry front same queued).2
  have others : (backend.commitRetry jobUid requeued front).1.successes = backend.successes ∧
      (backend.commitRetry jobUid requeued front).1.failed = backend.failed := by
    unfold Memory.commitRetry
    dsimp only
    split <;> exact ⟨rfl, rfl⟩
  apply lawful.concat still
  · exact Finset.empty_subset _
  · intro uid member
    rw [still]
    exact Or.inl member
  · rw [others.1, others.2]
    exact fun uid ended => ended

theorem lawful_commitSkip (lawful : Lawful opening backend events) (jobUid : String) :
    Lawful opening (backend.commitSkip jobUid).1 (events ++ [.skipped jobUid]) := by
  have moved : uidsOf (backend.commitSkip jobUid).1.queue = (uidsOf backend.queue).erase jobUid :=
    uidsOf_remaining jobUid
  apply lawful.concat moved
  · exact Finset.empty_subset _
  · intro uid queued
    rw [moved]
    by_cases same : uid = jobUid
    · exact Or.inr (Or.inr (Or.inr (Finset.mem_singleton.mpr same)))
    · exact Or.inl (Finset.mem_erase.mpr ⟨same, queued⟩)
  · exact fun uid ended => ended

end Transactions

end Tasklite.Engine.Ledger
