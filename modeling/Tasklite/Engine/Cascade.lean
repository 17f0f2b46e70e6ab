import Tasklite.Engine.Mirror
import Tasklite.Engine.Progress
import Tasklite.Models.Cascade

/-! The commit of a cascade. The batch that goes to the backend and the rows that leave the
queue in memory are the same downstream closure of the failed job. -/

namespace Tasklite.Engine.Cascade
open Tasklite.Library Tasklite.Models Tasklite.Models.PipelineState Tasklite.Engine.Custody
  Tasklite.Engine.Strikes Tasklite.Engine.Mirror Tasklite.Engine.Lifecycle Tasklite.Backend StateStore Relation

section Theory

variable [Python] (config : StoreConfig) {store : StateStore} {uid failedUid : String}

/-- The store when the next commit runs: other processes have had their turn. -/
def arrived (store : StateStore) : StateStore :=
  (store.answers.headD {}).enqueued.foldl (fun store batch => store.enqueueElsewhere batch.1 batch.2)
    { store with answers := store.answers.tail }

theorem commit_accepted (accepted : (store.answers.headD {}).accepted = true) (event : Event)
    {transaction : Memory → Memory × Bool} (taken : (transaction (arrived store).backend).2 = true) :
    store.commit event transaction = ({ arrived store with
      backend := (transaction (arrived store).backend).1
      events := (arrived store).events ++ [event] }, true) := by
  unfold commit
  dsimp only
  rw [if_pos accepted]
  unfold arrived at taken ⊢
  rcases ran : transaction _ with ⟨backend, answered⟩
  rw [ran] at taken
  subst taken
  rfl

theorem arrived_state (store : StateStore) : (arrived store).state = store.state :=
  (asked_foldl (store.answers.headD {}).enqueued { store with answers := store.answers.tail }).1.1

theorem arrived_failed (store : StateStore) : (arrived store).backend.failed = store.backend.failed := by
  obtain ⟨queue, same⟩ :=
    (asked_foldl (store.answers.headD {}).enqueued { store with answers := store.answers.tail }).1.2.2
  unfold arrived
  rw [same]

/-- The jobs that go down with a failed one. -/
def cascaded (store : StateStore) (failedUid : String) : List String :=
  store.state.cascadeFail failedUid (store.selectionExcludedUids config)

variable {config}

theorem mem_cascaded : uid ∈ cascaded config store failedUid ↔
    uid ≠ failedUid ∧ TransGen (store.state.TakesDown (store.selectionExcludedUids config)) failedUid uid :=
  (cascadeFail_closure store.state failedUid (store.selectionExcludedUids config)).2.2 uid

/-- The filter behind the traversal has nothing left to drop. -/
theorem downstream_eq : downstream config store failedUid = cascaded config store failedUid := by
  unfold downstream
  apply List.filter_eq_self.mpr
  intro uid member
  obtain ⟨-, path⟩ := mem_cascaded.mp member
  obtain ⟨parent, -, last⟩ := TransGen.tail'_iff.mp path
  simpa using last.2.1

theorem queued_of_cascaded (member : uid ∈ cascaded config store failedUid) : uid ∈ uidsOf store.state.queue := by
  obtain ⟨-, path⟩ := mem_cascaded.mp member
  obtain ⟨parent, -, ⟨job, queued, named, -⟩, -⟩ := TransGen.tail'_iff.mp path
  obtain ⟨row, listed, -, same⟩ := queuedJobs_row queued
  rw [← named, ← same]
  exact Fresh.key_mem_keys listed

theorem cascadeFail_of_nil (nothing : cascaded config store failedUid = []) :
    store.cascadeFail config failedUid = (store, .ok []) := by
  rcases cascadeFail_cases config store failedUid with ⟨-, same⟩ | ⟨some, -⟩
  · exact same
  · exact absurd (downstream_eq.trans nothing) some

omit [Python] in
theorem contains_archive {change : Record → Record} {metas : List (String × Record)} {failed : Dict String Record} :
    (archive change metas failed).contains uid = true ↔
      failed.contains uid = true ∨ uid ∈ metas.map Prod.fst := by
  induction metas generalizing failed with
  | nil => simp [archive]
  | cons entry rest ih =>
    have set : (failed.set entry.1 (change entry.2)).contains uid = true ↔
        failed.contains uid = true ∨ uid = entry.1 := by
      rw [Dict.contains_iff, Dict.mem_keys_set, Dict.contains_iff]
      exact or_comm
    have first : archive change (entry :: rest) failed =
        archive change rest (failed.set entry.1 (change entry.2)) := rfl
    rw [first, ih, set, List.map_cons, List.mem_cons, or_assoc]

omit [Python] in
theorem markEach_diskQueue {mark : StateStore → String → Record → StateStore} {metas : List (String × Record)}
    (marks : ∀ store uid metadata, (mark store uid metadata).backend = store.backend) :
    (markEach mark metas store).backend.queue = store.backend.queue := by
  induction metas generalizing store with
  | nil => rfl
  | cons entry rest ih =>
    simp only [markEach]
    rw [ih, (alike_fireAttemptFinished _ _ _).queue, marks]

/-- A cascade whose commit is answered with true. -/
theorem cascadeFail_accepted (accepted : (store.answers.headD {}).accepted = true)
    (nonempty : cascaded config store failedUid ≠ []) :
    let after := (store.cascadeFail config failedUid).1
    let uids := cascaded config store failedUid
    (store.cascadeFail config failedUid).2 = .ok uids ∧
      after.state.queue = Fresh.without jobUidFromSnapshot uids.toFinset store.state.queue ∧
      after.backend.queue = Fresh.without jobUidFromSnapshot uids.toFinset (arrived store).backend.queue ∧
      (∀ uid, after.state.failed.contains uid = true ↔ store.state.failed.contains uid = true ∨ uid ∈ uids) ∧
      ∀ uid, after.backend.failed.contains uid = true ↔ store.backend.failed.contains uid = true ∨ uid ∈ uids := by
  dsimp only
  set uids := cascaded config store failedUid with named
  set metas := uids.map fun uid => (uid, dependencyMetadata failedUid) with batch
  set mark : StateStore → String → Record → StateStore :=
    fun store jobUid metadata => store.markFailedMemory config jobUid metadata true
  have listed : metas.map Prod.fst = uids := by simp [batch, Function.comp_def]
  have cascaded : store.cascadeFail config failedUid =
      settleBatch config mark .cascadeFailed cascadeCrashMessage metas store := by
    have same : (store.state.cascadeFail failedUid (store.selectionExcludedUids config)).filter
        (fun uid => uid ∉ store.selectionExcludedUids config) = uids := downstream_eq
    unfold StateStore.cascadeFail
    simp only [same]
    exact if_neg (by simpa using nonempty)
  let committed : StateStore := { arrived store with
    backend := ((arrived store).backend.commitJobFailures metas).1
    events := (arrived store).events ++ [.failed uids] }
  let removed := (committed.mapState fun state =>
    state.replaceQueue (Fresh.without jobUidFromSnapshot uids.toFinset state.queue)).recordStat
      .cascadeFailed metas.length
  have settled : settleBatch config mark .cascadeFailed cascadeCrashMessage metas store =
      (markEach mark metas removed, .ok uids) := by
    have accepts : ((arrived store).backend.commitJobFailures metas).2 = true := rfl
    have answered : store.commit (.failed uids) (fun backend => backend.commitJobFailures metas) =
        (committed, true) := commit_accepted accepted _ accepts
    simp only [settleBatch, listed, answered]
    rfl
  have marks : Marks (normalizeFailureMetadata config.classify removed.now) mark removed.now := by
    intro other uid metadata now
    refine ⟨rfl, ?_, rfl, rfl, now⟩
    rw [← now]
    rfl
  obtain ⟨-, failed, -, -, diskFailed, -⟩ := markEach_archived marks metas
  have queue : (markEach mark metas removed).state.queue = removed.state.queue :=
    Progress.markEach_queue fun _ _ _ => rfl
  have disk : (markEach mark metas removed).backend.queue = removed.backend.queue :=
    markEach_diskQueue fun _ _ _ => rfl
  rw [cascaded, settled]
  refine ⟨rfl, ?_, ?_, fun uid => ?_, fun uid => ?_⟩
  · rw [queue]
    show Fresh.without jobUidFromSnapshot uids.toFinset (arrived store).state.queue = _
    rw [arrived_state]
  · rw [disk]
    show Fresh.without jobUidFromSnapshot (metas.map Prod.fst).toFinset (arrived store).backend.queue = _
    rw [listed]
  · rw [failed, contains_archive, listed]
    show (arrived store).state.failed.contains uid = true ∨ _ ↔ _
    rw [arrived_state]
  · rw [diskFailed]
    show (archive id metas (arrived store).backend.failed).contains uid = true ↔ _
    rw [contains_archive, listed, arrived_failed]

/-- The traversal ends and finds each job of the downstream closure once; and once the backend has accepted the
commit of a cascade, just these jobs have left the queue and are in the failure archive, in memory and on disk,
while the other rows stand in their order. -/
theorem cascadeFail_spec (config : StoreConfig) :
    (∀ (state : PipelineState) (failedUid : String) (excluded : Finset String),
      (∀ rounds, state.queue.length + 1 ≤ rounds →
        (state.cascadeAt excluded failedUid rounds).stack = [] ∧
          (state.cascadeAt excluded failedUid rounds).marked.map Prod.fst =
            failedUid :: state.cascadeFail failedUid excluded) ∧
        (state.cascadeFail failedUid excluded).Nodup ∧
        ∀ uid, uid ∈ state.cascadeFail failedUid excluded ↔
          uid ≠ failedUid ∧ TransGen (state.TakesDown excluded) failedUid uid) ∧
      ∀ (store : StateStore) (failedUid : String), (store.answers.headD {}).accepted = true →
        let after := (store.cascadeFail config failedUid).1
        let uids := store.state.cascadeFail failedUid (store.selectionExcludedUids config)
        (store.cascadeFail config failedUid).2 = .ok uids ∧
          (∀ uid ∈ uids, uid ∈ uidsOf store.state.queue) ∧
          after.state.queue = Fresh.without jobUidFromSnapshot uids.toFinset store.state.queue ∧
          (∀ uid, after.state.failed.contains uid = true ↔
            store.state.failed.contains uid = true ∨ uid ∈ uids) ∧
          (uids = [] ∧ after = store ∨
            after.backend.queue = Fresh.without jobUidFromSnapshot uids.toFinset (arrived store).backend.queue ∧
              ∀ uid, after.backend.failed.contains uid = true ↔
                store.backend.failed.contains uid = true ∨ uid ∈ uids) := by
  refine ⟨cascadeFail_closure, fun store failedUid accepted => ?_⟩
  have queued : ∀ uid ∈ cascaded config store failedUid, uid ∈ uidsOf store.state.queue :=
    fun uid member => queued_of_cascaded member
  by_cases nothing : cascaded config store failedUid = []
  · have same := cascadeFail_of_nil nothing
    have empty : store.state.cascadeFail failedUid (store.selectionExcludedUids config) = [] := nothing
    simp only [same, empty]
    simp [Fresh.without]
  · obtain ⟨answered, queue, disk, failed, diskFailed⟩ := cascadeFail_accepted accepted nothing
    exact ⟨answered, queued, queue, failed, Or.inr ⟨disk, diskFailed⟩⟩

end Theory

section Sample

local instance : Python := samplePython

/-- A queued job goes down with its dependency. -/
theorem cascadeFail_child :
    ((loaded [childRow]).answers.headD {}).accepted = true ∧
      let outcome := (loaded [childRow]).cascadeFail sampleConfig "t::a"
      outcome.2 = .ok ["t::b"] ∧ outcome.1.state.queue = [] ∧ outcome.1.state.failed.contains "t::b" = true := by
  obtain ⟨answered, -, queue, failed, -⟩ := (cascadeFail_spec sampleConfig).2 (loaded [childRow]) "t::a" rfl
  have uids : (loaded [childRow]).state.cascadeFail "t::a"
      ((loaded [childRow]).selectionExcludedUids sampleConfig) = ["t::b"] := by decide +kernel
  rw [uids] at answered queue failed
  refine ⟨rfl, answered, queue.trans (by decide +kernel), (failed "t::b").mpr (Or.inr (by simp))⟩

end Sample

end Tasklite.Engine.Cascade
