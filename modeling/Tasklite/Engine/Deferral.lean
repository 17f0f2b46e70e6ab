import Tasklite.Engine.Custody
import Tasklite.Engine.Governor
import Tasklite.Engine.Scanning

/-! What the standstill of a selection says about the queue: which jobs are held up by
a postponed one, which are left stuck, and what the ruling that only the selection
holds the queue up means to the scan. -/

namespace Tasklite.Engine.Deferral
open Tasklite.Library Tasklite.Models Tasklite.Models.Identity Tasklite.Models.Coherence Tasklite.Backend
  Tasklite.Engine.Custody Tasklite.Engine.Lifecycle Tasklite.Engine.Scanning Selection JobScheduler

section Theory

variable [Python] {selection : Selection} {state : PipelineState} {uid : String}

section Facts

theorem mem_queuedJobs {job : Job} :
    job ∈ state.queuedJobs ↔ ∃ row ∈ state.queue, Job.fromDict row = .ok job := by
  simp only [PipelineState.queuedJobs, List.mem_filterMap]
  refine exists_congr fun row => and_congr_right fun _ => ?_
  cases Job.fromDict row <;> simp [Except.toOption]

theorem queued_of_job {job : Job} (member : job ∈ state.queuedJobs) :
    job.uid ∈ PipelineState.uidsOf state.queue := by
  obtain ⟨row, queued, parsed⟩ := mem_queuedJobs.mp member
  exact Fresh.mem_keys.mpr ⟨row, queued, uid_of_fromDict parsed⟩

/-- The facts about a uid are those of a queued job. -/
theorem job_of_facts {value : String × List String}
    (found : (factsOf state.queuedJobs).get? uid = some value) :
    ∃ job ∈ state.queuedJobs, job.uid = uid ∧ value = (job.taskType.val, job.dependsOn) := by
  obtain ⟨job, member, same⟩ := List.mem_map.mp (Dict.mem_of_get?_ofPairs found)
  obtain ⟨rfl, rfl⟩ := Prod.mk.inj same
  exact ⟨job, member, rfl, rfl⟩

theorem facts_of_job {job : Job} (member : job ∈ state.queuedJobs) :
    ∃ value, (factsOf state.queuedJobs).get? job.uid = some value := by
  apply Dict.mem_keys_iff.mp
  apply Dict.mem_keys_ofPairs.mpr
  rw [List.map_map]
  exact List.mem_map_of_mem member

/-- Where every row parses, the facts cover the whole queue. -/
theorem facts_of_queued (parses : state.queue.all (fun row => (Job.fromDict row).isOk) = true)
    (queued : uid ∈ PipelineState.uidsOf state.queue) :
    ∃ value, (factsOf state.queuedJobs).get? uid = some value := by
  obtain ⟨row, member, rfl⟩ := Fresh.mem_keys.mp queued
  have isOk := List.all_eq_true.mp parses row member
  cases parsed : Job.fromDict row with
  | error refusal => simp [parsed, Except.isOk, Except.toBool] at isOk
  | ok job =>
    rw [uid_of_fromDict parsed]
    exact facts_of_job (mem_queuedJobs.mpr ⟨row, member, parsed⟩)

variable {facts : QueueFacts}

omit [Python] in
theorem mem_deferredUids : uid ∈ selection.deferredUids facts ↔
    ∃ value, facts.get? uid = some value ∧ selection.allowsTaskType value.1 = false := by
  simp only [deferredUids, List.mem_map, List.mem_filter, Bool.not_eq_true']
  constructor
  · rintro ⟨⟨key, value⟩, ⟨member, barred⟩, rfl⟩
    exact ⟨value, Dict.mem_entries.mp member, barred⟩
  · rintro ⟨value, found, barred⟩
    exact ⟨(uid, value), ⟨Dict.mem_entries.mpr found, barred⟩, rfl⟩

theorem mem_allowedUids : uid ∈ selection.allowedUids facts ↔
    ∃ value, facts.get? uid = some value ∧ selection.allowsTaskType value.1 = true := by
  rw [allowedUids, (Python.setOrder_perm _).mem_iff, List.mem_map]
  constructor
  · rintro ⟨⟨key, value⟩, entry, rfl⟩
    obtain ⟨member, allowed⟩ := List.mem_filter.mp entry
    exact ⟨value, Dict.mem_entries.mp member, allowed⟩
  · rintro ⟨value, found, allowed⟩
    exact ⟨(uid, value), List.mem_filter.mpr ⟨Dict.mem_entries.mpr found, allowed⟩, rfl⟩

theorem allowedUids_nodup : (selection.allowedUids facts).Nodup := by
  rw [allowedUids, (Python.setOrder_perm _).nodup_iff]
  exact facts.distinct.sublist (List.filter_sublist.map Prod.fst)

omit [Python] in
theorem dependsOnOf_eq {value : String × List String} (found : facts.get? uid = some value) :
    dependsOnOf facts uid = value.2 := by
  simp [dependsOnOf, found]

end Facts

section HeldUp

variable {facts : QueueFacts}

/-- A job that depends on a postponed job, or on one held up, is held up. -/
theorem heldUp_of_dependency {dependency : String} (allowed : uid ∈ selection.allowedUids facts)
    (depends : dependency ∈ dependsOnOf facts uid)
    (held : dependency ∈ selection.deferredUids facts ∨
      dependency ∈ (selection.heldUp facts).map Prod.fst) :
    uid ∈ (selection.heldUp facts).map Prod.fst := by
  have root : dependency ∈ (selection.deferredUids facts).toFinset ∪
      Fresh.keys Prod.fst (selection.heldUp facts) := by
    rw [Finset.mem_union, List.mem_toFinset]
    exact held.imp_right List.mem_toFinset.mpr
  have closed := Graph.closed_of_roots
    (fun node child member => List.mem_toFinset.mpr (Graph.mem_dependentsOf.mp member).1)
    (fun node member => (Python.setOrder_perm _).mem_iff.mpr (List.mem_toFinset.mp member))
    (by
      rw [(Python.setOrder_perm _).length_eq]
      exact Nat.add_le_add_left (List.toFinset_card_le _) _)
    root (Graph.mem_dependentsOf.mpr ⟨allowed, depends⟩)
  rcases Finset.mem_union.mp closed with postponed | reached
  · obtain ⟨value, found, yes⟩ := mem_allowedUids.mp allowed
    obtain ⟨other, same, no⟩ := mem_deferredUids.mp (List.mem_toFinset.mp postponed)
    rw [found] at same
    rw [← Option.some.inj same, yes] at no
    cases no
  · exact List.mem_toFinset.mp reached

/-- A job that is held up may run, and depends on a postponed job or on one held up. -/
theorem dependency_of_heldUp (held : uid ∈ (selection.heldUp facts).map Prod.fst) :
    uid ∈ selection.allowedUids facts ∧ ∃ dependency ∈ dependsOnOf facts uid,
      dependency ∈ selection.deferredUids facts ∨ dependency ∈ (selection.heldUp facts).map Prod.fst := by
  have parents := Graph.parent_of_roots
    (fun node member => List.mem_toFinset.mpr ((Python.setOrder_perm _).mem_iff.mp member))
    (List.mem_toFinset.mpr held)
  obtain ⟨dependency, child, place⟩ := parents
  obtain ⟨allowed, depends⟩ := Graph.mem_dependentsOf.mp child
  refine ⟨allowed, dependency, depends, ?_⟩
  rw [Finset.mem_union, List.mem_toFinset] at place
  exact place.imp_right List.mem_toFinset.mp

end HeldUp

section Partition

omit [Python] in
theorem allows_of_inactive (inactive : selection.isActive = false) (taskType : String) :
    selection.allowsTaskType taskType = true := by
  have none : selection.rules = [] := by simpa [Selection.isActive] using inactive
  simp [Selection.allowsTaskType, Selection.isSkipped, Selection.isExcluded, none]

/-- A standstill of a queue that is not empty is computed from the facts about its rows. -/
theorem partition_some {standstill : SelectionStandstill} (some : state.queue ≠ [])
    (partitioned : selection.partitionStandstill state = .some standstill) :
    selection.isActive = true ∧ state.queue.all (fun row => (Job.fromDict row).isOk) = true ∧
      standstill = selection.standstillOf state (factsOf state.queuedJobs) := by
  unfold partitionStandstill at partitioned
  split at partitioned
  · cases partitioned
  · rename_i active
    rw [if_neg (by simpa using some)] at partitioned
    split at partitioned
    · rename_i parses
      exact ⟨by simpa using active, parses, (Option.some.inj partitioned).symm⟩
    · cases partitioned

/-- When only the selection holds the queue up, every job that may run is held up. -/
theorem heldUp_of_onlyBlocked {facts : QueueFacts}
    (only : (selection.standstillOf state facts).onlyBlockedByExclusion = true)
    (allowed : uid ∈ selection.allowedUids facts) : uid ∈ (selection.heldUp facts).map Prod.fst := by
  simp only [SelectionStandstill.onlyBlockedByExclusion, standstillOf, Bool.and_eq_true,
    List.isEmpty_iff, sortTexts_eq_nil, List.filter_eq_nil_iff, decide_eq_true_eq, not_not] at only
  have reduced : uid ∈ selection.reducedUids facts state := by
    by_contra left
    have stuck : uid ∈ selection.stuckUidsOf facts state := by
      simp [stuckUidsOf, allowed, left]
    rw [only.1] at stuck
    cases stuck
  obtain ⟨entry, member, rfl⟩ := List.mem_map.mp (only.2 uid reduced)
  exact List.mem_map_of_mem (List.mem_filter.mp member).1

end Partition

section Soundness

/-- A queued job that may run and whose dependencies the scan takes for satisfied: all that can keep it
from running is a resource. -/
def Cleared (scheduler : JobScheduler) (state : PipelineState) (row : Record) : Prop :=
  ∃ facts, JobFacts.fromJobSnapshot row = .ok facts ∧
    scheduler.selection.allowsTaskType facts.taskType = true ∧
    scheduler.barrierOf state state.inFlightUids facts = {}

/-- None of a row's dependencies is queued under a type that the selection postpones, and no other queued
row has its uid. -/
def Unshadowed (scheduler : JobScheduler) (state : PipelineState) (row : Record) : Prop :=
  (∀ facts, JobFacts.fromJobSnapshot row = .ok facts →
    ∀ dependency ∈ facts.dependsOn, dependency ∉ scheduler.excludedUids state) ∧
  ∀ other ∈ state.queue, jobUidFromSnapshot other = jobUidFromSnapshot row → other = row

variable {scheduler : JobScheduler}

/-- A postponed job is among those that the scan passes over. -/
theorem excluded_of_deferred (active : scheduler.selection.isActive = true)
    (deferred : uid ∈ scheduler.selection.deferredUids (factsOf state.queuedJobs)) :
    uid ∈ scheduler.excludedUids state := by
  obtain ⟨value, found, barred⟩ := mem_deferredUids.mp deferred
  obtain ⟨job, member, rfl, rfl⟩ := job_of_facts found
  obtain ⟨row, queued, parsed⟩ := mem_queuedJobs.mp member
  unfold excludedUids
  rw [if_pos active, ← uid_of_fromDict parsed]
  apply Fresh.key_mem_keys
  rw [List.mem_filter]
  refine ⟨queued, ?_⟩
  rw [(fromDict_ok parsed).1]
  simp [job.taskType.property.1, barred]

/-- If only the selection holds the queue up, a job whose dependencies are satisfied is held up by a
postponed job that it depends on directly. -/
theorem shadowed_of_onlyBlocked (indexed : state.queueUids = PipelineState.uidsOf state.queue)
    {standstill : SelectionStandstill}
    (partitioned : scheduler.selection.partitionStandstill state = some standstill)
    (only : standstill.onlyBlockedByExclusion = true) {row : Record} (queued : row ∈ state.queue)
    (cleared : Cleared scheduler state row) : ¬ Unshadowed scheduler state row := by
  rintro ⟨uncovered, own⟩
  obtain ⟨facts, parsed, allowed, clear⟩ := cleared
  obtain ⟨job, built, rfl⟩ := JobFacts.fromJobSnapshot_eq parsed
  obtain ⟨active, parses, rfl⟩ := partition_some (List.ne_nil_of_mem queued) partitioned
  have member := mem_queuedJobs.mpr ⟨row, queued, built⟩
  obtain ⟨value, found⟩ := facts_of_job member
  have mine : value = (job.taskType.val, job.dependsOn) := by
    obtain ⟨other, present, same, rfl⟩ := job_of_facts found
    obtain ⟨otherRow, otherQueued, otherBuilt⟩ := mem_queuedJobs.mp present
    have equal := own otherRow otherQueued (by
      rw [uid_of_fromDict otherBuilt, uid_of_fromDict built, same])
    rw [equal, built] at otherBuilt
    rw [Except.ok.inj otherBuilt]
  rw [mine] at found
  have held := heldUp_of_onlyBlocked only (mem_allowedUids.mpr ⟨_, found, allowed⟩)
  obtain ⟨_, dependency, depends, cause⟩ := dependency_of_heldUp held
  rw [dependsOnOf_eq found] at depends
  have inQueue : dependency ∉ scheduler.excludedUids state := uncovered _ parsed dependency depends
  rcases cause with deferred | heldToo
  · exact inQueue (excluded_of_deferred active deferred)
  · obtain ⟨entry, known, _⟩ := mem_allowedUids.mp (dependency_of_heldUp heldToo).1
    obtain ⟨other, present, same, _⟩ := job_of_facts known
    have waits : dependency ∈ (state.queueUids ∪ state.inFlightUids) \ scheduler.excludedUids state := by
      rw [Finset.mem_sdiff, Finset.mem_union, indexed, ← same]
      exact ⟨.inl (queued_of_job present), same ▸ inQueue⟩
    unfold barrierOf at clear
    have unfailed := (barrier_of_unfailed (congrArg Barrier.failed clear)).2.2
    have quiet := congrArg Barrier.waiting clear
    have noted := unfailed.mpr (.inr ⟨dependency, depends, if_pos waits⟩)
    rw [noted] at quiet
    cases quiet

end Soundness

section Arbitration

variable {config : StoreConfig} {store : StateStore} {scheduler : JobScheduler}

theorem replaceQueue_self (coherent : Coherent state) : state.replaceQueue state.queue = state := by
  have awake : state.triggerSkippedUids \ PipelineState.uidsOf state.queue = state.triggerSkippedUids := by
    rw [← coherent.queueUids]
    exact Finset.sdiff_eq_self_of_disjoint coherent.skippedQueue
  unfold PipelineState.replaceQueue
  rw [require_of_holds (uidsConsistent_iff.mpr rfl), awake, ← coherent.queueUids]

/-- A batch that archives nothing leaves the memory as it was. -/
theorem unarchived_state (coherent : Coherent store.state) {metas : List (String × Record)}
    {archived : StateStore} (nothing : store.applyBulkFailure config metas = (archived, .ok [])) :
    archived.state = store.state := by
  unfold StateStore.applyBulkFailure at nothing
  dsimp only at nothing
  split at nothing
  · rw [← (Prod.mk.inj nothing).1]
  · set allowed := metas.filter fun entry => entry.1 ∉ store.selectionExcludedUids config
    have empty : allowed = [] := by
      unfold StateStore.settleBatch at nothing
      dsimp only at nothing
      split at nothing
      · simpa using (Prod.mk.inj nothing).2
      · split at nothing
        · simp at nothing
        · simpa using (Prod.mk.inj nothing).2
    rw [empty] at nothing
    obtain ⟨asked, heard, refused | ⟨-, committed⟩⟩ := commit_cases store (.failed [])
      fun backend => backend.commitJobFailures []
    · simp only [StateStore.settleBatch, List.map_nil, refused, StateStore.handleBulkFailureStrike,
        Bool.false_eq_true, if_false, Prod.mk.injEq, and_true] at nothing
      rw [← nothing]
      show asked.state.replaceQueue asked.state.queue = store.state
      rw [heard.state, replaceQueue_self coherent]
    · simp only [StateStore.settleBatch, List.map_nil, committed, StateStore.markEach, Prod.mk.injEq,
        and_true] at nothing
      rw [← nothing]
      show asked.state.replaceQueue (Fresh.without jobUidFromSnapshot ∅ asked.state.queue) = store.state
      have all : Fresh.without jobUidFromSnapshot ∅ asked.state.queue = asked.state.queue := by
        simp [Fresh.without]
      rw [all, heard.state, replaceQueue_self coherent]

theorem onlyBlocked_of_archive {governor ruled : DeadlockGovernor} {after : StateStore}
    {decision : DeadlockGovernor.DeadlockDecision} {metas : List (String × Record)}
    (coherent : Coherent store.state)
    (archived : governor.archive config store metas = (ruled, after, .ok decision))
    (blocked : decision.action = .selectionBlocked) :
    ∃ standstill, config.selection.partitionStandstill store.state = some standstill ∧
      standstill.onlyBlockedByExclusion = true := by
  unfold DeadlockGovernor.archive at archived
  split at archived
  · simp at archived
  · rename_i archivedStore failed batch
    dsimp only at archived
    split at archived
    · rename_i unarchived
      have empty : failed = [] := by simpa using (Bool.and_eq_true_iff.mp unarchived).1
      rw [empty] at batch
      unfold DeadlockGovernor.convergeUnarchived at archived
      rw [unarchived_state coherent batch] at archived
      split at archived
      · cases archived
        cases blocked
      · rename_i standstill partitioned
        split at archived
        · rename_i only
          exact ⟨standstill, partitioned, only⟩
        · split at archived
          · cases archived
            cases blocked
          · split at archived
            · simp at archived
            · split at archived <;> · cases archived; cases blocked
    · cases archived
      cases blocked

theorem onlyBlocked_of_rule {facts : StandstillFacts} {standstill : SelectionStandstill}
    (ruling : DeadlockGovernor.rule selection state facts = .selectionBlocked standstill) :
    selection.partitionStandstill state = some standstill ∧ standstill.onlyBlockedByExclusion = true := by
  unfold DeadlockGovernor.rule at ruling
  dsimp only at ruling
  split at ruling
  · rename_i found filtered
    obtain ⟨partitioned, reasons⟩ := Option.filter_eq_some_iff.mp filtered
    rw [← DeadlockGovernor.Ruling.selectionBlocked.inj ruling]
    exact ⟨partitioned, (Bool.and_eq_true_iff.mp reasons).2⟩
  · split at ruling
    · unfold DeadlockGovernor.classify at ruling
      dsimp only at ruling
      split_ifs at ruling
    · cases ruling

/-- Arbitration finds the selection at fault only if it is all that holds the queue up. -/
theorem onlyBlocked_of_arbitrate {governor ruled : DeadlockGovernor} {after : StateStore}
    {facts : StandstillFacts} {now : ℚ} {decision : DeadlockGovernor.DeadlockDecision}
    (coherent : Coherent store.state)
    (arbitrated : governor.arbitrate config (some facts) store now = (ruled, after, .ok decision))
    (blocked : decision.action = .selectionBlocked) :
    ∃ standstill, config.selection.partitionStandstill store.state = some standstill ∧
      standstill.onlyBlockedByExclusion = true := by
  simp only [DeadlockGovernor.arbitrate] at arbitrated
  cases ruling : DeadlockGovernor.rule config.selection store.state facts with
  | quiet =>
    simp only [ruling, DeadlockGovernor.resolveDeadlock] at arbitrated
    cases arbitrated
    cases blocked
  | selectionBlocked standstill => exact ⟨standstill, onlyBlocked_of_rule ruling⟩
  | culprits uids error =>
    simp only [ruling, DeadlockGovernor.resolveDeadlock] at arbitrated
    exact onlyBlocked_of_archive coherent arbitrated blocked
  | missing uids =>
    simp only [ruling, DeadlockGovernor.resolveDeadlock] at arbitrated
    split at arbitrated
    · cases arbitrated
      cases blocked
    · exact onlyBlocked_of_archive coherent arbitrated blocked
  | gap logPrefix =>
    simp only [ruling, DeadlockGovernor.resolveDeadlock] at arbitrated
    split at arbitrated
    · cases arbitrated
      cases blocked
    · exact onlyBlocked_of_archive coherent arbitrated blocked

/-- When arbitration ends the run because of the selection, no job is merely waiting for a resource exactly
if every job whose dependencies are satisfied is unshadowed: it depends on no postponed row that is still
queued, and no other row has its uid. -/
theorem blocked_sound_iff {governor ruled : DeadlockGovernor} {after : StateStore} {clock : ℕ → ℚ} {now : ℚ}
    {decision : DeadlockGovernor.DeadlockDecision} (coherent : Coherent store.state)
    (shared : scheduler.selection = config.selection)
    (arbitrated : governor.arbitrate config
      (some (scheduler.scanNextRunnable store.state store.state.inFlightUids clock).2.facts) store now =
        (ruled, after, .ok decision))
    (blocked : decision.action = .selectionBlocked) :
    (∀ row ∈ store.state.queue, ¬ Cleared scheduler store.state row) ↔
      ∀ row ∈ store.state.queue, Cleared scheduler store.state row → Unshadowed scheduler store.state row := by
  obtain ⟨standstill, partitioned, only⟩ := onlyBlocked_of_arbitrate coherent arbitrated blocked
  rw [← shared] at partitioned
  constructor
  · intro none row queued cleared
    exact absurd cleared (none row queued)
  · intro unshadowed row queued cleared
    exact shadowed_of_onlyBlocked coherent.queueUids partitioned only queued cleared
      (unshadowed row queued cleared)

end Arbitration

end Theory

section Sample

local instance : Python := samplePython

def postponedRow : Record := Dict.ofPairs [("task_type", .str "e"), ("job_id", .str "1")]

/-- A job that depends on the postponed one and on a rate limit. -/
def limitedRow : Record := Dict.ofPairs
  [("task_type", .str "t"), ("job_id", .str "a"), ("depends_on", .arr [.str "e::1"]),
    ("resources", .obj [("api", .int 1)])]

/-- A queue of both jobs, with what is known of earlier successes. -/
def postponedStore (successes : Dict String Record) : StateStore where
  backend := { Memory.empty with queue := [postponedRow, limitedRow] }
  state := PipelineState.init successes Dict.empty Dict.empty [postponedRow, limitedRow]
  stats := fun _ => 0
  now := sampleNow
  answers := []
  hookRaises := []
  events := []
  finished := []

def postponing : StoreConfig := { sampleConfig with selection := ⟨[.exclude "e"]⟩ }

/-- The rate limit is free again in ten seconds. -/
def limitedScheduler : JobScheduler where
  resources := ⟨Dict.ofPairs [("api", .rateLimit ⟨1, 10, one_pos⟩)], Dict.empty, []⟩
  orderingPolicy := fifoOrderingPolicy
  selection := postponing.selection
  jobCache := Dict.empty

def arbitrated (successes : Dict String Record) :
    DeadlockGovernor × StateStore × Except Signal DeadlockGovernor.DeadlockDecision :=
  ({} : DeadlockGovernor).arbitrate postponing
    (some (limitedScheduler.scanNextRunnable (postponedStore successes).state
      (postponedStore successes).state.inFlightUids fun _ => 0).2.facts) (postponedStore successes) 0

theorem coherent_postponed (successes : Dict String Record) : Coherent (postponedStore successes).state :=
  coherent_init Dict.empty _ (by simp [Dict.keys, Dict.empty])

/-- Without an earlier success of the postponed job nothing is merely waiting for the rate limit. -/
theorem blocked_sound_unsucceeded :
    ∃ ruled after decision, arbitrated Dict.empty = (ruled, after, .ok decision) ∧
      decision.action = .selectionBlocked ∧
      ((∀ row ∈ (postponedStore Dict.empty).state.queue,
          ¬ Cleared limitedScheduler (postponedStore Dict.empty).state row) ↔
        ∀ row ∈ (postponedStore Dict.empty).state.queue,
          Cleared limitedScheduler (postponedStore Dict.empty).state row →
            Unshadowed limitedScheduler (postponedStore Dict.empty).state row) := by
  have answer : (arbitrated Dict.empty).2.2.toOption.map (fun decision => decision.action) =
      some .selectionBlocked := by decide +kernel
  rcases outcome : arbitrated Dict.empty with ⟨ruled, after, answered⟩
  rw [outcome] at answer
  cases answered with
  | error signal => simp [Except.toOption] at answer
  | ok decision =>
    have blocked : decision.action = .selectionBlocked := by simpa [Except.toOption] using answer
    refine ⟨ruled, after, decision, rfl, blocked, ?_⟩
    exact blocked_sound_iff (coherent_postponed Dict.empty) rfl outcome blocked

/-- The job that is postponed has succeeded in an earlier run, so that its dependent only waits for the rate
limit; still the run is ended. -/
theorem limited_job_abandoned :
    let successes : Dict String Record := Dict.ofPairs [("e::1", Dict.empty)]
    Coherent (postponedStore successes).state ∧ (postponedStore successes).state.inFlightUids = ∅ ∧
      (limitedScheduler.scanNextRunnable (postponedStore successes).state ∅ fun _ => 0).2.facts.minWait =
        (10 : ℚ) ∧
      (arbitrated successes).2.2.toOption.map
        (fun decision => (decision.action, decision.shouldTerminate)) = some (.selectionBlocked, true) ∧
      limitedRow ∈ (postponedStore successes).state.queue ∧
      Cleared limitedScheduler (postponedStore successes).state limitedRow := by
  refine ⟨coherent_postponed _, rfl, by decide +kernel, by decide +kernel, by decide +kernel, ?_⟩
  have read : JobFacts.fromJobSnapshot limitedRow =
      .ok ⟨"t::a", "t", [("api", .int 1)], ["e::1"]⟩ := by decide +kernel
  exact ⟨_, read, by decide +kernel, by decide +kernel⟩

end Sample

end Tasklite.Engine.Deferral
