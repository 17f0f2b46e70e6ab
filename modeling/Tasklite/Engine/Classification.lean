import Tasklite.Engine.Deferral

/-! Completeness of the classification of a standstill. If no job is blamed and none
waits for a resource, every job that may run waits for another one in the queue; then
either the selection explains it, or there is a cycle. -/

namespace Tasklite.Engine.Classification
open Tasklite.Library Tasklite.Models Tasklite.Models.Identity Tasklite.Models.Coherence
  Tasklite.Engine.Lifecycle Tasklite.Engine.Scanning Tasklite.Engine.Deferral Selection JobScheduler

section Theory

variable [Python] {scheduler : JobScheduler} {state : PipelineState} {clock : ℕ → ℚ}

section Rows

/-- No job that may run depends on a failed job whose uid is empty. -/
def Heard (selection : Selection) (state : PipelineState) : Prop :=
  ∀ job ∈ state.queuedJobs, selection.allowsTaskType job.taskType.val = true → "" ∈ job.dependsOn →
    state.failed.contains "" = true → "" ∈ state.triggerSkippedUids

/-- A queued job that waits for another one: each of its dependencies is in the queue or has been met, and
one of them is in the queue. -/
structure Waits (state : PipelineState) (job : Job) : Prop where
  known : ∀ dependency ∈ job.dependsOn, dependency ∈ state.queueUids ∨
    dependency ∈ state.triggerSkippedUids ∨ state.successes.contains dependency = true
  queued : ∃ dependency ∈ job.dependsOn, dependency ∈ state.queueUids

theorem waits_of_barrier {job : Job} (idle : state.inFlightUids = ∅)
    (unfailed : (scheduler.barrierOf state state.inFlightUids (JobFacts.ofJob job)).failed = none)
    (present : (scheduler.barrierOf state state.inFlightUids (JobFacts.ofJob job)).missing = false)
    (waiting : (scheduler.barrierOf state state.inFlightUids (JobFacts.ofJob job)).waiting = true) :
    Waits state job := by
  unfold barrierOf at unfailed present waiting
  rw [idle, Finset.union_empty] at unfailed present waiting
  have inQueue : ∀ dependency, standing state (state.queueUids \ scheduler.excludedUids state)
      state.queueUids dependency = .waiting → dependency ∈ state.queueUids := by
    intro dependency waits
    rcases standing_waiting waits with active | pending
    · exact (Finset.mem_sdiff.mp active).1
    · exact pending
  obtain ⟨noFailure, missing, waits⟩ := barrier_of_unfailed unfailed
  constructor
  · intro dependency depends
    cases stands : standing state (state.queueUids \ scheduler.excludedUids state) state.queueUids dependency with
    | waiting => exact .inl (inQueue dependency stands)
    | met => exact .inr (standing_met stands).2
    | failed => exact absurd stands (noFailure dependency depends)
    | missing =>
      rw [missing.mpr (.inr ⟨dependency, depends, stands⟩)] at present
      cases present
  · rcases waits.mp waiting with early | ⟨dependency, depends, stands⟩
    · cases early
    · exact ⟨dependency, depends, inQueue dependency stands⟩

/-- What a row that is neither a candidate nor blamed comes to. -/
inductive Plain (scheduler : JobScheduler) (state : PipelineState) (row : Record) (verdict : Verdict) : Prop where
  | postponed (job : Job) (parsed : Job.fromDict row = .ok job) (judged : verdict = .unselected)
      (barred : scheduler.selection.allowsTaskType job.taskType.val = false)
  | delayed (wait : WithTop ℚ) (judged : verdict = .delayed wait) (positive : 0 < wait) (finite : wait ≠ ⊤)
  | waiting (job : Job) (parsed : Job.fromDict row = .ok job) (judged : verdict = .waiting)
      (waits : Waits state job)

theorem plain_evaluated {row : Record} {facts : JobFacts} {now : ℚ} {verdict : Verdict}
    (judged : scheduler.evaluated now facts true = verdict) (unable : verdict ≠ .runnable)
    (blameless : ∀ cause, blamed cause verdict = []) : Plain scheduler state row verdict := by
  simp only [evaluated] at judged
  split at judged
  · have blame := blameless .unknown
    simp [← judged, blamed] at blame
  · rename_i known
    split at judged
    · have blame := blameless .impossible
      simp [← judged, blamed] at blame
    · rename_i possible
      split at judged
      · rename_i refused
        obtain ⟨positive, finite⟩ := evaluate_delayed (by simpa using known) (by simpa using possible)
          (by simpa using refused)
        exact .delayed _ judged.symm positive finite
      · rw [if_pos trivial] at judged
        exact absurd judged.symm unable

theorem plain_of_judge (idle : state.inFlightUids = ∅) (heard : Heard scheduler.selection state)
    {row : Record} (queued : row ∈ state.queue) {now : ℚ} {verdict : Verdict}
    (judged : scheduler.judge state state.inFlightUids now row (JobFacts.fromJobSnapshot row) = verdict)
    (unable : verdict ≠ .runnable) (unfailed : ∀ uid, verdict ≠ .dependencyFailed uid)
    (blameless : ∀ cause, blamed cause verdict = []) : Plain scheduler state row verdict := by
  cases built : Job.fromDict row with
  | error refusal =>
    have blame := blameless .malformed
    simp [← judged, JobFacts.fromJobSnapshot, built, Except.map, judge, blamed] at blame
  | ok job =>
    have parsed : JobFacts.fromJobSnapshot row = .ok (JobFacts.ofJob job) := by
      simp [JobFacts.fromJobSnapshot, built, Except.map]
    rw [parsed] at judged
    by_cases allowed : scheduler.selection.allowsTaskType job.taskType.val = true
    · have selected : (scheduler.selection.isActive &&
          !scheduler.selection.allowsTaskType (JobFacts.ofJob job).taskType) = false := by
        simp [JobFacts.ofJob, allowed]
      simp only [judge, selected, Bool.false_eq_true, if_false] at judged
      rcases found : scheduler.barrierOf state state.inFlightUids (JobFacts.ofJob job) with
        ⟨failed, missing, waiting⟩
      have failure := congrArg Barrier.failed found
      have absence := congrArg Barrier.missing found
      have wait := congrArg Barrier.waiting found
      rw [found] at judged
      cases failed with
      | some dependency =>
        unfold barrierOf at failure
        rcases barrier_failed failure with early | ⟨depends, stands⟩
        · cases early
        · by_cases named : dependency = ""
          · subst named
            obtain ⟨archived, awake⟩ := standing_failed stands
            exact absurd (heard job (mem_queuedJobs.mpr ⟨row, queued, built⟩) allowed depends archived) awake
          · simp only [ne_eq, named, not_false_eq_true, if_true] at judged
            exact absurd judged.symm (unfailed dependency)
      | none =>
        cases missing with
        | true =>
          have blame := blameless .missing
          simp [← judged, blamed] at blame
        | false =>
          cases waiting with
          | true => exact .waiting job built judged.symm (waits_of_barrier idle failure absence wait)
          | false => exact plain_evaluated judged unable blameless
    · have active : scheduler.selection.isActive = true := by
        by_contra inactive
        exact allowed (allows_of_inactive (by simpa using inactive) _)
      have passed : (scheduler.selection.isActive &&
          !scheduler.selection.allowsTaskType (JobFacts.ofJob job).taskType) = true := by
        simpa [JobFacts.ofJob, active] using allowed
      simp only [judge, passed, if_true] at judged
      exact .postponed job built judged.symm (by simpa using allowed)

end Rows

section Cycles

/-- If every job of a non-empty part of the queue depends on a job of that part, a cycle is found. -/
theorem cycles_ne_nil {nodeUids : Option (Finset String)}
    (serial : ∀ job ∈ state.queuedJobs, (∀ uids ∈ nodeUids, job.uid ∈ uids) →
      ∃ dependency ∈ job.dependsOn, ∃ other ∈ state.queuedJobs,
        (∀ uids ∈ nodeUids, other.uid ∈ uids) ∧ other.uid = dependency)
    (some : ∃ job ∈ state.queuedJobs, ∀ uids ∈ nodeUids, job.uid ∈ uids) :
    state.findDependencyCycles nodeUids ≠ [] := by
  have nodes : ∀ uid, uid ∈ (state.dependencyEdges nodeUids).keys ↔
      ∃ job ∈ state.queuedJobs, (∀ uids ∈ nodeUids, job.uid ∈ uids) ∧ job.uid = uid := by
    intro uid
    rw [PipelineState.dependencyEdges, Dict.mem_keys_ofPairs, List.map_map]
    simp [and_assoc]
  have edges : ∀ uid successors, (state.dependencyEdges nodeUids).get? uid = .some successors →
      ∃ job ∈ state.queuedJobs, (∀ uids ∈ nodeUids, job.uid ∈ uids) ∧
        ∀ dependency ∈ job.dependsOn, dependency ∈ successors := by
    intro uid successors found
    obtain ⟨job, member, same⟩ := List.mem_map.mp (Dict.mem_of_get?_ofPairs found)
    obtain ⟨queued, inside⟩ := List.mem_filter.mp member
    refine ⟨job, queued, by simpa using inside, fun dependency depends => ?_⟩
    rw [← (Prod.mk.inj same).2, (Python.setOrder_perm _).mem_iff]
    have kept : dependency ∈ Fresh.keys id (Fresh.fresh id ∅ job.dependsOn) := by
      rw [Fresh.keys_fresh, Finset.sdiff_empty]
      exact Fresh.mem_keys.mpr ⟨dependency, depends, rfl⟩
    simpa [Fresh.keys] using kept
  unfold PipelineState.findDependencyCycles
  apply Graph.findCycles_ne_nil
  · intro uid member
    obtain ⟨successors, found⟩ := Dict.mem_keys_iff.mp member
    obtain ⟨job, queued, inside, all⟩ := edges uid successors found
    obtain ⟨dependency, depends, other, present, among, same⟩ := serial job queued inside
    have neighbours : ((state.dependencyEdges nodeUids).get? uid).getD [] = successors := by
      show Option.getD (Dict.find uid _) [] = successors
      rw [found, Option.getD_some]
    rw [neighbours]
    exact ⟨dependency, all dependency depends, (nodes dependency).mpr ⟨other, present, among, same⟩⟩
  · obtain ⟨job, queued, inside⟩ := some
    exact List.ne_nil_of_mem ((nodes job.uid).mpr ⟨job, queued, inside, rfl⟩)

variable {selection : Selection}

/-- Every job that may run waits for another. -/
def AllWait (selection : Selection) (state : PipelineState) : Prop :=
  ∀ job ∈ state.queuedJobs, selection.allowsTaskType job.taskType.val = true → Waits state job

variable (waiting : AllWait selection state) (coherent : Coherent state)

/-- The job that the facts about a uid are taken from. -/
theorem waits_of_allowed (waiting : AllWait selection state) {uid : String}
    (allowed : uid ∈ selection.allowedUids (factsOf state.queuedJobs)) :
    ∃ job ∈ state.queuedJobs, job.uid = uid ∧ Waits state job ∧
      dependsOnOf (factsOf state.queuedJobs) uid = job.dependsOn := by
  obtain ⟨value, found, allows⟩ := mem_allowedUids.mp allowed
  obtain ⟨job, member, same, rfl⟩ := job_of_facts found
  exact ⟨job, member, same, waiting job member allows, dependsOnOf_eq found⟩

/-- Without duplicates a uid determines the queued job. -/
theorem job_eq_of_uid (tidy : Tidy state) {job other : Job} (member : job ∈ state.queuedJobs)
    (present : other ∈ state.queuedJobs) (same : job.uid = other.uid) : job = other := by
  obtain ⟨row, queued, parsed⟩ := mem_queuedJobs.mp member
  obtain ⟨otherRow, otherQueued, otherParsed⟩ := mem_queuedJobs.mp present
  have rows := List.inj_on_of_nodup_map tidy queued otherQueued
    (by rw [uid_of_fromDict parsed, uid_of_fromDict otherParsed, same])
  rw [rows, otherParsed] at parsed
  exact (Except.ok.inj parsed).symm

include coherent in
/-- A queued uid is postponed or may run. -/
theorem deferred_or_allowed (parses : state.queue.all (fun row => (Job.fromDict row).isOk) = true)
    {uid : String} (queued : uid ∈ state.queueUids) :
    uid ∈ selection.deferredUids (factsOf state.queuedJobs) ∨
      uid ∈ selection.allowedUids (factsOf state.queuedJobs) := by
  rw [coherent.queueUids] at queued
  obtain ⟨value, found⟩ := facts_of_queued parses queued
  cases allows : selection.allowsTaskType value.1 with
  | true => exact .inr (mem_allowedUids.mpr ⟨value, found, allows⟩)
  | false => exact .inl (mem_deferredUids.mpr ⟨value, found, allows⟩)

include waiting coherent in
/-- A job that the reduction leaves depends on another that it leaves. -/
theorem stuck_dependency (idle : state.inFlightUids = ∅)
    (parses : state.queue.all (fun row => (Job.fromDict row).isOk) = true) {uid : String}
    (stuck : uid ∈ selection.stuckUidsOf (factsOf state.queuedJobs) state) :
    ∃ dependency ∈ dependsOnOf (factsOf state.queuedJobs) uid,
      dependency ∈ selection.stuckUidsOf (factsOf state.queuedJobs) state := by
  have stuckIff : ∀ other, other ∈ selection.stuckUidsOf (factsOf state.queuedJobs) state ↔
      other ∈ selection.allowedUids (factsOf state.queuedJobs) ∧
        other ∉ selection.reducedUids (factsOf state.queuedJobs) state := by
    intro other
    simp [stuckUidsOf]
  obtain ⟨allowed, left⟩ := (stuckIff uid).mp stuck
  obtain ⟨dependency, need, remains⟩ := Graph.need_of_left allowedUids_nodup allowed left
  obtain ⟨depends, unmet⟩ := List.mem_filter.mp need
  simp only [decide_eq_true_eq] at unmet
  obtain ⟨job, -, -, waits, deps⟩ := waits_of_allowed waiting allowed
  have queued : dependency ∈ state.queueUids := by
    rcases waits.known dependency (deps ▸ depends) with inQueue | settled
    · exact inQueue
    · by_contra gone
      refine unmet.2 ?_
      simp only [PipelineState.dependencyReady, decide_eq_true_eq]
      refine ⟨gone, by simp [idle], ?_⟩
      rcases settled with skipped | succeeded
      · exact .inr skipped
      · refine .inl ?_
        rw [coherent.successUids, List.mem_toFinset]
        exact Dict.contains_iff.mp succeeded
  refine ⟨dependency, depends, (stuckIff dependency).mpr ⟨?_, remains⟩⟩
  rcases @deferred_or_allowed _ _ selection coherent parses _ queued with deferred | may
  · exact absurd deferred unmet.1
  · exact may

include waiting in
/-- A job that the reduction removes is held up. -/
theorem heldUp_of_reduced : ∀ uid ∈ selection.reducedUids (factsOf state.queuedJobs) state,
    uid ∈ (selection.heldUp (factsOf state.queuedJobs)).map Prod.fst := by
  refine @Graph.reduceAll_induction _ _ _ _ allowedUids_nodup
    (fun uid => uid ∈ (selection.heldUp (factsOf state.queuedJobs)).map Prod.fst) ?_
  intro uid allowed others
  obtain ⟨job, -, -, waits, deps⟩ := waits_of_allowed waiting allowed
  obtain ⟨dependency, depends, queued⟩ := waits.queued
  rw [← deps] at depends
  apply heldUp_of_dependency allowed depends
  by_cases deferred : dependency ∈ selection.deferredUids (factsOf state.queuedJobs)
  · exact .inl deferred
  · refine .inr (others dependency (List.mem_filter.mpr ⟨depends, ?_⟩))
    simp [deferred, PipelineState.dependencyReady, queued]

include waiting coherent in
/-- Where every job that may run waits, a standstill that the selection does not explain has a cycle. -/
theorem cycle_of_standstill (tidy : Tidy state) (idle : state.inFlightUids = ∅) (some : state.queue ≠ [])
    {standstill : SelectionStandstill} (partitioned : selection.partitionStandstill state = .some standstill)
    (unexplained : standstill.onlyBlockedByExclusion = false) :
    standstill.cycleUids ≠ [] ∧ ∃ job ∈ state.queuedJobs,
      selection.allowsTaskType job.taskType.val = true := by
  obtain ⟨-, parses, rfl⟩ := partition_some some partitioned
  set facts := factsOf state.queuedJobs with factsDef
  have remains : selection.stuckUidsOf facts state ≠ [] := by
    intro none
    have unblocked : (selection.reducedUids facts state).filter (fun uid => uid ∉
        ((selection.heldUp facts).filter fun entry => entry.1 ∈ selection.reducedUids facts state).map
          Prod.fst) = [] := by
      rw [List.filter_eq_nil_iff]
      intro uid reduced
      obtain ⟨entry, member, same⟩ := List.mem_map.mp (heldUp_of_reduced waiting uid reduced)
      simp only [decide_eq_true_eq, not_not]
      exact List.mem_map.mpr ⟨entry, List.mem_filter.mpr ⟨member, by simpa [same] using reduced⟩, same⟩
    have explained : (selection.standstillOf state facts).onlyBlockedByExclusion = true := by
      simp only [SelectionStandstill.onlyBlockedByExclusion, standstillOf, none, unblocked]
      rfl
    rw [explained] at unexplained
    cases unexplained
  have jobOf : ∀ uid ∈ selection.stuckUidsOf facts state, ∃ job ∈ state.queuedJobs, job.uid = uid ∧
      selection.allowsTaskType job.taskType.val = true := by
    intro uid stuck
    obtain ⟨value, found, allows⟩ := mem_allowedUids.mp (List.mem_filter.mp stuck).1
    obtain ⟨job, member, same, rfl⟩ := job_of_facts found
    exact ⟨job, member, same, allows⟩
  obtain ⟨uid, stuck⟩ := List.exists_mem_of_ne_nil _ remains
  obtain ⟨first, queued, firstUid, allows⟩ := jobOf uid stuck
  refine ⟨?_, first, queued, allows⟩
  have cycles : (selection.standstillOf state facts).cycleUids =
      state.findDependencyCycles (.some (selection.stuckUidsOf facts state).toFinset) := by
    simp only [standstillOf]
    rw [if_neg (by simpa using remains)]
  rw [cycles]
  apply cycles_ne_nil
  · intro job member inside
    have stuckJob : job.uid ∈ selection.stuckUidsOf facts state := by simpa using inside
    obtain ⟨dependency, depends, stuckToo⟩ := stuck_dependency waiting coherent idle parses stuckJob
    obtain ⟨value, found, -⟩ := mem_allowedUids.mp (List.mem_filter.mp stuckJob).1
    obtain ⟨same, known, sameUid, rfl⟩ := job_of_facts found
    rw [dependsOnOf_eq found, job_eq_of_uid tidy known member sameUid] at depends
    obtain ⟨other, present, otherUid, -⟩ := jobOf dependency stuckToo
    exact ⟨dependency, depends, other, present, by simpa [otherUid] using stuckToo, otherUid⟩
  · exact ⟨first, queued, by simpa [firstUid] using stuck⟩

end Cycles

section Complete

omit [Python] in
/-- A cause is never a gap. -/
theorem classify_of_causes {facts : StandstillFacts} {cycleUids : List String} {logPrefix : String}
    (causes : facts.attribution.hasDeadlockCauses = true) :
    DeadlockGovernor.classify facts cycleUids ≠ .gap logPrefix := by
  intro gap
  simp only [DeadlockGovernor.classify] at gap
  split_ifs at gap with malformed unknown missing impossible
  all_goals simp_all [DeadlockAttribution.hasDeadlockCauses]

omit [Python] in
/-- A cycle of waiting jobs is never a gap. -/
theorem classify_of_cycle {facts : StandstillFacts} {cycleUids : List String} {logPrefix : String}
    (waiting : facts.waitingForDependency = true) (cycle : cycleUids ≠ []) :
    DeadlockGovernor.classify facts cycleUids ≠ .gap logPrefix := by
  intro gap
  simp only [DeadlockGovernor.classify, waiting, if_true] at gap
  split_ifs at gap with malformed unknown missing impossible none
  exact cycle (by simpa using none)

/-- A standstill is classified when its ruling is not a gap and one of the classes applies. -/
def Classified (selection : Selection) (state : PipelineState) (facts : StandstillFacts) : Prop :=
  (∀ logPrefix, DeadlockGovernor.rule selection state facts ≠ .gap logPrefix) ∧
    (facts.attribution.hasDeadlockCauses = true ∨ (0 < facts.minWait ∧ facts.minWait ≠ ⊤) ∨
      (∃ standstill, DeadlockGovernor.rule selection state facts = .selectionBlocked standstill) ∨
      DeadlockGovernor.cycleUidsOf selection state ≠ [])

variable {selection : Selection} {facts : StandstillFacts}

theorem classified_of_causes (forced : facts.minWait = ⊤)
    (causes : facts.attribution.hasDeadlockCauses = true) : Classified selection state facts := by
  refine ⟨fun logPrefix gap => ?_, .inl causes⟩
  unfold DeadlockGovernor.rule at gap
  dsimp only at gap
  split at gap
  · cases gap
  · rw [if_pos (.inl forced)] at gap
    exact classify_of_causes causes gap

theorem classified_of_wait (positive : 0 < facts.minWait) (finite : facts.minWait ≠ ⊤) :
    Classified selection state facts := by
  refine ⟨fun logPrefix gap => ?_, .inr (.inl ⟨positive, finite⟩)⟩
  unfold DeadlockGovernor.rule at gap
  dsimp only at gap
  split at gap
  · cases gap
  · split at gap
    · rename_i reason
      rcases reason with never | ⟨waiting, cycle⟩
      · exact finite never
      · exact classify_of_cycle waiting cycle gap
    · cases gap

theorem classified_of_cycle (waiting : facts.waitingForDependency = true)
    (cycle : DeadlockGovernor.cycleUidsOf selection state ≠ []) : Classified selection state facts := by
  refine ⟨fun logPrefix gap => ?_, .inr (.inr (.inr cycle))⟩
  unfold DeadlockGovernor.rule at gap
  dsimp only at gap
  split at gap
  · cases gap
  · split at gap
    · exact classify_of_cycle waiting cycle gap
    · cases gap

theorem classified_of_blocked {standstill : SelectionStandstill}
    (blameless : facts.attribution.hasDeadlockCauses = false)
    (partitioned : selection.partitionStandstill state = some standstill)
    (only : standstill.onlyBlockedByExclusion = true) : Classified selection state facts := by
  have ruled : DeadlockGovernor.rule selection state facts = .selectionBlocked standstill := by
    have explained : (selection.partitionStandstill state).filter (fun standstill =>
        !facts.attribution.hasDeadlockCauses && standstill.onlyBlockedByExclusion) = some standstill := by
      simp [partitioned, Option.filter, blameless, only]
    unfold DeadlockGovernor.rule
    simp only [explained]
  refine ⟨fun logPrefix gap => ?_, .inr (.inr (.inl ⟨standstill, ruled⟩))⟩
  rw [ruled] at gap
  cases gap

/-- Where nobody is blamed and every job that may run waits, the selection explains it or there is a
cycle. -/
theorem classified_of_waiting (coherent : Coherent state) (tidy : Tidy state) (idle : state.inFlightUids = ∅)
    (some : state.queue ≠ []) (blameless : facts.attribution.hasDeadlockCauses = false)
    (parses : ∀ row ∈ state.queue, ∃ job, Job.fromDict row = .ok job) (waiting : AllWait selection state)
    (noted : (∃ job ∈ state.queuedJobs, selection.allowsTaskType job.taskType.val = true) →
      facts.waitingForDependency = true) : Classified selection state facts := by
  have jobs : ∀ uid ∈ state.queueUids, ∃ job ∈ state.queuedJobs, job.uid = uid := by
    intro uid queued
    rw [coherent.queueUids] at queued
    obtain ⟨row, member, rfl⟩ := Fresh.mem_keys.mp queued
    obtain ⟨job, parsed⟩ := parses row member
    exact ⟨job, mem_queuedJobs.mpr ⟨row, member, parsed⟩, (uid_of_fromDict parsed).symm⟩
  cases active : selection.isActive with
  | false =>
    obtain ⟨row, member⟩ := List.exists_mem_of_ne_nil _ some
    obtain ⟨job, parsed⟩ := parses row member
    have queued := mem_queuedJobs.mpr ⟨row, member, parsed⟩
    apply classified_of_cycle (noted ⟨job, queued, allows_of_inactive active _⟩)
    rw [DeadlockGovernor.cycleUidsOf, if_neg (by simp [active])]
    apply cycles_ne_nil
    · intro job queued _
      obtain ⟨dependency, depends, inQueue⟩ := (waiting job queued (allows_of_inactive active _)).queued
      obtain ⟨other, present, same⟩ := jobs dependency inQueue
      exact ⟨dependency, depends, other, present, by simp, same⟩
    · exact ⟨job, queued, by simp⟩
  | true =>
    have all : state.queue.all (fun row => (Job.fromDict row).isOk) = true := by
      rw [List.all_eq_true]
      intro row member
      obtain ⟨job, parsed⟩ := parses row member
      simp [parsed, Except.isOk, Except.toBool]
    have partitioned : selection.partitionStandstill state =
        .some (selection.standstillOf state (factsOf state.queuedJobs)) := by
      unfold partitionStandstill
      rw [if_neg (by simp [active]), if_neg (by simpa using some), if_pos all]
    cases only : (selection.standstillOf state (factsOf state.queuedJobs)).onlyBlockedByExclusion with
    | true => exact classified_of_blocked blameless partitioned only
    | false =>
      obtain ⟨cycle, allowed⟩ := cycle_of_standstill waiting coherent tidy idle some partitioned only
      apply classified_of_cycle (noted allowed)
      rw [DeadlockGovernor.cycleUidsOf, if_pos active, partitioned]
      exact cycle

end Complete

section Scan

variable (faithful : Faithful scheduler.jobCache state.queue)
  (none : (scheduler.scanNextRunnable state state.inFlightUids clock).2.runnableIdx = .none)
  (perm : (scheduler.orderingPolicy state.queue).Perm (List.finRange state.queue.length))

include faithful none perm

/-- A standstill without causes: every row is plain, and the facts are read off the rows. -/
theorem plain_rows (idle : state.inFlightUids = ∅) (heard : Heard scheduler.selection state)
    (blameless : (scheduler.scanNextRunnable state state.inFlightUids clock).2.facts.attribution.hasDeadlockCauses =
      false) :
    (∀ idx, Plain scheduler state (state.queue.get idx) (verdictAt scheduler state clock idx)) ∧
      ∀ idx, ∀ uid, verdictAt scheduler state clock idx ≠ .unknown uid := by
  have standstill := standstill_of_scan faithful none
  rw [standstill.facts] at blameless
  have visited : ∀ idx, idx ∈ scheduler.orderingPolicy state.queue := fun idx =>
    perm.mem_iff.mpr (List.mem_finRange idx)
  have clean : ∀ idx cause, blamed cause (verdictAt scheduler state clock idx) = [] := by
    intro idx cause
    have nobody := hasDeadlockCauses_eq_false.mp blameless cause
    simp only [Tally.facts, tallied_uidsFor, List.append_eq_nil_iff, List.flatMap_eq_nil_iff] at nobody
    exact nobody.2 idx (visited idx)
  constructor
  · intro idx
    exact plain_of_judge idle heard (List.get_mem _ _) rfl (standstill.unable idx (visited idx))
      (standstill.unfailed idx (visited idx)) (clean idx)
  · intro idx uid judged
    have blame := clean idx .unknown
    simp [judged, blamed] at blame

/-- Classification is complete: a scan without a candidate leaves no gap, unless a job that may run depends
on a failed job with the empty uid. -/
theorem standstill_classified (coherent : Coherent state) (tidy : Tidy state) (idle : state.inFlightUids = ∅)
    (some : state.queue ≠ []) (heard : Heard scheduler.selection state) :
    Classified scheduler.selection state
      (scheduler.scanNextRunnable state state.inFlightUids clock).2.facts := by
  have standstill := standstill_of_scan faithful none
  have visited : ∀ idx, idx ∈ scheduler.orderingPolicy state.queue := fun idx =>
    perm.mem_iff.mpr (List.mem_finRange idx)
  cases causes : (scheduler.scanNextRunnable state state.inFlightUids clock).2.facts.attribution.hasDeadlockCauses with
  | true =>
    refine classified_of_causes ?_ causes
    rw [standstill.facts] at causes ⊢
    exact if_pos causes
  | false =>
    obtain ⟨plain, known⟩ := plain_rows faithful none perm idle heard causes
    have minWait : (scheduler.scanNextRunnable state state.inFlightUids clock).2.facts.minWait =
        (tallied (verdictAt scheduler state clock) (scheduler.orderingPolicy state.queue) {}).minWait := by
      rw [standstill.facts] at causes ⊢
      exact if_neg (by simpa [Tally.facts] using causes)
    obtain ⟨-, below, positive⟩ := @tallied_minWait _ (verdictAt scheduler state clock)
      (scheduler.orderingPolicy state.queue) {} fun idx _ => known idx
    have waits : ∀ idx wait, verdictAt scheduler state clock idx = .delayed wait → 0 < wait ∧ wait ≠ ⊤ := by
      intro idx wait judged
      rcases plain idx with ⟨job, _, same, _⟩ | ⟨other, same, pos, fin⟩ | ⟨job, _, same, _⟩
      · rw [judged] at same
        cases same
      · rw [judged] at same
        cases same
        exact ⟨pos, fin⟩
      · rw [judged] at same
        cases same
    by_cases finite : (scheduler.scanNextRunnable state state.inFlightUids clock).2.facts.minWait = ⊤
    · have undelayed : ∀ idx wait, verdictAt scheduler state clock idx ≠ .delayed wait := by
        intro idx wait judged
        have bound := below idx (visited idx) wait judged
        rw [← minWait, finite, top_le_iff] at bound
        exact (waits idx wait judged).2 bound
      have parses : ∀ row ∈ state.queue, ∃ job, Job.fromDict row = .ok job := by
        intro row member
        obtain ⟨idx, rfl⟩ := List.get_of_mem member
        rcases plain idx with ⟨job, parsed, _, _⟩ | ⟨wait, same, _, _⟩ | ⟨job, parsed, _, _⟩
        · exact ⟨job, parsed⟩
        · exact absurd same (undelayed idx wait)
        · exact ⟨job, parsed⟩
      have settled : ∀ job ∈ state.queuedJobs,
          scheduler.selection.allowsTaskType job.taskType.val = true →
          ∃ idx, verdictAt scheduler state clock idx = .waiting ∧ Waits state job := by
        intro job member allowed
        obtain ⟨row, queued, parsed⟩ := mem_queuedJobs.mp member
        obtain ⟨idx, rfl⟩ := List.get_of_mem queued
        rcases plain idx with ⟨other, same, _, barred⟩ | ⟨wait, same, _, _⟩ | ⟨other, same, judged, waiting⟩
        · rw [parsed] at same
          rw [← Except.ok.inj same, allowed] at barred
          cases barred
        · exact absurd same (undelayed idx wait)
        · rw [parsed] at same
          rw [Except.ok.inj same]
          exact ⟨idx, judged, waiting⟩
      apply classified_of_waiting coherent tidy idle some causes parses
      · intro job member allowed
        obtain ⟨-, -, waiting⟩ := settled job member allowed
        exact waiting
      · rintro ⟨job, member, allowed⟩
        obtain ⟨idx, judged, -⟩ := settled job member allowed
        rw [standstill.facts]
        show (tallied _ _ _).waitingForDependency = true
        rw [tallied_waiting, Bool.or_eq_true, List.any_eq_true]
        exact .inr ⟨idx, visited idx, by simp [judged, aboutDependency]⟩
    · refine classified_of_wait ?_ finite
      rw [minWait]
      exact positive WithTop.top_pos fun idx _ wait judged => (waits idx wait judged).1

end Scan

end Theory

section Sample

local instance : Python := samplePython

/-- A job that waits for a postponed one. -/
theorem standstill_classified_postponed :
    (limitedScheduler.scanNextRunnable (postponedStore Dict.empty).state
        (postponedStore Dict.empty).state.inFlightUids fun _ => 0).2.runnableIdx = none ∧
      Classified limitedScheduler.selection (postponedStore Dict.empty).state
        (limitedScheduler.scanNextRunnable (postponedStore Dict.empty).state
        (postponedStore Dict.empty).state.inFlightUids fun _ => 0).2.facts := by
  have tidy : Tidy (postponedStore Dict.empty).state := by
    unfold Tidy
    decide +kernel
  have standing : (limitedScheduler.scanNextRunnable (postponedStore Dict.empty).state
        (postponedStore Dict.empty).state.inFlightUids
      fun _ => 0).2.runnableIdx = none := by decide +kernel
  have heard : Heard limitedScheduler.selection (postponedStore Dict.empty).state := by
    intro job _ _ _ archived
    cases archived
  refine ⟨standing, ?_⟩
  exact standstill_classified (faithful_empty tidy) standing (List.Perm.refl _)
    (coherent_postponed Dict.empty) tidy rfl (by decide +kernel) heard

/-- A job that depends on the empty uid, and a failed job of that uid. -/
def orphanState : PipelineState := PipelineState.init Dict.empty (Dict.ofPairs [("", Dict.empty)]) Dict.empty
  [Dict.ofPairs [("task_type", .str "t"), ("job_id", .str "a"), ("depends_on", .arr [.str ""])]]

def plainScheduler : JobScheduler where
  resources := sampleResources
  orderingPolicy := fifoOrderingPolicy
  selection := sampleConfig.selection
  jobCache := Dict.empty

/-- The job is neither a candidate nor blamed nor waiting, and the standstill is a gap. -/
theorem empty_uid_unclassified :
    Coherent orphanState ∧ Tidy orphanState ∧ orphanState.queue ≠ [] ∧ orphanState.inFlightUids = ∅ ∧
      (plainScheduler.scanNextRunnable orphanState orphanState.inFlightUids fun _ => 0).2.runnableIdx = none ∧
      (∃ logPrefix, DeadlockGovernor.rule plainScheduler.selection orphanState
        (plainScheduler.scanNextRunnable orphanState orphanState.inFlightUids fun _ => 0).2.facts = .gap logPrefix) ∧
      ¬ Classified plainScheduler.selection orphanState
        (plainScheduler.scanNextRunnable orphanState orphanState.inFlightUids fun _ => 0).2.facts := by
  have gap : DeadlockGovernor.rule plainScheduler.selection orphanState
      (plainScheduler.scanNextRunnable orphanState orphanState.inFlightUids fun _ => 0).2.facts =
      .gap "Deadlock: unclassifiable deadlock (no known root cause)" := by decide +kernel
  refine ⟨coherent_init _ _ (by simp [Dict.keys, Dict.empty]), ?_, by decide +kernel, rfl, by decide +kernel,
    ⟨_, gap⟩, fun classified => classified.1 _ gap⟩
  unfold Tidy
  decide +kernel

end Sample

end Tasklite.Engine.Classification
