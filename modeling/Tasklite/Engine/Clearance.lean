import Tasklite.Engine.Choice
import Tasklite.Engine.Marking

/-! The barrier before a job runs. When its worker is started, no dependency of the job is in flight or queued, except
by rows that an exclusion defers, and each of them was skipped by its trigger or has succeeded. The scan passes over
everything that the selection does not let run, so that a queued row under a rule that skips is passed over too. -/

namespace Tasklite.Engine.Clearance
open Tasklite.Library Tasklite.Models Tasklite.Models.Identity
open Tasklite.Engine.Caching Tasklite.Engine.Choice Tasklite.Engine.Mutation Tasklite.Engine.Marking
open JobScheduler PipelineState EngineRuntime

section Scan

variable [Python] {scheduler : JobScheduler} {state : PipelineState} {inFlight : Finset String} {clock : ℕ → ℚ}
  {row : Record} {facts : JobFacts}

/-- What the facts of a row say about the row, whether they are cached or not. -/
theorem cachedJob_read {cache : JobCache} (truthful : Truthful cache) (read : (cachedJob cache row).2 = .ok facts) :
    Identified row ∧ Record.get row "task_type" = .str facts.taskType ∧
      asItems (Record.get row "depends_on") = some (facts.dependsOn.map Json.str) := by
  have parses : JobFacts.fromJobSnapshot row = .ok facts → Identified row ∧
      Record.get row "task_type" = .str facts.taskType ∧
      asItems (Record.get row "depends_on") = some (facts.dependsOn.map Json.str) := by
    intro parsed
    obtain ⟨job, built, rfl⟩ := JobFacts.fromJobSnapshot_eq parsed
    exact ⟨identified_of_fromDict built, (fromDict_ok built).1, asItems_of_normalize (fromDict_fields built).2⟩
  unfold cachedJob at read
  split at read
  · rename_i taskType jobId typed named
    split at read
    · rename_i cached hit
      cases read
      obtain ⟨stored, matching⟩ := Option.filter_eq_some_iff.mp hit
      obtain ⟨job, type, -, rfl⟩ := truthful taskType jobId _ stored
      refine ⟨by simp [Identified, typed, named], by rw [typed, ← type]; rfl, ?_⟩
      unfold schedFieldsMatch at matching
      split at matching
      · rename_i amounts items asked listed
        rw [decide_eq_true_eq] at matching
        rw [listed, matching.1]
      · cases matching
    · split at read
      · cases read
      · rename_i parsed
        cases read
        exact parses parsed
  · exact parses read

omit [Python] in
theorem evaluated_uncleared (now : ℚ) : scheduler.evaluated now facts false ≠ .runnable := by
  unfold evaluated
  dsimp only
  split
  · nofun
  · split
    · nofun
    · split
      · nofun
      · simp

/-- A row that can run is of a type that may run, and all its dependencies are satisfied. -/
theorem satisfied_of_judge {now : ℚ} (runs : scheduler.judge state inFlight now row (.ok facts) = .runnable) :
    scheduler.selection.allowsTaskType facts.taskType = true ∧
      ∀ dependency ∈ facts.dependsOn, Satisfied scheduler.selection state inFlight dependency := by
  unfold judge at runs
  dsimp only at runs
  split at runs
  · cases runs
  · rename_i selected
    have allowed : scheduler.selection.allowsTaskType facts.taskType = true := by
      by_contra barred
      rw [Bool.not_eq_true] at barred
      have active : scheduler.selection.isActive = true := by
        by_contra inactive
        rw [Deferral.allows_of_inactive (by simpa using inactive)] at barred
        cases barred
      exact selected (by simp [active, barred])
    refine ⟨allowed, ?_⟩
    split at runs
    · split_ifs at runs
      exact absurd runs (evaluated_uncleared now)
    · cases runs
    · cases runs
    · rename_i found
      have unfailed : (scheduler.barrierOf state inFlight facts).failed = none := by rw [found]
      obtain ⟨alive, missing, waiting⟩ := Scanning.barrier_of_unfailed unfailed
      unfold barrierOf at found
      dsimp only at found
      rw [found] at missing waiting
      simp only [Bool.false_eq_true, false_or, false_iff, not_exists, not_and] at missing waiting
      intro dependency depends
      rw [← standingOf_met]
      cases stands : standingOf scheduler state inFlight dependency with
      | met => rfl
      | failed => exact absurd stands (alive dependency depends)
      | missing => exact absurd stands (missing dependency depends)
      | waiting => exact absurd stands (waiting dependency depends)

/-- The row at a place can run, by facts that a cache may have given. -/
def RunsAt (scheduler : JobScheduler) (state : PipelineState) (inFlight : Finset String) (idx : ℕ) : Prop :=
  ∃ row facts now, state.queue[idx]? = some row ∧ (∃ cache, Truthful cache ∧ (cachedJob cache row).2 = .ok facts) ∧
    scheduler.judge state inFlight now row (.ok facts) = .runnable

theorem runsAt_of_scanRows {order : List (Fin state.queue.length)} {cache : JobCache} {tally : Tally} {idx : ℕ}
    (truthful : Truthful cache)
    (found : (scheduler.scanRows state inFlight clock order cache tally).2.2 = some idx) :
    RunsAt scheduler state inFlight idx := by
  induction order generalizing cache tally with
  | nil => cases found
  | cons place rest ih =>
    have next := truthful_cachedJob truthful (state.queue.get place)
    simp only [scanRows] at found
    split at found
    · rename_i runs
      cases found
      cases read : (cachedJob cache (state.queue.get place)).2 with
      | error refusal =>
        rw [read] at runs
        cases runs
      | ok facts =>
        rw [read] at runs
        exact ⟨state.queue.get place, facts, clock place, by simp, ⟨cache, truthful, read⟩, runs⟩
    · exact ih next found

/-- A place that the scan chooses for any other reason than a failed dependency can run. -/
theorem runsAt_of_scan {idx : ℕ} (truthful : Truthful scheduler.jobCache)
    (chosen : (scheduler.scanNextRunnable state inFlight clock).2.runnableIdx = some idx)
    (other : (scheduler.scanNextRunnable state inFlight clock).2.kind ≠ .depFailed) :
    RunsAt scheduler state inFlight idx := by
  simp only [scanNextRunnable] at chosen other
  cases found : (scheduler.scanRows state inFlight clock (scheduler.orderingPolicy state.queue)
      scheduler.jobCache {}).2.2 with
  | some place =>
    rw [found, Option.some_or] at chosen
    cases chosen
    exact runsAt_of_scanRows truthful found
  | none =>
    rw [found, Option.none_or] at chosen other
    rw [if_pos rfl] at other
    rw [Option.map_eq_some_iff] at chosen
    obtain ⟨entry, pending, -⟩ := chosen
    rw [pending] at other
    exact absurd rfl other

end Scan

/-- An engine with the cache of its scheduler, and the jobs that their triggers have skipped in this run and that have
not been queued again since. -/
structure Course where
  engine : EngineRuntime
  jobCache : JobCache
  skipped : Finset String

abbrev Course.state (course : Course) : PipelineState := course.engine.runtime.store.state

/-- What the loop does next: it dispatches what a scan chooses, starts a round, or does anything else. -/
inductive Turn where
  | dispatchNext (moment : Moment)
  | beginRound
  | operate (operation : Operation)

/-- The jobs that some events have skipped. -/
def skippedUids (events : List Event) : Finset String :=
  (events.filterMap fun event => match event with
    | .skipped uid => some uid
    | _ => none).toFinset

section Course

variable [Python] (config : StoreConfig) (orderingPolicy : OrderingPolicy)

/-- A skip is over when the job is queued again. -/
def Course.follow (course : Course) (engine : EngineRuntime) (jobCache : JobCache) (skips : Finset String) : Course :=
  ⟨engine, jobCache, (course.skipped ∪ skips) \ uidsOf engine.runtime.store.state.queue⟩

/-- Nothing is dispatched once an assertion has failed, and nothing that a scan has not chosen. -/
def step (course : Course) : Turn → Course
  | .dispatchNext moment =>
      if course.state.asserted then
        let (engine, jobCache, _) := (course.engine.foreseen moment).dispatchNext config orderingPolicy
          course.jobCache moment
        course.follow engine jobCache
          (skippedUids (engine.runtime.store.events.drop course.engine.runtime.store.events.length))
      else course
  | .beginRound => { course with jobCache := Dict.empty }
  | .operate (.dispatch _ _) => course
  | .operate (.restart window resources machine runId) =>
      ⟨EngineRuntime.step config course.engine (.restart window resources machine runId), Dict.empty, ∅⟩
  | .operate operation => course.follow (EngineRuntime.step config course.engine operation) course.jobCache ∅

/-- A run from a database. -/
def start (store : StateStore) (window : Recovery.Window) (resources : ResourceManager) (machine : SelectionMachine)
    (runId : Option String) : Course :=
  ⟨boot store window resources machine runId, Dict.empty, ∅⟩

/-- The coming dispatch starts a worker for this entry, and no assertion fails. -/
def Spawns (course : Course) (moment : Moment) (entry : InFlightJob) : Prop :=
  let after := step config orderingPolicy course (.dispatchNext moment)
  (entries after.engine).get? entry.jobUid = some entry ∧ (entries course.engine).get? entry.jobUid ≠ some entry ∧
    after.state.asserted = true

omit [Python] in
/-- An exclusion defers the row. -/
def Deferred (selection : Selection) (row : Record) : Prop :=
  ∃ taskType, Record.get row "task_type" = .str taskType ∧ selection.isExcluded taskType = true

/-- A dependency does not stand in the way of a worker. -/
structure Passed (selection : Selection) (course : Course) (dependency : String) : Prop where
  landed : dependency ∉ course.state.inFlightUids
  deferred : ∀ row ∈ course.state.queue, jobUidFromSnapshot row = dependency → Deferred selection row
  settled : dependency ∈ course.skipped ∨
    course.state.successes.contains dependency = true ∧ course.state.failed.contains dependency = false

/-- A dependency is queued by a row that the selection does not let run, and by a row, the same or another, that no
exclusion defers. -/
def Masked (selection : Selection) (state : PipelineState) (dependency : String) : Prop :=
  Postponed selection state dependency ∧
    ∃ row ∈ state.queue, jobUidFromSnapshot row = dependency ∧ ¬ Deferred selection row

variable {config orderingPolicy} {course : Course} {moment : Moment}

structure Kept (course : Course) : Prop where
  truthful : Truthful course.jobCache
  indexed : Indexed course.state
  apart : course.state.asserted = true → Disjoint course.state.triggerSkippedUids (uidsOf course.state.queue)
  marked : course.state.asserted = true → course.state.triggerSkippedUids ⊆ course.skipped

theorem kept_boot (store : StateStore) (window : Recovery.Window) (resources : ResourceManager)
    (machine : SelectionMachine) (runId : Option String) : Kept (start store window resources machine runId) where
  truthful := truthful_empty
  indexed := fun _ => rfl
  apart := fun _ => Finset.disjoint_empty_left _
  marked := fun _ => Finset.empty_subset _

theorem kept_retains (kept : Kept course) {engine : EngineRuntime} {jobCache : JobCache} {skips : Finset String}
    (truthful : Truthful jobCache) (retains : Retains course.state (stateOf engine)) :
    Kept (course.follow engine jobCache skips) where
  truthful := truthful
  indexed := retains.indexed kept.indexed
  apart := by
    intro sound
    rw [Finset.disjoint_left]
    intro uid marked queued
    exact Finset.disjoint_left.mp (kept.apart (retains.asserted sound)) (retains.marked uid marked)
      (retains.queued uid marked queued)
  marked := by
    intro sound uid marked
    have before := retains.marked uid marked
    have absent : uid ∉ uidsOf (stateOf engine).queue := fun queued =>
      Finset.disjoint_left.mp (kept.apart (retains.asserted sound)) before (retains.queued uid marked queued)
    exact Finset.mem_sdiff.mpr
      ⟨Finset.mem_union_left _ (kept.marked (retains.asserted sound) before), absent⟩

/-- A job that the dispatch has skipped is marked, and is not queued. -/
theorem kept_marks (kept : Kept course) {engine after : EngineRuntime} {jobCache : JobCache}
    (state : stateOf engine = course.state)
    (events : engine.runtime.store.events = course.engine.runtime.store.events) (truthful : Truthful jobCache)
    (marks : Marks engine after) : Kept (course.follow after jobCache
      (skippedUids (after.runtime.store.events.drop course.engine.runtime.store.events.length))) := by
  cases marks with
  | retained retains => exact kept_retains kept truthful (state ▸ retains)
  | @skipped uid left retains absent marked told =>
    rw [state] at retains absent
    rw [events] at told
    set skips := skippedUids (after.runtime.store.events.drop course.engine.runtime.store.events.length) with heard
    have before : Kept (course.follow { after with runtime := { after.runtime with
        store := after.runtime.store.mapState fun _ => left } } jobCache skips) := kept_retains kept truthful retains
    have listed : uid ∈ skips := by
      rw [heard, skippedUids, List.mem_toFinset, List.mem_filterMap]
      exact ⟨_, told, rfl⟩
    have queue : uidsOf (stateOf after).queue = uidsOf left.queue := by
      rw [marked]
      rfl
    refine ⟨truthful, ?_, ?_, ?_⟩
    · show Indexed (stateOf after)
      rw [marked]
      exact before.indexed
    · show (stateOf after).asserted = true → Disjoint (stateOf after).triggerSkippedUids (uidsOf (stateOf after).queue)
      rw [queue, marked]
      intro sound
      exact Finset.disjoint_insert_left.mpr ⟨absent kept.indexed sound, before.apart sound⟩
    · show (stateOf after).asserted = true → (stateOf after).triggerSkippedUids ⊆
        (course.skipped ∪ skips) \ uidsOf (stateOf after).queue
      rw [queue, marked]
      intro sound
      apply Finset.insert_subset
      · exact Finset.mem_sdiff.mpr ⟨Finset.mem_union_right _ listed, absent kept.indexed sound⟩
      · exact before.marked sound

/-- The place that a scan chooses names its job. -/
theorem identified_of_runsAt {scheduler : JobScheduler} {state : PipelineState} {inFlight : Finset String} {idx : ℕ}
    (runs : RunsAt scheduler state inFlight idx) : ∀ row, state.queue[idx]? = some row → Identified row := by
  intro row place
  obtain ⟨found, facts, now, there, ⟨cache, truthful, read⟩, -⟩ := runs
  rw [place] at there
  cases there
  exact (cachedJob_read truthful read).1

theorem dispatchNext_marks {engine : EngineRuntime} {jobCache : JobCache} (truthful : Truthful jobCache) :
    Marks engine (engine.dispatchNext config orderingPolicy jobCache moment).1 ∧
      Truthful (engine.dispatchNext config orderingPolicy jobCache moment).2.1 := by
  unfold dispatchNext
  split
  · exact ⟨.retained (retains_refl _), truthful⟩
  · set scan := engine.scanned config orderingPolicy jobCache moment with scanning
    have seen : Truthful scan.1.jobCache := truthful_scanRows truthful _ _
    have marks : Marks engine (engine.dispatchJob config scan.2 moment.launching).1 :=
      dispatchJob_marks engine moment.launching fun idx chosen other =>
        identified_of_runsAt (@runsAt_of_scan _ (engine.schedulerOf config orderingPolicy jobCache) _ _ _ _ truthful
          chosen other)
    dsimp only
    split
    · exact ⟨.retained (retains_refl _), seen⟩
    · split
      · rename_i raised signal ended
        rw [ended] at marks
        exact ⟨marks, seen⟩
      · rename_i handled ended
        rw [ended] at marks
        exact ⟨marks, seen⟩
      · rename_i spawned entry ended
        rw [ended] at marks
        exact ⟨marks, seen⟩

theorem retains_operate (engine : EngineRuntime) {operation : Operation}
    (undispatched : ∀ sched launching, operation ≠ .dispatch sched launching)
    (going : ∀ window resources machine runId, operation ≠ .restart window resources machine runId) :
    Retains (stateOf engine) (stateOf (engine.step config operation)) := by
  cases operation with
  | foresee now answers hookRaises => exact retains_refl _
  | enqueue snapshots front => exact retains_refl _
  | dispatch sched launching => exact absurd rfl (undispatched sched launching)
  | complete jobUid result surroundings =>
    simp only [EngineRuntime.step]
    split
    · exact retains_refl _
    · exact retains_moves (evolves_completeAndSettle config engine.runtime _ result surroundings)
  | cancel jobUid cleanupFault =>
    simp only [EngineRuntime.step]
    split
    · exact retains_refl _
    · exact retains_moves (evolves_cancelAndSettle engine.runtime _ cleanupFault)
  | applySkips =>
    exact retains_moves (evolves_applySkips ⟨engine.machine, engine.runtime.store, engine.dispatchNo⟩
      engine.runtime.runId)
  | bulkFailure uidsMetas => exact retains_moves (evolves_applyBulkFailure config engine.runtime.store uidsMetas)
  | clearInFlight => exact retains_refl _
  | saveQueueCrashSafe raises => exact retains_refl _
  | restart window resources machine runId => exact absurd rfl (going window resources machine runId)

theorem step_operate {operation : Operation}
    (undispatched : ∀ sched launching, operation ≠ .dispatch sched launching)
    (going : ∀ window resources machine runId, operation ≠ .restart window resources machine runId) :
    step config orderingPolicy course (.operate operation) =
      course.follow (EngineRuntime.step config course.engine operation) course.jobCache ∅ := by
  cases operation with
  | dispatch sched launching => exact absurd rfl (undispatched sched launching)
  | restart window resources machine runId => exact absurd rfl (going window resources machine runId)
  | foresee | enqueue | complete | cancel | applySkips | bulkFailure | clearInFlight | saveQueueCrashSafe => rfl

theorem kept_step (kept : Kept course) (turn : Turn) : Kept (step config orderingPolicy course turn) := by
  cases turn with
  | dispatchNext moment =>
    simp only [step]
    split
    · obtain ⟨marks, truthful⟩ := @dispatchNext_marks _ config orderingPolicy moment (course.engine.foreseen moment)
        course.jobCache kept.truthful
      exact @kept_marks _ course kept (course.engine.foreseen moment) _ _ rfl rfl truthful marks
    · exact kept
  | beginRound =>
    simp only [step]
    exact ⟨truthful_empty, kept.indexed, kept.apart, kept.marked⟩
  | operate operation =>
    by_cases dispatches : ∃ sched launching, operation = .dispatch sched launching
    · obtain ⟨sched, launching, rfl⟩ := dispatches
      exact kept
    · by_cases restarts : ∃ window resources machine runId, operation = .restart window resources machine runId
      · obtain ⟨window, resources, machine, runId, rfl⟩ := restarts
        exact kept_boot course.engine.runtime.store window resources machine runId
      · have undispatched : ∀ sched launching, operation ≠ .dispatch sched launching :=
          fun sched launching same => dispatches ⟨sched, launching, same⟩
        have going : ∀ window resources machine runId, operation ≠ .restart window resources machine runId :=
          fun window resources machine runId same => restarts ⟨window, resources, machine, runId, same⟩
        rw [step_operate undispatched going]
        exact kept_retains kept kept.truthful (retains_operate course.engine undispatched going)

theorem kept_run (store : StateStore) (window : Recovery.Window) (resources : ResourceManager)
    (machine : SelectionMachine) (runId : Option String) (turns : List Turn) :
    Kept (Machine.run (step config orderingPolicy) (start store window resources machine runId) turns) :=
  Machine.run_invariant (kept_boot store window resources machine runId) (fun _ turn kept => kept_step kept turn) turns

/-- A dispatch that starts a worker has taken a row that can run. -/
theorem launched_of_spawns {entry : InFlightJob} (kept : Kept course)
    (spawns : Spawns config orderingPolicy course moment entry) :
    let after := step config orderingPolicy course (.dispatchNext moment)
    ∃ idx, Launched config idx (course.engine.foreseen moment) after.engine entry ∧
      RunsAt ((course.engine.foreseen moment).schedulerOf config orderingPolicy course.jobCache) course.state
        course.state.inFlightUids idx ∧
      course.skipped \ uidsOf after.state.queue ⊆ after.skipped := by
  intro after
  obtain ⟨tracked, new, sound⟩ := spawns
  simp only [step] at tracked sound
  have going : course.state.asserted = true := by
    by_contra crashed
    rw [if_neg crashed] at tracked
    exact new tracked
  rw [if_pos going] at tracked
  have reached : after = course.follow
      ((course.engine.foreseen moment).dispatchNext config orderingPolicy course.jobCache moment).1
      ((course.engine.foreseen moment).dispatchNext config orderingPolicy course.jobCache moment).2.1
      (skippedUids (((course.engine.foreseen moment).dispatchNext config orderingPolicy course.jobCache
        moment).1.runtime.store.events.drop course.engine.runtime.store.events.length)) := by
    show step config orderingPolicy course (.dispatchNext moment) = _
    simp only [step]
    rw [if_pos going]
  have skips : course.skipped \ uidsOf after.state.queue ⊆ after.skipped := by
    rw [reached]
    exact Finset.sdiff_subset_sdiff Finset.subset_union_left (Finset.Subset.refl _)
  have engine : after.engine =
      ((course.engine.foreseen moment).dispatchNext config orderingPolicy course.jobCache moment).1 := by
    rw [reached]
    rfl
  change (entries ((course.engine.foreseen moment).dispatchNext config orderingPolicy course.jobCache moment).1).get?
    entry.jobUid = some entry at tracked
  rw [← engine] at tracked
  have launched : ∀ answer, (course.engine.foreseen moment).dispatchJob config
      ((course.engine.foreseen moment).scanned config orderingPolicy course.jobCache moment).2 moment.launching =
        (after.engine, answer) →
      ∃ idx, Launched config idx (course.engine.foreseen moment) after.engine entry ∧
        RunsAt ((course.engine.foreseen moment).schedulerOf config orderingPolicy course.jobCache) course.state
          course.state.inFlightUids idx ∧
        course.skipped \ uidsOf after.state.queue ⊆ after.skipped := by
    intro answer ended
    obtain ⟨idx, chosen, other, launched⟩ := dispatchJob_launched ended tracked new
    exact ⟨idx, launched, @runsAt_of_scan _ ((course.engine.foreseen moment).schedulerOf config orderingPolicy
      course.jobCache) _ _ _ _ kept.truthful chosen other, skips⟩
  unfold dispatchNext at engine
  split at engine
  · rw [engine] at tracked
    exact absurd tracked new
  · dsimp only at engine
    split at engine
    · rw [engine] at tracked
      exact absurd tracked new
    · split at engine
      · rename_i raised signal ended
        exact launched _ (by rw [ended, engine])
      · rename_i handled ended
        exact launched _ (by rw [ended, engine])
      · rename_i spawned found ended
        exact launched _ (by rw [ended, engine])

/-- What the state is like when a worker has been started: the row of its job, of a type that may run, has left the
queue, in which no other row has its uid. -/
structure Departed (selection : Selection) (own : String) (row : Record) (state after : PipelineState) : Prop where
  queued : row ∈ state.queue
  named : jobUidFromSnapshot row = own
  allowed : ¬ ∃ taskType, Record.get row "task_type" = .str taskType ∧ selection.allowsTaskType taskType = false
  fewer : ∀ other ∈ after.queue, other ∈ state.queue
  others : ∀ other ∈ state.queue, other ∈ after.queue ∨ other = row
  index : state.queueUids = uidsOf state.queue
  absent : own ∉ uidsOf after.queue
  inFlight : after.inFlightUids = insert own state.inFlightUids
  apart : Disjoint (uidsOf after.queue) after.inFlightUids
  successes : after.successes = state.successes
  failed : after.failed = state.failed
  marked : after.triggerSkippedUids = state.triggerSkippedUids

/-- The worker's job and what it depends on. -/
theorem departed_of_spawns {entry : InFlightJob} (kept : Kept course)
    (spawns : Spawns config orderingPolicy course moment entry) :
    let after := step config orderingPolicy course (.dispatchNext moment)
    (∃ own row, Departed config.selection own row course.state after.state) ∧
      (∀ dependency ∈ entry.job.dependsOn,
        Satisfied config.selection course.state course.state.inFlightUids dependency) ∧
      course.skipped \ uidsOf after.state.queue ⊆ after.skipped := by
  intro after
  obtain ⟨idx, ⟨taskType, filled, state, job, taken, parsed, depends, registered⟩,
    ⟨row, facts, now, place, ⟨cache, truthful, read⟩, runs⟩, skips⟩ := launched_of_spawns kept spawns
  obtain ⟨identified, typed, listed⟩ := cachedJob_read truthful read
  obtain ⟨allowed, satisfied⟩ := satisfied_of_judge runs
  obtain ⟨name, written⟩ := fillIn_eq config (course.engine.foreseen moment) idx taskType
  rw [written] at taken
  obtain ⟨found, there, popped⟩ := Option.map_eq_some_iff.mp taken
  obtain ⟨rfl, rfl⟩ := Prod.mk.inj popped
  have rewritten : found = StateStore.normalizeJobSnapshot config row name := by
    rw [List.getElem?_modify] at there
    change (fun row => if idx = idx then _ else row) <$> course.state.queue[idx]? = some found at there
    rw [place] at there
    simpa using there.symm
  subst rewritten
  obtain ⟨-, kept_uid⟩ := Batches.uid_normalizeJobSnapshot config identified name
  have own : jobUidFromSnapshot row = job.uid := kept_uid.symm.trans (uid_of_fromDict parsed)
  have rest : (course.state.queue.modify idx fun row => StateStore.normalizeJobSnapshot config row name).eraseIdx idx =
      course.state.queue.eraseIdx idx := List.eraseIdx_modify_of_eq _ _ _
  have sound : after.state.asserted = true := spawns.2.2
  have whole : after.state = PipelineState.registerInFlight _ job.uid := registered
  rw [whole] at sound
  obtain ⟨first, check⟩ := asserted_of_require sound
  have erased : course.state.queueUids.erase (jobUidFromSnapshot (StateStore.normalizeJobSnapshot config row name)) =
      uidsOf ((course.state.queue.modify idx fun row =>
        StateStore.normalizeJobSnapshot config row name).eraseIdx idx) :=
    indexed_of_require first
  rw [rest, kept_uid, own] at erased
  have left : after.state.queue = course.state.queue.eraseIdx idx := by
    rw [whole]
    exact rest
  have flying : after.state.inFlightUids = insert job.uid course.state.inFlightUids := by
    rw [whole]
    rfl
  have before : course.state.asserted = true := (asserted_of_require first).1
  have apart : Disjoint (uidsOf after.state.queue) after.state.inFlightUids := by
    have coherent : stateConsistent after.state = true := by
      rw [whole]
      exact check
    simp only [stateConsistent, uidsConsistent, decide_eq_true_eq] at coherent
    rw [← coherent.2.2.1]
    exact Finset.disjoint_iff_inter_eq_empty.mpr coherent.1
  refine ⟨⟨job.uid, row, ?_⟩, ?_, skips⟩
  · exact {
      queued := List.mem_of_getElem? place
      named := own
      allowed := by
        rintro ⟨other, same, barred⟩
        rw [typed] at same
        cases same
        rw [show config.selection.allowsTaskType facts.taskType = true from allowed] at barred
        cases barred
      fewer := by
        rw [left]
        exact fun other member => (List.eraseIdx_sublist _ _).subset member
      others := by
        rw [left]
        intro other member
        obtain ⟨spot, here⟩ := List.mem_iff_getElem?.mp member
        by_cases same : spot = idx
        · subst same
          exact .inr (Option.some.inj (here.symm.trans place))
        · exact .inl (List.mem_eraseIdx_iff_getElem?.mpr ⟨spot, same, here⟩)
      index := kept.indexed before
      absent := by
        rw [left, ← erased]
        exact Finset.notMem_erase _ _
      inFlight := flying
      apart := apart
      successes := by
        rw [whole]
        rfl
      failed := by
        rw [whole]
        rfl
      marked := by
        rw [whole]
        rfl }
  · have same : entry.job.dependsOn = facts.dependsOn := by
      have items := asItems_of_normalize (fromDict_fields parsed).2
      rw [dependsOn_normalizeJobSnapshot, listed, Option.some.injEq] at items
      rw [depends]
      exact (List.map_injective_iff.mpr (fun _ _ same => Json.str.inj same) items).symm
    rw [same]
    exact satisfied

/-- In any run, a dependency of the job of a worker that is started stands in its way if and only if it is masked. -/
theorem passed_iff {entry : InFlightJob} (kept : Kept course)
    (spawns : Spawns config orderingPolicy course moment entry) {dependency : String} (depends : dependency ∈ entry.job.dependsOn) :
    Passed config.selection (step config orderingPolicy course (.dispatchNext moment)) dependency ↔
      ¬ Masked config.selection course.state dependency := by
  obtain ⟨⟨own, row, left⟩, satisfied, skips⟩ := departed_of_spawns kept spawns
  obtain ⟨inactive, settled⟩ := satisfied dependency depends
  set after := step config orderingPolicy course (.dispatchNext moment) with next
  -- A row that may not run is still in the queue when the worker has been started.
  have stays : Postponed config.selection course.state dependency → dependency ∈ uidsOf after.state.queue := by
    rintro ⟨other, queued, taskType, typed, -, barred, same⟩
    rcases left.others other queued with still | rfl
    · exact same ▸ Fresh.key_mem_keys still
    · exact absurd ⟨taskType, typed, barred⟩ left.allowed
  have postponed : dependency ∈ uidsOf course.state.queue ∨ dependency ∈ course.state.inFlightUids →
      Postponed config.selection course.state dependency := by
    intro pending
    rw [← left.index] at pending
    by_contra free
    exact inactive ⟨pending, free⟩
  constructor
  · rintro ⟨-, deferred, -⟩ ⟨barred, other, queued, same, bare⟩
    rcases left.others other queued with still | rfl
    · exact bare (deferred other still same)
    · rw [left.named] at same
      exact left.absent (same ▸ stays barred)
  · intro unmasked
    refine ⟨?_, ?_, ?_⟩
    · intro flying
      have gone : dependency ∉ uidsOf after.state.queue := fun queued =>
        Finset.disjoint_left.mp left.apart queued flying
      rw [left.inFlight, Finset.mem_insert] at flying
      rcases flying with rfl | flying
      · exact gone (stays (postponed (.inl (left.named ▸ Fresh.key_mem_keys left.queued))))
      · exact gone (stays (postponed (.inr flying)))
    · intro other queued same
      by_contra bare
      have listed : other ∈ course.state.queue := left.fewer other queued
      exact unmasked ⟨postponed (.inl (same ▸ Fresh.key_mem_keys listed)), other, listed, same, bare⟩
    · rcases settled with marked | ⟨unfailed, succeeded⟩
      · have awake : course.state.asserted = true := by
          by_contra crashed
          obtain ⟨tracked, new, -⟩ := spawns
          simp only [step] at tracked
          rw [if_neg crashed] at tracked
          exact new tracked
        have absent : dependency ∉ uidsOf after.state.queue := by
          intro queued
          rw [uidsOf, Fresh.mem_keys] at queued
          obtain ⟨other, member, same⟩ := queued
          exact Finset.disjoint_left.mp (kept.apart awake) marked
            (same ▸ Fresh.key_mem_keys (left.fewer other member))
        exact .inl (skips (Finset.mem_sdiff.mpr ⟨kept.marked awake marked, absent⟩))
      · refine .inr ⟨?_, ?_⟩
        · rw [left.successes]
          exact succeeded
        · rw [left.failed]
          exact unfailed

/-- In any run, whenever a worker is started: no dependency of its job is in flight or queued, but for rows that an
exclusion defers, and each was skipped by its trigger in this run and not queued since, or has succeeded and not
failed; if and only if no dependency of the job is masked. -/
theorem dependencies_passed_iff (config : StoreConfig) (orderingPolicy : OrderingPolicy) (store : StateStore)
    (window : Recovery.Window) (resources : ResourceManager) (machine : SelectionMachine) (runId : Option String)
    (turns : List Turn) (moment : Moment) (entry : InFlightJob)
    (spawns : Spawns config orderingPolicy
      (Machine.run (step config orderingPolicy) (start store window resources machine runId) turns) moment entry) :
    let course := Machine.run (step config orderingPolicy) (start store window resources machine runId) turns
    (∀ dependency ∈ entry.job.dependsOn,
        Passed config.selection (step config orderingPolicy course (.dispatchNext moment)) dependency) ↔
      ∀ dependency ∈ entry.job.dependsOn, ¬ Masked config.selection course.state dependency :=
  forall₂_congr fun _ depends => passed_iff (kept_run store window resources machine runId turns) spawns depends

/-- A job that is in flight after the dispatch and was not before has been started by it. -/
theorem spawns_of_entries {uid : String} {dependsOn : List String}
    (started : ((entries (step config orderingPolicy course (.dispatchNext moment)).engine).get? uid).map
      (fun entry => (entry.jobUid, entry.job.dependsOn)) = some (uid, dependsOn))
    (new : (entries course.engine).get? uid = none)
    (sound : (step config orderingPolicy course (.dispatchNext moment)).state.asserted = true) :
    ∃ entry, Spawns config orderingPolicy course moment entry ∧ entry.job.dependsOn = dependsOn := by
  obtain ⟨entry, tracked, same⟩ := Option.map_eq_some_iff.mp started
  obtain ⟨rfl, depends⟩ := Prod.mk.inj same
  refine ⟨entry, ⟨tracked, ?_, sound⟩, depends⟩
  rw [new]
  exact nofun

end Course

section Sample

local instance : Python := Lifecycle.samplePython

/-- A job that depends on another one. -/
def dependentRow (dependency : String) : Record := Dict.ofPairs
  [("task_type", .str "t"), ("job_id", .str "a"), ("depends_on", .arr [.str dependency])]

/-- A job that has succeeded already, in a row that does not parse. -/
def malformedRow : Record := Dict.ofPairs
  [("task_type", .str "s"), ("job_id", .str "b"), ("max_retries", .str "x")]

def parsedRow : Record := Dict.ofPairs [("task_type", .str "t"), ("job_id", .str "b")]

/-- Jobs of the type s are to be skipped. -/
def skippingConfig : StoreConfig := { Tracing.servingConfig with selection := ⟨[.skip "s"]⟩ }

def storeWith (queue : List Record) (successes : Dict String Record) : StateStore :=
  { Mirror.loaded [] with backend := { Backend.Memory.empty with queue, successes } }

def startWith (queue : List Record) (successes : Dict String Record) : Course :=
  start (storeWith queue successes) {} Lifecycle.sampleResources ⟨⟨[.skip "s"]⟩, ∅⟩ (some "run")

def sampleMoment : Moment := { now := Lifecycle.sampleNow }

/-- A dependency is dispatched before its dependent, and succeeds. -/
def servedTurns : List Turn :=
  [.dispatchNext sampleMoment, .operate (.complete "t::b" { success := true } {})]

def servedCourse : Course :=
  Machine.run (step skippingConfig fifoOrderingPolicy) (startWith [dependentRow "t::b", parsedRow] Dict.empty)
    servedTurns

/-- A dependency has left the queue with a success when its dependent is started. -/
theorem dependent_started : ∃ entry,
    Spawns skippingConfig fifoOrderingPolicy servedCourse sampleMoment entry ∧ entry.job.dependsOn = ["t::b"] ∧
      ∀ dependency ∈ entry.job.dependsOn, Passed skippingConfig.selection
        (step skippingConfig fifoOrderingPolicy servedCourse (.dispatchNext sampleMoment)) dependency := by
  have spawned : ∃ entry, Spawns skippingConfig fifoOrderingPolicy servedCourse sampleMoment entry ∧
      entry.job.dependsOn = ["t::b"] :=
    @spawns_of_entries _ _ _ _ _ "t::a" _ (by decide +kernel) (by decide +kernel) (by decide +kernel)
  obtain ⟨entry, spawns, depends⟩ := spawned
  have whole := dependencies_passed_iff skippingConfig fifoOrderingPolicy (storeWith [dependentRow "t::b", parsedRow]
    Dict.empty) {} Lifecycle.sampleResources ⟨⟨[.skip "s"]⟩, ∅⟩ (some "run") servedTurns sampleMoment entry spawns
  have absent : ∀ row ∈ servedCourse.state.queue, jobUidFromSnapshot row ≠ "t::b" := by decide +kernel
  refine ⟨entry, spawns, depends, whole.mpr ?_⟩
  unfold servedCourse startWith at absent
  rintro dependency member ⟨-, row, queued, same, -⟩
  rw [depends, List.mem_singleton] at member
  exact absent row queued (same.trans member)

/-- The dependency of the first job has succeeded once, and is queued again. -/
def passedOver : Course := startWith [dependentRow "s::b", malformedRow] (Dict.ofPairs [("s::b", Dict.empty)])

/-- A job is started although its dependency is queued: the row is of a type that a rule skips, but it does not parse,
so that it stays in the queue, and the scan passes over it. -/
theorem skipped_row_passed_over : ∃ entry, Spawns skippingConfig fifoOrderingPolicy passedOver sampleMoment entry ∧
    ¬ ∀ dependency ∈ entry.job.dependsOn, Passed skippingConfig.selection
      (step skippingConfig fifoOrderingPolicy passedOver (.dispatchNext sampleMoment)) dependency := by
  have spawned : ∃ entry, Spawns skippingConfig fifoOrderingPolicy passedOver sampleMoment entry ∧
      entry.job.dependsOn = ["s::b"] :=
    @spawns_of_entries _ _ _ _ _ "t::a" _ (by decide +kernel) (by decide +kernel) (by decide +kernel)
  obtain ⟨entry, spawns, depends⟩ := spawned
  refine ⟨entry, spawns, fun ready => ?_⟩
  have left : malformedRow ∈
      (step skippingConfig fifoOrderingPolicy passedOver (.dispatchNext sampleMoment)).state.queue := by decide +kernel
  have named : jobUidFromSnapshot malformedRow = "s::b" := by decide +kernel
  obtain ⟨taskType, typed, excluded⟩ :=
    (ready "s::b" (by rw [depends]; exact List.mem_singleton_self _)).deferred malformedRow left named
  have barred : taskType = "s" := (Json.str.inj typed).symm
  rw [barred] at excluded
  exact absurd excluded (by decide)

end Sample

end Tasklite.Engine.Clearance
