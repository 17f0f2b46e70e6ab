import Tasklite.Engine.Postponing
import Tasklite.Engine.Runs
import Tasklite.Engine.Session

/-! Excluding a task type postpones its jobs. A whole run, over crashes and restarts,
leaves a queued job of an excluded type as it found it. -/

namespace Tasklite.Engine.Exclusion
open Tasklite.Library Tasklite.Models Tasklite.Models.Identity Tasklite.Backend Tasklite.Engine.Custody
  Tasklite.Engine.Lifecycle Tasklite.Engine.Strikes Tasklite.Engine.Postponing Tasklite.Engine.Durability
  Tasklite.Engine.Runs PipelineState StateStore

section Theory

variable [Python] {config : StoreConfig} {uid : String} {row : Record} {start store : StateStore} {run : Run}

/-- The job waits: it is untouched, and neither the row in hand nor anything in flight is of it. -/
structure Waits (uid : String) (row : Record) (start : StateStore) (run : Run) : Prop where
  clear : Clear uid row start run.runtime
  hand : ∀ held job, run.hand = some (held, job) →
    Identified held ∧ jobUidFromSnapshot held = job.uid ∧ job.uid ≠ uid

section Load

theorem mem_uidsOf_of_rowsOf {rows : List Record} (alone : rowsOf uid rows = [row]) : uid ∈ uidsOf rows := by
  by_contra absent
  have none : rowsOf uid rows = [] := rowsOf_eq_nil.mpr absent
  rw [alone] at none
  cases none

omit [Python] in
theorem get?_eraseKeys {ν : Type} {dict : Dict String ν} {uids : List String} {key : String} {value : ν}
    (found : (Memory.eraseKeys dict uids).get? key = some value) : dict.get? key = some value := by
  have erased : (if key ∈ uids then none else dict.get? key) = some value := by
    rw [← Dict.get?_eraseAll dict uids key]
    exact found
  split at erased
  · cases erased
  · exact erased

theorem rowsOf_enqueued (batches : List (List Record × Bool)) (disk : rowsOf uid store.backend.queue = [row]) :
    rowsOf uid (batches.foldl (fun store batch => store.enqueueElsewhere batch.1 batch.2) store).backend.queue =
      [row] := by
  induction batches generalizing store with
  | nil => exact disk
  | cons batch rest ih =>
    have present : uid ∈ uidsOf store.backend.queue := mem_uidsOf_of_rowsOf disk
    exact ih ((sparesDisk_enqueueJobs batch.1 batch.2 present).rows.trans disk)

/-- A load finds the only row of a uid on disk. -/
theorem rowsOf_loadAndRepair (disk : rowsOf uid store.backend.queue = [row]) (window : Recovery.Window) :
    rowsOf uid (Recovery.loadAndRepair store window).state.queue = [row] ∧
      rowsOf uid (Recovery.loadAndRepair store window).backend.queue = [row] := by
  have reread : rowsOf uid (Recovery.loadAndRepair store window).backend.queue = [row] := by
    apply rowsOf_enqueued
    split
    · exact disk
    · exact disk
  refine ⟨?_, reread⟩
  show rowsOf uid (Recovery.repairQueueOnLoad store.backend.queue
    (if window.rereadFails then [] else (Recovery.loadAndRepair store window).backend.queue)) = [row]
  rw [rowsOf_repairQueueOnLoad]
  cases window.rereadFails with
  | true =>
    simp only [if_true]
    rw [if_neg (by simp [uidsOf, Fresh.keys]), disk]
    rfl
  | false =>
    simp only [Bool.false_eq_true, if_false]
    rw [if_pos (mem_uidsOf_of_rowsOf reread), reread]
    rfl

/-- A load leaves the job as it was. -/
theorem untouched_loadAndRepair (untouched : Untouched uid row start store) (window : Recovery.Window) :
    Untouched uid row start (Recovery.loadAndRepair store window) := by
  have converged : Untouched uid row start (if window.deleteFails then store else { store with
      backend := (store.backend.deleteSuccesses
        (store.backend.successes.keys.filter store.backend.failed.contains)).1 }) := by
    split
    · exact untouched
    · refine { untouched with successes := ?_ }
      rintro metadata (memory | disk)
      · exact untouched.successes (.inl memory)
      · exact untouched.successes (.inr (get?_eraseKeys disk))
  have reread := untouched_enqueued window.enqueued converged
  obtain ⟨loaded, disk⟩ := rowsOf_loadAndRepair untouched.disk window
  refine ⟨loaded, disk, mem_uidsOf_of_rowsOf loaded, Finset.notMem_empty _, Finset.notMem_empty _,
    reread.attempts, ?_, ?_, reread.events⟩
  · rintro metadata (memory | disk)
    · exact untouched.successes (.inr (get?_eraseKeys memory))
    · exact reread.successes (.inr disk)
  · rintro metadata (memory | disk)
    · exact untouched.failures (.inr memory)
    · exact reread.failures (.inr disk)

theorem untouched_saveQueueCrashSafe (untouched : Untouched uid row start store) (raises : Bool) :
    Untouched uid row start (Recovery.saveQueueCrashSafe store raises) := by
  cases raises with
  | true => exact untouched
  | false =>
    have present : uid ∈ uidsOf store.state.queue := mem_uidsOf_of_rowsOf untouched.memory
    have saved : rowsOf uid (Recovery.saveQueueCrashSafe store false).backend.queue = [row] := by
      rw [rowsOf_saveQueueCrashSafe, if_pos present, untouched.memory]
      rfl
    exact { untouched with disk := saved }

theorem waits_restart (untouched : Untouched uid row start store) (window : Recovery.Window)
    (resources : ResourceManager) (runId : Option String) :
    Waits uid row start (boot store window resources runId) where
  clear := ⟨untouched_loadAndRepair untouched window, fun _ _ tracked => nomatch tracked⟩
  hand := fun _ _ held => nomatch held

/-- In a run that has just been started, every job that is queued alone under its uid waits. -/
theorem waits_boot (disk : rowsOf uid store.backend.queue = [row]) (window : Recovery.Window)
    (resources : ResourceManager) (runId : Option String) :
    Waits uid row (boot store window resources runId).runtime.store (boot store window resources runId) := by
  obtain ⟨loaded, reread⟩ := rowsOf_loadAndRepair disk window
  refine ⟨⟨⟨loaded, reread, mem_uidsOf_of_rowsOf loaded, Finset.notMem_empty _, Finset.notMem_empty _, le_rfl,
    fun _ recorded => recorded, fun _ recorded => recorded, [], by simp, by simp⟩, ?_⟩, ?_⟩
  · exact fun _ _ tracked => nomatch tracked
  · exact fun _ _ held => nomatch held

end Load

section Dispatch

variable {idx : ℕ}

/-- The only row of the uid is the postponed one, so a place that may run has another's. -/
theorem other_of_permitted (untouched : Untouched uid row start store) (postponed : Postponed config uid row)
    (permitted : Session.Permitted config.selection store.state idx) {found : Record}
    (place : store.state.queue[idx]? = some found) : jobUidFromSnapshot found ≠ uid := by
  intro same
  have listed : found ∈ rowsOf uid store.state.queue :=
    List.mem_filter.mpr ⟨List.mem_of_getElem? place, by simpa using same⟩
  rw [untouched.memory, List.mem_singleton] at listed
  obtain ⟨job, parsed, -, active, barred⟩ := postponed
  rw [permitted found job place (listed ▸ parsed) active] at barred
  cases barred

theorem rowsOf_eraseIdx {rows : List Record} {found : Record} (place : rows[idx]? = some found)
    (other : jobUidFromSnapshot found ≠ uid) : rowsOf uid (rows.eraseIdx idx) = rowsOf uid rows := by
  induction rows generalizing idx with
  | nil => rfl
  | cons first rest ih =>
    cases idx with
    | zero =>
      cases place
      exact (Fresh.having_cons_of_ne other rest).symm
    | succ before =>
      have later := ih (by simpa using place)
      unfold rowsOf at later ⊢
      rw [List.eraseIdx_cons_succ]
      by_cases own : jobUidFromSnapshot first = uid
      · subst own
        rw [Fresh.having_cons_self, Fresh.having_cons_self, later]
      · rw [Fresh.having_cons_of_ne own, Fresh.having_cons_of_ne own, later]

theorem rowsOf_modify {rows : List Record} {found : Record} {change : Record → Record}
    (place : rows[idx]? = some found) (other : jobUidFromSnapshot found ≠ uid)
    (kept : jobUidFromSnapshot (change found) = jobUidFromSnapshot found) :
    rowsOf uid (rows.modify idx change) = rowsOf uid rows := by
  induction rows generalizing idx with
  | nil => simp at place
  | cons first rest ih =>
    cases idx with
    | zero =>
      cases place
      unfold rowsOf
      rw [List.modify_zero_cons, Fresh.having_cons_of_ne (kept ▸ other), Fresh.having_cons_of_ne other]
    | succ before =>
      have later := ih (by simpa using place)
      unfold rowsOf at later ⊢
      rw [List.modify_succ_cons]
      by_cases own : jobUidFromSnapshot first = uid
      · subst own
        rw [Fresh.having_cons_self, Fresh.having_cons_self, later]
      · rw [Fresh.having_cons_of_ne own, Fresh.having_cons_of_ne own, later]

theorem waits_take (waits : Waits uid row start run) {found : Record}
    (place : run.runtime.store.state.queue[idx]? = some found) (other : jobUidFromSnapshot found ≠ uid)
    (identified : Identified found) (activationNo : Option {n : ℕ // 1 ≤ n}) :
    Waits uid row start (take run idx activationNo) := by
  unfold take
  split
  · exact waits
  · rename_i popped state taken
    unfold popJob at taken
    simp only [place, Option.map_some, Option.some.injEq, Prod.mk.injEq] at taken
    obtain ⟨same, popping⟩ := taken
    subst same
    dsimp only
    split
    · exact waits
    · rename_i job built
      have own : jobUidFromSnapshot found = job.uid := by
        rw [← uid_of_fromDict built]
        cases activationNo with
        | none => rfl
        | some number => exact (uid_set (by decide) (by decide) identified).symm
      have spared : Spares uid run.runtime.store.state state := by
        rw [← popping]
        refine ⟨rowsOf_eraseIdx place other, ?_, id, id, rfl, rfl⟩
        exact fun present => Finset.mem_erase.mpr ⟨Ne.symm other, present⟩
      have untouched : Untouched uid row start (run.runtime.store.mapState fun _ => state) :=
        waits.clear.untouched.mapState spared
      refine ⟨⟨untouched, waits.clear.foreign⟩, fun held taken same => ?_⟩
      obtain ⟨rfl, rfl⟩ := Prod.mk.inj (Option.some.inj same)
      exact ⟨identified_of_fromDict built, uid_of_fromDict built, own ▸ other⟩

theorem waits_pop (waits : Waits uid row start run) {found : Record} {job : Job}
    (parsed : parsedAt run.runtime.store.state idx = some (found, job)) (other : jobUidFromSnapshot found ≠ uid)
    (activationNo : Option {n : ℕ // 1 ≤ n}) :
    Waits uid row start (take (run.mapStore fun store => store.mapState fun state =>
      prepare config state idx job) idx activationNo) := by
  obtain ⟨place, built⟩ := parsedAt_some parsed
  obtain ⟨identified, kept⟩ :=
    Batches.uid_normalizeJobSnapshot config (identified_of_fromDict built) job.taskType.val
  have spared : Spares uid run.runtime.store.state (prepare config run.runtime.store.state idx job) :=
    ⟨rowsOf_modify place other kept, id, id, id, rfl, rfl⟩
  have untouched : Untouched uid row start (run.runtime.store.mapState fun state => prepare config state idx job) :=
    waits.clear.untouched.mapState spared
  have prepared : Waits uid row start (run.mapStore fun store => store.mapState fun state =>
      prepare config state idx job) := ⟨⟨untouched, waits.clear.foreign⟩, waits.hand⟩
  apply waits_take prepared _ (kept ▸ other) identified
  show (run.runtime.store.state.queue.modify idx _)[idx]? = _
  simp [place]

end Dispatch

section Step

variable (plain : Plain uid) (postponed : Postponed config uid row)

/-- The store after an operation on it. -/
theorem Waits.onStore (waits : Waits uid row start run) {after : StateStore} {crashed : Bool}
    (untouched : Untouched uid row start after) :
    Waits uid row start { run with runtime := { run.runtime with store := after }, crashed := crashed } :=
  ⟨⟨untouched, waits.clear.foreign⟩, waits.hand⟩

/-- The same when the hand is empty afterwards. -/
theorem Waits.released (waits : Waits uid row start run) {after : StateStore} {crashed : Bool}
    (untouched : Untouched uid row start after) :
    Waits uid row start { run with runtime := { run.runtime with store := after }, crashed := crashed, hand := none } :=
  ⟨⟨untouched, waits.clear.foreign⟩, fun _ _ held => nomatch held⟩

theorem waits_track (waits : Waits uid row start run) {held : Record} {job : Job}
    (hand : run.hand = some (held, job)) (launch : Launch) :
    Waits uid row start { run with
      runtime := run.runtime.track ⟨job.uid, held, job, launch.lease, launch.attemptId, launch.executionId⟩
      hand := none } := by
  obtain ⟨-, own, other⟩ := waits.hand held job hand
  have registered : Untouched uid row start (run.runtime.store.mapState fun state =>
      state.registerInFlight job.uid) := waits.clear.untouched.mapState (spares_registerInFlight other)
  refine ⟨⟨registered, fun key entry tracked => ?_⟩, fun _ _ empty => nomatch empty⟩
  have found : (run.runtime.tracker.set job.uid
      ⟨job.uid, held, job, launch.lease, launch.attemptId, launch.executionId⟩).get? key = some entry := tracked
  rw [Dict.get?_set] at found
  split at found
  · cases found
    exact ⟨other, own.trans_ne other, other⟩
  · exact waits.clear.foreign key entry found

theorem waits_putBack (waits : Waits uid row start run) {held : Record} {job : Job}
    (hand : run.hand = some (held, job)) (counted : Bool) :
    Waits uid row start { run.mapStore (fun store => store.mapState fun state => state.requeueJobs
      [if counted then recordDispatchFailure held else held] true) with hand := none } := by
  obtain ⟨identified, own, other⟩ := waits.hand held job hand
  have away : jobUidFromSnapshot (if counted then recordDispatchFailure held else held) ≠ uid := by
    split
    · exact ((uid_set (by decide) (by decide) identified).trans own).trans_ne other
    · exact own.trans_ne other
  exact waits.released (waits.clear.untouched.requeue away true)

theorem waits_triggerSkip (waits : Waits uid row start run) {held : Record} {job : Job}
    (hand : run.hand = some (held, job)) (attemptId : Option Int) :
    Waits uid row start (match run.runtime.store.applySkip job.uid (some held) attemptId with
      | (store, .ok _) => { run.after (store.mapState fun state => state.markTriggerSkipped job.uid) none with
          hand := none }
      | (store, .error signal) => { run.after store (some signal) with hand := none }) := by
  obtain ⟨-, own, other⟩ := waits.hand held job hand
  have apart : ∀ snapshot ∈ some held, jobUidFromSnapshot snapshot ≠ uid := by
    intro snapshot same
    cases same
    exact own.trans_ne other
  have skipped := waits.clear.untouched.applySkip other apart attemptId
  split
  · rename_i store answer done
    rw [done] at skipped
    exact waits.released (skipped.mapState (spares_markTriggerSkipped other))
  · rename_i store signal refused
    rw [refused] at skipped
    obtain ⟨crashed, same⟩ := after_eq run store (some signal)
    rw [same]
    exact waits.released skipped

include plain postponed

theorem waits_settleAborted (waits : Waits uid row start run)
    (finished : String → Option (ExecutionResult × Surroundings)) (cleanupFault : String → Option String) :
    let entries := run.runtime.tracker.entries.map Prod.snd
    Clear uid row start (Runtime.settleAborted config run.runtime
      ((entries.filter fun entry => (finished entry.jobUid).isNone).map fun entry =>
        (entry, cleanupFault entry.jobUid))
      (entries.filterMap fun entry => (finished entry.jobUid).map fun ending => (entry, ending))).1 := by
  intro entries
  have foreign : ∀ entry ∈ entries, Foreign uid entry := by
    intro entry member
    obtain ⟨tracked, listed, rfl⟩ := List.mem_map.mp member
    exact waits.clear.foreign tracked.1 tracked.2 (Dict.mem_entries.mp listed)
  apply clear_settleDone plain postponed
  · apply clear_settleCancelled _ _ waits.clear
    intro item member
    obtain ⟨entry, kept, rfl⟩ := List.mem_map.mp member
    exact foreign entry (List.mem_filter.mp kept).1
  · intro item member
    obtain ⟨entry, listed, made⟩ := List.mem_filterMap.mp member
    obtain ⟨ending, -, rfl⟩ := Option.map_eq_some_iff.mp made
    exact foreign entry listed

theorem waits_operate (waits : Waits uid row start run) (noSkip : config.selection.hasSkipRules = false)
    {operation : Operation} (driven : Session.Driven config run (.operate operation)) :
    Waits uid row start (Lifecycle.step config run operation) := by
  have untouched := waits.clear.untouched
  have popped : ∀ idx found job, Session.Scanned config run.runtime.store.state idx →
      parsedAt run.runtime.store.state idx = some (found, job) → jobUidFromSnapshot found ≠ uid := by
    intro idx found job scanned parsed
    exact other_of_permitted untouched postponed (Session.permitted_of_scanned scanned) (parsedAt_some parsed).1
  cases operation with
  | foresee now answers hookRaises =>
    apply waits.onStore
    exact untouched.spared (spares_refl _) (sparesDisk_refl _) ⟨[], by simp, by simp⟩
  | enqueue snapshots front => exact waits.onStore (untouched.enqueueElsewhere snapshots front)
  | pop idx activationNo =>
    simp only [Lifecycle.step]
    split
    · rename_i found job up free parsed
      exact waits_pop waits parsed (popped idx found job driven parsed) activationNo
    · exact waits
  | popDepFailed idx =>
    simp only [Lifecycle.step]
    split
    · rename_i found up free parsed
      obtain ⟨place, built⟩ := parsedAt_some parsed
      exact waits_take waits place (popped idx found.1 found.2 driven parsed) (identified_of_fromDict built) none
    · exact waits
  | track launch =>
    simp only [Lifecycle.step]
    split
    · rename_i held job up hand
      exact waits_track waits hand launch
    · exact waits
  | drop =>
    refine ⟨waits.clear, ?_⟩
    intro held job none
    cases none
  | putBack counted =>
    simp only [Lifecycle.step]
    split
    · rename_i held job up hand
      exact waits_putBack waits hand counted
    · exact waits
  | requeueTransient transientKind attemptId errorMessage =>
    simp only [Lifecycle.step]
    split
    · rename_i held job up hand
      obtain ⟨-, own, other⟩ := waits.hand held job hand
      exact waits.released (untouched.requeueTransient (own.trans_ne other) transientKind attemptId errorMessage)
    · exact waits
  | reject metadata countAs attemptId =>
    simp only [Lifecycle.step]
    split
    · rename_i held job up hand
      obtain ⟨-, own, other⟩ := waits.hand held job hand
      have rejected := Untouched.applyFailure plain postponed untouched other (own.trans_ne other) metadata countAs
        attemptId
      obtain ⟨crashed, same⟩ := after_eq run _ (raisedBy
        (run.runtime.store.applyFailure config job.uid metadata held countAs attemptId).2)
      rw [same]
      exact waits.released rejected
    · exact waits
  | triggerSkip attemptId =>
    simp only [Lifecycle.step]
    split
    · rename_i held job up hand
      exact waits_triggerSkip waits hand attemptId
    · exact waits
  | selectionSkip idx =>
    have skips : config.selection.hasSkipRules = true := driven
    rw [noSkip] at skips
    cases skips
  | bulkFailure targets error =>
    simp only [Lifecycle.step]
    split
    · have failed := Untouched.applyBulkFailure plain postponed untouched
        (splitDeadlockByUids run.runtime.store.state.queue targets error)
      obtain ⟨crashed, same⟩ := after_eq run _ (raisedBy (run.runtime.store.applyBulkFailure config
        (splitDeadlockByUids run.runtime.store.state.queue targets error)).2)
      rw [same]
      exact waits.onStore failed
    · exact waits
  | settleReaped reaped =>
    simp only [Lifecycle.step]
    split
    · have settled := clear_settleReaped plain postponed reaped none waits.clear
      obtain ⟨crashed, same, -⟩ := settled_eq run (Runtime.settleReaped config reaped run.runtime none).1
        (Runtime.settleReaped config reaped run.runtime none).2
      rw [same]
      exact ⟨settled, waits.hand⟩
    · exact waits
  | settleAborted finished cleanupFault =>
    simp only [Lifecycle.step]
    split
    · have settled := waits_settleAborted plain postponed waits finished cleanupFault
      obtain ⟨crashed, same, -⟩ := settled_eq run _ (Runtime.settleAborted config run.runtime
        (((run.runtime.tracker.entries.map Prod.snd).filter fun entry =>
          (finished entry.jobUid).isNone).map fun entry => (entry, cleanupFault entry.jobUid))
        ((run.runtime.tracker.entries.map Prod.snd).filterMap fun entry =>
          (finished entry.jobUid).map fun ending => (entry, ending))).2
      rw [same]
      exact ⟨settled, waits.hand⟩
    · exact waits
  | saveQueueCrashSafe raises => exact waits.onStore (untouched_saveQueueCrashSafe untouched raises)
  | crash window resources runId => exact waits_restart untouched window resources runId

theorem waits_step (waits : Waits uid row start run) (noSkip : config.selection.hasSkipRules = false)
    {action : Session.Action} (driven : Session.Driven config run action) :
    Waits uid row start (Session.step config run action) := by
  cases action with
  | operate operation => exact waits_operate plain postponed waits noSkip driven
  | openAttempt executionId =>
    simp only [Session.step]
    split
    · rename_i held job up hand
      obtain ⟨-, -, other⟩ := waits.hand held job hand
      apply waits.onStore
      unfold recordAttemptDispatch
      split
      · exact waits.clear.untouched
      · split
        · exact waits.clear.untouched
        · exact waits.clear.untouched.onBackend (sparesDisk_appendAttempt other)
    · exact waits

end Step

/-- In every run of a selection that skips nothing, a queued job of an excluded type is left alone: its row stays
as it is in the memory and on disk, no attempt is opened for it, and it is neither marked nor counted. -/
theorem excluded_job_untouched (config : StoreConfig) (noSkip : config.selection.hasSkipRules = false)
    {uid : String} {row : Record} (plain : Plain uid) (postponed : Postponed config uid row) {start : Run}
    (waits : Waits uid row start.runtime.store start) {actions : List Session.Action}
    (driven : Machine.Along (Session.step config) (Session.Driven config) start actions) :
    Untouched uid row start.runtime.store (Machine.run (Session.step config) start actions).runtime.store := by
  have always : Waits uid row start.runtime.store (Machine.run (Session.step config) start actions) :=
    Machine.run_invariant_along waits
      (fun run action driven waits => waits_step plain postponed waits noSkip driven) driven
  exact always.clear.untouched

end Theory

section Sample

local instance : Python := samplePython

/-- A job whose uid is that of a row without a task type. -/
def masqueradingRow : Record := Dict.ofPairs [("task_type", .str "_unknown"),
  ("job_id", .str "3dc52814306d7c2c95fc6546d97a08c567a9cb0259ea2add5194812833866068")]

def excluding (taskType : String) : StoreConfig :=
  { sampleConfig with threshold := 5, selection := ⟨[.exclude taskType]⟩ }

def dependentRow : Record := Dict.ofPairs [("task_type", .str "u"), ("job_id", .str "b"),
  ("depends_on", .arr [.str "t::a"])]

def freeRow : Record := Dict.ofPairs [("task_type", .str "v"), ("job_id", .str "c")]

def queued (rows : List Record) : Run :=
  boot (fresh { Memory.empty with queue := rows } sampleNow) {} sampleResources (some "r")

/-- The archiving of some queued jobs is refused, and the queue is saved on the way out. -/
def refusedBatch (targets : Option (List String)) : List Session.Action :=
  [.operate (.foresee sampleNow [⟨[], false⟩] []), .operate (.bulkFailure targets "deadlock"),
    .operate (.saveQueueCrashSafe false)]

/-- The third job of the queue is dispatched and fails, and the rest of the queue is given up. -/
def servedBeside : List Session.Action :=
  [.operate (.pop 2 none), .openAttempt ⟨"x", by decide⟩, .operate (.track ⟨0, some 1, some "x"⟩),
    .operate (.settleReaped [("v::c", {}, {})])] ++ refusedBatch none

def excludingScheduler (taskType : String) : JobScheduler where
  resources := sampleResources
  orderingPolicy := fifoOrderingPolicy
  selection := (excluding taskType).selection
  jobCache := Dict.empty

theorem postponed_of_parsed {config : StoreConfig} {uid : String} {row : Record}
    (parsed : ((Job.fromDict row).toOption.map fun job => (job.uid, config.selection.isActive,
      config.selection.allowsTaskType job.taskType.val)) = some (uid, true, false)) : Postponed config uid row := by
  cases read : Job.fromDict row with
  | error refusal => simp [read, Except.toOption] at parsed
  | ok job =>
    simp only [read, Except.toOption, Option.map_some, Option.some.injEq, Prod.mk.injEq] at parsed
    exact ⟨job, read, parsed⟩

theorem excluded_job_untouched_beside :
    let start := queued [namedRow, dependentRow, freeRow]
    let finish := Machine.run (Session.step (excluding "t")) start servedBeside
    Machine.Along (Session.step (excluding "t")) (Session.Driven (excluding "t")) start servedBeside ∧
      finish.runtime.store.backend.failed.keys = ["v::c"] ∧ finish.crashed = true ∧
      Untouched "t::a" namedRow start.runtime.store finish.runtime.store := by
  intro start finish
  have plain : Plain "t::a" := by
    intro digest same
    have heads := congrArg (fun text => text.toList.head?) same
    simp at heads
  have postponed : Postponed (excluding "t") "t::a" namedRow := postponed_of_parsed (by decide +kernel)
  have waits : Waits "t::a" namedRow start.runtime.store start := waits_boot (by decide +kernel) _ _ _
  have driven : Machine.Along (Session.step (excluding "t")) (Session.Driven (excluding "t")) start
      servedBeside := by
    refine ⟨⟨excludingScheduler "t", fun _ => 0, rfl, Session.filed_empty, ?_⟩, trivial, trivial, trivial,
      trivial, trivial, trivial, trivial⟩
    decide +kernel
  refine ⟨driven, ?_, ?_, excluded_job_untouched (excluding "t") rfl plain postponed waits driven⟩
  · decide +kernel
  · decide +kernel

/-- The row of an excluded job is lost: a row without a task type is counted, takes the uid of the job, and comes
first when the queue is saved. -/
theorem masquerading_job_lost :
    let start := queued [unnamedRow 2, masqueradingRow]
    let uid := jobUidFromSnapshot masqueradingRow
    let actions := refusedBatch (some [jobUidFromSnapshot (unnamedRow 2)])
    let finish := Machine.run (Session.step (excluding "_unknown")) start actions
    (excluding "_unknown").selection.rules = [.exclude "_unknown"] ∧
      Postponed (excluding "_unknown") uid masqueradingRow ∧ Waits uid masqueradingRow start.runtime.store start ∧
      Machine.Along (Session.step (excluding "_unknown")) (Session.Driven (excluding "_unknown")) start actions ∧
      masqueradingRow ∉ finish.runtime.store.backend.queue ∧
      ¬ Untouched uid masqueradingRow start.runtime.store finish.runtime.store := by
  intro start uid actions finish
  have waits : Waits uid masqueradingRow start.runtime.store start := waits_boot (by decide +kernel) _ _ _
  have lost : masqueradingRow ∉ finish.runtime.store.backend.queue := by decide +kernel
  refine ⟨rfl, postponed_of_parsed (by decide +kernel), waits, ⟨trivial, trivial, trivial, trivial⟩, lost, ?_⟩
  intro untouched
  have kept : masqueradingRow ∈ rowsOf uid finish.runtime.store.backend.queue := by
    rw [untouched.disk]
    exact List.mem_singleton_self _
  exact lost (List.mem_filter.mp kept).1

end Sample

end Tasklite.Engine.Exclusion
