import Tasklite.Engine.Hooks
import Tasklite.Engine.Loop

/-! The fill phase of a round: jobs are dispatched one after the other until nothing is
left to dispatch, no worker is free or the limit is reached. A job that was dealt with
has left the queue, unless it was put back because of its lock or a rate. -/

namespace Tasklite.Engine
open Tasklite.Library Tasklite.Models

/-- What one call of the dispatcher finds: the readings of the clock, what the backend and the hooks are going to
answer, and what becomes of the job that is chosen. -/
structure Moment where
  asked : ℚ := 0
  clock : ℕ → ℚ := fun _ => 0
  now : Text
  answers : List Answer := []
  hookRaises : List Bool := []
  launching : Launching := {}

namespace EngineRuntime

variable [Python] (config : StoreConfig) (orderingPolicy : OrderingPolicy)

def schedulerOf (engine : EngineRuntime) (jobCache : JobCache) : JobScheduler where
  resources := engine.runtime.resources
  orderingPolicy := orderingPolicy
  selection := config.selection
  jobCache := jobCache

/-- What the scan chooses when there is a free worker. -/
def scanned (engine : EngineRuntime) (jobCache : JobCache) (moment : Moment) : JobScheduler × ScheduleResult :=
  (engine.schedulerOf config orderingPolicy jobCache).scanNextRunnable engine.runtime.store.state
    engine.runtime.store.state.inFlightUids moment.clock

/-- Ask for a worker, scan the queue and dispatch what was chosen. -/
def dispatchNext (engine : EngineRuntime) (jobCache : JobCache) (moment : Moment) :
    EngineRuntime × JobCache × Except Signal DispatchOutcome :=
  match engine.runtime.resources.canAcquireWorker moment.asked with
  | (false, wait) => (engine, jobCache, .ok {
      kind := .workerSaturated
      workerWait := if wait ≤ 0 then (inFlightPollSeconds : ℚ) else wait
      standstill := { minWait := 0 } })
  | (true, _) =>
      let (scheduler, sched) := engine.scanned config orderingPolicy jobCache moment
      if sched.runnableIdx.isNone then
        (engine, scheduler.jobCache, .ok { kind := .noCandidate, standstill := sched.facts })
      else match engine.dispatchJob config sched moment.launching with
        | (raised, .error signal) => (raised, scheduler.jobCache, .error signal)
        | (handled, .ok none) => (handled, scheduler.jobCache, .ok { kind := .handledNoSubprocess })
        | (spawned, .ok (some _)) => (spawned, scheduler.jobCache, .ok { kind := .spawned })

/-- What the rules skip leaves the queue. -/
def applySelectionSkips (engine : EngineRuntime) : EngineRuntime × Option Signal :=
  let (phase, answer) := SelectionMachine.applySkips ⟨engine.machine, engine.runtime.store, engine.dispatchNo⟩
    engine.runtime.runId
  ({
      runtime := { engine.runtime with store := phase.store }
      machine := phase.machine
      dispatchNo := phase.dispatchNo },
    match answer with
    | .ok _ => none
    | .error signal => some signal)

def foreseen (engine : EngineRuntime) (moment : Moment) : EngineRuntime :=
  engine.mapStore fun store =>
    { store with now := moment.now, answers := moment.answers, hookRaises := moment.hookRaises }

end EngineRuntime

/-- The fill phase between two calls of the dispatcher. It has `ended` when it has returned, or when something was
raised. -/
structure Filling where
  engine : EngineRuntime
  jobCache : JobCache
  lastOutcome : Option DispatchOutcome := none
  workerWait : WithTop ℚ := 0
  dispatched : ℕ := 0
  calls : ℕ := 0
  ended : Option (Option Signal) := none

namespace Filling

variable [Python] (config : StoreConfig) (orderingPolicy : OrderingPolicy) (limit : ℕ)

/-- The earliest of the waits that were not nothing. -/
def earliest (workerWait told : WithTop ℚ) : WithTop ℚ :=
  if told > 0 then if workerWait ≤ 0 then told else min workerWait told else workerWait

def convergeSkips (filling : Filling) : Filling :=
  match filling.engine.applySelectionSkips with
  | (engine, none) => { filling with engine }
  | (engine, some signal) => { filling with engine, ended := some (some signal) }

/-- One round of the loop. -/
def step (filling : Filling) (moment : Moment) : Filling :=
  if filling.ended.isSome then filling
  else if limit ≤ filling.dispatched then { filling with ended := some none }
  else match (filling.engine.foreseen moment).dispatchNext config orderingPolicy filling.jobCache moment with
    | (engine, jobCache, .error signal) =>
        { filling with engine, jobCache, calls := filling.calls + 1, ended := some (some signal) }
    | (engine, jobCache, .ok outcome) =>
        let told : Filling := { filling with
          engine, jobCache
          lastOutcome := some outcome
          workerWait := earliest filling.workerWait outcome.workerWait
          calls := filling.calls + 1 }
        match outcome.kind with
        | .spawned => { told with dispatched := told.dispatched + 1 }
        | .handledNoSubprocess => told.convergeSkips
        | .workerSaturated | .noCandidate => { told with ended := some none }

/-- The phase after so many rounds. -/
def fillDispatchPool (engine : EngineRuntime) (jobCache : JobCache) (moments : ℕ → Moment) (rounds : ℕ) : Filling :=
  Machine.reach (step config orderingPolicy limit) { engine, jobCache } moments rounds

end Filling

namespace Filling
open Tasklite.Engine.Cascade Tasklite.Engine.Custody Tasklite.Engine.Progress Tasklite.Engine.Tracing
  StateStore EngineRuntime

section Store

variable [Python] {config : StoreConfig} {store after : StateStore} {uid : String}

/-- How many rows wait in the memory. -/
def waiting (store : StateStore) : ℕ := store.state.queue.length

omit [Python] in
theorem waiting_alike (alike : Alike store after) : waiting after = waiting store := by
  unfold waiting
  rw [alike.state]

theorem commit_state (store : StateStore) (event : Event)
    (transaction : Backend.Memory → Backend.Memory × Bool) :
    (store.commit event transaction).1.state = store.state := by
  rcases commit_eq store event transaction with refused | ⟨-, accepted⟩
  · rw [refused]
    exact arrived_state store
  · rw [accepted]
    exact arrived_state store

theorem waiting_commit {event : Event} {transaction : Backend.Memory → Backend.Memory × Bool} {answer : Bool}
    (ended : store.commit event transaction = (after, answer)) : waiting after = waiting store := by
  have same := commit_state store event transaction
  rw [ended] at same
  unfold waiting
  rw [same]

theorem waiting_markFailedMemory (store : StateStore) (uid : String) (metadata : Record) (unregister : Bool) :
    waiting (store.markFailedMemory config uid metadata unregister) = waiting store := by
  cases unregister with
  | false => rfl
  | true => rfl

/-- A refused batch keeps at most the rows it has found. -/
theorem length_handleBulkFailureStrike (uids : List String) (store : StateStore) (rows : List Record) (kept : Bool) :
    (handleBulkFailureStrike config uids store rows kept).2.1.length ≤ rows.length := by
  induction uids generalizing store rows kept with
  | nil => exact Nat.le_refl _
  | cons uid rest ih =>
    have counted : (modifyFirst uid registerCommitFailure rows).length = rows.length := length_modifyFirst
    unfold handleBulkFailureStrike
    dsimp only
    split
    · split
      · rename_i archived ended
        have left := (@Fresh.without_sublist _ _ _ jobUidFromSnapshot {uid}
          (modifyFirst uid registerCommitFailure rows)).length_le
        exact ((ih archived _ kept).trans left).trans counted.le
      · rename_i refused ended
        exact (ih refused _ true).trans counted.le
    · exact (ih store _ true).trans counted.le

theorem waiting_settleBatch {mark : StateStore → String → Record → StateStore}
    (marks : ∀ store uid metadata, (mark store uid metadata).state.queue = store.state.queue) (statKey : StatKey)
    (crashMessage : ℕ → ℕ → String) (metas : List (String × Record)) (store : StateStore) :
    waiting (settleBatch config mark statKey crashMessage metas store).1 ≤ waiting store := by
  unfold settleBatch
  dsimp only
  split
  · rename_i committed ended
    rw [← waiting_commit ended]
    unfold waiting
    dsimp only
    rw [markEach_queue marks]
    exact (Fresh.without_sublist _ _).length_le
  · rename_i refused ended
    rw [← waiting_commit ended]
    have left := @length_handleBulkFailureStrike _ config (metas.map Prod.fst) refused refused.state.queue false
    split
    · exact left
    · exact left

theorem waiting_cascadeFail (store : StateStore) (uid : String) :
    waiting (store.cascadeFail config uid).1 ≤ waiting store := by
  unfold cascadeFail
  dsimp only
  split
  · exact Nat.le_refl _
  · apply waiting_settleBatch
    intro store uid metadata
    rfl

/-- A strike that does not crash has archived the job, which is not put back. -/
theorem waiting_strike {reason : String} {snapshot : Option Record} {attemptId : Option Int} {signal : Signal}
    (ended : store.handleCommitFailureStrike config uid reason snapshot attemptId = (after, signal))
    (calm : ∀ message, signal ≠ .commitCrash message) : waiting after = waiting store := by
  unfold handleCommitFailureStrike at ended
  dsimp only at ended
  split at ended
  · split at ended
    · rename_i committed took
      obtain ⟨rfl, -⟩ := Prod.mk.inj ended
      rw [waiting_alike (alike_fireAttemptFinished _ _ _), waiting_alike (alike_finishAttempt _ _ _ _),
        waiting_alike (alike_recordStat _ _ _), waiting_markFailedMemory, waiting_commit took]
    · exact absurd (Prod.mk.inj ended).2.symm (calm _)
  · exact absurd (Prod.mk.inj ended).2.symm (calm _)

theorem waiting_applyFailure {snapshot metadata : Record} {countAs : StatKey} {attemptId : Option Int}
    {answer : Except Signal Record}
    (ended : store.applyFailure config uid metadata snapshot countAs attemptId = (after, answer))
    (calm : ∀ message, answer ≠ .error (.commitCrash message)) : waiting after ≤ waiting store := by
  unfold applyFailure at ended
  dsimp only at ended
  split at ended
  · rename_i committed took
    have marked := @waiting_cascadeFail _ config (((committed.markFailedMemory config uid
      (store.normalize config metadata) true).recordStat countAs 1).finishAttempt attemptId .failed
        (attemptError (store.normalize config metadata))) uid
    rw [waiting_alike (alike_finishAttempt _ _ _ _), waiting_alike (alike_recordStat _ _ _),
      waiting_markFailedMemory, waiting_commit took] at marked
    split at ended
    · rename_i raised signal cascading
      rw [cascading] at marked
      obtain ⟨rfl, -⟩ := Prod.mk.inj ended
      exact marked
    · rename_i cascaded done cascading
      rw [cascading] at marked
      obtain ⟨rfl, -⟩ := Prod.mk.inj ended
      exact marked
  · rename_i refused took
    obtain ⟨rfl, rfl⟩ := Prod.mk.inj ended
    rw [← waiting_commit took]
    apply le_of_eq
    apply waiting_strike rfl
    intro message crashed
    exact calm message (congrArg Except.error crashed)

/-- A rejection that raises nothing. -/
theorem waiting_rejectAndCommit {snapshot metadata : Record} {countAs : StatKey} {attemptId : Option Int}
    (ended : store.rejectAndCommit config uid snapshot metadata countAs attemptId = (after, none)) :
    waiting after ≤ waiting store := by
  unfold StateStore.rejectAndCommit at ended
  split at ended
  · rename_i failed archived applied
    obtain ⟨rfl, -⟩ := Prod.mk.inj ended
    rw [waiting_alike (alike_fireAttemptFinished _ _ _)]
    exact waiting_applyFailure applied (fun _ crashed => by cases crashed)
  · rename_i struck message applied
    obtain ⟨rfl, -⟩ := Prod.mk.inj ended
    exact waiting_applyFailure applied (fun _ crashed => by cases crashed)
  · cases (Prod.mk.inj ended).2

theorem waiting_applySkip {snapshot : Option Record} {attemptId : Option Int} {done : Unit}
    (ended : store.applySkip uid snapshot attemptId = (after, .ok done)) : waiting after ≤ waiting store := by
  unfold applySkip at ended
  split at ended
  · rename_i committed took
    obtain ⟨rfl, -⟩ := Prod.mk.inj ended
    rw [waiting_alike (alike_finishAttempt _ _ _ _), waiting_alike (alike_recordStat _ _ _), ← waiting_commit took]
    unfold waiting mapState PipelineState.removeQueuedUid
    dsimp only
    split
    · exact Nat.le_refl _
    · exact (Fresh.without_sublist _ _).length_le
  · cases (Prod.mk.inj ended).2

end Store

section Dispatch

variable [Python] {config : StoreConfig} {engine after : EngineRuntime}

/-- How many rows wait in the memory of an engine. -/
abbrev left (engine : EngineRuntime) : ℕ := waiting engine.runtime.store

theorem left_popped {idx : ℕ} {row : Record} {state : PipelineState}
    (popped : engine.runtime.store.state.popJob idx = some (row, state)) :
    left (engine.mapStore fun store => { store with state := state }) < left engine := by
  obtain ⟨other, found, same⟩ := Option.map_eq_some_iff.mp popped
  obtain ⟨rfl, rfl⟩ := Prod.mk.inj same
  obtain ⟨inside, -⟩ := List.getElem?_eq_some_iff.mp found
  show (engine.runtime.store.state.queue.eraseIdx idx).length < engine.runtime.store.state.queue.length
  rw [List.length_eraseIdx_of_lt inside]
  omega

omit [Python] in
theorem left_fillIn (engine : EngineRuntime) (idx : ℕ) (taskType : Json) :
    left (engine.fillIn config idx taskType) = left engine :=
  List.length_modify _ _ _

omit [Python] in
theorem left_openAttempt (engine : EngineRuntime) (job : Job) (openFault : Option String) :
    left (engine.openAttempt job openFault).1 = left engine := by
  obtain ⟨-, -, state, -⟩ := Hooks.openAttempt_same engine job openFault
  unfold left waiting
  rw [state]

theorem left_rejectAndCommit {uid : String} {row metadata : Record} {countAs : StatKey} {attemptId : Option Int}
    (ended : engine.rejectAndCommit config uid row metadata countAs attemptId = (after, none)) :
    left after ≤ left engine := by
  unfold EngineRuntime.rejectAndCommit at ended
  dsimp only at ended
  obtain ⟨rfl, none⟩ := Prod.mk.inj ended
  exact waiting_rejectAndCommit (Prod.ext rfl none)

theorem left_dispatchDepFailed {idx : ℕ} {pendingDepFailure : Option String} {launching : Launching}
    (ended : engine.dispatchDepFailed config idx pendingDepFailure launching = (after, none)) :
    left after < left engine := by
  unfold dispatchDepFailed at ended
  split at ended
  · cases (Prod.mk.inj ended).2
  · rename_i row state popped
    have gone := left_popped popped
    dsimp only at ended
    split at ended
    · cases (Prod.mk.inj ended).2
    · rename_i job parsed
      have opened := left_openAttempt (engine.mapStore fun store => { store with state := state }) job
        launching.openFault
      split at ended
      · obtain ⟨rfl, -⟩ := Prod.mk.inj ended
        rwa [opened]
      · have rejected := left_rejectAndCommit ended
        omega

theorem left_dispatchSkip {row : Record} {job : Job} {launching : Launching}
    (ended : engine.dispatchSkip row job launching = (after, none)) : left after ≤ left engine := by
  have opened := left_openAttempt engine job launching.openFault
  unfold dispatchSkip at ended
  dsimp only at ended
  split at ended
  · rename_i store done applied
    obtain ⟨rfl, -⟩ := Prod.mk.inj ended
    exact (waiting_applySkip applied).trans opened.le
  · cases (Prod.mk.inj ended).2

theorem left_settle (engine : EngineRuntime) (uid : String) :
    left { engine with runtime := engine.runtime.settle uid } = left engine := by
  unfold left Runtime.settle Runtime.mapStore
  dsimp only
  split
  · rfl
  · rfl

theorem left_handleDispatchFailure {row : Record} {job : Job} {attemptId : Option Int} {message : String}
    (ended : engine.handleDispatchFailure config row job attemptId message = (after, none)) :
    left after ≤ left engine := by
  unfold handleDispatchFailure at ended
  dsimp only at ended
  split at ended
  · exact (left_rejectAndCommit ended).trans (left_settle engine job.uid).le
  · cases (Prod.mk.inj ended).2

/-- What is done about an exception of the start either raises or takes the job out, unless it was a rate. -/
theorem left_handleFault {row : Record} {job : Job} {attemptId : Option Int} {fault : Fault}
    (ended : engine.handleFault config row job attemptId fault = (after, none))
    (other : ∀ message, fault ≠ .rateLimited message) : left after ≤ left engine := by
  cases fault with
  | crash signal => cases (Prod.mk.inj ended).2
  | asserted message => cases (Prod.mk.inj ended).2
  | interrupted =>
    dsimp only [handleFault] at ended
    split at ended
    · cases (Prod.mk.inj ended).2
    · cases (Prod.mk.inj ended).2
  | rateLimited message => exact absurd rfl (other message)
  | failed message => exact left_handleDispatchFailure ended

theorem left_spawnEntry {row : Record} {job : Job} {attemptId : Option Int} {execution : Text} {launching : Launching}
    {result : Except Fault (Option InFlightJob)}
    (ended : engine.spawnEntry config row job attemptId execution launching = (after, result))
    (calm : ∀ signal, result ≠ .error (.crash signal)) : left after ≤ left engine := by
  unfold spawnEntry at ended
  split at ended
  · obtain ⟨rfl, -⟩ := Prod.mk.inj ended
    exact Nat.le_refl _
  · dsimp only at ended
    split at ended
    · split at ended
      · rename_i rejecting
        obtain ⟨rfl, -⟩ := Prod.mk.inj ended
        have rejected := left_rejectAndCommit rejecting
        exact rejected
      · obtain ⟨-, rfl⟩ := Prod.mk.inj ended
        exact absurd rfl (calm _)
    · -- a start that is not rejected leaves the rows of the queue alone
      have same : left after = left engine := by
        split at ended
        case h_6 =>
          split at ended
          · exact (congrArg left (Prod.mk.inj ended).1.symm).trans rfl
          · exact (congrArg left (Prod.mk.inj ended).1.symm).trans rfl
        all_goals exact (congrArg left (Prod.mk.inj ended).1.symm).trans rfl
      exact same.le

section Deferral

/-- The reservation of a job is refused for a rate, after the signals have been drained. -/
def RateRefused (resources : ResourceManager) (job : Job) (launching : Launching) : Prop :=
  ∃ name wait, ((resources.applySuspendSignals launching.drained launching.signals).reserve launching.reserved
    job.taskType.val (job.resources.map Dict.entries) job.uid).2 = .error (.rateLimitUnavailable name wait)

/-- A job that is to run goes back to the queue for a while: an orphan holds its lock, or a rate is not available. -/
def Postponed (config : StoreConfig) (resources : ResourceManager) (job : Job) (launching : Launching) : Prop :=
  launching.openFault = none ∧ config.tasks.contains job.taskType.val = true ∧ (job.uid ∈ launching.held ∨
    launching.cleanupFault = none ∧ RateRefused resources job launching)

theorem rateRefused_of_spawnEntry {row : Record} {job : Job} {attemptId : Option Int} {execution : Text}
    {launching : Launching} {resources : ResourceManager} {message : String}
    (drained : engine.runtime.resources = resources.applySuspendSignals launching.drained launching.signals)
    (ended : engine.spawnEntry config row job attemptId execution launching =
      (after, .error (.rateLimited message))) :
    RateRefused resources job launching := by
  unfold RateRefused
  rw [← drained]
  unfold spawnEntry at ended
  split at ended
  · rename_i manager refusal reserving
    rw [reserving]
    cases refusal with
    | rateLimitUnavailable name wait => exact ⟨name, wait, rfl⟩
    | notRegistered name => cases (Prod.mk.inj ended).2
    | negativeAmount amount => cases (Prod.mk.inj ended).2
    | exceedsCapacity amount capacity => cases (Prod.mk.inj ended).2
  · dsimp only at ended
    split at ended
    · split at ended
      · cases (Prod.mk.inj ended).2
      · cases (Prod.mk.inj ended).2
    · split at ended
      case h_6 =>
        split at ended
        · cases (Prod.mk.inj ended).2
        · cases (Prod.mk.inj ended).2
      all_goals cases (Prod.mk.inj ended).2

/-- The gates behind the trace take a job out unless it is postponed. -/
theorem left_dispatchOpened {row : Record} {job : Job} {attemptId : Option Int} {execution : Text}
    {launching : Launching} {entry : Option InFlightJob}
    (ended : engine.dispatchOpened config row job attemptId execution launching = (after, .ok entry))
    (clear : launching.openFault = none) (kept : ¬ Postponed config engine.runtime.resources job launching) :
    left after ≤ left engine := by
  unfold dispatchOpened at ended
  split at ended
  · unfold handled at ended
    obtain ⟨same, answer⟩ := Prod.mk.inj ended
    split at answer
    · rename_i calm
      exact left_rejectAndCommit (Prod.ext same calm)
    · cases answer
  · rename_i registered
    rw [Bool.not_eq_false] at registered
    split at ended
    · rename_i orphaned
      exact absurd ⟨clear, registered, .inl orphaned⟩ kept
    · dsimp only at ended
      split at ended
      · cases (Prod.mk.inj ended).2
      · rename_i swept
        split at ended
        · rename_i spawned entry spawning
          obtain ⟨rfl, -⟩ := Prod.mk.inj ended
          have started := left_spawnEntry spawning (fun signal crashed => by cases crashed)
          exact started
        · rename_i faulty fault spawning
          obtain ⟨same, answer⟩ := Prod.mk.inj ended
          split at answer
          · rename_i calm
            have dealt := left_handleFault (Prod.ext same calm) (by
              rintro message rfl
              exact kept ⟨clear, registered, .inr ⟨swept, rateRefused_of_spawnEntry rfl spawning⟩⟩)
            have started := left_spawnEntry spawning (by
              rintro signal crashed
              cases crashed
              cases calm)
            exact dealt.trans started
          · cases answer

theorem left_dispatchAdmitted {row : Record} {job : Job} {launching : Launching} {entry : Option InFlightJob}
    (ended : engine.dispatchAdmitted config row job launching = (after, .ok entry))
    (kept : ¬ Postponed config engine.runtime.resources job launching) : left after ≤ left engine := by
  obtain ⟨-, -, -, resources⟩ := Hooks.openAttempt_same engine job launching.openFault
  have traced := left_openAttempt engine job launching.openFault
  unfold dispatchAdmitted at ended
  split at ended
  · cases (Prod.mk.inj ended).2
  · rename_i opened attemptId execution opening
    rw [opening] at resources traced
    have clear : launching.openFault = none := by
      cases fault : launching.openFault with
      | none => rfl
      | some message =>
        rw [fault] at opening
        cases opening
    rw [← resources] at kept
    exact (left_dispatchOpened ended clear kept).trans traced.le

variable (config)

/-- The dispatch of a job that can run puts it back for a while. -/
def DefersRunnable (engine : EngineRuntime) (idx : ℕ) (launching : Launching) : Prop :=
  match (engine.runtime.store.state.queue[idx]?).bind fun row => row.get? "task_type" with
  | none => False
  | some taskType => match (engine.fillIn config idx taskType).runtime.store.state.popJob idx with
      | none => False
      | some (row, _) => match Job.fromDict row with
          | .error _ => False
          | .ok job => (1 < job.attemptNo.val ∨ launching.admission.toOption = some true) ∧
              Postponed config engine.runtime.resources job launching

/-- The dispatch puts the job that was chosen back for a while. -/
def DefersDispatch (engine : EngineRuntime) (sched : ScheduleResult) (launching : Launching) : Prop :=
  ∃ idx, sched.runnableIdx = some idx ∧ sched.kind ≠ .depFailed ∧ DefersRunnable config engine idx launching

variable {config}

theorem left_dispatchRunnable {idx : ℕ} {launching : Launching} {entry : Option InFlightJob}
    (ended : engine.dispatchRunnable config idx launching = (after, .ok entry))
    (kept : ¬ DefersRunnable config engine idx launching) : left after < left engine := by
  unfold dispatchRunnable at ended
  unfold DefersRunnable at kept
  split at ended
  · cases (Prod.mk.inj ended).2
  · rename_i taskType found
    rw [found] at kept
    dsimp only at ended kept
    split at ended
    · cases (Prod.mk.inj ended).2
    · rename_i row state popped
      have gone := left_popped popped
      rw [left_fillIn] at gone
      rw [popped] at kept
      dsimp only at ended kept
      split at ended
      · cases (Prod.mk.inj ended).2
      · rename_i job parsed
        rw [parsed] at kept
        dsimp only at kept
        split at ended
        · split at ended
          · cases (Prod.mk.inj ended).2
          · obtain ⟨same, answer⟩ := Prod.mk.inj ended
            split at answer
            · rename_i calm
              exact (left_dispatchSkip (Prod.ext same calm)).trans_lt gone
            · cases answer
          · rename_i admitted
            rw [admitted] at kept
            have stays : ¬ Postponed config engine.runtime.resources job launching := fun postponed =>
              kept ⟨.inr rfl, postponed⟩
            exact (left_dispatchAdmitted ended stays).trans_lt gone
        · rename_i later
          have stays : ¬ Postponed config engine.runtime.resources job launching := fun postponed =>
            kept ⟨.inl (by omega), postponed⟩
          exact (left_dispatchAdmitted ended stays).trans_lt gone

/-- A dispatch that raises nothing takes a row out of the queue for good, unless it puts the job back for a while. -/
theorem left_dispatchJob {sched : ScheduleResult} {idx : ℕ} {launching : Launching} {entry : Option InFlightJob}
    (chosen : sched.runnableIdx = some idx)
    (ended : engine.dispatchJob config sched launching = (after, .ok entry))
    (kept : ¬ DefersDispatch config engine sched launching) : left after < left engine := by
  unfold dispatchJob at ended
  rw [chosen] at ended
  dsimp only at ended
  split at ended
  · obtain ⟨same, answer⟩ := Prod.mk.inj ended
    split at answer
    · rename_i calm
      exact left_dispatchDepFailed (Prod.ext same calm)
    · cases answer
  · rename_i runnable
    exact left_dispatchRunnable ended (fun defers => kept ⟨idx, chosen, runnable, defers⟩)

theorem requeueTransient_state (store : StateStore) (row : Record) (transientKind : String) (attemptId : Option Int)
    (errorMessage : Option Json) : (store.requeueTransient config row transientKind attemptId errorMessage).state =
      store.state.requeueJobs [row] (config.planRequeue row (some transientKind)) := by
  unfold requeueTransient
  dsimp only
  rw [(alike_finishAttempt _ _ _ _).state]
  split
  · rfl
  · rfl

/-- A retry whose lock an orphan holds goes back to where the policy puts it, and nothing is raised. -/
theorem dispatchJob_held {sched : ScheduleResult} {idx : ℕ} {launching : Launching} {taskType : Json} {row : Record}
    {state : PipelineState} {job : Job} (chosen : sched.runnableIdx = some idx) (runnable : sched.kind ≠ .depFailed)
    (found : ((engine.runtime.store.state.queue[idx]?).bind fun row => row.get? "task_type") = some taskType)
    (popped : (engine.fillIn config idx taskType).runtime.store.state.popJob idx = some (row, state))
    (parsed : Job.fromDict row = .ok job) (later : 1 < job.attemptNo.val) (clear : launching.openFault = none)
    (registered : config.tasks.contains job.taskType.val = true) (held : job.uid ∈ launching.held) :
    ∃ after, engine.dispatchJob config sched launching = (after, .ok none) ∧
      after.runtime.store.state = state.requeueJobs [row] (config.planRequeue row (some "lock_conflict")) ∧
      after.runtime.resources = engine.runtime.resources ∧ after.machine = engine.machine := by
  unfold dispatchJob
  rw [chosen]
  dsimp only
  rw [if_neg runnable]
  unfold dispatchRunnable
  rw [found]
  dsimp only
  rw [popped]
  dsimp only
  rw [parsed]
  dsimp only
  rw [if_neg (by omega)]
  unfold dispatchAdmitted openAttempt
  rw [clear]
  dsimp only
  unfold dispatchOpened
  rw [if_neg (by rw [registered]; exact Bool.noConfusion), if_pos held]
  refine ⟨_, rfl, ?_, rfl, rfl⟩
  have traced := (Hooks.openAttempt_same ((engine.fillIn config idx taskType).mapStore fun store =>
    { store with state := state }) job none).2.2.1
  exact (requeueTransient_state _ row "lock_conflict" _ _).trans (congrArg (fun state : PipelineState =>
    state.requeueJobs [row] (config.planRequeue row (some "lock_conflict"))) traced)
end Deferral

end Dispatch

section Skips

variable [Python] {engine after : EngineRuntime}

theorem waiting_skipEach {rows : Dict String (Record × Job)} {seeds : List String} {runId : Option String}
    {items : List (String × ℕ × String)} {phase : SelectionMachine.Phase} {skipped : ℕ}
    {left : SelectionMachine.Phase} {done : ℕ}
    (ended : SelectionMachine.skipEach rows seeds runId items phase skipped = (left, .ok done)) :
    waiting left.store ≤ waiting phase.store := by
  induction items generalizing phase skipped with
  | nil =>
    obtain ⟨rfl, -⟩ := Prod.mk.inj ended
    exact Nat.le_refl _
  | cons item rest ih =>
    obtain ⟨uid, depth, root⟩ := item
    unfold SelectionMachine.skipEach at ended
    split at ended
    · exact ih ended
    · dsimp only at ended
      split at ended
      · cases (Prod.mk.inj ended).2
      · rename_i store done applied
        have later := ih ended
        unfold waiting at later
        rw [(SelectionMachine.recordAttemptSkip_frame _ _ _).1] at later
        exact later.trans (waiting_applySkip applied)

/-- Without skip rules the phase has nothing to skip. -/
theorem applySelectionSkips_of_none (engine : EngineRuntime)
    (ruleless : engine.machine.selection.hasSkipRules = false) :
    engine.applySelectionSkips = (engine, none) := by
  unfold applySelectionSkips SelectionMachine.applySkips
  simp only [ruleless, Bool.not_false, if_true]

theorem left_applySelectionSkips (ended : engine.applySelectionSkips = (after, none)) : left after ≤ left engine := by
  unfold applySelectionSkips SelectionMachine.applySkips at ended
  dsimp only at ended
  split at ended
  · obtain ⟨rfl, -⟩ := Prod.mk.inj ended
    exact Nat.le_refl _
  · obtain ⟨rfl, answer⟩ := Prod.mk.inj ended
    split at answer
    · rename_i done skipped
      exact waiting_skipEach (Prod.ext rfl skipped)
    · cases answer

end Skips

section Rounds

variable [Python] (config : StoreConfig) (orderingPolicy : OrderingPolicy) (limit : ℕ)

/-- The coming call of the dispatcher puts the job that it chooses back for a while. -/
def Defers (filling : Filling) (moment : Moment) : Prop :=
  filling.ended = none ∧ filling.dispatched < limit ∧
    (filling.engine.runtime.resources.canAcquireWorker moment.asked).1 = true ∧
      DefersDispatch config (filling.engine.foreseen moment)
        ((filling.engine.foreseen moment).scanned config orderingPolicy filling.jobCache moment).2 moment.launching

variable {config orderingPolicy limit} {filling : Filling} {moment : Moment}

theorem left_dispatchNext {engine after : EngineRuntime} {jobCache cached : JobCache} {outcome : DispatchOutcome}
    (ended : engine.dispatchNext config orderingPolicy jobCache moment = (after, cached, .ok outcome))
    (dealt : outcome.kind = .spawned ∨ outcome.kind = .handledNoSubprocess)
    (kept : (engine.runtime.resources.canAcquireWorker moment.asked).1 = true →
      ¬ DefersDispatch config engine (engine.scanned config orderingPolicy jobCache moment).2 moment.launching) :
    left after < left engine := by
  unfold dispatchNext at ended
  split at ended
  · cases ended
    rcases dealt with spawned | handled
    · cases spawned
    · cases handled
  · rename_i wait free
    dsimp only at ended
    split at ended
    · cases ended
      rcases dealt with spawned | handled
      · cases spawned
      · cases handled
    · rename_i candidate
      obtain ⟨idx, chosen⟩ := Option.ne_none_iff_exists'.mp (mt Option.isNone_iff_eq_none.mpr candidate)
      have stays := kept (by rw [free])
      split at ended
      · cases ended
      · rename_i handled dispatched
        cases ended
        exact left_dispatchJob chosen dispatched stays
      · rename_i spawned entry dispatched
        cases ended
        exact left_dispatchJob chosen dispatched stays

omit [Python] in
theorem convergeSkips_calls [Python] (filling : Filling) : filling.convergeSkips.calls = filling.calls := by
  unfold convergeSkips
  split
  · rfl
  · rfl

theorem convergeSkips_progress (filling : Filling) :
    filling.convergeSkips.ended.isSome ∨ left filling.convergeSkips.engine ≤ left filling.engine := by
  unfold convergeSkips
  split
  · rename_i engine skipped
    exact .inr (left_applySelectionSkips skipped)
  · exact .inl rfl

/-- Every round ends the phase, or it takes a row out of the queue, unless it puts a job back for a while. -/
theorem step_progress (going : filling.ended = none) (kept : ¬ Defers config orderingPolicy limit filling moment) :
    (step config orderingPolicy limit filling moment).ended.isSome ∨
      left (step config orderingPolicy limit filling moment).engine < left filling.engine := by
  unfold step
  rw [if_neg (by rw [going]; exact Bool.false_ne_true)]
  by_cases full : limit ≤ filling.dispatched
  · rw [if_pos full]
    exact .inl rfl
  · rw [if_neg full]
    have stays : ((filling.engine.foreseen moment).runtime.resources.canAcquireWorker moment.asked).1 = true →
        ¬ DefersDispatch config (filling.engine.foreseen moment)
          ((filling.engine.foreseen moment).scanned config orderingPolicy filling.jobCache moment).2
            moment.launching :=
      fun free defers => kept ⟨going, by omega, free, defers⟩
    split
    · exact .inl rfl
    · rename_i engine jobCache outcome asked
      have shorter := fun dealt => left_dispatchNext asked dealt stays
      dsimp only
      split
      · rename_i spawned
        exact .inr (shorter (.inl spawned))
      · rename_i handled
        rcases convergeSkips_progress _ with ended | skipped
        · exact .inl ended
        · exact .inr (skipped.trans_lt (shorter (.inr handled)))
      · exact .inl rfl
      · exact .inl rfl

theorem step_ended (finished : filling.ended.isSome) : step config orderingPolicy limit filling moment = filling := by
  unfold step
  rw [if_pos finished]

theorem step_full (full : limit ≤ filling.dispatched) :
    (step config orderingPolicy limit filling moment).ended.isSome ∧
    (step config orderingPolicy limit filling moment).calls = filling.calls := by
  by_cases finished : filling.ended.isSome = true
  · rw [step_ended finished]
    exact ⟨finished, rfl⟩
  · unfold step
    rw [if_neg finished, if_pos full]
    exact ⟨rfl, rfl⟩

/-- A round with room for another worker asks the dispatcher once. -/
theorem step_calls (going : filling.ended = none) (room : filling.dispatched < limit) :
    (step config orderingPolicy limit filling moment).calls = filling.calls + 1 := by
  unfold step
  rw [if_neg (by rw [going]; exact Bool.false_ne_true), if_neg (by omega)]
  split
  · rfl
  · dsimp only
    split
    · rfl
    · exact convergeSkips_calls _
    · rfl
    · rfl

end Rounds

section Phase

variable [Python] {config : StoreConfig} {orderingPolicy : OrderingPolicy} {limit : ℕ} {engine : EngineRuntime}
  {jobCache : JobCache} {moments : ℕ → Moment} {rounds : ℕ}

/-- As long as the phase goes on, it has asked the dispatcher once in every round. -/
theorem calls_of_going
    (going : (fillDispatchPool config orderingPolicy limit engine jobCache moments rounds).ended = none) :
    (fillDispatchPool config orderingPolicy limit engine jobCache moments rounds).calls = rounds := by
  induction rounds with
  | zero => rfl
  | succ rounds ih =>
    have before : (fillDispatchPool config orderingPolicy limit engine jobCache moments rounds).ended = none := by
      by_contra finished
      have ended := Option.isSome_iff_ne_none.mpr finished
      have same := @step_ended _ config orderingPolicy limit _ (moments rounds) ended
      exact finished (same ▸ going)
    have room : (fillDispatchPool config orderingPolicy limit engine jobCache moments rounds).dispatched < limit := by
      by_contra full
      have ended := (@step_full _ config orderingPolicy limit _ (moments rounds) (Nat.le_of_not_lt full)).1
      exact Option.isSome_iff_ne_none.mp ended going
    have asked := @step_calls _ config orderingPolicy limit _ (moments rounds) before room
    rwa [ih before] at asked

/-- Once it has ended, nothing changes. -/
theorem fill_stays (finished : (fillDispatchPool config orderingPolicy limit engine jobCache moments rounds).ended.isSome)
    {later : ℕ} (after : rounds ≤ later) :
    fillDispatchPool config orderingPolicy limit engine jobCache moments later =
      fillDispatchPool config orderingPolicy limit engine jobCache moments rounds := by
  induction later, after using Nat.le_induction with
  | base => rfl
  | succ later after ih =>
    rw [← ih] at finished
    exact (step_ended finished).trans ih

theorem calls_le : (fillDispatchPool config orderingPolicy limit engine jobCache moments rounds).calls ≤ rounds := by
  induction rounds with
  | zero => exact Nat.le_refl _
  | succ rounds ih =>
    set filling := fillDispatchPool config orderingPolicy limit engine jobCache moments rounds with reached
    show (step config orderingPolicy limit filling (moments rounds)).calls ≤ rounds + 1
    rcases Nat.lt_or_ge filling.dispatched limit with room | full
    · cases ended : filling.ended with
      | none =>
        rw [step_calls ended room]
        omega
      | some ending =>
        rw [step_ended (by rw [ended]; rfl)]
        omega
    · rw [(step_full full).2]
      omega

theorem ended_iff_finite :
    (∃ rounds, (fillDispatchPool config orderingPolicy limit engine jobCache moments rounds).ended.isSome) ↔
    ∃ bound, ∀ rounds, (fillDispatchPool config orderingPolicy limit engine jobCache moments rounds).calls ≤ bound := by
  constructor
  · rintro ⟨ending, finished⟩
    refine ⟨ending, fun rounds => ?_⟩
    rcases Nat.le_total rounds ending with early | late
    · exact calls_le.trans early
    · rw [fill_stays finished late]
      exact calls_le
  · rintro ⟨bound, bounded⟩
    by_contra goes
    have going : (fillDispatchPool config orderingPolicy limit engine jobCache moments (bound + 1)).ended = none := by
      by_contra finished
      exact goes ⟨bound + 1, Option.isSome_iff_ne_none.mpr finished⟩
    have many := bounded (bound + 1)
    rw [calls_of_going going] at many
    omega

variable (config orderingPolicy limit engine jobCache moments)

end Phase

section Sample

local instance : Python := Lifecycle.samplePython

/-- A row on its second attempt. -/
def lockedRow : Record := StateStore.normalizeJobSnapshot Tracing.servingConfig
  (Lifecycle.namedRow.set "attempt_no" (.int 2)) "t"

/-- The fill phase over that row, after any number of rounds. -/
structure Locked (filling : Filling) : Prop where
  going : filling.ended = none
  dispatched : filling.dispatched = 0
  state : filling.engine.runtime.store.state = PipelineState.init Dict.empty Dict.empty Dict.empty [lockedRow]
  resources : filling.engine.runtime.resources = Lifecycle.sampleResources
  machine : filling.engine.machine = ⟨⟨[]⟩, ∅⟩
  jobCache : filling.jobCache = Dict.empty ∨ filling.jobCache = Dict.ofPairs [(("t", "a"), ⟨"t::a", "t", [], []⟩)]

def lockedMoment : Moment := { now := Lifecycle.sampleNow, launching := { held := {"t::a"} } }

theorem lockedRow_parses : ∃ job, Job.fromDict lockedRow = .ok job ∧ 1 < job.attemptNo.val ∧ job.uid = "t::a" ∧
    job.taskType.val = "t" := by
  have parsed : (Job.fromDict lockedRow).toOption.any (fun job =>
      1 < job.attemptNo.val ∧ job.uid = "t::a" ∧ job.taskType.val = "t") = true := by decide +kernel
  cases parses : Job.fromDict lockedRow with
  | error refusal =>
    rw [parses] at parsed
    cases parsed
  | ok job =>
    rw [parses] at parsed
    exact ⟨job, rfl, by simpa [Except.toOption] using parsed⟩

theorem locked_scanned (jobCache : JobCache) (known : jobCache = Dict.empty ∨
    jobCache = Dict.ofPairs [(("t", "a"), ⟨"t::a", "t", [], []⟩)]) :
    let scan := (JobScheduler.mk Lifecycle.sampleResources fifoOrderingPolicy ⟨[]⟩ jobCache).scanNextRunnable
      (PipelineState.init Dict.empty Dict.empty Dict.empty [lockedRow]) ∅ fun _ => 0
    scan.1.jobCache = Dict.ofPairs [(("t", "a"), ⟨"t::a", "t", [], []⟩)] ∧ scan.2.runnableIdx = some 0 ∧
      scan.2.kind = .runnable := by
  rcases known with rfl | rfl
  · decide +kernel
  · decide

theorem locked_popped {engine : EngineRuntime}
    (state : engine.runtime.store.state = PipelineState.init Dict.empty Dict.empty Dict.empty [lockedRow]) :
    (engine.fillIn Tracing.servingConfig 0 (.str "t")).runtime.store.state.popJob 0 =
      some (lockedRow, PipelineState.init Dict.empty Dict.empty Dict.empty []) := by
  show PipelineState.popJob { engine.runtime.store.state with
    queue := engine.runtime.store.state.queue.modify 0 fun row =>
      StateStore.normalizeJobSnapshot Tracing.servingConfig row "t" } 0 = _
  rw [state]
  have filled : StateStore.normalizeJobSnapshot Tracing.servingConfig lockedRow "t" = lockedRow := by decide
  unfold PipelineState.init PipelineState.popJob
  simp only [List.modify_zero_cons, filled, List.getElem?_cons_zero, Option.map_some]
  have uids : (PipelineState.uidsOf [lockedRow]).erase (jobUidFromSnapshot lockedRow) = PipelineState.uidsOf [] := by
    decide
  simp only [uids, List.eraseIdx_cons_zero, PipelineState.require]
  rfl

theorem locked_requeued : (PipelineState.init Dict.empty Dict.empty Dict.empty []).requeueJobs [lockedRow] true =
    PipelineState.init Dict.empty Dict.empty Dict.empty [lockedRow] := by
  unfold PipelineState.requeueJobs PipelineState.spawnJobs
  rfl

/-- The orphan of the only job keeps its lock. -/
theorem locked_step {filling : Filling} (locked : Locked filling) :
    Locked (step Tracing.servingConfig fifoOrderingPolicy 1 filling lockedMoment) := by
  obtain ⟨going, dispatched, queued, resources, machine, known⟩ := locked
  set engine := filling.engine.foreseen lockedMoment with seen
  have state : engine.runtime.store.state = PipelineState.init Dict.empty Dict.empty Dict.empty [lockedRow] := queued
  obtain ⟨cached, chosen, runnable⟩ := locked_scanned filling.jobCache known
  obtain ⟨job, parsed, later, uid, taskType⟩ := lockedRow_parses
  have scan : engine.scanned Tracing.servingConfig fifoOrderingPolicy filling.jobCache lockedMoment =
      (JobScheduler.mk Lifecycle.sampleResources fifoOrderingPolicy ⟨[]⟩ filling.jobCache).scanNextRunnable
        (PipelineState.init Dict.empty Dict.empty Dict.empty [lockedRow]) ∅ fun _ => 0 := by
    unfold scanned schedulerOf
    rw [state]
    show JobScheduler.scanNextRunnable ⟨filling.engine.runtime.resources, _, _, _⟩ _ _ _ = _
    rw [resources]
    rfl
  rw [← scan] at cached chosen runnable
  obtain ⟨after, dispatching, left, same, rules⟩ := @dispatchJob_held _ Tracing.servingConfig engine
    (engine.scanned Tracing.servingConfig fifoOrderingPolicy filling.jobCache lockedMoment).2 0 lockedMoment.launching
    (.str "t") lockedRow (PipelineState.init Dict.empty Dict.empty Dict.empty []) job chosen
    (by rw [runnable]; decide) (by rw [state]; rfl)
    (locked_popped state) parsed later rfl (by rw [taskType]; rfl) (by rw [uid]; decide)
  have asked : engine.dispatchNext Tracing.servingConfig fifoOrderingPolicy filling.jobCache lockedMoment =
      (after, Dict.ofPairs [(("t", "a"), ⟨"t::a", "t", [], []⟩)], .ok { kind := .handledNoSubprocess }) := by
    unfold dispatchNext
    have free : engine.runtime.resources.canAcquireWorker lockedMoment.asked = (true, 0) := by
      show filling.engine.runtime.resources.canAcquireWorker _ = _
      rw [resources]
      rfl
    rw [free]
    dsimp only
    rw [chosen, dispatching, cached]
    rfl
  unfold step
  rw [if_neg (by rw [going]; exact Bool.false_ne_true), if_neg (by omega), asked]
  dsimp only
  have skipless := applySelectionSkips_of_none after (by rw [rules, show engine.machine = _ from machine]; rfl)
  unfold convergeSkips
  dsimp only
  rw [skipless]
  exact ⟨going, dispatched, left.trans locked_requeued, same.trans resources, rules.trans machine, .inr rfl⟩

end Sample

end Filling

end Tasklite.Engine
