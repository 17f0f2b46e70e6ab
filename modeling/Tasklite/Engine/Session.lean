import Tasklite.Engine.Attempts
import Tasklite.Engine.Lifecycle
import Tasklite.Models.Identity

/-! A run as the dispatcher drives it: the rows that are popped are those that a scan
has chosen, and the trace of an execution is opened while its row is in hand. -/

namespace Tasklite.Engine.Session
open Tasklite.Library Tasklite.Models Tasklite.Models.Identity Tasklite.Engine.Lifecycle

variable [Python] (config : StoreConfig)

inductive Action where
  | operate (operation : Operation)
  /-- Open the trace of the job in hand. -/
  | openAttempt (executionId : Text)

def step (run : Run) : Action → Run
  | .operate operation => Lifecycle.step config run operation
  | .openAttempt executionId =>
      match run.crashed, run.hand with
      | false, some (_, job) => run.mapStore fun store =>
          (store.recordAttemptDispatch job executionId run.runtime.runId).1
      | _, _ => run

/-- The projections in a cache are filed under their own task type. A cache that starts empty keeps this up. -/
def Filed (cache : JobCache) : Prop := ∀ key facts, cache.get? key = some facts → facts.taskType = key.1

/-- A scan of the state, at some readings of the clock, has chosen this place of the queue. -/
def Scanned (state : PipelineState) (idx : ℕ) : Prop :=
  ∃ (scheduler : JobScheduler) (clock : ℕ → ℚ), scheduler.selection = config.selection ∧
    Filed scheduler.jobCache ∧ (scheduler.scanNextRunnable state state.inFlightUids clock).2.runnableIdx = some idx

/-- What the loop sees to before it acts: a row is popped after a scan has chosen it, and jobs are skipped by
the selection only when it has a rule that skips. -/
def Driven (run : Run) : Action → Prop
  | .operate (.pop idx _) | .operate (.popDepFailed idx) => Scanned config run.runtime.store.state idx
  | .operate (.selectionSkip _) => config.selection.hasSkipRules = true
  | _ => True

section Scan

variable {config} {scheduler : JobScheduler} {state : PipelineState} {clock : ℕ → ℚ}

omit [Python] in
theorem filed_empty : Filed (Dict.empty : JobCache) := by
  intro key facts found
  cases found

/-- What the cache answers for a row has the task type of the row. -/
theorem cachedJob_filed {cache : JobCache} {row : Record} (filed : Filed cache) :
    Filed (cachedJob cache row).1 ∧ ∀ facts, (cachedJob cache row).2 = .ok facts →
      ∀ job, Job.fromDict row = .ok job → facts.taskType = job.taskType.val := by
  have parsed : ∀ facts, JobFacts.fromJobSnapshot row = .ok facts → ∃ job, Job.fromDict row = .ok job ∧
      facts.taskType = job.taskType.val := by
    intro facts read
    obtain ⟨job, built, same⟩ := JobFacts.fromJobSnapshot_eq read
    exact ⟨job, built, by rw [same]; rfl⟩
  have own : ∀ facts, JobFacts.fromJobSnapshot row = .ok facts →
      ∀ job, Job.fromDict row = .ok job → facts.taskType = job.taskType.val := by
    intro facts read job built
    obtain ⟨other, same, typed⟩ := parsed facts read
    rw [built] at same
    rw [typed, Except.ok.inj same]
  unfold cachedJob
  split
  · rename_i taskType jobId typed named
    have agrees : ∀ job, Job.fromDict row = .ok job → job.taskType.val = taskType := by
      intro job built
      obtain ⟨fields, -⟩ := fromDict_ok built
      rw [typed] at fields
      exact (Json.str.inj fields).symm
    split
    · rename_i facts hit
      refine ⟨filed, fun cached same job built => ?_⟩
      rw [← Except.ok.inj same, agrees job built]
      exact filed _ _ (Option.filter_eq_some_iff.mp hit).1
    · split
      · rename_i refusal failed
        exact ⟨filed, by simp⟩
      · rename_i facts read
        refine ⟨fun key cached found => ?_, fun cached same => ?_⟩
        · rw [Dict.get?_set] at found
          split at found
          · rename_i same
            obtain ⟨job, built, kind⟩ := parsed facts read
            rw [← Option.some.inj found, same, kind, agrees job built]
          · split at found
            · cases found
            · exact filed _ _ found
        · rw [← Except.ok.inj same]
          exact own facts read
  · exact ⟨filed, own⟩

/-- The row at a place is of a type that may run. -/
def Permitted (selection : Selection) (state : PipelineState) (idx : ℕ) : Prop :=
  ∀ row job, state.queue[idx]? = some row → Job.fromDict row = .ok job → selection.isActive = true →
    selection.allowsTaskType job.taskType.val = true

theorem permitted_of_judge {row : Record} {inFlight : Finset String} {now : ℚ} {read : Except PyError JobFacts}
    {idx : ℕ} (place : state.queue[idx]? = some row)
    (typed : ∀ facts, read = .ok facts → ∀ job, Job.fromDict row = .ok job → facts.taskType = job.taskType.val)
    (chosen : scheduler.judge state inFlight now row read = .runnable ∨
      ∃ uid, scheduler.judge state inFlight now row read = .dependencyFailed uid) :
    Permitted scheduler.selection state idx := by
  intro other job found built active
  rw [place] at found
  cases found
  cases read with
  | error refusal => simp [JobScheduler.judge] at chosen
  | ok facts =>
    by_contra barred
    have passed : (scheduler.selection.isActive && !scheduler.selection.allowsTaskType facts.taskType) = true := by
      rw [typed facts rfl job built]
      simpa [active] using barred
    simp [JobScheduler.judge, passed] at chosen

theorem permitted_of_scanRows {inFlight : Finset String} {order : List (Fin state.queue.length)} {cache : JobCache}
    {tally : Tally} (filed : Filed cache)
    (before : ∀ uid idx, tally.pendingDepFailure = some (uid, idx) → Permitted scheduler.selection state idx) :
    let scanned := scheduler.scanRows state inFlight clock order cache tally
    (∀ idx, scanned.2.2 = some idx → Permitted scheduler.selection state idx) ∧
      ∀ uid idx, scanned.2.1.pendingDepFailure = some (uid, idx) → Permitted scheduler.selection state idx := by
  induction order generalizing cache tally with
  | nil => exact ⟨by simp [JobScheduler.scanRows], before⟩
  | cons place rest ih =>
    have row : state.queue[(place : ℕ)]? = some (state.queue.get place) := by simp
    obtain ⟨still, typed⟩ := @cachedJob_filed _ cache (state.queue.get place) filed
    rcases read : cachedJob cache (state.queue.get place) with ⟨next, parsed⟩
    rw [read] at still typed
    have noted : ∀ uid idx, (tally.record place (scheduler.judge state inFlight (clock place)
        (state.queue.get place) parsed)).pendingDepFailure = some (uid, idx) →
        Permitted scheduler.selection state idx := by
      intro uid idx pending
      cases judged : scheduler.judge state inFlight (clock place) (state.queue.get place) parsed with
      | dependencyFailed failed =>
        rw [judged] at pending
        simp only [Tally.record] at pending
        cases earlier : tally.pendingDepFailure with
        | some found =>
          rw [earlier, Option.some_or] at pending
          exact before uid idx (earlier.trans pending)
        | none =>
          rw [earlier, Option.none_or] at pending
          cases pending
          exact permitted_of_judge row typed (.inr ⟨_, judged⟩)
      | _ =>
        rw [judged] at pending
        exact before uid idx pending
    simp only [JobScheduler.scanRows, read]
    split
    · rename_i runs
      refine ⟨fun idx found => ?_, noted⟩
      cases found
      exact permitted_of_judge row typed (.inl runs)
    · exact ih still noted

/-- A scan never chooses a row that the selection does not let run. -/
theorem permitted_of_scanned {idx : ℕ} (scanned : Scanned config state idx) :
    Permitted config.selection state idx := by
  obtain ⟨scheduler, clock, shared, filed, chosen⟩ := scanned
  obtain ⟨found, pending⟩ := @permitted_of_scanRows _ scheduler state clock state.inFlightUids
    (scheduler.orderingPolicy state.queue) scheduler.jobCache {} filed (by simp)
  rw [← shared]
  simp only [JobScheduler.scanNextRunnable, Option.or_eq_some_iff, Option.map_eq_some_iff] at chosen
  rcases chosen with runs | ⟨-, ⟨uid, failed⟩, noted, rfl⟩
  · exact found idx runs
  · exact pending uid failed noted

end Scan

end Tasklite.Engine.Session
