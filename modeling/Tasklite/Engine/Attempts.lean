import Tasklite.Engine.Store
import Tasklite.Utils.Clock

/-! The traces of executions as the store writes and reads them: the row that is opened
when a job is dispatched, and the time of the last success that both the archive and
the traces vouch for. -/

namespace Tasklite.Engine
open Tasklite.Library Tasklite.Models Tasklite.Utils

theorem uid_ne_empty (job : Job) : job.uid ≠ "" := by
  intro empty
  have letters := congrArg String.length empty
  simp only [Job.uid, String.length_append] at letters
  have separator : "::".length = 2 := rfl
  have nothing : "".length = 0 := rfl
  omega

namespace StateStore

/-- The running row of a job that is dispatched. Without a run id there is none. -/
def dispatchRecord (store : StateStore) (job : Job) (executionId runId : Text) : AttemptRecord where
  jobUid := ⟨job.uid, uid_ne_empty job⟩
  activationNo := job.activationNo
  attemptNo := job.attemptNo
  executionId := executionId
  runId := runId
  startedAt := store.now
  outcome := .running

def recordAttemptDispatch (store : StateStore) (job : Job) (executionId : Text) (runId : Option String) :
    StateStore × Option ℕ :=
  match runId with
  | none => (store, none)
  | some run =>
      if given : run = "" then (store, none)
      else
        let (backend, attemptId) := store.backend.appendAttempt (store.dispatchRecord job executionId ⟨run, given⟩)
        ({ store with backend := backend }, attemptId)

theorem skip_execution_ne_empty (runId : String) (dispatchNo : ℕ) :
    runId ++ ".skip." ++ toString dispatchNo ≠ "" := by
  intro empty
  have letters := congrArg String.length empty
  simp only [String.length_append] at letters
  have marker : ".skip.".length = 6 := rfl
  have nothing : "".length = 0 := rfl
  omega

/-- The trace of a job that the selection skips: a running row, finished at once. Whatever goes wrong there is
only logged. -/
def recordAttemptSkip (store : StateStore) (job : Job) (errorMessage : String) (runId : Option String)
    (dispatchNo : ℕ) : StateStore :=
  match runId with
  | none => store
  | some run =>
      if given : run = "" then store
      else
        let executionId : Text := ⟨run ++ ".skip." ++ toString dispatchNo, skip_execution_ne_empty run dispatchNo⟩
        match store.backend.appendAttempt (store.dispatchRecord job executionId ⟨run, given⟩) with
        | (backend, none) => { store with backend := backend }
        | (backend, some attemptId) => { store.noteCall (.update attemptId (backend.attempts.get? attemptId)) with
            backend := (backend.updateAttempt attemptId .skipped store.now.val (some errorMessage)).1 }

section Baseline

variable (fromisoformat : String → Option DateTime)

/-- The time of a success as the framework has written it into the metadata; nothing for metadata of any
other origin. -/
def extractTrustedMetadataTimestampUs (metadata : Option Record) : Option ℤ :=
  match metadata with
  | none => none
  | some found =>
      match Record.get found "success_count", Record.get found "last_succeeded_at" with
      | .int count, .str stamp =>
          if count < 1 then none
          else if found.contains "last_success_run_id" then
            match Record.get found "last_success_run_id" with
            | .str run => if run = "" then none else parseUtcIsoToUs fromisoformat stamp
            | _ => none
          else parseUtcIsoToUs fromisoformat stamp
      | _, _ => none

/-- When a job last succeeded, if the archive and the traces agree on it. -/
def trustedLastSucceededAtUs (store : StateStore) (jobUid : String) : Option ℤ :=
  match extractTrustedMetadataTimestampUs fromisoformat (store.state.successes.get? jobUid) with
  | none => none
  | some archived =>
      match (store.backend.loadLatestSucceededFinishedAt jobUid).bind (parseUtcIsoToUs fromisoformat) with
      | none => none
      | some traced => if archived ≠ traced then none else some traced

end Baseline

end StateStore

end Tasklite.Engine
