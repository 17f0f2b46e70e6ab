import Tasklite.Models.Json

/-! The trace of one physical execution: a row that is inserted when the execution is
dispatched and finished once. -/

namespace Tasklite.Models

inductive Outcome where
  | running
  | succeeded
  | failed
  | requeued
  | skipped
deriving DecidableEq, Repr

/-- Text that is not empty. -/
abbrev Text := {text : String // text ≠ ""}

/-- An attempt that its constructor accepted. -/
structure AttemptRecord where
  jobUid : Text
  activationNo : {n : ℕ // 1 ≤ n}
  attemptNo : {n : ℕ // 1 ≤ n}
  executionId : Text
  runId : Text
  startedAt : Text
  outcome : Outcome
  finishedAt : Option Text := none
  errorMessage : Option Text := none
deriving DecidableEq

/-- An insert is a fresh running row; the fields of its end are written by nothing but the update. -/
def validateAttemptDispatch (record : AttemptRecord) : Bool :=
  record.outcome = .running ∧ record.finishedAt = none ∧ record.errorMessage = none

/-- The fields that finish an attempt, checked. -/
structure AttemptFinish where
  outcome : Outcome
  finishedAt : Text
  errorMessage : Option Text
  final : outcome ≠ .running

/-- The end of an attempt has a final outcome, a time, and an error that is not empty if there is one. -/
def validateAttemptFinish (outcome : Outcome) (finishedAt : Option String) (errorMessage : Option String) :
    Option AttemptFinish :=
  if final : outcome = .running then none
  else match finishedAt with
    | none => none
    | some stamp =>
        if timed : stamp = "" then none
        else match errorMessage with
          | none => some ⟨outcome, ⟨stamp, timed⟩, none, final⟩
          | some text =>
              if worded : text = "" then none
              else some ⟨outcome, ⟨stamp, timed⟩, some ⟨text, worded⟩, final⟩

theorem outcome_of_validateAttemptFinish {outcome : Outcome} {finishedAt errorMessage : Option String}
    {ending : AttemptFinish} (valid : validateAttemptFinish outcome finishedAt errorMessage = some ending) :
    ending.outcome = outcome := by
  unfold validateAttemptFinish at valid
  grind

namespace AttemptRecord

def finish (record : AttemptRecord) (ending : AttemptFinish) : AttemptRecord := { record with
  outcome := ending.outcome
  finishedAt := some ending.finishedAt
  errorMessage := ending.errorMessage }

end AttemptRecord

end Tasklite.Models
