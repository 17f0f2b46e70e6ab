import Tasklite.Engine.Types
import Tasklite.Models.Attempt

/-! Error codes of the engine and the normal form of the metadata of a failure. -/

namespace Tasklite.Engine
open Tasklite.Library Tasklite.Models

def errJobDependency : String := "JOB_DEPENDENCY"

def errPayloadValidation : String := "PAYLOAD_VALIDATION_FAILED"

def errMaxRetries : String := "MAX_RETRIES_EXCEEDED"

def errNoHandler : String := "NO_HANDLER"

def errDependencyDeadlock : String := "DEPENDENCY_DEADLOCK"

def errResourceDeadlock : String := "RESOURCE_DEADLOCK"

def errMalformedJob : String := "MALFORMED_JOB"

def errDeadlockGap : String := "DEADLOCK_CLASSIFICATION_GAP"

def errCommitFailure : String := "COMMIT_FAILURE"

def errDispatchFailure : String := "DISPATCH_FAILURE"

def errSkipped : String := "SKIPPED"

def errDependencySkipped : String := "DEPENDENCY_SKIPPED"

/-- The kinds of failures. -/
inductive ErrorCategory where
  | fatal
  | transientExhausted
  | dependency
  | deadlock
  | noHandler
  | validation
  | commitFailure
  | dispatch
  | interrupted
  | unknown
deriving DecidableEq

def ErrorCategory.value : ErrorCategory → String
  | .fatal => "fatal"
  | .transientExhausted => "transient_exhausted"
  | .dependency => "dependency"
  | .deadlock => "deadlock"
  | .noHandler => "no_handler"
  | .validation => "validation"
  | .commitFailure => "commit_failure"
  | .dispatch => "dispatch"
  | .interrupted => "interrupted"
  | .unknown => "unknown"

/-- Metadata of a failure has a category, a time and an attempt number. `classify` reads the category
off the metadata when it has none. -/
def normalizeFailureMetadata (classify : Record → ErrorCategory) (now : Text) (metadata : Record) : Record :=
  let categorized :=
    if (Record.get metadata "error_category").truthy then metadata
    else metadata.set "error_category" (.str (classify metadata).value)
  let timed :=
    if categorized.contains "failed_at" then categorized else categorized.set "failed_at" (.str now.val)
  if timed.contains "attempt_no" then timed else timed.set "attempt_no" (.int 0)

/-- The metadata of a job that was given up because its commits were refused. -/
def strikeMetadata (failures : Int) : Record := Dict.ofPairs
  [("error_message", .str errCommitFailure), ("is_fatal", .bool true), ("commit_failures", .int failures)]

/-- The metadata of a job that goes down with a dependency. -/
def dependencyMetadata (failedUid : String) : Record := Dict.ofPairs
  [("error_message", .str errJobDependency), ("failed_dependency", .str failedUid)]

end Tasklite.Engine
