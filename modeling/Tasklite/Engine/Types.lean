import Tasklite.Models.Task

/-! Values that the parts of the engine hand to each other. -/

namespace Tasklite.Engine
open Tasklite.Library Tasklite.Models

/-- The counters of a run. -/
inductive StatKey where
  | succeeded
  | failed
  | retried
  | skipped
  | hookErrors
  | lockConflictReruns
  | interruptedReruns
  | rateLimitedReruns
  | cascadeFailed
  | excludedBlocked
deriving DecidableEq

/-- The registered kinds of transient signals and the counter of each. -/
def transientKindStatKey : String → Option StatKey
  | "interrupted" => some .interruptedReruns
  | "lock_conflict" => some .lockConflictReruns
  | "rate_limited" => some .rateLimitedReruns
  | _ => none

/-- A running worker, as far as the channel identifies it by anything but its process object. -/
structure JobHandle where
  jobUid : String
  executionId : String
  identified : executionId ≠ ""
deriving DecidableEq

/-- A request to suspend a resource: the job that sent it, the resource and the seconds. -/
structure SuspendSignal where
  jobUid : String
  resource : String
  seconds : ℚ
deriving DecidableEq

/-- What one execution produced, for reaping and aborting alike. -/
structure ExecutionResult where
  success : Bool := false
  resultMetadata : Record := Dict.empty
  retryRequested : Bool := false
  retryError : Option Json := none
  spawnedJobs : List Job := []
  cursorUpdates : List (String × Option String) := []
  resourceSuspensions : List (String × ℚ) := []
  transientKind : Option String := none
  artifactError : Option String := none
deriving DecidableEq

/-- The payload of the hook that observes finished attempts. -/
structure AttemptOutcome where
  success : Bool
  willRetry : Bool
  metadata : Record
deriving DecidableEq

end Tasklite.Engine
