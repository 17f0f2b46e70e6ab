import Tasklite.Models.Job

/-! Task specifications: the defaults that all jobs of one type share. -/

namespace Tasklite.Models
open Tasklite.Library

/-- A registered specification. The handler itself runs in a worker and is not modelled; a payload
schema is represented by the errors that validation against it reports. -/
structure Task where
  resources : Dict String Number
  payloadSchema : Option (Record → List String)
  maxRetries : ℕ
  timeoutSeconds : Number
  timeoutIsTransient : Bool
  trigger : String

/-- The process-local registry, one specification for every task type. -/
abbrev TaskRegistry := Dict String Task

end Tasklite.Models
