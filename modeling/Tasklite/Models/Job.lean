import Tasklite.Models.Json
import Tasklite.Utils.Encoding

/-! A job: one bounded activation of a task. The identity of a job is the text
`task_type::job_id`; the checks of its constructor are modelled field by field, in the
order in which the source makes them. -/

namespace Tasklite.Models
open Tasklite.Library Tasklite.Utils.Encoding

/-- Whether the uid separator `::` occurs in a text. -/
def hasSeparator : List Char → Bool
  | ':' :: ':' :: _ => true
  | _ :: rest => hasSeparator rest
  | [] => false

/-- One side of a uid: non-empty text without the separator. -/
abbrev Component := {text : String // text ≠ "" ∧ hasSeparator text.toList = false}

section Checks

variable [Python]

/-- The check that a task type and a job id share. -/
def validateComponent (field : String) : Json → Except PyError Component
  | .str text =>
      if empty : text = "" then
        .error (.valueError (field ++ " must be a non-empty str, got " ++ Python.repr (.str text)))
      else if separated : hasSeparator text.toList = true then
        .error (.valueError (field ++ " must not contain '::', got " ++ Python.repr (.str text)))
      else .ok ⟨text, empty, Bool.eq_false_iff.mpr separated⟩
  | value => .error (.typeError
      (field ++ " must be a str, got " ++ value.typeName ++ " (" ++ Python.repr value ++ ")"))

def validateTaskType : Json → Except PyError Component := validateComponent "task_type"

def validateJobId : Json → Except PyError Component := validateComponent "job_id"

/-- A file name has 255 bytes, of which a result file's suffix may take 56. -/
def maxSafeUidBytes : ℕ := 199

def uidFits (taskType jobId : String) : Prop :=
  (encodeJobUidFilename (taskType ++ "::" ++ jobId)).utf8ByteSize ≤ maxSafeUidBytes

instance (taskType jobId : String) : Decidable (uidFits taskType jobId) :=
  inferInstanceAs (Decidable (_ ≤ _))

def validateUidIpcFilename (taskType jobId : String) : Except PyError (PLift (uidFits taskType jobId)) :=
  if fits : uidFits taskType jobId then .ok ⟨fits⟩
  else .error (.valueError ("task_type+job_id too long: uid-derived IPC filename would exceed " ++
    "filesystem name limit (199 bytes max); got " ++ Python.repr (.str taskType) ++ "::" ++
    Python.repr (.str jobId) ++ " — shorten to avoid ENAMETOOLONG livelock"))

def normalizePayload : Json → Except PyError Record
  | .null => .ok Dict.empty
  | .obj fields => .ok (Dict.ofPairs fields)
  | value => .error (.typeError ("payload must be a dict or None, got " ++ value.typeName ++
      " (" ++ Python.repr value ++ ")"))

def validateResourceAmount (place name : String) (amount : Json) : Except PyError Number :=
  if name = "" then
    .error (.typeError ("resource name in " ++ place ++ " must be a non-empty str, got str (" ++
      Python.repr (.str name) ++ ")"))
  else match Number.ofJson amount with
    | none => .error (.typeError ("resource '" ++ name ++ "' amount in " ++ place ++
        " must be a number, got " ++ amount.typeName ++ " (" ++ Python.repr amount ++ ")"))
    | some number =>
        if !number.isFinite then
          .error (.valueError ("resource '" ++ name ++ "' amount in " ++ place ++
            " is too large (exceeds float range), got " ++ Python.repr amount))
        else if number.value < 0 then
          .error (.valueError ("resource '" ++ name ++ "' amount in " ++ place ++
            " must be non-negative, got " ++ Python.repr amount))
        else .ok number

def validateResourceAmounts (resources : Record) (place : String) : Except PyError (Dict String Number) :=
  resources.traverse (validateResourceAmount place)

/-- `None` inherits the task's resources. -/
def normalizeResources : Json → Except PyError (Option (Dict String Number))
  | .null => .ok none
  | .obj fields => (validateResourceAmounts (Dict.ofPairs fields) "resources").map some
  | value => .error (.typeError ("resources must be a dict or None, got " ++ value.typeName ++
      " (" ++ Python.repr value ++ ")"))

/-- An integer of at least `least`, `bool` excluded. -/
def validateInteger (field : String) (least : ℕ) : Json → Except PyError {n : ℕ // least ≤ n}
  | .int n =>
      if enough : (least : Int) ≤ n then .ok ⟨n.toNat, by omega⟩
      else .error (.valueError (field ++ " must be >= " ++ toString least ++ ", got " ++ toString n))
  | value => .error (.typeError (field ++ " must be an int, got " ++ value.typeName ++
      " (" ++ Python.repr value ++ ")"))

def validateRetryBudget : Json → Except PyError {n : ℕ // 0 ≤ n} := validateInteger "max_retries" 0

def validateAttemptNo : Json → Except PyError {n : ℕ // 1 ≤ n} := validateInteger "attempt_no" 1

def validateActivationNo : Json → Except PyError {n : ℕ // 1 ≤ n} := validateInteger "activation_no" 1

def dependencyUids : List Json → Option (List String)
  | [] => some []
  | .str uid :: rest => (dependencyUids rest).map (uid :: ·)
  | _ :: _ => none

def normalizeDependsOn : Json → Except PyError (List String)
  | .null => .ok []
  | .arr items =>
      match dependencyUids items with
      | some uids => .ok uids
      | none => .error (.typeError
          ("depends_on must contain only strings, got " ++ Python.repr (.arr items)))
  | value => .error (.typeError ("depends_on must be a list of strings, got " ++ value.typeName))

def validateTimeoutSeconds (value : Json) : Except PyError Number :=
  match Number.ofJson value with
  | none => .error (.typeError ("timeout_seconds must be a number, got " ++ value.typeName ++
      " (" ++ Python.repr value ++ ")"))
  | some number =>
      if !number.isFinite || number.value ≤ 0 then
        .error (.valueError ("timeout_seconds must be finite and > 0, got " ++ format value))
      else .ok number

def validateTimeoutFlag : Json → Except PyError Bool
  | .bool flag => .ok flag
  | value => .error (.typeError ("timeout_is_transient must be a bool, got " ++ value.typeName ++
      " (" ++ Python.repr value ++ ")"))

def validateTrigger : Json → Except PyError String
  | .str name =>
      if name = "" then .error (.valueError "trigger must be a non-empty str") else .ok name
  | _ => .error (.typeError "trigger must be a non-empty str")

def validateFirstEnqueuedAt : Json → Except PyError (Option String)
  | .null => .ok none
  | .str stamp =>
      if stamp = "" then .error (.valueError "first_enqueued_at must be a non-empty str or None")
      else .ok (some stamp)
  | value => .error (.typeError ("first_enqueued_at must be a str or None, got " ++ value.typeName ++
      " (" ++ Python.repr value ++ ")"))

/-- `None` skips the check of an optional field. -/
def optional {α : Type} (validate : Json → Except PyError α) : Json → Except PyError (Option α)
  | .null => .ok none
  | value => (validate value).map some

end Checks

/-- The resource that stands for worker slots. -/
def workerResource : String := "__workers__"

/-- Framework state that travels with a job, next to whatever else its `runtime` object holds. -/
structure JobRuntimeState where
  commitFailures : Int
  dispatchFailures : Int
  lastRetryError : String
  extra : Record
deriving DecidableEq

namespace JobRuntimeState

def rtCommitFailures : String := "_commit_failures"

def rtDispatchFailures : String := "_dispatch_failures"

def rtLastRetryError : String := "_last_retry_error"

def init : JobRuntimeState := ⟨0, 0, "", Dict.empty⟩

/-- `int(raw)`, with 0 for a missing value and for every value that `int` refuses. -/
def counter [Python] : Json → Int
  | .null => 0
  | .bool flag => if flag then 1 else 0
  | .int n => n
  | .float q => Int.tdiv q.num q.den
  | .str text => (Python.int? text).getD 0
  | .arr _ | .obj _ => 0

/-- `str(raw or "")`. -/
def errorText [Python] : Json → String
  | .null | .bool false | .int 0 | .arr [] | .obj [] => ""
  | .float q => if q = 0 then "" else Python.str (.float q)
  | value => format value

def fromDict [Python] : Json → JobRuntimeState
  | .obj fields =>
      let data : Record := Dict.ofPairs fields
      { commitFailures := counter (Record.get data rtCommitFailures)
        dispatchFailures := counter (Record.get data rtDispatchFailures)
        lastRetryError := errorText (Record.get data rtLastRetryError)
        extra := ((data.erase rtCommitFailures).erase rtDispatchFailures).erase rtLastRetryError }
  | _ => init

/-- A framework field is written unless it has its empty value. -/
def exportField (key : String) (value : Json) (isEmpty : Bool) (data : Record) : Record :=
  if isEmpty then data.erase key else data.set key value

def toDict (runtime : JobRuntimeState) : Record :=
  exportField rtLastRetryError (.str runtime.lastRetryError) (runtime.lastRetryError = "")
    (exportField rtDispatchFailures (.int runtime.dispatchFailures) (runtime.dispatchFailures = 0)
      (exportField rtCommitFailures (.int runtime.commitFailures) (runtime.commitFailures = 0)
        runtime.extra))

def recordRetryError (runtime : JobRuntimeState) (error : String) : JobRuntimeState :=
  { runtime with lastRetryError := error }

def recordCommitFailure (runtime : JobRuntimeState) : JobRuntimeState :=
  { runtime with commitFailures := runtime.commitFailures + 1 }

def recordDispatchFailure (runtime : JobRuntimeState) : JobRuntimeState :=
  { runtime with dispatchFailures := runtime.dispatchFailures + 1 }

end JobRuntimeState

/-- A job that its constructor accepted. -/
structure Job where
  taskType : Component
  jobId : Component
  fits : uidFits taskType.val jobId.val
  payload : Record
  resources : Option (Dict String Number)
  maxRetries : Option ℕ
  dependsOn : List String
  timeoutSeconds : Option Number
  timeoutIsTransient : Option Bool
  trigger : Option String
  attemptNo : {n : ℕ // 1 ≤ n}
  activationNo : {n : ℕ // 1 ≤ n}
  firstEnqueuedAt : Option String
  runtime : JobRuntimeState
deriving DecidableEq

namespace Job

def uid (job : Job) : String := job.taskType.val ++ "::" ++ job.jobId.val

def toDict (job : Job) : Record := Dict.ofPairs
  [("task_type", .str job.taskType.val),
    ("job_id", .str job.jobId.val),
    ("payload", .obj job.payload.entries),
    ("resources", match job.resources with
      | none => .null
      | some amounts => .obj (amounts.entries.map fun entry => (entry.1, entry.2.toJson))),
    ("max_retries", match job.maxRetries with | none => .null | some n => .int n),
    ("depends_on", .arr (job.dependsOn.map Json.str)),
    ("timeout_seconds", match job.timeoutSeconds with | none => .null | some n => n.toJson),
    ("timeout_is_transient", match job.timeoutIsTransient with | none => .null | some b => .bool b),
    ("trigger", match job.trigger with | none => .null | some name => .str name),
    ("runtime", .obj job.runtime.toDict.entries),
    ("attempt_no", .int job.attemptNo.val),
    ("activation_no", .int job.activationNo.val),
    ("first_enqueued_at", match job.firstEnqueuedAt with | none => .null | some at_ => .str at_)]

/-- The constructor's checks, in the order of the source. -/
def fromDict [Python] (data : Record) : Except PyError Job := do
  if data.contains "rerun" then
    throw (.valueError "Job 快照不接受旧字段 rerun；请使用 trigger")
  if data.contains "timeout" then
    throw (.valueError "Job 快照不接受旧字段 timeout；请使用 timeout_seconds")
  let rawTaskType ← (data.get? "task_type").elim (throw (.keyError "task_type")) pure
  let rawJobId ← (data.get? "job_id").elim (throw (.keyError "job_id")) pure
  let taskType ← validateTaskType rawTaskType
  let jobId ← validateJobId rawJobId
  let fits ← validateUidIpcFilename taskType.val jobId.val
  let payload ← normalizePayload (Record.get data "payload")
  let resources ← normalizeResources (Record.get data "resources")
  let maxRetries ← optional validateRetryBudget (Record.get data "max_retries")
  let dependsOn ← normalizeDependsOn (Record.get data "depends_on")
  let timeoutSeconds ← optional validateTimeoutSeconds (Record.get data "timeout_seconds")
  let timeoutIsTransient ← optional validateTimeoutFlag (Record.get data "timeout_is_transient")
  let trigger ← optional validateTrigger (Record.get data "trigger")
  let attemptNo ← validateAttemptNo ((data.get? "attempt_no").getD (.int 1))
  let activationNo ← validateActivationNo ((data.get? "activation_no").getD (.int 1))
  let firstEnqueuedAt ← validateFirstEnqueuedAt (Record.get data "first_enqueued_at")
  return {
    taskType, jobId, fits := fits.down, payload, resources
    maxRetries := maxRetries.map Subtype.val
    dependsOn, timeoutSeconds, timeoutIsTransient, trigger, attemptNo, activationNo, firstEnqueuedAt
    runtime := JobRuntimeState.fromDict (Record.get data "runtime") }

end Job

end Tasklite.Models
