import Mathlib.Data.List.Sort
import Tasklite.Engine.Resource
import Tasklite.Engine.Selection

/-! The scan for the next job to run. It reads the queue in the order of a policy and
stops at the first job that can run; what it learns on the way about the jobs that
cannot is what a standstill is judged by. Nothing is acquired. -/

namespace Tasklite.Engine
open Tasklite.Library Tasklite.Models

/-- What the scan reads of a job. -/
structure JobFacts where
  uid : String
  taskType : String
  resources : List (String × Number)
  dependsOn : List String
deriving DecidableEq

namespace JobFacts

def ofJob (job : Job) : JobFacts where
  uid := job.uid
  taskType := job.taskType.val
  resources := ((job.resources.getD Dict.empty).entries).insertionSort fun first second => first.1 ≤ second.1
  dependsOn := job.dependsOn

def fromJobSnapshot [Python] (snapshot : Record) : Except PyError JobFacts :=
  (Job.fromDict snapshot).map ofJob

theorem fromJobSnapshot_eq [Python] {row : Record} {facts : JobFacts} (parsed : fromJobSnapshot row = .ok facts) :
    ∃ job, Job.fromDict row = .ok job ∧ facts = ofJob job := by
  unfold fromJobSnapshot at parsed
  cases read : Job.fromDict row with
  | error refusal => simp [read, Except.map] at parsed
  | ok job =>
    rw [read] at parsed
    exact ⟨job, rfl, (Except.ok.inj parsed).symm⟩

end JobFacts

/-- The jobs that make a standstill a deadlock, by cause. -/
structure DeadlockAttribution where
  unknownResourceUids : List String := []
  missingDependencyUids : List String := []
  malformedUids : List String := []
  impossibleResourceUids : List String := []

def DeadlockAttribution.hasDeadlockCauses (attribution : DeadlockAttribution) : Bool :=
  !attribution.unknownResourceUids.isEmpty || !attribution.missingDependencyUids.isEmpty ||
    !attribution.malformedUids.isEmpty || !attribution.impossibleResourceUids.isEmpty

/-- What arbitration is told about a standstill. -/
structure StandstillFacts where
  minWait : WithTop ℚ := ⊤
  waitingForDependency : Bool := false
  hasPotentialSpawners : Bool := false
  attribution : DeadlockAttribution := {}

inductive ScheduleKind where
  | runnable
  | depFailed
  | none
deriving DecidableEq

structure ScheduleResult where
  runnableIdx : Option ℕ
  pendingDepFailure : Option String
  facts : StandstillFacts
  kind : ScheduleKind
  candidateUid : Option String

/-- The order in which a scan visits the places of a queue. -/
abbrev OrderingPolicy := (queue : List Record) → List (Fin queue.length)

def fifoOrderingPolicy : OrderingPolicy := fun queue => List.finRange queue.length

/-- The projections of the jobs seen so far in a run, by task type and job id. -/
abbrev JobCache := Dict (String × String) JobFacts

section Cache

def jobCacheMax : ℕ := 100000

/-- A number as `==` compares it; a truth value counts as 0 or 1. -/
def comparedAmount : Json → Option ℚ
  | .bool flag => some (if flag then 1 else 0)
  | .int n => some n
  | .float q => some q
  | _ => none

/-- `dict(raw)`, or nothing where it raises or could not equal a table of amounts. -/
def asAmounts : Json → Option Record
  | .null | .str "" => some Dict.empty
  | .obj fields => some (Dict.ofPairs fields)
  | .arr items => (items.mapM fun item : Json => match item with
      | .arr [.str name, amount] => some (name, amount)
      | _ => none).map Dict.ofPairs
  | _ => none

/-- `list(raw)`, or nothing where it raises. -/
def asItems : Json → Option (List Json)
  | .null => some []
  | .arr items => some items
  | .str text => some (text.toList.map fun letter => .str (String.singleton letter))
  | .obj fields => some ((Dict.ofPairs fields).keys.map .str)
  | _ => none

/-- Whether a cached projection still has the dependencies and resources of a row. -/
def schedFieldsMatch (facts : JobFacts) (snapshot : Record) : Bool :=
  match asAmounts (Record.get snapshot "resources"), asItems (Record.get snapshot "depends_on") with
  | some amounts, some items =>
      items = facts.dependsOn.map Json.str ∧ amounts.entries.length = facts.resources.length ∧
        ∀ entry ∈ facts.resources, (amounts.get? entry.1).bind comparedAmount = some entry.2.value
  | _, _ => false

variable [Python]

/-- The projection of a row, from the cache if it holds one that matches. Only rows that parse have
texts for both parts of the key, so every other row goes to the parser. -/
def cachedJob (cache : JobCache) (snapshot : Record) : JobCache × Except PyError JobFacts :=
  match Record.get snapshot "task_type", Record.get snapshot "job_id" with
  | .str taskType, .str jobId =>
      match (cache.get? (taskType, jobId)).filter fun facts => schedFieldsMatch facts snapshot with
      | some facts => (cache, .ok facts)
      | none =>
          match JobFacts.fromJobSnapshot snapshot with
          | .error refusal => (cache, .error refusal)
          | .ok facts =>
              ((if cache.entries.length ≥ jobCacheMax then Dict.empty else cache).set
                (taskType, jobId) facts, .ok facts)
  | _, _ => (cache, JobFacts.fromJobSnapshot snapshot)

end Cache

/-- What a single dependency comes to. -/
inductive Standing where
  | waiting
  | met
  | failed
  | missing
deriving DecidableEq

/-- What the scan has found out about the dependencies of a job. -/
structure Barrier where
  failed : Option String := none
  missing : Bool := false
  waiting : Bool := false
deriving DecidableEq

/-- What a scan is done with. -/
structure JobScheduler where
  resources : ResourceManager
  orderingPolicy : OrderingPolicy
  selection : Selection
  jobCache : JobCache

/-- What one row of the queue comes to. A job is `lost` when its failed dependency is the empty uid: the
source takes that for no failed dependency at all, but has already noted that the job cannot run. -/
inductive Verdict where
  | malformed (uid : String)
  | unselected
  | dependencyFailed (uid : String)
  | missing (uid : String)
  | waiting
  | unknown (uid : String)
  | impossible (uid : String)
  | delayed (wait : WithTop ℚ)
  | lost
  | runnable
deriving DecidableEq

/-- What the scan adds up over the rows it passes. -/
structure Tally where
  minWait : WithTop ℚ := ⊤
  waitingForDependency : Bool := false
  hasPotentialSpawners : Bool := false
  pendingDepFailure : Option (String × ℕ) := none
  attribution : DeadlockAttribution := {}

def Tally.record (tally : Tally) (idx : ℕ) : Verdict → Tally
  | .malformed uid => { tally with attribution := { tally.attribution with
      malformedUids := tally.attribution.malformedUids ++ [uid] } }
  | .unselected => tally
  | .dependencyFailed uid => { tally with
      pendingDepFailure := tally.pendingDepFailure.or (some (uid, idx)) }
  | .missing uid => { tally with
      waitingForDependency := true
      attribution := { tally.attribution with
        missingDependencyUids := tally.attribution.missingDependencyUids ++ [uid] } }
  | .waiting => { tally with waitingForDependency := true }
  | .unknown uid => { tally with
      hasPotentialSpawners := true
      minWait := ⊤
      attribution := { tally.attribution with
        unknownResourceUids := tally.attribution.unknownResourceUids ++ [uid] } }
  | .impossible uid => { tally with
      hasPotentialSpawners := true
      attribution := { tally.attribution with
        impossibleResourceUids := tally.attribution.impossibleResourceUids ++ [uid] } }
  | .delayed wait => { tally with hasPotentialSpawners := true, minWait := min tally.minWait wait }
  | .lost | .runnable => { tally with hasPotentialSpawners := true }

namespace JobScheduler

variable [Python] (scheduler : JobScheduler) (state : PipelineState)

omit [Python] in
/-- A run starts with an empty cache. -/
def beginRound : JobScheduler := { scheduler with jobCache := Dict.empty }

/-- The rows that the selection postpones, whether they parse or not. -/
def excludedUids : Finset String :=
  if scheduler.selection.isActive then
    PipelineState.uidsOf (state.queue.filter fun snapshot => match Record.get snapshot "task_type" with
      | .str taskType => taskType ≠ "" && !scheduler.selection.allowsTaskType taskType
      | _ => false)
  else ∅

omit [Python] in
/-- A job that is active hides what became of it earlier, and a failure hides a success. -/
def standing (active pending : Finset String) (dependency : String) : Standing :=
  if dependency ∈ active then .waiting
  else if dependency ∈ state.triggerSkippedUids then .met
  else if state.failed.contains dependency then .failed
  else if state.successes.contains dependency then .met
  else if dependency ∈ pending then .waiting
  else .missing

omit [Python] in
/-- The loop over the dependencies; a failed one ends it. -/
def barrier (active pending : Finset String) : List String → Barrier → Barrier
  | [], found => found
  | dependency :: rest, found =>
      match standing state active pending dependency with
      | .waiting => barrier active pending rest { found with waiting := true }
      | .met => barrier active pending rest found
      | .failed => { found with failed := some dependency }
      | .missing => barrier active pending rest { found with missing := true }

/-- What the dependencies of a job come to. -/
def barrierOf (inFlight : Finset String) (facts : JobFacts) : Barrier :=
  let pending := state.queueUids ∪ inFlight
  barrier state (pending \ scheduler.excludedUids state) pending facts.dependsOn {}

omit [Python] in
/-- What the resources of a job come to, once nothing else holds it back. -/
def evaluated (now : ℚ) (facts : JobFacts) (cleared : Bool) : Verdict :=
  let evaluation := scheduler.resources.evaluate now facts.taskType (some facts.resources)
  if evaluation.isUnknown then .unknown facts.uid
  else if evaluation.isImpossible then .impossible facts.uid
  else if !evaluation.isAvailable then .delayed evaluation.waitTime
  else if cleared then .runnable
  else .lost

/-- The body of the loop over the queue. -/
def judge (inFlight : Finset String) (now : ℚ) (snapshot : Record) : Except PyError JobFacts → Verdict
  | .error _ => .malformed (jobUidFromSnapshot snapshot)
  | .ok facts =>
      if scheduler.selection.isActive && !scheduler.selection.allowsTaskType facts.taskType then .unselected
      else match scheduler.barrierOf state inFlight facts with
        | ⟨some dependency, missing, waiting⟩ =>
            if dependency ≠ "" then .dependencyFailed dependency
            else if missing then .missing facts.uid
            else if waiting then .waiting
            else scheduler.evaluated now facts false
        | ⟨none, true, _⟩ => .missing facts.uid
        | ⟨none, false, true⟩ => .waiting
        | ⟨none, false, false⟩ => scheduler.evaluated now facts true

/-- The loop over the queue: it ends at the first row that can run. Each row is judged at a reading of the
clock of its own. -/
def scanRows (inFlight : Finset String) (clock : ℕ → ℚ) :
    List (Fin state.queue.length) → JobCache → Tally → JobCache × Tally × Option ℕ
  | [], cache, tally => (cache, tally, none)
  | idx :: rest, cache, tally =>
      let snapshot := state.queue.get idx
      let (cache, parsed) := cachedJob cache snapshot
      let verdict := scheduler.judge state inFlight (clock idx) snapshot parsed
      let tally := tally.record idx verdict
      if verdict = .runnable then (cache, tally, some idx)
      else scanRows inFlight clock rest cache tally

/-- Causes of a deadlock are not put off by the wait of another job. -/
def Tally.facts (tally : Tally) : StandstillFacts where
  minWait := if tally.attribution.hasDeadlockCauses then ⊤ else tally.minWait
  waitingForDependency := tally.waitingForDependency
  hasPotentialSpawners := tally.hasPotentialSpawners
  attribution := tally.attribution

/-- The next job to run; without one, the first that a failed dependency keeps from running. -/
def scanNextRunnable (inFlight : Finset String) (clock : ℕ → ℚ) : JobScheduler × ScheduleResult :=
  let (cache, tally, found) := scheduler.scanRows state inFlight clock
    (scheduler.orderingPolicy state.queue) scheduler.jobCache {}
  let failedIdx := tally.pendingDepFailure.map Prod.snd
  let runnableIdx := found.or failedIdx
  let pendingDepFailure :=
    if runnableIdx = failedIdx then tally.pendingDepFailure.map Prod.fst else none
  ({ scheduler with jobCache := cache }, {
    runnableIdx, pendingDepFailure, facts := Tally.facts tally
    kind := match runnableIdx, pendingDepFailure with
      | some _, some _ => .depFailed
      | some _, none => .runnable
      | none, _ => .none
    candidateUid := (runnableIdx.bind fun idx => state.queue[idx]?).map jobUidFromSnapshot })

end JobScheduler

end Tasklite.Engine
