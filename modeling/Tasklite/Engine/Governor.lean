import Tasklite.Engine.Scheduler
import Tasklite.Engine.Standstill
import Tasklite.Engine.Store

/-! The arbitration of a standstill. Its ruling names the jobs at fault, finds that the
selection is all that holds the queue up, or that nothing is wrong; a standstill that
fits none of its classes is a gap, and gaps that persist fail the whole queue. -/

namespace Tasklite.Engine
open Tasklite.Library Tasklite.Models

/-- The batch that the arbitration of a deadlock archives. -/
def splitDeadlockByUids [Python] (queue : List Record) (targets : Option (List String)) (error : String) :
    List (String × Record) :=
  (queue.filter fun row => ∀ uids ∈ targets, jobUidFromSnapshot row ∈ uids).map fun row =>
    (jobUidFromSnapshot row, Dict.ofPairs [("error_message", .str error), ("root_cause", .bool true)])

/-- What arbitration keeps between rounds. -/
structure DeadlockGovernor where
  dependencyGraceSeconds : ℚ := 60
  deadlockGapMaxRounds : ℤ := 5
  depGraceDeadline : Option ℚ := none
  depGraceMissing : Option (Finset String) := none
  deadlockGapRounds : ℤ := 0

namespace DeadlockGovernor

variable (governor : DeadlockGovernor)

section Grace

def reset : DeadlockGovernor :=
  { governor with depGraceDeadline := none, depGraceMissing := none, deadlockGapRounds := 0 }

def endGraceEpisode : DeadlockGovernor :=
  { governor with depGraceDeadline := none, depGraceMissing := none }

def recordDispatchProgress : DeadlockGovernor :=
  let ended := if governor.depGraceDeadline.isSome then governor.endGraceEpisode else governor
  { ended with deadlockGapRounds := 0 }

/-- Whether the grace period is still running; the first question starts it. -/
def grantOrExpire (now grace : ℚ) : DeadlockGovernor × Bool :=
  let deadline := governor.depGraceDeadline.getD (now + grace)
  if now < deadline then ({ governor with depGraceDeadline := some deadline }, true)
  else (governor.endGraceEpisode, false)

/-- Whether jobs with missing dependencies are given time for another job to spawn them. Without the
scan's word on potential spawners the queue is searched for a job that could run. -/
def checkDependencyGrace [Python] (state : PipelineState) (missing : Finset String)
    (hasPotentialSpawners : Option Bool) (now : ℚ) : DeadlockGovernor × Bool :=
  let grace := governor.dependencyGraceSeconds
  if missing = ∅ then (governor, false)
  else
    let renewed :=
      if ∃ before ∈ governor.depGraceMissing, before ≠ missing then { governor with depGraceDeadline := none }
      else governor
    let noted := { renewed with depGraceMissing := some missing }
    -- a deadline that is a whole grace period old belongs to an episode that is over
    let current :=
      if ∃ deadline ∈ noted.depGraceDeadline, now - deadline > grace then noted.endGraceEpisode else noted
    match hasPotentialSpawners with
    | some true => current.grantOrExpire now grace
    | some false => (current.endGraceEpisode, false)
    | none =>
        if state.queue.any fun snapshot => jobUidFromSnapshot snapshot ∉ missing &&
            (match Job.fromDict snapshot with
              | .ok job => job.dependsOn.all state.dependencyReady
              | .error _ => false) then current.grantOrExpire now grace
        else (current, false)

/-- Count a round without a class; whether there have been too many of them. -/
def checkGapOrEscalate : DeadlockGovernor × Bool :=
  let rounds := governor.deadlockGapRounds + 1
  ({ governor with deadlockGapRounds := rounds }, !decide (rounds < governor.deadlockGapMaxRounds))

end Grace

/-- What arbitration makes of a standstill. -/
inductive Ruling where
  | quiet
  | selectionBlocked (standstill : SelectionStandstill)
  | culprits (uids : List String) (error : String)
  | missing (uids : List String)
  | gap (logPrefix : String)
deriving DecidableEq

/-- The classes of a deadlock, in the order in which they are asked for. -/
def classify (facts : StandstillFacts) (cycleUids : List String) : Ruling :=
  let attribution := facts.attribution
  if !attribution.malformedUids.isEmpty then .culprits attribution.malformedUids errMalformedJob
  else if !attribution.unknownResourceUids.isEmpty then
    .culprits attribution.unknownResourceUids errResourceDeadlock
  else if !attribution.missingDependencyUids.isEmpty then .missing attribution.missingDependencyUids
  else if !attribution.impossibleResourceUids.isEmpty then
    .culprits attribution.impossibleResourceUids errResourceDeadlock
  else if facts.waitingForDependency then
    if cycleUids.isEmpty then .gap "Deadlock classification gap (waiting_for_dependency without cycle)"
    else .culprits cycleUids errDependencyDeadlock
  else .gap "Deadlock: unclassifiable deadlock (no known root cause)"

section Ruling

variable [Python] (selection : Selection) (state : PipelineState)

/-- The cycles that count: with a selection, those among the jobs that it leaves stuck. -/
def cycleUidsOf : List String :=
  if selection.isActive then ((selection.partitionStandstill state).map SelectionStandstill.cycleUids).getD []
  else state.findDependencyCycles none

/-- The ruling on a standstill. A selection that explains it comes first, unless a cause is known; a finite
wait explains it too, unless it hides a cycle. -/
def rule (facts : StandstillFacts) : Ruling :=
  let causes := facts.attribution.hasDeadlockCauses
  match (selection.partitionStandstill state).filter fun standstill =>
      !causes && standstill.onlyBlockedByExclusion with
  | some standstill => .selectionBlocked standstill
  | none =>
      let cycleUids := cycleUidsOf selection state
      if facts.minWait = ⊤ ∨ (facts.waitingForDependency ∧ cycleUids ≠ []) then classify facts cycleUids
      else .quiet

end Ruling

inductive DeadlockAction where
  | resolved
  | selectionBlocked
  | graceWaiting
  | gapRetrying
  | none
deriving DecidableEq

structure DeadlockDecision where
  action : DeadlockAction
  shouldTerminate : Bool
  waitTime : ℚ := 0
  failedUids : List String := []
  standstill : Option SelectionStandstill := none

section Arbitration

variable [Python]

variable (config : StoreConfig)

/-- What follows when a ruling has archived nothing under a selection: the selection explains it after all,
or the stuck jobs are archived, or the run ends. -/
def convergeUnarchived (store : StateStore) : StateStore × Except Signal DeadlockDecision :=
  match config.selection.partitionStandstill store.state with
  | none => (store, .ok { action := .resolved, shouldTerminate := true })
  | some standstill =>
      if standstill.onlyBlockedByExclusion then
        (store, .ok { action := .selectionBlocked, shouldTerminate := true, standstill := some standstill })
      else if standstill.stuckUids.isEmpty then
        (store, .ok { action := .resolved, shouldTerminate := true })
      else
        match store.applyBulkFailure config (standstill.stuckUids.map fun uid =>
            (uid, Dict.ofPairs [("error_message", .str errDeadlockGap), ("root_cause", .bool true)])) with
        | (raised, .error signal) => (raised, .error signal)
        | (archived, .ok failed) =>
            if failed.isEmpty then (archived, .ok { action := .resolved, shouldTerminate := true })
            else (archived, .ok {
              action := .resolved, shouldTerminate := archived.state.queue.isEmpty, failedUids := failed })

/-- Archive the jobs of a ruling. A signal of the store goes through. -/
def archive (store : StateStore) (uidsMetas : List (String × Record)) :
    DeadlockGovernor × StateStore × Except Signal DeadlockDecision :=
  match store.applyBulkFailure config uidsMetas with
  | (raised, .error signal) => (governor, raised, .error signal)
  | (archived, .ok failed) =>
      let settled := { governor with deadlockGapRounds := 0 }
      if failed.isEmpty && config.selection.isActive then
        (settled, convergeUnarchived config archived)
      else (settled, archived, .ok {
        action := .resolved
        shouldTerminate := !failed.isEmpty && archived.state.queue.isEmpty
        failedUids := failed })

/-- Carry a ruling out. -/
def resolveDeadlock (facts : StandstillFacts) (store : StateStore) (now : ℚ) :
    Ruling → DeadlockGovernor × StateStore × Except Signal DeadlockDecision
  | .quiet => ({ governor with deadlockGapRounds := 0 }, store, .ok { action := .none, shouldTerminate := false })
  | .selectionBlocked standstill => ({ governor with deadlockGapRounds := 0 }, store, .ok {
      action := .selectionBlocked, shouldTerminate := true, standstill := some standstill })
  | .culprits uids error =>
      governor.archive config store (splitDeadlockByUids store.state.queue (some uids) error)
  | .missing uids =>
      match governor.checkDependencyGrace store.state uids.toFinset (some facts.hasPotentialSpawners) now with
      | (granted, true) => ({ granted with deadlockGapRounds := 0 }, store, .ok {
          action := .graceWaiting, shouldTerminate := false, waitTime := 1 / 2 })
      | (expired, false) => expired.archive config store
          (splitDeadlockByUids store.state.queue (some uids) errDependencyDeadlock)
  | .gap _ =>
      match governor.checkGapOrEscalate with
      | (counted, false) => (counted, store, .ok {
          action := .gapRetrying, shouldTerminate := false, waitTime := 1 / 2 })
      | (counted, true) =>
          counted.archive config store (splitDeadlockByUids store.state.queue none errDeadlockGap)

def arbitrate (facts : Option StandstillFacts) (store : StateStore) (now : ℚ) :
    DeadlockGovernor × StateStore × Except Signal DeadlockDecision :=
  match facts with
  | none => ({ governor with deadlockGapRounds := 0 }, store, .ok { action := .none, shouldTerminate := false })
  | some facts => governor.resolveDeadlock config facts store now (rule config.selection store.state facts)

end Arbitration

end DeadlockGovernor

end Tasklite.Engine
