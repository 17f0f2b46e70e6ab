import Tasklite.Engine.Governor

/-! The rounds of the main loop: what one dispatch can come to, the arbitration of a
round without a candidate, and the decision how long to wait before the next. -/

namespace Tasklite.Engine
open Tasklite.Library Tasklite.Models

section Wait

/-- The longest single wait. -/
def waitCapSeconds : ℚ := 1

def inFlightPollSeconds : ℚ := 1 / 20

/-- A round of the loop, as far as waiting depends on it. -/
structure LoopFacts where
  hasInFlight : Bool
  storeEmpty : Bool
  dispatched : ℕ
  settled : ℕ
  hasRunnable : Bool := true
  minWait : WithTop ℚ := ⊤
  workerWait : ℚ := 0
  deadlockWait : ℚ := 0
  shouldTerminate : Bool := false

structure WaitDecision where
  shouldWait : Bool
  waitTime : ℚ
deriving DecidableEq

def decideWait (facts : LoopFacts) : WaitDecision :=
  if (facts.storeEmpty && !facts.hasInFlight) || facts.shouldTerminate then ⟨false, 0⟩
  else if facts.hasInFlight then
    if facts.settled = 0 then ⟨true, inFlightPollSeconds⟩ else ⟨false, 0⟩
  else if facts.deadlockWait > 0 then ⟨true, min facts.deadlockWait waitCapSeconds⟩
  else if !facts.hasRunnable && facts.minWait ≠ ⊤ then
    ⟨true, (min facts.minWait (waitCapSeconds : ℚ)).untopD 0⟩
  else if facts.workerWait > 0 then ⟨true, min facts.workerWait waitCapSeconds⟩
  else ⟨facts.dispatched = 0 ∧ facts.settled = 0, 0⟩

end Wait

inductive DispatchKind where
  | spawned
  | handledNoSubprocess
  | workerSaturated
  | noCandidate
deriving DecidableEq

/-- What one call of the dispatcher came to. -/
structure DispatchOutcome where
  kind : DispatchKind
  workerWait : WithTop ℚ := 0
  standstill : StandstillFacts := {}

structure DeadlockArbitration where
  deadlockDetected : Bool := false
  shouldTerminate : Bool := false
  waitSeconds : ℚ := 0

/-- What a round of the loop reports. -/
structure StepOutcome where
  isIdle : Bool
  shouldWait : Bool
  waitTime : ℚ
  deadlockDetected : Bool
  shouldTerminate : Bool

namespace Loop

variable [Python] (config : StoreConfig)

omit [Python] in
def reportSelectionBlocked (store : StateStore) (standstill : SelectionStandstill) : StateStore :=
  if standstill.blockedUids.isEmpty then store
  else store.recordStat .excludedBlocked standstill.blockedUids.length

/-- Arbitrate when the last dispatch of the round had no candidate and nothing is in flight. -/
def arbitrateDeadlock (governor : DeadlockGovernor) (lastOutcome : Option DispatchOutcome)
    (hasInFlight : Bool) (store : StateStore) (now : ℚ) :
    DeadlockGovernor × StateStore × Except Signal DeadlockArbitration :=
  match lastOutcome.filter fun outcome => outcome.kind = .noCandidate with
  | none => (governor, store, .ok {})
  | some outcome =>
      if store.state.queue.isEmpty && !hasInFlight then (governor, store, .ok { shouldTerminate := true })
      else if hasInFlight then (governor, store, .ok {})
      else match governor.arbitrate config (some outcome.standstill) store now with
        | (ruled, raised, .error signal) => (ruled, raised, .error signal)
        | (ruled, settled, .ok decision) =>
            match decision.action with
            | .selectionBlocked => (ruled,
                decision.standstill.elim settled (reportSelectionBlocked settled),
                .ok { shouldTerminate := decision.shouldTerminate })
            | .resolved => (ruled, settled,
                .ok { deadlockDetected := true, shouldTerminate := decision.shouldTerminate })
            | .graceWaiting | .gapRetrying => (ruled, settled,
                .ok { waitSeconds := if decision.waitTime > 0 then decision.waitTime else 0 })
            | .none => (ruled, settled, .ok {})

/-- A round that finds nothing in flight and no candidate: it dispatches nothing, arbitrates, has nothing
to reap and decides how long to wait. -/
def standstillStep (scheduler : JobScheduler) (governor : DeadlockGovernor) (store : StateStore)
    (clock : ℕ → ℚ) (now : ℚ) : DeadlockGovernor × StateStore × Except Signal StepOutcome :=
  let outcome : DispatchOutcome := {
    kind := .noCandidate
    standstill := (scheduler.scanNextRunnable store.state store.state.inFlightUids clock).2.facts }
  match arbitrateDeadlock config governor (some outcome) false store now with
  | (ruled, raised, .error signal) => (ruled, raised, .error signal)
  | (ruled, settled, .ok arbitration) =>
      let isIdle := settled.state.queue.isEmpty
      let decision := decideWait {
        hasInFlight := false, storeEmpty := isIdle, dispatched := 0, settled := 0
        hasRunnable := false
        minWait := outcome.standstill.minWait
        deadlockWait := arbitration.waitSeconds
        shouldTerminate := arbitration.shouldTerminate }
      (ruled, settled, .ok {
        isIdle, shouldWait := decision.shouldWait, waitTime := decision.waitTime
        deadlockDetected := arbitration.deadlockDetected
        shouldTerminate := arbitration.shouldTerminate || isIdle })

end Loop

end Tasklite.Engine
