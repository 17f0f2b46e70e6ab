import Mathlib.Algebra.Order.Field.Rat
import Mathlib.Order.WithBot
import Tasklite.Engine.Types

/-! Rate limits, capacities and the manager that evaluates and reserves them. A
reservation is a lease: capacities are taken at once, rate limits are checked and
only advanced when the lease is claimed. The clock is an argument of every call. -/

namespace Tasklite.Engine
open Tasklite.Library Tasklite.Models

/-- Longest single suspension, in seconds. -/
def maxSuspendSeconds : ℚ := 86400

/-- Suspensions that are not positive are ignored, long ones are cut. -/
def clampSuspend (seconds : ℚ) : ℚ :=
  if seconds ≤ 0 then 0 else if seconds > maxSuspendSeconds then maxSuspendSeconds else seconds

/-- What a reservation can be refused with. -/
inductive ReserveError where
  | notRegistered (name : String)
  | rateLimitUnavailable (name : String) (wait : ℚ)
  | negativeAmount (amount : Number)
  | exceedsCapacity (amount : Number) (maxCapacity : ℚ)
deriving DecidableEq

def ReserveError.message [Python] : ReserveError → String
  | .notRegistered name => "Resource '" ++ name ++ "' not registered"
  | .rateLimitUnavailable name wait =>
      "RateLimitResource '" ++ name ++ "' not available (wait " ++ Python.fixed 2 wait ++ "s)"
  | .negativeAmount amount => "amount must be non-negative, got " ++ format amount.toJson
  | .exceedsCapacity amount maxCapacity =>
      "amount " ++ format amount.toJson ++ " exceeds resource capacity " ++ format (.float maxCapacity)

structure RateLimitResource where
  intervalSeconds : ℚ
  nextAvailable : ℚ
  positive : 0 < intervalSeconds

namespace RateLimitResource

def canAcquire (resource : RateLimitResource) (now : ℚ) : Bool × WithTop ℚ :=
  if now ≥ resource.nextAvailable then (true, 0) else (false, (resource.nextAvailable - now : ℚ))

def acquire (resource : RateLimitResource) (now : ℚ) (amount : Number) :
    Except ReserveError RateLimitResource :=
  if amount.value < 0 then .error (.negativeAmount amount)
  else .ok { resource with
    nextAvailable := max now resource.nextAvailable + resource.intervalSeconds * amount.value }

def suspend (resource : RateLimitResource) (now seconds : ℚ) : RateLimitResource :=
  { resource with nextAvailable := max resource.nextAvailable (now + clampSuspend seconds) }

end RateLimitResource

structure CapacityResource where
  maxCapacity : ℚ
  used : ℚ
  suspendedUntil : ℚ
  releaseOverruns : ℕ
  nonnegative : 0 ≤ maxCapacity

namespace CapacityResource

def capacityPollInterval : ℚ := 1 / 2

/-- A request above the maximum can never be met: its wait is infinite. -/
def canAcquire (resource : CapacityResource) (now : ℚ) (amount : Number) : Bool × WithTop ℚ :=
  if amount.value > resource.maxCapacity then (false, ⊤)
  else if now < resource.suspendedUntil then (false, (resource.suspendedUntil - now : ℚ))
  else if resource.used + amount.value ≤ resource.maxCapacity then (true, 0)
  else (false, (capacityPollInterval : ℚ))

def acquire (resource : CapacityResource) (amount : Number) : Except ReserveError CapacityResource :=
  if amount.value < 0 then .error (.negativeAmount amount)
  else if amount.value > resource.maxCapacity then
    .error (.exceedsCapacity amount resource.maxCapacity)
  else .ok { resource with used := resource.used + amount.value }

def release (resource : CapacityResource) (amount : Number) : Except ReserveError CapacityResource :=
  if amount.value < 0 then .error (.negativeAmount amount)
  else .ok { resource with
    used := max 0 (resource.used - amount.value)
    releaseOverruns :=
      if amount.value > resource.used then resource.releaseOverruns + 1 else resource.releaseOverruns }

def suspend (resource : CapacityResource) (now seconds : ℚ) : CapacityResource :=
  { resource with suspendedUntil := max resource.suspendedUntil (now + clampSuspend seconds) }

end CapacityResource

inductive Resource where
  | rateLimit (resource : RateLimitResource)
  | capacity (resource : CapacityResource)

namespace Resource

def canAcquire (now : ℚ) (amount : Number) : Resource → Bool × WithTop ℚ
  | .rateLimit resource => resource.canAcquire now
  | .capacity resource => resource.canAcquire now amount

def acquire (now : ℚ) (amount : Number) : Resource → Except ReserveError Resource
  | .rateLimit resource => (resource.acquire now amount).map .rateLimit
  | .capacity resource => (resource.acquire amount).map .capacity

/-- Time slices cannot be given back, so a rate limit has nothing to release. -/
def release (amount : Number) : Resource → Except ReserveError Resource
  | .rateLimit resource => .ok (.rateLimit resource)
  | .capacity resource => (resource.release amount).map .capacity

def suspend (now seconds : ℚ) : Resource → Resource
  | .rateLimit resource => .rateLimit (resource.suspend now seconds)
  | .capacity resource => .capacity (resource.suspend now seconds)

end Resource

inductive LeaseStatus where
  | reserved
  | claimed
  | released
deriving DecidableEq

structure ResourceLease where
  jobUid : String
  acquired : List (String × Number)
  rateLimits : List (String × Number)
  status : LeaseStatus
deriving DecidableEq

structure ResourceEvaluation where
  isAvailable : Bool
  waitTime : WithTop ℚ
  isUnknown : Bool := false
  isImpossible : Bool := false
  unknownName : Option String := none
  impossibleName : Option String := none

/-- The registered resources, the task defaults and the leases handed out so far. A lease is an object
of its own in the source, so it is named here by its place in `leases`. -/
structure ResourceManager where
  resources : Dict String Resource
  tasks : TaskRegistry
  leases : List ResourceLease

namespace ResourceManager

/-- Task defaults, overridden by what the job declares. -/
def effectiveResources (manager : ResourceManager) (taskType : String)
    (declared : Option (List (String × Number))) : Dict String Number :=
  let base := Dict.ofPairs (declared.getD [])
  match manager.tasks.get? taskType with
  | none => base
  | some task => if task.resources.entries.isEmpty then base else task.resources.update base.entries

/-- The loop of `evaluate`: the longest wait so far, or the entry that settles the answer. -/
def evaluateEntries (manager : ResourceManager) (now : ℚ) :
    List (String × Number) → WithTop ℚ → ResourceEvaluation
  | [], minWait =>
      if minWait > 0 then { isAvailable := false, waitTime := minWait }
      else { isAvailable := true, waitTime := 0 }
  | (name, amount) :: rest, minWait =>
      match manager.resources.get? name with
      | none => { isAvailable := false, waitTime := ⊤, isUnknown := true, unknownName := some name }
      | some resource =>
          match resource.canAcquire now amount with
          | (true, _) => evaluateEntries manager now rest minWait
          | (false, wait) =>
              if wait = ⊤ then
                { isAvailable := false, waitTime := ⊤, isImpossible := true, impossibleName := some name }
              else evaluateEntries manager now rest (max minWait wait)

def evaluate (manager : ResourceManager) (now : ℚ) (taskType : String)
    (declared : Option (List (String × Number))) : ResourceEvaluation :=
  evaluateEntries manager now (manager.effectiveResources taskType declared).entries 0

/-- Release what was taken; a resource that is gone or refuses is passed over. -/
def releaseAll (manager : ResourceManager) : List (String × Number) → ResourceManager
  | [] => manager
  | (name, amount) :: rest =>
      match manager.resources.get? name with
      | none => releaseAll manager rest
      | some resource =>
          match resource.release amount with
          | .error _ => releaseAll manager rest
          | .ok released =>
              releaseAll { manager with resources := manager.resources.set name released } rest

theorem leases_releaseAll (manager : ResourceManager) (taken : List (String × Number)) :
    (manager.releaseAll taken).leases = manager.leases := by
  induction taken generalizing manager with
  | nil => rfl
  | cons entry rest ih =>
    rcases entry with ⟨name, amount⟩
    unfold releaseAll
    split
    · exact ih manager
    · split
      · exact ih manager
      · exact ih _

/-- What the loop of `reserve` has collected. -/
structure Holding where
  acquired : List (String × Number) := []
  rateLimits : List (String × Number) := []

/-- The loop of `reserve`. Capacities are taken as they come; a rate limit is only checked. On a
refusal the holding says what has to be given back. -/
def reserveEntries (now : ℚ) : List (String × Number) → ResourceManager → Holding →
    ResourceManager × Holding × Option ReserveError
  | [], manager, holding => (manager, holding, none)
  | (name, amount) :: rest, manager, holding =>
      match manager.resources.get? name with
      | none => (manager, holding, some (.notRegistered name))
      | some (.rateLimit resource) =>
          match resource.canAcquire now with
          | (false, wait) =>
              (manager, holding, some (.rateLimitUnavailable name (wait.untopD 0)))
          | (true, _) =>
              reserveEntries now rest manager
                { holding with rateLimits := holding.rateLimits ++ [(name, amount)] }
      | some (.capacity resource) =>
          match resource.acquire amount with
          | .error refusal => (manager, holding, some refusal)
          | .ok taken =>
              reserveEntries now rest
                { manager with resources := manager.resources.set name (.capacity taken) }
                { holding with acquired := holding.acquired ++ [(name, amount)] }

/-- Two-phase reservation: the lease's place in the table of leases, or the refusal after everything
that was taken has been given back. -/
def reserve (manager : ResourceManager) (now : ℚ) (taskType : String)
    (declared : Option (List (String × Number))) (jobUid : String) :
    ResourceManager × Except ReserveError ℕ :=
  match reserveEntries now (manager.effectiveResources taskType declared).entries manager {} with
  | (taken, holding, none) =>
      ({ taken with leases := taken.leases ++ [{
          jobUid, acquired := holding.acquired, rateLimits := holding.rateLimits, status := .reserved }] },
        .ok taken.leases.length)
  | (taken, holding, some refusal) => (taken.releaseAll holding.acquired, .error refusal)

/-- Give a lease's capacities back, once. -/
def releaseLease (manager : ResourceManager) (lease : ℕ) : ResourceManager :=
  match manager.leases[lease]? with
  | none => manager
  | some held =>
      if held.status = .released then manager
      else
        let cleared := manager.releaseAll held.acquired
        { cleared with leases := cleared.leases.set lease { held with status := .released } }

/-- Advance the rate limits of a lease that has only been reserved, up to the first that refuses. -/
def advance (now : ℚ) : List (String × Number) → ResourceManager → ResourceManager × Option ReserveError
  | [], manager => (manager, none)
  | (name, amount) :: rest, manager =>
      match manager.resources.get? name with
      | none => advance now rest manager
      | some resource =>
          match resource.acquire now amount with
          | .error refusal => (manager, some refusal)
          | .ok taken => advance now rest { manager with resources := manager.resources.set name taken }

/-- Claim a lease, once. If a rate limit refuses, the lease stays reserved. -/
def claimLease (manager : ResourceManager) (now : ℚ) (lease : ℕ) : ResourceManager × Option ReserveError :=
  match manager.leases[lease]? with
  | none => (manager, none)
  | some held =>
      if held.status ≠ .reserved then (manager, none)
      else match advance now held.rateLimits manager with
        | (advanced, some refusal) => (advanced, some refusal)
        | (advanced, none) =>
            ({ advanced with leases := advanced.leases.set lease { held with status := .claimed } }, none)

/-- Suspend one resource; an unknown name is reported and skipped. -/
def suspendResource (manager : ResourceManager) (now : ℚ) (name : String) (seconds : ℚ) :
    ResourceManager × Bool :=
  match manager.resources.get? name with
  | none => (manager, false)
  | some resource =>
      ({ manager with resources := manager.resources.set name (resource.suspend now seconds) }, true)

/-- Apply a batch of drained signals. Writing the deadlines to disk afterwards does not change the
resources and is left to the store. -/
def applySuspendSignals (manager : ResourceManager) (now : ℚ) : List SuspendSignal → ResourceManager
  | [] => manager
  | signal :: rest =>
      applySuspendSignals (manager.suspendResource now signal.resource signal.seconds).1 now rest

def canAcquireWorker (manager : ResourceManager) (now : ℚ) : Bool × WithTop ℚ :=
  match manager.resources.get? workerResource with
  | none => (true, 0)
  | some resource => resource.canAcquire now (.float 1)

end ResourceManager

end Tasklite.Engine
