import Mathlib.Algebra.Order.Field.Rat
import Tasklite.Library.Dict

/-! Guarded requests. A guard sorts what a request raises, or the status it answers, into three classes and asks for a
suspension where a rate limit was hit; an executor tries a request again a few times, and may look it up in a store of
earlier responses first. Whatever the request itself does is part of the state that it is called in. -/

namespace Tasklite.Wrappers.Http
open Tasklite.Library

/-- The classes of exceptions that the engine tells apart. -/
inductive Category where
  | rateLimit
  | fatal
  | retry
deriving DecidableEq

/-- What a text reads as: a number, which may not be finite, or an instant. -/
structure RetryAfter where
  number : Option (Option ℚ)
  instant : Option ℚ

structure Response where
  statusCode : Option ℤ
  headers : Dict String String
  body : List UInt8
  url : String

/-- An exception: the class that it is an instance of, the status that it or its response carries, its headers or
those of its response, whether the transport raised it, and the two marks that guards leave on it. -/
structure Thrown where
  category : Option Category
  statusCode : Option ℤ := none
  headers : Option (Dict String String) := none
  transport : Bool := false
  retryAfter : Option ℚ := none
  suspended : Bool := false

/-- The rules by which a guard sorts. What a custom classifier raises, or the complaint about what it returns, takes
the place of the exception. -/
structure HttpPolicy where
  rateLimitStatuses : List ℤ := [429]
  fatalStatuses : List ℤ := [400, 401, 403, 404, 405, 410, 422]
  retryStatuses : List ℤ := [500, 502, 503, 504, 520, 521, 522, 524]
  statusClassifier : ℤ → Response ⊕ Thrown → Option (Except Thrown Category) := fun _ _ => none
  exceptionClassifier : Thrown → Option (Except Thrown Category) := fun _ => none

namespace HttpPolicy

def classifyStatus (policy : HttpPolicy) (statusCode : ℤ) (subject : Response ⊕ Thrown) :
    Except Thrown (Option Category) :=
  match policy.statusClassifier statusCode subject with
  | some (.ok category) => .ok (some category)
  | some (.error raised) => .error raised
  | none => .ok (
      if statusCode ∈ policy.rateLimitStatuses then some .rateLimit
      else if statusCode ∈ policy.fatalStatuses then some .fatal
      else if statusCode ∈ policy.retryStatuses then some .retry
      else if 200 ≤ statusCode ∧ statusCode < 400 then none
      -- the statuses that are not listed
      else if 400 ≤ statusCode ∧ statusCode < 500 then some .fatal
      else if 500 ≤ statusCode then some .retry
      else none)

def classifyException (policy : HttpPolicy) (thrown : Thrown) : Except Thrown (Option Category) :=
  match thrown.category with
  | some category => .ok (some category)
  | none =>
      match policy.exceptionClassifier thrown with
      | some (.ok category) => .ok (some category)
      | some (.error raised) => .error raised
      | none =>
          match thrown.statusCode with
          | some statusCode => policy.classifyStatus statusCode (.inr thrown)
          | none => .ok (if thrown.transport then some .retry else none)

end HttpPolicy

/-- The clock, the jitter and the sleep as the state of the process gives them, and two functions on texts. -/
structure Host (W : Type) where
  clock : W → ℚ
  uniform : W → {q : ℚ // -1/4 ≤ q ∧ q ≤ 1/4}
  sleep : ℚ → W → W
  lower : String → String
  read : String → RetryAfter

/-- The seconds in a header: nothing where there is none, or where it does not make one wait. -/
def extractRetryAfter (read : String → RetryAfter) (now : ℚ) (headers : Dict String String) : Option ℚ :=
  match ((headers.get? "Retry-After").filter (· ≠ "")).or ((headers.get? "retry-after").filter (· ≠ "")) with
  | none => none
  | some text =>
      match (read text).number with
      | some seconds => seconds.filter (0 < ·)
      | none => ((read text).instant.map (· - now)).filter (0 < ·)

/-- The names of resources that a job may suspend. -/
structure JobContext where
  resourceNames : List String

def JobContext.accepts (ctx : JobContext) (resource : String) (seconds : ℚ) : Bool :=
  resource ≠ "" && resource ∈ ctx.resourceNames && decide (0 < seconds)

structure HttpGuard where
  ctx : Option JobContext := none
  resource : Option String := none
  policy : HttpPolicy := {}
  defaultSuspendTtl : {ttl : ℚ // 0 < ttl}

namespace HttpGuard

def rateLimitTtl (guard : HttpGuard) (read : String → RetryAfter) (now : ℚ) (thrown : Thrown) : ℚ :=
  match thrown.retryAfter with
  | some ttl => ttl
  | none => (thrown.headers.bind (extractRetryAfter read now)).getD guard.defaultSuspendTtl.val

/-- What a response raises when its status is checked. -/
def checkResponse (guard : HttpGuard) (read : String → RetryAfter) (now : ℚ) (response : Response) : Option Thrown :=
  match response.statusCode with
  | none => none
  | some statusCode =>
      match guard.policy.classifyStatus statusCode (.inl response) with
      | .error raised => some raised
      | .ok none => none
      | .ok (some .rateLimit) =>
          let ttl := (extractRetryAfter read now response.headers).getD guard.defaultSuspendTtl.val
          some { category := some .rateLimit, retryAfter := some ttl }
      | .ok (some category) => some { category := some category }

/-- The suspension that a guard can ask for. -/
def request (guard : HttpGuard) (ttl : ℚ) : Option (String × ℚ) :=
  match guard.ctx, guard.resource with
  | some ctx, some resource => if ctx.accepts resource ttl then some (resource, ttl) else none
  | _, _ => none

/-- Ask for a suspension, unless a guard further in has done so; the exception is marked when it was accepted. -/
def emitSuspension (guard : HttpGuard) (thrown : Thrown) (ttl : ℚ) : Thrown × List (String × ℚ) :=
  if thrown.suspended then (thrown, [])
  else match guard.request ttl with
    | some signal => ({ thrown with suspended := true }, [signal])
    | none => (thrown, [])

/-- What leaves a guard when its block raises, and the suspensions that it asks for. -/
def exit (guard : HttpGuard) (read : String → RetryAfter) (now : ℚ) (thrown : Thrown) : Thrown × List (String × ℚ) :=
  match guard.policy.classifyException thrown with
  | .error raised => (raised, [])
  | .ok none => (thrown, [])
  | .ok (some .rateLimit) =>
      let (marked, signals) := guard.emitSuspension thrown (guard.rateLimitTtl read now thrown)
      -- an exception of another class is replaced, and the marks stay behind on it
      (if thrown.category = some .rateLimit then marked else { category := some .rateLimit }, signals)
  | .ok (some category) => (if thrown.category = some category then thrown else { category := some category }, [])

end HttpGuard

/-- What leaves nested guards, from the inside out, each with the time at which it is left. -/
def exits (read : String → RetryAfter) : List (HttpGuard × ℚ) → Thrown → Thrown × List (String × ℚ)
  | [], thrown => (thrown, [])
  | (guard, now) :: outer, thrown =>
      let (left, signals) := guard.exit read now thrown
      let (last, more) := exits read outer left
      (last, signals ++ more)

/-- A fetch: the key under which its response would be kept, if there is a store, and what it came to. -/
structure Fetch where
  key : Option String
  answer : Except Thrown Response

/-- The state of a process that makes requests: its own, the stored responses, and what it has fetched, what its
attempts came to, how long it has slept, and the suspensions that were asked for, each since the start. -/
structure World (W : Type) where
  user : W
  snapshots : Dict String Response := Dict.empty
  fetches : List Fetch := []
  attempts : List (Except Thrown Response) := []
  sleeps : List ℚ := []
  signals : List (String × ℚ) := []

/-- A request: where it goes, the key of its response, which may not be computable, and the function that makes it. -/
structure Request (W : Type) where
  url : String
  key : Except Thrown String
  fetch : W → Except Thrown Response × W

structure HttpExecutor where
  guard : HttpGuard
  stored : Bool
  maxRetries : ℤ := 0
  retryDelayBase : Option ℚ := some 1

/-- Whether a status is worth keeping. -/
def isKept (statusCode : ℤ) : Bool :=
  !(statusCode ∈ [408, 425, 429] || decide (500 ≤ statusCode) ||
    statusCode ∈ [429, 500, 502, 503, 504, 520, 521, 522, 524])

variable {W : Type} (host : Host W)

/-- A response as it is stored and handed on: without a status it counts as a success, and the names of its headers
are in lower case. -/
def httpResponse (url : String) (response : Response) : Response where
  statusCode := some (response.statusCode.getD 200)
  headers := Dict.ofPairs (response.headers.entries.map fun header => (host.lower header.1, header.2))
  body := response.body
  url := url

namespace World

/-- Call the function of a request. -/
def fetch (world : World W) (request : Request W) (key : Option String) : Except Thrown Response × World W :=
  let (answer, user) := request.fetch world.user
  (answer, { world with user, fetches := world.fetches ++ [⟨key, answer⟩] })

/-- The store in front of a request. -/
def cached (world : World W) (request : Request W) : Except Thrown Response × World W :=
  match request.key with
  | .error raised => (.error raised, world)
  | .ok key =>
      match world.snapshots.get? key with
      | some response => (.ok response, world)
      | none =>
          match world.fetch request (some key) with
          | (.error thrown, after) => (.error thrown, after)
          | (.ok response, after) =>
              (.ok (httpResponse host request.url response),
                if isKept (response.statusCode.getD 200) then
                  { after with snapshots := after.snapshots.set key (httpResponse host request.url response) }
                else after)

/-- One attempt under the guard, before it is noted. -/
def guarded (executor : HttpExecutor) (request : Request W) (world : World W) : Except Thrown Response × World W :=
  let (outcome, after) := if executor.stored then world.cached host request else world.fetch request none
  let now := host.clock after.user
  match (match outcome with
    | .error thrown => some thrown
    | .ok response => executor.guard.checkResponse host.read now response) with
  | none => (outcome, after)
  | some thrown =>
      let (left, signals) := executor.guard.exit host.read now thrown
      (.error left, { after with signals := after.signals ++ signals })

def attempt (executor : HttpExecutor) (request : Request W) (world : World W) : Except Thrown Response × World W :=
  let (outcome, after) := guarded host executor request world
  (outcome, { after with attempts := after.attempts ++ [outcome] })

end World

/-- Longest wait before a local retry, in seconds, without the jitter. -/
def localRetryWaitMaxSeconds : ℚ := 300

/-- The wait before an attempt, by a base that may not be finite. -/
def retryWait (attempt : ℕ) (base : Option ℚ) (uniform : ℚ) : ℚ :=
  match base with
  | none => 0
  | some base =>
      if base ≤ 0 then 0
      else
        let delay := min (min base localRetryWaitMaxSeconds * (Nat.pow 2 (min (attempt - 1) 60) : ℕ))
          localRetryWaitMaxSeconds
        max 0 (delay + uniform * delay)

def World.pause (world : World W) (seconds : ℚ) : World W :=
  { world with user := host.sleep seconds world.user, sleeps := world.sleeps ++ [seconds] }

/-- The attempts of a request, with the number that is left and the number of those before. -/
def executeFrom (executor : HttpExecutor) (request : Request W) : ℕ → ℕ → World W → Except Thrown Response × World W
  | 0, _, world => (.error { category := some .retry }, world)
  | left + 1, number, world =>
      let ready := if 0 < number then
        world.pause host (retryWait number executor.retryDelayBase (host.uniform world.user).val) else world
      match ready.attempt host executor request with
      | (.ok response, after) => (.ok response, after)
      | (.error thrown, after) =>
          if thrown.category = some .retry ∧ (number : ℤ) < executor.maxRetries then
            executeFrom executor request left (number + 1) after
          else (.error thrown, after)

def execute (executor : HttpExecutor) (request : Request W) (world : World W) : Except Thrown Response × World W :=
  executeFrom host executor request ((max 0 executor.maxRetries).toNat + 1) 0 world

end Tasklite.Wrappers.Http
