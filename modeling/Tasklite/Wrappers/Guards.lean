import Mathlib.Tactic.Linarith
import Tasklite.Library.Machine
import Tasklite.Wrappers.Http

/-! What guards, retries and stored responses come to. A rate limit makes one guard ask for a suspension, the
innermost that can; an executor tries again only what may be tried again, and ends a rate limit at once; and a
response that is worth keeping is fetched once, in whatever order requests are made. -/

namespace Tasklite.Wrappers.Http
open Tasklite.Library

section Guards

variable {read : String → RetryAfter} {guard : HttpGuard} {now : ℚ} {thrown : Thrown}

theorem exit_hit (hit : thrown.category = some .rateLimit) :
    guard.exit read now thrown = guard.emitSuspension thrown (guard.rateLimitTtl read now thrown) := by
  simp [HttpGuard.exit, HttpPolicy.classifyException, hit]

/-- What has been sorted otherwise leaves every guard as it is. -/
theorem exit_settled {category : Category} (settled : thrown.category = some category)
    (other : category ≠ .rateLimit) : guard.exit read now thrown = (thrown, []) := by
  cases category with
  | rateLimit => exact absurd rfl other
  | fatal => simp [HttpGuard.exit, HttpPolicy.classifyException, settled]
  | retry => simp [HttpGuard.exit, HttpPolicy.classifyException, settled]

theorem category_emitSuspension (ttl : ℚ) : (guard.emitSuspension thrown ttl).1.category = thrown.category := by
  unfold HttpGuard.emitSuspension
  split
  · rfl
  · split <;> rfl

theorem length_emitSuspension (ttl : ℚ) : (guard.emitSuspension thrown ttl).2.length ≤ 1 := by
  unfold HttpGuard.emitSuspension
  split
  · exact Nat.zero_le 1
  · split
    · exact Nat.le_refl 1
    · exact Nat.zero_le 1

/-- A guard asks for one suspension at most, and then a rate limit leaves it. -/
theorem exit_signals (guard : HttpGuard) (read : String → RetryAfter) (now : ℚ) (thrown : Thrown) :
    (guard.exit read now thrown).2.length ≤ 1 ∧
      ((guard.exit read now thrown).2 ≠ [] → (guard.exit read now thrown).1.category = some .rateLimit) := by
  unfold HttpGuard.exit
  split
  · exact ⟨Nat.zero_le 1, fun some => absurd rfl some⟩
  · exact ⟨Nat.zero_le 1, fun some => absurd rfl some⟩
  · refine ⟨length_emitSuspension _, fun _ => ?_⟩
    change (if thrown.category = some .rateLimit then
      (guard.emitSuspension thrown (guard.rateLimitTtl read now thrown)).1
        else { category := some .rateLimit }).category = _
    by_cases hit : thrown.category = some .rateLimit
    · rw [if_pos hit, category_emitSuspension, hit]
    · rw [if_neg hit]
  · exact ⟨Nat.zero_le 1, fun some => absurd rfl some⟩

theorem exits_suspended {layers : List (HttpGuard × ℚ)} (hit : thrown.category = some .rateLimit)
    (suspended : thrown.suspended = true) : exits read layers thrown = (thrown, []) := by
  induction layers with
  | nil => rfl
  | cons layer outer ih =>
    have left : layer.1.exit read layer.2 thrown = (thrown, []) := by
      rw [exit_hit hit, HttpGuard.emitSuspension, if_pos suspended]
    simp only [exits, left, ih, List.nil_append]

theorem exits_settled {layers : List (HttpGuard × ℚ)} {category : Category}
    (settled : thrown.category = some category) (other : category ≠ .rateLimit) :
    exits read layers thrown = (thrown, []) := by
  induction layers with
  | nil => rfl
  | cons layer outer ih => simp only [exits, exit_settled settled other, ih, List.nil_append]

/-- The innermost guard that can ask for a suspension does, and marks the exception for those around it. -/
theorem exits_hit (layers : List (HttpGuard × ℚ)) (hit : thrown.category = some .rateLimit)
    (unsuspended : thrown.suspended = false) :
    exits read layers thrown =
      match layers.findSome? fun layer => layer.1.request (layer.1.rateLimitTtl read layer.2 thrown) with
      | some signal => ({ thrown with suspended := true }, [signal])
      | none => (thrown, []) := by
  induction layers with
  | nil => rfl
  | cons layer outer ih =>
    have left := @exit_hit read layer.1 layer.2 thrown hit
    rw [HttpGuard.emitSuspension, if_neg (by simp [unsuspended])] at left
    rw [List.findSome?_cons]
    cases asked : layer.1.request (layer.1.rateLimitTtl read layer.2 thrown) with
    | none =>
      rw [asked] at left
      simp only [exits, left, List.nil_append]
      exact ih
    | some signal =>
      rw [asked] at left
      have rest := @exits_suspended read { thrown with suspended := true } outer hit rfl
      simp only [exits, left, rest, List.append_nil]

theorem length_exits_sorted (layers : List (HttpGuard × ℚ)) (sorted : thrown.category ≠ none) :
    (exits read layers thrown).2.length ≤ 1 := by
  obtain ⟨category, settled⟩ := Option.ne_none_iff_exists'.mp sorted
  by_cases hit : category = .rateLimit
  · rw [hit] at settled
    cases suspended : thrown.suspended with
    | true => rw [exits_suspended settled suspended]; exact Nat.zero_le 1
    | false =>
      rw [exits_hit layers settled suspended]
      split
      · exact Nat.le_refl 1
      · exact Nat.zero_le 1
  · rw [exits_settled settled hit]
    exact Nat.zero_le 1

/-- An exception of no class may be replaced on its way, once, and the mark stays behind on it. -/
theorem length_exits (layers : List (HttpGuard × ℚ)) (thrown : Thrown) :
    (exits read layers thrown).2.length ≤ 2 := by
  induction layers generalizing thrown with
  | nil => exact Nat.zero_le 2
  | cons layer outer ih =>
    obtain ⟨one, limited⟩ := exit_signals layer.1 read layer.2 thrown
    simp only [exits, List.length_append]
    by_cases silent : (layer.1.exit read layer.2 thrown).2 = []
    · rw [silent, List.length_nil, Nat.zero_add]
      exact ih _
    · have rest := @length_exits_sorted read _ outer (by rw [limited silent]; exact Option.some_ne_none _)
      omega

/-- A rate limit on its way out of nested guards makes exactly the innermost one ask for a suspension that can.
Whatever exception it is, two suspensions are asked for at most, and one at most unless the first is for an
exception that a guard had to sort. -/
theorem suspensions_of_exits (read : String → RetryAfter) (layers : List (HttpGuard × ℚ)) (thrown : Thrown) :
    (thrown.category = some .rateLimit → thrown.suspended = false → exits read layers thrown =
      match layers.findSome? fun layer => layer.1.request (layer.1.rateLimitTtl read layer.2 thrown) with
      | some signal => ({ thrown with suspended := true }, [signal])
      | none => (thrown, [])) ∧
    (thrown.category ≠ none → (exits read layers thrown).2.length ≤ 1) ∧
      (exits read layers thrown).2.length ≤ 2 :=
  ⟨exits_hit layers, length_exits_sorted layers, length_exits layers thrown⟩

theorem one_second_pos : (0 : ℚ) < 1 := zero_lt_one

/-- Only seconds are read. -/
def sampleRead (text : String) : RetryAfter := ⟨if text = "75" then some (some 75) else none, none⟩

/-- A guard that may suspend `api` inside one that may suspend `all`. -/
def sampleLayers : List (HttpGuard × ℚ) :=
  [({ ctx := some ⟨["api"]⟩, resource := some "api", defaultSuspendTtl := ⟨1, one_second_pos⟩ }, 0),
    ({ ctx := some ⟨["api", "all"]⟩, resource := some "all", defaultSuspendTtl := ⟨1, one_second_pos⟩ }, 0)]

/-- What a client raises for a status. -/
def sampleThrown : Thrown :=
  { category := none, statusCode := some 429, headers := some (Dict.ofPairs [("Retry-After", "75")]) }

/-- The first guard waits as long as it is told to; the second one finds an exception without a mark. -/
example : (exits sampleRead sampleLayers sampleThrown).2 = [("api", 75), ("all", 1)] := by
  rfl

end Guards

section Executors

variable {W : Type} {host : Host W} {executor : HttpExecutor} {request : Request W} {world : World W}

theorem retryWait_bounds (attempt : ℕ) (base : Option ℚ) (uniform : {q : ℚ // -1/4 ≤ q ∧ q ≤ 1/4}) :
    0 ≤ retryWait attempt base uniform.val ∧ retryWait attempt base uniform.val ≤ 375 := by
  obtain ⟨jitter, low, high⟩ := uniform
  unfold retryWait
  cases base with
  | none => exact ⟨le_refl 0, by norm_num⟩
  | some base =>
    dsimp only
    split
    · exact ⟨le_refl 0, by norm_num⟩
    · rename_i positive
      refine ⟨le_max_left _ _, max_le (by norm_num) ?_⟩
      have most : min (min base localRetryWaitMaxSeconds * (Nat.pow 2 (min (attempt - 1) 60) : ℕ))
          localRetryWaitMaxSeconds ≤ 300 := min_le_right _ _
      have least : 0 ≤ min (min base localRetryWaitMaxSeconds * (Nat.pow 2 (min (attempt - 1) 60) : ℕ))
          localRetryWaitMaxSeconds := by
        have cap : (0 : ℚ) ≤ localRetryWaitMaxSeconds := by norm_num [localRetryWaitMaxSeconds]
        exact le_min (mul_nonneg (le_min (le_of_not_ge positive) cap) (Nat.cast_nonneg _)) cap
      nlinarith

/-- What a call adds to what was noted: fetches, attempts, sleeps and suspensions. -/
structure Noted (world after : World W) (fetches : List Fetch) (attempts : List (Except Thrown Response))
    (sleeps : List ℚ) (signals : List (String × ℚ)) : Prop where
  fetches : after.fetches = world.fetches ++ fetches
  attempts : after.attempts = world.attempts ++ attempts
  sleeps : after.sleeps = world.sleeps ++ sleeps
  signals : after.signals = world.signals ++ signals

theorem Noted.trans {first middle last : World W} {fetches more : List Fetch}
    {attempts later : List (Except Thrown Response)} {sleeps longer : List ℚ} {signals others : List (String × ℚ)}
    (one : Noted first middle fetches attempts sleeps signals) (two : Noted middle last more later longer others) :
    Noted first last (fetches ++ more) (attempts ++ later) (sleeps ++ longer) (signals ++ others) where
  fetches := by rw [two.fetches, one.fetches, List.append_assoc]
  attempts := by rw [two.attempts, one.attempts, List.append_assoc]
  sleeps := by rw [two.sleeps, one.sleeps, List.append_assoc]
  signals := by rw [two.signals, one.signals, List.append_assoc]

theorem noted_fetch (world : World W) (request : Request W) (key : Option String) :
    ∃ fetches, Noted world (world.fetch request key).2 fetches [] [] [] ∧ fetches.length ≤ 1 :=
  ⟨[⟨key, (request.fetch world.user).1⟩], ⟨rfl, by simp [World.fetch], by simp [World.fetch], by simp [World.fetch]⟩,
    Nat.le_refl 1⟩

theorem noted_nothing (world : World W) : Noted world world [] [] [] [] where
  fetches := (List.append_nil _).symm
  attempts := (List.append_nil _).symm
  sleeps := (List.append_nil _).symm
  signals := (List.append_nil _).symm

theorem noted_cached (host : Host W) (world : World W) (request : Request W) :
    ∃ fetches, Noted world (world.cached host request).2 fetches [] [] [] ∧ fetches.length ≤ 1 := by
  unfold World.cached
  cases request.key with
  | error raised => exact ⟨[], noted_nothing world, Nat.zero_le 1⟩
  | ok key =>
    dsimp only
    cases world.snapshots.get? key with
    | some response => exact ⟨[], noted_nothing world, Nat.zero_le 1⟩
    | none =>
      obtain ⟨fetches, noted, few⟩ := noted_fetch world request (some key)
      rcases fetched : world.fetch request (some key) with ⟨thrown | response, after⟩
      · rw [fetched] at noted
        exact ⟨fetches, noted, few⟩
      · rw [fetched] at noted
        refine ⟨fetches, ?_, few⟩
        dsimp only
        split
        · exact ⟨noted.fetches, noted.attempts, noted.sleeps, noted.signals⟩
        · exact noted

/-- What an attempt adds: it fetches once at most, and asks for a suspension only when it ends in a rate limit. -/
structure Attempted (world after : World W) (outcome : Except Thrown Response) (fetches : List Fetch)
    (signals : List (String × ℚ)) : Prop where
  noted : Noted world after fetches [outcome] [] signals
  fetched : fetches.length ≤ 1
  asked : signals.length ≤ 1
  limited : signals ≠ [] → ∃ thrown, outcome = .error thrown ∧ thrown.category = some .rateLimit

theorem attempted (host : Host W) (executor : HttpExecutor) (request : Request W) (world : World W) :
    ∃ fetches signals, Attempted world (world.attempt host executor request).2
      (world.attempt host executor request).1 fetches signals := by
  have target : ∃ fetches, Noted world (if executor.stored then world.cached host request
      else world.fetch request none).2 fetches [] [] [] ∧ fetches.length ≤ 1 := by
    split
    · exact noted_cached host world request
    · exact noted_fetch world request none
  obtain ⟨fetches, noted, few⟩ := target
  unfold World.attempt World.guarded
  rcases called : (if executor.stored then world.cached host request else world.fetch request none) with
    ⟨outcome, after⟩
  rw [called] at noted
  have attempts := noted.attempts
  rw [List.append_nil] at attempts
  dsimp only
  split
  · refine ⟨fetches, [], ⟨noted.fetches, ?_, noted.sleeps, noted.signals⟩, few, Nat.zero_le 1,
      fun some => absurd rfl some⟩
    exact congrArg (· ++ [outcome]) attempts
  · rename_i thrown raised
    obtain ⟨least, limited⟩ := exit_signals executor.guard host.read (host.clock after.user) thrown
    have signals := noted.signals
    rw [List.append_nil] at signals
    refine ⟨fetches, _, ⟨noted.fetches, ?_, noted.sleeps, ?_⟩, few, least, fun some => ⟨_, rfl, limited some⟩⟩
    · exact congrArg (· ++ _) attempts
    · exact congrArg (· ++ _) signals

theorem noted_pause (world : World W) (seconds : ℚ) : Noted world (world.pause host seconds) [] [] [seconds] [] where
  fetches := (List.append_nil _).symm
  attempts := (List.append_nil _).symm
  sleeps := rfl
  signals := (List.append_nil _).symm

/-- How a request is executed, from an attempt of some number on: what was raised by the attempts that were followed
by another one, the waits, and the suspensions. -/
structure Executed (executor : HttpExecutor) (number : ℕ) (world after : World W) (outcome : Except Thrown Response)
    (fetches : List Fetch) (retried : List Thrown) (sleeps : List ℚ) (signals : List (String × ℚ)) : Prop where
  noted : Noted world after fetches (retried.map Except.error ++ [outcome]) sleeps signals
  transient : ∀ thrown ∈ retried, thrown.category = some .retry
  few : number + retried.length ≤ executor.maxRetries.toNat
  exhausted : ∀ thrown, outcome = .error thrown → thrown.category = some .retry →
    number + retried.length = executor.maxRetries.toNat
  fetched : fetches.length ≤ retried.length + 1
  pauses : sleeps.length = retried.length + if 0 < number then 1 else 0
  waits : ∀ seconds ∈ sleeps, 0 ≤ seconds ∧ seconds ≤ 375
  asked : signals.length ≤ 1
  limited : signals ≠ [] → ∃ thrown, outcome = .error thrown ∧ thrown.category = some .rateLimit

/-- The wait before an attempt that is not the first one. -/
theorem noted_ready (host : Host W) (number : ℕ) (world : World W) (base : Option ℚ) :
    ∃ sleeps, Noted world (if 0 < number then
        world.pause host (retryWait number base (host.uniform world.user).val) else world) [] [] sleeps [] ∧
      (sleeps.length = if 0 < number then 1 else 0) ∧ ∀ seconds ∈ sleeps, 0 ≤ seconds ∧ seconds ≤ 375 := by
  by_cases later : 0 < number
  · rw [if_pos later, if_pos later]
    refine ⟨_, noted_pause world _, rfl, fun seconds member => ?_⟩
    rw [List.mem_singleton.mp member]
    exact retryWait_bounds _ _ _
  · rw [if_neg later, if_neg later]
    exact ⟨[], noted_nothing world, rfl, fun seconds member => by cases member⟩

/-- An attempt that is not followed by another one. -/
theorem executed_ended {number : ℕ} {ready after : World W} {outcome : Except Thrown Response} {fetches : List Fetch}
    {sleeps : List ℚ} {signals : List (String × ℚ)} (readied : Noted world ready [] [] sleeps [])
    (pauses : sleeps.length = if 0 < number then 1 else 0) (waits : ∀ seconds ∈ sleeps, 0 ≤ seconds ∧ seconds ≤ 375)
    (tried : Attempted ready after outcome fetches signals) (fits : number ≤ executor.maxRetries.toNat)
    (ended : ∀ thrown, outcome = .error thrown → thrown.category = some .retry →
      number = executor.maxRetries.toNat) :
    Executed executor number world after outcome fetches [] sleeps signals where
  noted := by simpa using readied.trans tried.noted
  transient := fun thrown member => by cases member
  few := fits
  exhausted := ended
  fetched := tried.fetched
  pauses := by simpa using pauses
  waits := waits
  asked := tried.asked
  limited := tried.limited

/-- An attempt that raises what may be tried again, and the attempts after it. -/
theorem executed_again {number : ℕ} {ready between after : World W} {outcome : Except Thrown Response}
    {thrown : Thrown} {fetches more : List Fetch} {retried : List Thrown} {sleeps longer : List ℚ}
    {signals others : List (String × ℚ)} (readied : Noted world ready [] [] sleeps [])
    (pauses : sleeps.length = if 0 < number then 1 else 0) (waits : ∀ seconds ∈ sleeps, 0 ≤ seconds ∧ seconds ≤ 375)
    (tried : Attempted ready between (.error thrown) fetches signals) (transient : thrown.category = some .retry)
    (rest : Executed executor (number + 1) between after outcome more retried longer others) :
    Executed executor number world after outcome (fetches ++ more) (thrown :: retried) (sleeps ++ longer) others := by
  have silent : signals = [] := by
    by_contra some
    obtain ⟨_, same, hit⟩ := tried.limited some
    cases same
    rw [transient] at hit
    cases hit
  have noted := (readied.trans tried.noted).trans rest.noted
  have pausesRest := rest.pauses
  rw [if_pos (Nat.succ_pos number)] at pausesRest
  refine ⟨by simpa [silent] using noted, ?_, ?_, ?_, ?_, ?_, ?_, rest.asked, rest.limited⟩
  · exact List.forall_mem_cons.mpr ⟨transient, rest.transient⟩
  · have few := rest.few
    rw [List.length_cons]
    omega
  · intro last same retry
    have exhausted := rest.exhausted last same retry
    rw [List.length_cons]
    omega
  · have one := tried.fetched
    have others := rest.fetched
    rw [List.length_append, List.length_cons]
    omega
  · rw [List.length_append, List.length_cons, pauses, pausesRest]
    omega
  · exact List.forall_mem_append.mpr ⟨waits, rest.waits⟩

theorem executed_from (host : Host W) (request : Request W) (left number : ℕ) (world : World W)
    (fits : number + left = executor.maxRetries.toNat) :
    ∃ fetches retried sleeps signals, Executed executor number world
      (executeFrom host executor request (left + 1) number world).2
      (executeFrom host executor request (left + 1) number world).1 fetches retried sleeps signals := by
  induction left generalizing number world with
  | zero =>
    obtain ⟨sleeps, readied, pauses, waits⟩ := noted_ready host number world executor.retryDelayBase
    rw [executeFrom]
    generalize (if 0 < number then _ else world) = ready at readied ⊢
    obtain ⟨fetches, signals, attempt⟩ := attempted host executor request ready
    have last : ¬ (number : ℤ) < executor.maxRetries := by omega
    have spent : ∀ thrown, (ready.attempt host executor request).1 = .error thrown →
        thrown.category = some .retry → number = executor.maxRetries.toNat := fun _ _ _ => by omega
    have ended := executed_ended readied pauses waits attempt (by omega) spent
    rcases tried : ready.attempt host executor request with ⟨thrown | response, after⟩
    · rw [tried] at ended
      dsimp only
      rw [if_neg fun both => last both.2]
      exact ⟨_, _, _, _, ended⟩
    · rw [tried] at ended
      exact ⟨_, _, _, _, ended⟩
  | succ left ih =>
    obtain ⟨sleeps, readied, pauses, waits⟩ := noted_ready host number world executor.retryDelayBase
    rw [executeFrom]
    generalize (if 0 < number then _ else world) = ready at readied ⊢
    obtain ⟨fetches, signals, attempt⟩ := attempted host executor request ready
    have more : (number : ℤ) < executor.maxRetries := by omega
    rcases tried : ready.attempt host executor request with ⟨thrown | response, after⟩
    · rw [tried] at attempt
      dsimp only
      by_cases transient : thrown.category = some .retry
      · rw [if_pos ⟨transient, more⟩]
        obtain ⟨_, _, _, _, rest⟩ := ih (number + 1) after (by omega)
        exact ⟨_, _, _, _, executed_again readied pauses waits attempt transient rest⟩
      · rw [if_neg fun both => transient both.1]
        refine ⟨_, _, _, _, executed_ended readied pauses waits attempt (by omega) ?_⟩
        intro other same retry
        cases same
        exact absurd retry transient
    · rw [tried] at attempt
      refine ⟨_, _, _, _, executed_ended readied pauses waits attempt (by omega) ?_⟩
      intro other same
      cases same

/-- A request is tried at most once more for every retry that is left to it. What each attempt but the last has
raised may be tried again, and what the last one comes to is the answer; a suspension is asked for once at most, by
an attempt that ends in a rate limit, after which there is no other. -/
theorem requests_are_tried (host : Host W) (executor : HttpExecutor) (request : Request W) (world : World W) :
    ∃ fetches retried sleeps signals, Executed executor 0 world (execute host executor request world).2
      (execute host executor request world).1 fetches retried sleeps signals := by
  unfold execute
  rw [show (max 0 executor.maxRetries).toNat = executor.maxRetries.toNat by omega]
  exact executed_from host request _ 0 world (Nat.zero_add _)

end Executors

section Snapshots

variable {W : Type} {host : Host W}

/-- A fetch whose response is put into the store. -/
def Fetch.isKept (fetch : Fetch) : Bool :=
  match fetch.key, fetch.answer with
  | some _, .ok response => Http.isKept (response.statusCode.getD 200)
  | _, _ => false

/-- What the store and the fetches of a process have to do with each other. What is stored was fetched under its key
and is worth keeping; what was fetched under a key and is worth keeping is stored, and was the last fetch under its
key. -/
structure Sound (host : Host W) (world : World W) : Prop where
  stored : ∀ key response, world.snapshots.get? key = some response → ∃ url answer,
    ⟨some key, .ok answer⟩ ∈ world.fetches ∧ isKept (answer.statusCode.getD 200) = true ∧
      response = httpResponse host url answer
  known : ∀ fetch ∈ world.fetches, fetch.isKept = true → ∀ key, fetch.key = some key →
    world.snapshots.get? key ≠ none
  last : world.fetches.Pairwise fun earlier later => earlier.isKept = true → later.key ≠ earlier.key

/-- The store only grows. -/
def Grows (world after : World W) : Prop :=
  ∀ key response, world.snapshots.get? key = some response → after.snapshots.get? key = some response

/-- A relation that holds across each of the steps that an execution is made of. -/
structure Carried (host : Host W) (executor : HttpExecutor) (request : Request W)
    (relation : World W → World W → Prop) : Prop where
  trans : ∀ {first middle last}, relation first middle → relation middle last → relation first last
  called : ∀ world : World W,
    relation world (if executor.stored then world.cached host request else world.fetch request none).2
  noted : ∀ world after : World W, after.snapshots = world.snapshots → after.fetches = world.fetches →
    relation world after

variable {executor : HttpExecutor} {request : Request W} {relation : World W → World W → Prop}

theorem Carried.attempt (carried : Carried host executor request relation) (world : World W) :
    relation world (world.attempt host executor request).2 := by
  have target := carried.called world
  unfold World.attempt World.guarded
  rcases called : (if executor.stored then world.cached host request else world.fetch request none) with
    ⟨outcome, after⟩
  rw [called] at target
  dsimp only
  split
  · exact carried.trans target (carried.noted _ _ rfl rfl)
  · exact carried.trans target (carried.noted _ _ rfl rfl)

/-- It holds across whole executions. -/
theorem Carried.execute (carried : Carried host executor request relation) (world : World W) :
    relation world (execute host executor request world).2 := by
  unfold Http.execute
  generalize (max 0 executor.maxRetries).toNat + 1 = left
  generalize 0 = number
  induction left generalizing number world with
  | zero => exact carried.noted _ _ rfl rfl
  | succ left ih =>
    rw [executeFrom]
    have readied : relation world (if 0 < number then
        world.pause host (retryWait number executor.retryDelayBase (host.uniform world.user).val) else world) := by
      split
      · exact carried.noted _ _ rfl rfl
      · exact carried.noted _ _ rfl rfl
    generalize (if 0 < number then _ else world) = ready at readied ⊢
    have attempt := carried.trans readied (carried.attempt ready)
    rcases tried : ready.attempt host executor request with ⟨thrown | response, after⟩
    · rw [tried] at attempt
      dsimp only
      split
      · exact carried.trans attempt (ih after (number + 1))
      · exact attempt
    · rw [tried] at attempt
      exact attempt

theorem grows_cached (world : World W) (request : Request W) : Grows world (world.cached host request).2 := by
  unfold World.cached
  cases request.key with
  | error raised => exact fun _ _ found => found
  | ok key =>
    dsimp only
    cases absent : world.snapshots.get? key with
    | some response => exact fun _ _ found => found
    | none =>
      rcases fetched : world.fetch request (some key) with ⟨thrown | response, after⟩
      · obtain rfl : after = _ := (congrArg Prod.snd fetched).symm
        exact fun _ _ found => found
      · obtain rfl : after = _ := (congrArg Prod.snd fetched).symm
        dsimp only
        split
        · intro other stored found
          have different : other ≠ key := by
            rintro rfl
            rw [absent] at found
            cases found
          exact (Dict.get?_set_of_ne _ _ different).trans found
        · exact fun _ _ found => found

theorem grows_carried (host : Host W) (executor : HttpExecutor) (request : Request W) :
    Carried host executor request Grows where
  trans one two := fun key response found => two key response (one key response found)
  called world := by
    split
    · exact grows_cached world request
    · exact fun _ _ found => found
  noted _ _ same _ := fun _ _ found => by rw [same]; exact found

/-- A fetch under a key that is not stored comes after no fetch that was worth keeping under it. -/
theorem Sound.fetched {world : World W} (sound : Sound host world) (fetch : Fetch)
    (absent : ∀ key, fetch.key = some key → world.snapshots.get? key = none) :
    (world.fetches ++ [fetch]).Pairwise fun earlier later => earlier.isKept = true → later.key ≠ earlier.key := by
  refine List.pairwise_append.mpr ⟨sound.last, List.pairwise_singleton _ _, ?_⟩
  intro earlier member later same kept equal
  obtain rfl := List.mem_singleton.mp same
  cases key : earlier.key with
  | none => simp [Fetch.isKept, key] at kept
  | some name => exact sound.known earlier member kept name key (absent name (equal.trans key))

/-- What is not worth keeping leaves the store as it is. -/
theorem Sound.unkept {world after : World W} (sound : Sound host world) (fetch : Fetch)
    (absent : ∀ key, fetch.key = some key → world.snapshots.get? key = none) (unkept : fetch.isKept = false)
    (fetches : after.fetches = world.fetches ++ [fetch]) (snapshots : after.snapshots = world.snapshots) :
    Sound host after where
  stored key response found := by
    rw [snapshots] at found
    obtain ⟨url, answer, member, kept, same⟩ := sound.stored key response found
    exact ⟨url, answer, fetches ▸ List.mem_append_left _ member, kept, same⟩
  known earlier member kept key same := by
    rw [fetches] at member
    rw [snapshots]
    rcases List.mem_append.mp member with old | new
    · exact sound.known earlier old kept key same
    · rw [List.mem_singleton.mp new, unkept] at kept
      cases kept
  last := fetches ▸ sound.fetched fetch absent

/-- What is worth keeping is stored under its key. -/
theorem Sound.kept {world after : World W} (sound : Sound host world) {key url : String} {answer : Response}
    (absent : world.snapshots.get? key = none) (kept : isKept (answer.statusCode.getD 200) = true)
    (fetches : after.fetches = world.fetches ++ [⟨some key, .ok answer⟩])
    (snapshots : after.snapshots = world.snapshots.set key (httpResponse host url answer)) : Sound host after where
  stored other response found := by
    rw [snapshots] at found
    by_cases same : other = key
    · rw [same, Dict.get?_set_self] at found
      rw [same]
      exact ⟨url, answer, fetches ▸ List.mem_append_right _ List.mem_cons_self, kept, (Option.some.inj found).symm⟩
    · rw [Dict.get?_set_of_ne _ _ same] at found
      obtain ⟨url, answer, member, kept, equal⟩ := sound.stored other response found
      exact ⟨url, answer, fetches ▸ List.mem_append_left _ member, kept, equal⟩
  known earlier member worth other same := by
    rw [snapshots]
    by_cases equal : other = key
    · rw [equal, Dict.get?_set_self]
      exact Option.some_ne_none _
    · rw [Dict.get?_set_of_ne _ _ equal]
      rw [fetches] at member
      rcases List.mem_append.mp member with old | new
      · exact sound.known earlier old worth other same
      · rw [List.mem_singleton.mp new] at same
        exact absurd (Option.some.inj same).symm equal
  last := fetches ▸ sound.fetched _ fun other same => by cases same; exact absent

theorem sound_cached (world : World W) (request : Request W) (sound : Sound host world) :
    Sound host (world.cached host request).2 := by
  unfold World.cached
  cases request.key with
  | error raised => exact sound
  | ok key =>
    dsimp only
    cases stored : world.snapshots.get? key with
    | some response => exact sound
    | none =>
      have absent (other : String) (same : some key = some other) : world.snapshots.get? other = none := by
        cases same
        exact stored
      unfold World.fetch
      rcases request.fetch world.user with ⟨thrown | response, user⟩
      · exact sound.unkept _ absent rfl rfl rfl
      · dsimp only
        split
        · rename_i kept
          exact sound.kept stored kept rfl rfl
        · rename_i unkept
          exact sound.unkept ⟨some key, .ok response⟩ absent (Bool.eq_false_iff.mpr unkept) rfl rfl

theorem sound_carried (host : Host W) (executor : HttpExecutor) (request : Request W) :
    Carried host executor request fun world after => Sound host world → Sound host after where
  trans one two := fun sound => two (one sound)
  called world := by
    intro sound
    split
    · exact sound_cached world request sound
    · exact sound.unkept ⟨none, (request.fetch world.user).1⟩ (fun _ same => by cases same) rfl rfl rfl
  noted _ _ snapshots fetches := fun sound =>
    ⟨by rw [snapshots, fetches]; exact sound.stored, by rw [snapshots, fetches]; exact sound.known,
      by rw [fetches]; exact sound.last⟩

/-- A request whose response is stored fetches nothing. -/
theorem replayed_carried {key : String} {response : Response} (stored : executor.stored = true)
    (named : request.key = .ok key) :
    Carried host executor request fun world after => world.snapshots.get? key = some response →
      after.snapshots = world.snapshots ∧ after.fetches = world.fetches where
  trans one two := fun found => by
    obtain ⟨snapshots, fetches⟩ := one found
    obtain ⟨later, last⟩ := two (snapshots ▸ found)
    exact ⟨later.trans snapshots, last.trans fetches⟩
  called world := by
    intro found
    rw [if_pos stored, World.cached, named]
    simp only [found, and_self]
  noted _ _ snapshots fetches := fun _ => ⟨snapshots, fetches⟩

/-- One request of a process. -/
def serve (host : Host W) (world : World W) (call : HttpExecutor × Request W) : World W :=
  (execute host call.1 call.2 world).2

/-- However a process makes its requests, what it stores was fetched once and for all: no later request changes it,
none fetches it again, and nothing is stored that is not worth keeping. -/
theorem responses_are_fetched_once (host : Host W) (user : W) (calls more : List (HttpExecutor × Request W)) :
    Sound host (Machine.run (serve host) { user } calls) ∧
      Grows (Machine.run (serve host) { user } calls) (Machine.run (serve host) { user } (calls ++ more)) ∧
      ∀ (executor : HttpExecutor) (request : Request W) (key : String) (response : Response),
        executor.stored = true → request.key = .ok key →
        (Machine.run (serve host) { user } calls).snapshots.get? key = some response →
          (serve host (Machine.run (serve host) { user } calls) (executor, request)).fetches =
            (Machine.run (serve host) { user } calls).fetches := by
  have fresh : Sound host ({ user } : World W) := by
    refine ⟨fun _ _ found => ?_, fun _ member => ?_, List.Pairwise.nil⟩
    · cases found
    · cases member
  refine ⟨?_, ?_, ?_⟩
  · exact Machine.run_invariant fresh (fun world call sound =>
      (sound_carried host call.1 call.2).execute world sound) calls
  · rw [Machine.run_append]
    generalize Machine.run (serve host) { user } calls = world
    apply @Machine.run_invariant _ _ (serve host) (Grows world)
    · exact fun _ _ found => found
    · exact fun between call grown key response found =>
        (grows_carried host call.1 call.2).execute between key response (grown key response found)
  · intro executor request key response stored named found
    exact ((replayed_carried stored named).execute _ found).2

end Snapshots
end Tasklite.Wrappers.Http
