import Mathlib.Tactic.Linarith
import Mathlib.Tactic.NormNum
import Tasklite.Engine.Availability
import Tasklite.Engine.Redelivery

/-! Suspensions that outlive the process. The deadlines of waiting resources are written as instants of the wall clock;
after a restart what is left of them is asked for as a suspension of the fresh resources. -/

namespace Tasklite.Engine.Suspension
open Tasklite.Library Tasklite.Models Redelivery

section Store

/-- The deadline of a resource that waits. -/
def suspendedUntil (now : ℚ) (resource : Resource) : Option ℚ :=
  if availableFrom resource > now then some (availableFrom resource) else none

/-- The deadlines of all resources that wait, as instants of the wall clock. -/
def collectSuspensions (manager : ResourceManager) (nowMono nowWall : ℚ) : Dict String ℚ :=
  Dict.ofPairs (manager.resources.entries.filterMap fun entry =>
    match suspendedUntil nowMono entry.2 with
    | some deadline => if deadline > nowMono then some (entry.1, nowWall + (deadline - nowMono)) else none
    | none => none)

/-- What `loads` reads after `dumps` has written it. -/
def persisted (suspensions : Dict String ℚ) : Record := Dict.ofPairs (Dict.mapEntries Json.float suspensions.entries)

/-- The loop of `restore_suspensions`. What is not a number is passed over, and so are deadlines that have passed and
resources that are not registered. There is no result where an integer is too large for `isfinite`. -/
def restoreEntries (nowMono nowWall : ℚ) : List (String × Json) → ResourceManager → Option ResourceManager
  | [], manager => some manager
  | (name, deadline) :: rest, manager =>
      match Number.ofJson deadline with
      | none => restoreEntries nowMono nowWall rest manager
      | some number =>
          if !number.isFinite then none
          else if number.value - nowWall ≤ 0 then restoreEntries nowMono nowWall rest manager
          else
            restoreEntries nowMono nowWall rest
              (manager.suspendResource nowMono name (number.value - nowWall)).1

def restoreSuspensions (manager : ResourceManager) (nowMono nowWall : ℚ) (suspensions : Record) :
    Option ResourceManager :=
  restoreEntries nowMono nowWall suspensions.entries manager

/-- `RateLimitResource(name, interval_seconds)`. -/
def newRateLimit (intervalSeconds now : ℚ) (positive : 0 < intervalSeconds) : RateLimitResource where
  intervalSeconds := intervalSeconds
  nextAvailable := now
  positive := positive

/-- `CapacityResource(name, max_capacity)`. -/
def newCapacity (maxCapacity : ℚ) (nonnegative : 0 ≤ maxCapacity) : CapacityResource where
  maxCapacity := maxCapacity
  used := 0
  suspendedUntil := 0
  releaseOverruns := 0
  nonnegative := nonnegative

end Store

section Reached

/-- A resource as it is constructed. -/
inductive Fresh (now : ℚ) : Resource → Prop
  | rateLimit (intervalSeconds : ℚ) (positive : 0 < intervalSeconds) :
      Fresh now (.rateLimit (newRateLimit intervalSeconds now positive))
  | capacity (maxCapacity : ℚ) (nonnegative : 0 ≤ maxCapacity) :
      Fresh now (.capacity (newCapacity maxCapacity nonnegative))

/-- A resource that has been constructed, acquired, released and suspended on a clock that does not go back. The
monotonic clock counts from a start, so it is not negative. -/
inductive Reached : ℚ → Resource → Prop
  | constructed {now : ℚ} {resource : Resource} : 0 ≤ now → Fresh now resource → Reached now resource
  | wait {earlier now : ℚ} {resource : Resource} : Reached earlier resource → earlier ≤ now → Reached now resource
  | acquire {now : ℚ} {resource taken : Resource} (amount : Number) :
      Reached now resource → resource.acquire now amount = .ok taken → Reached now taken
  | release {now : ℚ} {resource released : Resource} (amount : Number) :
      Reached now resource → resource.release amount = .ok released → Reached now released
  | suspend {now : ℚ} {resource : Resource} (seconds : ℚ) :
      Reached now resource → Reached now (resource.suspend now seconds)

variable {now : ℚ} {resource : Resource}

theorem clampSuspend_nonneg (seconds : ℚ) : 0 ≤ clampSuspend seconds := by
  unfold clampSuspend maxSuspendSeconds
  split
  · exact le_rfl
  · split
    · norm_num
    · linarith

theorem clampSuspend_le (seconds : ℚ) : clampSuspend seconds ≤ maxSuspendSeconds := by
  unfold clampSuspend maxSuspendSeconds
  split
  · norm_num
  · split <;> linarith

theorem clampSuspend_of_pos {seconds : ℚ} (positive : 0 < seconds) :
    clampSuspend seconds = min seconds maxSuspendSeconds := by
  unfold clampSuspend
  rw [if_neg positive.not_ge]
  split
  · rename_i long
    exact (min_eq_right long.le).symm
  · rename_i short
    exact (min_eq_left (not_lt.mp short)).symm

theorem capacity_of_acquire {amount : Number} {capacity : CapacityResource}
    (taken : resource.acquire now amount = .ok (.capacity capacity)) :
    ∃ before, resource = .capacity before ∧ capacity.suspendedUntil = before.suspendedUntil := by
  cases resource with
  | rateLimit limit =>
    rw [Resource.acquire] at taken
    cases advanced : limit.acquire now amount with
    | error refusal =>
      rw [advanced] at taken
      cases taken
    | ok limit =>
      rw [advanced] at taken
      cases taken
  | capacity before =>
    refine ⟨before, rfl, ?_⟩
    simp only [Resource.acquire, CapacityResource.acquire] at taken
    split at taken
    · cases taken
    · split at taken
      · cases taken
      · cases taken
        rfl

theorem capacity_of_release {amount : Number} {capacity : CapacityResource}
    (released : resource.release amount = .ok (.capacity capacity)) :
    ∃ before, resource = .capacity before ∧ capacity.suspendedUntil = before.suspendedUntil := by
  cases resource with
  | rateLimit limit => cases released
  | capacity before =>
    refine ⟨before, rfl, ?_⟩
    simp only [Resource.release, CapacityResource.release] at released
    split at released
    · cases released
    · cases released
      rfl

/-- Only suspensions move the deadline of a capacity, so it is never further away than the longest of them. -/
theorem Reached.capacity_deadline (reached : Reached now resource) :
    0 ≤ now ∧ ∀ capacity, resource = .capacity capacity → capacity.suspendedUntil ≤ now + maxSuspendSeconds := by
  induction reached with
  | constructed started fresh =>
    refine ⟨started, ?_⟩
    rintro capacity rfl
    cases fresh
    show (0 : ℚ) ≤ _
    unfold maxSuspendSeconds
    linarith
  | wait _ later ih =>
    refine ⟨ih.1.trans later, ?_⟩
    intro capacity same
    have before := ih.2 capacity same
    linarith
  | acquire amount _ taken ih =>
    refine ⟨ih.1, ?_⟩
    rintro capacity rfl
    obtain ⟨before, rfl, same⟩ := capacity_of_acquire taken
    exact same ▸ ih.2 before rfl
  | release amount _ released ih =>
    refine ⟨ih.1, ?_⟩
    rintro capacity rfl
    obtain ⟨before, rfl, same⟩ := capacity_of_release released
    exact same ▸ ih.2 before rfl
  | @suspend now before seconds _ ih =>
    refine ⟨ih.1, ?_⟩
    intro capacity same
    cases before with
    | rateLimit limit => cases same
    | capacity before =>
      cases same
      exact max_le (ih.2 before rfl) (add_le_add_right (clampSuspend_le seconds) now)

end Reached

section Restoring

variable {nowMono nowWall : ℚ} {manager : ResourceManager} {name : String}

/-- What is restored of one resource: a deadline ahead becomes a suspension for what is left of it. -/
def resume (nowMono nowWall : ℚ) (deadline : Option ℚ) (resource : Resource) : Resource :=
  match deadline with
  | some deadline => if deadline - nowWall ≤ 0 then resource else resource.suspend nowMono (deadline - nowWall)
  | none => resource

/-- Deadlines written as floats are restored one by one. -/
theorem get?_restoreEntries {deadlines : List (String × ℚ)} (distinct : (deadlines.map Prod.fst).Nodup) :
    ∃ restored, restoreEntries nowMono nowWall (Dict.mapEntries Json.float deadlines) manager = some restored ∧
      ∀ name, restored.resources.get? name =
        (manager.resources.get? name).map (resume nowMono nowWall (Dict.find name deadlines)) := by
  induction deadlines generalizing manager with
  | nil =>
    refine ⟨manager, rfl, ?_⟩
    intro name
    have same : resume nowMono nowWall (Dict.find name []) = id := by
      funext resource
      rfl
    rw [same, Option.map_id_fun, id]
  | cons entry rest ih =>
    obtain ⟨other, deadline⟩ := entry
    rw [List.map_cons, List.nodup_cons] at distinct
    have alone : Dict.find other rest = none := by
      by_contra found
      obtain ⟨value, found⟩ := Option.ne_none_iff_exists'.mp found
      exact distinct.1 (Dict.mem_keys_iff.mpr ⟨value, found⟩)
    have number : restoreEntries nowMono nowWall (Dict.mapEntries Json.float ((other, deadline) :: rest)) manager =
        if deadline - nowWall ≤ 0 then restoreEntries nowMono nowWall (Dict.mapEntries Json.float rest) manager
        else restoreEntries nowMono nowWall (Dict.mapEntries Json.float rest)
          (manager.suspendResource nowMono other (deadline - nowWall)).1 := rfl
    rw [number]
    split
    · rename_i passed
      obtain ⟨restored, runs, values⟩ := @ih manager distinct.2
      refine ⟨restored, runs, ?_⟩
      intro name
      rw [values name]
      by_cases same : name = other
      · subst same
        have settled : resume nowMono nowWall (Dict.find name rest) =
            resume nowMono nowWall (Dict.find name ((name, deadline) :: rest)) := by
          funext resource
          simp [alone, Dict.find, resume, passed]
        rw [settled]
      · simp [Dict.find, same]
    · rename_i ahead
      obtain ⟨restored, runs, values⟩ :=
        @ih (manager.suspendResource nowMono other (deadline - nowWall)).1 distinct.2
      refine ⟨restored, runs, ?_⟩
      intro name
      rw [values name, get?_suspendResource]
      by_cases same : name = other
      · subst same
        have settled : resume nowMono nowWall (Dict.find name rest) ∘
            (fun resource => resource.suspend nowMono (deadline - nowWall)) =
            resume nowMono nowWall (Dict.find name ((name, deadline) :: rest)) := by
          funext resource
          simp [alone, Dict.find, resume, ahead]
        rw [if_pos rfl, Option.map_map, settled]
      · rw [if_neg (Ne.symm same)]
        simp [Dict.find, same]

/-- What is collected of one resource. -/
theorem get?_collectSuspensions (manager : ResourceManager) (nowMono nowWall : ℚ) (name : String) :
    (collectSuspensions manager nowMono nowWall).get? name = (manager.resources.get? name).bind fun resource =>
      if availableFrom resource > nowMono then some (nowWall + (availableFrom resource - nowMono)) else none := by
  have kept : ∀ entry : String × Resource, (match suspendedUntil nowMono entry.2 with
      | some deadline => if deadline > nowMono then some (entry.1, nowWall + (deadline - nowMono)) else none
      | none => none) = (if availableFrom entry.2 > nowMono then
        some (entry.1, nowWall + (availableFrom entry.2 - nowMono)) else none) := by
    intro entry
    unfold suspendedUntil
    split_ifs with waits
    · simp [waits]
    · rfl
  have names : ((manager.resources.entries.filterMap fun entry =>
      if availableFrom entry.2 > nowMono then
        some (entry.1, nowWall + (availableFrom entry.2 - nowMono)) else none).map Prod.fst).Nodup := by
    have distinct := manager.resources.distinct
    rw [List.Nodup, List.pairwise_map] at distinct ⊢
    rw [List.pairwise_filterMap]
    refine distinct.imp ?_
    intro first second different left is right also
    rw [Option.ite_none_right_eq_some, Option.some.injEq] at is also
    rw [← is.2, ← also.2]
    exact different
  apply Option.ext
  intro deadline
  rw [← Dict.mem_entries, collectSuspensions]
  simp only [kept]
  rw [Dict.entries_ofPairs names, List.mem_filterMap]
  constructor
  · rintro ⟨⟨other, resource⟩, member, is⟩
    rw [Option.ite_none_right_eq_some, Option.some.injEq, Prod.mk.injEq] at is
    obtain ⟨waits, rfl, rfl⟩ := is
    rw [Dict.mem_entries.mp member, Option.bind_some, if_pos waits]
  · intro collected
    obtain ⟨resource, registered, is⟩ := Option.bind_eq_some_iff.mp collected
    rw [Option.ite_none_right_eq_some, Option.some.injEq] at is
    obtain ⟨waits, rfl⟩ := is
    exact ⟨(name, resource), Dict.mem_entries.mpr registered, by rw [if_pos waits]⟩

end Restoring

section Restart

/-- Before its deadline a resource is not handed out. -/
def Waits (now : ℚ) (resource : Resource) : Prop := now < availableFrom resource

/-- The amount fits; a rate limit has no amounts. -/
def Room (amount : Number) : Resource → Prop
  | .rateLimit _ => True
  | .capacity resource => resource.used + amount.value ≤ resource.maxCapacity ∧ amount.value ≤ resource.maxCapacity

theorem canAcquire_iff (now : ℚ) (amount : Number) (resource : Resource) :
    (resource.canAcquire now amount).1 = true ↔ ¬ Waits now resource ∧ Room amount resource := by
  cases resource with
  | rateLimit resource => simpa [Resource.canAcquire, Waits, Room, availableFrom] using
      Availability.rateLimit_canAcquire_iff resource
  | capacity resource => simpa [Resource.canAcquire, Waits, Room, availableFrom] using
      Availability.capacity_canAcquire_iff resource amount

/-- From the restart on, the new resource waits whenever the old one would. Instants are of the wall clock, which is
ahead of the monotonic clock of either process by a fixed time. -/
def NoEarlier (restored before after : ℚ) (old new : Resource) : Prop :=
  ∀ wall ≥ restored, Waits (wall - before) old → Waits (wall - after) new

/-- From the restart on, the new resource only waits while the old one would. -/
def NoLater (restored before after : ℚ) (old new : Resource) : Prop :=
  ∀ wall ≥ restored, Waits (wall - after) new → Waits (wall - before) old

variable {collected before restored after : ℚ} {old fresh : Resource}

theorem availableFrom_fresh {instant now : ℚ} (constructed : Fresh instant fresh) (past : instant ≤ now)
    (started : 0 ≤ now) : availableFrom fresh ≤ now := by
  cases constructed with
  | rateLimit => exact past
  | capacity => exact started

/-- After the restart a resource waits as long as before it, but no longer than the longest suspension. -/
theorem waits_resume (later : collected ≤ restored) (ready : availableFrom fresh ≤ restored - after) {wall : ℚ}
    (since : wall ≥ restored) :
    Waits (wall - after) (resume (restored - after) restored
        (if availableFrom old > collected - before then
          some (collected + (availableFrom old - (collected - before))) else none) fresh) ↔
      Waits (wall - before) old ∧ wall - restored < maxSuspendSeconds := by
  have idle : ¬ Waits (wall - after) fresh := by
    unfold Waits
    linarith
  unfold resume
  split_ifs with waiting
  · dsimp only
    split_ifs with passed
    · have expired : ¬ Waits (wall - before) old := by
        unfold Waits
        linarith
      simp [idle, expired]
    · rw [Waits, availableFrom_suspend, clampSuspend_of_pos (not_le.mp passed), lt_max_iff]
      have late : ¬ wall - after < availableFrom fresh := idle
      have rest : wall - after < restored - after +
          min (collected + (availableFrom old - (collected - before)) - restored) maxSuspendSeconds ↔
          wall - restored < min (collected + (availableFrom old - (collected - before)) - restored)
            maxSuspendSeconds := by
        constructor <;> intro less <;> linarith
      rw [rest, lt_min_iff, Waits]
      constructor
      · rintro (early | ⟨left, short⟩)
        · exact absurd early late
        · exact ⟨by linarith, short⟩
      · rintro ⟨left, short⟩
        exact .inr ⟨by linarith, short⟩
  · have expired : ¬ Waits (wall - before) old := by
      unfold Waits
      linarith
    simp [idle, expired]

theorem noEarlier_resume_iff (later : collected ≤ restored) (ready : availableFrom fresh ≤ restored - after) :
    NoEarlier restored before after old (resume (restored - after) restored
        (if availableFrom old > collected - before then
          some (collected + (availableFrom old - (collected - before))) else none) fresh) ↔
      availableFrom old + before - restored ≤ maxSuspendSeconds := by
  constructor
  · intro keeps
    by_contra long
    rw [not_le] at long
    have since : restored + maxSuspendSeconds ≥ restored := by
      unfold maxSuspendSeconds
      linarith
    have waits := keeps (restored + maxSuspendSeconds) since (by unfold Waits; linarith)
    rw [waits_resume later ready since] at waits
    linarith [waits.2]
  · intro short wall since waits
    rw [waits_resume later ready since]
    refine ⟨waits, ?_⟩
    unfold Waits at waits
    linarith

/-- What was collected and written is restored resource by resource. -/
theorem restore_collected (manager started : ResourceManager) (collected before restored after : ℚ) :
    ∃ resumed, restoreSuspensions started (restored - after) restored
        (persisted (collectSuspensions manager (collected - before) collected)) = some resumed ∧
      ∀ name old fresh, manager.resources.get? name = some old → started.resources.get? name = some fresh →
        resumed.resources.get? name = some (resume (restored - after) restored
          (if availableFrom old > collected - before then
            some (collected + (availableFrom old - (collected - before))) else none) fresh) := by
  have distinct := (collectSuspensions manager (collected - before) collected).distinct
  have written : (persisted (collectSuspensions manager (collected - before) collected)).entries =
      Dict.mapEntries Json.float (collectSuspensions manager (collected - before) collected).entries := by
    apply Dict.entries_ofPairs
    rw [Dict.keys_mapEntries]
    exact distinct
  obtain ⟨resumed, restores, values⟩ := @get?_restoreEntries (restored - after) restored started _ distinct
  refine ⟨resumed, by rw [restoreSuspensions, written, restores], ?_⟩
  intro name old fresh registered found
  have collects := get?_collectSuspensions manager (collected - before) collected name
  rw [registered, Option.bind_some, Dict.get?] at collects
  rw [values name, found, Option.map_some, collects]

/-- Restored suspensions never make a resource wait longer, and they keep it waiting as long as without the restart
exactly when it is not a rate limit with more than the longest suspension left. -/
theorem suspensions_survive_iff {manager started : ResourceManager}
    (reached : ∀ name resource, manager.resources.get? name = some resource → Reached (collected - before) resource)
    (constructed : ∀ name resource, manager.resources.get? name = some resource →
      ∃ instant fresh, started.resources.get? name = some fresh ∧ Fresh instant fresh ∧ instant ≤ restored - after)
    (later : collected ≤ restored) (running : 0 ≤ restored - after) :
    ∃ resumed, restoreSuspensions started (restored - after) restored
        (persisted (collectSuspensions manager (collected - before) collected)) = some resumed ∧
      ∀ name old, manager.resources.get? name = some old →
        ∃ new, resumed.resources.get? name = some new ∧ NoLater restored before after old new ∧
          (NoEarlier restored before after old new ↔ ∀ limit, old = .rateLimit limit →
            limit.nextAvailable + before - restored ≤ maxSuspendSeconds) := by
  obtain ⟨resumed, restores, values⟩ := restore_collected manager started collected before restored after
  refine ⟨resumed, restores, ?_⟩
  intro name old registered
  obtain ⟨instant, fresh, found, new, past⟩ := constructed name old registered
  have ready := availableFrom_fresh new past running
  refine ⟨_, values name old fresh registered found, ?_, ?_⟩
  · intro wall since waits
    rw [waits_resume later ready since] at waits
    exact waits.1
  · rw [noEarlier_resume_iff later ready]
    cases old with
    | rateLimit limit =>
      simp only [Resource.rateLimit.injEq, forall_eq']
      rfl
    | capacity capacity =>
      have near := (reached name _ registered).capacity_deadline.2 capacity rfl
      simp only [reduceCtorEq, false_implies, implies_true, iff_true]
      show capacity.suspendedUntil + before - restored ≤ _
      linarith

end Restart

section Sample

/-- A manager with one rate limit, of one call a second. -/
def limited (nextAvailable : ℚ) : ResourceManager where
  resources := Dict.ofPairs [("api", .rateLimit (newRateLimit 1 nextAvailable second_pos))]
  tasks := Dict.empty
  leases := []

theorem get?_limited {nextAvailable : ℚ} {name : String} {resource : Resource}
    (registered : (limited nextAvailable).resources.get? name = some resource) :
    name = "api" ∧ resource = .rateLimit (newRateLimit 1 nextAvailable second_pos) := by
  have member := Dict.mem_of_get?_ofPairs registered
  rw [List.mem_singleton, Prod.mk.injEq] at member
  exact member

/-- A call that counts for many keeps the limit waiting for as many seconds. -/
theorem reached_limited (calls : ℕ) : Reached 0 (.rateLimit (newRateLimit 1 calls second_pos)) := by
  have free : Reached 0 (.rateLimit (newRateLimit 1 0 second_pos)) := .constructed le_rfl (.rateLimit 1 second_pos)
  have taken : Resource.acquire 0 (.int calls) (.rateLimit (newRateLimit 1 0 second_pos)) =
      .ok (.rateLimit (newRateLimit 1 calls second_pos)) := by
    have amount : ¬ (Number.int calls).value < 0 := by simp [Number.value]
    rw [Resource.acquire, RateLimitResource.acquire, if_neg amount]
    simp [newRateLimit, Number.value, Except.map]
  exact .acquire (.int calls) free taken

theorem limited_reached (calls : ℕ) : ∀ name resource, (limited calls).resources.get? name = some resource →
    Reached (0 - 0) resource := by
  intro name resource registered
  rw [(get?_limited registered).2, sub_zero]
  exact reached_limited calls

theorem limited_constructed (calls : ℕ) {restored : ℚ} (later : 0 ≤ restored) :
    ∀ name resource, (limited calls).resources.get? name = some resource →
      ∃ instant fresh, (limited 0).resources.get? name = some fresh ∧ Fresh instant fresh ∧ instant ≤ restored - 0 := by
  intro name resource registered
  rw [(get?_limited registered).1]
  exact ⟨0, _, rfl, .rateLimit 1 second_pos, by rwa [sub_zero]⟩

/-- Thirty seconds are kept over a restart. -/
theorem half_minute_survives : ∃ resumed, restoreSuspensions (limited 0) (10 - 0) 10
      (persisted (collectSuspensions (limited (30 : ℕ)) (0 - 0) 0)) = some resumed ∧
    ∃ new, resumed.resources.get? "api" = some new ∧
      NoEarlier 10 0 0 (.rateLimit (newRateLimit 1 (30 : ℕ) second_pos)) new := by
  obtain ⟨resumed, restores, values⟩ := suspensions_survive_iff (limited_reached 30)
    (limited_constructed 30 (show (0 : ℚ) ≤ 10 by norm_num)) (show (0 : ℚ) ≤ 10 by norm_num) (by norm_num)
  obtain ⟨new, found, -, keeps⟩ := values "api" _ rfl
  refine ⟨resumed, restores, new, found, keeps.mpr ?_⟩
  rintro limit same
  cases same
  norm_num [newRateLimit, maxSuspendSeconds]

/-- A hundred thousand seconds are cut to a day. -/
theorem long_wait_cut : ¬ ∀ (manager started : ResourceManager) (collected before restored after : ℚ),
    (∀ name resource, manager.resources.get? name = some resource → Reached (collected - before) resource) →
    (∀ name resource, manager.resources.get? name = some resource →
      ∃ instant fresh, started.resources.get? name = some fresh ∧ Fresh instant fresh ∧ instant ≤ restored - after) →
    collected ≤ restored → 0 ≤ restored - after →
    ∃ resumed, restoreSuspensions started (restored - after) restored
        (persisted (collectSuspensions manager (collected - before) collected)) = some resumed ∧
      ∀ name old, manager.resources.get? name = some old → ∃ new, resumed.resources.get? name = some new ∧
        NoEarlier restored before after old new ∧ NoLater restored before after old new := by
  intro all
  obtain ⟨resumed, restores, kept⟩ := all (limited (100000 : ℕ)) (limited 0) 0 0 0 0 (limited_reached 100000)
    (limited_constructed 100000 le_rfl) le_rfl (by norm_num)
  obtain ⟨other, same, values⟩ := restore_collected (limited (100000 : ℕ)) (limited 0) 0 0 0 0
  rw [restores, Option.some.injEq] at same
  obtain ⟨new, found, keeps, -⟩ := kept "api" _ rfl
  rw [same, values "api" _ _ rfl rfl, Option.some.injEq] at found
  rw [← found, noEarlier_resume_iff le_rfl (by norm_num [availableFrom, newRateLimit])] at keeps
  norm_num [availableFrom, newRateLimit, maxSuspendSeconds] at keeps

end Sample

end Tasklite.Engine.Suspension
