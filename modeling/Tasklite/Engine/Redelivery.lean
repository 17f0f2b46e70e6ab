import Tasklite.Engine.Completion

/-! Suspend requests that reach the manager more than once: live through the pipe, and
again with the completed result or with what an abort salvages. The deadline that is left
is the latest of all deliveries, not only of the first ones. -/

namespace Tasklite.Engine.Redelivery
open Tasklite.Library Tasklite.Models

section Latest

variable {α : Type*} [LinearOrder α] {prior bound : α}

/-- The latest of an instant and a list of instants. -/
def latest (prior : α) (instants : List α) : α := instants.foldl max prior

theorem latest_le_iff {instants : List α} :
    latest prior instants ≤ bound ↔ prior ≤ bound ∧ ∀ instant ∈ instants, instant ≤ bound := by
  induction instants generalizing prior with
  | nil => simp [latest]
  | cons instant rest ih =>
    have step : latest prior (instant :: rest) = latest (max prior instant) rest := rfl
    rw [step, ih, max_le_iff, List.forall_mem_cons, and_assoc]

theorem prior_le_latest (prior : α) (instants : List α) : prior ≤ latest prior instants :=
  (latest_le_iff.mp le_rfl).1

theorem le_latest_of_mem {instant : α} {instants : List α} (member : instant ∈ instants) :
    instant ≤ latest prior instants :=
  (latest_le_iff.mp le_rfl).2 instant member

theorem latest_mem (prior : α) (instants : List α) : latest prior instants ∈ prior :: instants := by
  induction instants generalizing prior with
  | nil => exact List.mem_cons_self
  | cons instant rest ih =>
    have later : latest prior (instant :: rest) ∈ max prior instant :: rest := ih (max prior instant)
    rcases max_choice prior instant with first | second
    · rw [first] at later
      exact List.mem_cons.mpr ((List.mem_cons.mp later).imp_right (List.mem_cons_of_mem _))
    · rw [second] at later
      exact List.mem_cons_of_mem _ later

theorem le_latest_iff {instants : List α} :
    bound ≤ latest prior instants ↔ bound ≤ prior ∨ ∃ instant ∈ instants, bound ≤ instant := by
  constructor
  · intro below
    rcases List.mem_cons.mp (latest_mem prior instants) with first | later
    · exact Or.inl (first ▸ below)
    · exact Or.inr ⟨_, later, below⟩
  · rintro (early | ⟨instant, member, early⟩)
    · exact early.trans (prior_le_latest prior instants)
    · exact early.trans (le_latest_of_mem member)

/-- A part of the instants is as late as all of them when it reaches each of them. -/
theorem latest_eq_iff {part instants : List α} (within : part ⊆ instants) :
    latest prior instants = latest prior part ↔ ∀ instant ∈ instants, instant ≤ latest prior part := by
  constructor
  · intro same instant member
    rw [← same]
    exact le_latest_of_mem member
  · intro reached
    apply le_antisymm
    · exact latest_le_iff.mpr ⟨prior_le_latest prior part, reached⟩
    · exact latest_le_iff.mpr ⟨prior_le_latest prior instants,
        fun instant member => le_latest_of_mem (within member)⟩

end Latest

section Deadlines

variable {now seconds : ℚ} {resource : Resource}

/-- The instant before which a resource is not handed out. -/
def availableFrom : Resource → ℚ
  | .rateLimit resource => resource.nextAvailable
  | .capacity resource => resource.suspendedUntil

theorem availableFrom_suspend :
    availableFrom (resource.suspend now seconds) = max (availableFrom resource) (now + clampSuspend seconds) := by
  cases resource <;> rfl

/-- A request that ends before the deadline changes nothing. -/
theorem suspend_of_le (early : now + clampSuspend seconds ≤ availableFrom resource) :
    resource.suspend now seconds = resource := by
  cases resource with
  | rateLimit resource =>
    have kept : max resource.nextAvailable (now + clampSuspend seconds) = resource.nextAvailable := max_eq_left early
    simp only [Resource.suspend, RateLimitResource.suspend, kept]
  | capacity resource =>
    have kept : max resource.suspendedUntil (now + clampSuspend seconds) = resource.suspendedUntil :=
      max_eq_left early
    simp only [Resource.suspend, CapacityResource.suspend, kept]

/-- Before its deadline a resource names the time that is left, whatever little is asked for. -/
theorem canAcquire_early (early : now < availableFrom resource) :
    resource.canAcquire now (.int 0) = (false, ((availableFrom resource - now : ℚ) : WithTop ℚ)) := by
  cases resource with
  | rateLimit resource => exact if_neg early.not_ge
  | capacity resource =>
    have fits : ¬ (Number.int 0).value > resource.maxCapacity := by
      simpa [Number.value] using resource.nonnegative
    exact (if_neg fits).trans (if_pos early)

/-- Resources that answer alike at every instant have the same deadline. -/
theorem availableFrom_of_canAcquire {other : Resource}
    (alike : ∀ now amount, resource.canAcquire now amount = other.canAcquire now amount) :
    availableFrom resource = availableFrom other := by
  have before : min (availableFrom resource) (availableFrom other) - 1 <
      min (availableFrom resource) (availableFrom other) := sub_one_lt _
  have answers := alike (min (availableFrom resource) (availableFrom other) - 1) (.int 0)
  rw [canAcquire_early (before.trans_le (min_le_left _ _)),
    canAcquire_early (before.trans_le (min_le_right _ _)), Prod.mk.injEq, WithTop.coe_inj] at answers
  exact sub_left_injective answers.2

end Deadlines

/-- What a handler asks for. -/
structure SuspendRequest where
  resource : String
  seconds : ℚ

/-- One time that a request reaches the manager. -/
structure Arrival (ρ : Type) where
  time : ℚ
  request : ρ

section Arrivals

variable {ρ : Type} (asked : ρ → SuspendRequest) {manager : ResourceManager} {name : String}

/-- Apply the requests as they arrive. -/
def deliver (manager : ResourceManager) (arrivals : List (Arrival ρ)) : ResourceManager :=
  arrivals.foldl (fun manager arrival =>
    (manager.suspendResource arrival.time (asked arrival.request).resource
      (asked arrival.request).seconds).1) manager

/-- When the suspension of one arrival ends. -/
def due (arrival : Arrival ρ) : ℚ := arrival.time + clampSuspend (asked arrival.request).seconds

/-- The ends of the suspensions that concern one resource. -/
def dues (name : String) (arrivals : List (Arrival ρ)) : List ℚ :=
  (arrivals.filter fun arrival => (asked arrival.request).resource = name).map (due asked)

theorem mem_dues_iff {instant : ℚ} {arrivals : List (Arrival ρ)} :
    instant ∈ dues asked name arrivals ↔
      ∃ arrival ∈ arrivals, (asked arrival.request).resource = name ∧ due asked arrival = instant := by
  simp [dues, and_assoc]

/-- The arrivals of requests that have not been there before. -/
def firstArrivals [DecidableEq ρ] : List ρ → List (Arrival ρ) → List (Arrival ρ)
  | _, [] => []
  | known, arrival :: rest =>
      if arrival.request ∈ known then firstArrivals known rest
      else arrival :: firstArrivals (arrival.request :: known) rest

theorem firstArrivals_subset [DecidableEq ρ] (known : List ρ) (arrivals : List (Arrival ρ)) :
    firstArrivals known arrivals ⊆ arrivals := by
  induction arrivals generalizing known with
  | nil => exact List.Subset.refl _
  | cons arrival rest ih =>
    unfold firstArrivals
    split
    · exact List.subset_cons_of_subset _ (ih known)
    · exact List.cons_subset_cons _ (ih _)

/-- One delivery, seen from one resource. -/
theorem get?_suspendResource (now : ℚ) (other : String) (seconds : ℚ) :
    (manager.suspendResource now other seconds).1.resources.get? name =
      if other = name then (manager.resources.get? name).map fun resource => resource.suspend now seconds
      else manager.resources.get? name := by
  unfold ResourceManager.suspendResource
  by_cases same : other = name
  · rw [if_pos same, same]
    cases found : manager.resources.get? name with
    | none => exact found
    | some resource => exact Dict.get?_set_self _ _ _
  · rw [if_neg same]
    cases manager.resources.get? other with
    | none => rfl
    | some resource => exact Dict.get?_set_of_ne _ _ (Ne.symm same)

/-- After any deliveries a resource is available from the latest of its deadline and all the ends. -/
theorem availableFrom_deliver {resource : Resource} (registered : manager.resources.get? name = some resource)
    (arrivals : List (Arrival ρ)) :
    ((deliver asked manager arrivals).resources.get? name).map availableFrom =
      some (latest (availableFrom resource) (dues asked name arrivals)) := by
  induction arrivals generalizing manager resource with
  | nil => rw [deliver, List.foldl_nil, registered]; rfl
  | cons arrival rest ih =>
    have now := @get?_suspendResource manager name arrival.time
      (asked arrival.request).resource (asked arrival.request).seconds
    rw [registered] at now
    by_cases concerns : (asked arrival.request).resource = name
    · rw [if_pos concerns] at now
      have ends : dues asked name (arrival :: rest) = due asked arrival :: dues asked name rest := by
        simp [dues, concerns]
      rw [ends]
      exact (ih now).trans (by rw [availableFrom_suspend]; rfl)
    · rw [if_neg concerns] at now
      have ends : dues asked name (arrival :: rest) = dues asked name rest := by
        simp [dues, concerns]
      rw [ends]
      exact ih now

/-- A batch of drained or salvaged signals is a delivery of each of its requests. -/
theorem applySuspendSignals_eq_deliver (now : ℚ) (sender : ρ → String) (batch : List ρ) :
    manager.applySuspendSignals now (batch.map fun request =>
      ⟨sender request, (asked request).resource, (asked request).seconds⟩) =
      deliver asked manager (batch.map fun request => ⟨now, request⟩) := by
  induction batch generalizing manager with
  | nil => rfl
  | cons request rest ih => exact ih

/-- So are the suspensions that a completed result carries. -/
theorem suspendAll_eq_deliver (runtime : Runtime) (now : ℚ) (batch : List ρ) :
    (runtime.suspendAll now (batch.map fun request =>
      ((asked request).resource, (asked request).seconds))).resources =
      deliver asked runtime.resources (batch.map fun request => ⟨now, request⟩) := by
  simp only [Runtime.suspendAll, deliver, List.foldl_map]

/-- Every delivery ends no later than the prior deadline or the first delivery of some request. -/
def Covered [DecidableEq ρ] (name : String) (prior : ℚ) (arrivals : List (Arrival ρ)) : Prop :=
  ∀ arrival ∈ arrivals, (asked arrival.request).resource = name →
    due asked arrival ≤ prior ∨ ∃ first ∈ firstArrivals [] arrivals,
      (asked first.request).resource = name ∧ due asked arrival ≤ due asked first

theorem deadline_eq_iff [DecidableEq ρ] {resource : Resource}
    (registered : manager.resources.get? name = some resource) (arrivals : List (Arrival ρ)) :
    ((deliver asked manager arrivals).resources.get? name).map availableFrom =
        some (latest (availableFrom resource) (dues asked name (firstArrivals [] arrivals))) ↔
      Covered asked name (availableFrom resource) arrivals := by
  have within : dues asked name (firstArrivals [] arrivals) ⊆ dues asked name arrivals := by
    intro instant member
    obtain ⟨arrival, first, concerns, same⟩ := (mem_dues_iff asked).mp member
    exact (mem_dues_iff asked).mpr ⟨arrival, firstArrivals_subset [] arrivals first, concerns, same⟩
  rw [availableFrom_deliver asked registered, Option.some_inj, latest_eq_iff within]
  constructor
  · intro reached arrival member concerns
    have early := reached _ ((mem_dues_iff asked).mpr ⟨arrival, member, concerns, rfl⟩)
    refine (le_latest_iff.mp early).imp_right ?_
    rintro ⟨_, due, later⟩
    obtain ⟨first, place, addressed, rfl⟩ := (mem_dues_iff asked).mp due
    exact ⟨first, place, addressed, later⟩
  · intro covered instant member
    obtain ⟨arrival, place, concerns, rfl⟩ := (mem_dues_iff asked).mp member
    apply le_latest_iff.mpr
    refine (covered arrival place concerns).imp_right ?_
    rintro ⟨first, known, addressed, later⟩
    exact ⟨due asked first, (mem_dues_iff asked).mpr ⟨first, known, addressed, rfl⟩, later⟩

end Arrivals

/-- The two managers hand out a resource at the same instants. -/
def AnswersAlike (name : String) (left right : ResourceManager) : Prop :=
  ∀ now amount, (left.resources.get? name).map (Resource.canAcquire now amount) =
    (right.resources.get? name).map (Resource.canAcquire now amount)

/-- One request applied at two instants. -/
theorem answersAlike_twice_iff {manager : ResourceManager} {name : String} {resource : Resource}
    (registered : manager.resources.get? name = some resource) (live late seconds : ℚ) :
    AnswersAlike name (manager.suspendResource live name seconds).1
        ((manager.suspendResource live name seconds).1.suspendResource late name seconds).1 ↔
      late ≤ live ∨ late + clampSuspend seconds ≤ availableFrom resource := by
  have once : (manager.suspendResource live name seconds).1.resources.get? name =
      some (resource.suspend live seconds) := by
    rw [get?_suspendResource, if_pos rfl, registered, Option.map_some]
  have twice : ((manager.suspendResource live name seconds).1.suspendResource late name
      seconds).1.resources.get? name = some ((resource.suspend live seconds).suspend late seconds) := by
    rw [get?_suspendResource, if_pos rfl, once, Option.map_some]
  have early : late + clampSuspend seconds ≤ availableFrom (resource.suspend live seconds) ↔
      late ≤ live ∨ late + clampSuspend seconds ≤ availableFrom resource := by
    rw [availableFrom_suspend, le_max_iff, add_le_add_iff_right, or_comm]
  rw [← early]
  constructor
  · intro alike
    have same := availableFrom_of_canAcquire fun now amount => by
      simpa only [once, twice, Option.map_some, Option.some_inj] using alike now amount
    rw [@availableFrom_suspend _ _ (resource.suspend live seconds)] at same
    exact max_eq_left_iff.mp same.symm
  · intro covered now amount
    rw [once, twice, suspend_of_le covered]

/-- The deadline after any deliveries is that of the first ones exactly if those cover all others. In
particular a request applied live and then again from the completed result, or from what an abort
salvages, counts once exactly if no time has passed between or the resource was suspended long enough
before. -/
theorem redelivered_iff {ρ : Type} [DecidableEq ρ] (asked : ρ → SuspendRequest) {manager : ResourceManager}
    {name : String} {resource : Resource} (registered : manager.resources.get? name = some resource) :
    (∀ arrivals : List (Arrival ρ),
      ((deliver asked manager arrivals).resources.get? name).map availableFrom =
          some (latest (availableFrom resource) (dues asked name (firstArrivals [] arrivals))) ↔
        Covered asked name (availableFrom resource) arrivals) ∧
    (∀ (live late seconds : ℚ) (jobUid : String) (once : ResourceManager),
      manager.applySuspendSignals live [⟨jobUid, name, seconds⟩] = once →
        (∀ runtime : Runtime, runtime.resources = once →
          (AnswersAlike name once (runtime.suspendAll late [(name, seconds)]).resources ↔
            late ≤ live ∨ late + clampSuspend seconds ≤ availableFrom resource)) ∧
        (AnswersAlike name once (once.applySuspendSignals late [⟨jobUid, name, seconds⟩]) ↔
          late ≤ live ∨ late + clampSuspend seconds ≤ availableFrom resource)) := by
  refine ⟨deadline_eq_iff asked registered, ?_⟩
  rintro live late seconds jobUid once rfl
  have twice := answersAlike_twice_iff registered live late seconds
  refine ⟨?_, twice⟩
  intro runtime same
  have applied : (runtime.suspendAll late [(name, seconds)]).resources =
      (runtime.resources.suspendResource late name seconds).1 := rfl
  rw [applied, same]
  exact twice

section Sample

theorem second_pos : (0 : ℚ) < 1 := by decide +kernel

/-- A rate limit of one call a second, free from the start. -/
def freshLimit : Resource := .rateLimit ⟨1, 0, second_pos⟩

def freshManager : ResourceManager where
  resources := Dict.ofPairs [("api", freshLimit)]
  tasks := Dict.empty
  leases := []

theorem redelivered_at_once :
    freshManager.resources.get? "api" = some freshLimit ∧
      ((deliver (fun seconds : ℕ => ⟨"api", seconds⟩) freshManager [⟨5, 30⟩, ⟨5, 30⟩]).resources.get?
        "api").map availableFrom = some 35 := by
  have registered : freshManager.resources.get? "api" = some freshLimit := rfl
  have covered : Covered (fun seconds : ℕ => ⟨"api", seconds⟩) "api" (availableFrom freshLimit)
      [⟨5, 30⟩, ⟨5, 30⟩] := by
    intro arrival member _
    have same : arrival = ⟨5, 30⟩ := by simpa using member
    rw [same]
    exact Or.inr ⟨⟨5, 30⟩, List.mem_cons_self, rfl, le_rfl⟩
  have deadline := ((redelivered_iff (fun seconds : ℕ => ⟨"api", seconds⟩) registered).1 _).mpr covered
  exact ⟨registered, deadline.trans (by decide +kernel)⟩

/-- Thirty seconds asked for at the start and delivered again after ten end ten seconds later. -/
theorem redelivered_later :
    ((freshManager.applySuspendSignals 0 [⟨"t::a", "api", 30⟩]).resources.get? "api").map availableFrom = some 30 ∧
      (((freshManager.applySuspendSignals 0 [⟨"t::a", "api", 30⟩]).applySuspendSignals 10
        [⟨"t::a", "api", 30⟩]).resources.get? "api").map availableFrom = some 40 := by
  decide +kernel

end Sample

end Tasklite.Engine.Redelivery
