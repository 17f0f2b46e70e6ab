import Mathlib.Tactic.Linarith
import Mathlib.Tactic.NormNum
import Tasklite.Engine.Resource

/-! What `evaluate` and `reserve` decide. Evaluation asks every effective resource
whether it is free now; reservation asks a rate limit the same question, but takes a
capacity whenever the amount is within the maximum. -/

namespace Tasklite.Engine.Availability
open Tasklite.Library Tasklite.Models

variable {manager : ResourceManager} {now : ℚ}

/-- A resource that is neither suspended nor waiting and has room for the amount. -/
def Free (manager : ResourceManager) (now : ℚ) (entry : String × Number) : Prop :=
  match manager.resources.get? entry.1 with
  | none => False
  | some (.rateLimit resource) => resource.nextAvailable ≤ now
  | some (.capacity resource) =>
      resource.suspendedUntil ≤ now ∧ resource.used + entry.2.value ≤ resource.maxCapacity ∧
        entry.2.value ≤ resource.maxCapacity

/-- A request that `reserve` does not refuse. -/
def Reservable (manager : ResourceManager) (now : ℚ) (entry : String × Number) : Prop :=
  match manager.resources.get? entry.1 with
  | none => False
  | some (.rateLimit resource) => resource.nextAvailable ≤ now
  | some (.capacity resource) => 0 ≤ entry.2.value ∧ entry.2.value ≤ resource.maxCapacity

/-- A request for a capacity finds it unsuspended and with the amount to spare. -/
def Spare (manager : ResourceManager) (now : ℚ) (entry : String × Number) : Prop :=
  ∀ resource, manager.resources.get? entry.1 = some (.capacity resource) →
    resource.suspendedUntil ≤ now ∧ resource.used + entry.2.value ≤ resource.maxCapacity

theorem free_of_reservable {entry : String × Number} (reservable : Reservable manager now entry) :
    Free manager now entry ↔ Spare manager now entry := by
  unfold Reservable at reservable
  unfold Free Spare
  cases known : manager.resources.get? entry.1 with
  | none => simp [known] at reservable
  | some resource =>
    cases resource with
    | rateLimit resource => simpa [known] using reservable
    | capacity resource =>
      simp only [known] at reservable
      simp only [Option.some.injEq, Resource.capacity.injEq, forall_eq']
      exact ⟨fun free => ⟨free.1, free.2.1⟩, fun spare => ⟨spare.1, spare.2, reservable.2⟩⟩

theorem rateLimit_canAcquire_iff (resource : RateLimitResource) :
    (resource.canAcquire now).1 = true ↔ resource.nextAvailable ≤ now := by
  unfold RateLimitResource.canAcquire
  split <;> simp_all

theorem capacity_canAcquire_iff (resource : CapacityResource) (amount : Number) :
    (resource.canAcquire now amount).1 = true ↔ resource.suspendedUntil ≤ now ∧
      resource.used + amount.value ≤ resource.maxCapacity ∧ amount.value ≤ resource.maxCapacity := by
  unfold CapacityResource.canAcquire
  split
  · rename_i above
    simp [not_le.mpr above]
  · rename_i within
    split
    · rename_i suspended
      simp [not_le.mpr suspended]
    · rename_i awake
      split <;> simp_all

theorem free_iff {name : String} {amount : Number} {resource : Resource}
    (known : manager.resources.get? name = some resource) :
    Free manager now (name, amount) ↔ (resource.canAcquire now amount).1 = true := by
  unfold Free
  rw [known]
  cases resource with
  | rateLimit resource => exact (rateLimit_canAcquire_iff resource).symm
  | capacity resource => exact (capacity_canAcquire_iff resource amount).symm

/-- A refused request always has to wait. -/
theorem wait_pos {resource : Resource} {amount : Number}
    (refused : (resource.canAcquire now amount).1 = false) :
    0 < (resource.canAcquire now amount).2 := by
  cases resource with
  | rateLimit resource =>
    simp only [Resource.canAcquire, RateLimitResource.canAcquire] at refused ⊢
    split at refused
    · cases refused
    · rename_i early
      have remaining : 0 < resource.nextAvailable - now := by linarith [not_le.mp early]
      simpa [early] using WithTop.coe_pos.mpr remaining
  | capacity resource =>
    simp only [Resource.canAcquire, CapacityResource.canAcquire] at refused ⊢
    split
    · exact WithTop.top_pos
    · split
      · rename_i suspended
        exact WithTop.coe_pos.mpr (by linarith)
      · split
        · simp_all
        · exact WithTop.coe_pos.mpr (by norm_num [CapacityResource.capacityPollInterval])

theorem evaluateEntries_available (entries : List (String × Number)) (minWait : WithTop ℚ) :
    (manager.evaluateEntries now entries minWait).isAvailable = true ↔
      minWait ≤ 0 ∧ ∀ entry ∈ entries, Free manager now entry := by
  induction entries generalizing minWait with
  | nil =>
    unfold ResourceManager.evaluateEntries
    split <;> simp_all
  | cons entry rest ih =>
    rcases entry with ⟨name, amount⟩
    unfold ResourceManager.evaluateEntries
    cases known : manager.resources.get? name with
    | none => simp [Free, known]
    | some resource =>
      simp only [List.forall_mem_cons, free_iff known]
      have waiting := @wait_pos now resource amount
      rcases answer : resource.canAcquire now amount with ⟨free, wait⟩
      rw [answer] at waiting
      cases free with
      | true => simp [ih]
      | false =>
        simp only [Bool.false_eq_true, false_and, and_false, iff_false]
        split
        · simp
        · rw [ih]
          rintro ⟨bound, -⟩
          exact absurd (waiting rfl) (not_lt.mpr ((le_max_right _ _).trans bound))

theorem evaluate_available (taskType : String) (declared : Option (List (String × Number))) :
    (manager.evaluate now taskType declared).isAvailable = true ↔
      ∀ entry ∈ (manager.effectiveResources taskType declared).entries, Free manager now entry := by
  unfold ResourceManager.evaluate
  rw [evaluateEntries_available]
  simp

theorem reservable_set_of_ne {name : String} {resource : Resource} {entry : String × Number}
    (different : entry.1 ≠ name) :
    Reservable { manager with resources := manager.resources.set name resource } now entry ↔
      Reservable manager now entry := by
  unfold Reservable
  rw [Dict.get?_set_of_ne _ _ different]

/-- Reservation goes through exactly when every entry is reservable. What was taken for one entry
does not change the answer for another, because an effective resource is named once. -/
theorem reserveEntries_succeeds {entries : List (String × Number)}
    (distinct : (entries.map Prod.fst).Nodup) (holding : ResourceManager.Holding) :
    (ResourceManager.reserveEntries now entries manager holding).2.2 = none ↔
      ∀ entry ∈ entries, Reservable manager now entry := by
  induction entries generalizing manager holding with
  | nil => simp [ResourceManager.reserveEntries]
  | cons entry rest ih =>
    rcases entry with ⟨name, amount⟩
    rw [List.map_cons, List.nodup_cons] at distinct
    unfold ResourceManager.reserveEntries
    simp only [List.forall_mem_cons]
    cases known : manager.resources.get? name with
    | none => simp [Reservable, known]
    | some resource =>
      cases resource with
      | rateLimit resource =>
        have head : Reservable manager now (name, amount) ↔ (resource.canAcquire now).1 = true := by
          simp [Reservable, known, rateLimit_canAcquire_iff]
        rw [head]
        rcases answer : resource.canAcquire now with ⟨free, wait⟩
        cases free with
        | true => simp [answer, ih distinct.2]
        | false => simp [answer]
      | capacity resource =>
        simp only [CapacityResource.acquire]
        by_cases negative : amount.value < 0
        · simp [Reservable, known, negative]
        · by_cases above : amount.value > resource.maxCapacity
          · simp [Reservable, known, negative, above]
          · have head : Reservable manager now (name, amount) := by
              simpa [Reservable, known] using ⟨not_lt.mp negative, not_lt.mp above⟩
            simp only [negative, above, if_false, ih distinct.2, head, true_and]
            refine forall₂_congr fun other member => reservable_set_of_ne ?_
            rintro rfl
            exact distinct.1 (List.mem_map.mpr ⟨other, member, rfl⟩)

theorem reserve_succeeds (taskType : String) (declared : Option (List (String × Number)))
    (jobUid : String) :
    (∃ lease, (manager.reserve now taskType declared jobUid).2 = .ok lease) ↔
      ∀ entry ∈ (manager.effectiveResources taskType declared).entries, Reservable manager now entry := by
  rw [← reserveEntries_succeeds (manager.effectiveResources taskType declared).distinct {}]
  unfold ResourceManager.reserve
  rcases ResourceManager.reserveEntries now _ manager {} with ⟨taken, holding, refusal⟩
  cases refusal <;> simp

end Tasklite.Engine.Availability
