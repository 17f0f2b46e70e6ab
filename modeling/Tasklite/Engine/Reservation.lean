import Tasklite.Engine.Leases

/-! Where evaluation and reservation part. A reservation takes a capacity without
asking whether it is suspended or full, so a suspension that is drained between the
scan and the reservation does not stop the dispatch. -/

namespace Tasklite.Engine.Reservation
open Tasklite.Library Tasklite.Models Tasklite.Engine.Availability Tasklite.Engine.Leases

variable {manager : ResourceManager} {now : ℚ} {taskType jobUid : String}
  {declared : Option (List (String × Number))}

/-- Some request is refused anyway (its resource is unknown, its rate limit is not due, its amount is
negative or above the maximum), or every capacity asked for is awake and has room. -/
def Agreed (manager : ResourceManager) (now : ℚ) (taskType : String)
    (declared : Option (List (String × Number))) : Prop :=
  (∃ entry ∈ (manager.effectiveResources taskType declared).entries, ¬ Reservable manager now entry) ∨
    ∀ entry ∈ (manager.effectiveResources taskType declared).entries, Spare manager now entry

theorem reserved_free (agreed : Agreed manager now taskType declared)
    (reserved : ∃ lease, (manager.reserve now taskType declared jobUid).2 = .ok lease) :
    ∀ entry ∈ (manager.effectiveResources taskType declared).entries, Free manager now entry := by
  have granted := (reserve_succeeds taskType declared jobUid).mp reserved
  intro entry member
  rcases agreed with ⟨refused, asked, unreservable⟩ | spare
  · exact absurd (granted refused asked) unreservable
  · exact (free_of_reservable (granted entry member)).mpr (spare entry member)

/-- The job of a dispatch that starts a worker has got a lease. -/
theorem reserved_of_tracked {books : Books} {scanned drained reserved : ℚ} {signals : List SuspendSignal}
    {amounts : Dict String Number} {ending : Ending} (fresh : jobUid ∉ books.tracker.keys)
    (spawned : jobUid ∈ (books.dispatch scanned drained reserved signals taskType amounts jobUid ending).tracker.keys) :
    let current := books.manager.applySuspendSignals drained signals
    ∃ lease, (current.reserve reserved taskType
      (some (current.effectiveResources taskType (some amounts.entries)).entries) jobUid).2 = .ok lease := by
  intro current
  unfold Books.dispatch at spawned
  rw [if_neg fresh] at spawned
  split at spawned
  · dsimp only at spawned
    split at spawned
    · exact absurd spawned fresh
    · rename_i next lease granted
      exact ⟨lease, by rw [granted]⟩
  · exact absurd spawned fresh

theorem two_slots : (0 : ℚ) ≤ 2 := by decide

theorem one_slot : (0 : ℚ) ≤ 1 := by decide

/-- A capacity next to the worker slots. -/
def sharedApi : ResourceManager where
  resources := Dict.ofPairs [(workerResource, .capacity ⟨2, 0, 0, 0, two_slots⟩),
    ("api", .capacity ⟨1, 0, 0, 0, one_slot⟩)]
  tasks := Dict.empty
  leases := []

theorem agreed_sharedApi : Agreed sharedApi 0 "t" (some (sharedApi.effectiveResources "t" (some
    (Dict.ofPairs [("api", Number.float 1)]).entries)).entries) := by
  right
  intro entry member resource known
  have only : entry = ("api", .float 1) := List.mem_singleton.mp member
  rw [only] at known ⊢
  have api : resource = ⟨1, 0, 0, 0, by decide⟩ := by
    cases known
    rfl
  rw [api]
  decide +kernel

end Tasklite.Engine.Reservation
