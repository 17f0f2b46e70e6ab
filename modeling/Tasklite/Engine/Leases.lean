import Mathlib.Algebra.BigOperators.Group.List.Basic
import Mathlib.Algebra.Order.BigOperators.Group.List
import Mathlib.Tactic.Ring
import Tasklite.Engine.Availability
import Tasklite.Library.Machine

/-! The accounts of the capacities over the lives of leases. A dispatch scans, drains
signals, reserves, and either starts a worker and tracks its lease or gives the lease
back; leases are claimed and released from several places, in any order and any
number of times. What is used of a capacity is what its unreleased leases hold. -/

namespace Tasklite.Engine.Leases
open Tasklite.Library Tasklite.Models

variable {manager : ResourceManager} {now : ℚ} {name : String} {entries : List (String × Number)}

section Machine

/-- The resources of a row as the scan holds them, sorted by name. -/
def scannedResources (declared : Dict String Number) : List (String × Number) :=
  declared.entries.mergeSort fun left right => decide (left.1 ≤ right.1)

/-- How the dispatch goes on with its lease: the payload is refused, an exception leaves the block of the
lease before or after the claim, or the worker is started and its lease claimed. -/
inductive Ending where
  | rejected
  | raised (claimed : Option ℚ)
  | spawned (claimed : ℚ)

inductive Action where
  | suspend (now : ℚ) (signals : List SuspendSignal)
  /-- Scan a row, drain the signals and reserve what the row, filled in from its task, asks for. -/
  | dispatch (scanned drained reserved : ℚ) (signals : List SuspendSignal) (taskType : String)
      (declared : Dict String Number) (jobUid : String) (ending : Ending)
  | claim (now : ℚ) (lease : ℕ)
  | release (lease : ℕ)
  | cancel (lease : ℕ)
  /-- The end of a `with` block. -/
  | exit (raised : Bool) (lease : ℕ)
  /-- An entry in flight gives its resources back. -/
  | releaseResources (jobUid : String)
  | releaseAllResources
  /-- An entry in flight is completed or cancelled: it gives its resources back and leaves the tracker. -/
  | settle (jobUid : String)

/-- The resources, the leases of the entries in flight, and every return of a lease's amounts so far. -/
structure Books where
  manager : ResourceManager
  tracker : Dict String ℕ
  returned : List ℕ

namespace Books

/-- Whether releasing the lease gives anything back. -/
def holds (books : Books) (lease : ℕ) : Bool :=
  match books.manager.leases[lease]? with
  | none => false
  | some held => held.status ≠ .released

def release (books : Books) (lease : ℕ) : Books where
  manager := books.manager.releaseLease lease
  tracker := books.tracker
  returned := if books.holds lease then books.returned ++ [lease] else books.returned

def exit (books : Books) (raised : Bool) (lease : ℕ) : Books :=
  if raised && books.holds lease then books.release lease else books

def claim (books : Books) (now : ℚ) (lease : ℕ) : Books × Option ReserveError :=
  ({ books with manager := (books.manager.claimLease now lease).1 }, (books.manager.claimLease now lease).2)

def conclude (books : Books) (jobUid : String) (lease : ℕ) : Ending → Books
  | .rejected => books.release lease
  | .raised none => books.exit true lease
  | .raised (some now) => (books.claim now lease).1.exit true lease
  | .spawned now =>
      match books.claim now lease with
      | (claimed, some _) => claimed.exit true lease
      | (claimed, none) => { claimed with tracker := claimed.tracker.set jobUid lease }

/-- A job in flight is not queued, so it is not scanned. -/
def dispatch (books : Books) (scanned drained reserved : ℚ) (signals : List SuspendSignal) (taskType : String)
    (declared : Dict String Number) (jobUid : String) (ending : Ending) : Books :=
  if jobUid ∈ books.tracker.keys then books
  else if (books.manager.evaluate scanned taskType (some (scannedResources declared))).isAvailable then
    let current := books.manager.applySuspendSignals drained signals
    match current.reserve reserved taskType
        (some (current.effectiveResources taskType (some declared.entries)).entries) jobUid with
    | (manager, .error _) => { books with manager }
    | (manager, .ok lease) => conclude { books with manager } jobUid lease ending
  else books

def releaseResources (books : Books) (jobUid : String) : Books :=
  match books.tracker.get? jobUid with
  | none => books
  | some lease => books.release lease

def releaseAllResources (books : Books) : Books :=
  (books.tracker.entries.map Prod.snd).foldl release books

end Books

def step (books : Books) : Action → Books
  | .suspend now signals => { books with manager := books.manager.applySuspendSignals now signals }
  | .dispatch scanned drained reserved signals taskType declared jobUid ending =>
      books.dispatch scanned drained reserved signals taskType declared jobUid ending
  | .claim now lease => (books.claim now lease).1
  | .release lease => books.release lease
  | .cancel lease => books.release lease
  | .exit raised lease => books.exit raised lease
  | .releaseResources jobUid => books.releaseResources jobUid
  | .releaseAllResources => books.releaseAllResources
  | .settle jobUid => { books.releaseResources jobUid with tracker := books.tracker.erase jobUid }

end Machine

section Accounts

/-- What is used of a capacity, its maximum, and the overruns counted. -/
@[ext] structure Account where
  used : ℚ
  maxCapacity : ℚ
  overruns : ℕ

def account : Resource → Option Account
  | .rateLimit _ => none
  | .capacity resource => some ⟨resource.used, resource.maxCapacity, resource.releaseOverruns⟩

def accountOf (manager : ResourceManager) (name : String) : Option Account :=
  (manager.resources.get? name).bind account

def Account.charge (amount : ℚ) (account : Account) : Account :=
  { account with used := account.used + amount }

/-- What a list of requests asks of one resource. -/
def amountOf (name : String) (entries : List (String × Number)) : ℚ :=
  ((entries.filter fun entry => entry.1 = name).map fun entry => entry.2.value).sum

@[simp] theorem amountOf_nil : amountOf name [] = 0 := rfl

theorem amountOf_cons (entry : String × Number) :
    amountOf name (entry :: entries) = (if entry.1 = name then entry.2.value else 0) + amountOf name entries := by
  by_cases same : entry.1 = name
  · simp [amountOf, same]
  · simp [amountOf, same]

theorem amountOf_nonneg (nonneg : ∀ entry ∈ entries, 0 ≤ entry.2.value) : 0 ≤ amountOf name entries := by
  induction entries with
  | nil => exact le_refl 0
  | cons entry rest ih =>
    rw [List.forall_mem_cons] at nonneg
    rw [amountOf_cons]
    have tail := ih nonneg.2
    split
    · linarith [nonneg.1]
    · linarith

/-- If there is room for each request, there is room for all requests of one resource, which is named
at most once. -/
theorem amountOf_le {used bound : ℚ} (distinct : (entries.map Prod.fst).Nodup) (within : used ≤ bound)
    (room : ∀ entry ∈ entries, entry.1 = name → used + entry.2.value ≤ bound) :
    used + amountOf name entries ≤ bound := by
  induction entries with
  | nil => simpa using within
  | cons entry rest ih =>
    rw [List.map_cons, List.nodup_cons] at distinct
    rw [List.forall_mem_cons] at room
    rw [amountOf_cons]
    by_cases same : entry.1 = name
    · have others : amountOf name rest = 0 := by
        rw [amountOf, List.filter_eq_nil_iff.mpr]
        · rfl
        · intro other member equal
          apply distinct.1
          rw [same, ← of_decide_eq_true equal]
          exact List.mem_map.mpr ⟨other, member, rfl⟩
      rw [if_pos same, others, add_zero]
      exact room.1 same
    · rw [if_neg same, zero_add]
      exact ih distinct.2 room.2

theorem charge_charge (first second : ℚ) (entry : Account) :
    (entry.charge first).charge second = entry.charge (first + second) := by
  simp [Account.charge, add_assoc]

theorem charge_zero (entry : Account) : entry.charge 0 = entry := by
  simp [Account.charge]

theorem accountOf_set (resource : Resource) (other : String) :
    accountOf { manager with resources := manager.resources.set other resource } name =
      if name = other then account resource else accountOf manager name := by
  unfold accountOf
  rw [Dict.get?_set]
  split <;> rfl

/-- A resource is overwritten by one with the same account. -/
theorem accountOf_set_same {resource : Resource} {other : String}
    (same : account resource = accountOf manager other) :
    accountOf { manager with resources := manager.resources.set other resource } name = accountOf manager name := by
  rw [accountOf_set]
  split
  · rename_i equal
    rw [same, equal]
  · rfl

theorem account_suspend (resource : Resource) (seconds : ℚ) :
    account (resource.suspend now seconds) = account resource := by
  cases resource <;> rfl

theorem accountOf_suspendResource (other : String) (seconds : ℚ) :
    accountOf (manager.suspendResource now other seconds).1 name = accountOf manager name := by
  unfold ResourceManager.suspendResource
  split
  · rfl
  · rename_i resource known
    apply accountOf_set_same
    rw [account_suspend, accountOf, known, Option.bind_some]

theorem accountOf_applySuspendSignals (signals : List SuspendSignal) :
    accountOf (manager.applySuspendSignals now signals) name = accountOf manager name := by
  induction signals generalizing manager with
  | nil => rfl
  | cons signal rest ih =>
    rw [ResourceManager.applySuspendSignals, ih, accountOf_suspendResource]

theorem account_acquire {resource taken : Resource} {amount : Number} (timed : account resource = none)
    (acquired : resource.acquire now amount = .ok taken) : account taken = none := by
  cases resource with
  | capacity resource => cases timed
  | rateLimit resource =>
    simp only [Resource.acquire, RateLimitResource.acquire] at acquired
    split at acquired
    · cases acquired
    · cases acquired
      rfl

/-- Claiming advances rate limits, which have no account. -/
theorem accountOf_advance (timed : ∀ entry ∈ entries, accountOf manager entry.1 = none) :
    accountOf (ResourceManager.advance now entries manager).1 name = accountOf manager name := by
  induction entries generalizing manager with
  | nil => rfl
  | cons entry rest ih =>
    rcases entry with ⟨other, amount⟩
    rw [List.forall_mem_cons] at timed
    unfold ResourceManager.advance
    split
    · exact ih timed.2
    · rename_i resource known
      split
      · rfl
      · rename_i taken acquired
        have same : account taken = accountOf manager other := by
          rw [timed.1]
          apply account_acquire _ acquired
          simpa [accountOf, known] using timed.1
        have later : ∀ entry ∈ rest,
            accountOf { manager with resources := manager.resources.set other taken } entry.1 = none := by
          intro entry member
          rw [accountOf_set_same same]
          exact timed.2 entry member
        rw [ih later, accountOf_set_same same]

theorem leases_advance (entries : List (String × Number)) (manager : ResourceManager) :
    (ResourceManager.advance now entries manager).1.leases = manager.leases := by
  induction entries generalizing manager with
  | nil => rfl
  | cons entry rest ih =>
    unfold ResourceManager.advance
    split
    · exact ih manager
    · split
      · rfl
      · exact ih _

theorem account_release {amount : Number} (nonneg : 0 ≤ amount.value) (resource : Resource) :
    ∃ released, resource.release amount = .ok released ∧
      ((∀ entry, account resource = some entry → amount.value ≤ entry.used) →
        account released = (account resource).map (Account.charge (-amount.value))) := by
  cases resource with
  | rateLimit resource => exact ⟨_, rfl, fun _ => rfl⟩
  | capacity resource =>
    have accepted : ¬ amount.value < 0 := not_lt.mpr nonneg
    refine ⟨.capacity { resource with
      used := max 0 (resource.used - amount.value)
      releaseOverruns :=
        if amount.value > resource.used then resource.releaseOverruns + 1 else resource.releaseOverruns }, ?_, ?_⟩
    · simp only [Resource.release, CapacityResource.release, if_neg accepted]
      rfl
    · intro enough
      have covered : amount.value ≤ resource.used := enough _ rfl
      have remaining : max 0 (resource.used - amount.value) = resource.used - amount.value :=
        max_eq_right (by linarith)
      simp only [account, Option.map_some, Account.charge, remaining, if_neg (not_lt.mpr covered)]
      rw [sub_eq_add_neg]

/-- Giving back what is used. -/
theorem accountOf_releaseAll (nonneg : ∀ entry ∈ entries, 0 ≤ entry.2.value)
    (enough : ∀ entry, accountOf manager name = some entry → amountOf name entries ≤ entry.used) :
    accountOf (manager.releaseAll entries) name =
      (accountOf manager name).map (Account.charge (-amountOf name entries)) := by
  induction entries generalizing manager with
  | nil =>
    rw [ResourceManager.releaseAll, amountOf_nil, neg_zero]
    cases accountOf manager name <;> simp [charge_zero]
  | cons entry rest ih =>
    rcases entry with ⟨other, amount⟩
    rw [List.forall_mem_cons] at nonneg
    have tail : 0 ≤ amountOf name rest := amountOf_nonneg nonneg.2
    rw [amountOf_cons] at enough ⊢
    unfold ResourceManager.releaseAll
    cases known : manager.resources.get? other with
    | none =>
      by_cases same : other = name
      · have absent : accountOf manager name = none := by rw [accountOf, ← same, known, Option.bind_none]
        simp only
        rw [ih nonneg.2 (by simp [absent]), absent]
        rfl
      · simp only
        rw [ih nonneg.2 (by simpa [same] using enough), if_neg same, zero_add]
    | some resource =>
      obtain ⟨released, given, charged⟩ := account_release nonneg.1 resource
      simp only [given]
      by_cases same : other = name
      · have own : accountOf manager name = account resource := by rw [accountOf, ← same, known, Option.bind_some]
        rw [if_pos same, own] at enough
        have first : accountOf { manager with resources := manager.resources.set other released } name =
            (accountOf manager name).map (Account.charge (-amount.value)) := by
          rw [accountOf_set, if_pos same.symm, own]
          apply charged
          intro entry present
          linarith [enough entry present]
        rw [ih nonneg.2, first, own, Option.map_map]
        · congr 1
          funext entry
          rw [Function.comp_apply, charge_charge, if_pos same]
          congr 1
          ring
        · intro entry present
          rw [first, own, Option.map_eq_some_iff] at present
          obtain ⟨before, stood, rfl⟩ := present
          have covered := enough before stood
          dsimp only [Account.charge] at covered ⊢
          linarith
      · have untouched : accountOf { manager with resources := manager.resources.set other released } name =
            accountOf manager name := by
          rw [accountOf_set, if_neg (Ne.symm same)]
        rw [ih nonneg.2 (by simpa [untouched, same] using enough), untouched, if_neg same, zero_add]

/-- What the loop of a reservation takes, wherever it stops. -/
structure Took (manager taken : ResourceManager) (entries : List (String × Number))
    (acquired limits : List (String × Number)) : Prop where
  part : acquired.Sublist entries
  nonneg : ∀ entry ∈ acquired, 0 ≤ entry.2.value
  timed : ∀ entry ∈ limits, accountOf manager entry.1 = none
  charged : ∀ name, accountOf taken name = (accountOf manager name).map (Account.charge (amountOf name acquired))
  leases : taken.leases = manager.leases

theorem took_nothing (entries : List (String × Number)) : Took manager manager entries [] [] where
  part := List.nil_sublist entries
  nonneg := by simp
  timed := by simp
  charged := by
    intro name
    cases accountOf manager name <;> simp [charge_zero]
  leases := rfl

theorem reserveEntries_took (entries : List (String × Number)) (manager : ResourceManager)
    (holding : ResourceManager.Holding) : ∃ acquired limits,
      (ResourceManager.reserveEntries now entries manager holding).2.1 =
        ⟨holding.acquired ++ acquired, holding.rateLimits ++ limits⟩ ∧
      Took manager (ResourceManager.reserveEntries now entries manager holding).1 entries acquired limits := by
  induction entries generalizing manager holding with
  | nil => exact ⟨[], [], by simp [ResourceManager.reserveEntries], took_nothing []⟩
  | cons entry rest ih =>
    rcases entry with ⟨other, amount⟩
    unfold ResourceManager.reserveEntries
    cases known : manager.resources.get? other with
    | none => exact ⟨[], [], by simp, took_nothing _⟩
    | some resource =>
      cases resource with
      | rateLimit resource =>
        rcases answer : resource.canAcquire now with ⟨free, wait⟩
        cases free with
        | false => exact ⟨[], [], by simp [answer], by simpa [answer] using took_nothing _⟩
        | true =>
          obtain ⟨acquired, limits, collected, took⟩ := ih manager
            { holding with rateLimits := holding.rateLimits ++ [(other, amount)] }
          have head : accountOf manager other = none := by rw [accountOf, known]; rfl
          refine ⟨acquired, (other, amount) :: limits, ?_, ?_⟩
          · simpa [answer] using collected
          · simp only [answer]
            exact ⟨took.part.cons _, took.nonneg, List.forall_mem_cons.mpr ⟨head, took.timed⟩, took.charged,
              took.leases⟩
      | capacity resource =>
        simp only [CapacityResource.acquire]
        by_cases negative : amount.value < 0
        · exact ⟨[], [], by simp [negative], by simpa [negative] using took_nothing _⟩
        · by_cases above : amount.value > resource.maxCapacity
          · exact ⟨[], [], by simp [negative, above], by simpa [negative, above] using took_nothing _⟩
          · simp only [negative, above, if_false]
            obtain ⟨acquired, limits, collected, took⟩ := ih
              { manager with resources := manager.resources.set other (.capacity { resource with
                  used := resource.used + amount.value }) }
              { holding with acquired := holding.acquired ++ [(other, amount)] }
            have charged : ∀ name, accountOf { manager with
                resources := manager.resources.set other (.capacity { resource with
                  used := resource.used + amount.value }) } name =
                (accountOf manager name).map (Account.charge (if other = name then amount.value else 0)) := by
              intro name
              rw [accountOf_set]
              by_cases same : other = name
              · rw [if_pos same.symm, if_pos same, accountOf, ← same, known]
                rfl
              · rw [if_neg (Ne.symm same), if_neg same]
                cases accountOf manager name <;> simp [charge_zero]
            refine ⟨(other, amount) :: acquired, limits, by simpa using collected, took.part.cons_cons _,
              List.forall_mem_cons.mpr ⟨not_lt.mp negative, took.nonneg⟩, ?_, ?_, took.leases⟩
            · intro entry member
              have absent := took.timed entry member
              rw [charged, Option.map_eq_none_iff] at absent
              exact absent
            · intro name
              rw [took.charged, charged, Option.map_map, amountOf_cons]
              congr 1
              funext account
              rw [Function.comp_apply, charge_charge]

end Accounts

section Invariant

variable {books : Books} {lease : ℕ} {held : ResourceLease}

/-- What a lease holds of a resource. -/
def share (name : String) (held : ResourceLease) : ℚ :=
  if held.status = .released then 0 else amountOf name held.acquired

/-- What is held of a resource by the leases that are not released. -/
def outstanding (leases : List ResourceLease) (name : String) : ℚ := (leases.map (share name)).sum

/-- The accounts are in order: what is used is outstanding, it is within the maximum and nothing was
released twice; and every lease was returned once if it is released, and not otherwise. -/
structure Sound (books : Books) : Prop where
  accounts : ∀ name entry, accountOf books.manager name = some entry →
    entry.used = outstanding books.manager.leases name ∧ entry.used ≤ entry.maxCapacity ∧ entry.overruns = 0
  nonneg : ∀ held ∈ books.manager.leases, ∀ entry ∈ held.acquired, 0 ≤ entry.2.value
  timed : ∀ held ∈ books.manager.leases, ∀ entry ∈ held.rateLimits, accountOf books.manager entry.1 = none
  returned : ∀ lease, books.returned.count lease =
    if (books.manager.leases[lease]?).map ResourceLease.status = some .released then 1 else 0

/-- Whatever is not released is in flight, or in the hands of a dispatch. -/
def Tracked (hand : List ℕ) (books : Books) : Prop :=
  ∀ lease, books.holds lease = true → lease ∈ hand ∨ lease ∈ books.tracker.entries.map Prod.snd

theorem outstanding_eq (leases : List ResourceLease) (name : String) : outstanding leases name =
    ((leases.filter fun held => held.status ≠ .released).map fun held => amountOf name held.acquired).sum := by
  induction leases with
  | nil => rfl
  | cons held rest ih =>
    unfold outstanding at ih ⊢
    by_cases released : held.status = .released
    · simp [share, released, ih]
    · simp [share, released, ih]

theorem share_nonneg (nonneg : ∀ entry ∈ held.acquired, 0 ≤ entry.2.value) : 0 ≤ share name held := by
  unfold share
  split
  · exact le_refl 0
  · exact amountOf_nonneg nonneg

theorem outstanding_nonneg {leases : List ResourceLease}
    (nonneg : ∀ held ∈ leases, ∀ entry ∈ held.acquired, 0 ≤ entry.2.value) : 0 ≤ outstanding leases name := by
  apply List.sum_nonneg
  intro amount member
  obtain ⟨held, listed, rfl⟩ := List.mem_map.mp member
  exact share_nonneg (nonneg held listed)

/-- A lease is overwritten by another one. -/
theorem outstanding_set {leases : List ResourceLease} (known : leases[lease]? = some held) (next : ResourceLease) :
    outstanding (leases.set lease next) name = outstanding leases name - share name held + share name next := by
  obtain ⟨inside, here⟩ := List.getElem?_eq_some_iff.mp known
  unfold outstanding
  rw [List.map_set, List.sum_set', dif_pos (by simpa using inside), List.getElem_map, here]
  ring

/-- One lease holds no more than all of them. -/
theorem share_le_outstanding {leases : List ResourceLease} (known : leases[lease]? = some held)
    (nonneg : ∀ held ∈ leases, ∀ entry ∈ held.acquired, 0 ≤ entry.2.value) :
    share name held ≤ outstanding leases name := by
  apply List.single_le_sum
  · intro amount member
    obtain ⟨other, listed, rfl⟩ := List.mem_map.mp member
    exact share_nonneg (nonneg other listed)
  · exact List.mem_map.mpr ⟨held, List.mem_of_getElem? known, rfl⟩

theorem holds_iff : books.holds lease = true ↔
    ∃ held, books.manager.leases[lease]? = some held ∧ held.status ≠ .released := by
  unfold Books.holds
  cases books.manager.leases[lease]? <;> simp

theorem releaseLease_of_holds (known : manager.leases[lease]? = some held) (open_ : held.status ≠ .released) :
    manager.releaseLease lease = { manager.releaseAll held.acquired with
      leases := manager.leases.set lease { held with status := .released } } := by
  unfold ResourceManager.releaseLease
  simp only [known, if_neg open_]
  rw [ResourceManager.leases_releaseAll]

theorem release_of_not_holds (closed : books.holds lease = false) : books.release lease = books := by
  have same : books.manager.releaseLease lease = books.manager := by
    unfold Books.holds at closed
    unfold ResourceManager.releaseLease
    split
    · rfl
    · rename_i held known
      rw [known] at closed
      rw [if_pos (by simpa using closed)]
  unfold Books.release
  rw [same, closed]
  rfl

/-- Nothing but suspensions and time slices changes. -/
theorem Sound.same (sound : Sound books) {next : ResourceManager} (leases : next.leases = books.manager.leases)
    (same : ∀ name, accountOf next name = accountOf books.manager name) : Sound { books with manager := next } where
  accounts := by
    intro name entry present
    rw [same] at present
    rw [leases]
    exact sound.accounts name entry present
  nonneg := by
    rw [leases]
    exact sound.nonneg
  timed := by
    intro held member entry asked
    rw [leases] at member
    rw [same]
    exact sound.timed held member entry asked
  returned := by
    intro lease
    rw [leases]
    exact sound.returned lease

/-- A lease that is not released gives back what it holds. -/
theorem accountOf_releaseLease (sound : Sound books) (known : books.manager.leases[lease]? = some held)
    (open_ : held.status ≠ .released) (name : String) :
    accountOf (books.manager.releaseLease lease) name =
      (accountOf books.manager name).map (Account.charge (-amountOf name held.acquired)) := by
  rw [releaseLease_of_holds known open_]
  apply accountOf_releaseAll (sound.nonneg held (List.mem_of_getElem? known))
  intro entry present
  have whole := @share_le_outstanding name lease held _ known sound.nonneg
  rw [share, if_neg open_] at whole
  rw [(sound.accounts name entry present).1]
  exact whole

theorem sound_release (sound : Sound books) (lease : ℕ) : Sound (books.release lease) := by
  cases holding : books.holds lease with
  | false =>
    rw [release_of_not_holds holding]
    exact sound
  | true =>
    obtain ⟨held, known, open_⟩ := holds_iff.mp holding
    have member := List.mem_of_getElem? known
    have leases : (books.manager.releaseLease lease).leases =
        books.manager.leases.set lease { held with status := .released } := by
      rw [releaseLease_of_holds known open_]
    have accounts := accountOf_releaseLease sound known open_
    refine ⟨?_, ?_, ?_, ?_⟩
    · intro name entry present
      simp only [Books.release] at present ⊢
      rw [accounts, Option.map_eq_some_iff] at present
      obtain ⟨before, stood, rfl⟩ := present
      obtain ⟨used, within, overruns⟩ := sound.accounts name before stood
      have given : 0 ≤ amountOf name held.acquired := amountOf_nonneg (sound.nonneg held member)
      refine ⟨?_, ?_, overruns⟩
      · rw [leases, outstanding_set known, share, if_neg open_, share, if_pos rfl, Account.charge, used]
        ring
      · dsimp only [Account.charge]
        linarith
    · intro other listed entry asked
      simp only [Books.release, leases] at listed
      rcases List.mem_or_eq_of_mem_set listed with old | rfl
      · exact sound.nonneg other old entry asked
      · exact sound.nonneg held member entry asked
    · intro other listed entry asked
      simp only [Books.release, leases] at listed ⊢
      rw [accounts, Option.map_eq_none_iff]
      rcases List.mem_or_eq_of_mem_set listed with old | rfl
      · exact sound.timed other old entry asked
      · exact sound.timed held member entry asked
    · intro other
      have before := sound.returned other
      simp only [Books.release, holding, if_true, List.count_append, List.count_singleton, leases]
      by_cases same : other = lease
      · rw [same] at before ⊢
        rw [known] at before
        obtain ⟨inside, -⟩ := List.getElem?_eq_some_iff.mp known
        simp only [Option.map_some, Option.some.injEq, open_, if_false] at before
        simp [before, inside]
      · rw [List.getElem?_set_ne (Ne.symm same), before]
        simp [Ne.symm same]

theorem sound_exit (sound : Sound books) (raised : Bool) (lease : ℕ) : Sound (books.exit raised lease) := by
  unfold Books.exit
  split
  · exact sound_release sound lease
  · exact sound

theorem sound_claim (sound : Sound books) (now : ℚ) (lease : ℕ) : Sound (books.claim now lease).1 := by
  unfold Books.claim ResourceManager.claimLease
  cases known : books.manager.leases[lease]? with
  | none => exact sound
  | some held =>
    by_cases reserved : held.status = .reserved
    · have member := List.mem_of_getElem? known
      have open_ : held.status ≠ .released := by
        rw [reserved]
        decide
      have accounts : ∀ name, accountOf (ResourceManager.advance now held.rateLimits books.manager).1 name =
          accountOf books.manager name := fun name => accountOf_advance (sound.timed held member)
      have leases : (ResourceManager.advance now held.rateLimits books.manager).1.leases = books.manager.leases :=
        leases_advance held.rateLimits books.manager
      simp only [reserved, ne_eq, not_true_eq_false, if_false]
      rcases advanced : ResourceManager.advance now held.rateLimits books.manager with ⟨next, refusal⟩
      rw [advanced] at accounts leases
      dsimp only at accounts leases
      have plain : Sound { books with manager := next } := sound.same leases accounts
      cases refusal with
      | some refusal => exact plain
      | none =>
        refine ⟨?_, ?_, ?_, ?_⟩
        · intro name entry present
          have before := plain.accounts name entry present
          have share_ : share name { held with status := .claimed } = share name held := by
            simp [share, reserved]
          refine ⟨?_, before.2⟩
          rw [before.1]
          simp only [leases]
          rw [outstanding_set known, share_]
          ring
        · intro other listed entry asked
          simp only [leases] at listed
          rcases List.mem_or_eq_of_mem_set listed with old | rfl
          · exact sound.nonneg other old entry asked
          · exact sound.nonneg held member entry asked
        · intro other listed entry asked
          simp only [leases] at listed
          refine (accounts entry.1).trans ?_
          rcases List.mem_or_eq_of_mem_set listed with old | rfl
          · exact sound.timed other old entry asked
          · exact sound.timed held member entry asked
        · intro other
          simp only [leases]
          rw [sound.returned other]
          by_cases same : other = lease
          · obtain ⟨inside, -⟩ := List.getElem?_eq_some_iff.mp known
            rw [same, known]
            simp [inside, reserved]
          · rw [List.getElem?_set_ne (Ne.symm same)]
    · simp only [ne_eq, reserved, not_false_eq_true, if_true]
      exact sound

end Invariant

section Reservation

variable {books : Books} {taskType jobUid : String} {declared : Option (List (String × Number))}
  {next : ResourceManager}

/-- A reservation that is refused gives back whatever it has taken. -/
theorem reserve_refused {refusal : ReserveError} (sound : Sound books)
    (refused : books.manager.reserve now taskType declared jobUid = (next, .error refusal)) :
    next.leases = books.manager.leases ∧ ∀ name, accountOf next name = accountOf books.manager name := by
  obtain ⟨acquired, limits, collected, took⟩ := @reserveEntries_took now
    (books.manager.effectiveResources taskType declared).entries books.manager {}
  unfold ResourceManager.reserve at refused
  rcases reserved : ResourceManager.reserveEntries now (books.manager.effectiveResources taskType declared).entries
    books.manager {} with ⟨taken, holding, error⟩
  rw [reserved] at refused collected took
  dsimp only at refused collected took
  cases error with
  | none => cases refused
  | some error =>
    have given : next = taken.releaseAll acquired := by
      rw [collected] at refused
      simpa using (congrArg Prod.fst refused).symm
    rw [given]
    refine ⟨(ResourceManager.leases_releaseAll _ _).trans took.leases, fun name => ?_⟩
    rw [accountOf_releaseAll took.nonneg, took.charged, Option.map_map]
    · cases accountOf books.manager name with
      | none => rfl
      | some entry => rw [Option.map_some, Function.comp_apply, charge_charge, add_neg_cancel, charge_zero]
    · intro entry present
      rw [took.charged, Option.map_eq_some_iff] at present
      obtain ⟨before, stood, rfl⟩ := present
      have used : 0 ≤ before.used := by
        rw [(sound.accounts name before stood).1]
        exact outstanding_nonneg sound.nonneg
      dsimp only [Account.charge]
      linarith

/-- A reservation that goes through where there is room for every request. -/
theorem sound_reserve {lease : ℕ} (sound : Sound books)
    (room : ∀ asked ∈ (books.manager.effectiveResources taskType declared).entries,
      ∀ entry, accountOf books.manager asked.1 = some entry → entry.used + asked.2.value ≤ entry.maxCapacity)
    (granted : books.manager.reserve now taskType declared jobUid = (next, .ok lease)) :
    Sound { books with manager := next } ∧ lease = books.manager.leases.length ∧
      ∃ held, next.leases = books.manager.leases ++ [held] ∧ held.status = .reserved := by
  obtain ⟨acquired, limits, collected, took⟩ := @reserveEntries_took now
    (books.manager.effectiveResources taskType declared).entries books.manager {}
  have distinct := (books.manager.effectiveResources taskType declared).distinct
  unfold ResourceManager.reserve at granted
  rcases reserved : ResourceManager.reserveEntries now (books.manager.effectiveResources taskType declared).entries
    books.manager {} with ⟨taken, holding, error⟩
  rw [reserved] at granted collected took
  dsimp only at granted collected took
  cases error with
  | some error => cases granted
  | none =>
    rw [collected] at granted
    obtain ⟨rfl, rfl⟩ : { taken with leases := taken.leases ++ [⟨jobUid, acquired, limits, .reserved⟩] } = next ∧
        taken.leases.length = lease := by simpa using granted
    refine ⟨⟨?_, ?_, ?_, ?_⟩, by rw [took.leases], _, by rw [took.leases], rfl⟩
    · intro name entry present
      have charged : accountOf taken name = some entry := present
      rw [took.charged, Option.map_eq_some_iff] at charged
      obtain ⟨before, stood, rfl⟩ := charged
      obtain ⟨used, within, overruns⟩ := sound.accounts name before stood
      refine ⟨?_, ?_, overruns⟩
      · have added : outstanding (books.manager.leases ++ [⟨jobUid, acquired, limits, .reserved⟩]) name =
            outstanding books.manager.leases name + amountOf name acquired := by
          simp [outstanding, share]
        dsimp only
        rw [took.leases, added, ← used]
        rfl
      · apply amountOf_le (distinct.sublist (took.part.map Prod.fst)) within
        rintro ⟨other, amount⟩ member rfl
        exact room _ (took.part.subset member) before stood
    · intro held member entry asked
      dsimp only at member
      rw [took.leases] at member
      rcases List.mem_append.mp member with old | new
      · exact sound.nonneg held old entry asked
      · rw [List.mem_singleton.mp new] at asked
        exact took.nonneg entry asked
    · intro held member entry asked
      dsimp only at member
      rw [took.leases] at member
      have plain : accountOf books.manager entry.1 = none := by
        rcases List.mem_append.mp member with old | new
        · exact sound.timed held old entry asked
        · rw [List.mem_singleton.mp new] at asked
          exact took.timed entry asked
      have charged : accountOf taken entry.1 = none := by
        rw [took.charged, plain]
        rfl
      exact charged
    · intro other
      dsimp only
      rw [took.leases, sound.returned other]
      by_cases old : other < books.manager.leases.length
      · rw [List.getElem?_append_left old]
      · rw [List.getElem?_append_right (not_lt.mp old), List.getElem?_eq_none (not_lt.mp old)]
        cases other - books.manager.leases.length <;> simp

theorem get?_effectiveResources {pairs : List (String × Number)} (distinct : (pairs.map Prod.fst).Nodup) :
    (manager.effectiveResources taskType (some pairs)).get? name =
      (Dict.find name pairs).or ((manager.tasks.get? taskType).bind fun task => task.resources.get? name) := by
  have base : (Dict.ofPairs pairs).get? name = Dict.find name pairs := by
    rw [Dict.ofPairs, Dict.get?_update _ distinct, Dict.get?_empty, Option.or_none]
  unfold ResourceManager.effectiveResources
  rw [Option.getD_some]
  cases manager.tasks.get? taskType with
  | none => simpa using base
  | some task =>
    dsimp only [Option.bind_some]
    split
    · rename_i empty
      have absent : task.resources.get? name = none := by
        rw [Dict.get?, List.isEmpty_iff.mp empty]
        rfl
      rw [base, absent, Option.or_none]
    · rw [Dict.get?_update _ (Dict.ofPairs pairs).distinct]
      exact congrArg (Option.or · _) base

/-- The scan and the reservation ask for the same: sorting the resources of a row changes nothing, and
filling them in from the task neither. -/
theorem effectiveResources_scanned (declared : Dict String Number) :
    (manager.effectiveResources taskType
        (some (manager.effectiveResources taskType (some declared.entries)).entries)).get? name =
      (manager.effectiveResources taskType (some (scannedResources declared))).get? name := by
  have sorted : (scannedResources declared).Perm declared.entries := List.mergeSort_perm _ _
  have distinct : ((scannedResources declared).map Prod.fst).Nodup := (sorted.map _).nodup_iff.mpr declared.distinct
  have filled := @get?_effectiveResources manager name taskType _ declared.distinct
  have twice := @get?_effectiveResources manager name taskType _
    (manager.effectiveResources taskType (some declared.entries)).distinct
  rw [twice, get?_effectiveResources distinct, Dict.find_perm sorted distinct]
  rw [Dict.get?] at filled
  rw [filled]
  cases Dict.find name declared.entries with
  | some value => simp
  | none => simp

theorem tasks_applySuspendSignals (signals : List SuspendSignal) :
    (manager.applySuspendSignals now signals).tasks = manager.tasks := by
  induction signals generalizing manager with
  | nil => rfl
  | cons signal rest ih =>
    rw [ResourceManager.applySuspendSignals, ih]
    unfold ResourceManager.suspendResource
    split <;> rfl

theorem leases_applySuspendSignals (signals : List SuspendSignal) :
    (manager.applySuspendSignals now signals).leases = manager.leases := by
  induction signals generalizing manager with
  | nil => rfl
  | cons signal rest ih =>
    rw [ResourceManager.applySuspendSignals, ih]
    unfold ResourceManager.suspendResource
    split <;> rfl

/-- What the scan has found free has room when it is reserved, whatever was suspended in between. -/
theorem room_of_scanned {scanned drained : ℚ} {declared : Dict String Number} (signals : List SuspendSignal)
    (available : (manager.evaluate scanned taskType (some (scannedResources declared))).isAvailable = true) :
    let current := manager.applySuspendSignals drained signals
    ∀ asked ∈ (current.effectiveResources taskType
        (some (current.effectiveResources taskType (some declared.entries)).entries)).entries,
      ∀ entry, accountOf current asked.1 = some entry → entry.used + asked.2.value ≤ entry.maxCapacity := by
  intro current asked member entry present
  have tasks : current.tasks = manager.tasks := tasks_applySuspendSignals signals
  have same : ∀ pairs, current.effectiveResources taskType pairs = manager.effectiveResources taskType pairs := by
    intro pairs
    simp only [ResourceManager.effectiveResources, tasks]
  rw [same, same] at member
  rw [accountOf_applySuspendSignals] at present
  have listed : asked ∈ (manager.effectiveResources taskType (some (scannedResources declared))).entries := by
    rw [Dict.mem_entries, effectiveResources_scanned] at member
    exact Dict.mem_entries.mpr member
  have free := (Availability.evaluate_available taskType _).mp available asked listed
  unfold Availability.Free at free
  unfold accountOf at present
  cases known : manager.resources.get? asked.1 with
  | none =>
    rw [known] at free
    exact absurd free id
  | some resource =>
    rw [known] at free present
    cases resource with
    | rateLimit resource => cases present
    | capacity resource =>
      cases present
      exact free.2.1

end Reservation

section Flight

variable {books : Books} {hand : List ℕ} {lease : ℕ}

theorem holds_release (lease other : ℕ) :
    (books.release lease).holds other = if other = lease then false else books.holds other := by
  cases holding : books.holds lease with
  | false =>
    rw [release_of_not_holds holding]
    split
    · rename_i same
      rw [same, holding]
    · rfl
  | true =>
    obtain ⟨held, known, open_⟩ := holds_iff.mp holding
    obtain ⟨inside, -⟩ := List.getElem?_eq_some_iff.mp known
    have leases : (books.release lease).manager.leases =
        books.manager.leases.set lease { held with status := .released } := by
      rw [Books.release, releaseLease_of_holds known open_]
    simp only [Books.holds, leases]
    by_cases same : other = lease
    · simp [same, inside]
    · rw [List.getElem?_set_ne (Ne.symm same), if_neg same]

theorem holds_claim (now : ℚ) (lease other : ℕ) : (books.claim now lease).1.holds other = books.holds other := by
  unfold Books.claim ResourceManager.claimLease
  cases known : books.manager.leases[lease]? with
  | none => rfl
  | some held =>
    by_cases reserved : held.status = .reserved
    · have leases : (ResourceManager.advance now held.rateLimits books.manager).1.leases = books.manager.leases :=
        leases_advance held.rateLimits books.manager
      simp only [reserved, ne_eq, not_true_eq_false, if_false]
      rcases advanced : ResourceManager.advance now held.rateLimits books.manager with ⟨next, refusal⟩
      rw [advanced] at leases
      dsimp only at leases
      cases refusal with
      | some refusal => simp only [Books.holds, leases]
      | none =>
        obtain ⟨inside, -⟩ := List.getElem?_eq_some_iff.mp known
        simp only [Books.holds, leases]
        by_cases same : other = lease
        · rw [same, known]
          simp [inside, reserved]
        · rw [List.getElem?_set_ne (Ne.symm same)]
    · simp only [ne_eq, reserved, not_false_eq_true, if_true]

theorem tracked_release (tracked : Tracked hand books) (lease : ℕ) : Tracked hand (books.release lease) := by
  intro other holding
  rw [holds_release] at holding
  split at holding
  · cases holding
  · exact tracked other holding

/-- The lease in hand is given back. -/
theorem tracked_released (tracked : Tracked [lease] books) : Tracked [] (books.release lease) := by
  intro other holding
  rw [holds_release] at holding
  split at holding
  · cases holding
  · rename_i different
    rcases tracked other holding with mine | flying
    · exact absurd (List.mem_singleton.mp mine) different
    · exact Or.inr flying

theorem tracked_exit (tracked : Tracked [lease] books) : Tracked [] (books.exit true lease) := by
  unfold Books.exit
  cases holding : books.holds lease with
  | true => exact tracked_released tracked
  | false =>
    intro other holds
    simp only [Bool.true_and, Bool.false_eq_true, if_false] at holds ⊢
    rcases tracked other holds with mine | flying
    · rw [List.mem_singleton.mp mine, holding] at holds
      cases holds
    · exact Or.inr flying

theorem tracked_claim (tracked : Tracked hand books) (now : ℚ) (lease : ℕ) :
    Tracked hand (books.claim now lease).1 := by
  intro other holding
  rw [holds_claim] at holding
  exact tracked other holding

/-- However a dispatch ends, its lease is given back or in flight. -/
theorem tracked_conclude {jobUid : String} (tracked : Tracked [lease] books) (fresh : jobUid ∉ books.tracker.keys)
    (ending : Ending) : Tracked [] (books.conclude jobUid lease ending) := by
  cases ending with
  | rejected => exact tracked_released tracked
  | raised claimed =>
    cases claimed with
    | none => exact tracked_exit tracked
    | some now => exact tracked_exit (tracked_claim tracked now lease)
  | spawned now =>
    have claimed := tracked_claim tracked now lease
    have tracker : (books.claim now lease).1.tracker = books.tracker := rfl
    rcases result : books.claim now lease with ⟨next, refusal⟩
    rw [result] at claimed tracker
    simp only [Books.conclude, result]
    cases refusal with
    | some refusal => exact tracked_exit claimed
    | none =>
      dsimp only at claimed tracker ⊢
      intro other holding
      right
      rcases claimed other holding with mine | flying
      · rw [List.mem_singleton.mp mine]
        have listed : (jobUid, lease) ∈ (next.tracker.set jobUid lease).entries :=
          Dict.mem_entries.mpr (Dict.get?_set_self _ _ _)
        exact List.mem_map.mpr ⟨_, listed, rfl⟩
      · obtain ⟨⟨uid, value⟩, member, rfl⟩ := List.mem_map.mp flying
        have different : uid ≠ jobUid := by
          rintro rfl
          rw [tracker] at member
          exact fresh (List.mem_map.mpr ⟨_, member, rfl⟩)
        have listed : (uid, value) ∈ (next.tracker.set jobUid lease).entries := by
          rw [Dict.mem_entries, Dict.get?_set_of_ne _ _ different]
          exact Dict.mem_entries.mp member
        exact List.mem_map.mpr ⟨_, listed, rfl⟩

theorem sound_conclude (sound : Sound books) (jobUid : String) (lease : ℕ) (ending : Ending) :
    Sound (books.conclude jobUid lease ending) := by
  cases ending with
  | rejected => exact sound_release sound lease
  | raised claimed =>
    cases claimed with
    | none => exact sound_exit sound true lease
    | some now => exact sound_exit (sound_claim sound now lease) true lease
  | spawned now =>
    have claimed := sound_claim sound now lease
    rcases result : books.claim now lease with ⟨next, refusal⟩
    rw [result] at claimed
    simp only [Books.conclude, result]
    cases refusal with
    | some refusal => exact sound_exit claimed true lease
    | none => exact ⟨claimed.accounts, claimed.nonneg, claimed.timed, claimed.returned⟩

end Flight

section Main

variable {books : Books}

theorem sound_suspend (sound : Sound books) (now : ℚ) (signals : List SuspendSignal) :
    Sound { books with manager := books.manager.applySuspendSignals now signals } :=
  sound.same (leases_applySuspendSignals signals) fun _ => accountOf_applySuspendSignals signals

theorem holds_of_leases {next : Books} (leases : next.manager.leases = books.manager.leases) (lease : ℕ) :
    next.holds lease = books.holds lease := by
  simp only [Books.holds, leases]

theorem sound_dispatch (sound : Sound books) (tracked : Tracked [] books) (scanned drained reserved : ℚ)
    (signals : List SuspendSignal) (taskType : String) (declared : Dict String Number) (jobUid : String)
    (ending : Ending) :
    Sound (books.dispatch scanned drained reserved signals taskType declared jobUid ending) ∧
      Tracked [] (books.dispatch scanned drained reserved signals taskType declared jobUid ending) := by
  unfold Books.dispatch
  split
  · exact ⟨sound, tracked⟩
  · rename_i fresh
    split
    · rename_i available
      have room := @room_of_scanned books.manager taskType scanned drained declared signals available
      have awake := sound_suspend sound drained signals
      have still : ∀ {next : ResourceManager},
          next.leases = (books.manager.applySuspendSignals drained signals).leases →
          Tracked [] { books with manager := next } := by
        intro next leases lease holding
        apply tracked lease
        rw [← holding]
        exact (holds_of_leases (leases.trans (leases_applySuspendSignals signals)) lease).symm
      dsimp only at room ⊢
      split
      · rename_i next refusal refused
        obtain ⟨leases, accounts⟩ := reserve_refused awake refused
        exact ⟨awake.same leases accounts, still leases⟩
      · rename_i next lease granted
        obtain ⟨granting, place, held, leases, -⟩ := sound_reserve awake room granted
        dsimp only at place leases
        refine ⟨sound_conclude granting jobUid lease ending, ?_⟩
        apply @tracked_conclude { books with manager := next } lease jobUid _ fresh ending
        intro other holding
        rw [holds_iff] at holding
        obtain ⟨mine, known, open_⟩ := holding
        dsimp only at known
        rw [leases] at known
        rcases Nat.lt_trichotomy other lease with below | same | above
        · have before : (books.manager.applySuspendSignals drained signals).leases[other]? = some mine := by
            rw [place] at below
            rwa [List.getElem?_append_left below] at known
          rcases still rfl other (holds_iff.mpr ⟨mine, before, open_⟩) with none_ | flying
          · cases none_
          · exact Or.inr flying
        · exact Or.inl (List.mem_singleton.mpr same)
        · rw [List.getElem?_eq_none] at known
          · cases known
          · rw [List.length_append, List.length_singleton]
            omega
    · exact ⟨sound, tracked⟩

theorem sound_foldl (sound : Sound books) (tracked : Tracked [] books) (leases : List ℕ) :
    Sound (leases.foldl Books.release books) ∧ Tracked [] (leases.foldl Books.release books) := by
  induction leases generalizing books with
  | nil => exact ⟨sound, tracked⟩
  | cons lease rest ih => exact ih (sound_release sound lease) (tracked_release tracked lease)

theorem sound_step (sound : Sound books) (tracked : Tracked [] books) (action : Action) :
    Sound (step books action) ∧ Tracked [] (step books action) := by
  cases action with
  | suspend now signals =>
    refine ⟨sound_suspend sound now signals, fun lease holding => tracked lease ?_⟩
    rw [← holding]
    exact (holds_of_leases (leases_applySuspendSignals signals) lease).symm
  | dispatch scanned drained reserved signals taskType declared jobUid ending =>
    exact sound_dispatch sound tracked scanned drained reserved signals taskType declared jobUid ending
  | claim now lease => exact ⟨sound_claim sound now lease, tracked_claim tracked now lease⟩
  | release lease => exact ⟨sound_release sound lease, tracked_release tracked lease⟩
  | cancel lease => exact ⟨sound_release sound lease, tracked_release tracked lease⟩
  | exit raised lease =>
    refine ⟨sound_exit sound raised lease, ?_⟩
    simp only [step, Books.exit]
    split
    · exact tracked_release tracked lease
    · exact tracked
  | releaseResources jobUid =>
    simp only [step, Books.releaseResources]
    split
    · exact ⟨sound, tracked⟩
    · exact ⟨sound_release sound _, tracked_release tracked _⟩
  | releaseAllResources => exact sound_foldl sound tracked _
  | settle jobUid =>
    cases known : books.tracker.get? jobUid with
    | none =>
      have unchanged : books.releaseResources jobUid = books := by
        unfold Books.releaseResources
        rw [known]
      have absent : jobUid ∉ books.tracker.keys := by
        rw [Dict.keys, Dict.mem_keys_iff]
        rintro ⟨lease, found⟩
        rw [Dict.get?, found] at known
        cases known
      have kept : books.tracker.erase jobUid = books.tracker := by
        apply Dict.ext
        apply List.filter_eq_self.mpr
        intro entry member
        have different : entry.1 ≠ jobUid := fun same => absent (same ▸ List.mem_map.mpr ⟨entry, member, rfl⟩)
        simpa using different
      rw [step, unchanged, kept]
      exact ⟨sound, tracked⟩
    | some lease =>
      have given : books.releaseResources jobUid = books.release lease := by
        unfold Books.releaseResources
        rw [known]
      have next := sound_release sound lease
      rw [step, given]
      refine ⟨⟨next.accounts, next.nonneg, next.timed, next.returned⟩, ?_⟩
      intro other holding
      have open_ : (books.release lease).holds other = true := holding
      rw [holds_release] at open_
      split at open_
      · cases open_
      · rename_i different
        rcases tracked other open_ with mine | flying
        · cases mine
        · obtain ⟨⟨uid, value⟩, member, rfl⟩ := List.mem_map.mp flying
          right
          have elsewhere : uid ≠ jobUid := by
            rintro rfl
            rw [Dict.mem_entries, known] at member
            exact different (Option.some.inj member).symm
          refine List.mem_map.mpr ⟨(uid, value), ?_, rfl⟩
          rw [Dict.mem_entries, Dict.get?_erase, if_neg elsewhere]
          exact Dict.mem_entries.mp member

/-- A resource manager before the first lease. -/
def Unused (manager : ResourceManager) : Prop :=
  manager.leases = [] ∧ ∀ name resource, manager.resources.get? name = some (.capacity resource) →
    resource.used = 0 ∧ resource.releaseOverruns = 0

theorem sound_unused (unused : Unused manager) : Sound ⟨manager, Dict.empty, []⟩ where
  accounts := by
    intro name entry present
    unfold accountOf at present
    cases known : manager.resources.get? name with
    | none =>
      rw [known] at present
      cases present
    | some resource =>
      rw [known] at present
      cases resource with
      | rateLimit resource => cases present
      | capacity resource =>
        obtain ⟨used, overruns⟩ := unused.2 name resource known
        cases present
        refine ⟨?_, ?_, overruns⟩
        · dsimp only
          rw [unused.1, used]
          rfl
        · dsimp only
          rw [used]
          exact resource.nonnegative
  nonneg := by simp [unused.1]
  timed := by simp [unused.1]
  returned := by simp [unused.1]

/-- Along every run of dispatches, claims, releases and settlements, in any order and on any leases: what
is used of a capacity is what its unreleased leases hold, it stays within the maximum and nothing is
released twice; every released lease was returned exactly once; a refused reservation changes no account;
and when nothing is in flight, nothing is used. -/
theorem capacities_accounted (unused : Unused manager) (actions : List Action) :
    let books := Machine.run step ⟨manager, Dict.empty, []⟩ actions
    (∀ name resource, books.manager.resources.get? name = some (.capacity resource) →
      resource.used = ((books.manager.leases.filter fun held => held.status ≠ .released).map fun held =>
        amountOf name held.acquired).sum ∧
      0 ≤ resource.used ∧ resource.used ≤ resource.maxCapacity ∧ resource.releaseOverruns = 0 ∧
      (books.tracker.entries = [] → resource.used = 0)) ∧
    (∀ lease held, books.manager.leases[lease]? = some held →
      books.returned.count lease = if held.status = .released then 1 else 0) ∧
    (∀ now taskType declared jobUid next refusal,
      books.manager.reserve now taskType declared jobUid = (next, .error refusal) →
        ∀ name, accountOf next name = accountOf books.manager name) := by
  intro books
  obtain ⟨sound, tracked⟩ : Sound books ∧ Tracked [] books := by
    have start : Tracked [] ⟨manager, Dict.empty, []⟩ := by
      intro lease holding
      obtain ⟨held, known, -⟩ := holds_iff.mp holding
      simp [unused.1] at known
    have kept : ∀ books action, (Sound books ∧ Tracked [] books) →
        Sound (step books action) ∧ Tracked [] (step books action) :=
      fun _ action kept => sound_step kept.1 kept.2 action
    exact @Machine.run_invariant _ _ step (fun books => Sound books ∧ Tracked [] books) _
      ⟨sound_unused unused, start⟩ kept actions
  refine ⟨?_, ?_, fun now taskType declared jobUid next refusal refused => (reserve_refused sound refused).2⟩
  · intro name resource known
    have present : accountOf books.manager name =
        some ⟨resource.used, resource.maxCapacity, resource.releaseOverruns⟩ := by rw [accountOf, known]; rfl
    obtain ⟨used, within, overruns⟩ := sound.accounts name _ present
    dsimp only at used within overruns
    refine ⟨?_, ?_, within, overruns, fun landed => ?_⟩
    · rw [used, outstanding_eq]
    · rw [used]
      exact outstanding_nonneg sound.nonneg
    · have closed : ∀ held ∈ books.manager.leases, share name held = 0 := by
        intro held member
        obtain ⟨lease, known⟩ := List.mem_iff_getElem?.mp member
        unfold share
        split
        · rfl
        · rename_i open_
          rcases tracked lease (holds_iff.mpr ⟨held, known, open_⟩) with mine | flying
          · cases mine
          · rw [landed] at flying
            cases flying
      rw [used, outstanding, List.map_congr_left closed]
      simp
  · intro lease held known
    rw [sound.returned lease, known, Option.map_some]
    simp only [Option.some.injEq]

/-- Two worker slots. -/
def workerPool : ResourceManager where
  resources := Dict.ofPairs [(workerResource, .capacity ⟨2, 0, 0, 0, by decide⟩)]
  tasks := Dict.empty
  leases := []

/-- Two workers are started, all resources are released on abort, and one entry is settled twice. -/
def startedAndAborted : List Action :=
  [.dispatch 0 0 0 [] "t" (Dict.ofPairs [(workerResource, .float 1)]) "t::a" (.spawned 0),
    .dispatch 0 0 0 [] "t" (Dict.ofPairs [(workerResource, .float 1)]) "t::b" (.spawned 0),
    .releaseAllResources, .settle "t::a", .release 0]

theorem unused_workerPool : Unused workerPool := by
  refine ⟨rfl, ?_⟩
  intro name resource known
  have only : (name, Resource.capacity resource) ∈ workerPool.resources.entries := Dict.mem_entries.mpr known
  have entry : (name, Resource.capacity resource) =
      (workerResource, Resource.capacity ⟨2, 0, 0, 0, by decide⟩) := List.mem_singleton.mp only
  cases entry
  exact ⟨rfl, rfl⟩

theorem capacities_accounted_aborted : Unused workerPool ∧
    let books := Machine.run step ⟨workerPool, Dict.empty, []⟩ startedAndAborted
    books.returned = [0, 1] ∧ books.tracker.keys = ["t::b"] ∧
      ∀ lease held, books.manager.leases[lease]? = some held →
        books.returned.count lease = if held.status = .released then 1 else 0 := by
  refine ⟨unused_workerPool, by decide +kernel, by decide +kernel, ?_⟩
  exact (capacities_accounted unused_workerPool startedAndAborted).2.1

end Main

end Tasklite.Engine.Leases
