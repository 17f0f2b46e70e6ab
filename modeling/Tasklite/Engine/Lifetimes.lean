import Tasklite.Engine.Brackets

/-! Runs one after the other on the same instance. What holds of one run holds of each of
a history: what it raises, what its hooks are told, how it stops, and that it gives back
what it has taken. -/

namespace Tasklite.Engine.Execute
open Tasklite.Library Tasklite.Library.Program Tasklite.Models

section History

variable {W : Type} {world : World W} {launches : List (Launch W)}

/-- An instance that does not run holds no lock. -/
def Sound (world : World W) : Prop := world.isRunning = false → world.runLockFd = none

/-- The answer to a run while another is in progress. -/
def refusal : Outcome := ⟨.error (.exception "RuntimeError"), []⟩

theorem Lived.sound {parts : Parts W} {after : World W} {ended : Except Raised RunSummary} {made : List Call}
    (lived : Lived parts world after ended made) : Sound after := by
  by_cases lost : Stray made
  · intro stopped
    rw [(lived.stray lost).1] at stopped
    cases stopped
  · exact fun _ => (lived.closed lost).runLockFd

/-- One run of a history, refused or lived through. -/
theorem wp_execute {parts : Parts W} {fuel : ℕ} {options : ExecutionOptions} (sound : Sound world) :
    wp (execute parts fuel options) (fun ended after =>
      (world.isRunning = true ∧ ended = refusal.ended ∧ after = world) ∨
      (world.isRunning = false ∧ ∃ made, Lived parts world after ended made ∧
        raisedBy ended = lastEscape Call.escapes made)) world := by
  unfold execute
  rw [wp_get_bind, wp_ite]
  split
  · rename_i running
    exact .inl ⟨running, rfl, rfl⟩
  · rename_i stopped
    have idle : world.isRunning = false := by simpa using stopped
    refine wp_mono (wp_and (wp_lifeCycle fuel options (sound idle)) (tells_lifeCycle fuel options world))
      fun ended after both => ?_
    obtain ⟨⟨made, lived⟩, more, logged, told⟩ := both
    obtain rfl : more = made := List.append_cancel_left (logged.symm.trans lived.calls)
    exact .inr ⟨idle, more, lived, told⟩

/-- What holds of every run that is lived through, and of one that is refused, holds of every run of a history. -/
theorem wp_runs {holds : Launch W → Outcome → Prop} (refused : ∀ launch, holds launch refusal)
    (lived : ∀ launch world after ended made, Lived launch.parts world after ended made →
      raisedBy ended = lastEscape Call.escapes made → holds launch ⟨ended, made⟩) (sound : Sound world) :
    wp (runs launches) (fun ended _ => ∃ outcomes, ended = .ok outcomes ∧ List.Forall₂ holds launches outcomes)
      world := by
  induction launches generalizing world with
  | nil => exact ⟨[], rfl, .nil⟩
  | cons launch rest ih =>
    rw [runs, wp_modify_bind, wp_get_bind, wp_bind, wp_attempt]
    refine wp_mono (wp_execute sound) fun ended after outcome => ?_
    dsimp only
    rw [wp_get_bind, wp_bind]
    have one : holds launch ⟨ended, after.calls.drop
        (world.elapsed (launch.meanwhile world)).calls.length⟩ ∧ Sound after := by
      rcases outcome with ⟨-, same, rfl⟩ | ⟨-, made, done, told⟩
      · rw [same, List.drop_length]
        exact ⟨refused launch, sound⟩
      · rw [done.calls, List.drop_left]
        exact ⟨lived launch _ after ended made done told, done.sound⟩
    refine wp_mono (ih one.2) fun last left ⟨outcomes, ended, all⟩ => ?_
    rw [ended]
    exact ⟨_, rfl, .cons one.1 all⟩

/-- The hooks of a run: none of a run that never began, and otherwise the start and then, once, the end. -/
def Hooked (parts : Parts W) (outcome : Outcome) : Prop :=
  (outcome.made.filter (fun call => call.site.isHook) = [] ∧ ∃ e, outcome.ended = .error e) ∨
    ∃ reason, (outcome.made.filter fun call => call.site.isHook).map Call.site =
      startSites parts ++ endSites parts reason ∧ Reported reason outcome.ended outcome.made

/-- In every history of runs each run that begins is told its start and then, exactly once, its end, with the
reason for which it ends. -/
theorem runs_are_told (sound : Sound world) : wp (runs launches) (fun ended _ => ∃ outcomes, ended = .ok outcomes ∧
    List.Forall₂ (fun launch outcome => Hooked launch.parts outcome) launches outcomes) world :=
  wp_runs (fun _ => .inl ⟨rfl, _, rfl⟩) (fun _ _ _ _ _ lived _ => lived.hooks) sound

/-- What a run raises is the last that escaped from its calls, and after a crash of its loop it kills the workers
and saves the queue, once and in this order. -/
structure Accounted (outcome : Outcome) : Prop where
  raised : outcome = refusal ∨ raisedBy outcome.ended = lastEscape Call.escapes outcome.made
  cleaned : (outcome.made.filter fun call => call.site.inCleanUp).map Call.site =
    if (lastEscape Call.escapes (outcome.made.filter fun call => call.site.inLoop)).isSome
      then [.abortCleanup, .saveCleanup] else []

theorem runs_are_accounted (sound : Sound world) : wp (runs launches) (fun ended _ => ∃ outcomes,
    ended = .ok outcomes ∧ List.Forall₂ (fun _ outcome => Accounted outcome) launches outcomes) world :=
  wp_runs (fun _ => ⟨.inl rfl, rfl⟩) (fun _ _ _ _ _ lived told => ⟨.inr told, lived.cleaned⟩) sound

end History

section Holding

variable {W : Type} {world now after : World W} {launches : List (Launch W)}

theorem Closed.trans (first : Closed world now) (rest : Closed now after) : Closed world after := by
  refine ⟨rest.isRunning, rest.runLockFd, rest.openLocks.trans first.openLocks, fun number => ?_⟩
  rcases first.handlers number with unknown | known
  · exact .inl unknown
  · rcases rest.handlers number with unknown | same
    · exact .inl (known.symm.trans unknown)
    · exact .inr (same.trans known)

theorem wp_execute_running {parts : Parts W} {fuel : ℕ} {options : ExecutionOptions}
    {post : Except Raised RunSummary → World W → Prop} (running : world.isRunning = true) :
    wp (execute parts fuel options) post world ↔ post refusal.ended world := by
  unfold execute
  rw [wp_get_bind, wp_ite, if_pos running, wp_throw]
  rfl

/-- An instance that never stopped running refuses every run from then on. -/
theorem runs_refused (running : world.isRunning = true) : wp (runs launches) (fun ended after =>
    ∃ outcomes, ended = .ok outcomes ∧ (∀ outcome ∈ outcomes, outcome = refusal) ∧ after.isRunning = true ∧
      after.runLockFd = world.runLockFd ∧ after.openLocks = world.openLocks) world := by
  induction launches generalizing world with
  | nil => exact ⟨[], rfl, by simp, running, rfl, rfl⟩
  | cons launch rest ih =>
    have still : (world.elapsed (launch.meanwhile world)).isRunning = true := running
    rw [runs, wp_modify_bind, wp_get_bind, wp_bind, wp_attempt, wp_execute_running still]
    dsimp only
    rw [wp_get_bind, wp_bind]
    refine wp_mono (ih still) fun last left ⟨outcomes, ended, all, running, fd, locks⟩ => ?_
    rw [ended]
    refine ⟨_, rfl, fun outcome found => ?_, running, fd, locks⟩
    rcases List.mem_cons.mp found with rfl | later
    · rw [List.drop_length]
      rfl
    · exact all outcome later

end Holding

section Sample

/-- A part that does nothing. -/
def idlePart {α : Type} (a : α) : Part ℕ α := fun world => (.ok a, { engine := world.engine })

/-- An engine that has so many jobs left, and crashes on the first. -/
def sampleParts : Parts ℕ where
  strictPicklable := true
  pickles := [idlePart ()]
  onRunStart := some (idlePart ())
  onRunEnd := some fun _ world => (.error (.exception "ValueError"), { engine := world.engine, stops := [false] })
  resetRun := id
  tryAcquireLock := idlePart (some 7)
  signalFault := fun _ => none
  setStats := id
  runId := "run"
  beginRound := id
  setEngineMetadata := idlePart ()
  loadAndRepair := idlePart ()
  storeEmpty := fun left => left == 0
  hasInFlight := fun _ => false
  clearInFlight := id
  applySkips := idlePart ()
  dispatchNext := fun world => (.error (.base "_CommitCrashSignal"), { engine := world.engine - 1 })
  recordDispatchProgress := id
  arbitrateDeadlock := fun _ => idlePart {}
  reapAndSettle := idlePart 0
  sleep := fun _ => idlePart ()
  abortInFlight := idlePart ()
  saveQueueCrashSafe := idlePart ()
  persistResourceSuspensions := idlePart ()

/-- The same, but it cannot be loaded, and its last hook leaves the process. -/
def strayParts : Parts ℕ := { sampleParts with
  loadAndRepair := fun world => (.error (.exception "OSError"), { engine := world.engine })
  onRunEnd := some fun _ world => (.error (.base "SystemExit"), { engine := world.engine }) }

def sampleWorld : World ℕ where
  isRunning := false
  runLockFd := none
  openLocks := []
  handlers := fun _ => some (.other "default")
  session := {}
  skipDirty := false
  locals := {}
  engine := 1
  calls := []

def launchOf (parts : Parts ℕ) : Launch ℕ := ⟨parts, 9, {}, fun world => { engine := world.engine }⟩

/-- A run that crashes, one that finds nothing left to do, one that goes astray and one that is refused. -/
@[irreducible]
def sampleLaunches : List (Launch ℕ) :=
  [launchOf sampleParts, launchOf sampleParts, launchOf strayParts, launchOf sampleParts]

theorem sample_ends : (runs sampleLaunches sampleWorld).isSome = true := by decide +kernel

theorem runs_are_told_sample : ∃ ended after, runs sampleLaunches sampleWorld = some (ended, after) ∧
    ∃ outcomes, ended = .ok outcomes ∧
      List.Forall₂ (fun launch outcome => Hooked launch.parts outcome) sampleLaunches outcomes :=
  ends_of_wp (runs_are_told fun _ => rfl) sample_ends

theorem runs_are_accounted_sample : ∃ ended after, runs sampleLaunches sampleWorld = some (ended, after) ∧
    ∃ outcomes, ended = .ok outcomes ∧
      List.Forall₂ (fun _ outcome => Accounted outcome) sampleLaunches outcomes :=
  ends_of_wp (runs_are_accounted fun _ => rfl) sample_ends

/-- The third run of the sample keeps the lock. -/
example :
    (runs sampleLaunches sampleWorld).map (fun ran => (ran.2.isRunning, ran.2.openLocks)) = some (true, [7]) := by
  decide +kernel

end Sample

end Tasklite.Engine.Execute
