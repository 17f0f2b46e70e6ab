import Tasklite.Library.Programs
import Tasklite.Engine.Filling

/-! One run from end to end: the lock and the signal handlers around it, the session with
its hooks, the loop with its stop gate and the net that catches its crashes. The parts
that do the work in between, and the hooks of the user, may do anything to the rest of
the engine, may raise anything, and may receive requests to stop. -/

namespace Tasklite.Engine.Execute
open Tasklite.Library Tasklite.Library.Program Tasklite.Models

inductive StopMode where
  | none
  | draining
  | aborting
deriving DecidableEq

inductive ExitReason where
  | completed
  | stoppedDraining
  | stoppedAborting
  | interrupted
  | error
deriving DecidableEq

/-- What code raises: an `Exception`, the interrupt from the keyboard, or another `BaseException`. -/
inductive Raised where
  | exception (name : String)
  | keyboardInterrupt
  | base (name : String)
deriving DecidableEq

/-- `except Exception` catches it. -/
def Raised.isException : Raised → Bool
  | .exception _ => true
  | _ => false

/-- The state of the life of one run. -/
structure RunSession where
  runId : Option String := none
  dispatchNo : ℕ := 0
  stopMode : StopMode := .none
  stats : StatKey → ℕ := fun _ => 0
  runEndFired : Bool := false

namespace RunSession

/-- Every run starts from nothing. -/
def begin : RunSession := {}

/-- The one way to a stop, which only goes forward. -/
def requestStop (session : RunSession) (force : Bool) : RunSession :=
  if force ∨ session.stopMode = .draining then { session with stopMode := .aborting }
  else if session.stopMode = .none then { session with stopMode := .draining }
  else session

def recordStat (session : RunSession) (key : StatKey) : RunSession :=
  { session with stats := Function.update session.stats key (session.stats key + 1) }

def exitReason (session : RunSession) : Option Raised → ExitReason
  | some .keyboardInterrupt => .interrupted
  | some _ => .error
  | none => match session.stopMode with
      | .aborting => .stoppedAborting
      | .draining => .stoppedDraining
      | .none => .completed

end RunSession

inductive SignalNumber where
  | sigterm
  | sigint
deriving DecidableEq

inductive Handler where
  | engine
  | other (name : String)
deriving DecidableEq

/-- The places from which a run calls one of its parts, or raises itself. -/
inductive Site where
  | acquireRunLock
  | lockTaken
  | installSignal (number : SignalNumber)
  | pickleHandler
  | notPicklable
  | runStart
  | setEngineMetadata
  | loadAndRepair
  | applySkips
  | dispatchNext
  | arbitrate
  | drainAndSettle
  | sleep
  | abortInFlight
  | saveQueue
  | abortCleanup
  | saveCleanup
  | persist
  | runEnd (reason : ExitReason)
deriving DecidableEq

/-- A call that was made: from where, in which stop mode, and what it raised. -/
structure Call where
  site : Site
  stopMode : StopMode
  raised : Option Raised
deriving DecidableEq

/-- The local variables of `execute` and of the net. -/
structure Locals where
  exitReason : ExitReason := .completed
  netReason : ExitReason := .completed
  oldSigterm : Option Handler := none
  oldSigint : Option Handler := none
  sessionBegun : Bool := false
deriving DecidableEq

/-- The runtime with its process around it; `engine` is all that the parts work on. A handler that was not
installed from Python is unknown. `calls` is the history of the calls. -/
structure World (W : Type) where
  isRunning : Bool
  runLockFd : Option ℕ
  openLocks : List ℕ
  handlers : SignalNumber → Option Handler
  session : RunSession
  skipDirty : Bool
  locals : Locals
  engine : W
  calls : List Call

/-- What a part does besides returning or raising: it changes the rest of the engine, counts, draws numbers for
dispatches and receives requests to stop. -/
structure Effect (W : Type) where
  engine : W
  stops : List Bool := []
  counted : List StatKey := []
  numbers : ℕ := 0

abbrev Part (W α : Type) : Type := World W → Except Raised α × Effect W

structure ExecutionOptions where
  installSignals : Bool := true
  acquireRunLock : Bool := true

structure RunSummary where
  exitReason : ExitReason
  stats : StatKey → ℕ
  runId : String

/-- The parts of a run. -/
structure Parts (W : Type) where
  strictPicklable : Bool
  /-- Pickling the handler of each registered task. -/
  pickles : List (Part W Unit)
  onRunStart : Option (Part W Unit)
  onRunEnd : Option (ExitReason → Part W Unit)
  resetRun : W → W
  tryAcquireLock : Part W (Option ℕ)
  signalFault : SignalNumber → Option Raised
  setStats : W → W
  runId : String
  beginRound : W → W
  setEngineMetadata : Part W Unit
  loadAndRepair : Part W Unit
  storeEmpty : W → Bool
  hasInFlight : W → Bool
  clearInFlight : W → W
  applySkips : Part W Unit
  dispatchNext : Part W DispatchOutcome
  recordDispatchProgress : W → W
  arbitrateDeadlock : Option DispatchOutcome → Part W DeadlockArbitration
  reapAndSettle : Part W ℕ
  sleep : ℚ → Part W Unit
  abortInFlight : Part W Unit
  saveQueueCrashSafe : Part W Unit
  persistResourceSuspensions : Part W Unit

section Calls

variable {W α : Type}

def RunSession.affected (session : RunSession) (effect : Effect W) : RunSession :=
  let counted := effect.counted.foldl RunSession.recordStat (effect.stops.foldl RunSession.requestStop session)
  { counted with dispatchNo := counted.dispatchNo + effect.numbers }

def World.called (world : World W) (site : Site) (raised : Option Raised) (effect : Effect W) : World W :=
  { world with
    engine := effect.engine
    session := world.session.affected effect
    calls := world.calls ++ [⟨site, world.session.stopMode, raised⟩] }

def call (site : Site) (part : Part W α) : Program Raised (World W) α := do
  let world ← get
  let (ended, effect) := part world
  set (world.called site (raisedBy ended) effect)
  match ended with
  | .ok a => return a
  | .error e => throw e

/-- The engine raises itself. -/
def raising (site : Site) (e : Raised) : Program Raised (World W) Unit :=
  call site fun world => (.error e, { engine := world.engine })

def World.mapSession (world : World W) (change : RunSession → RunSession) : World W :=
  { world with session := change world.session }

def World.mapLocals (world : World W) (change : Locals → Locals) : World W :=
  { world with locals := change world.locals }

def World.mapEngine (world : World W) (change : W → W) : World W := { world with engine := change world.engine }

end Calls

section Run

variable {W : Type} (parts : Parts W)

/-- A hook is not trusted: its exceptions are counted and go no further. -/
def callHook (site : Site) (hook : Part W Unit) : Program Raised (World W) Unit := do
  try
    call site hook
  catch e =>
    if e.isException then
      modify fun world => world.mapSession fun session => session.recordStat .hookErrors
    else
      throw e

def fireRunStart : Program Raised (World W) Unit :=
  match parts.onRunStart with
  | none => return
  | some hook => callHook .runStart hook

def fireRunEnd (reason : ExitReason) : Program Raised (World W) Unit := do
  if (← get).session.runEndFired then
    return
  else
    modify fun world => world.mapSession fun session => { session with runEndFired := true }
    match parts.onRunEnd with
    | none => return
    | some hook => callHook (.runEnd reason) (hook reason)

section Loop

def isIdle (engine : W) : Bool := parts.storeEmpty engine && !parts.hasInFlight engine

def terminalOutcome : StepOutcome where
  isIdle := true
  shouldWait := false
  waitTime := 0
  deadlockDetected := false
  shouldTerminate := true

/-- The fill phase so far. -/
structure Filled where
  lastOutcome : Option DispatchOutcome := none
  workerWait : WithTop ℚ := 0
  dispatched : ℕ := 0

/-- What a job that was dealt with has left behind may be skipped. -/
def skipAgain : Program Raised (World W) Unit := do
  if (← get).session.stopMode = .none then call .applySkips parts.applySkips else pure ()

def fillTurn (limit : ℕ) (filled : Filled) : Program Raised (World W) (ForInStep Filled) := do
  let world ← get
  if filled.dispatched < limit ∧ world.session.stopMode = .none then
    let outcome ← call .dispatchNext parts.dispatchNext
    let told : Filled := { filled with
      lastOutcome := some outcome
      workerWait := Filling.earliest filled.workerWait outcome.workerWait }
    match outcome.kind with
    | .spawned => return .yield { told with dispatched := told.dispatched + 1 }
    | .handledNoSubprocess =>
        skipAgain parts
        return .yield told
    | .workerSaturated | .noCandidate => return .done told
  else
    return .done filled

def fillDispatchPool (limit fuel : ℕ) (draining : Bool) : Program Raised (World W) Filled :=
  if draining then return {} else loop (fillTurn parts limit) fuel {}

def drainAndSettle : Program Raised (World W) ℕ := do
  if parts.hasInFlight (← get).engine then
    call .drainAndSettle parts.reapAndSettle
  else
    return 0

/-- What is skipped is taken out of the queue before the first round, and again after jobs have settled. -/
def convergeSkips : Program Raised (World W) Unit := do
  if (← get).skipDirty then
    modify fun world => { world with skipDirty := false }
    call .applySkips parts.applySkips
  else
    return

def recordProgress (dispatched : ℕ) : Program Raised (World W) Unit :=
  if 0 < dispatched then modify fun world => world.mapEngine parts.recordDispatchProgress else pure ()

def markSkipDirty (settled : ℕ) : Program Raised (World W) Unit :=
  if settled ≠ 0 then modify fun world => { world with skipDirty := true } else pure ()

/-- What a round reports. `decideWait` cuts the wait for a worker off at the cap, so that it may be cut off before. -/
def report (filled : Filled) (arbitration : DeadlockArbitration) (settled : ℕ) (engine : W) : StepOutcome :=
  let decision := decideWait {
    hasInFlight := parts.hasInFlight engine
    storeEmpty := parts.storeEmpty engine
    dispatched := filled.dispatched
    settled
    hasRunnable := filled.lastOutcome.elim true fun outcome => outcome.kind ≠ .noCandidate
    minWait := filled.lastOutcome.elim ⊤ fun outcome => outcome.standstill.minWait
    workerWait := (min filled.workerWait (waitCapSeconds : ℚ)).untopD 0
    deadlockWait := arbitration.waitSeconds
    shouldTerminate := arbitration.shouldTerminate }
  {
    isIdle := isIdle parts engine
    shouldWait := decision.shouldWait
    waitTime := decision.waitTime
    deadlockDetected := arbitration.deadlockDetected
    shouldTerminate := arbitration.shouldTerminate || isIdle parts engine }

/-- The phases of a round: fill, arbitrate, settle. -/
def phases (fuel : ℕ) (draining : Bool) : Program Raised (World W) StepOutcome := do
  let filled ← fillDispatchPool parts 1000000 fuel draining
  recordProgress parts filled.dispatched
  let arbitration ← call .arbitrate (parts.arbitrateDeadlock filled.lastOutcome)
  let settled ← drainAndSettle parts
  markSkipDirty settled
  return report parts filled arbitration settled (← get).engine

/-- A round behind the stop gate. -/
def pump (fuel : ℕ) (draining : Bool) : Program Raised (World W) StepOutcome := do
  convergeSkips parts
  if isIdle parts (← get).engine then
    return terminalOutcome
  else
    phases parts fuel draining

def abortAndSave : Program Raised (World W) Unit := do
  try
    call .abortInFlight parts.abortInFlight
  finally
    call .saveQueue parts.saveQueueCrashSafe

/-- One round, with the stop gate in front. -/
def step (fuel : ℕ) : Program Raised (World W) StepOutcome := do
  let world ← get
  match world.session.stopMode with
  | .none => pump parts fuel false
  | .aborting =>
      abortAndSave parts
      return terminalOutcome
  | .draining =>
      if parts.hasInFlight world.engine then
        pump parts fuel true
      else
        call .saveQueue parts.saveQueueCrashSafe
        return terminalOutcome

def pause (outcome : StepOutcome) : Program Raised (World W) Unit :=
  if outcome.shouldWait ∧ 0 < outcome.waitTime then call .sleep (parts.sleep outcome.waitTime) else pure ()

def loopTurn (fuel : ℕ) (_ : Unit) : Program Raised (World W) (ForInStep Unit) := do
  if isIdle parts (← get).engine then
    return .done ()
  else
    let outcome ← step parts fuel
    if outcome.shouldTerminate then
      return .done ()
    else
      pause parts outcome
      return .yield ()

/-- The main loop. -/
def runLoop (fuel : ℕ) : Program Raised (World W) Unit := do
  modify fun world => world.mapEngine parts.clearInFlight
  loop (loopTurn parts fuel) fuel ()
  modify fun world => world.mapEngine parts.clearInFlight

end Loop

def prepareRunState : Program Raised (World W) Unit := do
  modify fun world => world.mapEngine parts.beginRound
  modify fun world => world.mapSession fun session => { session with runId := some parts.runId, dispatchNo := 0 }
  call .setEngineMetadata parts.setEngineMetadata
  call .loadAndRepair parts.loadAndRepair

def concludeNet (e : Option Raised) : Program Raised (World W) Unit :=
  modify fun world => world.mapLocals fun locals => { locals with netReason := world.session.exitReason e }

/-- After a crash the workers are killed, whatever that raises, and the queue is saved. -/
def cleanUp : Program Raised (World W) Unit := do
  try
    tryCatch (call .abortCleanup parts.abortInFlight) fun _ => pure ()
  finally
    call .saveCleanup parts.saveQueueCrashSafe

def persistSuspensions : Program Raised (World W) Unit := do
  try
    call .persist parts.persistResourceSuspensions
  catch e =>
    if e.isException then pure () else throw e

def guardedLoop (fuel : ℕ) : Program Raised (World W) Unit := do
  try
    runLoop parts fuel
    concludeNet none
  catch e =>
    concludeNet (some e)
    cleanUp parts
    throw e

/-- The loop with the net under it. -/
def runWithCrashNet (fuel : ℕ) : Program Raised (World W) Unit := do
  concludeNet none
  try
    guardedLoop parts fuel
  finally
    persistSuspensions parts
    fireRunEnd parts (← get).locals.netReason

def runBody (fuel : ℕ) : Program Raised (World W) Unit := do
  prepareRunState parts
  modify fun world => { world with skipDirty := true }
  runWithCrashNet parts fuel

def preflightHandler (pickle : Part W Unit) : Program Raised (World W) Unit := do
  try
    call .pickleHandler pickle
  catch e =>
    if e.isException then raising .notPicklable (.exception "TypeError") else throw e

def preflightPicklableHandlers : Program Raised (World W) Unit :=
  if parts.strictPicklable then parts.pickles.forM preflightHandler else pure ()

/-- `None` is the answer for a lock that is held elsewhere. -/
def acquireRunLock : Program Raised (World W) Unit := do
  let fd ← call .acquireRunLock parts.tryAcquireLock
  modify fun world => { world with runLockFd := fd, openLocks := fd.toList ++ world.openLocks }
  if fd.isNone then raising .lockTaken (.exception "RuntimeError") else pure ()

def World.releaseLock (world : World W) : World W :=
  match world.runLockFd with
  | some fd => { world with runLockFd := none, openLocks := world.openLocks.erase fd }
  | none => world

def releaseRunLock : Program Raised (World W) Unit := modify World.releaseLock

def World.install (world : World W) (number : SignalNumber) (handler : Handler) : World W :=
  { world with handlers := Function.update world.handlers number (some handler) }

/-- What says that signals cannot be caught here. -/
def Raised.isUntrapped (e : Raised) : Bool := e = .exception "ValueError" ∨ e = .exception "OSError"

def trapSignal (number : SignalNumber) (keep : Option Handler → Locals → Locals) :
    Program Raised (World W) Unit :=
  match parts.signalFault number with
  | some fault => raising (.installSignal number) fault
  | none => modify fun world => (world.install number .engine).mapLocals (keep (world.handlers number))

/-- Where signals cannot be caught, the run goes on without. -/
def installSignal (number : SignalNumber) (keep : Option Handler → Locals → Locals) :
    Program Raised (World W) Unit := do
  try
    trapSignal parts number keep
  catch e =>
    if e.isUntrapped then pure () else throw e

def World.reinstall (world : World W) (number : SignalNumber) (old : Option Handler) : World W :=
  match old with
  | some handler => world.install number handler
  | none => world

def restoreHandlers : Program Raised (World W) Unit :=
  modify fun world => (world.reinstall .sigterm world.locals.oldSigterm).reinstall .sigint world.locals.oldSigint

def armLock (options : ExecutionOptions) : Program Raised (World W) Unit :=
  if options.acquireRunLock then acquireRunLock parts else pure ()

def armSignals (options : ExecutionOptions) : Program Raised (World W) Unit :=
  if options.installSignals then do
    installSignal parts .sigterm fun old locals => { locals with oldSigterm := old }
    installSignal parts .sigint fun old locals => { locals with oldSigint := old }
  else
    pure ()

/-- The lock and the signal traps. -/
def arm (options : ExecutionOptions) : Program Raised (World W) Unit := do
  armLock parts options
  armSignals parts options

def leave : Program Raised (World W) Unit :=
  modify fun world => { world with isRunning := false }

def conclude (e : Option Raised) : Program Raised (World W) Unit :=
  modify fun world => world.mapLocals fun locals => { locals with exitReason := world.session.exitReason e }

/-- The run between its preflight and its end. -/
def mainBody (fuel : ℕ) : Program Raised (World W) Unit := do
  preflightPicklableHandlers parts
  modify fun world => (world.mapSession fun _ => .begin).mapLocals fun locals => { locals with sessionBegun := true }
  modify fun world => world.mapEngine parts.setStats
  fireRunStart parts
  runBody parts fuel
  conclude none

/-- The reason of the end is noted before an exception goes on. -/
def guardedBody (fuel : ℕ) : Program Raised (World W) Unit := do
  try
    mainBody parts fuel
  catch e =>
    conclude (some e)
    throw e

/-- Only a run that has begun is told to have ended. -/
def endSession : Program Raised (World W) Unit := do
  let locals := (← get).locals
  if locals.sessionBegun then fireRunEnd parts locals.exitReason else pure ()

/-- The life cycle of a run that is not refused. -/
def lifeCycle (fuel : ℕ) (options : ExecutionOptions) : Program Raised (World W) RunSummary := do
  modify fun world => { world with
    isRunning := true, engine := parts.resetRun world.engine, skipDirty := false, locals := {} }
  try
    arm parts options
  catch e =>
    restoreHandlers
    releaseRunLock
    leave
    throw e
  try
    guardedBody parts fuel
  finally
    endSession parts
    releaseRunLock
    leave
    restoreHandlers
  let world ← get
  return {
    exitReason := world.locals.exitReason
    stats := world.session.stats
    runId := world.session.runId.getD "" }

/-- One instance runs only once at a time. -/
def execute (fuel : ℕ) (options : ExecutionOptions) : Program Raised (World W) RunSummary := do
  if (← get).isRunning then
    throw (.exception "RuntimeError")
  else
    lifeCycle parts fuel options

end Run

section History

variable {W : Type}

/-- A call of `execute`, and what happens to the engine before it. -/
structure Launch (W : Type) where
  parts : Parts W
  fuel : ℕ
  options : ExecutionOptions
  meanwhile : World W → Effect W

def World.elapsed (world : World W) (effect : Effect W) : World W :=
  { world with engine := effect.engine, session := world.session.affected effect }

/-- How a run ended, and the calls that it made. -/
structure Outcome where
  ended : Except Raised RunSummary
  made : List Call

/-- One run after the other on the same instance, whatever they raise. -/
def runs : List (Launch W) → Program Raised (World W) (List Outcome)
  | [] => return []
  | launch :: rest => do
      modify fun world => world.elapsed (launch.meanwhile world)
      let before ← get
      let ended ← attempt (execute launch.parts launch.fuel launch.options)
      let after ← get
      let others ← runs rest
      return ⟨ended, after.calls.drop before.calls.length⟩ :: others

end History

end Tasklite.Engine.Execute
