import Tasklite.Engine.Stopping

/-! What surrounds a run. The lock, the signal handlers and the mark of a running instance
are given back however the run ends, and a run that has begun is told to have ended
exactly once, unless a hook that is called too late raises more than an exception. -/

namespace Tasklite.Engine.Execute
open Tasklite.Library Tasklite.Library.Program Tasklite.Models

def ExitReason.failed : ExitReason → Bool
  | .interrupted | .error => true
  | _ => false

/-- The reason of an end without an exception. -/
def StopMode.reason : StopMode → ExitReason
  | .none => .completed
  | .draining => .stoppedDraining
  | .aborting => .stoppedAborting

def Site.isHook : Site → Bool
  | .runStart | .runEnd _ => true
  | _ => false

/-- The calls after a crash of the loop. -/
def Site.inCleanUp : Site → Bool
  | .abortCleanup | .saveCleanup => true
  | _ => false

/-- The calls before the loop. -/
def Site.isEarly : Site → Bool
  | .acquireRunLock | .lockTaken | .installSignal _ | .pickleHandler | .notPicklable => true
  | .runStart | .setEngineMetadata | .loadAndRepair => true
  | _ => false

def startSites {W : Type} (parts : Parts W) : List Site := if parts.onRunStart.isSome then [.runStart] else []

def endSites {W : Type} (parts : Parts W) (reason : ExitReason) : List Site :=
  if parts.onRunEnd.isSome then [.runEnd reason] else []

/-- The suspensions have been saved, or could not be with a mere exception. -/
def Settled (made : List Call) : Prop := ∃ call ∈ made, call.site = .persist ∧ call.escapes = none

section Steady

variable {W α : Type}

/-- What `execute` holds for a run, and what it has to restore. -/
structure Hold where
  isRunning : Bool
  runLockFd : Option ℕ
  openLocks : List ℕ
  handlers : SignalNumber → Option Handler
  oldSigterm : Option Handler
  oldSigint : Option Handler
  sessionBegun : Bool

def World.hold (world : World W) : Hold where
  isRunning := world.isRunning
  runLockFd := world.runLockFd
  openLocks := world.openLocks
  handlers := world.handlers
  oldSigterm := world.locals.oldSigterm
  oldSigint := world.locals.oldSigint
  sessionBegun := world.locals.sessionBegun

/-- The same, and whether the end of the run has been told. -/
def World.bracket (world : World W) : Hold × Bool := (world.hold, world.session.runEndFired)

/-- The bracket stays, the stop mode goes forward, and calls are made from certain sites only. -/
structure Steady (sites : Site → Prop) (world after : World W) : Prop where
  bracket : after.bracket = world.bracket
  forward : world.session.stopMode.rank ≤ after.session.stopMode.rank
  calls : ∃ made, after.calls = world.calls ++ made ∧ ∀ call ∈ made, sites call.site

instance (sites : Site → Prop) : IsPreorder (World W) (Steady sites) where
  refl world := ⟨rfl, le_rfl, [], by simp, by simp⟩
  trans world after left first rest := by
    obtain ⟨made, logged, fine⟩ := first.calls
    obtain ⟨more, further, good⟩ := rest.calls
    refine ⟨rest.bracket.trans first.bracket, first.forward.trans rest.forward, made ++ more, ?_, ?_⟩
    · rw [further, logged, List.append_assoc]
    · intro call found
      exact (List.mem_append.mp found).elim (fine call) (good call)

theorem steady_called {sites : Site → Prop} {world : World W} {site : Site} {raised : Option Raised}
    (effect : Effect W) (fine : sites site) : Steady sites world (world.called site raised effect) := by
  refine ⟨?_, rank_affected _ _, [_], rfl, by simpa using fine⟩
  have fired : (world.called site raised effect).session.runEndFired = world.session.runEndFired :=
    fired_affected _ _
  unfold World.bracket
  rw [fired]
  rfl

theorem steady_call {sites : Site → Prop} {site : Site} (part : Part W α) (fine : sites site) :
    Moves (Steady sites) (call site part) := by
  intro world
  rw [wp_call]
  exact steady_called _ fine

theorem steady_modify {sites : Site → Prop} {change : World W → World W}
    (bracket : ∀ world, (change world).bracket = world.bracket) (calls : ∀ world, (change world).calls = world.calls)
    (mode : ∀ world, (change world).session.stopMode = world.session.stopMode) :
    Moves (Steady sites) (modify change : Program Raised (World W) PUnit) :=
  moves_modify fun world => ⟨bracket world, by rw [mode], [], by rw [calls, List.append_nil], by simp⟩

theorem Advance.bracket {allowed : Call → Prop} {world after : World W} (advance : Advance allowed world after) :
    after.bracket = world.bracket := by
  have same := advance.frame
  unfold World.frame at same
  unfold World.bracket World.hold
  simp only [Prod.mk.injEq] at same
  simp [same]

end Steady

section Parts

variable {W : Type} {parts : Parts W} {world : World W}

theorem steady_preflight : Moves (Steady fun site => site = .pickleHandler ∨ site = .notPicklable)
    (preflightPicklableHandlers parts) := by
  refine .branch (fun _ => ?_) fun _ => moves_pure _
  induction parts.pickles with
  | nil => exact moves_pure _
  | cons pickle rest ih =>
    refine Moves.bind (.catching (steady_call pickle (.inl rfl)) fun e => ?_) fun _ => ih
    exact .branch (fun _ => steady_call _ (.inr rfl)) fun _ => moves_throw e

theorem steady_prepareRunState : Moves (Steady fun site => site = .setEngineMetadata ∨ site = .loadAndRepair)
    (prepareRunState parts) := by
  refine .bind (steady_modify (fun _ => by rfl) (fun _ => by rfl) fun _ => by rfl) fun _ => ?_
  refine .bind (steady_modify (fun _ => by rfl) (fun _ => by rfl) fun _ => by rfl) fun _ => ?_
  exact (steady_call _ (.inl rfl)).bind fun _ => steady_call _ (.inr rfl)

theorem wp_callHook {site : Site} {hook : Part W Unit} : wp (callHook site hook) (fun _ after =>
    ∃ call, after.calls = world.calls ++ [call] ∧ call.site = site ∧ after.bracket = world.bracket ∧
      after.locals = world.locals ∧ world.session.stopMode.rank ≤ after.session.stopMode.rank) world := by
  have finish (raised : Option Raised) (effect : Effect W) :
      let after := world.called site raised effect
      ∃ call, after.calls = world.calls ++ [call] ∧ call.site = site ∧ after.bracket = world.bracket ∧
        after.locals = world.locals ∧ world.session.stopMode.rank ≤ after.session.stopMode.rank := by
    have steady : Steady (fun _ => True) world (world.called site raised effect) := steady_called _ trivial
    exact ⟨_, rfl, rfl, steady.bracket, rfl, steady.forward⟩
  unfold callHook
  rw [wp_tryCatch, wp_call]
  rcases hook world with ⟨e | done, effect⟩
  · dsimp only
    split
    · obtain ⟨call, logged, site, bracket, locals, forward⟩ := finish (some e) effect
      exact ⟨call, logged, site, bracket, locals, forward⟩
    · exact finish (some e) effect
  · exact finish none effect

theorem wp_fireRunStart : wp (fireRunStart parts) (fun _ after =>
    ∃ made, after.calls = world.calls ++ made ∧ made.map Call.site = startSites parts ∧
      after.bracket = world.bracket ∧ world.session.stopMode.rank ≤ after.session.stopMode.rank) world := by
  unfold fireRunStart startSites
  cases parts.onRunStart with
  | none => exact ⟨[], by simp, rfl, rfl, le_rfl⟩
  | some hook =>
    refine wp_mono wp_callHook fun _ after ⟨call, logged, site, bracket, _, forward⟩ => ?_
    exact ⟨[call], logged, by simp [site], bracket, forward⟩

/-- The end of a run is told, and that only once. -/
structure Tolling (parts : Parts W) (reason : ExitReason) (world after : World W) (ended : Except Raised Unit)
    (told : List Call) : Prop where
  calls : after.calls = world.calls ++ told
  sites : told.map Call.site = endSites parts reason
  hold : after.hold = world.hold
  fired : after.session.runEndFired = true
  locals : after.locals = world.locals
  forward : world.session.stopMode.rank ≤ after.session.stopMode.rank
  raised : raisedBy ended = lastEscape Call.escapes told

theorem wp_fireRunEnd (reason : ExitReason) (unfired : world.session.runEndFired = false) :
    wp (fireRunEnd parts reason) (fun ended after => ∃ told, Tolling parts reason world after ended told) world := by
  have tolled : wp (fireRunEnd parts reason) (fun _ after => ∃ told, after.calls = world.calls ++ told ∧
      told.map Call.site = endSites parts reason ∧ after.hold = world.hold ∧ after.session.runEndFired = true ∧
      after.locals = world.locals ∧ world.session.stopMode.rank ≤ after.session.stopMode.rank) world := by
    unfold fireRunEnd
    rw [wp_get_bind, wp_ite, if_neg (by simp [unfired]), wp_modify_bind]
    cases hooked : parts.onRunEnd with
    | none => exact ⟨[], (List.append_nil _).symm, by simp [endSites, hooked], rfl, rfl, rfl, le_rfl⟩
    | some hook =>
      refine wp_mono wp_callHook fun ended after ⟨call, logged, site, bracket, locals, forward⟩ => ?_
      exact ⟨[call], logged, by simp [endSites, hooked, site], congrArg Prod.fst bracket, congrArg Prod.snd bracket,
        locals, forward⟩
  refine wp_mono (wp_and tolled (tells_fireRunEnd reason world)) fun ended after both => ?_
  obtain ⟨⟨told, calls, sites, hold, fired, locals, forward⟩, made, same, raised⟩ := both
  obtain rfl : made = told := List.append_cancel_left (same.symm.trans calls)
  exact ⟨made, calls, sites, hold, fired, locals, forward, raised⟩

theorem fireRunEnd_fired (reason : ExitReason) (fired : world.session.runEndFired = true)
    {post : Except Raised Unit → World W → Prop} : wp (fireRunEnd parts reason) post world ↔ post (.ok ()) world := by
  unfold fireRunEnd
  rw [wp_get_bind, wp_ite, if_pos fired, wp_pure]

/-- A crash has been cleaned up after. -/
structure CleanedUp (world after : World W) : Prop where
  steady : Steady (fun site => site.inCleanUp = true) world after
  locals : after.locals = world.locals
  calls : ∃ cleaned, after.calls = world.calls ++ cleaned ∧ cleaned.map Call.site = [.abortCleanup, .saveCleanup]

theorem wp_cleanUp : wp (cleanUp parts) (fun _ after => CleanedUp world after) world := by
  have finish (raised aborted : Option Raised) (effect other : Effect W) :
      CleanedUp world ((world.called .abortCleanup aborted other).called .saveCleanup raised effect) :=
    ⟨IsTrans.trans _ _ _ (steady_called _ rfl) (steady_called _ rfl), rfl, _, List.append_assoc _ _ _, rfl⟩
  unfold cleanUp
  rw [wp_tryFinally, wp_tryCatch, wp_call]
  cases (parts.abortInFlight world).1 with
  | ok killed =>
    rw [wp_call]
    cases (parts.saveQueueCrashSafe _).1 <;> exact finish _ _ _ _
  | error e =>
    dsimp only
    rw [wp_pure, wp_call]
    cases (parts.saveQueueCrashSafe _).1 <;> exact finish _ _ _ _

end Parts

section Kinds

variable {made : List Call}

theorem filter_apart {kind other : Site → Bool} (apart : ∀ site, kind site = true → other site = false)
    (all : ∀ call ∈ made, kind call.site = true) : made.filter (fun call => other call.site) = [] := by
  rw [List.filter_eq_nil_iff]
  intro call found
  simp [apart _ (all call found)]

/-- The calls of a net, told apart. -/
theorem kinds_of_net {looped cleaned : List Call} {mode : StopMode} (raised : Option Raised)
    (inLoop : ∀ call ∈ looped, call.site.inLoop = true) (inCleanUp : ∀ call ∈ cleaned, call.site.inCleanUp = true) :
    let made := looped ++ cleaned ++ [⟨.persist, mode, raised⟩]
    made.filter (fun call => call.site.inLoop) = looped ∧
      made.filter (fun call => call.site.inCleanUp) = cleaned ∧ made.filter (fun call => call.site.isHook) = [] := by
  have loopClean : looped.filter (fun call => call.site.inCleanUp) = [] :=
    filter_apart (fun site found => by cases site <;> simp_all [Site.inLoop, Site.inCleanUp]) inLoop
  have loopHook : looped.filter (fun call => call.site.isHook) = [] :=
    filter_apart (fun site found => by cases site <;> simp_all [Site.inLoop, Site.isHook]) inLoop
  have cleanLoop : cleaned.filter (fun call => call.site.inLoop) = [] :=
    filter_apart (fun site found => by cases site <;> simp_all [Site.inLoop, Site.inCleanUp]) inCleanUp
  have cleanHook : cleaned.filter (fun call => call.site.isHook) = [] :=
    filter_apart (fun site found => by cases site <;> simp_all [Site.inCleanUp, Site.isHook]) inCleanUp
  have loops : looped.filter (fun call => call.site.inLoop) = looped := List.filter_eq_self.mpr inLoop
  have cleans : cleaned.filter (fun call => call.site.inCleanUp) = cleaned := List.filter_eq_self.mpr inCleanUp
  simp only [List.filter_append, loopClean, loopHook, cleanLoop, cleanHook, loops, cleans]
  simp [Site.inLoop, Site.inCleanUp, Site.isHook]

theorem settled_net {looped cleaned : List Call} {mode : StopMode} {raised : Option Raised}
    (inLoop : ∀ call ∈ looped, call.site.inLoop = true) (inCleanUp : ∀ call ∈ cleaned, call.site.inCleanUp = true) :
    Settled (looped ++ cleaned ++ [⟨.persist, mode, raised⟩]) ↔
      (Call.mk .persist mode raised).escapes = none := by
  refine ⟨fun ⟨call, found, site, passed⟩ => ?_, fun passed => ⟨_, List.mem_append_right _ (by simp), rfl, passed⟩⟩
  rcases List.mem_append.mp found with early | final
  · rcases List.mem_append.mp early with early | early
    · have wrong := inLoop call early
      rw [site] at wrong
      cases wrong
    · have wrong := inCleanUp call early
      rw [site] at wrong
      cases wrong
  · rw [List.mem_singleton.mp final] at passed
    exact passed

end Kinds

section Net

variable {W : Type} {parts : Parts W} {world : World W}

theorem exitReason_none (session : RunSession) : session.exitReason none = session.stopMode.reason := by
  unfold RunSession.exitReason
  cases session.stopMode <;> rfl

theorem failed_exitReason (session : RunSession) (e : Raised) : (session.exitReason (some e)).failed = true := by
  cases e <;> rfl

/-- The loop has ended and, if it crashed, has been cleaned up after. -/
structure Guarded (world after : World W) (ended : Except Raised Unit) (looped cleaned : List Call) : Prop where
  calls : after.calls = world.calls ++ (looped ++ cleaned)
  bracket : after.bracket = world.bracket
  forward : world.session.stopMode.rank ≤ after.session.stopMode.rank
  stopping : Stopping looped
  inLoop : ∀ call ∈ looped, call.site.inLoop = true
  cleaned : cleaned.map Call.site =
    if (lastEscape Call.escapes looped).isSome then [.abortCleanup, .saveCleanup] else []
  reason : match ended with
    | .ok _ => after.locals.netReason = after.session.stopMode.reason
    | .error _ => after.locals.netReason.failed = true

theorem wp_guardedLoop (fuel : ℕ) : wp (guardedLoop parts fuel) (fun ended after =>
    ∃ looped cleaned, Guarded world after ended looped cleaned) world := by
  unfold guardedLoop
  rw [wp_tryCatch, wp_bind]
  refine wp_mono (wp_and (wp_runLoop fuel) (tells_runLoop fuel world)) fun ended after both => ?_
  obtain ⟨⟨advance, looped, logged, stopping⟩, made, same, told⟩ := both
  obtain rfl : made = looped := List.append_cancel_left (same.symm.trans logged)
  obtain ⟨more, again, inLoop, -⟩ := advance.calls
  obtain rfl : more = made := List.append_cancel_left (again.symm.trans same)
  cases ended with
  | ok done =>
    rw [concludeNet, wp_modify]
    refine ⟨more, [], by rw [List.append_nil]; exact logged, advance.bracket, advance.forward, stopping, inLoop,
      ?_, ?_⟩
    · simp [← told, raisedBy]
    · exact exitReason_none _
  | error e =>
    dsimp only
    rw [concludeNet, wp_modify_bind, wp_bind]
    refine wp_mono wp_cleanUp fun closing left cleaned => ?_
    obtain ⟨steady, locals, ends, further, sites⟩ := cleaned
    have whole : ∃ looped cleaned, Guarded world left (.error e) looped cleaned := by
      refine ⟨more, ends, ?_, steady.bracket.trans advance.bracket, advance.forward.trans steady.forward, stopping,
        inLoop, ?_, ?_⟩
      · exact further.trans (by rw [← List.append_assoc, ← logged]; rfl)
      · simpa [← told, raisedBy] using sites
      · change left.locals.netReason.failed = true
        rw [locals]
        exact failed_exitReason _ e
    obtain ⟨looped, cleaned, guarded⟩ := whole
    cases closing with
    | ok done => exact ⟨looped, cleaned, guarded⟩
    | error raised => exact ⟨looped, cleaned, { guarded with }⟩

/-- What the end of a run was told, and how the run ended. -/
def Told (reason : ExitReason) (ended : Except Raised Unit) (after : World W) (told : List Call) : Prop :=
  match ended with
  | .ok _ => ∃ mode : StopMode, reason = mode.reason ∧ mode.rank ≤ after.session.stopMode.rank
  | .error e => reason.failed = true ∨ lastEscape Call.escapes told = some e

/-- A run from the start of its session: what it called before its end was told, and that. -/
structure Ran (parts : Parts W) (base : List Call) (hold : Hold) (after : World W) (ended : Except Raised Unit)
    (made told : List Call) : Prop where
  calls : after.calls = base ++ (made ++ told)
  hold : after.hold = hold
  stopping : Stopping (made.filter fun call => call.site.inLoop)
  cleaned : (made.filter fun call => call.site.inCleanUp).map Call.site =
    if (lastEscape Call.escapes (made.filter fun call => call.site.inLoop)).isSome
      then [.abortCleanup, .saveCleanup] else []
  ending : (after.session.runEndFired = true ∧ Settled made ∧ ∃ reason, told.map Call.site = endSites parts reason ∧
      Told reason ended after told) ∨
    (after.session.runEndFired = false ∧ ¬ Settled made ∧ told = [] ∧ ∃ e, ended = .error e)

/-- The net runs the loop, saves the suspensions and, unless that raises more than an exception, tells the end. -/
theorem wp_runWithCrashNet (fuel : ℕ) (unfired : world.session.runEndFired = false) :
    wp (runWithCrashNet parts fuel) (fun ended after => ∃ made told,
      Ran parts world.calls world.hold after ended made told ∧
        made.filter (fun call => call.site.isHook) = []) world := by
  unfold runWithCrashNet
  rw [concludeNet, wp_modify_bind, wp_tryFinally]
  refine wp_mono (wp_guardedLoop fuel) fun ended now ending => ?_
  obtain ⟨looped, cleaned, guarded⟩ := ending
  have cleanSites : ∀ call ∈ cleaned, call.site.inCleanUp = true := by
    intro call found
    have site := List.mem_map_of_mem (f := Call.site) found
    rw [guarded.cleaned] at site
    split at site
    · rcases List.mem_pair.mp site with same | same <;> rw [same] <;> rfl
    · cases site
  have unfiredNow : now.session.runEndFired = false := (congrArg Prod.snd guarded.bracket).trans unfired
  -- the calls up to the saving of the suspensions, whatever that came to
  have saved (raised : Option Raised) (effect : Effect W) : Steady (fun _ => True) now
      (now.called .persist raised effect) := steady_called effect trivial
  have ran {left : World W} {last : Except Raised Unit} {told : List Call} (raised : Option Raised)
      (effect : Effect W) (calls : left.calls = (now.called .persist raised effect).calls ++ told)
      (hold : left.hold = now.hold)
      (ending : let made := looped ++ cleaned ++ [⟨.persist, now.session.stopMode, raised⟩]
        (left.session.runEndFired = true ∧ Settled made ∧ ∃ reason, told.map Call.site = endSites parts reason ∧
          Told reason last left told) ∨
        (left.session.runEndFired = false ∧ ¬ Settled made ∧ told = [] ∧ ∃ e, last = .error e)) :
      ∃ made told, Ran parts world.calls world.hold left last made told ∧
        made.filter (fun call => call.site.isHook) = [] := by
    obtain ⟨inLoop, inCleanUp, hooks⟩ := @kinds_of_net _ _ now.session.stopMode raised guarded.inLoop cleanSites
    refine ⟨_, told, ⟨?_, hold.trans (congrArg Prod.fst guarded.bracket), ?_, ?_, ending⟩, hooks⟩
    · rw [calls]
      change now.calls ++ _ ++ told = _
      rw [guarded.calls]
      simp [World.mapLocals]
    · rw [inLoop]
      exact guarded.stopping
    · rw [inLoop, inCleanUp]
      exact guarded.cleaned
  have finish (raised : Option Raised) (effect : Effect W)
      (passed : (Call.mk .persist now.session.stopMode raised).escapes = none) :
      wp (do fireRunEnd parts (← get).locals.netReason) (fun closing left => ∃ made told,
        Ran parts world.calls world.hold left (overridden ended closing) made told ∧
          made.filter (fun call => call.site.isHook) = []) (now.called .persist raised effect) := by
    have unfiredStill : (now.called .persist raised effect).session.runEndFired = false :=
      (congrArg Prod.snd (saved raised effect).bracket).trans unfiredNow
    have holdNow := congrArg Prod.fst (saved raised effect).bracket
    rw [wp_get_bind]
    refine wp_mono (wp_fireRunEnd _ unfiredStill) fun closing left ending => ?_
    obtain ⟨told, tolling⟩ := ending
    have settled := (@settled_net _ _ now.session.stopMode raised guarded.inLoop cleanSites).mpr passed
    cases closing with
    | ok done =>
      refine ran raised effect tolling.calls (tolling.hold.trans holdNow)
        (.inl ⟨tolling.fired, settled, _, tolling.sites, ?_⟩)
      have reason := guarded.reason
      cases ended with
      | ok _ => exact ⟨now.session.stopMode, reason, (saved raised effect).forward.trans tolling.forward⟩
      | error e => exact .inl reason
    | error e =>
      exact ran raised effect tolling.calls (tolling.hold.trans holdNow)
        (.inl ⟨tolling.fired, settled, _, tolling.sites, .inr tolling.raised.symm⟩)
  rw [wp_bind, persistSuspensions, wp_tryCatch, wp_call]
  rcases parts.persistResourceSuspensions now with ⟨e | done, effect⟩
  · dsimp only
    rw [wp_ite]
    split
    · rename_i mere
      rw [wp_pure]
      exact finish (some e) effect (by simp [Call.escapes, mere])
    · rename_i base
      have unsettled : ¬ Settled (looped ++ cleaned ++ [⟨.persist, now.session.stopMode, some e⟩]) := by
        rw [settled_net guarded.inLoop cleanSites]
        simp [Call.escapes, base]
      have bracket := (saved (some e) effect).bracket
      exact ran (some e) effect (List.append_nil _).symm (congrArg Prod.fst bracket)
        (.inr ⟨(congrArg Prod.snd bracket).trans unfiredNow, unsettled, rfl, e, rfl⟩)
  · dsimp only
    exact finish none effect rfl

end Net

section Body

variable {W : Type} {parts : Parts W} {world now after : World W} {ended : Except Raised Unit}
  {earlier made told : List Call}

/-- Early calls are none of the loop, of the cleaning up or of the saving. -/
theorem kinds_of_early (early : ∀ call ∈ earlier, call.site.isEarly = true) :
    earlier.filter (fun call => call.site.inLoop) = [] ∧ earlier.filter (fun call => call.site.inCleanUp) = [] ∧
      ¬ Settled earlier := by
  refine ⟨?_, ?_, fun ⟨call, found, site, _⟩ => ?_⟩
  · exact filter_apart (fun site found => by cases site <;> simp_all [Site.isEarly, Site.inLoop]) early
  · exact filter_apart (fun site found => by cases site <;> simp_all [Site.isEarly, Site.inCleanUp]) early
  · have wrong := early call found
    rw [site] at wrong
    cases wrong

/-- A run that got no further than its early calls. -/
theorem ran_early {e : Raised} (logged : after.calls = world.calls ++ made)
    (early : ∀ call ∈ made, call.site.isEarly = true) (hold : after.hold = world.hold)
    (unfired : after.session.runEndFired = false) : Ran parts world.calls world.hold after (.error e) made [] := by
  obtain ⟨inLoop, inCleanUp, unsettled⟩ := kinds_of_early early
  refine ⟨by simpa using logged, hold, ?_, ?_, .inr ⟨unfired, unsettled, rfl, e, rfl⟩⟩
  · rw [inLoop]
    exact ⟨.nil, by simp, ⟨[], [], rfl, by simp, by simp, .inl rfl⟩, by simp [late]⟩
  · rw [inLoop, inCleanUp]
    rfl

theorem Ran.after_early (base : List Call) {middle : List Call} {hold held : Hold}
    (ran : Ran parts middle held after ended made told) (logged : middle = base ++ earlier)
    (early : ∀ call ∈ earlier, call.site.isEarly = true) (same : held = hold) :
    Ran parts base hold after ended (earlier ++ made) told := by
  obtain ⟨inLoop, inCleanUp, unsettled⟩ := kinds_of_early early
  have settled : Settled (earlier ++ made) ↔ Settled made := by
    refine ⟨fun ⟨call, found, site, passed⟩ => ?_, fun ⟨call, found, rest⟩ =>
      ⟨call, List.mem_append_right _ found, rest⟩⟩
    rcases List.mem_append.mp found with first | later
    · exact absurd ⟨call, first, site, passed⟩ unsettled
    · exact ⟨call, later, site, passed⟩
  refine ⟨by rw [ran.calls, logged]; simp, ran.hold.trans same, ?_, ?_, ?_⟩
  · rw [List.filter_append, inLoop]
    exact ran.stopping
  · rw [List.filter_append, List.filter_append, inLoop, inCleanUp]
    exact ran.cleaned
  · rw [settled]
    exact ran.ending

theorem Steady.early {sites : Site → Prop} (steady : Steady sites world after)
    (early : ∀ site, sites site → site.isEarly = true) (plain : ∀ site, sites site → site.isHook = false) :
    ∃ made, after.calls = world.calls ++ made ∧ (∀ call ∈ made, call.site.isEarly = true) ∧
      made.filter (fun call => call.site.isHook) = [] := by
  obtain ⟨made, logged, fine⟩ := steady.calls
  refine ⟨made, logged, fun call found => early _ (fine call found), ?_⟩
  rw [List.filter_eq_nil_iff]
  intro call found
  simp [plain _ (fine call found)]

theorem wp_runBody (fuel : ℕ) (unfired : world.session.runEndFired = false) :
    wp (runBody parts fuel) (fun ended after => ∃ made told, Ran parts world.calls world.hold after ended made told ∧
      made.filter (fun call => call.site.isHook) = []) world := by
  unfold runBody
  rw [wp_bind]
  refine wp_mono (steady_prepareRunState world) fun ended now steady => ?_
  obtain ⟨earlier, logged, early, plain⟩ :=
    steady.early (by rintro _ (rfl | rfl) <;> rfl) (by rintro _ (rfl | rfl) <;> rfl)
  have hold := congrArg Prod.fst steady.bracket
  have unfiredNow : now.session.runEndFired = false := (congrArg Prod.snd steady.bracket).trans unfired
  cases ended with
  | error e => exact ⟨earlier, [], ran_early logged early hold unfiredNow, plain⟩
  | ok done =>
    dsimp only
    rw [wp_modify_bind]
    refine wp_mono (wp_runWithCrashNet fuel unfiredNow) fun ended after ⟨made, told, ran, hooks⟩ => ?_
    refine ⟨earlier ++ made, told, ran.after_early world.calls logged early hold, ?_⟩
    rw [List.filter_append, plain, hooks]
    rfl

/-- A run from where its session has begun. -/
theorem wp_begun (fuel : ℕ) (unfired : world.session.runEndFired = false) :
    wp (do fireRunStart parts; runBody parts fuel; conclude none) (fun ended after => ∃ made told,
      Ran parts world.calls world.hold after ended made told ∧
        (made.filter fun call => call.site.isHook).map Call.site = startSites parts ∧
        ∀ done, ended = .ok done → after.locals.exitReason = after.session.stopMode.reason) world := by
  rw [wp_bind]
  refine wp_mono wp_fireRunStart fun ended now ⟨started, logged, sites, bracket, forward⟩ => ?_
  have known : ∀ call ∈ started, call.site = .runStart := by
    intro call found
    have site := List.mem_map_of_mem (f := Call.site) found
    rw [sites] at site
    unfold startSites at site
    split at site
    · exact List.mem_singleton.mp site
    · cases site
  have early : ∀ call ∈ started, call.site.isEarly = true := fun call found => by rw [known call found]; rfl
  have hooks : started.filter (fun call => call.site.isHook) = started :=
    List.filter_eq_self.mpr fun call found => by rw [known call found]; rfl
  have hold := congrArg Prod.fst bracket
  have unfiredNow : now.session.runEndFired = false := (congrArg Prod.snd bracket).trans unfired
  cases ended with
  | error e => exact ⟨started, [], ran_early logged early hold unfiredNow, by rw [hooks, sites], by simp⟩
  | ok done =>
    dsimp only
    rw [wp_bind]
    refine wp_mono (wp_runBody fuel unfiredNow) fun ended left ⟨made, told, ran, plain⟩ => ?_
    have whole := ran.after_early world.calls logged early hold
    have first : ((started ++ made).filter fun call => call.site.isHook).map Call.site = startSites parts := by
      rw [List.filter_append, plain, hooks, List.append_nil, sites]
    cases ended with
    | error e => exact ⟨started ++ made, told, whole, first, by simp⟩
    | ok done =>
      refine ⟨started ++ made, told, ⟨whole.calls, whole.hold, whole.stopping, whole.cleaned, whole.ending⟩,
        first, ?_⟩
      exact fun _ _ => exitReason_none _

/-- A run from where its signals and its lock are set, up to where its end may still have to be told. -/
inductive Bodied (parts : Parts W) (world after : World W) (ended : Except Raised Unit) : Prop where
  /-- The preflight refused it. -/
  | refused (made : List Call) (e : Raised) (failed : ended = .error e) (calls : after.calls = world.calls ++ made)
      (early : ∀ call ∈ made, call.site.isEarly = true) (plain : made.filter (fun call => call.site.isHook) = [])
      (hold : after.hold = world.hold)
  | begun (made told : List Call)
      (ran : Ran parts world.calls { world.hold with sessionBegun := true } after ended made told)
      (hooks : (made.filter fun call => call.site.isHook).map Call.site = startSites parts)
      (returned : ∀ done, ended = .ok done → after.locals.exitReason = after.session.stopMode.reason)
      (failed : ∀ e, ended = .error e → after.locals.exitReason.failed = true)

theorem wp_guardedBody (fuel : ℕ) : wp (guardedBody parts fuel) (fun ended after => Bodied parts world after ended)
    world := by
  unfold guardedBody mainBody
  rw [wp_tryCatch, wp_bind]
  refine wp_mono (steady_preflight world) fun ended now steady => ?_
  obtain ⟨earlier, logged, early, plain⟩ :=
    steady.early (by rintro _ (rfl | rfl) <;> rfl) (by rintro _ (rfl | rfl) <;> rfl)
  have hold := congrArg Prod.fst steady.bracket
  cases ended with
  | error e =>
    dsimp only
    rw [conclude, wp_modify_bind, wp_throw]
    exact .refused earlier e rfl logged early plain hold
  | ok done =>
    dsimp only
    rw [wp_modify_bind, wp_modify_bind]
    refine wp_mono (wp_begun fuel (by rfl)) fun ended after ⟨made, told, ran, hooks, returned⟩ => ?_
    have held := congrArg (fun hold : Hold => { hold with sessionBegun := true }) hold
    have whole := ran.after_early world.calls logged early held
    have first : ((earlier ++ made).filter fun call => call.site.isHook).map Call.site = startSites parts := by
      rw [List.filter_append, plain, List.nil_append, hooks]
    cases ended with
    | ok done => exact .begun (earlier ++ made) told whole first returned (by simp)
    | error e =>
      dsimp only
      rw [conclude, wp_modify_bind, wp_throw]
      refine .begun (earlier ++ made) told ?_ first (by simp) fun _ _ => failed_exitReason _ e
      exact ⟨whole.calls, whole.hold, whole.stopping, whole.cleaned, whole.ending⟩

end Body

section Arming

variable {W : Type} {parts : Parts W} {world base after : World W} {hold : Hold}

/-- The handlers as they will be restored. -/
def Hold.restored (hold : Hold) : SignalNumber → Option Handler
  | .sigterm => hold.oldSigterm.or (hold.handlers .sigterm)
  | .sigint => hold.oldSigint.or (hold.handlers .sigint)

/-- Whatever a run has taken so far, it knows how to give back. A handler that Python does not know of is not
restored. -/
structure Armed (base : World W) (hold : Hold) : Prop where
  running : hold.isRunning = true
  locks : hold.openLocks = hold.runLockFd.toList ++ base.openLocks
  handlers : ∀ number, base.handlers number = none ∨ hold.restored number = base.handlers number

/-- Nothing of the run is left. -/
structure Closed (base after : World W) : Prop where
  isRunning : after.isRunning = false
  runLockFd : after.runLockFd = none
  openLocks : after.openLocks = base.openLocks
  handlers : ∀ number, base.handlers number = none ∨ after.handlers number = base.handlers number

theorem handlers_reinstall (world : World W) : ((world.reinstall .sigterm world.locals.oldSigterm).reinstall .sigint
    world.locals.oldSigint).handlers = world.hold.restored := by
  unfold World.hold
  funext number
  cases termOld : world.locals.oldSigterm <;> cases intOld : world.locals.oldSigint <;> cases number <;>
    simp [World.reinstall, World.install, Hold.restored]

theorem releaseLock_rest (world : World W) : world.releaseLock.handlers = world.handlers ∧
    world.releaseLock.locals = world.locals ∧ world.releaseLock.session = world.session ∧
      world.releaseLock.calls = world.calls := by
  unfold World.releaseLock
  split <;> simp

theorem releaseLock_lock (locks : world.openLocks = world.runLockFd.toList ++ base.openLocks) :
    world.releaseLock.runLockFd = none ∧ world.releaseLock.openLocks = base.openLocks := by
  unfold World.releaseLock
  split
  · rename_i fd held
    rw [held] at locks
    simp [locks]
  · rename_i held
    rw [held] at locks
    exact ⟨held, by simpa using locks⟩

theorem reinstall_rest (world : World W) (number : SignalNumber) (old : Option Handler) :
    let after := world.reinstall number old
    after.isRunning = world.isRunning ∧ after.runLockFd = world.runLockFd ∧ after.openLocks = world.openLocks ∧
      after.locals = world.locals ∧ after.session = world.session ∧ after.calls = world.calls := by
  cases old <;> simp [World.reinstall, World.install]

/-- The world after its handlers were restored. -/
def World.restored (world : World W) : World W :=
  (world.reinstall .sigterm world.locals.oldSigterm).reinstall .sigint world.locals.oldSigint

theorem restored_rest (world : World W) : world.restored.isRunning = world.isRunning ∧
    world.restored.runLockFd = world.runLockFd ∧ world.restored.openLocks = world.openLocks ∧
      world.restored.locals = world.locals ∧ world.restored.session = world.session ∧
        world.restored.calls = world.calls := by
  have first := reinstall_rest world .sigterm world.locals.oldSigterm
  have second := reinstall_rest (world.reinstall .sigterm world.locals.oldSigterm) .sigint world.locals.oldSigint
  unfold World.restored
  grind

/-- What a run that ends gives back. -/
theorem closed_of_end (armed : Armed base world.hold) :
    Closed base { world.releaseLock with isRunning := false }.restored := by
  obtain ⟨handlers, locals, -, -⟩ := releaseLock_rest world
  obtain ⟨lock, locks⟩ := releaseLock_lock armed.locks
  have rest := restored_rest { world.releaseLock with isRunning := false }
  refine ⟨rest.1, rest.2.1.trans lock, rest.2.2.1.trans locks, fun number => ?_⟩
  rw [World.restored, handlers_reinstall]
  have same : { world.releaseLock with isRunning := false }.hold.restored number = world.hold.restored number := by
    cases number <;> simp [Hold.restored, World.hold, handlers, locals]
  rw [same]
  exact armed.handlers number

/-- What a run that could not be armed gives back. -/
theorem closed_of_refusal (armed : Armed base world.hold) :
    Closed base { world.restored.releaseLock with isRunning := false } := by
  obtain ⟨-, fd, locks, -, -, -⟩ := restored_rest world
  obtain ⟨handlers, -, -, -⟩ := releaseLock_rest world.restored
  have held : world.restored.openLocks = world.restored.runLockFd.toList ++ base.openLocks := by
    rw [fd, locks]
    exact armed.locks
  obtain ⟨lock, released⟩ := releaseLock_lock held
  refine ⟨rfl, lock, released, fun number => ?_⟩
  have same : world.restored.releaseLock.handlers = world.hold.restored := by
    rw [handlers, World.restored, handlers_reinstall]
  rw [same]
  exact armed.handlers number

theorem armed_sigterm (armed : Armed base world.hold) (fresh : world.locals.oldSigterm = none) :
    Armed base ((world.install .sigterm .engine).mapLocals fun locals =>
      { locals with oldSigterm := world.handlers .sigterm }).hold := by
  refine ⟨armed.running, armed.locks, fun number => ?_⟩
  rcases armed.handlers number with unknown | known
  · exact .inl unknown
  · cases number with
    | sigterm =>
      simp only [Hold.restored, World.hold, fresh, Option.none_or] at known
      rw [← known]
      cases world.handlers .sigterm with
      | none => exact .inl rfl
      | some old => exact .inr rfl
    | sigint => exact .inr known

theorem armed_sigint (armed : Armed base world.hold) (fresh : world.locals.oldSigint = none) :
    Armed base ((world.install .sigint .engine).mapLocals fun locals =>
      { locals with oldSigint := world.handlers .sigint }).hold := by
  refine ⟨armed.running, armed.locks, fun number => ?_⟩
  rcases armed.handlers number with unknown | known
  · exact .inl unknown
  · cases number with
    | sigterm => exact .inr known
    | sigint =>
      simp only [Hold.restored, World.hold, fresh, Option.none_or] at known
      rw [← known]
      cases world.handlers .sigint with
      | none => exact .inl rfl
      | some old => exact .inr rfl

/-- Only calls that come before a session were made. -/
def Forearmed (world after : World W) : Prop :=
  ∃ made, after.calls = world.calls ++ made ∧ (∀ call ∈ made, call.site.isEarly = true) ∧
    made.filter (fun call => call.site.isHook) = []

theorem Forearmed.trans {now : World W} (first : Forearmed world now) (rest : Forearmed now after) :
    Forearmed world after := by
  obtain ⟨made, logged, early, plain⟩ := first
  obtain ⟨more, further, soon, quiet⟩ := rest
  refine ⟨made ++ more, by rw [further, logged, List.append_assoc], fun call found => ?_, ?_⟩
  · exact (List.mem_append.mp found).elim (early call) (soon call)
  · rw [List.filter_append, plain, quiet]
    rfl

theorem forearmed_called {site : Site} {raised : Option Raised} (effect : Effect W) (early : site.isEarly = true)
    (plain : site.isHook = false) : Forearmed world (world.called site raised effect) :=
  ⟨_, rfl, by simpa using early, by simp [plain]⟩

theorem wp_installSignal (number : SignalNumber) (keep : Option Handler → Locals → Locals) :
    wp (installSignal parts number keep) (fun _ after => Forearmed world after ∧
      ((after.hold = world.hold ∧ after.locals = world.locals) ∨
        after = (world.install number .engine).mapLocals (keep (world.handlers number)))) world := by
  unfold installSignal trapSignal
  rw [wp_tryCatch]
  split
  · rw [raising, wp_call]
    dsimp only
    split <;> exact ⟨forearmed_called _ rfl rfl, .inl ⟨rfl, rfl⟩⟩
  · exact ⟨⟨[], by simp [World.mapLocals, World.install], by simp, rfl⟩, .inr rfl⟩

/-- Taking the lock and setting the traps, however far it comes. -/
theorem wp_arm (options : ExecutionOptions) (running : world.isRunning = true) (idle : world.runLockFd = none)
    (blank : world.locals = {}) :
    wp (arm parts options) (fun _ after => Forearmed world after ∧ Armed world after.hold ∧
      after.locals.sessionBegun = false) world := by
  have start : Armed world world.hold := by
    refine ⟨running, by simp [World.hold, idle], fun number => .inr ?_⟩
    cases number <;> simp [Hold.restored, World.hold, blank]
  have nothing : Forearmed world world := ⟨[], by simp, by simp, rfl⟩
  have locking : wp (armLock parts options) (fun _ after => Forearmed world after ∧ Armed world after.hold ∧
      after.locals = {}) world := by
    unfold armLock acquireRunLock
    rw [wp_ite]
    split
    · rw [wp_bind, wp_call]
      rcases parts.tryAcquireLock world with ⟨e | fd, effect⟩
      · exact ⟨forearmed_called effect rfl rfl, ⟨running, start.locks, start.handlers⟩, blank⟩
      · have asked : Forearmed world (world.called .acquireRunLock none effect) := forearmed_called effect rfl rfl
        have held : Armed world { world.hold with
            runLockFd := fd, openLocks := fd.toList ++ world.openLocks } := ⟨running, rfl, start.handlers⟩
        dsimp only
        rw [wp_modify_bind, wp_ite]
        split
        · rw [raising, wp_call]
          exact ⟨asked.trans (forearmed_called _ rfl rfl), held, blank⟩
        · exact ⟨asked, held, blank⟩
    · exact ⟨nothing, start, blank⟩
  unfold arm
  rw [wp_bind]
  refine wp_mono locking fun ended locked ending => ?_
  obtain ⟨early, armed, clear⟩ := ending
  cases ended with
  | error e => exact ⟨early, armed, by rw [clear]⟩
  | ok done =>
    dsimp only
    unfold armSignals
    rw [wp_ite]
    split
    · rw [wp_bind]
      refine wp_mono (wp_installSignal .sigterm _) fun ended first ending => ?_
      obtain ⟨soon, trapped⟩ := ending
      -- the second trap is set with the first one in place or not
      have between : Armed world first.hold ∧ first.locals.oldSigint = none ∧
          first.locals.sessionBegun = false := by
        rcases trapped with ⟨hold, locals⟩ | trapped
        · rw [hold, locals, clear]
          exact ⟨armed, rfl, rfl⟩
        · rw [trapped]
          exact ⟨armed_sigterm armed (by rw [clear]), by simp [World.mapLocals, World.install, clear],
            by simp [World.mapLocals, World.install, clear]⟩
      obtain ⟨still, fresh, unbegun⟩ := between
      cases ended with
      | error e => exact ⟨early.trans soon, still, unbegun⟩
      | ok done =>
        refine wp_mono (wp_installSignal .sigint _) fun ended second ending => ?_
        obtain ⟨later, trapped⟩ := ending
        refine ⟨(early.trans soon).trans later, ?_⟩
        rcases trapped with ⟨hold, locals⟩ | trapped
        · rw [hold, locals]
          exact ⟨still, unbegun⟩
        · rw [trapped]
          exact ⟨armed_sigint still fresh, by simpa [World.mapLocals, World.install] using unbegun⟩
    · exact ⟨early, armed, by rw [clear]⟩

end Arming

section Life

variable {W : Type} {parts : Parts W} {world now after : World W} {made told : List Call}

def Site.isEnd : Site → Bool
  | .runEnd _ => true
  | _ => false

/-- The end was told too late, by `execute` itself, and more than an exception came of it. -/
def Stray (made : List Call) : Prop :=
  ¬ Settled made ∧ ∃ call, made.getLast? = some call ∧ call.site.isEnd = true ∧ call.escapes ≠ none

/-- The reason that was told, against how the run ended. -/
def Reported (reason : ExitReason) (ended : Except Raised RunSummary) (made : List Call) : Prop :=
  match ended with
  | .ok summary => ∃ mode later : StopMode, reason = mode.reason ∧ summary.exitReason = later.reason ∧
      mode.rank ≤ later.rank
  | .error e => reason.failed = true ∨
      ∃ call, made.getLast? = some call ∧ call.site.isEnd = true ∧ call.escapes = some e

/-- A run that was not refused, from its first call to its last. -/
structure Lived (parts : Parts W) (world after : World W) (ended : Except Raised RunSummary) (made : List Call) :
    Prop where
  calls : after.calls = world.calls ++ made
  stopping : Stopping (made.filter fun call => call.site.inLoop)
  cleaned : (made.filter fun call => call.site.inCleanUp).map Call.site =
    if (lastEscape Call.escapes (made.filter fun call => call.site.inLoop)).isSome
      then [.abortCleanup, .saveCleanup] else []
  closed : ¬ Stray made → Closed world after
  stray : Stray made → after.isRunning = true ∧ after.openLocks = after.runLockFd.toList ++ world.openLocks ∧
    ∃ e, ended = .error e ∧ e.isException = false ∧
      ∃ call, made.getLast? = some call ∧ call.site.isEnd = true ∧ call.escapes = some e
  hooks : (made.filter (fun call => call.site.isHook) = [] ∧ ∃ e, ended = .error e) ∨
    ∃ reason, (made.filter fun call => call.site.isHook).map Call.site = startSites parts ++ endSites parts reason ∧
      Reported reason ended made

/-- A run that ended before its session began. -/
theorem lived_of_early {e : Raised} (logged : after.calls = world.calls ++ made)
    (early : ∀ call ∈ made, call.site.isEarly = true) (plain : made.filter (fun call => call.site.isHook) = [])
    (closed : Closed world after) : Lived parts world after (.error e) made := by
  obtain ⟨inLoop, inCleanUp, -⟩ := kinds_of_early early
  have kept : ¬ Stray made := by
    rintro ⟨-, call, last, ending, -⟩
    have wrong := early call (List.mem_of_getLast? last)
    revert ending wrong
    cases call.site <;> simp [Site.isEnd, Site.isEarly]
  refine ⟨logged, ?_, ?_, fun _ => closed, fun stray => absurd stray kept, .inl ⟨plain, e, rfl⟩⟩
  · rw [inLoop]
    exact ⟨.nil, by simp, ⟨[], [], rfl, by simp, by simp, .inl rfl⟩, by simp [late]⟩
  · rw [inLoop, inCleanUp]
    rfl

/-- The calls that tell the end are none of the others. -/
theorem kinds_of_told {reason : ExitReason} (sites : told.map Call.site = endSites parts reason) :
    told.filter (fun call => call.site.inLoop) = [] ∧ told.filter (fun call => call.site.inCleanUp) = [] ∧
      told.filter (fun call => call.site.isHook) = told ∧ (∀ call ∈ told, call.site = .runEnd reason) ∧
        told.length ≤ 1 := by
  have known : ∀ call ∈ told, call.site = .runEnd reason := by
    intro call found
    have site := List.mem_map_of_mem (f := Call.site) found
    rw [sites] at site
    unfold endSites at site
    split at site
    · exact List.mem_singleton.mp site
    · cases site
  refine ⟨?_, ?_, ?_, known, ?_⟩
  · exact List.filter_eq_nil_iff.mpr fun call found => by simp [known call found, Site.inLoop]
  · exact List.filter_eq_nil_iff.mpr fun call found => by simp [known call found, Site.inCleanUp]
  · exact List.filter_eq_self.mpr fun call found => by simp [known call found, Site.isHook]
  · have count := congrArg List.length sites
    rw [List.length_map] at count
    rw [count]
    unfold endSites
    split <;> simp

theorem getLast_told (made : List Call) {reason : ExitReason} {e : Raised}
    (sites : told.map Call.site = endSites parts reason) (escaped : lastEscape Call.escapes told = some e) :
    ∃ call, (made ++ told).getLast? = some call ∧ call.site.isEnd = true ∧ call.escapes = some e := by
  obtain ⟨-, -, -, known, few⟩ := kinds_of_told sites
  match told, few with
  | [], _ => cases escaped
  | [call], _ =>
    refine ⟨call, by simp, by rw [known call (by simp)]; rfl, ?_⟩
    cases escapes : call.escapes <;> simp [lastEscape, escapes] at escaped ⊢
    exact escaped
  | _ :: _ :: _, few => simp at few

/-- The summary that a run gives of a world. -/
def World.summary (world : World W) : RunSummary where
  exitReason := world.locals.exitReason
  stats := world.session.stats
  runId := world.session.runId.getD ""

/-- What `execute` makes of how the body ended. -/
def World.outcome (world : World W) : Except Raised Unit → Except Raised RunSummary
  | .ok _ => .ok world.summary
  | .error e => .error e

/-- Whether the end was told too late is read off what told it. -/
theorem stray_told {reason : ExitReason}
    (hooks : (made.filter fun call => call.site.isHook).map Call.site = startSites parts)
    (sites : told.map Call.site = endSites parts reason) :
    Stray (made ++ told) ↔ ¬ Settled made ∧ lastEscape Call.escapes told ≠ none := by
  obtain ⟨-, -, -, known, few⟩ := kinds_of_told sites
  have settled : Settled (made ++ told) ↔ Settled made := by
    refine ⟨fun ⟨call, found, site, passed⟩ => ?_, fun ⟨call, found, rest⟩ =>
      ⟨call, List.mem_append_left _ found, rest⟩⟩
    rcases List.mem_append.mp found with early | last
    · exact ⟨call, early, site, passed⟩
    · rw [known call last] at site
      cases site
  have untold : ∀ call ∈ made, call.site.isEnd = false := by
    intro call found
    by_contra ending
    have hook : call.site.isHook = true := by
      revert ending
      cases call.site <;> simp [Site.isEnd, Site.isHook]
    have listed : call.site ∈ (made.filter fun call => call.site.isHook).map Call.site :=
      List.mem_map_of_mem (List.mem_filter.mpr ⟨found, hook⟩)
    rw [hooks, startSites] at listed
    split at listed
    · rw [List.mem_singleton.mp listed] at ending
      exact ending rfl
    · cases listed
  unfold Stray
  rw [settled]
  refine and_congr_right fun _ => ⟨fun ⟨call, last, ending, escaped⟩ none => ?_, fun escaped => ?_⟩
  · match told, few with
    | [], _ =>
      rw [List.append_nil] at last
      rw [untold call (List.mem_of_getLast? last)] at ending
      cases ending
    | [other], _ =>
      simp only [List.getLast?_append, List.getLast?_singleton, Option.some_or, Option.some.injEq] at last
      rw [last] at none
      cases escapes : call.escapes with
      | none => exact escaped escapes
      | some e => simp [lastEscape, escapes] at none
    | _ :: _ :: _, few => simp at few
  · obtain ⟨e, same⟩ := Option.ne_none_iff_exists'.mp escaped
    obtain ⟨call, last, ending, escapes⟩ := getLast_told made sites same
    exact ⟨call, last, ending, by simp [escapes]⟩

/-- Only more than an exception escapes from what is told the end. -/
theorem base_of_told {reason : ExitReason} {e : Raised} (sites : told.map Call.site = endSites parts reason)
    (escaped : lastEscape Call.escapes told = some e) : e.isException = false := by
  obtain ⟨call, last, ending, escapes⟩ := getLast_told [] sites escaped
  have site : call.site = .runEnd reason :=
    (kinds_of_told sites).2.2.2.1 call (by simpa using List.mem_of_getLast? last)
  unfold Call.escapes at escapes
  rw [site] at escapes
  simpa using (Option.filter_eq_some_iff.mp escapes).2

/-- A run whose end was told. -/
theorem lived_of_told {reason : ExitReason} {outcome : Except Raised RunSummary}
    (logged : after.calls = world.calls ++ (made ++ told))
    (stopping : Stopping (made.filter fun call => call.site.inLoop))
    (cleaned : (made.filter fun call => call.site.inCleanUp).map Call.site =
      if (lastEscape Call.escapes (made.filter fun call => call.site.inLoop)).isSome
        then [.abortCleanup, .saveCleanup] else [])
    (hooks : (made.filter fun call => call.site.isHook).map Call.site = startSites parts)
    (sites : told.map Call.site = endSites parts reason) (reported : Reported reason outcome (made ++ told))
    (closed : Settled made ∨ lastEscape Call.escapes told = none → Closed world after)
    (stray : lastEscape Call.escapes told ≠ none → ¬ Settled made →
      after.isRunning = true ∧ after.openLocks = after.runLockFd.toList ++ world.openLocks ∧
        ∃ e, outcome = .error e ∧ lastEscape Call.escapes told = some e) :
    Lived parts world after outcome (made ++ told) := by
  obtain ⟨loops, cleans, ends, -, -⟩ := kinds_of_told sites
  refine ⟨logged, ?_, ?_, fun kept => closed ?_, fun lost => ?_, .inr ⟨reason, ?_, reported⟩⟩
  · rw [List.filter_append, loops, List.append_nil]
    exact stopping
  · rw [List.filter_append, List.filter_append, loops, cleans, List.append_nil, List.append_nil]
    exact cleaned
  · rw [stray_told hooks sites] at kept
    by_cases settled : Settled made
    · exact .inl settled
    · exact .inr (by_contra fun escaped => kept ⟨settled, escaped⟩)
  · obtain ⟨unsettled, escaped⟩ := (stray_told hooks sites).mp lost
    obtain ⟨running, locks, e, failed, last⟩ := stray escaped unsettled
    exact ⟨running, locks, e, failed, base_of_told sites last, getLast_told _ sites last⟩
  · rw [List.filter_append, ends, List.map_append, hooks, sites]

/-- The end of `execute`, from where its body has ended. -/
theorem wp_finish {armed : World W} {ended : Except Raised Unit} (holds : Armed world armed.hold)
    (unbegun : armed.locals.sessionBegun = false) (calls : armed.calls = world.calls ++ made)
    (early : ∀ call ∈ made, call.site.isEarly = true) (plain : made.filter (fun call => call.site.isHook) = [])
    (bodied : Bodied parts armed now ended) :
    wp (do endSession parts; releaseRunLock; leave; restoreHandlers) (fun closing left => ∃ made,
      Lived parts world left (left.outcome (overridden ended closing)) made) now := by
  have rest (left : World W) : let after := { left.releaseLock with isRunning := false }.restored
      after.calls = left.calls ∧ after.locals = left.locals ∧ after.session = left.session := by
    obtain ⟨-, locals, session, calls⟩ := releaseLock_rest left
    obtain ⟨-, -, -, sameLocals, sameSession, sameCalls⟩ := restored_rest { left.releaseLock with isRunning := false }
    exact ⟨sameCalls.trans calls, sameLocals.trans locals, sameSession.trans session⟩
  rw [wp_bind]
  unfold endSession
  rw [wp_get_bind]
  dsimp only
  rw [wp_ite]
  cases bodied with
  | refused more e failed logged soon quiet hold =>
    have begun : now.locals.sessionBegun = false := (congrArg Hold.sessionBegun hold).trans unbegun
    rw [if_neg (by simp [begun])]
    refine ⟨made ++ more, ?_⟩
    change Lived parts world { now.releaseLock with isRunning := false }.restored _ _
    rw [failed]
    refine lived_of_early ?_ ?_ ?_ (closed_of_end (by rw [hold]; exact holds))
    · rw [(rest now).1, logged, calls, List.append_assoc]
    · exact fun call found => (List.mem_append.mp found).elim (early call) (soon call)
    · rw [List.filter_append, plain, quiet]
      rfl
  | begun more told ran hooks returned failed =>
    have begun : now.locals.sessionBegun = true := congrArg Hold.sessionBegun ran.hold
    have held : Armed world now.hold := by
      rw [ran.hold]
      exact ⟨holds.running, holds.locks, fun number =>
        (holds.handlers number).imp_right fun same => by cases number <;> exact same⟩
    have whole := ran.after_early world.calls calls early rfl
    have first : ((made ++ more).filter fun call => call.site.isHook).map Call.site = startSites parts := by
      rw [List.filter_append, plain, List.nil_append, hooks]
    rw [if_pos begun]
    rcases whole.ending with ⟨fired, settled, reason, sites, toldIt⟩ | ⟨unfired, unsettled, rfl, e, rfl⟩
    · rw [fireRunEnd_fired _ fired]
      refine ⟨made ++ more ++ told, ?_⟩
      change Lived parts world { now.releaseLock with isRunning := false }.restored _ _
      refine lived_of_told ?_ whole.stopping whole.cleaned first sites ?_ (fun _ => closed_of_end held) ?_
      · rw [(rest now).1, whole.calls]
      · cases ended with
        | ok done =>
          obtain ⟨mode, same, forward⟩ := toldIt
          refine ⟨mode, now.session.stopMode, same, ?_, forward⟩
          change { now.releaseLock with isRunning := false }.restored.locals.exitReason = _
          rw [(rest now).2.1]
          exact returned done rfl
        | error e => exact toldIt.imp_right fun escaped => getLast_told _ sites escaped
      · exact fun _ unsettled => absurd settled unsettled
    · refine wp_mono (wp_fireRunEnd _ unfired) fun closing left ⟨told, tolling⟩ => ?_
      have reported : Reported now.locals.exitReason (left.outcome (overridden (.error e) closing))
          (made ++ more ++ told) := by
        cases closing <;> exact .inl (failed e rfl)
      have logged : left.calls = world.calls ++ (made ++ more ++ told) := by
        rw [tolling.calls, whole.calls, List.append_nil, List.append_assoc]
      have raised := tolling.raised
      cases closing with
      | ok done =>
        refine ⟨made ++ more ++ told, ?_⟩
        change Lived parts world { left.releaseLock with isRunning := false }.restored _ _
        have heldLeft : Armed world left.hold := by
          rw [tolling.hold]
          exact held
        refine lived_of_told ?_ whole.stopping whole.cleaned first tolling.sites (.inl (failed e rfl))
          (fun _ => closed_of_end heldLeft) fun escaped => absurd raised.symm escaped
        rw [(rest left).1, logged]
      | error base =>
        refine ⟨made ++ more ++ told,
          lived_of_told logged whole.stopping whole.cleaned first tolling.sites reported ?_ ?_⟩
        · rintro (settled | silent)
          · exact absurd settled unsettled
          · rw [← raised] at silent
            cases silent
        · intro _ _
          have hold := tolling.hold
          have isRunning : left.isRunning = now.isRunning := congrArg Hold.isRunning hold
          have runningNow : now.isRunning = armed.isRunning := congrArg Hold.isRunning ran.hold
          have locks : left.hold.openLocks = left.hold.runLockFd.toList ++ world.openLocks := by
            rw [hold]
            exact held.locks
          exact ⟨isRunning.trans (runningNow.trans holds.running), locks, base, rfl, raised.symm⟩

/-- Everything that a run that is not refused comes to. -/
theorem wp_lifeCycle (fuel : ℕ) (options : ExecutionOptions) (idle : world.runLockFd = none) :
    wp (lifeCycle parts fuel options) (fun ended after => ∃ made, Lived parts world after ended made) world := by
  unfold lifeCycle
  rw [wp_modify_bind, wp_bind, wp_tryCatch]
  refine wp_mono (wp_arm options rfl idle rfl) fun ended armed ⟨⟨made, logged, early, plain⟩, holds, unbegun⟩ => ?_
  have heldBase : Armed world armed.hold := ⟨holds.running, holds.locks, holds.handlers⟩
  cases ended with
  | error e =>
    refine ⟨made, ?_⟩
    change Lived parts world { armed.restored.releaseLock with isRunning := false } (.error e) made
    refine lived_of_early ?_ early plain (closed_of_refusal heldBase)
    obtain ⟨-, -, -, same⟩ := releaseLock_rest armed.restored
    obtain ⟨-, -, -, -, -, calls⟩ := restored_rest armed
    exact same.trans (calls.trans logged)
  | ok done =>
    dsimp only
    rw [wp_bind, wp_tryFinally]
    refine wp_mono (wp_guardedBody fuel) fun ended now bodied => ?_
    refine wp_mono (wp_finish heldBase unbegun logged early plain bodied) fun closing left lived => ?_
    cases last : overridden ended closing with
    | ok done => rwa [last] at lived
    | error e => rwa [last] at lived

end Life

end Tasklite.Engine.Execute
