import Tasklite.Engine.Verdict

/-! How a run stops. Requests to stop only go forward; no job is dispatched any more once
one has come in, a round that finds the run aborting kills the workers, saves the queue
and is the last, and a forced stop takes the loop out within five more calls. -/

namespace Tasklite.Engine.Execute
open Tasklite.Library Tasklite.Library.Program Tasklite.Models

def StopMode.rank : StopMode → ℕ
  | .none => 0
  | .draining => 1
  | .aborting => 2

/-- The places from which the loop calls. -/
def Site.inLoop : Site → Bool
  | .applySkips | .dispatchNext | .arbitrate | .drainAndSettle | .sleep | .abortInFlight | .saveQueue => true
  | _ => false

/-- The calls that the stop gate makes. -/
def Site.atGate : Site → Bool
  | .abortInFlight | .saveQueue => true
  | _ => false

section Session

theorem rank_requestStop (session : RunSession) (force : Bool) :
    session.stopMode.rank ≤ (session.requestStop force).stopMode.rank := by
  unfold RunSession.requestStop
  cases mode : session.stopMode <;> cases force <;> simp [mode, StopMode.rank]

theorem rank_stops (stops : List Bool) (session : RunSession) :
    session.stopMode.rank ≤ (stops.foldl RunSession.requestStop session).stopMode.rank := by
  induction stops generalizing session with
  | nil => exact le_rfl
  | cons force rest ih => exact (rank_requestStop session force).trans (ih _)

theorem fired_stops (stops : List Bool) (session : RunSession) :
    (stops.foldl RunSession.requestStop session).runEndFired = session.runEndFired := by
  induction stops generalizing session with
  | nil => rfl
  | cons force rest ih =>
    rw [List.foldl_cons, ih]
    unfold RunSession.requestStop
    split_ifs <;> rfl

theorem counted_session (counted : List StatKey) (session : RunSession) :
    (counted.foldl RunSession.recordStat session).stopMode = session.stopMode ∧
      (counted.foldl RunSession.recordStat session).runEndFired = session.runEndFired := by
  induction counted generalizing session with
  | nil => exact ⟨rfl, rfl⟩
  | cons key rest ih => exact ih (session.recordStat key)

variable {W : Type}

theorem rank_affected (session : RunSession) (effect : Effect W) :
    session.stopMode.rank ≤ (session.affected effect).stopMode.rank := by
  have same : (session.affected effect).stopMode = _ := (counted_session effect.counted _).1
  rw [same]
  exact rank_stops effect.stops session

theorem fired_affected (session : RunSession) (effect : Effect W) :
    (session.affected effect).runEndFired = session.runEndFired := by
  have same : (session.affected effect).runEndFired = _ := (counted_session effect.counted _).2
  rw [same]
  exact fired_stops effect.stops session

end Session

section Advance

variable {W α : Type}

/-- Calls in the order of their stop modes, from one mode to another. -/
def Between (low high : ℕ) (made : List Call) : Prop :=
  (∀ call ∈ made, low ≤ call.stopMode.rank ∧ call.stopMode.rank ≤ high) ∧
    made.Pairwise fun call later => call.stopMode.rank ≤ later.stopMode.rank

theorem Between.append {low middle high : ℕ} {made more : List Call} (first : Between low middle made)
    (rest : Between middle high more) (up : low ≤ middle) (down : middle ≤ high) :
    Between low high (made ++ more) := by
  refine ⟨fun call found => ?_, List.pairwise_append.mpr ⟨first.2, rest.2, fun call found later next => ?_⟩⟩
  · rcases List.mem_append.mp found with early | late
    · exact ⟨(first.1 call early).1, (first.1 call early).2.trans down⟩
    · exact ⟨up.trans (rest.1 call late).1, (rest.1 call late).2⟩
  · exact (first.1 call found).2.trans (rest.1 later next).1

/-- What the parts of a run leave alone. -/
def World.frame (world : World W) :
    Bool × Option ℕ × List ℕ × (SignalNumber → Option Handler) × Locals × Bool :=
  (world.isRunning, world.runLockFd, world.openLocks, world.handlers, world.locals, world.session.runEndFired)

/-- The frame stays, the stop mode goes forward, and only calls that are allowed are made. -/
structure Advance (allowed : Call → Prop) (world after : World W) : Prop where
  frame : after.frame = world.frame
  forward : world.session.stopMode.rank ≤ after.session.stopMode.rank
  calls : ∃ made, after.calls = world.calls ++ made ∧ (∀ call ∈ made, allowed call) ∧
    Between world.session.stopMode.rank after.session.stopMode.rank made

instance (allowed : Call → Prop) : IsPreorder (World W) (Advance allowed) where
  refl world := ⟨rfl, le_rfl, [], by simp, by simp, by simp [Between]⟩
  trans world after left first rest := by
    obtain ⟨made, logged, fine, between⟩ := first.calls
    obtain ⟨more, further, good, beyond⟩ := rest.calls
    refine ⟨rest.frame.trans first.frame, first.forward.trans rest.forward, made ++ more, ?_, ?_, ?_⟩
    · rw [further, logged, List.append_assoc]
    · intro call found
      exact (List.mem_append.mp found).elim (fine call) (good call)
    · exact between.append beyond first.forward rest.forward

theorem Advance.mono {allowed other : Call → Prop} {world after : World W} (advance : Advance allowed world after)
    (wider : ∀ call, allowed call → other call) : Advance other world after := by
  obtain ⟨made, logged, fine, between⟩ := advance.calls
  exact ⟨advance.frame, advance.forward, made, logged, fun call found => wider call (fine call found), between⟩

theorem advance_called {allowed : Call → Prop} {world : World W} {site : Site} {raised : Option Raised}
    (effect : Effect W) (fine : allowed ⟨site, world.session.stopMode, raised⟩) :
    Advance allowed world (world.called site raised effect) := by
  have up : world.session.stopMode.rank ≤ (world.called site raised effect).session.stopMode.rank :=
    rank_affected _ _
  refine ⟨?_, up, [_], rfl, by simpa using fine, by simpa [Between] using up⟩
  have fired : (world.called site raised effect).session.runEndFired = world.session.runEndFired :=
    fired_affected _ _
  unfold World.frame
  rw [fired]
  rfl

theorem advance_call {allowed : Call → Prop} {site : Site} (part : Part W α)
    (fine : ∀ mode raised, allowed ⟨site, mode, raised⟩) : Moves (Advance allowed) (call site part) := by
  intro world
  rw [wp_call]
  exact advance_called _ (fine _ _)

/-- A change of the rest of the engine, or of the mark of what is to be skipped. -/
theorem advance_modify {allowed : Call → Prop} {change : World W → World W}
    (frame : ∀ world, (change world).frame = world.frame) (calls : ∀ world, (change world).calls = world.calls)
    (mode : ∀ world, (change world).session.stopMode = world.session.stopMode) :
    Moves (Advance allowed) (modify change : Program Raised (World W) PUnit) := by
  refine moves_modify fun world => ⟨frame world, by rw [mode], [], by rw [calls, List.append_nil], by simp, ?_⟩
  simp [Between]

end Advance

section Loop

variable {W : Type} {parts : Parts W}

/-- The calls of a round behind the gate: nothing is dispatched in a run that is to stop. -/
def Pumping (call : Call) : Prop :=
  call.site.inLoop = true ∧ call.site.atGate = false ∧ (call.site = .dispatchNext → call.stopMode = .none)

theorem advance_skipAgain : Moves (Advance Pumping) (skipAgain parts) :=
  moves_get.bind fun _ => .branch (fun _ => advance_call _ (by simp [Pumping, Site.inLoop, Site.atGate]))
    fun _ => moves_pure _

theorem advance_fillTurn (limit : ℕ) (filled : Filled) : Moves (Advance Pumping) (fillTurn parts limit filled) := by
  intro world
  unfold fillTurn
  rw [wp_get_bind, wp_ite]
  split
  · rename_i going
    rw [wp_bind, wp_call]
    have dispatched (raised : Option Raised) : Advance Pumping world (world.called .dispatchNext raised
        (parts.dispatchNext world).2) := advance_called _ ⟨rfl, rfl, fun _ => going.2⟩
    cases (parts.dispatchNext world).1 with
    | error e => exact dispatched _
    | ok outcome =>
      dsimp only
      split
      · exact dispatched _
      · rw [wp_bind]
        refine wp_mono (advance_skipAgain _) fun ended after further => ?_
        cases ended <;> exact IsTrans.trans _ _ _ (dispatched _) further
      · exact dispatched _
      · exact dispatched _
  · exact refl world

theorem advance_fillDispatchPool (limit fuel : ℕ) (draining : Bool) :
    Moves (Advance Pumping) (fillDispatchPool parts limit fuel draining) :=
  .branch (fun _ => moves_pure _) fun _ => moves_loop (advance_fillTurn limit) fuel _

theorem advance_convergeSkips : Moves (Advance Pumping) (convergeSkips parts) := by
  refine moves_get.bind fun _ => .branch (fun _ => ?_) fun _ => moves_pure _
  refine .bind (advance_modify (fun _ => by rfl) (fun _ => by rfl) fun _ => by rfl) fun _ => ?_
  exact advance_call _ (by simp [Pumping, Site.inLoop, Site.atGate])

theorem advance_recordProgress (dispatched : ℕ) : Moves (Advance Pumping) (recordProgress parts dispatched) := by
  unfold recordProgress
  exact .branch (fun _ => advance_modify (fun _ => rfl) (fun _ => rfl) fun _ => rfl) fun _ => moves_pure _

theorem advance_markSkipDirty (settled : ℕ) :
    Moves (Advance Pumping) (markSkipDirty settled : Program Raised (World W) Unit) := by
  unfold markSkipDirty
  exact .branch (fun _ => advance_modify (fun _ => rfl) (fun _ => rfl) fun _ => rfl) fun _ => moves_pure _

theorem advance_drainAndSettle : Moves (Advance Pumping) (drainAndSettle parts) :=
  moves_get.bind fun _ => .branch (fun _ => advance_call _ (by simp [Pumping, Site.inLoop, Site.atGate]))
    fun _ => moves_pure _

theorem advance_phases (fuel : ℕ) (draining : Bool) : Moves (Advance Pumping) (phases parts fuel draining) := by
  refine (advance_fillDispatchPool _ fuel draining).bind fun filled => ?_
  refine (advance_recordProgress _).bind fun _ => ?_
  refine (advance_call _ (by simp [Pumping, Site.inLoop, Site.atGate])).bind fun arbitration => ?_
  refine advance_drainAndSettle.bind fun settled => (advance_markSkipDirty settled).bind fun _ => ?_
  exact moves_get.bind fun _ => moves_pure _

theorem advance_pump (fuel : ℕ) (draining : Bool) : Moves (Advance Pumping) (pump parts fuel draining) :=
  advance_convergeSkips.bind fun _ => moves_get.bind fun _ => .branch (fun _ => moves_pure _)
    fun _ => advance_phases fuel draining

theorem advance_pause (outcome : StepOutcome) : Moves (Advance Pumping) (pause parts outcome) := by
  unfold pause
  exact .branch (fun _ => advance_call _ (by simp [Pumping, Site.inLoop, Site.atGate])) fun _ => moves_pure _

end Loop

section Late

variable {W α : Type} {parts : Parts W}

/-- The calls that are made in a run that is aborting. -/
def late (calls : List Call) : List Call := calls.filter fun call => call.stopMode = .aborting

/-- How many calls were made in a run that is aborting. -/
def World.lateness (world : World W) : ℕ := (late world.calls).length

theorem lateness_called (world : World W) (site : Site) (raised : Option Raised) (effect : Effect W) :
    (world.called site raised effect).lateness =
      world.lateness + if world.session.stopMode = .aborting then 1 else 0 := by
  unfold World.lateness late World.called
  rw [List.filter_append, List.length_append]
  split_ifs with mode <;> simp [mode]

theorem costs_call (site : Site) (part : Part W α) : Costs World.lateness 1 (call site part) := by
  intro world
  rw [wp_call, lateness_called]
  split_ifs <;> omega

theorem costs_skipAgain : Costs World.lateness 0 (skipAgain parts) := by
  intro world
  unfold skipAgain
  rw [wp_get_bind, wp_ite]
  split_ifs with going
  · rw [wp_call, lateness_called, if_neg (by simp [going])]
  · exact le_rfl

theorem costs_fillTurn (limit : ℕ) (filled : Filled) : Costs World.lateness 0 (fillTurn parts limit filled) := by
  intro world
  unfold fillTurn
  rw [wp_get_bind, wp_ite]
  split_ifs with going
  · have prompt (raised : Option Raised) : (world.called .dispatchNext raised
        (parts.dispatchNext world).2).lateness = world.lateness := by
      rw [lateness_called, if_neg (by simp [going.2])]
      rfl
    rw [wp_bind, wp_call]
    cases (parts.dispatchNext world).1 with
    | error e => exact (prompt _).le
    | ok outcome =>
      dsimp only
      split
      · exact (prompt _).le
      · rw [wp_bind]
        refine wp_mono (costs_skipAgain _) fun ended after bound => ?_
        rw [prompt] at bound
        cases ended <;> exact bound
      · exact (prompt _).le
      · exact (prompt _).le
  · exact le_rfl

theorem costs_phases (fuel : ℕ) (draining : Bool) : Costs World.lateness 2 (phases parts fuel draining) := by
  have filling : Costs World.lateness 0 (fillDispatchPool parts 1000000 fuel draining) :=
    .branch (costs_pure _) (costs_loop (costs_fillTurn _) fuel _)
  have progress (dispatched : ℕ) : Costs World.lateness 0 (recordProgress parts dispatched) := by
    unfold recordProgress
    exact .branch (costs_modify fun _ => rfl) (costs_pure _)
  have settling : Costs World.lateness 1 (drainAndSettle parts) :=
    costs_get.bind fun _ => .branch (costs_call _ _) ((costs_pure _).mono (Nat.zero_le _))
  have marking (settled : ℕ) :
      Costs World.lateness 0 (markSkipDirty settled : Program Raised (World W) Unit) := by
    unfold markSkipDirty
    exact .branch (costs_modify fun _ => rfl) (costs_pure _)
  have whole : Costs World.lateness (0 + (0 + (1 + (1 + (0 + (0 + 0)))))) (phases parts fuel draining) :=
    filling.bind fun filled => (progress _).bind fun _ => (costs_call _ _).bind fun _ => settling.bind fun settled =>
      (marking settled).bind fun _ => costs_get.bind fun _ => costs_pure _
  exact whole

/-- A round that begins before the run is aborting makes two late calls at most. -/
theorem late_pump {world : World W} (early : world.session.stopMode ≠ .aborting) (fuel : ℕ) (draining : Bool) :
    wp (pump parts fuel draining) (fun _ after => after.lateness ≤ world.lateness + 2) world := by
  have rest : Costs World.lateness 2 (do
      if isIdle parts (← get).engine then return terminalOutcome else phases parts fuel draining) :=
    (costs_get.bind fun _ => .branch ((costs_pure _).mono (Nat.zero_le _)) (costs_phases fuel draining)).mono
      (by omega)
  have skipping : wp (convergeSkips parts) (fun _ after => after.lateness = world.lateness) world := by
    unfold convergeSkips
    rw [wp_get_bind, wp_ite]
    split
    · rw [wp_modify_bind, wp_call, lateness_called, if_neg early]
      rfl
    · rfl
  unfold pump
  rw [wp_bind]
  refine wp_mono skipping fun ended after same => ?_
  cases ended with
  | error e => dsimp only; omega
  | ok done =>
    refine wp_mono (rest after) fun _ left bound => ?_
    omega

end Late

section Rounds

variable {W : Type} {parts : Parts W} {world now after : World W} {made : List Call}

theorem lateness_append (logged : after.calls = world.calls ++ made) :
    after.lateness = world.lateness + (late made).length := by
  unfold World.lateness late
  rw [logged, List.filter_append, List.length_append]

/-- As long as a run is not aborting, none of its calls is late. -/
theorem Advance.early {allowed : Call → Prop} (advance : Advance allowed world after)
    (early : after.session.stopMode ≠ .aborting) : after.lateness = world.lateness := by
  obtain ⟨made, logged, -, between⟩ := advance.calls
  rw [lateness_append logged]
  have none : late made = [] := by
    unfold late
    rw [List.filter_eq_nil_iff]
    intro call found mode
    have bound := (between.1 call found).2
    rw [of_decide_eq_true mode] at bound
    revert early bound
    cases after.session.stopMode <;> simp [StopMode.rank]
  rw [none]
  rfl

/-- The stop gate has ended the loop. -/
structure Gated (world after : World W) : Prop where
  advance :
    Advance (fun call => call.site.inLoop = true ∧ call.site.atGate = true ∧ call.stopMode ≠ .none) world after
  sites : ∃ made, after.calls = world.calls ++ made ∧
    (made.map Call.site = [.saveQueue] ∨ made.map Call.site = [.abortInFlight, .saveQueue])

theorem rank_ne_none {mode later : StopMode} (stopping : mode ≠ .none) (forward : mode.rank ≤ later.rank) :
    later ≠ .none := by
  cases mode <;> cases later <;> simp_all [StopMode.rank]

theorem gated_save {raised : Option Raised} (effect : Effect W) (stopping : world.session.stopMode ≠ .none) :
    Gated world (world.called .saveQueue raised effect) :=
  ⟨advance_called effect ⟨rfl, rfl, stopping⟩, _, rfl, .inl rfl⟩

theorem gated_abort {raised aborted : Option Raised} (effect other : Effect W)
    (stopping : world.session.stopMode ≠ .none) :
    Gated world ((world.called .abortInFlight aborted other).called .saveQueue raised effect) := by
  have forward : Advance (fun call => call.site.inLoop = true ∧ call.site.atGate = true ∧ call.stopMode ≠ .none)
      world (world.called .abortInFlight aborted other) := advance_called other ⟨rfl, rfl, stopping⟩
  refine ⟨IsTrans.trans _ _ _ forward (advance_called effect ⟨rfl, rfl, ?_⟩), _, List.append_assoc _ _ _, .inr ?_⟩
  · exact rank_ne_none stopping forward.forward
  · rfl

/-- One round: the gate is open, or it ends the loop. -/
theorem wp_step (fuel : ℕ) : wp (step parts fuel) (fun ended after =>
    (world.session.stopMode ≠ .aborting ∧ Advance Pumping world after ∧ after.lateness ≤ world.lateness + 2) ∨
      (Gated world after ∧ ∀ outcome, ended = .ok outcome → outcome.shouldTerminate = true)) world := by
  have pumping (draining : Bool) (open' : world.session.stopMode ≠ .aborting) : wp (pump parts fuel draining)
      (fun ended after => (world.session.stopMode ≠ .aborting ∧ Advance Pumping world after ∧
        after.lateness ≤ world.lateness + 2) ∨
        (Gated world after ∧ ∀ outcome, ended = .ok outcome → outcome.shouldTerminate = true)) world := by
    refine wp_mono (wp_and (advance_pump fuel draining world) (late_pump open' fuel draining)) fun _ after both => ?_
    exact .inl ⟨open', both.1, both.2⟩
  unfold step
  rw [wp_get_bind]
  split
  · rename_i mode
    exact pumping false (by simp [mode])
  · rename_i mode
    have stopping : world.session.stopMode ≠ .none := by simp [mode]
    rw [wp_bind, abortAndSave, wp_tryFinally, wp_call, wp_call]
    cases (parts.saveQueueCrashSafe _).1 with
    | error e => exact .inr ⟨gated_abort _ _ stopping, by simp⟩
    | ok saved =>
      cases (parts.abortInFlight world).1 with
      | error e => exact .inr ⟨gated_abort _ _ stopping, by simp⟩
      | ok killed => exact .inr ⟨gated_abort _ _ stopping, by simp [terminalOutcome]⟩
  · rename_i mode
    have stopping : world.session.stopMode ≠ .none := by simp [mode]
    rw [wp_ite]
    split
    · exact pumping true (by simp [mode])
    · rw [wp_bind, wp_call]
      cases (parts.saveQueueCrashSafe world).1 with
      | error e => exact .inr ⟨gated_save _ stopping, by simp⟩
      | ok saved => exact .inr ⟨gated_save _ stopping, by simp [terminalOutcome]⟩

/-- The calls of a loop: rounds with nothing to stop them, then perhaps the stop gate. -/
structure Stopping (made : List Call) : Prop where
  forward : made.Pairwise fun call later => call.stopMode.rank ≤ later.stopMode.rank
  dispatching : ∀ call ∈ made, call.site = .dispatchNext → call.stopMode = .none
  gate : ∃ rounds gated, made = rounds ++ gated ∧ (∀ call ∈ rounds, call.site.atGate = false) ∧
    (∀ call ∈ gated, call.stopMode ≠ .none) ∧
    (gated.map Call.site = [] ∨ gated.map Call.site = [.saveQueue] ∨
      gated.map Call.site = [.abortInFlight, .saveQueue])
  prompt : (late made).length ≤ 5

structure Looped (world after : World W) : Prop where
  advance : Advance (fun call => call.site.inLoop = true) world after
  stopping : ∃ made, after.calls = world.calls ++ made ∧ Stopping made

theorem looped_of_pumping (advance : Advance Pumping world after) (prompt : after.lateness ≤ world.lateness + 5) :
    Looped world after := by
  refine ⟨advance.mono fun call fine => fine.1, ?_⟩
  obtain ⟨made, logged, fine, between⟩ := advance.calls
  have few := lateness_append logged
  refine ⟨made, logged, between.2, fun call found => (fine call found).2.2, ⟨made, [], by simp, ?_, by simp, by simp⟩,
    by omega⟩
  exact fun call found => (fine call found).2.1

theorem looped_of_gated (advance : Advance Pumping world now) (prompt : now.lateness ≤ world.lateness + 3)
    (gated : Gated now after) : Looped world after := by
  have whole : Advance (fun call => call.site.inLoop = true) world after :=
    IsTrans.trans _ _ _ (advance.mono fun call fine => fine.1) (gated.advance.mono fun call fine => fine.1)
  refine ⟨whole, ?_⟩
  obtain ⟨made, logged, fine, -⟩ := advance.calls
  obtain ⟨last, further, allowed, -⟩ := gated.advance.calls
  obtain ⟨ends, same, sites⟩ := gated.sites
  obtain rfl : ends = last := List.append_cancel_left (same.symm.trans further)
  obtain ⟨all, joined, -, between⟩ := whole.calls
  obtain rfl : all = made ++ ends := by
    refine List.append_cancel_left (joined.symm.trans ?_)
    rw [further, logged, List.append_assoc]
  have length : ends.length ≤ 2 := by
    rcases sites with one | two
    · have count : ends.length = 1 := by simpa using congrArg List.length one
      omega
    · have count : ends.length = 2 := by simpa using congrArg List.length two
      omega
  refine ⟨made ++ ends, joined, between.2, fun call found site => ?_, ⟨made, ends, rfl, ?_, ?_, .inr sites⟩, ?_⟩
  · rcases List.mem_append.mp found with early | final
    · exact (fine call early).2.2 site
    · have gate := (allowed call final).2.1
      rw [site] at gate
      cases gate
  · exact fun call found => (fine call found).2.1
  · exact fun call found => (allowed call found).2.2
  · have few := lateness_append logged
    have bound : (late ends).length ≤ ends.length := List.length_filter_le _ _
    have split : late (made ++ ends) = late made ++ late ends := List.filter_append ..
    rw [split, List.length_append]
    omega

theorem wp_loopTurn (fuel : ℕ) (advance : Advance Pumping world now) (prompt : now.lateness ≤ world.lateness + 3) :
    wp (loopTurn parts fuel ()) (fun ended after => match ended with
      | .ok (.yield _) => Advance Pumping world after ∧ after.lateness ≤ world.lateness + 3
      | _ => Looped world after) now := by
  unfold loopTurn
  rw [wp_get_bind, wp_ite]
  split
  · exact looped_of_pumping advance (by omega)
  · rw [wp_bind]
    refine wp_mono (wp_step fuel) fun ended after outcome => ?_
    rcases outcome with ⟨early, pumped, bound⟩ | ⟨gated, terminal⟩
    · have further : Advance Pumping world after := IsTrans.trans _ _ _ advance pumped
      have start := advance.early early
      cases ended with
      | error e => exact looped_of_pumping further (by omega)
      | ok outcome =>
        dsimp only
        rw [wp_ite]
        split
        · exact looped_of_pumping further (by omega)
        · have pausing : Costs World.lateness 1 (pause parts outcome) := by
            unfold pause
            exact .branch (costs_call _ _) ((costs_pure _).mono (Nat.zero_le _))
          rw [wp_bind]
          refine wp_mono (wp_and (advance_pause outcome after) (pausing after)) fun paused left both => ?_
          have onward : Advance Pumping world left := IsTrans.trans _ _ _ further both.1
          have few := both.2
          cases paused with
          | error e => exact looped_of_pumping onward (by omega)
          | ok done => exact ⟨onward, by omega⟩
    · cases ended with
      | error e => exact looped_of_gated advance prompt gated
      | ok outcome =>
        dsimp only
        rw [if_pos (terminal outcome rfl)]
        exact looped_of_gated advance prompt gated

/-- What the main loop does to a run. -/
theorem wp_runLoop (fuel : ℕ) : wp (runLoop parts fuel) (fun _ after => Looped world after) world := by
  have start : Advance Pumping world (world.mapEngine parts.clearInFlight) :=
    ⟨rfl, le_rfl, [], (List.append_nil _).symm, by simp, by simp [Between]⟩
  have turns : wp (loop (loopTurn parts fuel) fuel ()) (fun _ after => Looped world after)
      (world.mapEngine parts.clearInFlight) := by
    refine wp_loop (fun _ now => Advance Pumping world now ∧ now.lateness ≤ world.lateness + 3)
      (fun _ now inv => ?_) fuel ⟨start, Nat.le_add_right _ _⟩
    refine wp_mono (wp_loopTurn fuel inv.1 inv.2) fun ended after outcome => ?_
    rcases ended with e | ⟨last | next⟩ <;> exact outcome
  unfold runLoop
  rw [wp_modify_bind, wp_bind]
  refine wp_mono turns fun ended after looped => ?_
  cases ended with
  | error e => exact looped
  | ok done =>
    obtain ⟨⟨frame, forward, calls⟩, stopping⟩ := looped
    exact ⟨⟨frame, forward, calls⟩, stopping⟩

end Rounds

end Tasklite.Engine.Execute
