import Tasklite.Engine.Execute

/-! What a run raises. Each of its calls lets escape what it raises, but for the hooks and
the saving of the suspensions, of which exceptions go no further, the killing of workers
after a crash, of which nothing does, and the signal traps. A run raises the last that
has escaped and returns a summary exactly when nothing has. -/

namespace Tasklite.Engine.Execute
open Tasklite.Library Tasklite.Library.Program Tasklite.Models

/-- What a call lets escape. -/
def Call.escapes (call : Call) : Option Raised :=
  match call.site with
  | .runStart | .runEnd _ | .persist => call.raised.filter fun e => !e.isException
  | .installSignal _ => call.raised.filter fun e => !e.isUntrapped
  | .abortCleanup => none
  | _ => call.raised

section Parts

variable {W α : Type} {parts : Parts W}

@[simp]
theorem wp_call {site : Site} {part : Part W α} {post : Except Raised α → World W → Prop} {world : World W} :
    wp (call site part) post world ↔
      post (part world).1 (world.called site (raisedBy (part world).1) (part world).2) := by
  unfold call
  simp only [wp_bind, wp_get]
  rcases part world with ⟨e | a, effect⟩ <;> simp [raisedBy]

/-- The whole of what it raises escapes from a call. -/
def Open (site : Site) : Prop := ∀ mode raised, (Call.mk site mode raised).escapes = raised

theorem tells_call {site : Site} {part : Part W α} (whole : Open site) :
    Tells World.calls Call.escapes (call site part) := by
  intro world
  rw [wp_call]
  refine ⟨_, rfl, ?_⟩
  rw [lastEscape, List.filterMap_cons, whole]
  cases raisedBy (part world).1 <;> rfl

/-- A call of which some exceptions are caught right where it is made. -/
theorem tells_caught {site : Site} {part : Part W Unit} {caught : Raised → Bool}
    {handler : Raised → Program Raised (World W) Unit}
    (partly : ∀ mode raised, (Call.mk site mode raised).escapes = raised.filter fun e => !caught e)
    (passes : ∀ e, caught e = false → handler e = throw e)
    (stops : ∀ e, caught e = true → ∃ change : World W → World W, (∀ world, (change world).calls = world.calls) ∧
      handler e = modify change) :
    Tells World.calls Call.escapes (tryCatch (call site part) handler) := by
  intro world
  rw [wp_tryCatch, wp_call]
  rcases part world with ⟨e | a, effect⟩
  · cases known : caught e with
    | false =>
      dsimp only
      rw [passes e known]
      refine ⟨_, rfl, ?_⟩
      simp [raisedBy, lastEscape, partly, known, Option.filter]
    | true =>
      obtain ⟨change, quiet, same⟩ := stops e known
      dsimp only
      rw [same]
      refine ⟨_, quiet _, ?_⟩
      simp [raisedBy, lastEscape, partly, known]
  · refine ⟨_, rfl, ?_⟩
    simp [raisedBy, lastEscape, partly]

theorem tells_callHook {site : Site} {hook : Part W Unit}
    (hooks : ∀ mode raised, (Call.mk site mode raised).escapes = raised.filter fun e => !e.isException) :
    Tells World.calls Call.escapes (callHook site hook) := by
  refine tells_caught hooks (fun e known => ?_) fun e known => ?_
  · simp [known]
  · exact ⟨fun world => world.mapSession fun session => session.recordStat .hookErrors, fun _ => rfl, if_pos known⟩

theorem tells_fireRunStart : Tells World.calls Call.escapes (fireRunStart parts) := by
  unfold fireRunStart
  split
  · exact tells_pure ()
  · exact tells_callHook fun _ _ => rfl

theorem tells_fireRunEnd (reason : ExitReason) : Tells World.calls Call.escapes (fireRunEnd parts reason) := by
  unfold fireRunEnd
  refine tells_get.bind fun world => .branch (tells_pure _) ?_
  refine .bind (tells_modify fun _ => by rfl) fun _ => ?_
  split
  · exact tells_pure ()
  · exact tells_callHook fun _ _ => rfl

theorem tells_skipAgain : Tells World.calls Call.escapes (skipAgain parts) :=
  tells_get.bind fun _ => .branch (tells_call fun _ _ => rfl) (tells_pure _)

theorem tells_fillTurn (limit : ℕ) (filled : Filled) :
    Tells World.calls Call.escapes (fillTurn parts limit filled) := by
  unfold fillTurn
  refine tells_get.bind fun world => .branch ?_ (tells_pure _)
  refine (tells_call fun _ _ => rfl).bind fun outcome => ?_
  dsimp only
  split
  · exact tells_pure _
  · exact tells_skipAgain.bind fun _ => tells_pure _
  · exact tells_pure _
  · exact tells_pure _

theorem tells_fillDispatchPool (limit fuel : ℕ) (draining : Bool) :
    Tells World.calls Call.escapes (fillDispatchPool parts limit fuel draining) :=
  .branch (tells_pure _) (tells_loop (tells_fillTurn limit) fuel _)

theorem tells_convergeSkips : Tells World.calls Call.escapes (convergeSkips parts) := by
  refine tells_get.bind fun _ => .branch ?_ (tells_pure _)
  exact .bind (tells_modify fun _ => by rfl) fun _ => tells_call fun _ _ => rfl

theorem tells_recordProgress (dispatched : ℕ) : Tells World.calls Call.escapes (recordProgress parts dispatched) := by
  unfold recordProgress
  exact .branch (tells_modify fun _ => rfl) (tells_pure _)

theorem tells_markSkipDirty (settled : ℕ) :
    Tells World.calls Call.escapes (markSkipDirty settled : Program Raised (World W) Unit) := by
  unfold markSkipDirty
  exact .branch (tells_modify fun _ => rfl) (tells_pure _)

theorem tells_drainAndSettle : Tells World.calls Call.escapes (drainAndSettle parts) :=
  tells_get.bind fun _ => .branch (tells_call fun _ _ => rfl) (tells_pure _)

theorem tells_phases (fuel : ℕ) (draining : Bool) : Tells World.calls Call.escapes (phases parts fuel draining) := by
  refine (tells_fillDispatchPool _ fuel draining).bind fun filled => ?_
  refine (tells_recordProgress _).bind fun _ => ?_
  refine (tells_call fun _ _ => rfl).bind fun arbitration => ?_
  refine tells_drainAndSettle.bind fun settled => ?_
  refine (tells_markSkipDirty settled).bind fun _ => ?_
  exact tells_get.bind fun _ => tells_pure _

theorem tells_pump (fuel : ℕ) (draining : Bool) : Tells World.calls Call.escapes (pump parts fuel draining) :=
  tells_convergeSkips.bind fun _ => tells_get.bind fun _ => .branch (tells_pure _) (tells_phases fuel draining)

theorem tells_step (fuel : ℕ) : Tells World.calls Call.escapes (step parts fuel) := by
  refine tells_get.bind fun world => ?_
  split
  · exact tells_pump fuel false
  · exact .bind (.finally (tells_call fun _ _ => rfl) (tells_call fun _ _ => rfl)) fun _ => tells_pure _
  · exact .branch (tells_pump fuel true) ((tells_call fun _ _ => rfl).bind fun _ => tells_pure _)

theorem tells_loopTurn (fuel : ℕ) : Tells World.calls Call.escapes (loopTurn parts fuel ()) := by
  refine tells_get.bind fun _ => .branch (tells_pure _) ((tells_step fuel).bind fun outcome => ?_)
  refine .branch (tells_pure _) (.bind ?_ fun _ => tells_pure _)
  exact .branch (tells_call fun _ _ => rfl) (tells_pure _)

theorem tells_runLoop (fuel : ℕ) : Tells World.calls Call.escapes (runLoop parts fuel) := by
  refine .bind (tells_modify fun _ => by rfl) fun _ => ?_
  exact .bind (tells_loop (fun _ => tells_loopTurn fuel) fuel ()) fun _ => tells_modify fun _ => by rfl

/-- After a crash only the saving of the queue can let something escape. -/
theorem tells_cleanUp : Tells World.calls Call.escapes (cleanUp parts) := by
  have swallowed : Tells World.calls Call.escapes
      (tryCatch (call .abortCleanup parts.abortInFlight) fun _ => pure ()) := by
    intro world
    rw [wp_tryCatch, wp_call]
    rcases parts.abortInFlight world with ⟨e | a, effect⟩
    · exact ⟨_, rfl, rfl⟩
    · exact ⟨_, rfl, rfl⟩
  exact swallowed.finally (tells_call fun _ _ => rfl)

theorem tells_guardedLoop (fuel : ℕ) : Tells World.calls Call.escapes (guardedLoop parts fuel) := by
  refine .catching (.bind (tells_runLoop fuel) fun _ => tells_modify fun _ => by rfl) fun e => ?_
  refine .after (tells_modify fun _ => by rfl) fun _ => Passes.after tells_cleanUp fun _ => ?_
  exact passes_throw e

theorem tells_persistSuspensions : Tells World.calls Call.escapes (persistSuspensions parts) := by
  refine tells_caught (fun _ _ => by rfl) (fun e known => ?_) fun e known => ?_
  · simp [known]
  · exact ⟨id, fun _ => rfl, by rw [if_pos known]; rfl⟩

theorem tells_runBody (fuel : ℕ) : Tells World.calls Call.escapes (runBody parts fuel) := by
  have prepared : Tells World.calls Call.escapes (prepareRunState parts) := by
    refine .bind (tells_modify fun _ => by rfl) fun _ => .bind (tells_modify fun _ => by rfl) fun _ => ?_
    exact (tells_call fun _ _ => rfl).bind fun _ => tells_call fun _ _ => rfl
  refine prepared.bind fun _ => .bind (tells_modify fun _ => by rfl) fun _ => ?_
  refine .bind (tells_modify fun _ => by rfl) fun _ => (tells_guardedLoop fuel).finally ?_
  exact tells_persistSuspensions.bind fun _ => tells_get.bind fun world => tells_fireRunEnd _

theorem tells_preflight : Tells World.calls Call.escapes (preflightPicklableHandlers parts) := by
  have handler (pickle : Part W Unit) : Tells World.calls Call.escapes (preflightHandler pickle) := by
    refine .catching (tells_call fun _ _ => rfl) fun e => ?_
    split
    · intro world
      rw [raising, wp_call]
      exact ⟨_, rfl, rfl⟩
    · exact passes_throw e
  refine .branch ?_ (tells_pure _)
  induction parts.pickles with
  | nil => exact tells_pure _
  | cons pickle rest ih => exact (handler pickle).bind fun _ => ih

theorem tells_acquireRunLock : Tells World.calls Call.escapes (acquireRunLock parts) := by
  refine (tells_call fun _ _ => rfl).bind fun fd => .bind (tells_modify fun _ => by rfl) fun _ => ?_
  exact .branch (tells_call fun _ _ => rfl) (tells_pure _)

theorem tells_installSignal (number : SignalNumber) (keep : Option Handler → Locals → Locals) :
    Tells World.calls Call.escapes (installSignal parts number keep) := by
  unfold installSignal trapSignal
  split
  · refine tells_caught (fun _ _ => by rfl) (fun e known => ?_) fun e known => ?_
    · simp [known]
    · exact ⟨id, fun _ => rfl, by rw [if_pos known]; rfl⟩
  · exact fun world => ⟨[], by simp [World.install, World.mapLocals], rfl⟩

theorem tells_arm (options : ExecutionOptions) : Tells World.calls Call.escapes (arm parts options) := by
  have locking : Tells World.calls Call.escapes (armLock parts options) :=
    .branch tells_acquireRunLock (tells_pure _)
  refine locking.bind fun _ => .branch ?_ (tells_pure _)
  exact (tells_installSignal _ _).bind fun _ => tells_installSignal _ _

theorem tells_mainBody (fuel : ℕ) : Tells World.calls Call.escapes (mainBody parts fuel) := by
  refine tells_preflight.bind fun _ => .bind (tells_modify fun _ => by rfl) fun _ => ?_
  refine .bind (tells_modify fun _ => by rfl) fun _ => tells_fireRunStart.bind fun _ => ?_
  exact (tells_runBody fuel).bind fun _ => tells_modify fun _ => by rfl

theorem tells_guardedBody (fuel : ℕ) : Tells World.calls Call.escapes (guardedBody parts fuel) :=
  .catching (tells_mainBody fuel) fun e => .after (tells_modify fun _ => by rfl) fun _ => passes_throw e

theorem tells_releaseRunLock : Tells World.calls Call.escapes (releaseRunLock : Program Raised (World W) Unit) := by
  refine tells_modify fun world => ?_
  unfold World.releaseLock
  split <;> rfl

theorem calls_reinstall (world : World W) (number : SignalNumber) (old : Option Handler) :
    (world.reinstall number old).calls = world.calls := by
  cases old <;> rfl

theorem tells_restoreHandlers :
    Tells World.calls Call.escapes (restoreHandlers : Program Raised (World W) Unit) :=
  tells_modify fun world => by rw [calls_reinstall, calls_reinstall]

theorem tells_endSession : Tells World.calls Call.escapes (endSession parts) :=
  tells_get.bind fun _ => .branch (tells_fireRunEnd _) (tells_pure _)

theorem tells_lifeCycle (fuel : ℕ) (options : ExecutionOptions) :
    Tells World.calls Call.escapes (lifeCycle parts fuel options) := by
  refine .bind (tells_modify fun _ => by rfl) fun _ => .bind (.catching (tells_arm options) fun e => ?_) fun _ => ?_
  · refine Passes.after tells_restoreHandlers fun _ => .after tells_releaseRunLock fun _ => ?_
    exact .after (tells_modify fun _ => by rfl) fun _ => passes_throw e
  · refine .bind (.finally (tells_guardedBody fuel) ?_) fun _ => tells_get.bind fun _ => tells_pure _
    refine tells_endSession.bind fun _ => tells_releaseRunLock.bind fun _ => ?_
    exact .bind (tells_modify fun _ => by rfl) fun _ => tells_restoreHandlers

end Parts

end Tasklite.Engine.Execute
