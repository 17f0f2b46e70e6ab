import Tasklite.Engine.Signals

/-! Who a pending signal belongs to. A signal waits in the shared list only while a
handle of its job is registered; when a handle is closed its signals have been taken
out before. -/

namespace Tasklite.Engine.Ownership
open Tasklite.Library Tasklite.Models Tasklite.Engine.Channel Tasklite.Engine.Slots
open Tasklite.Engine.Aborting Tasklite.Engine.Signals

variable {δ : Type} {services : ChannelServices δ} {channel before after : Channel δ}
  {feed : JobHandle → Feed} {handle : JobHandle} {handles : List JobHandle}

/-- The execution id names the handle: no other registered handle has it. -/
def Genuine (channel : Channel δ) (handle : JobHandle) : Prop :=
  ∀ registered ∈ channel.handles, registered.executionId = handle.executionId → registered = handle

/-- Pipes are open for registered executions only, and pending signals come from registered jobs. -/
structure Housed (channel : Channel δ) : Prop where
  opened : ∀ executionId, (channel.receivers executionId).isSome →
    ∃ registered ∈ channel.handles, registered.executionId = executionId
  owned : ∀ signal ∈ channel.pendingSignals,
    ∃ registered ∈ channel.handles, registered.jobUid = signal.jobUid

/-- A step keeps the house in order and registers nobody. -/
def Keeps (before after : Channel δ) : Prop :=
  after.handles ⊆ before.handles ∧ (Housed before → Housed after)

theorem Keeps.refl (channel : Channel δ) : Keeps channel channel := ⟨List.Subset.refl _, id⟩

theorem Keeps.trans {first second third : Channel δ} (left : Keeps first second) (right : Keeps second third) :
    Keeps first third :=
  ⟨List.Subset.trans right.1 left.1, fun housed => right.2 (left.2 housed)⟩

theorem Keeps.genuine (keeps : Keeps before after) (genuine : Genuine before handle) :
    Genuine after handle :=
  fun registered member => genuine registered (keeps.1 member)

theorem processItems_frame (items : List PipeItem) :
    (processItems services channel handle items).handles = channel.handles ∧
      ∀ signal ∈ (processItems services channel handle items).pendingSignals,
        signal ∈ channel.pendingSignals ∨ signal.jobUid = handle.jobUid := by
  induction items generalizing channel with
  | nil => exact ⟨rfl, fun _ member => Or.inl member⟩
  | cons item rest ih =>
    obtain ⟨same, origin⟩ := @ih (processPipeItem services channel handle item)
    refine ⟨same.trans ?_, fun signal member => ?_⟩
    · unfold processPipeItem
      split
      · rename_i after done
        rcases acceptMessage_cases done with ⟨declared, rfl⟩ | ⟨paths, rfl⟩ |
          ⟨payload, name, seconds, -, -, rfl⟩ | ⟨payload, rfl⟩ | rfl
        all_goals rfl
      · rfl
    · rcases origin signal member with old | own
      · rcases @processPipeItem_signals _ services channel handle item with
          ⟨pending, -⟩ | ⟨payload, new, -, -, owner, pending, -⟩
        · exact Or.inl (pending ▸ old)
        · rw [pending, List.mem_append, List.mem_singleton] at old
          rcases old with older | rfl
          · exact Or.inl older
          · exact Or.inr owner
      · exact Or.inr own

/-- Reading the items of a genuine handle whose pipe is open. -/
theorem keeps_read {items rest : List PipeItem} (genuine : Genuine channel handle)
    (open_ : (channel.receivers handle.executionId).isSome) :
    Keeps channel (processItems services { channel with
      receivers := Function.update channel.receivers handle.executionId (some rest) } handle items) := by
  obtain ⟨same, origin⟩ := @processItems_frame _ services
    { channel with receivers := Function.update channel.receivers handle.executionId (some rest) } handle items
  refine ⟨fun registered member => by rwa [same] at member, fun housed => ⟨?_, ?_⟩⟩
  · intro executionId some
    rw [receivers_processItems] at some
    rw [same]
    by_cases mine : executionId = handle.executionId
    · subst mine
      exact housed.opened _ open_
    · exact housed.opened executionId (by simpa [Function.update_of_ne mine] using some)
  · intro signal member
    rw [same]
    rcases origin signal member with old | own
    · exact housed.owned signal old
    · obtain ⟨registered, present, identity⟩ := housed.opened _ open_
      exact ⟨registered, present, (genuine registered present identity).symm ▸ own.symm⟩

theorem keeps_receiveAvailable (genuine : Genuine channel handle) (available : ℕ) :
    Keeps channel (receiveAvailable services channel handle available) := by
  unfold receiveAvailable
  split
  · exact Keeps.refl channel
  · rename_i items unread
    exact keeps_read genuine (by simp [unread])

theorem keeps_drainFinished (genuine : Genuine channel handle) :
    Keeps channel (drainFinished services channel handle) := by
  unfold drainFinished
  split
  · exact Keeps.refl channel
  · rename_i items unread
    exact keeps_read genuine (by simp [unread])

theorem keeps_salvageSignals (jobUid : String) : Keeps channel (salvageSignals channel jobUid).1 :=
  ⟨List.Subset.refl _, fun housed =>
    ⟨housed.opened, fun signal member => housed.owned signal (List.mem_filter.mp member).1⟩⟩

theorem keeps_clearError : Keeps channel (clearError channel handle) :=
  ⟨List.Subset.refl _, fun housed => ⟨housed.opened, housed.owned⟩⟩

/-- A handle may be closed when none of its job's signals is pending. -/
theorem keeps_closeHandle (genuine : Genuine channel handle)
    (none : ∀ signal ∈ channel.pendingSignals, signal.jobUid ≠ handle.jobUid) :
    Keeps channel (closeHandle channel handle) := by
  refine ⟨fun registered member => (List.mem_filter.mp member).1, fun housed => ⟨?_, ?_⟩⟩
  · intro executionId some
    by_cases mine : executionId = handle.executionId
    · simp [closeHandle, mine] at some
    · obtain ⟨registered, present, identity⟩ := housed.opened executionId
        (by simpa [closeHandle, Function.update_of_ne mine] using some)
      exact ⟨registered, List.mem_filter.mpr ⟨present, by simpa [identity] using mine⟩, identity⟩
  · intro signal member
    obtain ⟨registered, present, owner⟩ := housed.owned signal member
    refine ⟨registered, List.mem_filter.mpr ⟨present, ?_⟩, owner⟩
    simp only [ne_eq, decide_not, Bool.not_eq_eq_eq_not, Bool.not_true, decide_eq_false_iff_not]
    intro mine
    exact none signal member (owner.symm.trans (congrArg JobHandle.jobUid (genuine registered present mine)))

theorem keeps_salvage_close (genuine : Genuine channel handle) :
    Keeps channel (closeHandle (salvageSignals channel handle.jobUid).1 handle) := by
  refine (keeps_salvageSignals handle.jobUid).trans (keeps_closeHandle genuine ?_)
  intro signal member
  simpa using (List.mem_filter.mp member).2

theorem keeps_collectOutcome (genuine : Genuine channel handle) (isTimeout : Bool) :
    Keeps channel (collectOutcome services channel handle isTimeout).1 := by
  have drained := (@keeps_drainFinished _ services _ _ genuine).trans
    (@keeps_clearError _ _ handle)
  exact drained.trans (keeps_salvage_close (drained.genuine genuine))

theorem keeps_reapHandle (genuine : Genuine channel handle) (feed : Feed) :
    Keeps channel (reapHandle services channel handle feed).1 := by
  have received := @keeps_receiveAvailable _ services _ _ genuine feed.available
  unfold reapHandle
  dsimp only
  split
  · exact received
  · rename_i isTimeout _
    exact received.trans (keeps_collectOutcome (received.genuine genuine) isTimeout)

theorem keeps_reapCompleted (genuine : ∀ handle ∈ handles, Genuine channel handle)
    (completed : List Collected) :
    Keeps channel (reapCompleted services feed handles channel completed).1 := by
  induction handles generalizing channel completed with
  | nil => exact Keeps.refl channel
  | cons first rest ih =>
    have once := @keeps_reapHandle _ services _ _ (genuine first List.mem_cons_self) (feed first)
    have later : ∀ handle ∈ rest, Genuine (reapHandle services channel first (feed first)).1 handle :=
      fun handle member => once.genuine (genuine handle (List.mem_cons_of_mem _ member))
    rw [reapCompleted]
    rcases step : reapHandle services channel first (feed first) with ⟨after, verdict⟩
    rw [step] at once later
    cases verdict with
    | running => exact once.trans (ih later completed)
    | collected outcome => exact once.trans (ih later _)
    | raised text => exact once

theorem keeps_drainActiveSignals (genuine : ∀ handle ∈ channel.handles, Genuine channel handle)
    (uids : List String) : Keeps channel (drainActiveSignals services channel feed uids).1 := by
  have received : ∀ (registered : List JobHandle) (channel : Channel δ),
      (∀ handle ∈ registered, Genuine channel handle) → Keeps channel (registered.foldl
        (fun channel handle => receiveAvailable services channel handle (feed handle).available) channel) := by
    intro registered
    induction registered with
    | nil => exact fun channel _ => Keeps.refl channel
    | cons first rest ih =>
      intro channel genuine
      have once := @keeps_receiveAvailable _ services _ _ (genuine first List.mem_cons_self)
        (feed first).available
      exact once.trans (ih _ fun handle member => once.genuine (genuine handle (List.mem_cons_of_mem _ member)))
  have all := received (channel.handles.filter fun handle => handle.jobUid ∈ uids) channel
    fun handle member => genuine handle (List.mem_filter.mp member).1
  refine ⟨all.1, fun housed => ?_⟩
  have kept := all.2 housed
  exact ⟨kept.opened, fun signal member => kept.owned signal (List.mem_filter.mp member).1⟩

theorem keeps_consumeResultIfPresent : Keeps channel (consumeResultIfPresent services channel handle).1 := by
  unfold consumeResultIfPresent
  split
  · exact Keeps.refl channel
  · split
    · exact ⟨List.Subset.refl _, fun housed => ⟨housed.opened, housed.owned⟩⟩
    · exact ⟨List.Subset.refl _, fun housed =>
        ⟨housed.opened, fun signal member => housed.owned signal (List.mem_filter.mp member).1⟩⟩

theorem keeps_look (genuine : Genuine channel handle) : Keeps channel (look services feed channel handle).1 :=
  (keeps_receiveAvailable genuine _).trans keeps_consumeResultIfPresent

theorem keeps_classify (genuine : ∀ handle ∈ handles, Genuine channel handle) (done : List Collected)
    (waiting : List JobHandle) : Keeps channel (classify services feed handles channel done waiting).1 := by
  induction handles generalizing channel done waiting with
  | nil => exact Keeps.refl channel
  | cons first rest ih =>
    have once := @keeps_look _ services _ feed _ (genuine first List.mem_cons_self)
    have later : ∀ handle ∈ rest, Genuine (look services feed channel first).1 handle :=
      fun handle member => once.genuine (genuine handle (List.mem_cons_of_mem _ member))
    rw [classify_cons]
    rcases step : look services feed channel first with ⟨after, answer⟩
    rw [step] at once later
    cases answer with
    | error text => exact once
    | ok found =>
      cases found with
      | none => exact once.trans (ih later _ _)
      | some outcome => exact once.trans (ih later _ _)

theorem keeps_closeDone {done : List Collected} (genuine : ∀ outcome ∈ done, Genuine channel outcome.handle) :
    Keeps channel (closeDone services done channel).1 := by
  induction done generalizing channel with
  | nil => exact Keeps.refl channel
  | cons outcome rest ih =>
    have drained := @keeps_drainFinished _ services _ _ (genuine outcome List.mem_cons_self)
    have once := drained.trans ((keeps_salvage_close (drained.genuine (genuine outcome List.mem_cons_self))).trans
      (@keeps_clearError _ _ outcome.handle))
    exact once.trans (ih fun other member => once.genuine (genuine other (List.mem_cons_of_mem _ member)))

theorem keeps_settleWaiting (genuine : ∀ handle ∈ handles, Genuine channel handle) (outcome : AbortOutcome) :
    Keeps channel (settleWaiting services handles channel outcome).1 := by
  induction handles generalizing channel outcome with
  | nil => exact Keeps.refl channel
  | cons first rest ih =>
    have mine := genuine first List.mem_cons_self
    have drained := @keeps_drainFinished _ services _ _ mine
    have consumed := drained.trans (@keeps_consumeResultIfPresent _ services _ first)
    rw [settleWaiting]
    rcases step : consumeResultIfPresent services (drainFinished services channel first) first with
      ⟨after, answer⟩
    rw [step] at consumed
    have later : ∀ {next : Channel δ}, Keeps channel next → ∀ handle ∈ rest, Genuine next handle :=
      fun keeps handle member => keeps.genuine (genuine handle (List.mem_cons_of_mem _ member))
    cases answer with
    | error text => exact consumed
    | ok found =>
      cases found with
      | some collected =>
        -- a consumed result has taken the signals of its job with it
        have emptied : ∀ signal ∈ after.pendingSignals, signal.jobUid ≠ first.jobUid := by
          unfold consumeResultIfPresent at step
          split at step
          · simp at step
          · dsimp only at step
            split at step
            · simp at step
            · simp only [salvageSignals, Prod.mk.injEq] at step
              rw [← step.1]
              intro signal member
              simpa using (List.mem_filter.mp member).2
        have once := consumed.trans ((keeps_closeHandle (consumed.genuine mine) emptied).trans
          (@keeps_clearError _ _ first))
        exact once.trans (ih (later once) _)
      | none =>
        have once := consumed.trans ((keeps_salvage_close (consumed.genuine mine)).trans
          (@keeps_clearError _ _ first))
        exact once.trans (ih (later once) _)

end Tasklite.Engine.Ownership
