import Tasklite.Library.Machine
import Tasklite.Engine.Aborting

/-! Where accepted suspend signals go. Every operation of the channel is balanced: what
it accepts is pending afterwards, or part of what it salvages. What a call salvages is
handed out when the call returns; when it raises, the salvaged signals are lost. -/

namespace Tasklite.Engine.Signals
open Tasklite.Library Tasklite.Models Tasklite.Engine.Channel Tasklite.Engine.Slots
open Tasklite.Engine.Reaping Tasklite.Engine.Aborting

variable {δ : Type} {services : ChannelServices δ} {channel before after : Channel δ}
  {feed : JobHandle → Feed} {handle neighbour : JobHandle} {handles : List JobHandle}

section Balance

/-- Between two states of the channel, `out` has been taken out of the shared list. -/
def Balanced (before after : Channel δ) (out : List SuspendSignal) : Prop :=
  ∀ signal, after.accepted.count signal + before.pendingSignals.count signal =
    before.accepted.count signal + out.count signal + after.pendingSignals.count signal

theorem Balanced.refl (channel : Channel δ) : Balanced channel channel [] := fun signal => by simp

theorem Balanced.trans {first second third : Channel δ} {left right : List SuspendSignal}
    (early : Balanced first second left) (late : Balanced second third right) :
    Balanced first third (left ++ right) := by
  intro signal
  have one := early signal
  have two := late signal
  rw [List.count_append]
  omega

/-- What an item can do to the signals: one is accepted from its job, or nothing happens. -/
theorem processPipeItem_signals (item : PipeItem) :
    ((processPipeItem services channel handle item).pendingSignals = channel.pendingSignals ∧
        (processPipeItem services channel handle item).accepted = channel.accepted) ∨
      ∃ payload signal, item = .suspend payload ∧ (suspendPayload payload).isSome ∧
        signal.jobUid = handle.jobUid ∧
        (processPipeItem services channel handle item).pendingSignals = channel.pendingSignals ++ [signal] ∧
        (processPipeItem services channel handle item).accepted = channel.accepted ++ [signal] := by
  unfold processPipeItem
  split
  · rename_i after done
    rcases acceptMessage_cases done with ⟨declared, rfl⟩ | ⟨paths, rfl⟩ |
      ⟨payload, name, seconds, same, found, rfl⟩ | ⟨payload, rfl⟩ | rfl
    · exact Or.inl ⟨rfl, rfl⟩
    · exact Or.inl ⟨rfl, rfl⟩
    · exact Or.inr ⟨payload, ⟨handle.jobUid, name, seconds⟩, same, by simp [found], rfl, rfl, rfl⟩
    · exact Or.inl ⟨rfl, rfl⟩
    · exact Or.inl ⟨rfl, rfl⟩
  · exact Or.inl ⟨rfl, rfl⟩

theorem balanced_processItems (items : List PipeItem) :
    Balanced channel (processItems services channel handle items) [] := by
  induction items generalizing channel with
  | nil => exact Balanced.refl channel
  | cons item rest ih =>
    have first : Balanced channel (processPipeItem services channel handle item) [] := by
      intro signal
      rcases @processPipeItem_signals _ services channel handle item with
        ⟨pending, accepted⟩ | ⟨payload, new, -, -, -, pending, accepted⟩
      · rw [pending, accepted]
        simp
      · rw [pending, accepted]
        simp only [List.count_append, List.count_nil]
        omega
    exact first.trans ih

theorem balanced_receiveAvailable (available : ℕ) :
    Balanced channel (receiveAvailable services channel handle available) [] := by
  unfold receiveAvailable
  split
  · exact Balanced.refl channel
  · intro signal
    exact @balanced_processItems _ services _ handle _ signal

theorem balanced_drainFinished : Balanced channel (drainFinished services channel handle) [] := by
  unfold drainFinished
  split
  · exact Balanced.refl channel
  · intro signal
    exact @balanced_processItems _ services _ handle _ signal

/-- A list is its part for which a test holds and its part for which it does not. -/
theorem count_partition (test : SuspendSignal → Bool) (signals : List SuspendSignal) (signal : SuspendSignal) :
    (signals.filter test).count signal + (signals.filter (fun other => !test other)).count signal =
      signals.count signal := by
  induction signals with
  | nil => rfl
  | cons first rest ih =>
    cases holds : test first with
    | true =>
      simp only [List.filter_cons, holds, Bool.not_true, Bool.false_eq_true, if_true, if_false,
        List.count_cons]
      omega
    | false =>
      simp only [List.filter_cons, holds, Bool.not_false, Bool.false_eq_true, if_true, if_false,
        List.count_cons]
      omega

theorem balanced_salvageSignals (jobUid : String) :
    Balanced channel (salvageSignals channel jobUid).1 (salvageSignals channel jobUid).2 := by
  intro signal
  have parts := count_partition (fun other => other.jobUid = jobUid) channel.pendingSignals signal
  simp only [salvageSignals, undrained, ne_eq, decide_not] at parts ⊢
  omega

theorem balanced_collectOutcome (isTimeout : Bool) :
    Balanced channel (collectOutcome services channel handle isTimeout).1
      ((drainFinished services channel handle).undrained handle.jobUid) := by
  have salvaged := @balanced_drainFinished _ services channel handle
  have taken := @balanced_salvageSignals _ (clearError (drainFinished services channel handle) handle)
    handle.jobUid
  intro signal
  exact (salvaged.trans taken) signal

theorem collectOutcome_salvaged {isTimeout : Bool} {collected : Collected}
    (done : (collectOutcome services channel handle isTimeout).2 = .ok collected) :
    collected.salvaged = (drainFinished services channel handle).undrained handle.jobUid := by
  unfold collectOutcome at done
  dsimp only at done
  cases outcome : decodeOutcome services (drainFinished services channel handle) handle isTimeout with
  | error text => simp [outcome, Except.map] at done
  | ok decoded =>
    simp only [outcome, Except.map, Except.ok.injEq] at done
    rw [← done]
    rfl

end Balance

section Mute

/-- No suspend signal of a handle is waiting, neither accepted nor on its way. -/
def Mute (channel : Channel δ) (handle : JobHandle) : Prop :=
  channel.undrained handle.jobUid = [] ∧
    ∀ items, channel.receivers handle.executionId = some items →
      ∀ payload, .suspend payload ∈ items → suspendPayload payload = none

/-- A step for one handle leaves the signals and the pipe of handles apart from it alone. -/
def Deaf (handle : JobHandle) (before after : Channel δ) : Prop :=
  ∀ neighbour, Apart neighbour handle →
    after.undrained neighbour.jobUid = before.undrained neighbour.jobUid ∧
      after.receivers neighbour.executionId = before.receivers neighbour.executionId

theorem Deaf.refl (handle : JobHandle) (channel : Channel δ) : Deaf handle channel channel :=
  fun _ _ => ⟨rfl, rfl⟩

theorem Deaf.trans {first second third : Channel δ} (left : Deaf handle first second)
    (right : Deaf handle second third) : Deaf handle first third :=
  fun neighbour apart => ⟨(right neighbour apart).1.trans (left neighbour apart).1,
    (right neighbour apart).2.trans (left neighbour apart).2⟩

theorem Deaf.mute_iff (deaf : Deaf handle before after) (apart : Apart neighbour handle) :
    Mute after neighbour ↔ Mute before neighbour := by
  unfold Mute
  rw [(deaf neighbour apart).1, (deaf neighbour apart).2]

theorem undrained_processItems_apart (different : neighbour.jobUid ≠ handle.jobUid) (items : List PipeItem) :
    (processItems services channel handle items).undrained neighbour.jobUid =
      channel.undrained neighbour.jobUid := by
  induction items generalizing channel with
  | nil => rfl
  | cons item rest ih =>
    refine (@ih (processPipeItem services channel handle item)).trans ?_
    unfold undrained
    rcases @processPipeItem_signals _ services channel handle item with
      ⟨pending, -⟩ | ⟨payload, new, -, -, owner, pending, -⟩
    · rw [pending]
    · rw [pending, List.filter_append]
      simp [owner, different.symm]

theorem deaf_receiveAvailable (available : ℕ) :
    Deaf handle channel (receiveAvailable services channel handle available) := by
  intro neighbour apart
  unfold receiveAvailable
  split
  · exact ⟨rfl, rfl⟩
  · rw [undrained_processItems_apart apart.2, receivers_processItems]
    exact ⟨rfl, Function.update_of_ne apart.1 _ _⟩

theorem deaf_drainFinished : Deaf handle channel (drainFinished services channel handle) := by
  intro neighbour apart
  unfold drainFinished
  split
  · exact ⟨rfl, rfl⟩
  · rw [undrained_processItems_apart apart.2, receivers_processItems]
    exact ⟨rfl, Function.update_of_ne apart.1 _ _⟩

theorem deaf_salvageSignals : Deaf handle channel (salvageSignals channel handle.jobUid).1 := by
  intro neighbour apart
  refine ⟨?_, rfl⟩
  simp only [undrained, salvageSignals, List.filter_filter]
  refine List.filter_congr fun signal _ => ?_
  by_cases mine : signal.jobUid = neighbour.jobUid <;> simp [mine, apart.2]

theorem deaf_closeHandle : Deaf handle channel (closeHandle channel handle) :=
  fun _ apart => ⟨rfl, Function.update_of_ne apart.1 _ _⟩

theorem deaf_clearError : Deaf handle channel (clearError channel handle) := fun _ _ => ⟨rfl, rfl⟩

theorem deaf_collectOutcome (isTimeout : Bool) :
    Deaf handle channel (collectOutcome services channel handle isTimeout).1 :=
  deaf_drainFinished.trans (deaf_clearError.trans (deaf_salvageSignals.trans deaf_closeHandle))

theorem deaf_reapHandle (feed : Feed) :
    Deaf handle channel (reapHandle services channel handle feed).1 := by
  unfold reapHandle
  dsimp only
  split
  · exact deaf_receiveAvailable _
  · rename_i isTimeout _
    exact (deaf_receiveAvailable _).trans (deaf_collectOutcome isTimeout)

theorem deaf_consumeResultIfPresent :
    Deaf handle channel (consumeResultIfPresent services channel handle).1 := by
  unfold consumeResultIfPresent
  split
  · exact Deaf.refl handle channel
  · split
    · exact fun _ _ => ⟨rfl, rfl⟩
    · intro neighbour apart
      exact ⟨(@deaf_salvageSignals _ channel _ neighbour apart).1, rfl⟩

/-- Reading a mute handle's items accepts no signal. -/
theorem undrained_processItems_mute (nothing : channel.undrained handle.jobUid = []) {items : List PipeItem}
    (silent : ∀ payload, .suspend payload ∈ items → suspendPayload payload = none) :
    (processItems services channel handle items).undrained handle.jobUid = [] := by
  induction items generalizing channel with
  | nil => exact nothing
  | cons item rest ih =>
    refine ih ?_ fun payload member => silent payload (List.mem_cons_of_mem _ member)
    rcases @processPipeItem_signals _ services channel handle item with
      ⟨pending, -⟩ | ⟨payload, new, rfl, valid, -⟩
    · unfold undrained
      rw [pending]
      exact nothing
    · rw [silent payload List.mem_cons_self] at valid
      cases valid

theorem mute_receiveAvailable (mute : Mute channel handle) (available : ℕ) :
    Mute (receiveAvailable services channel handle available) handle := by
  unfold receiveAvailable
  split
  · exact mute
  · rename_i items unread
    refine ⟨?_, ?_⟩
    · apply undrained_processItems_mute
      · exact mute.1
      · exact fun payload member => mute.2 items unread payload (List.mem_of_mem_take member)
    intro left same payload member
    rw [receivers_processItems] at same
    simp only [Function.update_self, Option.some.injEq] at same
    subst same
    exact mute.2 items unread payload (List.mem_of_mem_drop member)

theorem mute_drainFinished (mute : Mute channel handle) :
    Mute (drainFinished services channel handle) handle := by
  unfold drainFinished
  split
  · exact mute
  · rename_i items unread
    refine ⟨?_, ?_⟩
    · apply undrained_processItems_mute
      · exact mute.1
      · exact mute.2 items unread
    intro left same payload member
    rw [receivers_processItems] at same
    simp only [Function.update_self, Option.some.injEq] at same
    subst same
    cases member

end Mute

section Reap

/-- The signals merged into a list of results. -/
def salvagedIn (collected : List Collected) : List SuspendSignal := collected.flatMap Collected.salvaged

@[simp] theorem salvagedIn_nil : salvagedIn [] = [] := rfl

@[simp] theorem salvagedIn_append (left right : List Collected) :
    salvagedIn (left ++ right) = salvagedIn left ++ salvagedIn right := List.flatMap_append

@[simp] theorem salvagedIn_singleton (collected : Collected) : salvagedIn [collected] = collected.salvaged := by
  simp [salvagedIn]

theorem reapHandle_balanced (feed : Feed) :
    ∃ out, Balanced channel (reapHandle services channel handle feed).1 out ∧
      ((reapHandle services channel handle feed).2 = .running → out = []) ∧
      (∀ collected, (reapHandle services channel handle feed).2 = .collected collected →
        collected.salvaged = out) ∧
      (Mute channel handle → out = []) := by
  unfold reapHandle
  dsimp only
  have received := @balanced_receiveAvailable _ services channel handle
    feed.available
  split
  · exact ⟨[], received, fun _ => rfl, by simp, fun _ => rfl⟩
  · rename_i isTimeout _
    refine ⟨_, received.trans (balanced_collectOutcome isTimeout), ?_, ?_, fun mute => ?_⟩
    · cases (collectOutcome services _ handle isTimeout).2 <;> simp [Verdict.ofOutcome]
    · intro collected same
      cases done : (collectOutcome services (receiveAvailable services channel handle feed.available) handle
          isTimeout).2 with
      | error text => simp [done, Verdict.ofOutcome] at same
      | ok found =>
        simp only [done, Verdict.ofOutcome, Verdict.collected.injEq] at same
        subst same
        exact collectOutcome_salvaged done
    · exact (mute_drainFinished (mute_receiveAvailable mute _)).1

/-- The handle is due and its messages hold a protocol error or a result that cannot be decoded. -/
def Raises (services : ChannelServices δ) (channel : Channel δ) (feed : JobHandle → Feed)
    (handle : JobHandle) : Prop :=
  ∃ text, fate services channel handle (feed handle) = some (.error text)

/-- A call of `reap_completed` that raises finds no signal waiting at the handles it collects: not at
the handle it raises for, and not at the ones before it that are due. -/
def ReapSafe (services : ChannelServices δ) (channel : Channel δ) (feed : JobHandle → Feed) :
    List JobHandle → Prop
  | [] => True
  | first :: rest =>
      (Raises services channel feed first → Mute channel first) ∧
      (¬ Raises services channel feed first →
        ((∃ later ∈ rest, Raises services channel feed later) →
          fate services channel first (feed first) ≠ none → Mute channel first) ∧
        ReapSafe services channel feed rest)

theorem raises_congr (same : slot before handle = slot after handle) :
    Raises services before feed handle ↔ Raises services after feed handle := by
  unfold Raises
  rw [fate_congr same]

theorem reapSafe_congr {first : JobHandle} (apart : ∀ handle ∈ handles, Apart handle first)
    (moved : Local first before after) (deaf : Deaf first before after) :
    ReapSafe services after feed handles ↔ ReapSafe services before feed handles := by
  induction handles with
  | nil => rfl
  | cons head rest ih =>
    have behind := fun handle member => apart handle (List.mem_cons_of_mem _ member)
    have away := apart head List.mem_cons_self
    have others : (∃ later ∈ rest, Raises services after feed later) ↔
        ∃ later ∈ rest, Raises services before feed later :=
      exists_congr fun later => and_congr_right fun member => raises_congr (moved later (behind later member))
    rw [ReapSafe, ReapSafe, ih behind, raises_congr (moved head away), deaf.mute_iff away, others,
      fate_congr (moved head away)]

theorem reapHandle_raised_iff :
    (∃ text, (reapHandle services channel handle (feed handle)).2 = .raised text) ↔
      Raises services channel feed handle := by
  unfold Raises
  cases ended : fate services channel handle (feed handle) with
  | none => simp [reapHandle_running ended]
  | some outcome =>
    obtain ⟨-, signals, verdict⟩ := reapHandle_ended ended
    cases outcome <;> simp [verdict, Verdict.ofOutcome, Except.map]

/-- Reaping is balanced: what it returns carries the salvaged signals, and a safe call that raises has
salvaged none. -/
theorem reapCompleted_balanced (apart : handles.Pairwise Apart) (completed : List Collected) :
    ∃ out, Balanced channel (reapCompleted services feed handles channel completed).1 out ∧
      (∀ all, (reapCompleted services feed handles channel completed).2 = .ok all →
        salvagedIn all = salvagedIn completed ++ out) ∧
      (∀ text, (reapCompleted services feed handles channel completed).2 = .error text →
        (∃ handle ∈ handles, Raises services channel feed handle) ∧
          (ReapSafe services channel feed handles → out = [])) := by
  induction handles generalizing channel completed with
  | nil => exact ⟨[], Balanced.refl channel, by simp [reapCompleted], by simp [reapCompleted]⟩
  | cons first rest ih =>
    have moved := @local_reapHandle _ services channel first (feed first)
    have deaf := @deaf_reapHandle _ services channel first (feed first)
    have behind : ∀ handle ∈ rest, Apart handle first := fun handle member =>
      (List.rel_of_pairwise_cons apart member).symm
    obtain ⟨out, balanced, running, salvaged, mute⟩ := @reapHandle_balanced _ services channel first (feed first)
    have raised := @reapHandle_raised_iff _ services channel feed first
    -- the rest of the loop, told in terms of the channel the loop started from
    have tail : ∀ completed, ∃ more, Balanced channel (reapCompleted services feed rest
          (reapHandle services channel first (feed first)).1 completed).1 (out ++ more) ∧
        (∀ all, (reapCompleted services feed rest (reapHandle services channel first (feed first)).1
          completed).2 = .ok all → salvagedIn all = salvagedIn completed ++ more) ∧
        (∀ text, (reapCompleted services feed rest (reapHandle services channel first (feed first)).1
          completed).2 = .error text → (∃ handle ∈ rest, Raises services channel feed handle) ∧
            (ReapSafe services channel feed rest → more = [])) := by
      intro completed
      obtain ⟨more, later, returned, failed⟩ := @ih (reapHandle services channel first (feed first)).1
        apart.of_cons completed
      refine ⟨more, balanced.trans later, returned, fun text same => ?_⟩
      obtain ⟨⟨handle, member, raises⟩, safe⟩ := failed text same
      exact ⟨⟨handle, member, (raises_congr (moved handle (behind handle member))).mp raises⟩,
        fun clear => safe ((reapSafe_congr behind moved deaf).mpr clear)⟩
    rw [reapCompleted]
    rcases reaped : reapHandle services channel first (feed first) with ⟨after, verdict⟩
    rw [reaped] at running salvaged raised tail balanced
    cases verdict with
    | running =>
      obtain ⟨more, whole, returned, failed⟩ := tail completed
      rw [running rfl, List.nil_append] at whole
      have calm : ¬ Raises services channel feed first := by simpa using raised
      refine ⟨more, whole, returned, fun text same => ?_⟩
      obtain ⟨⟨handle, member, raises⟩, safe⟩ := failed text same
      exact ⟨⟨handle, List.mem_cons_of_mem _ member, raises⟩, fun clear => safe (clear.2 calm).2⟩
    | collected outcome =>
      obtain ⟨more, whole, returned, failed⟩ := tail (completed ++ [outcome])
      have calm : ¬ Raises services channel feed first := by simpa using raised
      refine ⟨out ++ more, whole, fun all same => ?_, fun text same => ?_⟩
      · rw [returned all same, salvagedIn_append, salvagedIn_singleton, salvaged outcome rfl, List.append_assoc]
      · obtain ⟨⟨handle, member, raises⟩, safe⟩ := failed text same
        refine ⟨⟨handle, List.mem_cons_of_mem _ member, raises⟩, fun clear => ?_⟩
        have ended : fate services channel first (feed first) ≠ none := by
          intro none
          simp [reapHandle_running none] at reaped
        rw [mute ((clear.2 calm).1 ⟨handle, member, raises⟩ ended), safe (clear.2 calm).2]
        rfl
    | raised text =>
      have raises : Raises services channel feed first := raised.mp ⟨text, rfl⟩
      refine ⟨out, balanced, by simp, fun _ _ => ⟨⟨first, List.mem_cons_self, raises⟩, fun clear => ?_⟩⟩
      exact mute (clear.1 raises)

end Reap

end Tasklite.Engine.Signals
