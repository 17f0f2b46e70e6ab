import Tasklite.Engine.Channel

/-! What the channel keeps for one handle. Two handles with different executions and
different jobs do not see each other, so the fate of a handle can be read off its own
slot before a loop over many handles starts. -/

namespace Tasklite.Engine.Slots
open Tasklite.Library Tasklite.Models Tasklite.Engine.Channel

variable {δ : Type} {services : ChannelServices δ} {channel other : Channel δ}
  {handle neighbour : JobHandle}

/-- Everything that decides how a handle ends. -/
structure Slot (δ : Type) where
  unread : Option (List PipeItem)
  result : Option Record
  error : Option String
  declared : δ

def slot (channel : Channel δ) (handle : JobHandle) : Slot δ :=
  ⟨channel.receivers handle.executionId, channel.results handle.executionId,
    channel.errors handle.executionId, channel.artifacts handle.jobUid⟩

/-- Handles of different executions of different jobs. -/
def Apart (left right : JobHandle) : Prop :=
  left.executionId ≠ right.executionId ∧ left.jobUid ≠ right.jobUid

theorem Apart.symm (apart : Apart handle neighbour) : Apart neighbour handle :=
  ⟨apart.1.symm, apart.2.symm⟩

/-- A step taken for `handle` leaves every handle apart from it alone. -/
def Local (handle : JobHandle) (before after : Channel δ) : Prop :=
  ∀ neighbour, Apart neighbour handle → slot after neighbour = slot before neighbour

theorem Local.refl (handle : JobHandle) (channel : Channel δ) : Local handle channel channel :=
  fun _ _ => rfl

theorem Local.trans {first second third : Channel δ} (left : Local handle first second)
    (right : Local handle second third) : Local handle first third :=
  fun neighbour apart => (right neighbour apart).trans (left neighbour apart)

theorem local_setError (text : String) : Local handle channel (setError channel handle text) := by
  intro neighbour apart
  simp [slot, setError, Function.update_of_ne apart.1]

/-- What accepting a message can do to the channel. -/
theorem acceptMessage_cases {item : PipeItem} {after : Channel δ}
    (done : acceptMessage services channel handle item = .ok after) :
    (∃ declared, after =
      { channel with artifacts := Function.update channel.artifacts handle.jobUid declared }) ∨
    (∃ paths, after = { channel with inputs := Function.update channel.inputs handle.jobUid paths }) ∨
    (∃ payload name seconds, item = .suspend payload ∧ suspendPayload payload = some (name, seconds) ∧
      after = { channel with
        pendingSignals := channel.pendingSignals ++ [⟨handle.jobUid, name, seconds⟩]
        accepted := channel.accepted ++ [⟨handle.jobUid, name, seconds⟩] }) ∨
    (∃ payload, after =
      { channel with results := Function.update channel.results handle.executionId payload }) ∨
    after = channel := by
  cases item with
  | output payload =>
    left
    cases payload with
    | obj fields =>
      simp only [acceptMessage] at done
      split at done
      · cases done
      · cases done
        exact ⟨_, rfl⟩
    | null | bool | int | float | str | arr => cases done
  | input payload =>
    right; left
    cases payload with
    | obj fields =>
      simp only [acceptMessage] at done
      split at done
      · split at done
        · cases done
        · cases done
          exact ⟨_, rfl⟩
      · cases done
    | null | bool | int | float | str | arr => cases done
  | suspend payload =>
    right; right; left
    simp only [acceptMessage] at done
    split at done
    · cases done
    · rename_i name seconds found
      cases done
      exact ⟨payload, name, seconds, rfl, found, rfl⟩
  | result payload =>
    right; right; right
    cases payload with
    | obj fields =>
      simp only [acceptMessage] at done
      split at done
      · cases done
        exact Or.inr rfl
      · cases done
        exact Or.inl ⟨_, rfl⟩
    | null | bool | int | float | str | arr => cases done
  | exception text => cases done
  | osError =>
    cases done
    exact Or.inr (Or.inr (Or.inr (Or.inr rfl)))

theorem local_acceptMessage {item : PipeItem} {after : Channel δ}
    (done : acceptMessage services channel handle item = .ok after) : Local handle channel after := by
  intro neighbour apart
  rcases acceptMessage_cases done with ⟨declared, rfl⟩ | ⟨paths, rfl⟩ | ⟨payload, name, seconds, -, -, rfl⟩ |
    ⟨payload, rfl⟩ | rfl
  · simp [slot, Function.update_of_ne apart.2]
  · rfl
  · rfl
  · simp [slot, Function.update_of_ne apart.1]
  · rfl

theorem local_processPipeItem (item : PipeItem) :
    Local handle channel (processPipeItem services channel handle item) := by
  unfold processPipeItem
  split
  · exact local_acceptMessage ‹_›
  · exact local_setError _

theorem local_processItems (items : List PipeItem) :
    Local handle channel (processItems services channel handle items) := by
  induction items generalizing channel with
  | nil => exact Local.refl handle channel
  | cons item rest ih => exact (local_processPipeItem item).trans ih

theorem local_setUnread (unread : Option (List PipeItem)) :
    Local handle channel { channel with
      receivers := Function.update channel.receivers handle.executionId unread } := by
  intro neighbour apart
  simp [slot, Function.update_of_ne apart.1]

theorem local_receiveAvailable (available : ℕ) :
    Local handle channel (receiveAvailable services channel handle available) := by
  unfold receiveAvailable
  split
  · exact Local.refl handle channel
  · exact (local_setUnread _).trans (local_processItems _)

theorem local_drainFinished : Local handle channel (drainFinished services channel handle) := by
  unfold drainFinished
  split
  · exact Local.refl handle channel
  · exact (local_setUnread _).trans (local_processItems _)

theorem slot_salvageSignals (jobUid : String) :
    slot (salvageSignals channel jobUid).1 handle = slot channel handle := rfl

theorem local_closeHandle : Local handle channel (closeHandle channel handle) := by
  intro neighbour apart
  simp [slot, closeHandle, Function.update_of_ne apart.1]

theorem local_clearError : Local handle channel (clearError channel handle) := by
  intro neighbour apart
  simp [slot, clearError, Function.update_of_ne apart.1]

theorem local_collectOutcome (isTimeout : Bool) :
    Local handle channel (collectOutcome services channel handle isTimeout).1 := by
  intro neighbour apart
  calc
    _ = slot (salvageSignals (clearError (drainFinished services channel handle) handle) handle.jobUid).1
          neighbour := local_closeHandle neighbour apart
    _ = slot (clearError (drainFinished services channel handle) handle) neighbour := rfl
    _ = slot channel neighbour := local_drainFinished.trans local_clearError neighbour apart

theorem local_reapHandle (feed : Feed) :
    Local handle channel (reapHandle services channel handle feed).1 := by
  unfold reapHandle
  dsimp only
  split
  · exact local_receiveAvailable _
  · rename_i isTimeout _
    exact (local_receiveAvailable _).trans (local_collectOutcome isTimeout)

theorem local_consumeResultIfPresent :
    Local handle channel (consumeResultIfPresent services channel handle).1 := by
  intro neighbour apart
  unfold consumeResultIfPresent
  split
  · rfl
  · split <;> simp [slot, salvageSignals, Function.update_of_ne apart.1]

section Congruence

variable (same : slot channel handle = slot other handle)

include same

theorem slot_setError_congr (text : String) :
    slot (setError channel handle text) handle = slot (setError other handle text) handle := by
  simp only [slot, Slot.mk.injEq] at same
  simp [slot, setError, same]

theorem slot_processPipeItem_congr (item : PipeItem) :
    slot (processPipeItem services channel handle item) handle =
      slot (processPipeItem services other handle item) handle := by
  have fields := same
  simp only [slot, Slot.mk.injEq] at fields
  obtain ⟨unread, result, error, declared⟩ := fields
  unfold processPipeItem
  cases item with
  | output payload =>
    cases payload with
    | obj fields =>
      simp only [acceptMessage, declared]
      cases services.declare (other.artifacts handle.jobUid) (Dict.ofPairs fields) with
      | error text => exact slot_setError_congr same text
      | ok after => simp [slot, unread, result, error]
    | null | bool | int | float | str | arr => exact slot_setError_congr same _
  | input payload =>
    cases payload with
    | obj fields =>
      simp only [acceptMessage]
      cases Record.get (Dict.ofPairs fields) "path" with
      | str path =>
        by_cases empty : path = ""
        · simpa [empty] using slot_setError_congr same _
        · simp [empty, slot, unread, result, error, declared]
      | null | bool | int | float | arr | obj => exact slot_setError_congr same _
    | null | bool | int | float | str | arr => exact slot_setError_congr same _
  | suspend payload =>
    simp only [acceptMessage]
    cases suspendPayload payload with
    | none => exact slot_setError_congr same _
    | some signal => exact same
  | result payload =>
    cases payload with
    | obj fields =>
      simp only [acceptMessage, error]
      cases other.errors handle.executionId with
      | none => simp [slot, unread, error, declared]
      | some text => exact same
    | null | bool | int | float | str | arr => exact slot_setError_congr same _
  | exception text => exact slot_setError_congr same text
  | osError => exact same

theorem slot_processItems_congr (items : List PipeItem) :
    slot (processItems services channel handle items) handle =
      slot (processItems services other handle items) handle := by
  induction items generalizing channel other with
  | nil => exact same
  | cons item rest ih => exact ih (slot_processPipeItem_congr same item)

theorem slot_setUnread_congr (unread : Option (List PipeItem)) :
    slot { channel with receivers := Function.update channel.receivers handle.executionId unread } handle =
      slot { other with receivers := Function.update other.receivers handle.executionId unread } handle := by
  simp only [slot, Slot.mk.injEq] at same
  simp [slot, same]

theorem slot_receiveAvailable_congr (available : ℕ) :
    slot (receiveAvailable services channel handle available) handle =
      slot (receiveAvailable services other handle available) handle := by
  have unread : channel.receivers handle.executionId = other.receivers handle.executionId :=
    congrArg Slot.unread same
  unfold receiveAvailable
  rw [unread]
  cases other.receivers handle.executionId with
  | none => exact same
  | some items => exact slot_processItems_congr (slot_setUnread_congr same _) _

theorem slot_drainFinished_congr :
    slot (drainFinished services channel handle) handle =
      slot (drainFinished services other handle) handle := by
  have unread : channel.receivers handle.executionId = other.receivers handle.executionId :=
    congrArg Slot.unread same
  unfold drainFinished
  rw [unread]
  cases other.receivers handle.executionId with
  | none => exact same
  | some items => exact slot_processItems_congr (slot_setUnread_congr same _) _

theorem decodeOutcome_congr (isTimeout : Bool) :
    decodeOutcome services channel handle isTimeout = decodeOutcome services other handle isTimeout := by
  simp only [slot, Slot.mk.injEq] at same
  simp [decodeOutcome, same]

theorem due_congr (feed : Feed) : due channel handle feed = due other handle feed := by
  simp only [slot, Slot.mk.injEq] at same
  simp [due, same]

theorem finalPayload_congr : finalPayload channel handle = finalPayload other handle := by
  simp only [slot, Slot.mk.injEq] at same
  simp [finalPayload, same]

end Congruence

/-- All items of a handle have arrived when the call looks. -/
def Arrived (channel : Channel δ) (feed : JobHandle → Feed) (handle : JobHandle) : Prop :=
  ∀ items, channel.receivers handle.executionId = some items → items.length ≤ (feed handle).available

theorem receive_eq_drain {feed : JobHandle → Feed} (arrived : Arrived channel feed handle) :
    receiveAvailable services channel handle (feed handle).available =
      drainFinished services channel handle := by
  unfold receiveAvailable drainFinished
  cases unread : channel.receivers handle.executionId with
  | none => rfl
  | some items => simp [List.drop_of_length_le (arrived items unread), List.take_of_length_le (arrived items unread)]

theorem acceptMessage_setReceivers (receivers : String → Option (List PipeItem)) (item : PipeItem) :
    acceptMessage services { channel with receivers := receivers } handle item =
      (acceptMessage services channel handle item).map fun after => { after with receivers := receivers } := by
  cases item with
  | output payload =>
    cases payload with
    | obj fields =>
      simp only [acceptMessage]
      cases services.declare (channel.artifacts handle.jobUid) (Dict.ofPairs fields) <;> rfl
    | null | bool | int | float | str | arr => rfl
  | input payload =>
    cases payload with
    | obj fields =>
      simp only [acceptMessage]
      cases Record.get (Dict.ofPairs fields) "path" with
      | str path => by_cases empty : path = "" <;> simp [empty, Except.map]
      | null | bool | int | float | arr | obj => rfl
    | null | bool | int | float | str | arr => rfl
  | suspend payload =>
    simp only [acceptMessage]
    cases suspendPayload payload <;> rfl
  | result payload =>
    cases payload with
    | obj fields =>
      simp only [acceptMessage]
      cases channel.errors handle.executionId <;> rfl
    | null | bool | int | float | str | arr => rfl
  | exception text => rfl
  | osError => rfl

theorem processPipeItem_setReceivers (receivers : String → Option (List PipeItem)) (item : PipeItem) :
    processPipeItem services { channel with receivers := receivers } handle item =
      { processPipeItem services channel handle item with receivers := receivers } := by
  unfold processPipeItem
  rw [acceptMessage_setReceivers]
  cases acceptMessage services channel handle item <;> rfl

/-- Reading items does not touch the pipes themselves. -/
theorem processItems_setReceivers (receivers : String → Option (List PipeItem)) (items : List PipeItem) :
    processItems services { channel with receivers := receivers } handle items =
      { processItems services channel handle items with receivers := receivers } := by
  induction items generalizing channel with
  | nil => rfl
  | cons item rest ih =>
    simp only [processItems, List.foldl_cons, processPipeItem_setReceivers]
    exact ih

theorem receivers_processItems (items : List PipeItem) :
    (processItems services channel handle items).receivers = channel.receivers := by
  have same := @processItems_setReceivers _ services channel handle
    channel.receivers items
  exact (congrArg (fun after : Channel δ => after.receivers) same).trans rfl

/-- Reading some items first and the rest later is reading them all. -/
theorem drain_receive (available : ℕ) :
    drainFinished services (receiveAvailable services channel handle available) handle =
      drainFinished services channel handle := by
  cases unread : channel.receivers handle.executionId with
  | none => simp [drainFinished, receiveAvailable, unread]
  | some items =>
    have left : (receiveAvailable services channel handle available).receivers handle.executionId =
        some (items.drop available) := by
      simp [receiveAvailable, unread, receivers_processItems]
    rw [drainFinished, left]
    simp only [receiveAvailable, drainFinished, unread, processItems_setReceivers, Function.update_idem]
    conv_rhs => rw [← List.take_append_drop available items, processItems, List.foldl_append]
    rfl

/-- A pipe that has been read to its end has nothing more to read. -/
theorem drainFinished_idem :
    drainFinished services (drainFinished services channel handle) handle =
      drainFinished services channel handle := by
  cases unread : channel.receivers handle.executionId with
  | none => simp [drainFinished, unread]
  | some items =>
    have drained : (drainFinished services channel handle).receivers handle.executionId = some [] := by
      simp [drainFinished, unread, receivers_processItems]
    generalize drainFinished services channel handle = after at *
    simp only [drainFinished, drained, processItems, List.foldl_nil]
    cases after
    congr
    exact Function.update_eq_self_iff.mpr drained.symm

end Tasklite.Engine.Slots
