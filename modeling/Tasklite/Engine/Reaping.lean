import Mathlib.Data.List.Basic
import Tasklite.Engine.Slots

/-! Which results reach settlement when reaping raises. A call of `reap_completed` that
raises is followed by an abort over the same handles; the results it had collected
before are in neither. -/

namespace Tasklite.Engine.Reaping
open Tasklite.Library Tasklite.Models Tasklite.Engine.Channel Tasklite.Engine.Slots

variable {δ : Type} {services : ChannelServices δ} {channel other : Channel δ}
  {feed : JobHandle → Feed} {handle : JobHandle} {handles : List JobHandle}

/-- What one handle comes to: still running, or the outcome that is collected for it. -/
def fate (services : ChannelServices δ) (channel : Channel δ) (handle : JobHandle) (feed : Feed) :
    Option (Except String ExecutionResult) :=
  let received := receiveAvailable services channel handle feed.available
  (due received handle feed).map
    (decodeOutcome services (drainFinished services received handle) handle)

/-- Nothing is left of a handle: no pipe, no result, no error. -/
def Blank (channel : Channel δ) (handle : JobHandle) : Prop :=
  channel.receivers handle.executionId = none ∧ channel.results handle.executionId = none ∧
    channel.errors handle.executionId = none

theorem fate_congr (same : slot channel handle = slot other handle) (feed : Feed) :
    fate services channel handle feed = fate services other handle feed := by
  unfold fate
  dsimp only
  have received := @slot_receiveAvailable_congr _ services _ _ _ same feed.available
  rw [due_congr received]
  cases due _ handle feed with
  | none => rfl
  | some isTimeout =>
    simp [decodeOutcome_congr (@slot_drainFinished_congr _ services _ _ _ received)]

theorem blank_collectOutcome (isTimeout : Bool) :
    Blank (collectOutcome services channel handle isTimeout).1 handle := by
  simp [Blank, collectOutcome, closeHandle, salvageSignals, clearError]

/-- The verdict on a handle is its fate. -/
theorem reapHandle_running {feed : Feed} (running : fate services channel handle feed = none) :
    reapHandle services channel handle feed =
      (receiveAvailable services channel handle feed.available, .running) := by
  unfold fate at running
  simp only [Option.map_eq_none_iff] at running
  simp [reapHandle, running]

theorem reapHandle_ended {feed : Feed} {outcome : Except String ExecutionResult}
    (ended : fate services channel handle feed = some outcome) :
    Blank (reapHandle services channel handle feed).1 handle ∧ ∃ signals,
      (reapHandle services channel handle feed).2 =
        .ofOutcome (outcome.map fun decoded => ⟨handle, decoded, signals⟩) := by
  unfold fate at ended
  simp only [Option.map_eq_some_iff] at ended
  obtain ⟨isTimeout, timely, rfl⟩ := ended
  simp only [reapHandle, timely]
  exact ⟨blank_collectOutcome isTimeout, _, rfl⟩

/-- The decoded result of a handle that ends well. -/
def endsWith (services : ChannelServices δ) (channel : Channel δ) (feed : JobHandle → Feed)
    (handle : JobHandle) : Option (JobHandle × ExecutionResult) :=
  match fate services channel handle (feed handle) with
  | some (.ok decoded) => some (handle, decoded)
  | _ => none

def Collected.key (collected : Collected) : JobHandle × ExecutionResult :=
  (collected.handle, collected.decoded)

theorem endsWith_congr (same : slot channel handle = slot other handle) :
    endsWith services channel feed handle = endsWith services other feed handle := by
  unfold endsWith
  rw [fate_congr same]

/-- One more handle is reaped: its neighbours behind it keep their slots. -/
theorem slots_behind {first : JobHandle} {rest : List JobHandle}
    (apart : (first :: rest).Pairwise Apart) {after : Channel δ} (moved : Local first channel after)
    (member : handle ∈ rest) : slot after handle = slot channel handle :=
  moved handle ((List.rel_of_pairwise_cons apart member).symm)

/-- The loop goes on behind a handle that does not end in an error. -/
theorem reapCompleted_passes {first : JobHandle} {rest : List JobHandle} (completed : List Collected)
    (quiet : ∀ text, fate services channel first (feed first) ≠ some (.error text)) :
    ∃ more, reapCompleted services feed (first :: rest) channel completed =
        reapCompleted services feed rest (reapHandle services channel first (feed first)).1 more ∧
      more.map Collected.key =
        completed.map Collected.key ++ (endsWith services channel feed first).toList := by
  rw [reapCompleted]
  cases ended : fate services channel first (feed first) with
  | none =>
    rw [reapHandle_running ended]
    exact ⟨completed, rfl, by simp [endsWith, ended]⟩
  | some outcome =>
    cases outcome with
    | error text => exact absurd ended (quiet text)
    | ok decoded =>
      obtain ⟨-, signals, verdict⟩ := reapHandle_ended ended
      rcases reaped : reapHandle services channel first (feed first) with ⟨after, found⟩
      rw [reaped] at verdict
      simp only [Verdict.ofOutcome, Except.map] at verdict
      subst verdict
      exact ⟨completed ++ [⟨first, decoded, signals⟩], rfl, by simp [endsWith, ended, Collected.key]⟩

/-- Without an error, what is returned is what the handles come to. -/
theorem reapCompleted_quiet (apart : handles.Pairwise Apart) (completed : List Collected)
    (quiet : ∀ handle ∈ handles, ∀ text, fate services channel handle (feed handle) ≠ some (.error text)) :
    ∃ all, (reapCompleted services feed handles channel completed).2 = .ok all ∧
      all.map Collected.key =
        completed.map Collected.key ++ handles.filterMap (endsWith services channel feed) := by
  induction handles generalizing channel completed with
  | nil => exact ⟨completed, rfl, by simp⟩
  | cons first rest ih =>
    have moved := @local_reapHandle _ services channel first (feed first)
    have kept : ∀ handle ∈ rest, slot (reapHandle services channel first (feed first)).1 handle =
        slot channel handle := fun handle member => slots_behind apart moved member
    have later : ∀ handle ∈ rest, ∀ text, fate services (reapHandle services channel first (feed first)).1
        handle (feed handle) ≠ some (.error text) := by
      intro handle member text
      rw [fate_congr (kept handle member)]
      exact quiet handle (List.mem_cons_of_mem _ member) text
    have keys : rest.filterMap (endsWith services (reapHandle services channel first (feed first)).1 feed) =
        rest.filterMap (endsWith services channel feed) :=
      List.filterMap_congr fun handle member => endsWith_congr (kept handle member)
    obtain ⟨more, passed, first_key⟩ := @reapCompleted_passes _ _ _ _ _ rest completed
      (quiet first List.mem_cons_self)
    obtain ⟨all, result, same⟩ := ih apart.of_cons more later
    refine ⟨all, passed ▸ result, ?_⟩
    rw [same, first_key, keys, List.append_assoc]
    cases ends : endsWith services channel feed first with
    | none => simp [ends]
    | some key => simp [ends]

/-- The final result of a handle once its pipe has been read to the end. -/
def conclude (services : ChannelServices δ) (channel : Channel δ) (handle : JobHandle) : Option Record :=
  finalPayload (drainFinished services channel handle) handle

theorem conclude_congr (same : slot channel handle = slot other handle) :
    conclude services channel handle = conclude services other handle :=
  finalPayload_congr (slot_drainFinished_congr same)

theorem conclude_drainFinished :
    conclude services (drainFinished services channel handle) handle =
      conclude services channel handle := by
  unfold conclude
  rw [drainFinished_idem]

theorem conclude_blank (blank : Blank channel handle) : conclude services channel handle = none := by
  simp [conclude, drainFinished, finalPayload, blank.1, blank.2.1, blank.2.2]

/-- Once a handle has been looked at, no final result of it is left in the channel. -/
theorem conclude_reapHandle (arrived : Arrived channel feed handle) :
    conclude services (reapHandle services channel handle (feed handle)).1 handle = none := by
  cases ended : fate services channel handle (feed handle) with
  | some outcome => exact conclude_blank (reapHandle_ended ended).1
  | none =>
    rw [reapHandle_running ended]
    simp only [fate, Option.map_eq_none_iff] at ended
    rw [receive_eq_drain arrived] at ended ⊢
    rw [conclude_drainFinished]
    unfold due at ended
    unfold conclude finalPayload
    split at ended
    · cases ended
    · rename_i silent
      simp only [Bool.or_eq_true, not_or, Bool.not_eq_true, Option.isSome_eq_false_iff,
        Option.isNone_iff_eq_none] at silent
      simp [silent.1, silent.2]

theorem arrived_reapHandle (arrived : Arrived channel feed handle) :
    Arrived (reapHandle services channel handle (feed handle)).1 feed handle := by
  intro items unread
  cases ended : fate services channel handle (feed handle) with
  | some outcome => simp [(reapHandle_ended ended).1.1] at unread
  | none =>
    rw [reapHandle_running ended, receive_eq_drain arrived] at unread
    cases open_ : channel.receivers handle.executionId with
    | none => simp [drainFinished, open_] at unread
    | some old =>
      simp only [drainFinished, open_, receivers_processItems, Function.update_self] at unread
      cases unread
      exact Nat.zero_le _

theorem arrived_congr (same : slot channel handle = slot other handle) (arrived : Arrived other feed handle) :
    Arrived channel feed handle := by
  have unread : channel.receivers handle.executionId = other.receivers handle.executionId :=
    congrArg Slot.unread same
  unfold Arrived
  rw [unread]
  exact arrived

theorem reapCompleted_keeps {neighbour : JobHandle} (apart : ∀ handle ∈ handles, Apart neighbour handle)
    (completed : List Collected) :
    slot (reapCompleted services feed handles channel completed).1 neighbour = slot channel neighbour := by
  induction handles generalizing channel completed with
  | nil => rfl
  | cons first rest ih =>
    have moved := @local_reapHandle _ services channel first
      (feed first) neighbour (apart first List.mem_cons_self)
    have tail := fun completed => (@ih (reapHandle services channel first (feed first)).1
      (fun handle member => apart handle (List.mem_cons_of_mem _ member)) completed).trans moved
    unfold reapCompleted
    split
    · rename_i after reaped
      simpa [reaped] using tail completed
    · rename_i after outcome reaped
      simpa [reaped] using tail (completed ++ [outcome])
    · rename_i after text reaped
      simpa [reaped] using moved

/-- A handle that has been looked at: everything is read and no final result is left. -/
def Spent (services : ChannelServices δ) (channel : Channel δ) (feed : JobHandle → Feed)
    (handle : JobHandle) : Prop :=
  conclude services channel handle = none ∧ Arrived channel feed handle

/-- Reaping raises at the first handle that ends in an error. No result is left of the handles up to
that one, and those behind it are untouched. -/
theorem reapCompleted_raises {before after : List JobHandle} {text : String}
    (apart : (before ++ handle :: after).Pairwise Apart) (completed : List Collected)
    (arrived : ∀ earlier ∈ before ++ [handle], Arrived channel feed earlier)
    (quiet : ∀ earlier ∈ before, ∀ text,
      fate services channel earlier (feed earlier) ≠ some (.error text))
    (fault : fate services channel handle (feed handle) = some (.error text)) :
    ∃ final, reapCompleted services feed (before ++ handle :: after) channel completed =
        (final, .error text) ∧ (∀ earlier ∈ before ++ [handle], Spent services final feed earlier) ∧
      ∀ later ∈ after, slot final later = slot channel later := by
  induction before generalizing channel completed with
  | nil =>
    have moved := @local_reapHandle _ services channel handle (feed handle)
    obtain ⟨blank, signals, verdict⟩ := reapHandle_ended fault
    refine ⟨(reapHandle services channel handle (feed handle)).1, ?_, ?_, ?_⟩
    · rw [List.nil_append]
      unfold reapCompleted
      rcases reaped : reapHandle services channel handle (feed handle) with ⟨after, found⟩
      rw [reaped] at verdict
      simp only [Verdict.ofOutcome, Except.map] at verdict
      subst verdict
      rfl
    · intro earlier member
      obtain rfl : earlier = handle := by simpa using member
      exact ⟨conclude_blank blank, fun items unread => by simp [blank.1] at unread⟩
    · exact fun later member => slots_behind apart moved member
  | cons first rest ih =>
    have moved := @local_reapHandle _ services channel first (feed first)
    have spent : Spent services (reapHandle services channel first (feed first)).1 feed first :=
      ⟨conclude_reapHandle (arrived first (by simp)), arrived_reapHandle (arrived first (by simp))⟩
    have kept : ∀ later ∈ rest ++ handle :: after,
        slot (reapHandle services channel first (feed first)).1 later = slot channel later :=
      fun later member => slots_behind apart moved member
    have arrived' : ∀ earlier ∈ rest ++ [handle],
        Arrived (reapHandle services channel first (feed first)).1 feed earlier := by
      intro earlier member
      have behind : earlier ∈ rest ++ handle :: after := by
        rcases List.mem_append.mp member with old | last
        · exact List.mem_append_left _ old
        · simp_all
      exact arrived_congr (kept earlier behind) (arrived earlier (List.mem_cons_of_mem _ member))
    have quiet' : ∀ earlier ∈ rest, ∀ text, fate services (reapHandle services channel first (feed first)).1
        earlier (feed earlier) ≠ some (.error text) := by
      intro earlier member text
      rw [fate_congr (kept earlier (by simp [member]))]
      exact quiet earlier (List.mem_cons_of_mem _ member) text
    have fault' : fate services (reapHandle services channel first (feed first)).1 handle (feed handle) =
        some (.error text) := by
      rw [fate_congr (kept handle (by simp))]
      exact fault
    obtain ⟨more, unfolded, -⟩ := @reapCompleted_passes _ _ _ _ _ (rest ++ handle :: after) completed
      (quiet first (by simp))
    obtain ⟨final, result, nothing, untouched⟩ := ih apart.of_cons more arrived' quiet' fault'
    refine ⟨final, unfolded.trans result, ?_, ?_⟩
    · intro earlier member
      rcases List.mem_cons.mp member with rfl | behind
      · have still : slot final earlier = slot (reapHandle services channel earlier (feed earlier)).1 earlier := by
          have keeps : slot (reapCompleted services feed (rest ++ handle :: after)
              (reapHandle services channel earlier (feed earlier)).1 more).1 earlier = _ :=
            reapCompleted_keeps (fun later member => List.rel_of_pairwise_cons apart member) more
          rwa [result] at keeps
        exact ⟨(conclude_congr still).trans spent.1, arrived_congr still spent.2⟩
      · exact nothing earlier behind
    · exact fun later member => (untouched later member).trans (kept later (by simp [member]))

end Tasklite.Engine.Reaping
