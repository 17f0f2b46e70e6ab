import Mathlib.Data.List.Pairwise
import Tasklite.Engine.Reaping

/-! What an abort makes of handles whose items have all arrived: those with a final
result are completed, the others cancelled, and a final result that cannot be decoded
makes the whole call raise. -/

namespace Tasklite.Engine.Aborting
open Tasklite.Library Tasklite.Models Tasklite.Engine.Channel Tasklite.Engine.Slots
open Tasklite.Engine.Reaping

variable {δ : Type} {services : ChannelServices δ} {channel other : Channel δ}
  {feed : JobHandle → Feed} {handle : JobHandle} {handles : List JobHandle}

/-- A final result that `decode` refuses. -/
def Undecodable (services : ChannelServices δ) (channel : Channel δ) (handle : JobHandle) : Prop :=
  ∃ payload text, conclude services channel handle = some payload ∧
    services.decode handle payload = .error text

/-- The final result of a handle, decoded. -/
def concluded (services : ChannelServices δ) (channel : Channel δ) (handle : JobHandle) :
    Option (JobHandle × ExecutionResult) :=
  match conclude services channel handle with
  | none => none
  | some payload =>
      match services.decode handle payload with
      | .error _ => none
      | .ok decoded => some (handle, decoded)

theorem undecodable_congr (same : slot channel handle = slot other handle) :
    Undecodable services channel handle ↔ Undecodable services other handle := by
  unfold Undecodable
  rw [conclude_congr same]

theorem concluded_congr (same : slot channel handle = slot other handle) :
    concluded services channel handle = concluded services other handle := by
  unfold concluded
  rw [conclude_congr same]

/-- One step of the first pass. -/
def look (services : ChannelServices δ) (feed : JobHandle → Feed) (channel : Channel δ)
    (handle : JobHandle) : Channel δ × Except String (Option Collected) :=
  consumeResultIfPresent services (receiveAvailable services channel handle (feed handle).available) handle

theorem local_look : Local handle channel (look services feed channel handle).1 :=
  (local_receiveAvailable _).trans local_consumeResultIfPresent

theorem look_none (arrived : Arrived channel feed handle) (none : conclude services channel handle = none) :
    look services feed channel handle = (drainFinished services channel handle, .ok Option.none) := by
  have payload : finalPayload (drainFinished services channel handle) handle = Option.none := none
  simp [look, receive_eq_drain arrived, consumeResultIfPresent, payload]

theorem look_some (arrived : Arrived channel feed handle) {payload : Record}
    (some : conclude services channel handle = some payload) :
    (∃ text, services.decode handle payload = .error text ∧
      (look services feed channel handle).2 = .error text) ∨
    ∃ decoded signals, services.decode handle payload = .ok decoded ∧
      (look services feed channel handle).2 = .ok (.some ⟨handle, decoded, signals⟩) := by
  have final : finalPayload (drainFinished services channel handle) handle = .some payload := some
  unfold look
  rw [receive_eq_drain arrived]
  simp only [consumeResultIfPresent, final]
  cases services.decode handle payload with
  | error text => exact Or.inl ⟨text, rfl, rfl⟩
  | ok decoded => exact Or.inr ⟨decoded, _, rfl, rfl⟩

theorem classify_cons (first : JobHandle) (rest : List JobHandle) (done : List Collected)
    (waiting : List JobHandle) :
    classify services feed (first :: rest) channel done waiting =
      match look services feed channel first with
      | (after, .error text) => (after, .error text)
      | (after, .ok (some outcome)) => classify services feed rest after (done ++ [outcome]) waiting
      | (after, .ok none) => classify services feed rest after done (waiting ++ [first]) := rfl

/-- The first pass over handles whose final results all decode. -/
theorem classify_quiet (apart : handles.Pairwise Apart) (done : List Collected) (waiting : List JobHandle)
    (arrived : ∀ handle ∈ handles, Arrived channel feed handle)
    (decodes : ∀ handle ∈ handles, ¬ Undecodable services channel handle) :
    ∃ final all, classify services feed handles channel done waiting =
        (final, .ok (all, waiting ++ handles.filter fun handle => (conclude services channel handle).isNone)) ∧
      all.map Collected.key = done.map Collected.key ++ handles.filterMap (concluded services channel) ∧
      (∀ handle ∈ handles, conclude services channel handle = none → conclude services final handle = none) ∧
      ∀ neighbour, (∀ handle ∈ handles, Apart neighbour handle) → slot final neighbour = slot channel neighbour := by
  induction handles generalizing channel done waiting with
  | nil => exact ⟨channel, done, by simp [classify], by simp, by simp, fun _ _ => rfl⟩
  | cons first rest ih =>
    have moved := @local_look _ services channel feed first
    have kept : ∀ handle ∈ rest, slot (look services feed channel first).1 handle = slot channel handle :=
      fun handle member => slots_behind apart moved member
    have names : (rest.filter fun handle =>
          (conclude services (look services feed channel first).1 handle).isNone) =
        rest.filter fun handle => (conclude services channel handle).isNone :=
      List.filter_congr fun handle member => by rw [conclude_congr (kept handle member)]
    have keys : rest.filterMap (concluded services (look services feed channel first).1) =
        rest.filterMap (concluded services channel) :=
      List.filterMap_congr fun handle member => concluded_congr (kept handle member)
    have tail := fun done waiting => @ih (look services feed channel first).1 apart.of_cons done
      waiting (fun handle member => arrived_congr (kept handle member) (arrived handle (by simp [member])))
      (fun handle member => (undecodable_congr (kept handle member)).not.mpr (decodes handle (by simp [member])))
    rw [names, keys] at tail
    have stays : ∀ {final : Channel δ}, (∀ neighbour, (∀ handle ∈ rest, Apart neighbour handle) →
          slot final neighbour = slot (look services feed channel first).1 neighbour) →
        slot final first = slot (look services feed channel first).1 first :=
      fun still => still first fun handle member => List.rel_of_pairwise_cons apart member
    have outside : ∀ {final : Channel δ}, (∀ neighbour, (∀ handle ∈ rest, Apart neighbour handle) →
          slot final neighbour = slot (look services feed channel first).1 neighbour) →
        ∀ neighbour, (∀ handle ∈ first :: rest, Apart neighbour handle) →
          slot final neighbour = slot channel neighbour :=
      fun still neighbour away => (still neighbour fun handle member => away handle (by simp [member])).trans
        (moved neighbour (away first List.mem_cons_self))
    have later : ∀ {final : Channel δ}, (∀ handle ∈ rest,
          conclude services (look services feed channel first).1 handle = none →
            conclude services final handle = none) →
        ∀ handle ∈ rest, conclude services channel handle = none → conclude services final handle = none :=
      fun still handle member absent => still handle member ((conclude_congr (kept handle member)).trans absent)
    rw [classify_cons]
    cases found : conclude services channel first with
    | none =>
      obtain ⟨final, all, result, allKeys, absent, still⟩ := tail done (waiting ++ [first])
      refine ⟨final, all, ?_, ?_, ?_, outside still⟩
      · rw [look_none (arrived first List.mem_cons_self) found] at result ⊢
        simpa [found] using result
      · rw [allKeys, List.filterMap_cons_none (by simp [concluded, found])]
      · intro handle member none
        rcases List.mem_cons.mp member with rfl | behind
        · rw [conclude_congr (stays still), look_none (arrived handle List.mem_cons_self) found,
            conclude_drainFinished, found]
        · exact later absent handle behind none
    | some payload =>
      rcases look_some (arrived first List.mem_cons_self) found with ⟨text, refused, -⟩ | ⟨decoded, signals, ok, looked⟩
      · exact absurd ⟨payload, text, found, refused⟩ (decodes first List.mem_cons_self)
      · obtain ⟨final, all, result, allKeys, absent, still⟩ := tail (done ++ [⟨first, decoded, signals⟩]) waiting
        refine ⟨final, all, ?_, ?_, ?_, outside still⟩
        · rcases step : look services feed channel first with ⟨after, answer⟩
          rw [step] at looked result
          subst looked
          simpa [found] using result
        · rw [allKeys, List.filterMap_cons_some (by simp [concluded, found, ok]; rfl)]
          simp [Collected.key]
        · intro handle member none
          rcases List.mem_cons.mp member with rfl | behind
          · simp [found] at none
          · exact later absent handle behind none

/-- The first pass raises as soon as one final result does not decode. -/
theorem classify_raises (apart : handles.Pairwise Apart) (done : List Collected) (waiting : List JobHandle)
    (arrived : ∀ handle ∈ handles, Arrived channel feed handle) (member : handle ∈ handles)
    (undecodable : Undecodable services channel handle) :
    ∃ final text, classify services feed handles channel done waiting = (final, .error text) := by
  induction handles generalizing channel done waiting with
  | nil => simp at member
  | cons first rest ih =>
    have moved := @local_look _ services channel feed first
    have kept : ∀ handle ∈ rest, slot (look services feed channel first).1 handle = slot channel handle :=
      fun handle member => slots_behind apart moved member
    have tail := fun done waiting (behind : handle ∈ rest) =>
      @ih (look services feed channel first).1 apart.of_cons done waiting
        (fun handle member => arrived_congr (kept handle member) (arrived handle (by simp [member]))) behind
        ((undecodable_congr (kept handle behind)).mpr undecodable)
    rw [classify_cons]
    cases found : conclude services channel first with
    | none =>
      rcases List.mem_cons.mp member with rfl | behind
      · obtain ⟨payload, text, same, -⟩ := undecodable
        simp [found] at same
      · have step := @look_none _ _ _ feed _ (arrived first List.mem_cons_self) found
        rw [step] at tail ⊢
        exact tail done (waiting ++ [first]) behind
    | some payload =>
      rcases step : look services feed channel first with ⟨after, answer⟩
      rcases look_some (arrived first List.mem_cons_self) found with
        ⟨text, refused, looked⟩ | ⟨decoded, signals, ok, looked⟩
      · rw [step] at looked
        subst looked
        exact ⟨after, text, rfl⟩
      · rcases List.mem_cons.mp member with rfl | behind
        · obtain ⟨payload', text, same, refused⟩ := undecodable
          rw [found, Option.some.injEq] at same
          subst same
          simp [ok] at refused
        · rw [step] at looked tail
          subst looked
          exact tail (done ++ [⟨first, decoded, signals⟩]) waiting behind

/-- Closing the completed handles changes neither their results nor the slots of others. -/
theorem closeDone_keys (done : List Collected) :
    (closeDone services done channel).2.map Collected.key = done.map Collected.key ∧
      ∀ neighbour, (∀ outcome ∈ done, Apart neighbour outcome.handle) →
        slot (closeDone services done channel).1 neighbour = slot channel neighbour := by
  induction done generalizing channel with
  | nil => exact ⟨rfl, fun _ _ => rfl⟩
  | cons outcome rest ih =>
    simp only [closeDone, List.map_cons]
    refine ⟨by rw [ih.1]; rfl, fun neighbour away => ?_⟩
    rw [ih.2 neighbour fun outcome member => away outcome (List.mem_cons_of_mem _ member)]
    have apart := away outcome List.mem_cons_self
    calc
      _ = slot (closeHandle (salvageSignals (drainFinished services channel outcome.handle)
            outcome.handle.jobUid).1 outcome.handle) neighbour := local_clearError neighbour apart
      _ = slot (salvageSignals (drainFinished services channel outcome.handle) outcome.handle.jobUid).1
            neighbour := local_closeHandle neighbour apart
      _ = slot (drainFinished services channel outcome.handle) neighbour := rfl
      _ = slot channel neighbour := local_drainFinished neighbour apart

/-- Handles without a final result are all cancelled by the second pass. -/
theorem settleWaiting_cancels (apart : handles.Pairwise Apart) (outcome : AbortOutcome)
    (absent : ∀ handle ∈ handles, conclude services channel handle = none) :
    ∃ final settled, settleWaiting services handles channel outcome = (final, .ok settled) ∧
      settled.completed = outcome.completed ∧ settled.cancelled = outcome.cancelled ++ handles := by
  induction handles generalizing channel outcome with
  | nil => exact ⟨channel, outcome, rfl, rfl, by simp⟩
  | cons first rest ih =>
    have none : finalPayload (drainFinished services channel first) first = Option.none :=
      absent first List.mem_cons_self
    rw [settleWaiting]
    simp only [consumeResultIfPresent, none]
    have moved : Local first channel (clearError (closeHandle (salvageSignals
        (drainFinished services channel first) first.jobUid).1 first) first) := by
      intro neighbour away
      rw [local_clearError neighbour away, local_closeHandle neighbour away, slot_salvageSignals,
        local_drainFinished neighbour away]
    obtain ⟨final, settled, result, completed, cancelled⟩ := ih apart.of_cons
      { outcome with
        cancelled := outcome.cancelled ++ [first]
        salvagedSignals := outcome.salvagedSignals ++
          (salvageSignals (drainFinished services channel first) first.jobUid).2 }
      (fun handle member => (conclude_congr (slots_behind apart moved member)).trans
        (absent handle (List.mem_cons_of_mem _ member)))
    exact ⟨final, settled, result, completed, by simp [cancelled]⟩

instance : Std.Symm Apart := ⟨fun _ _ => Apart.symm⟩

theorem apart_of_ne (apart : handles.Pairwise Apart) {left right : JobHandle} (first : left ∈ handles)
    (second : right ∈ handles) (different : left ≠ right) : Apart left right :=
  apart.forall first second different

/-- An abort that does not meet an undecodable result completes the handles with a final result and
cancels the others. -/
theorem abortInFlight_quiet (apart : handles.Pairwise Apart)
    (arrived : ∀ handle ∈ handles, Arrived channel feed handle)
    (decodes : ∀ handle ∈ handles, ¬ Undecodable services channel handle) :
    ∃ final outcome, abortInFlight services channel feed handles = (final, .ok outcome) ∧
      outcome.completed.map Collected.key = handles.filterMap (concluded services channel) ∧
      outcome.cancelled = handles.filter fun handle => (conclude services channel handle).isNone := by
  obtain ⟨classified, all, result, keys, absent, -⟩ := classify_quiet apart [] [] arrived decodes
  obtain ⟨merged, kept⟩ := @closeDone_keys _ services classified all
  -- a handle that waits is apart from every completed one
  have away : ∀ handle ∈ handles.filter (fun handle => (conclude services channel handle).isNone),
      ∀ outcome ∈ all, Apart handle outcome.handle := by
    intro handle waits outcome done
    obtain ⟨member, none⟩ := List.mem_filter.mp waits
    have key : Collected.key outcome ∈ handles.filterMap (concluded services channel) := by
      have mapped := List.mem_map_of_mem (f := Collected.key) done
      simpa [keys] using mapped
    obtain ⟨source, present, ends⟩ := List.mem_filterMap.mp key
    unfold concluded at ends
    cases found : conclude services channel source with
    | none => simp [found] at ends
    | some payload =>
      cases decoded : services.decode source payload with
      | error text => simp [found, decoded] at ends
      | ok value =>
        simp only [found, decoded, Option.some.injEq, Collected.key, Prod.mk.injEq] at ends
        refine ends.1 ▸ apart_of_ne apart member present ?_
        rintro rfl
        simp [found] at none
  obtain ⟨final, outcome, settled, completed, cancelled⟩ :=
    @settleWaiting_cancels _ services (closeDone services all classified).1 _ (apart.filter _)
    ⟨(closeDone services all classified).2, [], []⟩ (fun handle waits => by
      obtain ⟨member, none⟩ := List.mem_filter.mp waits
      rw [conclude_congr (kept handle (away handle waits))]
      exact absent handle member (Option.isNone_iff_eq_none.mp none))
  refine ⟨final, outcome, ?_, ?_, by simpa using cancelled⟩
  · simpa [abortInFlight, result] using settled
  · rw [completed, merged, keys]
    simp

theorem abortInFlight_raises (apart : handles.Pairwise Apart)
    (arrived : ∀ handle ∈ handles, Arrived channel feed handle) (member : handle ∈ handles)
    (undecodable : Undecodable services channel handle) :
    ∃ final text, abortInFlight services channel feed handles = (final, .error text) := by
  obtain ⟨final, text, result⟩ := classify_raises apart [] [] arrived member undecodable
  exact ⟨final, text, by simp [abortInFlight, result]⟩

end Tasklite.Engine.Aborting
