import Tasklite.Engine.Aborting

/-! The way from the channel to settlement. Reaping hands its results over itself; if it
raises, the recovery drains the signals of all tracked handles and aborts them, and the
abort hands over what it has completed. -/

namespace Tasklite.Engine.Handover
open Tasklite.Library Tasklite.Models Tasklite.Engine.Channel Tasklite.Engine.Slots
open Tasklite.Engine.Reaping Tasklite.Engine.Aborting

variable {δ : Type} {services : ChannelServices δ} {channel : Channel δ}
  {feed : JobHandle → Feed} {handle : JobHandle} {handles : List JobHandle}

/-- The results handed to settlement and the handles classified as cancelled. -/
def handOver (services : ChannelServices δ) (channel : Channel δ) (feed : JobHandle → Feed)
    (handles : List JobHandle) : List Collected × List JobHandle :=
  match reapCompleted services feed handles channel [] with
  | (_, .ok completed) => (completed, [])
  | (after, .error _) =>
      let drained := (drainActiveSignals services after feed (handles.map JobHandle.jobUid)).1
      match abortInFlight services drained feed handles with
      | (_, .ok outcome) => (outcome.completed, outcome.cancelled)
      | (_, .error _) => ([], [])

/-- A result is handed over once, and its handle is not cancelled. -/
def HandedOnce (services : ChannelServices δ) (channel : Channel δ) (feed : JobHandle → Feed)
    (handles : List JobHandle) (handle : JobHandle) (decoded : ExecutionResult) : Prop :=
  ((handOver services channel feed handles).1.filter (fun outcome => outcome.handle = handle)).map
      (fun outcome => outcome.decoded) = [decoded] ∧
    handle ∉ (handOver services channel feed handles).2

/-- The messages of a handle hold a protocol error, or a result that cannot be decoded. -/
def Faulty (services : ChannelServices δ) (channel : Channel δ) (handle : JobHandle) : Prop :=
  ∃ text, decodeOutcome services (drainFinished services channel handle) handle false = .error text

/-- The first faulty handle of the list stands before `handle`, and the final results of the handles
behind it can all be decoded. -/
def Survives (services : ChannelServices δ) (channel : Channel δ) (handle : JobHandle) :
    List JobHandle → Prop
  | [] => True
  | first :: rest =>
      (Faulty services channel first →
        handle ∈ rest ∧ ∀ later ∈ rest, ¬ Undecodable services channel later) ∧
      (¬ Faulty services channel first → Survives services channel handle rest)

/-- A handle the channel knows is one of the tracked handles or apart from them. -/
def Tracked (channel : Channel δ) (handles : List JobHandle) : Prop :=
  ∀ registered ∈ channel.handles, ∀ handle ∈ handles, registered = handle ∨ Apart handle registered

theorem decodeOutcome_error_iff {text : String} (isTimeout : Bool) :
    decodeOutcome services channel handle isTimeout = .error text ↔
      decodeOutcome services channel handle false = .error text := by
  unfold decodeOutcome
  split
  · rfl
  · split <;> simp

/-- With all items arrived, a handle ends in an error exactly if it is faulty. -/
theorem fate_error_iff (arrived : Arrived channel feed handle) :
    (∃ text, fate services channel handle (feed handle) = some (.error text)) ↔
      Faulty services channel handle := by
  simp only [fate, receive_eq_drain arrived, drainFinished_idem, Option.map_eq_some_iff,
    decodeOutcome_error_iff, Faulty]
  constructor
  · rintro ⟨text, isTimeout, -, fault⟩
    exact ⟨text, fault⟩
  · rintro ⟨text, fault⟩
    refine ⟨text, false, ?_, fault⟩
    unfold decodeOutcome at fault
    unfold due
    cases error : (drainFinished services channel handle).errors handle.executionId with
    | some found => simp
    | none =>
      cases result : (drainFinished services channel handle).results handle.executionId with
      | some payload => simp
      | none => simp [error, result] at fault

theorem conclude_eq_some {payload : Record} (final : conclude services channel handle = some payload) :
    (drainFinished services channel handle).errors handle.executionId = none ∧
      (drainFinished services channel handle).results handle.executionId = some payload := by
  unfold conclude finalPayload at final
  split at final
  · cases final
  · rename_i silent
    split at final
    · cases final
    · rename_i found same
      split at final
      · cases final
        exact ⟨by simpa using silent, same⟩
      · cases final

/-- A final result that decodes is what its handle ends with. -/
theorem endsWith_of_conclude (arrived : Arrived channel feed handle) {payload : Record}
    {decoded : ExecutionResult} (final : conclude services channel handle = some payload)
    (decodes : services.decode handle payload = .ok decoded) :
    endsWith services channel feed handle = some (handle, decoded) := by
  obtain ⟨error, result⟩ := conclude_eq_some final
  simp [endsWith, fate, receive_eq_drain arrived, drainFinished_idem, due, result, decodeOutcome, error,
    decodes]

section Drain

theorem handles_processItems (items : List PipeItem) :
    (processItems services channel handle items).handles = channel.handles := by
  induction items generalizing channel with
  | nil => rfl
  | cons item rest ih =>
    refine (@ih (processPipeItem services channel handle item)).trans ?_
    unfold processPipeItem
    split
    · rename_i after done
      rcases acceptMessage_cases done with ⟨declared, rfl⟩ | ⟨paths, rfl⟩ |
        ⟨payload, name, seconds, -, -, rfl⟩ | ⟨payload, rfl⟩ | rfl
      all_goals rfl
    · rfl

theorem handles_receiveAvailable (available : ℕ) :
    (receiveAvailable services channel handle available).handles = channel.handles := by
  unfold receiveAvailable
  split
  · rfl
  · exact handles_processItems _

theorem handles_drainFinished : (drainFinished services channel handle).handles = channel.handles := by
  unfold drainFinished
  split
  · rfl
  · exact handles_processItems _

theorem handles_reapHandle (feed : Feed) :
    (reapHandle services channel handle feed).1.handles ⊆ channel.handles := by
  unfold reapHandle
  dsimp only
  split
  · rw [handles_receiveAvailable]
    exact List.Subset.refl _
  · intro registered member
    simp only [collectOutcome, closeHandle, salvageSignals, clearError, List.mem_filter] at member
    rw [handles_drainFinished, handles_receiveAvailable] at member
    exact member.1

theorem handles_reapCompleted (completed : List Collected) :
    (reapCompleted services feed handles channel completed).1.handles ⊆ channel.handles := by
  induction handles generalizing channel completed with
  | nil => exact List.Subset.refl _
  | cons first rest ih =>
    have once := @handles_reapHandle _ services channel first (feed first)
    rw [reapCompleted]
    rcases reaped : reapHandle services channel first (feed first) with ⟨after, verdict⟩
    rw [reaped] at once
    cases verdict with
    | running => exact List.Subset.trans (ih completed) once
    | collected outcome => exact List.Subset.trans (ih _) once
    | raised text => exact once

theorem arrived_receive (available : ℕ) (arrived : Arrived channel feed handle) :
    Arrived (receiveAvailable services channel handle available) feed handle := by
  intro items unread
  cases open_ : channel.receivers handle.executionId with
  | none => simp [receiveAvailable, open_] at unread
  | some old =>
    simp only [receiveAvailable, open_, receivers_processItems, Function.update_self, Option.some.injEq]
      at unread
    have bound := arrived old open_
    rw [← unread, List.length_drop]
    omega

/-- Receiving for handles that are this one or apart from it neither loses nor adds a final result. -/
theorem receive_all {registered : List JobHandle} (arrived : Arrived channel feed handle)
    (tracked : ∀ other ∈ registered, other = handle ∨ Apart handle other) :
    let received := registered.foldl
      (fun channel other => receiveAvailable services channel other (feed other).available) channel
    conclude services received handle = conclude services channel handle ∧
      Arrived received feed handle := by
  induction registered generalizing channel with
  | nil => exact ⟨rfl, arrived⟩
  | cons first rest ih =>
    have later := fun other member => tracked other (List.mem_cons_of_mem _ member)
    rcases tracked first List.mem_cons_self with rfl | apart
    · obtain ⟨same, still⟩ := ih (@arrived_receive _ services _ _ _ _ arrived) later
      refine ⟨same.trans ?_, still⟩
      unfold conclude
      rw [drain_receive]
    · have kept := @local_receiveAvailable _ services channel first
        (feed first).available handle apart
      obtain ⟨same, still⟩ := ih (arrived_congr kept arrived) later
      exact ⟨same.trans (conclude_congr kept), still⟩

theorem drainActiveSignals_keeps (tracked : Tracked channel handles) (uids : List String)
    (arrived : Arrived channel feed handle) (member : handle ∈ handles) :
    conclude services (drainActiveSignals services channel feed uids).1 handle =
        conclude services channel handle ∧
      Arrived (drainActiveSignals services channel feed uids).1 feed handle := by
  have kept := @receive_all _ services _ _ _ (channel.handles.filter fun other => other.jobUid ∈ uids) arrived
    (fun other present => tracked other (List.mem_filter.mp present).1 handle member)
  refine ⟨(conclude_congr ?_).trans kept.1, arrived_congr ?_ kept.2⟩ <;> rfl

end Drain

theorem survives_of_faultless (quiet : ∀ other ∈ handles, ¬ Faulty services channel other) :
    Survives services channel handle handles := by
  induction handles with
  | nil => trivial
  | cons first rest ih =>
    exact ⟨fun faulty => absurd faulty (quiet first List.mem_cons_self),
      fun _ => ih fun other member => quiet other (List.mem_cons_of_mem _ member)⟩

theorem survives_split {before after : List JobHandle} {first : JobHandle}
    (quiet : ∀ other ∈ before, ¬ Faulty services channel other) (faulty : Faulty services channel first) :
    Survives services channel handle (before ++ first :: after) ↔
      handle ∈ after ∧ ∀ later ∈ after, ¬ Undecodable services channel later := by
  induction before with
  | nil => exact ⟨fun survives => survives.1 faulty, fun behind => ⟨fun _ => behind, fun sound => absurd faulty sound⟩⟩
  | cons other rest ih =>
    have clean := quiet other List.mem_cons_self
    rw [List.cons_append, Survives, ih fun later member => quiet later (List.mem_cons_of_mem _ member)]
    exact ⟨fun survives => survives.2 clean, fun behind => ⟨fun fault => absurd fault clean, fun _ => behind⟩⟩

/-- Either no handle is faulty, or there is a first one that is. -/
theorem first_faulty (services : ChannelServices δ) (channel : Channel δ) (handles : List JobHandle) :
    (∀ other ∈ handles, ¬ Faulty services channel other) ∨
      ∃ before first after, handles = before ++ first :: after ∧ Faulty services channel first ∧
        ∀ other ∈ before, ¬ Faulty services channel other := by
  induction handles with
  | nil => exact Or.inl (by simp)
  | cons head rest ih =>
    by_cases faulty : Faulty services channel head
    · exact Or.inr ⟨[], head, rest, rfl, faulty, by simp⟩
    · rcases ih with quiet | ⟨before, first, after, rfl, bad, quiet⟩
      · exact Or.inl (List.forall_mem_cons.mpr ⟨faulty, quiet⟩)
      · exact Or.inr ⟨head :: before, first, after, rfl, bad, List.forall_mem_cons.mpr ⟨faulty, quiet⟩⟩

/-- The outcomes of one handle among outcomes that are listed by handle. -/
theorem outcomes_of_handle {ends : JobHandle → Option (JobHandle × ExecutionResult)}
    (own : ∀ other key, ends other = some key → key.1 = other) (distinct : handles.Nodup)
    (member : handle ∈ handles) {outcomes : List Collected}
    (listed : outcomes.map Collected.key = handles.filterMap ends) :
    (outcomes.filter (fun outcome => outcome.handle = handle)).map (fun outcome => outcome.decoded) =
      ((ends handle).map Prod.snd).toList := by
  have keys : (outcomes.filter (fun outcome => outcome.handle = handle)).map (fun outcome => outcome.decoded) =
      ((outcomes.map Collected.key).filter (fun key => key.1 = handle)).map Prod.snd := by
    rw [List.filter_map, List.map_map]
    rfl
  rw [keys, listed]
  clear keys listed
  induction handles with
  | nil => simp at member
  | cons first rest ih =>
    rw [List.nodup_cons] at distinct
    rcases List.mem_cons.mp member with rfl | behind
    · have others : (rest.filterMap ends).filter (fun key => key.1 = handle) = [] := by
        rw [List.filter_eq_nil_iff]
        intro key found same
        obtain ⟨other, present, ends'⟩ := List.mem_filterMap.mp found
        have mine := own other key ends'
        simp only [decide_eq_true_eq] at same
        exact distinct.1 (same ▸ mine ▸ present)
      cases ended : ends handle with
      | none => simp [ended, others]
      | some key => simp [ended, others, own handle key ended]
    · have different : first ≠ handle := fun same => distinct.1 (same ▸ behind)
      cases ended : ends first with
      | none => simpa [ended] using ih distinct.2 behind
      | some key => simpa [ended, own first key ended, different] using ih distinct.2 behind

theorem endsWith_own {other : JobHandle} {key : JobHandle × ExecutionResult}
    (ended : endsWith services channel feed other = some key) : key.1 = other := by
  unfold endsWith at ended
  split at ended
  · cases ended
    rfl
  · cases ended

theorem concluded_own {other : JobHandle} {key : JobHandle × ExecutionResult}
    (ended : concluded services channel other = some key) : key.1 = other := by
  unfold concluded at ended
  split at ended
  · cases ended
  · split at ended
    · cases ended
    · cases ended
      rfl

theorem nodup_of_apart (apart : handles.Pairwise Apart) : handles.Nodup :=
  apart.imp fun away same => away.1 (congrArg JobHandle.executionId same)

/-- For handles whose messages have all been received: a final result that decodes reaches settlement
once, and its handle is not cancelled, exactly if it survives the first faulty handle. -/
theorem result_handedOnce_iff (apart : handles.Pairwise Apart) (tracked : Tracked channel handles)
    (arrived : ∀ other ∈ handles, Arrived channel feed other) (member : handle ∈ handles)
    {payload : Record} {decoded : ExecutionResult}
    (final : conclude services channel handle = some payload)
    (decodes : services.decode handle payload = .ok decoded) :
    HandedOnce services channel feed handles handle decoded ↔
      Survives services channel handle handles := by
  have distinct := nodup_of_apart apart
  rcases first_faulty services channel handles with quiet | ⟨before, first, after, split, faulty, quiet⟩
  · -- nothing raises: reaping hands the result over itself
    have silent : ∀ other ∈ handles, ∀ text, fate services channel other (feed other) ≠ some (.error text) :=
      fun other present text fault => quiet other present ((fate_error_iff (arrived other present)).mp ⟨text, fault⟩)
    obtain ⟨all, result, keys⟩ := reapCompleted_quiet apart [] silent
    have handed : handOver services channel feed handles = (all, []) := by
      unfold handOver
      rcases reaped : reapCompleted services feed handles channel [] with ⟨after, answer⟩
      rw [reaped] at result
      subst result
      rfl
    refine iff_of_true ⟨?_, by simp [handed]⟩ (survives_of_faultless quiet)
    rw [handed, outcomes_of_handle (fun _ _ => endsWith_own) distinct member (by simpa using keys),
      endsWith_of_conclude (arrived handle member) final decodes]
    rfl
  · obtain ⟨text, fault⟩ := (fate_error_iff (arrived first (by simp [split]))).mpr faulty
    have silent : ∀ other ∈ before, ∀ text, fate services channel other (feed other) ≠ some (.error text) :=
      fun other present text fault =>
        quiet other present ((fate_error_iff (arrived other (by simp [split, present]))).mp ⟨text, fault⟩)
    have upTo : ∀ other ∈ before ++ [first], other ∈ handles := by
      intro other present
      rw [split]
      rcases List.mem_append.mp present with old | last
      · exact List.mem_append_left _ old
      · simp_all
    obtain ⟨raised, result, spent, untouched⟩ := reapCompleted_raises (split ▸ apart) []
      (fun other present => arrived other (upTo other present)) silent fault
    rw [← split] at result
    have stillTracked : Tracked raised handles := by
      have fewer := @handles_reapCompleted _ services channel feed handles []
      rw [result] at fewer
      exact fun registered known => tracked registered (fewer known)
    have arrivedAfter : ∀ other ∈ handles, Arrived raised feed other := by
      intro other present
      rw [split, ← List.singleton_append, ← List.append_assoc] at present
      rcases List.mem_append.mp present with early | late
      · exact (spent other early).2
      · exact arrived_congr (untouched other late) (arrived other (by simp [split, late]))
    -- the channel that the abort starts from
    generalize drained_eq : (drainActiveSignals services raised feed (handles.map JobHandle.jobUid)).1 = drained
    have kept : ∀ other ∈ handles, conclude services drained other = conclude services raised other ∧
        Arrived drained feed other := fun other present =>
      drained_eq ▸ drainActiveSignals_keeps stillTracked _ (arrivedAfter other present) present
    have early : ∀ other ∈ before ++ [first], conclude services drained other = none := fun other present =>
      (kept other (upTo other present)).1.trans (spent other present).1
    have late : ∀ other ∈ after, conclude services drained other = conclude services channel other :=
      fun other present => (kept other (by simp [split, present])).1.trans (conclude_congr (untouched other present))
    have undecodable_late : ∀ other ∈ after,
        (Undecodable services drained other ↔ Undecodable services channel other) := by
      intro other present
      unfold Undecodable
      rw [late other present]
    have abort : handOver services channel feed handles =
        match abortInFlight services drained feed handles with
        | (_, .ok outcome) => (outcome.completed, outcome.cancelled)
        | (_, .error _) => ([], []) := by
      unfold handOver
      rw [result]
      dsimp only
      rw [drained_eq]
    rw [split, survives_split quiet faulty, ← split]
    by_cases readable : ∀ later ∈ after, ¬ Undecodable services channel later
    · have decodable : ∀ other ∈ handles, ¬ Undecodable services drained other := by
        intro other present
        rw [split, ← List.singleton_append, ← List.append_assoc] at present
        rcases List.mem_append.mp present with before | behind
        · rintro ⟨found, reason, some, -⟩
          simp [early other before] at some
        · exact (undecodable_late other behind).not.mpr (readable other behind)
      obtain ⟨last, outcome, aborted, keys, cancelled⟩ := abortInFlight_quiet apart
        (fun other present => (kept other present).2) decodable
      have handed : handOver services channel feed handles = (outcome.completed, outcome.cancelled) := by
        rw [abort, aborted]
      have completed := outcomes_of_handle (fun _ _ => concluded_own) distinct member keys
      unfold HandedOnce
      rw [handed, completed, cancelled]
      by_cases behind : handle ∈ after
      · have own : conclude services drained handle = some payload := (late handle behind).trans final
        exact iff_of_true (by simp [concluded, own, decodes]) ⟨behind, readable⟩
      · have present : handle ∈ before ++ [first] := by
          rw [split, ← List.singleton_append, ← List.append_assoc] at member
          exact (List.mem_append.mp member).resolve_right behind
        exact iff_of_false (by simp [concluded, early handle present]) (fun survives => behind survives.1)
    · push Not at readable
      obtain ⟨later, behind, refused⟩ := readable
      obtain ⟨last, reason, aborted⟩ := abortInFlight_raises apart (fun other present => (kept other present).2)
        (by simp [split, behind] : later ∈ handles) ((undecodable_late later behind).mpr refused)
      have handed : handOver services channel feed handles = ([], []) := by
        rw [abort, aborted]
      exact iff_of_false (by simp [HandedOnce, handed]) (fun survives => survives.2 later behind refused)

section Sample

def sampleServices : ChannelServices Unit where
  declare := fun declared _ => .ok declared
  decode := fun _ payload =>
    .ok { success := Record.get payload "status" = .str "success" ∧ payload.contains "raw_result" }
  processDeath := fun _ _ => {}

def finishedHandle : JobHandle := ⟨"t::a", "run.1", by decide⟩

def brokenHandle : JobHandle := ⟨"t::b", "run.2", by decide⟩

/-- One worker has sent its result, the other a frame that is not JSON. -/
def sampleReceivers (executionId : String) : Option (List PipeItem) :=
  if executionId = "run.1" then
    some [.result (.obj [("status", .str "success"), ("raw_result", .null)])]
  else if executionId = "run.2" then some [.exception "invalid worker pipe JSON frame"]
  else none

def sampleChannel : Channel Unit :=
  { ((Channel.start ()).register finishedHandle).register brokenHandle with receivers := sampleReceivers }

def sampleFeed : JobHandle → Feed := fun _ => ⟨1, true, false, false⟩

theorem sampleChannel_arrived (handle : JobHandle) : Arrived sampleChannel sampleFeed handle := by
  intro items unread
  simp only [sampleChannel, sampleReceivers] at unread
  split at unread
  · cases unread
    rfl
  · split at unread
    · cases unread
      rfl
    · cases unread

theorem sampleChannel_tracked : Tracked sampleChannel [brokenHandle, finishedHandle] := by
  unfold Tracked Apart
  decide

/-- The broken worker first: the finished one's result survives. -/
theorem result_handedOnce_behind :
    Survives sampleServices sampleChannel finishedHandle [brokenHandle, finishedHandle] := by
  refine (@result_handedOnce_iff _ _ _ sampleFeed _ _ (by unfold Apart; decide) sampleChannel_tracked
    (fun other _ => sampleChannel_arrived other) (by decide)
    (Dict.ofPairs [("status", .str "success"), ("raw_result", .null)]) { success := true }
    (by decide) (by decide)).mp ⟨by decide, by decide⟩

/-- The broken worker last: the result that was already collected is gone, and its handle cancelled. -/
theorem result_discarded_by_later_error :
    conclude sampleServices sampleChannel finishedHandle =
        some (Dict.ofPairs [("status", .str "success"), ("raw_result", .null)]) ∧
      (handOver sampleServices sampleChannel sampleFeed [finishedHandle, brokenHandle]).1 = [] ∧
      (handOver sampleServices sampleChannel sampleFeed [finishedHandle, brokenHandle]).2 =
        [finishedHandle, brokenHandle] ∧
      ∀ decoded, ¬ HandedOnce sampleServices sampleChannel sampleFeed [finishedHandle, brokenHandle]
        finishedHandle decoded := by
  have nothing : (handOver sampleServices sampleChannel sampleFeed [finishedHandle, brokenHandle]).1 = [] := by
    decide
  refine ⟨by decide, nothing, by decide, fun decoded handed => ?_⟩
  simpa [nothing] using handed.1

end Sample

end Tasklite.Engine.Handover
