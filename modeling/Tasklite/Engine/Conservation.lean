import Tasklite.Engine.Ownership

/-! Conservation of suspend signals over whole runs of the channel. -/

namespace Tasklite.Engine.Conservation
open Tasklite.Library Tasklite.Models Tasklite.Engine.Channel Tasklite.Engine.Slots
open Tasklite.Engine.Reaping Tasklite.Engine.Aborting Tasklite.Engine.Signals Tasklite.Engine.Ownership

variable {δ : Type} {services : ChannelServices δ} {channel before after : Channel δ}
  {feed : JobHandle → Feed} {handle neighbour : JobHandle} {handles : List JobHandle}

section Abort

/-- Taking a final result out of the channel salvages its signals, unless it cannot be decoded. -/
theorem consumeResultIfPresent_balanced :
    ∃ out, Balanced channel (consumeResultIfPresent services channel handle).1 out ∧
      ((consumeResultIfPresent services channel handle).2 = .ok none → out = []) ∧
      (∀ collected, (consumeResultIfPresent services channel handle).2 = .ok (some collected) →
        collected.handle = handle ∧ collected.salvaged = out) ∧
      (Mute channel handle → out = []) := by
  unfold consumeResultIfPresent
  split
  · exact ⟨[], Balanced.refl channel, fun _ => rfl, by simp, fun _ => rfl⟩
  · split
    · exact ⟨[], Balanced.refl channel, by simp, by simp, fun _ => rfl⟩
    · refine ⟨channel.undrained handle.jobUid, ?_, by simp, ?_, And.left⟩
      · exact @balanced_salvageSignals _ channel handle.jobUid
      · intro collected same
        simp only [Except.ok.injEq, Option.some.injEq] at same
        subst same
        exact ⟨rfl, rfl⟩

theorem look_balanced :
    ∃ out, Balanced channel (look services feed channel handle).1 out ∧
      ((look services feed channel handle).2 = .ok none → out = []) ∧
      (∀ collected, (look services feed channel handle).2 = .ok (some collected) →
        collected.handle = handle ∧ collected.salvaged = out) ∧
      (Mute channel handle → out = []) := by
  obtain ⟨out, balanced, absent, salvaged, mute⟩ := @consumeResultIfPresent_balanced _ services
    (receiveAvailable services channel handle (feed handle).available) handle
  exact ⟨out, (balanced_receiveAvailable _).trans balanced, absent, salvaged,
    fun quiet => mute (mute_receiveAvailable quiet _)⟩

theorem deaf_look : Deaf handle channel (look services feed channel handle).1 :=
  (deaf_receiveAvailable _).trans deaf_consumeResultIfPresent

theorem mute_salvageSignals (mute : Mute channel handle) (jobUid : String) :
    Mute (salvageSignals channel jobUid).1 handle := by
  refine ⟨?_, mute.2⟩
  have nothing := mute.1
  simp only [undrained, salvageSignals, List.filter_filter, List.filter_eq_nil_iff] at nothing ⊢
  intro signal member same
  simp only [Bool.and_eq_true] at same
  exact nothing signal member same.1

theorem mute_closeHandle (mute : Mute channel handle) : Mute (closeHandle channel handle) handle :=
  ⟨mute.1, fun items unread => by simp [closeHandle] at unread⟩

theorem mute_look (mute : Mute channel handle) : Mute (look services feed channel handle).1 handle := by
  have received := @mute_receiveAvailable _ services _ _ mute (feed handle).available
  unfold look consumeResultIfPresent
  split
  · exact received
  · split
    · exact ⟨received.1, received.2⟩
    · exact ⟨(mute_salvageSignals received handle.jobUid).1, received.2⟩

/-- A step for one of several mute handles that are apart from each other keeps them all mute. -/
theorem muteAll_step {first : JobHandle} (apart : handles.Pairwise Apart) (member : first ∈ handles)
    (deaf : Deaf first before after) (own : Mute before first → Mute after first)
    (mute : ∀ handle ∈ handles, Mute before handle) : ∀ handle ∈ handles, Mute after handle := by
  intro handle present
  by_cases same : handle = first
  · exact same ▸ own (mute first member)
  · exact (deaf.mute_iff (apart_of_ne apart present member same)).mpr (mute handle present)

section Passes

variable {scope : List JobHandle} (apart : scope.Pairwise Apart)

include apart

/-- The first pass of an abort, over a part of the handles of the call. -/
theorem classify_balanced (within : handles ⊆ scope) (done : List Collected) (waiting : List JobHandle) :
    ∃ out, Balanced channel (classify services feed handles channel done waiting).1 out ∧
      (∀ all left, (classify services feed handles channel done waiting).2 = .ok (all, left) →
        salvagedIn all = salvagedIn done ++ out ∧
        (all.map Collected.handle ++ left).Perm (done.map Collected.handle ++ waiting ++ handles)) ∧
      ((∀ handle ∈ scope, Mute channel handle) → out = [] ∧ ∀ handle ∈ scope,
        Mute (classify services feed handles channel done waiting).1 handle) := by
  induction handles generalizing channel done waiting with
  | nil =>
    refine ⟨[], Balanced.refl channel, ?_, fun mute => ⟨rfl, mute⟩⟩
    intro all left same
    simp only [classify, Except.ok.injEq, Prod.mk.injEq] at same
    simp [← same.1, ← same.2]
  | cons first rest ih =>
    obtain ⟨out, balanced, absent, salvaged, mute⟩ := @look_balanced _ services channel feed first
    have quiet : (∀ handle ∈ scope, Mute channel handle) →
        ∀ handle ∈ scope, Mute (look services feed channel first).1 handle :=
      muteAll_step apart (within List.mem_cons_self) deaf_look mute_look
    have member : first ∈ scope := within List.mem_cons_self
    have tail := fun done waiting => @ih (look services feed channel first).1
      (fun handle present => within (List.mem_cons_of_mem _ present)) done waiting
    rw [classify_cons]
    rcases step : look services feed channel first with ⟨after, answer⟩
    rw [step] at balanced absent salvaged quiet tail
    cases answer with
    | error text => exact ⟨out, balanced, by simp, fun all => ⟨mute (all first member), quiet all⟩⟩
    | ok found =>
      cases found with
      | none =>
        obtain ⟨more, later, returned, calm⟩ := tail done (waiting ++ [first])
        rw [absent rfl] at balanced
        refine ⟨more, balanced.trans later, fun all left same => ?_, fun all => calm (quiet all)⟩
        obtain ⟨merged, listed⟩ := returned all left same
        exact ⟨merged, by simpa using listed⟩
      | some outcome =>
        obtain ⟨more, later, returned, calm⟩ := tail (done ++ [outcome]) waiting
        obtain ⟨mine, taken⟩ := salvaged outcome rfl
        refine ⟨out ++ more, balanced.trans later, fun all left same => ?_, fun all => ?_⟩
        · obtain ⟨merged, listed⟩ := returned all left same
          refine ⟨by simp [merged, taken], listed.trans ?_⟩
          simp only [List.map_append, List.map_cons, List.map_nil, mine, List.append_assoc]
          exact List.Perm.append_left _ (List.perm_append_comm_assoc [first] waiting rest)
        · rw [mute (all first member), (calm (quiet all)).1]
          exact ⟨rfl, (calm (quiet all)).2⟩

theorem closeDone_balanced {done : List Collected} (within : done.map Collected.handle ⊆ scope) :
    ∃ out, Balanced channel (closeDone services done channel).1 out ∧
      (∀ signal, (salvagedIn (closeDone services done channel).2).count signal =
        (salvagedIn done).count signal + out.count signal) ∧
      (closeDone services done channel).2.map Collected.handle = done.map Collected.handle ∧
      ((∀ handle ∈ scope, Mute channel handle) → out = [] ∧ ∀ handle ∈ scope,
        Mute (closeDone services done channel).1 handle) := by
  induction done generalizing channel with
  | nil => exact ⟨[], Balanced.refl channel, by simp [closeDone, salvagedIn], rfl, fun mute => ⟨rfl, mute⟩⟩
  | cons outcome rest ih =>
    have member : outcome.handle ∈ scope := within (by simp)
    simp only [closeDone]
    generalize closed_eq : clearError (closeHandle (salvageSignals (drainFinished services channel
      outcome.handle) outcome.handle.jobUid).1 outcome.handle) outcome.handle = closed
    have salvaged : Balanced channel closed
        (salvageSignals (drainFinished services channel outcome.handle) outcome.handle.jobUid).2 := by
      have whole := (@balanced_drainFinished _ services channel outcome.handle).trans
        (balanced_salvageSignals outcome.handle.jobUid)
      intro signal
      rw [← closed_eq]
      exact whole signal
    have deaf : Deaf outcome.handle channel closed := closed_eq ▸ deaf_drainFinished.trans
      (deaf_salvageSignals.trans (deaf_closeHandle.trans deaf_clearError))
    have own : Mute channel outcome.handle → Mute closed outcome.handle := fun mute =>
      closed_eq ▸ mute_closeHandle (mute_salvageSignals (mute_drainFinished mute) _)
    obtain ⟨more, later, counted, named, calm⟩ := @ih closed (fun handle present => within (by
      simp only [List.map_cons, List.mem_cons]
      exact Or.inr present))
    refine ⟨_, salvaged.trans later, fun signal => ?_, by simp [named], fun mute => ?_⟩
    · have rest := counted signal
      simp only [salvagedIn, List.flatMap_cons, List.count_append] at rest ⊢
      omega
    · have quiet := muteAll_step apart member deaf own mute
      have nothing : (salvageSignals (drainFinished services channel outcome.handle)
          outcome.handle.jobUid).2 = [] := (mute_drainFinished (mute outcome.handle member)).1
      rw [nothing, (calm quiet).1]
      exact ⟨rfl, (calm quiet).2⟩

/-- All signals that an outcome of an abort carries. -/
def outgoing (outcome : AbortOutcome) : List SuspendSignal :=
  salvagedIn outcome.completed ++ outcome.salvagedSignals

omit apart in
/-- The second pass settles one handle: the channel after it, and the signals taken out. -/
theorem settle_balanced :
    ∃ out, Balanced channel (consumeResultIfPresent services (drainFinished services channel handle) handle).1
        out ∧
      ((consumeResultIfPresent services (drainFinished services channel handle) handle).2 = .ok none →
        out = []) ∧
      (∀ collected, (consumeResultIfPresent services (drainFinished services channel handle) handle).2 =
        .ok (some collected) → collected.handle = handle ∧ collected.salvaged = out) ∧
      (Mute channel handle → out = []) := by
  obtain ⟨out, balanced, absent, salvaged, mute⟩ := @consumeResultIfPresent_balanced _ services
    (drainFinished services channel handle) handle
  exact ⟨out, balanced_drainFinished.trans balanced, absent, salvaged,
    fun quiet => mute (mute_drainFinished quiet)⟩

theorem settleWaiting_balanced (within : handles ⊆ scope) (outcome : AbortOutcome) :
    ∃ out, Balanced channel (settleWaiting services handles channel outcome).1 out ∧
      (∀ settled, (settleWaiting services handles channel outcome).2 = .ok settled →
        (∀ signal, (outgoing settled).count signal = (outgoing outcome).count signal + out.count signal) ∧
        (settled.completed.map Collected.handle ++ settled.cancelled).Perm
          (outcome.completed.map Collected.handle ++ outcome.cancelled ++ handles)) ∧
      ((∀ handle ∈ scope, Mute channel handle) → out = []) := by
  induction handles generalizing channel outcome with
  | nil =>
    refine ⟨[], Balanced.refl channel, ?_, fun _ => rfl⟩
    intro settled same
    simp only [settleWaiting, Except.ok.injEq] at same
    simp [← same]
  | cons first rest ih =>
    have member : first ∈ scope := within List.mem_cons_self
    have behind : rest ⊆ scope := fun handle present => within (List.mem_cons_of_mem _ present)
    obtain ⟨out, balanced, absent, salvaged, mute⟩ := @settle_balanced _ services channel first
    have deaf : Deaf first channel (consumeResultIfPresent services
        (drainFinished services channel first) first).1 := deaf_drainFinished.trans deaf_consumeResultIfPresent
    have own : Mute channel first → Mute (consumeResultIfPresent services
        (drainFinished services channel first) first).1 first := fun quiet => by
      have drained := @mute_drainFinished _ services _ _ quiet
      unfold consumeResultIfPresent
      split
      · exact drained
      · split
        · exact ⟨drained.1, drained.2⟩
        · exact ⟨(mute_salvageSignals drained first.jobUid).1, drained.2⟩
    rw [settleWaiting]
    rcases step : consumeResultIfPresent services (drainFinished services channel first) first with
      ⟨after, answer⟩
    rw [step] at balanced absent salvaged deaf own
    cases answer with
    | error text => exact ⟨out, balanced, by simp, fun all => mute (all first member)⟩
    | ok found =>
      cases found with
      | some collected =>
        obtain ⟨mine, taken⟩ := salvaged collected rfl
        have closing : Balanced channel (clearError (closeHandle after first) first) out := balanced
        obtain ⟨more, later, returned, calm⟩ := @ih (clearError (closeHandle after first) first)
          behind { outcome with completed := outcome.completed ++ [collected] }
        refine ⟨out ++ more, closing.trans later, fun settled same => ?_, fun all => ?_⟩
        · obtain ⟨counted, listed⟩ := returned settled same
          refine ⟨fun signal => ?_, listed.trans ?_⟩
          · have total := counted signal
            simp only [outgoing, salvagedIn_append, salvagedIn_singleton, taken, List.count_append] at total ⊢
            omega
          · simp only [List.map_append, List.map_cons, List.map_nil, mine, List.append_assoc]
            exact List.Perm.append_left _ (List.perm_append_comm_assoc [first] outcome.cancelled rest)
        · have quiet := muteAll_step apart member
            (deaf.trans (deaf_closeHandle.trans deaf_clearError))
            (fun mute => mute_closeHandle (own mute)) all
          rw [mute (all first member), calm quiet]
          rfl
      | none =>
        have emptied := absent rfl
        subst emptied
        have salvage := balanced.trans (@balanced_salvageSignals _ after first.jobUid)
        have closing : Balanced channel (clearError (closeHandle (salvageSignals after first.jobUid).1 first)
            first) (salvageSignals after first.jobUid).2 := salvage
        obtain ⟨more, later, returned, calm⟩ :=
          @ih (clearError (closeHandle (salvageSignals after first.jobUid).1 first) first) behind
          { outcome with
            cancelled := outcome.cancelled ++ [first]
            salvagedSignals := outcome.salvagedSignals ++ (salvageSignals after first.jobUid).2 }
        refine ⟨_, closing.trans later, fun settled same => ?_, fun all => ?_⟩
        · obtain ⟨counted, listed⟩ := returned settled same
          refine ⟨fun signal => ?_, by simpa using listed⟩
          have total := counted signal
          simp only [outgoing, List.count_append] at total ⊢
          omega
        · have quiet := muteAll_step apart member
            (deaf.trans (deaf_salvageSignals.trans (deaf_closeHandle.trans deaf_clearError)))
            (fun mute => mute_closeHandle (mute_salvageSignals (own mute) _)) all
          have nothing : (salvageSignals after first.jobUid).2 = [] := (own (all first member)).1
          rw [nothing, calm quiet]
          rfl

end Passes

/-- An abort is balanced, its outcome carries what it salvaged, and it puts every handle in one of its
two lists. When no signal is waiting at its handles, it salvages none. -/
theorem abortInFlight_balanced (apart : handles.Pairwise Apart) :
    ∃ out, Balanced channel (abortInFlight services channel feed handles).1 out ∧
      (∀ outcome, (abortInFlight services channel feed handles).2 = .ok outcome →
        (∀ signal, (outgoing outcome).count signal = out.count signal) ∧
        (outcome.completed.map Collected.handle ++ outcome.cancelled).Perm handles) ∧
      ((∀ handle ∈ handles, Mute channel handle) → out = []) := by
  obtain ⟨out, balanced, returned, calm⟩ :=
    @classify_balanced _ services channel feed _ _ apart (List.Subset.refl handles) [] []
  unfold abortInFlight
  rcases first : classify services feed handles channel [] [] with ⟨classified, answer⟩
  rw [first] at balanced returned calm
  cases answer with
  | error text => exact ⟨out, balanced, by simp, fun mute => (calm mute).1⟩
  | ok found =>
    rcases found with ⟨done, waiting⟩
    obtain ⟨merged, listed⟩ := returned done waiting rfl
    simp only [List.map_nil, List.nil_append] at listed
    have inside : ∀ handle, handle ∈ done.map Collected.handle ++ waiting → handle ∈ handles :=
      fun handle present => listed.mem_iff.mp present
    obtain ⟨more, closed, counted, named, still⟩ := @closeDone_balanced _ services classified _ apart _
      (fun handle present => inside handle (List.mem_append_left _ present))
    obtain ⟨last, settled, final, silent⟩ := @settleWaiting_balanced _ services
      (closeDone services done classified).1 _ _ apart
      (fun handle present => inside handle (List.mem_append_right _ present))
      ⟨(closeDone services done classified).2, [], []⟩
    refine ⟨_, (balanced.trans closed).trans settled, fun outcome same => ?_, fun mute => ?_⟩
    · obtain ⟨total, all⟩ := final outcome same
      refine ⟨fun signal => ?_, all.trans ?_⟩
      · have one := total signal
        have two := counted signal
        rw [merged] at two
        simp only [outgoing, List.append_nil, List.count_append, salvagedIn_nil, List.nil_append] at one two ⊢
        omega
      · simpa [named] using listed
    · obtain ⟨nothing, quiet⟩ := calm mute
      obtain ⟨nothing', quiet'⟩ := still quiet
      rw [nothing, nothing', silent quiet']
      rfl

/-- A final result of the handle, before or after its pipe is read to the end, cannot be decoded. -/
def Refused (services : ChannelServices δ) (channel : Channel δ) (feed : JobHandle → Feed)
    (handle : JobHandle) : Prop :=
  ∃ payload text, (finalPayload (receiveAvailable services channel handle (feed handle).available) handle =
      some payload ∨ conclude services channel handle = some payload) ∧
    services.decode handle payload = .error text

/-- One step of the first pass: it raises only for a refused result, and a handle without a result yet
keeps the one it will have. -/
theorem look_cases (accepted : ¬ Refused services channel feed handle) :
    (∃ collected, (look services feed channel handle).2 = .ok (some collected) ∧
      collected.handle = handle) ∨
    ((look services feed channel handle).2 = .ok none ∧
      conclude services (look services feed channel handle).1 handle = conclude services channel handle) := by
  unfold look consumeResultIfPresent
  cases found : finalPayload (receiveAvailable services channel handle (feed handle).available) handle with
  | none =>
    refine Or.inr ⟨rfl, ?_⟩
    unfold conclude
    rw [drain_receive]
  | some payload =>
    cases decodes : services.decode handle payload with
    | error text => exact absurd ⟨payload, text, Or.inl found, decodes⟩ accepted
    | ok decoded =>
      left
      simp only [decodes, Except.ok.injEq, Option.some.injEq, exists_eq_left']

theorem refused_congr (same : slot before handle = slot after handle) :
    Refused services before feed handle ↔ Refused services after feed handle := by
  unfold Refused
  rw [conclude_congr same, finalPayload_congr (slot_receiveAvailable_congr same _)]

/-- The first pass over handles none of which is refused. -/
theorem classify_total (apart : handles.Pairwise Apart) (done : List Collected) (waiting : List JobHandle)
    (accepted : ∀ handle ∈ handles, ¬ Refused services channel feed handle) :
    ∃ final all left, classify services feed handles channel done waiting =
        (final, .ok (all, waiting ++ left)) ∧ left.Sublist handles ∧
      (∀ outcome ∈ all, outcome ∈ done ∨ outcome.handle ∈ handles ∧ outcome.handle ∉ left) ∧
      (∀ handle ∈ left, conclude services final handle = conclude services channel handle) ∧
      ∀ neighbour, (∀ handle ∈ handles, Apart neighbour handle) →
        slot final neighbour = slot channel neighbour := by
  induction handles generalizing channel done waiting with
  | nil => exact ⟨channel, done, [], by simp [classify], .slnil, fun _ old => Or.inl old, by simp, fun _ _ => rfl⟩
  | cons first rest ih =>
    have moved := @local_look _ services channel feed first
    have kept : ∀ handle ∈ rest, slot (look services feed channel first).1 handle = slot channel handle :=
      fun handle member => slots_behind apart moved member
    have tail := fun done waiting => @ih (look services feed channel first).1 apart.of_cons done
      waiting fun handle member => (refused_congr (kept handle member)).not.mpr
        (accepted handle (List.mem_cons_of_mem _ member))
    have distinct : first ∉ rest := fun member =>
      (List.rel_of_pairwise_cons apart member).1 rfl
    have outside : ∀ {final : Channel δ}, (∀ neighbour, (∀ handle ∈ rest, Apart neighbour handle) →
          slot final neighbour = slot (look services feed channel first).1 neighbour) →
        ∀ neighbour, (∀ handle ∈ first :: rest, Apart neighbour handle) →
          slot final neighbour = slot channel neighbour :=
      fun still neighbour away => (still neighbour fun handle member => away handle (by simp [member])).trans
        (moved neighbour (away first List.mem_cons_self))
    rw [classify_cons]
    rcases look_cases (accepted first List.mem_cons_self) with ⟨collected, found, mine⟩ | ⟨none, kept_end⟩
    · obtain ⟨final, all, left, result, sub, origin, still, others⟩ := tail (done ++ [collected]) waiting
      refine ⟨final, all, left, ?_, sub.cons first, fun outcome member => ?_, fun handle member => ?_,
        outside others⟩
      · rcases step : look services feed channel first with ⟨after, answer⟩
        rw [step] at found result
        subst found
        exact result
      · rcases origin outcome member with old | ⟨inside, absent⟩
        · rcases List.mem_append.mp old with older | new
          · exact Or.inl older
          · obtain rfl : outcome = collected := by simpa using new
            exact Or.inr ⟨mine ▸ List.mem_cons_self, fun present => distinct (sub.subset (mine ▸ present))⟩
        · exact Or.inr ⟨List.mem_cons_of_mem _ inside, absent⟩
      · exact (still handle member).trans (conclude_congr (kept handle (sub.subset member)))
    · obtain ⟨final, all, left, result, sub, origin, still, others⟩ := tail done (waiting ++ [first])
      refine ⟨final, all, first :: left, ?_, sub.cons_cons first, fun outcome member => ?_,
        fun handle member => ?_, outside others⟩
      · rcases step : look services feed channel first with ⟨after, answer⟩
        rw [step] at none result
        subst none
        simpa using result
      · rcases origin outcome member with old | ⟨inside, absent⟩
        · exact Or.inl old
        · refine Or.inr ⟨List.mem_cons_of_mem _ inside, fun present => ?_⟩
          rcases List.mem_cons.mp present with same | behind
          · exact distinct (same ▸ inside)
          · exact absent behind
      · rcases List.mem_cons.mp member with rfl | behind
        · have stays := others handle fun other present => List.rel_of_pairwise_cons apart present
          exact (conclude_congr stays).trans kept_end
        · exact (still handle behind).trans (conclude_congr (kept handle (sub.subset behind)))

/-- The second pass over handles whose final results, if any, can be decoded. -/
theorem settleWaiting_total (apart : handles.Pairwise Apart) (outcome : AbortOutcome)
    (decodes : ∀ handle ∈ handles, ¬ Undecodable services channel handle) :
    ∃ final settled, settleWaiting services handles channel outcome = (final, .ok settled) := by
  induction handles generalizing channel outcome with
  | nil => exact ⟨channel, outcome, rfl⟩
  | cons first rest ih =>
    have moved : Local first channel (consumeResultIfPresent services
        (drainFinished services channel first) first).1 := local_drainFinished.trans local_consumeResultIfPresent
    have readable : ∀ {next : Channel δ}, Local first channel next →
        ∀ handle ∈ rest, ¬ Undecodable services next handle := fun step handle member =>
      (undecodable_congr (slots_behind apart step member)).not.mpr (decodes handle (List.mem_cons_of_mem _ member))
    rw [settleWaiting]
    rcases step : consumeResultIfPresent services (drainFinished services channel first) first with
      ⟨after, answer⟩
    rw [step] at moved
    cases answer with
    | error text =>
      exfalso
      unfold consumeResultIfPresent at step
      split at step
      · cases step
      · rename_i payload found
        dsimp only at step
        cases refusal : services.decode first payload with
        | error text => exact decodes first List.mem_cons_self ⟨payload, text, found, refusal⟩
        | ok decoded => simp [refusal] at step
    | ok found =>
      cases found with
      | some collected =>
        exact ih apart.of_cons _ (readable (moved.trans (local_closeHandle.trans local_clearError)))
      | none =>
        refine ih apart.of_cons _ (readable (moved.trans ?_))
        exact Local.trans (fun _ _ => rfl) (local_closeHandle.trans local_clearError)

/-- An abort returns unless it meets a refused result. -/
theorem abortInFlight_total (apart : handles.Pairwise Apart)
    (accepted : ∀ handle ∈ handles, ¬ Refused services channel feed handle) :
    ∃ final outcome, abortInFlight services channel feed handles = (final, .ok outcome) := by
  obtain ⟨classified, all, left, result, sub, origin, still, -⟩ := classify_total apart [] [] accepted
  have kept := (@closeDone_keys _ services classified all).2
  have away : ∀ handle ∈ left, ∀ outcome ∈ all, Apart handle outcome.handle := by
    intro handle waits outcome done
    rcases origin outcome done with old | ⟨inside, absent⟩
    · cases old
    · exact apart_of_ne apart (sub.subset waits) inside fun same => absent (same ▸ waits)
  unfold abortInFlight
  rw [result]
  refine settleWaiting_total (apart.sublist sub) _ fun handle waits => ?_
  rintro ⟨payload, text, found, refusal⟩
  rw [conclude_congr (kept handle (away handle waits)), still handle waits] at found
  exact accepted handle (sub.subset waits) ⟨payload, text, Or.inr found, refusal⟩

theorem keeps_abortInFlight (apart : handles.Pairwise Apart)
    (genuine : ∀ handle ∈ handles, Genuine channel handle) :
    Keeps channel (abortInFlight services channel feed handles).1 := by
  have first := @keeps_classify _ services _ feed _ genuine [] []
  obtain ⟨_, _, returned, _⟩ := @classify_balanced _ services channel feed _ _
    apart (List.Subset.refl handles) [] []
  unfold abortInFlight
  rcases step : classify services feed handles channel [] [] with ⟨classified, answer⟩
  rw [step] at first returned
  cases answer with
  | error text => exact first
  | ok found =>
    rcases found with ⟨done, waiting⟩
    have listed := (returned done waiting rfl).2
    have inside : ∀ handle, handle ∈ done.map Collected.handle ++ waiting → Genuine channel handle :=
      fun handle present => genuine handle (by simpa using listed.mem_iff.mp present)
    have closed := first.trans (@keeps_closeDone _ services classified done
      fun outcome member => first.genuine
        (inside outcome.handle (List.mem_append_left _ (List.mem_map_of_mem member))))
    exact closed.trans (keeps_settleWaiting (fun handle member => closed.genuine
      (inside handle (List.mem_append_right _ member))) _)

end Abort

section Run

/-- The handles of a call are the tracked ones: one for every job and every execution. -/
structure Batch where
  handles : List JobHandle
  apart : handles.Pairwise Apart

/-- What happens to a channel: workers start, items arrive, and the scheduler calls. -/
inductive Call where
  | spawn (handle : JobHandle)
  | arrive (executionId : String) (item : PipeItem)
  | drainActiveSignals (feed : JobHandle → Feed) (uids : List String)
  | reapCompleted (feed : JobHandle → Feed) (batch : Batch)
  | abortInFlight (feed : JobHandle → Feed) (batch : Batch)

/-- The channel and the signals it has handed out. -/
structure Desk (δ : Type) where
  channel : Channel δ
  handed : List SuspendSignal

/-- Handles are made by `spawn`: one that is passed to a call is not a second handle of an execution. -/
def allGenuine (channel : Channel δ) (handles : List JobHandle) : Bool :=
  handles.all fun handle => channel.handles.all fun registered =>
    registered.executionId ≠ handle.executionId ∨ registered = handle

def step (services : ChannelServices δ) (desk : Desk δ) : Call → Desk δ
  | .spawn handle =>
      if desk.channel.handles.any (fun other => other.executionId = handle.executionId) then desk
      else { desk with channel := desk.channel.register handle }
  | .arrive executionId item =>
      match desk.channel.receivers executionId with
      | none => desk
      | some items => { desk with channel := { desk.channel with
          receivers := Function.update desk.channel.receivers executionId (some (items ++ [item])) } }
  | .drainActiveSignals feed uids =>
      let (after, signals) := drainActiveSignals services desk.channel feed uids
      ⟨after, desk.handed ++ signals⟩
  | .reapCompleted feed batch =>
      if allGenuine desk.channel batch.handles then
        match reapCompleted services feed batch.handles desk.channel [] with
        | (after, .ok completed) => ⟨after, desk.handed ++ salvagedIn completed⟩
        | (after, .error _) => ⟨after, desk.handed⟩
      else desk
  | .abortInFlight feed batch =>
      if allGenuine desk.channel batch.handles then
        match abortInFlight services desk.channel feed batch.handles with
        | (after, .ok outcome) => ⟨after, desk.handed ++ outgoing outcome⟩
        | (after, .error _) => ⟨after, desk.handed⟩
      else desk

/-- A call loses no signal when it raises. -/
def Safe (services : ChannelServices δ) (desk : Desk δ) : Call → Prop
  | .reapCompleted feed batch => ReapSafe services desk.channel feed batch.handles
  | .abortInFlight feed batch =>
      (∃ handle ∈ batch.handles, Refused services desk.channel feed handle) →
        ∀ handle ∈ batch.handles, Mute desk.channel handle
  | _ => True

/-- Every accepted signal is pending or has been handed out once; a pending one belongs to a handle
that is still registered. -/
structure Conserved (desk : Desk δ) : Prop where
  counted : ∀ signal, desk.channel.accepted.count signal =
    desk.handed.count signal + desk.channel.pendingSignals.count signal
  housed : Housed desk.channel
  distinct : ∀ handle ∈ desk.channel.handles, Genuine desk.channel handle

theorem conserved_balanced {desk : Desk δ} {out : List SuspendSignal} (conserved : Conserved desk)
    (balanced : Balanced desk.channel after out) (keeps : Keeps desk.channel after)
    {handed : List SuspendSignal} (given : ∀ signal, handed.count signal = out.count signal) :
    Conserved ⟨after, desk.handed ++ handed⟩ where
  counted := fun signal => by
    have old := conserved.counted signal
    have new := balanced signal
    have same := given signal
    simp only [List.count_append]
    omega
  housed := keeps.2 conserved.housed
  distinct := fun handle member => keeps.genuine (conserved.distinct handle (keeps.1 member))

theorem genuine_of_allGenuine (genuine : allGenuine channel handles = true) :
    ∀ handle ∈ handles, Genuine channel handle := by
  intro handle member registered present identity
  simp only [allGenuine, List.all_eq_true, decide_eq_true_eq] at genuine
  exact (genuine handle member registered present).resolve_left (fun different => different identity)

theorem balanced_drainActiveSignals (uids : List String) :
    Balanced channel (drainActiveSignals services channel feed uids).1
      (drainActiveSignals services channel feed uids).2 := by
  have received : ∀ (registered : List JobHandle) (channel : Channel δ),
      Balanced channel (registered.foldl
        (fun channel handle => receiveAvailable services channel handle (feed handle).available) channel) [] := by
    intro registered
    induction registered with
    | nil => exact fun channel => Balanced.refl channel
    | cons first rest ih => exact fun channel => (balanced_receiveAvailable _).trans (ih _)
  intro signal
  have all := received (channel.handles.filter fun handle => handle.jobUid ∈ uids) channel signal
  have parts := count_partition (fun other => other.jobUid ∈ uids)
    ((channel.handles.filter fun handle => handle.jobUid ∈ uids).foldl
      (fun channel handle => receiveAvailable services channel handle (feed handle).available)
      channel).pendingSignals signal
  simp only [drainActiveSignals, List.count_nil, decide_not] at all parts ⊢
  omega

theorem conserved_spawn {desk : Desk δ} (conserved : Conserved desk)
    (fresh : ∀ other ∈ desk.channel.handles, other.executionId ≠ handle.executionId) :
    Conserved { desk with channel := desk.channel.register handle } where
  counted := conserved.counted
  housed := by
    refine ⟨fun executionId some => ?_, fun signal member => ?_⟩
    · by_cases mine : executionId = handle.executionId
      · exact ⟨handle, by simp [register], mine.symm⟩
      · obtain ⟨registered, present, identity⟩ := conserved.housed.opened executionId
          (by simpa [register, Function.update_of_ne mine] using some)
        exact ⟨registered, List.mem_append_left _ present, identity⟩
    · obtain ⟨registered, present, owner⟩ := conserved.housed.owned signal member
      exact ⟨registered, List.mem_append_left _ present, owner⟩
  distinct := by
    intro left first right second identity
    simp only [register, List.mem_append, List.mem_singleton] at first second
    rcases first with old | rfl <;> rcases second with older | rfl
    · exact conserved.distinct left old right older identity
    · exact absurd identity.symm (fresh left old)
    · exact absurd identity (fresh right older)
    · rfl

theorem conserved_step {desk : Desk δ} (call : Call) (safe : Safe services desk call)
    (conserved : Conserved desk) : Conserved (step services desk call) := by
  cases call with
  | spawn handle =>
    simp only [step]
    split
    · exact conserved
    · rename_i fresh
      refine conserved_spawn conserved fun other member same => fresh ?_
      exact List.any_eq_true.mpr ⟨other, member, by simpa using same⟩
  | arrive executionId item =>
    simp only [step]
    split
    · exact conserved
    · rename_i items unread
      refine ⟨conserved.counted, ⟨fun other some => ?_, conserved.housed.owned⟩, conserved.distinct⟩
      by_cases mine : other = executionId
      · exact conserved.housed.opened other (by simp [mine, unread])
      · exact conserved.housed.opened other (by simpa [Function.update_of_ne mine] using some)
  | drainActiveSignals feed uids =>
    exact conserved_balanced conserved (balanced_drainActiveSignals uids)
      (keeps_drainActiveSignals conserved.distinct uids) fun _ => rfl
  | reapCompleted feed batch =>
    simp only [step]
    split
    · rename_i genuine
      have keeps := @keeps_reapCompleted _ services _ feed _ (genuine_of_allGenuine genuine) []
      obtain ⟨out, balanced, returned, failed⟩ :=
        @reapCompleted_balanced _ services desk.channel feed _ batch.apart []
      rcases result : reapCompleted services feed batch.handles desk.channel [] with ⟨after, answer⟩
      rw [result] at keeps balanced returned failed
      cases answer with
      | ok completed =>
        refine conserved_balanced conserved balanced keeps fun signal => ?_
        rw [returned completed rfl]
        simp
      | error text =>
        have nothing := (failed text rfl).2 safe
        have lossless := @conserved_balanced _ _ _ _ conserved balanced keeps []
          fun signal => by rw [nothing]
        simpa using lossless
    · exact conserved
  | abortInFlight feed batch =>
    simp only [step]
    split
    · rename_i genuine
      have keeps := @keeps_abortInFlight _ services _ feed _ batch.apart
        (genuine_of_allGenuine genuine)
      obtain ⟨out, balanced, returned, silent⟩ :=
        @abortInFlight_balanced _ services desk.channel feed _ batch.apart
      rcases result : abortInFlight services desk.channel feed batch.handles with ⟨after, answer⟩
      rw [result] at keeps balanced returned
      cases answer with
      | ok outcome => exact conserved_balanced conserved balanced keeps (returned outcome rfl).1
      | error text =>
        have refused : ∃ handle ∈ batch.handles, Refused services desk.channel feed handle := by
          by_contra none
          push Not at none
          obtain ⟨final, outcome, total⟩ := abortInFlight_total batch.apart none
          simp [total] at result
        have nothing := silent (safe refused)
        have lossless := @conserved_balanced _ _ _ _ conserved balanced keeps []
          fun signal => by rw [nothing]
        simpa using lossless
    · exact conserved

/-- In every run whose raising calls leave no signal behind, each accepted signal is handed out once or
still pending for a registered handle; and an abort that returns puts each handle in one of its lists. -/
theorem signals_conserved (services : ChannelServices δ) (nothing : δ) (calls : List Call)
    (safe : Machine.Along (step services) (Safe services) ⟨Channel.start nothing, []⟩ calls) :
    Conserved (Machine.run (step services) ⟨Channel.start nothing, []⟩ calls) ∧
      ∀ feed (batch : Batch) outcome, (abortInFlight services
          (Machine.run (step services) ⟨Channel.start nothing, []⟩ calls).channel feed batch.handles).2 =
            .ok outcome →
        (outcome.completed.map Collected.handle ++ outcome.cancelled).Perm batch.handles := by
  constructor
  · refine Machine.run_invariant_along ?_ (fun _ call safe conserved => conserved_step call safe conserved) safe
    exact ⟨by simp [Channel.start], ⟨by simp [Channel.start], by simp [Channel.start]⟩, by simp [Channel.start]⟩
  · intro feed batch outcome same
    obtain ⟨_, _, returned, _⟩ := @abortInFlight_balanced _ services
      (Machine.run (step services) ⟨Channel.start nothing, []⟩ calls).channel feed _ batch.apart
    exact (returned outcome same).2

section Sample

theorem firstRun_identified : "run.1" ≠ "" := by decide

theorem secondRun_identified : "run.2" ≠ "" := by decide

def suspendingHandle : JobHandle := ⟨"t::a", "run.1", firstRun_identified⟩

def failingHandle : JobHandle := ⟨"t::b", "run.2", secondRun_identified⟩

def everything : JobHandle → Feed := fun _ => ⟨1, true, false, false⟩

/-- Every payload is a success. -/
def trustingServices : ChannelServices Unit where
  declare := fun declared _ => .ok declared
  decode := fun _ _ => .ok { success := true }
  processDeath := fun _ _ => {}

/-- One worker suspends a resource and the other sends a broken frame; the signal is drained before the
call that raises for the broken one. -/
def drainedInTime : List Call :=
  [.spawn suspendingHandle, .spawn failingHandle,
    .arrive "run.1" (.suspend (.arr [.str "api", .float 30])),
    .arrive "run.2" (.exception "invalid worker pipe JSON frame"),
    .drainActiveSignals everything ["t::a"],
    .reapCompleted everything ⟨[failingHandle], List.pairwise_singleton _ _⟩]

theorem signals_conserved_drained :
    Conserved (Machine.run (step trustingServices) ⟨Channel.start (), []⟩ drainedInTime) := by
  refine (signals_conserved trustingServices () drainedInTime ?_).1
  refine ⟨trivial, trivial, trivial, trivial, trivial, ⟨fun _ => ⟨by decide, ?_⟩, fun _ => ⟨?_, trivial⟩⟩, trivial⟩
  · intro items unread payload member
    have pipe : items = [.exception "invalid worker pipe JSON frame"] := Option.some.inj unread.symm
    simp [pipe] at member
  · rintro ⟨later, none, -⟩
    cases none

/-- One worker suspends a resource and then sends a broken frame. -/
def lostWithError : List Call :=
  [.spawn suspendingHandle,
    .arrive "run.1" (.suspend (.arr [.str "api", .float 30])),
    .arrive "run.1" (.exception "invalid worker pipe JSON frame"),
    .drainActiveSignals everything [],
    .reapCompleted (fun _ => ⟨2, true, false, false⟩) ⟨[suspendingHandle], List.pairwise_singleton _ _⟩]

/-- The signal was accepted, nobody got it, and it is not pending any more. -/
theorem signal_lost_with_error :
    (Machine.run (step trustingServices) ⟨Channel.start (), []⟩ lostWithError).channel.accepted =
        [⟨"t::a", "api", 30⟩] ∧
      (Machine.run (step trustingServices) ⟨Channel.start (), []⟩ lostWithError).handed = [] ∧
      (Machine.run (step trustingServices) ⟨Channel.start (), []⟩ lostWithError).channel.pendingSignals = [] ∧
      ¬ Conserved (Machine.run (step trustingServices) ⟨Channel.start (), []⟩ lostWithError) := by
  refine ⟨by decide, by decide, by decide, fun conserved => ?_⟩
  exact absurd (conserved.counted ⟨"t::a", "api", 30⟩) (by decide)

end Sample

end Run

end Tasklite.Engine.Conservation
