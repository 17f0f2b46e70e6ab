import Tasklite.Engine.Custody

/-! Refused commits and the custody of jobs. The struck job is given up in every case:
it is archived, or its row is back in the queue with the strike counted; the jobs of a
refused batch stay in the queue unless they are archived. -/

namespace Tasklite.Engine.Strikes
open Tasklite.Library Tasklite.Models Tasklite.Models.Identity Tasklite.Models.Coherence Tasklite.Backend
open PipelineState StateStore Ledger Custody

variable [Python] {uid : String} {row snapshot : Record} {rows source : List Record}
variable {opening held : Finset String} {state : PipelineState} {store asked after : StateStore}

section Rows

theorem rowsOf_cons_of_ne (same : jobUidFromSnapshot row = uid) {other : String} (different : other ≠ uid) :
    rowsOf other (row :: rows) = rowsOf other rows :=
  Fresh.having_cons_of_ne (by rw [same]; exact different.symm) rows

theorem rowsOf_cons_self (same : jobUidFromSnapshot row = uid) (absent : uid ∉ uidsOf rows) :
    rowsOf uid (row :: rows) = [row] := by
  subst same
  rw [rowsOf, Fresh.having_cons_self, Fresh.having_eq_nil.mpr absent]

theorem rowsOf_eq_nil : rowsOf uid rows = [] ↔ uid ∉ uidsOf rows := Fresh.having_eq_nil

/-- A row is put at one end of a queue without its uid. -/
def placed (row : Record) (rows : List Record) (front : Bool) : List Record :=
  if front then [row] ++ rows else rows ++ [row]

omit [Python] in
theorem mem_placed {other : Record} {front : Bool} : other ∈ placed row rows front ↔ other = row ∨ other ∈ rows := by
  unfold placed
  cases front <;> simp [or_comm]

theorem uidsOf_placed (row : Record) (rows : List Record) (front : Bool) :
    uidsOf (placed row rows front) = insert (jobUidFromSnapshot row) (uidsOf rows) := by
  unfold placed
  cases front <;> simp [uidsOf, Finset.union_comm]

theorem rowsOf_placed (row : Record) (rows : List Record) (front : Bool) (absent : jobUidFromSnapshot row ∉ uidsOf rows)
    (other : String) : rowsOf other (placed row rows front) = rowsOf other (row :: rows) := by
  unfold placed
  cases front
  · by_cases same : jobUidFromSnapshot row = other
    · subst same
      simp [rowsOf, Fresh.having_cons_self, Fresh.having_eq_nil.mpr absent]
    · simp [rowsOf, Fresh.having_cons_of_ne same]
  · rfl

theorem plain_placed {front : Bool} (orderly : Orderly held rows state) (identified : Identified row)
    (absent : jobUidFromSnapshot row ∉ uidsOf rows) : ∀ other ∈ placed row rows front,
      Identified other ∨ (rowsOf (jobUidFromSnapshot other) (placed row rows front)).length ≤ 1 := by
  intro other member
  rcases mem_placed.mp member with rfl | old
  · exact Or.inl identified
  · rcases orderly.plain other old with named | once
    · exact Or.inl named
    · right
      have different : jobUidFromSnapshot other ≠ jobUidFromSnapshot row := by
        intro same
        exact absent (same ▸ Fresh.key_mem_keys old)
      rw [rowsOf_placed row rows front absent, rowsOf_cons_of_ne rfl different]
      exact once

end Rows

section Events

/-- One accepted commit moves rows as it says. -/
theorem moved_event {event : Event} {rows' : List Record} (heard : Asked store asked)
    (told : after.events = asked.events ++ [event])
    (moves : ∀ uid, match verdict uid event with
      | none => rowsOf uid rows' = rowsOf uid source
      | some false => rowsOf uid rows' = []
      | some true => (rowsOf uid rows').length = 1) : Moved store source after rows' := by
  obtain ⟨news, early, quiet⟩ := heard.quiet
  refine ⟨news ++ [event], by rw [told, early, List.append_assoc], fun uid _ => ?_⟩
  have decided : lastVerdict uid (news ++ [event]) = verdict uid event := by
    rw [lastVerdict_concat, quiet uid]
    cases verdict uid event <;> rfl
  have move := moves uid
  unfold MovesAt
  rw [decided]
  cases decision : verdict uid event with
  | none =>
    rw [decision] at move
    exact ⟨0, by simpa using move⟩
  | some queued =>
    rw [decision] at move
    cases queued <;> exact move

/-- One accepted commit decides nothing about the jobs that it does not name. -/
theorem aside_event {event : Event} {held' : Finset String} (heard : Asked store asked)
    (told : after.events = asked.events ++ [event])
    (fewer : ∀ uid, Owned held' after.state uid → Owned held store.state uid ∧ verdict uid event = none) :
    Aside store held after held' := by
  obtain ⟨news, early, quiet⟩ := heard.quiet
  intro uid owned
  obtain ⟨before, silent⟩ := fewer uid owned
  refine ⟨before, fun events same => ?_⟩
  rw [told, early, List.append_assoc, List.append_cancel_left_eq] at same
  rw [← same, lastVerdict_concat, silent, quiet uid]
  rfl

omit [Python] in
/-- Giving a job up leaves the others owned. -/
theorem Owned.of_erase {state' : PipelineState} (flight : state'.inFlightUids = state.inFlightUids.erase uid)
    {other : String} (owned : Owned (held.erase uid) state' other) : Owned held state other ∧ other ≠ uid := by
  unfold Owned at owned ⊢
  rw [flight, Finset.mem_erase, Finset.mem_erase] at owned
  rcases owned with ⟨different, holding⟩ | ⟨different, flying⟩
  · exact ⟨Or.inl holding, different⟩
  · exact ⟨Or.inr flying, different⟩

/-- The rows of a job are gone after its terminal commit. -/
theorem moved_failed (heard : Asked store asked) (told : after.events = asked.events ++ [.failed [uid]])
    (same : jobUidFromSnapshot snapshot = uid) (absent : uid ∉ uidsOf rows) :
    Moved store (snapshot :: rows) after rows := by
  apply moved_event heard told
  intro other
  by_cases this : other = uid
  · subst this
    simpa [verdict] using rowsOf_eq_nil.mpr absent
  · simpa [verdict, this] using (rowsOf_cons_of_ne same this).symm

end Events

section Requeue

/-- A job that is not in flight is not there to be unregistered. -/
theorem unregisterInFlight_self (coherent : Coherent state) (landed : uid ∉ state.inFlightUids) :
    state.unregisterInFlight uid = state := by
  rw [(unregisterInFlight_eq coherent uid).1, Finset.erase_eq_of_notMem landed]

theorem orderly_requeue (orderly : Orderly held state.queue state) (owned : Owned held state uid)
    (identified : Identified row) (same : jobUidFromSnapshot row = uid) (front : Bool) :
    Orderly (held.erase uid) (placed row state.queue front)
      ((state.unregisterInFlight uid).requeueJobs [row] front) := by
  have absent := orderly.notMem_of_owned owned
  have held_apart := orderly.heldApart
  simp only [Finset.disjoint_union_right] at held_apart
  have landed : uid ∉ state.inFlightUids.erase uid := Finset.notMem_erase _ _
  have apart : Disjoint (insert uid (uidsOf state.queue)) (state.inFlightUids.erase uid) :=
    Finset.disjoint_insert_left.mpr ⟨landed, orderly.apart.mono_right (Finset.erase_subset _ _)⟩
  refine ⟨?_, plain_placed orderly identified (same ▸ absent), ?_, ?_⟩
  · apply coherent_requeueJobs (coherent_unregisterInFlight orderly.coherent uid)
    show Disjoint (uidsOf [row]) (state.inFlightUids.erase uid)
    simp [uidsOf, same]
  · rw [uidsOf_placed, same]
    exact apart
  · rw [uidsOf_placed, same]
    simp only [Finset.disjoint_union_right, Finset.disjoint_insert_right]
    refine ⟨⟨⟨Finset.notMem_erase _ _, ?_⟩, ?_⟩, ?_⟩
    · exact held_apart.1.1.mono_left (Finset.erase_subset _ _)
    · exact (held_apart.1.2.mono_left (Finset.erase_subset _ _)).mono_right (Finset.erase_subset _ _)
    · exact (held_apart.2.mono_left (Finset.erase_subset _ _)).mono_right Finset.sdiff_subset

/-- The row is put back with the refused commits counted that it has met since. -/
theorem moved_requeue {strikes : ℕ} (same : jobUidFromSnapshot row = uid) (own : jobUidFromSnapshot snapshot = uid)
    (counted : row = registerCommitFailure^[strikes] snapshot) (absent : uid ∉ uidsOf rows) (front : Bool)
    (told : after.events = store.events) : Moved store (snapshot :: rows) after (placed row rows front) := by
  refine ⟨[], by simp [told], fun other _ => ?_⟩
  unfold MovesAt
  simp only [lastVerdict]
  rw [rowsOf_placed row rows front (same ▸ absent)]
  by_cases this : other = uid
  · subst this
    exact ⟨strikes, by rw [rowsOf_cons_self same absent, rowsOf_cons_self own absent, counted, List.map_singleton]⟩
  · exact ⟨0, by simp [rowsOf_cons_of_ne same this, rowsOf_cons_of_ne own this]⟩

theorem backed_requeue (backed : Backed opening held state.queue { store with state := state })
    (owned : Owned held state uid) (identified : Identified row) (same : jobUidFromSnapshot row = uid)
    (front : Bool) :
    Backed opening (held.erase uid) (placed row state.queue front) { store with
      state := (state.unregisterInFlight uid).requeueJobs [row] front } where
  named := by
    intro other member
    rcases mem_placed.mp member with rfl | old
    · exact identified
    · exact backed.named other old
  namedDisk := backed.namedDisk
  backed := by
    rw [uidsOf_placed, same]
    have whole := backed.backed
    simp only [Finset.union_subset_iff, Finset.insert_subset_iff] at whole ⊢
    refine ⟨⟨⟨?_, whole.1.1⟩, (Finset.erase_subset _ _).trans whole.1.2⟩,
      (Finset.erase_subset _ _).trans whole.2⟩
    rcases owned with holding | flying
    · exact whole.2 holding
    · exact whole.1.2 flying
  lawful := backed.lawful
  foreseen := backed.foreseen

/-- An owned row is put back and the job is in flight no more. -/
theorem passes_requeue {strikes : ℕ} (orderly : Orderly held store.state.queue store.state)
    (owned : Owned held store.state uid) (identified : Identified row) (same : jobUidFromSnapshot row = uid)
    (own : jobUidFromSnapshot snapshot = uid) (counted : row = registerCommitFailure^[strikes] snapshot)
    (front : Bool) :
    Passes store held store.state.queue (snapshot :: store.state.queue)
      (store.mapState fun state => (state.unregisterInFlight uid).requeueJobs [row] front)
      (held.erase uid) (placed row store.state.queue front) where
  orderly := orderly_requeue orderly owned identified same front
  moved := moved_requeue same own counted (orderly.notMem_of_owned owned) front rfl
  aside := aside_of_events rfl fun _ still => (Owned.of_erase rfl still).1
  backed := fun _ backed => backed_requeue backed owned identified same front

end Requeue

section Terminal

/-- A job is given up without a row of it being put back. -/
theorem Orderly.release {state' : PipelineState} (orderly : Orderly held rows state) (coherent : Coherent state')
    (flight : state'.inFlightUids = state.inFlightUids.erase uid)
    (skipped : state'.triggerSkippedUids ⊆ state.triggerSkippedUids) : Orderly (held.erase uid) rows state' where
  coherent := coherent
  plain := orderly.plain
  apart := by
    rw [flight]
    exact orderly.apart.mono_right (Finset.erase_subset _ _)
  heldApart := by
    rw [flight]
    apply orderly.heldApart.mono (Finset.erase_subset _ _)
    exact Finset.union_subset_union (Finset.union_subset_union_right (Finset.erase_subset _ _)) skipped

/-- The rows of some jobs have left the disk, and these jobs are no longer in custody. -/
theorem Backed.remove {held' gone : Finset String} {rows' : List Record} (backed : Backed opening held rows asked)
    (queue : after.backend.queue = Fresh.without jobUidFromSnapshot gone asked.backend.queue)
    (lawful : Lawful opening after.backend after.events) (answers : after.answers = asked.answers)
    (named : ∀ row ∈ rows', Identified row)
    (custody : uidsOf rows' ∪ after.state.inFlightUids ∪ held' ⊆
      (uidsOf rows ∪ asked.state.inFlightUids ∪ held) \ gone) :
    Backed opening held' rows' after where
  named := named
  namedDisk := by
    intro row member
    rw [queue] at member
    exact backed.namedDisk row ((Fresh.without_sublist _ _).subset member)
  backed := by
    rw [queue]
    show _ ⊆ Fresh.keys jobUidFromSnapshot (Fresh.without jobUidFromSnapshot gone asked.backend.queue)
    rw [Fresh.keys_without]
    exact custody.trans (Finset.sdiff_subset_sdiff backed.backed (Finset.Subset.refl gone))
  lawful := lawful
  foreseen := by
    rw [answers]
    exact backed.foreseen

theorem custody_release {state' : PipelineState} (absent : uid ∉ uidsOf rows)
    (flight : state'.inFlightUids = state.inFlightUids.erase uid) :
    uidsOf rows ∪ state'.inFlightUids ∪ held.erase uid ⊆
      (uidsOf rows ∪ state.inFlightUids ∪ held) \ {uid} := by
  rw [flight]
  intro other
  simp only [Finset.mem_union, Finset.mem_erase, Finset.mem_sdiff, Finset.mem_singleton]
  rintro ((queued | ⟨different, flying⟩) | ⟨different, holding⟩)
  · exact ⟨Or.inl (Or.inl queued), fun same => absent (same ▸ queued)⟩
  · exact ⟨Or.inl (Or.inr flying), different⟩
  · exact ⟨Or.inr holding, different⟩

variable (config : StoreConfig)

/-- The memory after a job was marked as failed and unregistered. -/
theorem failed_state (coherent : Coherent state) (uid : String) (metadata : Record) :
    Coherent ((state.markFailed uid metadata).unregisterInFlight uid) ∧
      ((state.markFailed uid metadata).unregisterInFlight uid).queue = state.queue ∧
      ((state.markFailed uid metadata).unregisterInFlight uid).inFlightUids = state.inFlightUids.erase uid ∧
      ((state.markFailed uid metadata).unregisterInFlight uid).triggerSkippedUids ⊆ state.triggerSkippedUids :=
  ⟨coherent_unregisterInFlight (coherent_markFailed coherent uid metadata) uid, rfl, rfl,
    Finset.erase_subset _ _⟩

/-- An accepted failure of an owned job. -/
theorem passes_failed {metadata archived : Record} {payload : Option Record} (heard : Asked store asked)
    (orderly : Orderly held store.state.queue store.state) (owned : Owned held store.state uid)
    (own : jobUidFromSnapshot snapshot = uid) :
    Passes store held store.state.queue (snapshot :: store.state.queue)
      { asked with
        backend := (asked.backend.commitJobFailure uid archived payload).1
        events := asked.events ++ [.failed [uid]]
        state := (asked.state.markFailed uid metadata).unregisterInFlight uid }
      (held.erase uid) store.state.queue := by
  have absent := orderly.notMem_of_owned owned
  obtain ⟨coherent, -, flight, skipped⟩ := failed_state orderly.coherent uid metadata
  rw [heard.state]
  refine ⟨Orderly.release orderly coherent flight skipped, moved_failed heard rfl own absent, ?_, ?_⟩
  · apply aside_event heard rfl
    intro other still
    obtain ⟨before, different⟩ := Owned.of_erase flight still
    exact ⟨before, by simp [verdict, different]⟩
  intro opening backed
  have found := heard.backed opening held store.state.queue backed
  apply Backed.remove found
  · show asked.backend.remaining uid = Fresh.without jobUidFromSnapshot {uid} asked.backend.queue
    rfl
  · exact lawful_commitJobFailure found.lawful uid archived payload
  · rfl
  · exact backed.named
  · rw [heard.state]
    exact custody_release absent flight

end Terminal

section Strike

theorem uid_registerCommitFailure (identified : Identified snapshot) :
    Identified (registerCommitFailure snapshot) ∧
      jobUidFromSnapshot (registerCommitFailure snapshot) = jobUidFromSnapshot snapshot :=
  ⟨identified_set (by decide) (by decide) identified, uid_set (by decide) (by decide) identified⟩

theorem uid_iterate_registerCommitFailure (identified : Identified snapshot) (strikes : ℕ) :
    Identified (registerCommitFailure^[strikes] snapshot) ∧
      jobUidFromSnapshot (registerCommitFailure^[strikes] snapshot) = jobUidFromSnapshot snapshot := by
  induction strikes with
  | zero => exact ⟨identified, rfl⟩
  | succ strikes ih =>
    rw [Function.iterate_succ_apply']
    obtain ⟨counted, same⟩ := uid_registerCommitFailure ih.1
    exact ⟨counted, same.trans ih.2⟩

variable (config : StoreConfig)

/-- What giving up an owned job means for the store. -/
structure Gives (store : StateStore) (held : Finset String) (uid : String) (snapshot : Record)
    (after : StateStore) : Prop where
  passes : Passes store held store.state.queue (snapshot :: store.state.queue) after (held.erase uid)
    after.state.queue
  flight : after.state.inFlightUids = store.state.inFlightUids.erase uid

theorem Gives.alike {finish : StateStore} (gives : Gives store held uid snapshot after)
    (alike : Alike after finish) : Gives store held uid snapshot finish where
  passes := by
    rw [alike.state]
    exact gives.passes.alike alike
  flight := by rw [alike.state, gives.flight]

/-- What other processes did before the commit changes nothing here. -/
theorem Gives.heard (heard : Asked store asked) (gives : Gives asked held uid snapshot after) :
    Gives store held uid snapshot after where
  passes := by
    have later := gives.passes
    rw [heard.state] at later
    refine ⟨later.orderly, (heard.moved _).trans later.moved, ?_, ?_⟩
    · obtain ⟨news, early, -⟩ := heard.quiet
      obtain ⟨events, late, -⟩ := later.moved
      exact (heard.aside held).trans later.aside early late
    exact fun opening backed => later.backed opening (heard.backed _ _ _ backed)
  flight := by rw [gives.flight, heard.state]

/-- The row goes back to the queue, and the run is to crash. -/
theorem gives_requeueAndCrash {strikes : ℕ} (orderly : Orderly held store.state.queue store.state)
    (owned : Owned held store.state uid) (identified : Identified snapshot)
    (own : jobUidFromSnapshot snapshot = uid) (reason : String) (attemptId : Option Int) :
    Gives store held uid snapshot (store.requeueAndCrash uid
      (some (registerCommitFailure^[strikes] snapshot)) reason attemptId).1 := by
  obtain ⟨counted, same⟩ := uid_iterate_registerCommitFailure identified strikes
  have requeued : Gives store held uid snapshot (store.mapState fun state =>
      (state.unregisterInFlight uid).requeueJobs [registerCommitFailure^[strikes] snapshot] true) :=
    ⟨passes_requeue orderly owned counted (same.trans own) own rfl true, rfl⟩
  exact requeued.alike (alike_finishAttempt _ attemptId .requeued (some (.str reason)))

theorem gives_failed (heard : Asked store asked) (orderly : Orderly held store.state.queue store.state)
    (owned : Owned held store.state uid) (own : jobUidFromSnapshot snapshot = uid)
    (metadata archived : Record) (payload : Option Record) :
    Gives store held uid snapshot (({ asked with
        backend := (asked.backend.commitJobFailure uid archived payload).1
        events := asked.events ++ [.failed [uid]] } : StateStore).markFailedMemory config uid metadata true) where
  passes := by
    have same : asked.state.queue = store.state.queue := by rw [heard.state]
    show Passes _ _ _ _ _ _ asked.state.queue
    rw [same]
    exact passes_failed heard orderly owned own
  flight := by
    show asked.state.inFlightUids.erase uid = _
    rw [heard.state]

/-- A struck job is given up: archived, or back in the queue with the strike counted. -/
theorem gives_handleCommitFailureStrike (orderly : Orderly held store.state.queue store.state)
    (owned : Owned held store.state uid) (identified : Identified snapshot)
    (own : jobUidFromSnapshot snapshot = uid) (reason : String) (attemptId : Option Int) :
    Gives store held uid snapshot
      (store.handleCommitFailureStrike config uid reason (some snapshot) attemptId).1 := by
  unfold handleCommitFailureStrike
  dsimp only [Option.getD_some]
  split
  · obtain ⟨asked, heard, refused | ⟨-, accepted⟩⟩ := commit_cases store (.failed [uid]) fun backend =>
      backend.commitJobFailure uid (strikeMetadata (commitFailures snapshot + 1))
        (extractJobPayload (registerCommitFailure snapshot))
    · rw [refused]
      apply Gives.heard heard
      rw [← heard.state] at orderly owned
      exact @gives_requeueAndCrash _ _ _ _ _ 1 orderly owned identified own reason attemptId
    · rw [accepted]
      apply (gives_failed config heard orderly owned own _ _ _).alike
      exact (alike_recordStat _ _ _).trans ((alike_finishAttempt _ _ _ _).trans
        (alike_fireAttemptFinished _ _ _))
  · exact @gives_requeueAndCrash _ _ _ _ _ 1 orderly owned identified own reason attemptId

end Strike

section Batch

variable {uids : List String} (config : StoreConfig)

theorem passes_asked (heard : Asked store asked) (orderly : Orderly held rows store.state) :
    Passes store held rows rows asked held rows where
  orderly := by
    rw [heard.state]
    exact orderly
  moved := heard.moved rows
  aside := heard.aside held
  backed := fun opening backed => heard.backed opening held rows backed

/-- None of the jobs is in flight or held. -/
def Idle (held : Finset String) (state : PipelineState) (uids : List String) : Prop :=
  ∀ uid ∈ uids, ¬ Owned held state uid

/-- Rows have left the disk and the queue together. -/
theorem passes_removed {backend : Memory} {event : Event} (heard : Asked store asked)
    (orderly : Orderly held rows store.state) (idle : Idle held store.state uids)
    (decides : ∀ uid, verdict uid event = if uid ∈ uids then some false else none)
    (queue : backend.queue = Fresh.without jobUidFromSnapshot uids.toFinset asked.backend.queue)
    (lawful : ∀ opening, Lawful opening asked.backend asked.events →
      Lawful opening backend (asked.events ++ [event])) :
    Passes store held rows rows { asked with backend := backend, events := asked.events ++ [event] }
      held (Fresh.without jobUidFromSnapshot uids.toFinset rows) where
  orderly := by
    rw [heard.state]
    have fewer : uidsOf (Fresh.without jobUidFromSnapshot uids.toFinset rows) ⊆ uidsOf rows := by
      rw [uidsOf, Fresh.keys_without]
      exact Finset.sdiff_subset
    refine ⟨orderly.coherent, ?_, orderly.apart.mono_left fewer, ?_⟩
    · intro row member
      obtain ⟨old, kept⟩ := Fresh.mem_without.mp member
      rw [rowsOf, Fresh.having_without, if_neg kept]
      exact orderly.plain row old
    · apply orderly.heldApart.mono_right
      exact Finset.union_subset_union_left (Finset.union_subset_union_left fewer)
  moved := by
    apply moved_event heard rfl
    intro uid
    rw [decides uid, rowsOf, Fresh.having_without]
    by_cases gone : uid ∈ uids
    · simp [gone]
    · simp [gone, rowsOf]
  aside := by
    apply aside_event heard rfl
    intro uid owned
    have before : Owned held store.state uid := heard.state ▸ owned
    exact ⟨before, by rw [decides uid, if_neg fun gone => idle uid gone before]⟩
  backed := by
    intro opening backed
    have found := heard.backed opening held rows backed
    apply Backed.remove found
    · exact queue
    · exact lawful opening found.lawful
    · rfl
    · intro row member
      exact backed.named row (Fresh.mem_without.mp member).1
    · intro uid custody
      simp only [uidsOf, Fresh.keys_without, Finset.mem_union, Finset.mem_sdiff, List.mem_toFinset] at custody ⊢
      rw [heard.state] at custody ⊢
      rcases custody with (⟨queued, kept⟩ | flying) | holding
      · exact ⟨Or.inl (Or.inl queued), kept⟩
      · exact ⟨Or.inl (Or.inr flying), fun gone => idle uid gone (Or.inr flying)⟩
      · exact ⟨Or.inr holding, fun gone => idle uid gone (Or.inl holding)⟩

/-- A change of the memory that concerns neither the queue nor what is in flight. -/
theorem passes_mapState (change : PipelineState → PipelineState) (orderly : Orderly held rows store.state)
    (coherent : Coherent (change store.state))
    (flight : (change store.state).inFlightUids = store.state.inFlightUids)
    (skipped : (change store.state).triggerSkippedUids ⊆ store.state.triggerSkippedUids) :
    Passes store held rows rows (store.mapState change) held rows where
  orderly := by
    refine ⟨coherent, orderly.plain, ?_, ?_⟩
    · show Disjoint _ (change store.state).inFlightUids
      rw [flight]
      exact orderly.apart
    · show Disjoint _ (_ ∪ (change store.state).inFlightUids ∪ (change store.state).triggerSkippedUids)
      rw [flight]
      exact orderly.heldApart.mono_right (Finset.union_subset_union_right skipped)
  moved := moved_refl store rows
  aside := by
    refine aside_of_events rfl fun uid owned => ?_
    unfold Owned at owned ⊢
    rw [show (store.mapState change).state.inFlightUids = _ from flight] at owned
    exact owned
  backed := by
    intro opening backed
    refine ⟨backed.named, backed.namedDisk, ?_, backed.lawful, backed.foreseen⟩
    show _ ∪ (change store.state).inFlightUids ∪ _ ⊆ _
    rw [flight]
    exact backed.backed

theorem passes_replaceQueue (orderly : Orderly held rows store.state) :
    Passes store held rows rows (store.mapState fun state => state.replaceQueue rows) held rows := by
  apply passes_mapState _ orderly
  · exact coherent_replaceQueue orderly.coherent orderly.apart
  · rfl
  · exact Finset.sdiff_subset

theorem passes_mark (orderly : Orderly held rows store.state) (uid : String) (metadata : Record) :
    Passes store held rows rows (store.mapState fun state => state.markFailed uid metadata) held rows := by
  apply passes_mapState _ orderly
  · exact coherent_markFailed orderly.coherent uid metadata
  · rfl
  · exact Finset.erase_subset _ _

/-- Marking a batch: the queue and the index of what is in flight stay as they are. -/
theorem passes_markEach {mark : StateStore → String → Record → StateStore} {metas : List (String × Record)}
    (marks : ∀ store uid metadata, ∃ archived, mark store uid metadata =
      store.mapState fun state => (state.markFailed uid archived).unregisterInFlight uid)
    (orderly : Orderly held rows store.state) (idle : Idle held store.state (metas.map Prod.fst)) :
    Passes store held rows rows (markEach mark metas store) held rows ∧
      (markEach mark metas store).state.queue = store.state.queue ∧
      (markEach mark metas store).state.inFlightUids = store.state.inFlightUids := by
  induction metas generalizing store with
  | nil => exact ⟨passes_refl orderly, rfl, rfl⟩
  | cons entry rest ih =>
    rcases entry with ⟨uid, metadata⟩
    obtain ⟨archived, marked⟩ := marks store uid metadata
    have landed : uid ∉ store.state.inFlightUids := fun flying => idle uid (by simp) (Or.inr flying)
    have unregistered : ((store.state.markFailed uid archived).unregisterInFlight uid) =
        store.state.markFailed uid archived :=
      unregisterInFlight_self (coherent_markFailed orderly.coherent uid archived) landed
    have first : Passes store held rows rows
        ((mark store uid metadata).fireAttemptFinished uid ⟨false, false, metadata⟩) held rows := by
      apply Passes.alike _ (alike_fireAttemptFinished _ _ _)
      rw [marked]
      apply passes_mapState _ orderly
      · rw [unregistered]
        exact coherent_markFailed orderly.coherent uid archived
      · rw [unregistered]
        rfl
      · exact Finset.erase_subset _ _
    have same := (alike_fireAttemptFinished (mark store uid metadata) uid ⟨false, false, metadata⟩).state
    rw [marked] at same
    have flight : ((mark store uid metadata).fireAttemptFinished uid
        ⟨false, false, metadata⟩).state.inFlightUids = store.state.inFlightUids := by
      rw [marked, same]
      exact Finset.erase_eq_of_notMem landed
    have waiting : Idle held ((mark store uid metadata).fireAttemptFinished uid
        ⟨false, false, metadata⟩).state (rest.map Prod.fst) := by
      intro other member owned
      apply idle other (by simp [member])
      unfold Owned at owned ⊢
      rw [flight] at owned
      exact owned
    obtain ⟨passes, queue, flying⟩ := ih first.orderly waiting
    refine ⟨first.trans passes, queue.trans ?_, flying.trans flight⟩
    rw [marked, same]
    rfl

section Counting

/-- Counting a strike in the first row of a uid keeps all uids where they are. -/
theorem map_modifyFirst (named : ∀ row ∈ rows, jobUidFromSnapshot row = uid → Identified row) :
    (modifyFirst uid registerCommitFailure rows).map jobUidFromSnapshot = rows.map jobUidFromSnapshot := by
  induction rows with
  | nil => rfl
  | cons row rest ih =>
    unfold modifyFirst
    split
    · rename_i same
      rw [List.map_cons, List.map_cons, (uid_registerCommitFailure (named row List.mem_cons_self same)).2]
    · rw [List.map_cons, List.map_cons, ih fun other member => named other (List.mem_cons_of_mem _ member)]

theorem mem_modifyFirst {other : Record} (member : other ∈ modifyFirst uid registerCommitFailure rows) :
    other ∈ rows ∨ ∃ row ∈ rows, jobUidFromSnapshot row = uid ∧ other = registerCommitFailure row := by
  induction rows with
  | nil => cases member
  | cons row rest ih =>
    unfold modifyFirst at member
    split at member
    · rename_i same
      rcases List.mem_cons.mp member with rfl | old
      · exact Or.inr ⟨row, List.mem_cons_self, same, rfl⟩
      · exact Or.inl (List.mem_cons_of_mem _ old)
    · rcases List.mem_cons.mp member with rfl | later
      · exact Or.inl List.mem_cons_self
      · rcases ih later with old | ⟨found, inside, same, counted⟩
        · exact Or.inl (List.mem_cons_of_mem _ old)
        · exact Or.inr ⟨found, List.mem_cons_of_mem _ inside, same, counted⟩

theorem rowsOf_modifyFirst_of_ne {other : String} (different : other ≠ uid)
    (named : ∀ row ∈ rows, jobUidFromSnapshot row = uid → Identified row) :
    rowsOf other (modifyFirst uid registerCommitFailure rows) = rowsOf other rows := by
  induction rows with
  | nil => rfl
  | cons row rest ih =>
    unfold modifyFirst
    split
    · rename_i same
      have counted := (uid_registerCommitFailure (named row List.mem_cons_self same)).2
      rw [rowsOf_cons_of_ne same different, rowsOf_cons_of_ne (counted.trans same) different]
    · have later := ih fun other member => named other (List.mem_cons_of_mem _ member)
      by_cases this : jobUidFromSnapshot row = other
      · subst this
        rw [rowsOf, Fresh.having_cons_self, rowsOf, Fresh.having_cons_self]
        exact congrArg _ later
      · rw [rowsOf, Fresh.having_cons_of_ne this, rowsOf, Fresh.having_cons_of_ne this]
        exact later

theorem rowsOf_modifyFirst_self (once : (rowsOf uid rows).length ≤ 1)
    (named : ∀ row ∈ rows, jobUidFromSnapshot row = uid → Identified row) :
    rowsOf uid (modifyFirst uid registerCommitFailure rows) = (rowsOf uid rows).map registerCommitFailure := by
  induction rows with
  | nil => rfl
  | cons row rest ih =>
    unfold modifyFirst
    split
    · rename_i same
      subst same
      rw [rowsOf, Fresh.having_cons_self, List.length_cons] at once
      have alone : rowsOf (jobUidFromSnapshot row) rest = [] := List.length_eq_zero_iff.mp (by
        unfold rowsOf
        omega)
      have counted := (uid_registerCommitFailure (named row List.mem_cons_self rfl)).2
      rw [rowsOf_cons_self counted (rowsOf_eq_nil.mp alone), rowsOf_cons_self rfl (rowsOf_eq_nil.mp alone)]
      rfl
    · rename_i other
      rw [rowsOf, Fresh.having_cons_of_ne other] at once ⊢
      rw [rowsOf, Fresh.having_cons_of_ne other]
      exact ih once fun row member => named row (List.mem_cons_of_mem _ member)

theorem passes_modifyFirst (orderly : Orderly held rows store.state)
    (named : ∀ row ∈ rows, jobUidFromSnapshot row = uid → Identified row) :
    Passes store held rows rows store held (modifyFirst uid registerCommitFailure rows) := by
  have same : uidsOf (modifyFirst uid registerCommitFailure rows) = uidsOf rows :=
    congrArg List.toFinset (map_modifyFirst named)
  have identified : ∀ other ∈ modifyFirst uid registerCommitFailure rows, other ∈ rows ∨ Identified other := by
    intro other member
    rcases mem_modifyFirst member with old | ⟨row, inside, this, rfl⟩
    · exact Or.inl old
    · exact Or.inr (uid_registerCommitFailure (named row inside this)).1
  refine ⟨⟨orderly.coherent, ?_, same ▸ orderly.apart, same ▸ orderly.heldApart⟩, ?_,
    aside_of_events rfl fun _ owned => owned, ?_⟩
  · intro other member
    rcases identified other member with old | counted
    · rw [rowsOf, Fresh.length_having, map_modifyFirst named, ← Fresh.length_having]
      exact orderly.plain other old
    · exact Or.inl counted
  · refine ⟨[], by simp, fun other once => ?_⟩
    by_cases this : other = uid
    · subst this
      exact ⟨1, rowsOf_modifyFirst_self once named⟩
    · exact movesAt_congr (rowsOf_modifyFirst_of_ne this named) rfl
  · intro opening backed
    refine ⟨?_, backed.namedDisk, same ▸ backed.backed, backed.lawful, backed.foreseen⟩
    intro other member
    rcases identified other member with old | counted
    · exact backed.named other old
    · exact counted

end Counting

/-- A job of a refused batch is archived, or stays in the queue. -/
theorem passes_bulkStrikeFinalize (orderly : Orderly held rows store.state)
    (idle : ¬ Owned held store.state uid) (row : Record) (failures : Int) :
    Passes store held rows rows (store.bulkStrikeFinalize config uid row failures).1 held
        (if (store.bulkStrikeFinalize config uid row failures).2 then
          Fresh.without jobUidFromSnapshot {uid} rows else rows) ∧
      (store.bulkStrikeFinalize config uid row failures).1.state.inFlightUids = store.state.inFlightUids := by
  unfold bulkStrikeFinalize
  obtain ⟨asked, heard, refused | ⟨-, accepted⟩⟩ := commit_cases store (.failed [uid]) fun backend =>
    backend.commitJobFailure uid (strikeMetadata failures) (extractJobPayload row)
  · rw [refused]
    exact ⟨passes_asked heard orderly, by rw [heard.state]⟩
  · rw [accepted]
    have waiting : Idle held store.state [uid] := fun other member =>
      List.mem_singleton.mp member ▸ idle
    have gone := passes_removed heard orderly waiting (fun _ => rfl) rfl
      (fun _ lawful => lawful_commitJobFailure lawful uid (strikeMetadata failures) (extractJobPayload row))
    have marked := gone.trans (passes_mark gone.orderly uid
      (asked.normalize config (strikeMetadata failures)))
    have alike := (alike_recordStat (({ asked with
      backend := (asked.backend.commitJobFailure uid (strikeMetadata failures) (extractJobPayload row)).1
      events := asked.events ++ [.failed [uid]] } : StateStore).markFailedMemory config uid
        (strikeMetadata failures) false) .failed 1).trans
      (alike_fireAttemptFinished _ uid ⟨false, false, strikeMetadata failures⟩)
    refine ⟨marked.alike alike, ?_⟩
    rw [alike.state]
    show asked.state.inFlightUids = _
    rw [heard.state]

/-- The loop over a refused batch, job by job. -/
theorem passes_handleBulkFailureStrike (uids : List String) (kept : Bool)
    (orderly : Orderly held rows store.state) (idle : Idle held store.state uids)
    (named : ∀ row ∈ rows, jobUidFromSnapshot row ∈ uids → Identified row) :
    Passes store held rows rows (handleBulkFailureStrike config uids store rows kept).1 held
        (handleBulkFailureStrike config uids store rows kept).2.1 ∧
      (handleBulkFailureStrike config uids store rows kept).1.state.inFlightUids =
        store.state.inFlightUids := by
  induction uids generalizing store rows kept with
  | nil => exact ⟨passes_refl orderly, rfl⟩
  | cons uid rest ih =>
    have own : ∀ row ∈ rows, jobUidFromSnapshot row = uid → Identified row :=
      fun row member same => named row member (by simp [same])
    have counted := passes_modifyFirst orderly own
    have others : ∀ row ∈ modifyFirst uid registerCommitFailure rows, jobUidFromSnapshot row ∈ rest →
        Identified row := by
      intro row member later
      rcases mem_modifyFirst member with old | ⟨found, inside, same, rfl⟩
      · exact named row old (List.mem_cons_of_mem _ later)
      · exact (uid_registerCommitFailure (own found inside same)).1
    have after : ∀ (struck : StateStore) (left : List Record) (kept : Bool),
        Passes store held rows rows struck held left →
        struck.state.inFlightUids = store.state.inFlightUids →
        (∀ row ∈ left, row ∈ modifyFirst uid registerCommitFailure rows) →
        Passes store held rows rows (handleBulkFailureStrike config rest struck left kept).1 held
            (handleBulkFailureStrike config rest struck left kept).2.1 ∧
          (handleBulkFailureStrike config rest struck left kept).1.state.inFlightUids =
            store.state.inFlightUids := by
      intro struck left kept passes flight fewer
      have waiting : Idle held struck.state rest := by
        intro other member owned
        apply idle other (List.mem_cons_of_mem _ member)
        unfold Owned at owned ⊢
        rw [flight] at owned
        exact owned
      obtain ⟨later, flying⟩ := ih kept passes.orderly waiting fun row member =>
        others row (fewer row member)
      exact ⟨passes.trans later, flying.trans flight⟩
    unfold handleBulkFailureStrike
    dsimp only
    split
    · obtain ⟨passes, flight⟩ := passes_bulkStrikeFinalize config counted.orderly (idle uid List.mem_cons_self)
        (registerCommitFailure ((rows.find? fun row => jobUidFromSnapshot row = uid).getD
          (syntheticSnapshot uid)))
        (commitFailures ((rows.find? fun row => jobUidFromSnapshot row = uid).getD (syntheticSnapshot uid)) + 1)
      split
      · rename_i archived struck
        rw [struck] at passes flight
        apply after _ _ _ (counted.trans passes) flight
        exact fun row member => (Fresh.mem_without.mp member).1
      · rename_i refused struck
        rw [struck] at passes flight
        exact after _ _ _ (counted.trans passes) flight fun row member => member
    · exact after _ _ _ counted rfl fun row member => member

/-- An operation after which every owned job is still owned. -/
structure Keeps (store : StateStore) (held : Finset String) (after : StateStore) : Prop where
  passes : Passes store held store.state.queue store.state.queue after held after.state.queue
  flight : after.state.inFlightUids = store.state.inFlightUids

theorem keeps_refl (orderly : Orderly held store.state.queue store.state) : Keeps store held store :=
  ⟨passes_refl orderly, rfl⟩

/-- Every owned job is still owned, and the backend has what the memory has; rows may stand twice. -/
structure Stays (store : StateStore) (held : Finset String) (after : StateStore) : Prop where
  orderly : Orderly held after.state.queue after.state
  backed : ∀ opening, Backed opening held store.state.queue store →
    Backed opening held after.state.queue after
  flight : after.state.inFlightUids = store.state.inFlightUids

theorem Stays.alike {finish : StateStore} (stays : Stays store held after) (alike : Alike after finish) :
    Stays store held finish where
  orderly := by
    rw [alike.state]
    exact stays.orderly
  backed := by
    rw [alike.state]
    exact fun opening backed => (stays.backed opening backed).alike alike
  flight := by rw [alike.state, stays.flight]

theorem Keeps.stays (keeps : Keeps store held after) : Stays store held after :=
  ⟨keeps.passes.orderly, keeps.passes.backed, keeps.flight⟩

theorem Keeps.alike {finish : StateStore} (keeps : Keeps store held after) (alike : Alike after finish) :
    Keeps store held finish where
  passes := by
    rw [alike.state]
    exact keeps.passes.alike alike
  flight := by rw [alike.state, keeps.flight]

theorem Gives.keeps {finish : StateStore} (gives : Gives store held uid snapshot after)
    (keeps : Keeps after (held.erase uid) finish) : Gives store held uid snapshot finish :=
  ⟨gives.passes.trans keeps.passes, keeps.flight.trans gives.flight⟩

/-- A batch of queued jobs is archived, or struck. -/
theorem keeps_settleBatch {mark : StateStore → String → Record → StateStore} {metas : List (String × Record)}
    (marks : ∀ store uid metadata, ∃ archived, mark store uid metadata =
      store.mapState fun state => (state.markFailed uid archived).unregisterInFlight uid)
    (statKey : StatKey) (crashMessage : ℕ → ℕ → String)
    (orderly : Orderly held store.state.queue store.state) (idle : Idle held store.state (metas.map Prod.fst))
    (named : ∀ row ∈ store.state.queue, jobUidFromSnapshot row ∈ metas.map Prod.fst → Identified row) :
    Keeps store held (settleBatch config mark statKey crashMessage metas store).1 := by
  unfold settleBatch
  dsimp only
  obtain ⟨asked, heard, refused | ⟨-, accepted⟩⟩ := commit_cases store (.failed (metas.map Prod.fst))
    fun backend => backend.commitJobFailures metas
  · rw [refused]
    have found := passes_asked heard orderly
    rw [← heard.state] at idle named
    have stood : Orderly held asked.state.queue asked.state := heard.state ▸ orderly
    obtain ⟨struck, flight⟩ := passes_handleBulkFailureStrike config (metas.map Prod.fst) false stood idle named
    rw [heard.state] at struck flight
    have replaced := (found.trans struck).trans (passes_replaceQueue struck.orderly)
    dsimp only
    rw [heard.state]
    split <;> exact ⟨replaced, flight⟩
  · rw [accepted]
    have gone := passes_removed heard orderly idle (fun _ => rfl) rfl
      (fun _ lawful => lawful_commitJobFailures lawful metas)
    have removed := gone.trans (passes_replaceQueue gone.orderly)
    have counted := removed.alike (alike_recordStat _ statKey metas.length)
    rw [← heard.state] at idle
    obtain ⟨marked, queue, flight⟩ := passes_markEach marks counted.orderly idle
    have whole := counted.trans marked
    dsimp only
    rw [heard.state] at *
    exact ⟨(congrArg (Passes store held store.state.queue store.state.queue _ held) queue).mpr whole, flight⟩

end Batch

section Cascade

variable (config : StoreConfig)

/-- The jobs of the queue are queued under their uids, in rows that name them. -/
theorem queuedJobs_row {job : Job} (member : job ∈ state.queuedJobs) :
    ∃ row ∈ state.queue, Identified row ∧ jobUidFromSnapshot row = job.uid := by
  obtain ⟨row, queued, parsed⟩ := List.mem_filterMap.mp member
  have read : Job.fromDict row = .ok job := by
    cases outcome : Job.fromDict row with
    | error refusal => simp [outcome, Except.toOption] at parsed
    | ok found =>
      simp only [outcome, Except.toOption, Option.some.injEq] at parsed
      rw [parsed]
  exact ⟨row, queued, identified_of_fromDict read, uid_of_fromDict read⟩

theorem mem_cascadeFrom {excluded : Finset String} {visits : ℕ} {stack seen cascade : List String}
    (member : uid ∈ state.cascadeFrom excluded visits stack seen cascade) :
    uid ∈ cascade ∨ ∃ job ∈ state.queuedJobs, job.uid = uid := by
  induction visits generalizing stack seen cascade with
  | zero => exact Or.inl member
  | succ visits ih =>
    cases stack with
    | nil => exact Or.inl member
    | cons current stack =>
      unfold cascadeFrom at member
      rcases ih member with found | job
      · rcases List.mem_append.mp found with old | reached
        · exact Or.inl old
        · right
          have downstream := (List.mem_filter.mp reached).1
          unfold dependents at downstream
          have listed := (Python.setOrder_perm _).mem_iff.mp downstream
          obtain ⟨job, found, same⟩ := List.mem_map.mp ((Fresh.fresh_sublist _ _).subset listed)
          exact ⟨job, (List.mem_filter.mp found).1, same⟩
      · exact Or.inr job

/-- All rows of a job that parses somewhere in the queue name it. -/
theorem named_of_queued {job : Job} (orderly : Orderly held state.queue state) (queued : job ∈ state.queuedJobs)
    (member : row ∈ state.queue) (same : jobUidFromSnapshot row = job.uid) : Identified row := by
  obtain ⟨parsed, inside, identified, own⟩ := queuedJobs_row queued
  rcases orderly.plain row member with named | once
  · exact named
  · have both : ∀ other ∈ state.queue, jobUidFromSnapshot other = job.uid →
        other ∈ rowsOf (jobUidFromSnapshot row) state.queue := by
      intro other listed this
      simp [rowsOf, Fresh.having, listed, this, same]
    have some := List.length_pos_of_mem (both row member same)
    obtain ⟨only, single⟩ := List.length_eq_one_iff.mp (by omega :
      (rowsOf (jobUidFromSnapshot row) state.queue).length = 1)
    rw [single] at both
    have first := List.mem_singleton.mp (both row member same)
    have second := List.mem_singleton.mp (both parsed inside own)
    rw [first, ← second]
    exact identified

/-- Taking down what depends on a failed job. -/
theorem keeps_cascadeFail (orderly : Orderly held store.state.queue store.state) (failedUid : String) :
    Keeps store held (store.cascadeFail config failedUid).1 := by
  unfold StateStore.cascadeFail
  dsimp only
  split
  · exact keeps_refl orderly
  · have queued : ∀ uid ∈ ((store.state.cascadeFail failedUid (store.selectionExcludedUids config)).filter
        fun uid => uid ∉ store.selectionExcludedUids config).map
          (fun uid => (uid, dependencyMetadata failedUid)) |>.map Prod.fst,
        ∃ job ∈ store.state.queuedJobs, job.uid = uid := by
      intro uid member
      simp only [List.map_map, List.mem_map, Function.comp_apply] at member
      obtain ⟨found, listed, rfl⟩ := member
      rcases mem_cascadeFrom (List.mem_filter.mp listed).1 with none | job
      · cases none
      · exact job
    apply keeps_settleBatch config _ _ _ orderly
    · intro uid member owned
      obtain ⟨job, inside, rfl⟩ := queued uid member
      obtain ⟨row, listed, -, same⟩ := queuedJobs_row inside
      exact orderly.notMem_of_owned owned (same ▸ Fresh.key_mem_keys listed)
    · intro row listed member
      obtain ⟨job, inside, same⟩ := queued _ member
      exact named_of_queued orderly inside listed same.symm
    · exact fun store uid metadata => ⟨store.normalize config metadata, rfl⟩

end Cascade

end Tasklite.Engine.Strikes
