import Tasklite.Engine.Batches

/-! Runs of the engine, over any number of crashes. What the memory has in custody is
queued on disk at all times, so that the queue on disk follows the ledger; and the
memory keeps its representation invariant. Both need rows that name their jobs. -/

namespace Tasklite.Engine.Durability
open Tasklite.Library Tasklite.Models Tasklite.Models.Identity Tasklite.Models.Coherence Tasklite.Backend
open PipelineState StateStore Ledger Custody Strikes Settlement Batches Lifecycle

variable [Python] {uid : String} {row : Record} {rows : List Record} {opening held : Finset String}
variable {state : PipelineState} {store after : StateStore} {run : Run}

section Load

omit [Python] in
theorem mem_keys_eraseKeys {ν : Type} {dict : Dict String ν} {uids : List String} {key : String} :
    key ∈ (Memory.eraseKeys dict uids).keys ↔ key ∈ dict.keys ∧ key ∉ uids := by
  unfold Memory.eraseKeys
  rw [← Dict.contains_iff, ← Dict.contains_iff, Dict.contains, Dict.contains, Dict.get?_eraseAll]
  by_cases gone : key ∈ uids
  · simp [gone]
  · simp [gone]

omit [Python] in
/-- Successes that have failed as well are dropped. -/
theorem mem_keys_convergeTerminalOverlap {successes failed : Dict String Record} :
    uid ∈ (Recovery.convergeTerminalOverlap successes failed).keys ↔ uid ∈ successes.keys ∧ uid ∉ failed.keys := by
  unfold Recovery.convergeTerminalOverlap
  rw [mem_keys_eraseKeys, List.mem_filter, Dict.contains_iff]
  tauto

theorem uidsOf_repairQueueOnLoad (loaded disk : List Record) :
    uidsOf (Recovery.repairQueueOnLoad loaded disk) = uidsOf loaded ∪ uidsOf disk := by
  ext uid
  unfold Recovery.repairQueueOnLoad uidsOf
  rw [Fresh.keys_fresh, Finset.sdiff_empty, Fresh.keys_append, Fresh.keys_fresh, Finset.sdiff_empty]
  simp only [Finset.mem_union, Fresh.mem_keys, List.mem_filter, decide_eq_true_eq]
  constructor
  · rintro (found | ⟨row, ⟨member, -⟩, same⟩)
    · exact Or.inr found
    · exact Or.inl ⟨row, member, same⟩
  · rintro (⟨row, member, rfl⟩ | found)
    · by_cases queued : jobUidFromSnapshot row ∈ Fresh.keys jobUidFromSnapshot disk
      · exact Or.inl (Fresh.mem_keys.mp queued)
      · exact Or.inr ⟨row, ⟨member, fun found => queued (Fresh.mem_keys.mpr found)⟩, rfl⟩
    · exact Or.inl found

theorem mem_repairQueueOnLoad {loaded disk : List Record} (member : row ∈ Recovery.repairQueueOnLoad loaded disk) :
    row ∈ loaded ∨ row ∈ disk := by
  have merged := (Fresh.fresh_sublist _ _).subset member
  rcases List.mem_append.mp merged with old | new
  · exact Or.inr ((Fresh.fresh_sublist _ _).subset old)
  · exact Or.inl (List.mem_filter.mp new).1

/-- Of every uid the first row on disk is loaded, or the first that was read before. -/
theorem rowsOf_repairQueueOnLoad (loaded disk : List Record) :
    rowsOf uid (Recovery.repairQueueOnLoad loaded disk) =
      (if uid ∈ uidsOf disk then rowsOf uid disk else rowsOf uid loaded).take 1 := by
  have rest : rowsOf uid (loaded.filter fun snapshot => jobUidFromSnapshot snapshot ∉ uidsOf disk) =
      if uid ∈ uidsOf disk then [] else rowsOf uid loaded := Fresh.having_without _ _
  have first : rowsOf uid (Fresh.fresh jobUidFromSnapshot ∅ disk) = (rowsOf uid disk).take 1 := by
    rw [rowsOf, Fresh.having_fresh, if_neg (Finset.notMem_empty uid)]
    rfl
  unfold Recovery.repairQueueOnLoad
  rw [rowsOf, Fresh.having_fresh, if_neg (Finset.notMem_empty uid), Fresh.having_append]
  change (rowsOf uid _ ++ rowsOf uid _).take 1 = _
  rw [first, rest]
  split
  · simp
  · rename_i absent
    rw [rowsOf_eq_nil.mpr absent]
    simp

/-- A loaded memory is in order. -/
theorem orderly_loadAndRepair (store : StateStore) (window : Recovery.Window) :
    Orderly ∅ (Recovery.loadAndRepair store window).state.queue (Recovery.loadAndRepair store window).state ∧
      Tidy (Recovery.loadAndRepair store window).state := by
  have tidy : Tidy (Recovery.loadAndRepair store window).state := Fresh.fresh_nodup _ _
  refine ⟨⟨?_, ?_, Finset.disjoint_empty_right _, Finset.disjoint_empty_left _⟩, tidy⟩
  · apply coherent_init
    intro uid success failure
    exact (mem_keys_convergeTerminalOverlap.mp success).2 failure
  · exact fun row _ => Or.inr (tidy_iff.mp tidy _)

/-- Deleting the overlap loses nothing from the ledger. -/
theorem lawful_deleteSuccesses {backend : Memory} {events : List Event} (lawful : Lawful opening backend events) :
    Lawful opening (backend.deleteSuccesses (backend.successes.keys.filter backend.failed.contains)).1 events := by
  apply Lawful.congr lawful
  · rfl
  · intro uid ended
    rcases ended with success | failure
    · by_cases failure : uid ∈ backend.failed.keys
      · exact Or.inr failure
      · left
        apply mem_keys_eraseKeys.mpr
        refine ⟨success, fun overlap => failure ?_⟩
        exact Dict.contains_iff.mp (List.mem_filter.mp overlap).2
    · exact Or.inr failure

/-- The backend has what was loaded from it. -/
theorem backed_loadAndRepair {window : Recovery.Window} (backed : Backed opening held rows store)
    (named : ∀ batch ∈ window.enqueued, ∀ row ∈ batch.1, Identified row) :
    Backed opening ∅ (Recovery.loadAndRepair store window).state.queue (Recovery.loadAndRepair store window) := by
  unfold Recovery.loadAndRepair
  dsimp only
  generalize converging : (if window.deleteFails then store else { store with
    backend := (store.backend.deleteSuccesses
      (store.backend.successes.keys.filter store.backend.failed.contains)).1 }) = converged
  have kept : Backed opening held rows converged ∧ converged.backend.queue = store.backend.queue := by
    rw [← converging]
    split
    · exact ⟨backed, rfl⟩
    · exact ⟨⟨backed.named, backed.namedDisk, backed.backed, lawful_deleteSuccesses backed.lawful,
        backed.foreseen⟩, rfl⟩
  have grown : ∀ (batches : List (List Record × Bool)) (start : StateStore), uidsOf start.backend.queue ⊆
      uidsOf (batches.foldl (fun store batch => store.enqueueElsewhere batch.1 batch.2) start).backend.queue := by
    intro batches
    induction batches with
    | nil => exact fun start => Finset.Subset.refl _
    | cons batch rest ih =>
      intro start
      apply Finset.Subset.trans _ (ih _)
      show _ ⊆ uidsOf (start.backend.enqueueJobs batch.1 batch.2).1.queue
      rw [uidsOf_enqueueJobs]
      exact Finset.subset_union_left
  obtain ⟨-, -, keeps⟩ := asked_foldl window.enqueued converged
  have reread := keeps opening held rows named kept.1
  have wider := grown window.enqueued converged
  rw [kept.2] at wider
  refine ⟨?_, reread.namedDisk, ?_, reread.lawful, reread.foreseen⟩
  · intro row member
    rcases mem_repairQueueOnLoad member with old | new
    · exact backed.namedDisk row old
    · split at new
      · cases new
      · exact reread.namedDisk row new
  · simp only [PipelineState.init, Finset.union_empty]
    rw [uidsOf_repairQueueOnLoad]
    apply Finset.union_subset wider
    split
    · exact Finset.empty_subset _
    · exact Finset.Subset.refl _

end Load

section Save

theorem uidsOf_merge (mem disk : List Record) : uidsOf (Recovery.merge mem disk) = uidsOf disk ∪ uidsOf mem := by
  ext uid
  unfold Recovery.merge uidsOf
  rw [Fresh.keys_append, Fresh.keys_fresh, Finset.sdiff_empty]
  simp only [Finset.mem_union, Fresh.mem_keys, List.mem_filter, decide_eq_true_eq]
  constructor
  · rintro (⟨row, ⟨member, -⟩, same⟩ | found)
    · exact Or.inl ⟨row, member, same⟩
    · exact Or.inr found
  · rintro (⟨row, member, rfl⟩ | found)
    · by_cases queued : jobUidFromSnapshot row ∈ Fresh.keys jobUidFromSnapshot mem
      · exact Or.inr (Fresh.mem_keys.mp queued)
      · exact Or.inl ⟨row, ⟨member, fun found => queued (Fresh.mem_keys.mpr found)⟩, rfl⟩
    · exact Or.inr found

/-- Of every uid the first row of the memory is saved, or the rows on disk stay. -/
theorem rowsOf_merge (mem disk : List Record) : rowsOf uid (Recovery.merge mem disk) =
    if uid ∈ uidsOf mem then (rowsOf uid mem).take 1 else rowsOf uid disk := by
  have rest : rowsOf uid (disk.filter fun snapshot => jobUidFromSnapshot snapshot ∉ uidsOf mem) =
      if uid ∈ uidsOf mem then [] else rowsOf uid disk := Fresh.having_without _ _
  have first : rowsOf uid (Fresh.fresh jobUidFromSnapshot ∅ mem) = (rowsOf uid mem).take 1 := by
    rw [rowsOf, Fresh.having_fresh, if_neg (Finset.notMem_empty uid)]
    rfl
  unfold Recovery.merge
  rw [rowsOf, Fresh.having_append]
  change rowsOf uid _ ++ rowsOf uid _ = _
  rw [first, rest]
  split
  · simp
  · rename_i absent
    rw [rowsOf_eq_nil.mpr absent]
    simp

theorem rowsOf_saveQueueCrashSafe (store : StateStore) :
    rowsOf uid (Recovery.saveQueueCrashSafe store false).backend.queue =
      (if uid ∈ uidsOf store.state.queue then rowsOf uid store.state.queue
        else rowsOf uid store.backend.queue).take 1 := by
  show rowsOf uid (Fresh.fresh jobUidFromSnapshot ∅ (Recovery.merge store.state.queue store.backend.queue)) = _
  rw [rowsOf, Fresh.having_fresh, if_neg (Finset.notMem_empty uid)]
  change (rowsOf uid _).take 1 = _
  rw [rowsOf_merge]
  split
  · rw [List.take_take]
    rfl
  · rfl

/-- Saving the queue keeps the uids on disk: the memory has none of its own. -/
theorem backed_saveQueueCrashSafe (backed : Backed opening held store.state.queue store) (raises : Bool) :
    Backed opening held store.state.queue (Recovery.saveQueueCrashSafe store raises) := by
  unfold Recovery.saveQueueCrashSafe Memory.replaceQueueAtomic
  cases raises
  · have queue : uidsOf (Memory.dedupCopy (Recovery.merge store.state.queue store.backend.queue)) =
        uidsOf store.backend.queue := by
      have inside : uidsOf store.state.queue ⊆ uidsOf store.backend.queue := by
        apply Finset.Subset.trans _ backed.backed
        exact Finset.Subset.trans Finset.subset_union_left Finset.subset_union_left
      calc uidsOf (Memory.dedupCopy (Recovery.merge store.state.queue store.backend.queue))
          = uidsOf (Recovery.merge store.state.queue store.backend.queue) := by
            unfold Memory.dedupCopy uidsOf
            rw [Fresh.keys_fresh, Finset.sdiff_empty]
        _ = uidsOf store.backend.queue ∪ uidsOf store.state.queue := uidsOf_merge _ _
        _ = uidsOf store.backend.queue := Finset.union_eq_left.mpr inside
    refine ⟨backed.named, ?_, ?_, ?_, backed.foreseen⟩
    · intro row member
      rcases List.mem_append.mp ((Fresh.fresh_sublist _ _).subset member) with disk | mem
      · exact backed.namedDisk row (List.mem_filter.mp disk).1
      · exact backed.named row ((Fresh.fresh_sublist _ _).subset mem)
    · show _ ⊆ uidsOf (Memory.dedupCopy (Recovery.merge store.state.queue store.backend.queue))
      rw [queue]
      exact backed.backed
    · exact Lawful.congr backed.lawful queue fun _ ended => ended
  · exact backed

end Save

section Dispatch

/-- The queue is rewritten row by row, each row keeping its uid. -/
theorem orderly_rewrite {rows' : List Record} (orderly : Orderly held state.queue state)
    (uids : rows'.map jobUidFromSnapshot = state.queue.map jobUidFromSnapshot)
    (named : ∀ row ∈ rows', row ∈ state.queue ∨ Identified row) :
    Orderly held rows' { state with queue := rows' } := by
  have same : uidsOf rows' = uidsOf state.queue := congrArg List.toFinset uids
  have indexed : state.queueUids = uidsOf rows' := by rw [same, orderly.coherent.queueUids]
  refine ⟨{ orderly.coherent with queueUids := indexed }, ?_, same ▸ orderly.apart, same ▸ orderly.heldApart⟩
  intro row member
  rcases named row member with old | identified
  · rw [rowsOf, Fresh.length_having, uids, ← Fresh.length_having]
    exact orderly.plain row old
  · exact Or.inl identified

variable (config : StoreConfig)

theorem parsedAt_some {idx : ℕ} {job : Job} (parsed : parsedAt state idx = some (row, job)) :
    state.queue[idx]? = some row ∧ Job.fromDict row = .ok job := by
  unfold parsedAt at parsed
  split at parsed
  · cases parsed
  · rename_i found looked
    cases outcome : Job.fromDict found with
    | error refusal => simp [outcome, Except.toOption] at parsed
    | ok built =>
      simp only [outcome, Except.toOption, Option.map_some, Option.some.injEq, Prod.mk.injEq] at parsed
      rw [← parsed.1, ← parsed.2]
      exact ⟨looked, outcome⟩

/-- Filling in the row that is looked at keeps every uid in its place. -/
theorem map_prepare {idx : ℕ} {job : Job} (parsed : parsedAt state idx = some (row, job)) :
    (prepare config state idx job).queue.map jobUidFromSnapshot = state.queue.map jobUidFromSnapshot ∧
      ∀ other ∈ (prepare config state idx job).queue, other ∈ state.queue ∨ Identified other := by
  obtain ⟨looked, built⟩ := parsedAt_some parsed
  obtain ⟨identified, own⟩ := uid_normalizeJobSnapshot config (identified_of_fromDict built) job.taskType.val
  unfold prepare
  dsimp only
  constructor
  · apply List.ext_getElem?
    intro place
    rw [List.getElem?_map, List.getElem?_map, List.getElem?_modify]
    by_cases here : idx = place
    · subst here
      simp [looked, own]
    · simp [here]
  · intro other member
    obtain ⟨place, found⟩ := List.mem_iff_getElem?.mp member
    rw [List.getElem?_modify] at found
    by_cases here : idx = place
    · subst here
      simp only [looked, Option.map_eq_map, Option.map_some, if_true, Option.some.injEq] at found
      rw [← found]
      exact Or.inr identified
    · have old : state.queue[place]? = some other := by simpa [here] using found
      exact Or.inl (List.mem_of_getElem? old)

/-- A row is taken out of a queue without duplicates. -/
theorem popJob_some {idx : ℕ} {popped : PipelineState} (orderly : Orderly ∅ state.queue state) (tidy : Tidy state)
    (taken : state.popJob idx = some (row, popped)) :
    row ∈ state.queue ∧ Orderly {jobUidFromSnapshot row} popped.queue popped ∧ Tidy popped ∧
      popped.inFlightUids = state.inFlightUids ∧
      insert (jobUidFromSnapshot row) (uidsOf popped.queue) = uidsOf state.queue ∧
      ∀ other ∈ popped.queue, other ∈ state.queue := by
  unfold popJob at taken
  cases looked : state.queue[idx]? with
  | none => simp [looked] at taken
  | some found =>
    simp only [looked, Option.map_some, Option.some.injEq, Prod.mk.injEq] at taken
    obtain ⟨same, popping⟩ := taken
    subst same
    obtain ⟨inside, here⟩ := List.getElem?_eq_some_iff.mp looked
    have member : found ∈ state.queue := List.mem_of_getElem? looked
    have sublist : (state.queue.eraseIdx idx).Sublist state.queue := List.eraseIdx_sublist _ _
    have shuffled : (found :: state.queue.eraseIdx idx).Perm state.queue := by
      rw [← here]
      exact List.getElem_cons_eraseIdx_perm inside
    have distinct := (shuffled.map jobUidFromSnapshot).nodup_iff.mpr tidy
    rw [List.map_cons, List.nodup_cons] at distinct
    have absent : jobUidFromSnapshot found ∉ uidsOf (state.queue.eraseIdx idx) :=
      fun queued => distinct.1 (List.mem_toFinset.mp queued)
    have whole : insert (jobUidFromSnapshot found) (uidsOf (state.queue.eraseIdx idx)) = uidsOf state.queue := by
      have same := List.toFinset_eq_of_perm _ _ (shuffled.map jobUidFromSnapshot)
      rwa [List.map_cons, List.toFinset_cons] at same
    have indexed : state.queueUids.erase (jobUidFromSnapshot found) = uidsOf (state.queue.eraseIdx idx) := by
      rw [orderly.coherent.queueUids, ← whole, Finset.erase_insert absent]
    have fewer : uidsOf (state.queue.eraseIdx idx) ⊆ uidsOf state.queue := by
      rw [← whole]
      exact Finset.subset_insert _ _
    have queued : jobUidFromSnapshot found ∈ uidsOf state.queue := Fresh.key_mem_keys member
    rw [require_of_holds (uidsConsistent_iff.mpr indexed)] at popping
    rw [← popping]
    refine ⟨member, ⟨?_, ?_, orderly.apart.mono_left fewer, ?_⟩, distinct.2, rfl, whole,
      fun other old => sublist.subset old⟩
    · exact { orderly.coherent with
        queueUids := indexed
        queueInFlight := orderly.coherent.queueInFlight.mono_left (Finset.erase_subset _ _)
        skippedQueue := orderly.coherent.skippedQueue.mono_right (Finset.erase_subset _ _) }
    · exact fun other _ => Or.inr (Fresh.nodup_iff.mp distinct.2 _)
    · rw [Finset.disjoint_singleton_left]
      simp only [Finset.mem_union, not_or]
      refine ⟨⟨absent, Finset.disjoint_left.mp orderly.apart queued⟩, ?_⟩
      apply Finset.disjoint_right.mp orderly.coherent.skippedQueue
      rw [orderly.coherent.queueUids]
      exact queued

end Dispatch

section Follow

/-- The jobs that the memory has: queued, in flight or held. -/
def custody (state : PipelineState) (held : Finset String) : Finset String :=
  uidsOf state.queue ∪ state.inFlightUids ∪ held

/-- Whether a job is in custody after some commits, given whether it was before. -/
def Decided (uid : String) (events : List Event) (before : Prop) : Prop :=
  match lastVerdict uid events with
  | none => before
  | some queued => queued = true

omit [Python] in
theorem decided_append {events later : List Event} {before : Prop} :
    Decided uid (events ++ later) before ↔ Decided uid later (Decided uid events before) := by
  unfold Decided
  rw [lastVerdict_append]
  cases lastVerdict uid later <;> rfl

/-- The custody of the memory follows the accepted commits. -/
def Follows (store : StateStore) (held : Finset String) (after : StateStore) (held' : Finset String) : Prop :=
  ∃ events, after.events = store.events ++ events ∧
    ∀ uid, uid ∈ custody after.state held' ↔ Decided uid events (uid ∈ custody store.state held)

theorem follows_of_events {held' : Finset String} (told : after.events = store.events)
    (same : custody after.state held' = custody store.state held) : Follows store held after held' :=
  ⟨[], by simp [told], fun uid => by rw [same]; rfl⟩

theorem Follows.trans {between : StateStore} {held' held'' : Finset String}
    (first : Follows store held between held') (second : Follows between held' after held'') :
    Follows store held after held'' := by
  obtain ⟨events, early, begins⟩ := first
  obtain ⟨later, late, ends⟩ := second
  refine ⟨events ++ later, by rw [late, early, List.append_assoc], fun uid => ?_⟩
  rw [ends uid, decided_append]
  unfold Decided
  cases lastVerdict uid later
  · exact begins uid
  · exact Iff.rfl

/-- Rows that move as the events say, and owned jobs that stand aside, make the custody follow. -/
theorem decided_of_moves {events : List Event} {source : List Record} {held' : Finset String}
    (moves : MovesAt uid source after.state.queue events)
    (silent : Owned held' after.state uid → lastVerdict uid events = none)
    (same : uid ∈ uidsOf source ∨ Owned held' after.state uid ↔ uid ∈ custody store.state held) :
    uid ∈ custody after.state held' ↔ Decided uid events (uid ∈ custody store.state held) := by
  have split : uid ∈ custody after.state held' ↔
      uid ∈ uidsOf after.state.queue ∨ Owned held' after.state uid := by
    simp only [custody, Owned, Finset.mem_union]
    tauto
  rw [split]
  unfold MovesAt at moves
  unfold Decided
  cases decided : lastVerdict uid events with
  | none =>
    rw [decided] at moves
    obtain ⟨strikes, moves⟩ := moves
    have still : uid ∈ uidsOf after.state.queue ↔ uid ∈ uidsOf source := by
      rw [← not_iff_not, ← rowsOf_eq_nil, ← rowsOf_eq_nil, moves, List.map_eq_nil_iff]
    rw [still]
    exact same
  | some queued =>
    rw [decided] at moves
    have landed : ¬ Owned held' after.state uid := fun owned => by simp [silent owned] at decided
    cases queued with
    | false =>
      have gone := rowsOf_eq_nil.mp moves
      simp [gone, landed]
    | true =>
      have there : uid ∈ uidsOf after.state.queue := by
        by_contra absent
        rw [rowsOf_eq_nil.mpr absent] at moves
        simp at moves
      simp [there]

theorem follows_gives {job : String} {snapshot : Record} (tidy : Tidy store.state)
    (orderly : Orderly held store.state.queue store.state) (owned : Owned held store.state job)
    (own : jobUidFromSnapshot snapshot = job) (gives : Gives store held job snapshot after) :
    Follows store held after (held.erase job) := by
  have absent := orderly.notMem_of_owned owned
  obtain ⟨events, told, moves⟩ := gives.passes.moved
  refine ⟨events, told, fun uid => ?_⟩
  have once : (rowsOf uid (snapshot :: store.state.queue)).length ≤ 1 := by
    by_cases this : uid = job
    · subst this
      rw [rowsOf_cons_self own absent, List.length_singleton]
    · rw [rowsOf_cons_of_ne own this]
      exact tidy_iff.mp tidy uid
  apply decided_of_moves (moves uid once)
  · exact fun still => (gives.passes.aside uid still).2 events told
  · rw [uidsOf, Fresh.keys_cons, own]
    simp only [custody, Owned, gives.flight, Finset.mem_insert, Finset.mem_erase, Finset.mem_union, uidsOf] at owned ⊢
    by_cases this : uid = job
    · subst this
      tauto
    · simp only [this, false_or, ne_eq, not_false_eq_true, true_and]
      tauto

theorem follows_keeps (tidy : Tidy store.state) (keeps : Keeps store held after) :
    Follows store held after held := by
  obtain ⟨events, told, moves⟩ := keeps.passes.moved
  refine ⟨events, told, fun uid => ?_⟩
  apply decided_of_moves (moves uid (tidy_iff.mp tidy uid))
  · exact fun still => (keeps.passes.aside uid still).2 events told
  · simp only [custody, Owned, keeps.flight, Finset.mem_union]
    tauto

theorem tidy_gives {job : String} {snapshot : Record} (tidy : Tidy store.state)
    (orderly : Orderly held store.state.queue store.state) (owned : Owned held store.state job)
    (own : jobUidFromSnapshot snapshot = job) (gives : Gives store held job snapshot after) : Tidy after.state := by
  apply gives.passes.moved.nodup
  rw [List.map_cons, List.nodup_cons, own]
  exact ⟨fun queued => orderly.notMem_of_owned owned (List.mem_toFinset.mpr queued), tidy⟩

/-- A whole batch: the memory stays tidy, and its custody follows. -/
theorem follows_settlesAll {runtime finish : Runtime} {entries : List InFlightJob} (tidy : Tidy runtime.store.state)
    (running : Running runtime) (settled : SettlesAll runtime entries finish) :
    Tidy finish.store.state ∧ Follows runtime.store ∅ finish.store ∅ := by
  induction settled with
  | nil => exact ⟨tidy, follows_of_events rfl rfl⟩
  | @cons runtime between finish entry rest tracked settles _ ih =>
    have owned : Owned ∅ runtime.store.state entry.jobUid := Or.inr (running.flying tracked)
    have own := (running.entries _ _ tracked).2.own
    have next := tidy_gives tidy running.orderly owned own settles.gives
    have first := follows_gives tidy running.orderly owned own settles.gives
    rw [Finset.erase_empty] at first
    obtain ⟨last, later⟩ := ih next (settles.running running)
    exact ⟨last, first.trans later⟩

theorem backed_settlesAll {runtime finish : Runtime} {entries : List InFlightJob}
    (backed : Backed opening ∅ runtime.store.state.queue runtime.store)
    (settled : SettlesAll runtime entries finish) :
    Backed opening ∅ finish.store.state.queue finish.store := by
  induction settled with
  | nil => exact backed
  | cons _ settles _ ih => exact ih (by simpa using settles.gives.passes.backed opening backed)

end Follow

end Tasklite.Engine.Durability
