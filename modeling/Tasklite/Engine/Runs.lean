import Tasklite.Engine.Durability

/-! Whole runs of the engine. One step lemma says what every operation keeps; from it
follow, for runs of any length over any number of crashes, the law of the queue on
disk, the representation invariant of the memory, and how the two queues agree. -/

namespace Tasklite.Engine.Runs
open Tasklite.Library Tasklite.Models Tasklite.Models.Identity Tasklite.Models.Coherence Tasklite.Backend
open PipelineState StateStore Ledger Custody Strikes Settlement Batches Lifecycle Durability

variable {run next : Run} {opening : Finset String} {row : Record} {job : Job}

section Invariant

variable [Python]

/-- The job that the dispatch has in hand. -/
def heldBy : Option (Record × Job) → Finset String
  | none => ∅
  | some (_, job) => {job.uid}

/-- The memory of a run is in order: the tracker has exactly what is in flight, the row in hand belongs to
its job, and unless a commit crash went through no uid is queued twice. -/
structure Steady (run : Run) : Prop where
  orderly : Orderly (heldBy run.hand) run.runtime.store.state.queue run.runtime.store.state
  index : ∀ uid, uid ∈ run.runtime.tracker.keys ↔ uid ∈ run.runtime.store.state.inFlightUids
  entries : ∀ uid entry, run.runtime.tracker.get? uid = some entry → entry.jobUid = uid ∧ Genuine entry
  inHand : ∀ row job, run.hand = some (row, job) → Identified row ∧ jobUidFromSnapshot row = job.uid
  tidy : run.crashed = false → Tidy run.runtime.store.state

/-- The backend has what the run has. -/
def Safe (opening : Finset String) (run : Run) : Prop :=
  Backed opening (heldBy run.hand) run.runtime.store.state.queue run.runtime.store

/-- What one operation of the event loop keeps. -/
structure Advances (opening : Finset String) (run next : Run) : Prop where
  steady : Steady next
  safe : Safe opening next
  follows : next.crashed = false → Follows run.runtime.store (heldBy run.hand) next.runtime.store (heldBy next.hand)

theorem Steady.running (steady : Steady run) (free : run.hand = none) : Running run.runtime where
  orderly := by
    have orderly := steady.orderly
    rw [free] at orderly
    exact orderly
  index := steady.index
  entries := steady.entries

theorem advances_self (steady : Steady run) (safe : Safe opening run) : Advances opening run run :=
  ⟨steady, safe, fun _ => follows_of_events rfl rfl⟩

end Invariant

section Hand

variable [Python] {store : StateStore} {crashed : Bool}

/-- The row in hand is given up by an operation on the store. -/
theorem advances_gives {snapshot : Record} (steady : Steady run) (safe : Safe opening run)
    (up : run.crashed = false) (hand : run.hand = some (row, job)) (own : jobUidFromSnapshot snapshot = job.uid)
    (gives : Gives run.runtime.store {job.uid} job.uid snapshot store) :
    Advances opening run { run with
      runtime := { run.runtime with store := store }
      hand := none
      crashed := crashed } := by
  have held : heldBy run.hand = {job.uid} := by rw [hand]; rfl
  have holding : job.uid ∈ ({job.uid} : Finset String) := Finset.mem_singleton_self _
  have emptied : ({job.uid} : Finset String).erase job.uid = heldBy none := by
    simp [heldBy]
  have orderly := steady.orderly
  have backed := safe
  unfold Safe at backed
  rw [held] at orderly backed
  have owned : Owned {job.uid} run.runtime.store.state job.uid := Or.inl holding
  have landed : job.uid ∉ run.runtime.store.state.inFlightUids := by
    intro flying
    apply Finset.disjoint_left.mp orderly.heldApart holding
    simp [flying]
  have passes := gives.passes
  rw [emptied] at passes
  have flight : store.state.inFlightUids = run.runtime.store.state.inFlightUids := by
    rw [gives.flight, Finset.erase_eq_of_notMem landed]
  have tidy := tidy_gives (steady.tidy up) orderly owned own gives
  refine ⟨⟨passes.orderly, ?_, steady.entries, (fun _ _ none => nomatch none), fun _ => tidy⟩,
    passes.backed opening backed, fun _ => ?_⟩
  · intro uid
    rw [show _ ↔ _ from steady.index uid, ← flight]
  · have follows := follows_gives (steady.tidy up) orderly owned own gives
    rw [emptied] at follows
    rw [held]
    exact follows

/-- A row in hand is put back as it is given. -/
theorem gives_requeue {snapshot : Record} {state : PipelineState} (store : StateStore)
    (orderly : Orderly {job.uid} store.state.queue store.state) (identified : Identified snapshot)
    (own : jobUidFromSnapshot snapshot = job.uid) (requeued : state = store.state.requeueJobs [snapshot] true) :
    Gives store {job.uid} job.uid snapshot { store with state := state } := by
  have holding : job.uid ∈ ({job.uid} : Finset String) := Finset.mem_singleton_self _
  have landed : job.uid ∉ store.state.inFlightUids := by
    intro flying
    apply Finset.disjoint_left.mp orderly.heldApart holding
    simp [flying]
  have passes := @passes_requeue _ _ _ _ _ store 0 orderly (Or.inl holding) identified own own rfl true
  have same : (store.mapState fun state => (state.unregisterInFlight job.uid).requeueJobs [snapshot] true) =
      { store with state := state } := by
    rw [requeued]
    show { store with state := (store.state.unregisterInFlight job.uid).requeueJobs [snapshot] true } = _
    rw [unregisterInFlight_self orderly.coherent landed]
  rw [same] at passes
  subst requeued
  exact ⟨passes, (Finset.erase_eq_of_notMem landed).symm⟩

/-- A row is taken in hand, perhaps with an activation number written into it. -/
theorem advances_take (steady : Steady run) (safe : Safe opening run) (up : run.crashed = false)
    (free : run.hand = none) (idx : ℕ) (activationNo : Option {n : ℕ // 1 ≤ n}) :
    Advances opening run (take run idx activationNo) := by
  have running := steady.running free
  unfold take
  split
  · exact advances_self steady safe
  · rename_i found popped taken
    obtain ⟨member, orderly, tidy, flight, whole, fewer⟩ := popJob_some running.orderly (steady.tidy up) taken
    have named : Identified found := safe.named found member
    dsimp only
    split
    · exact advances_self steady safe
    · rename_i job built
      have own : jobUidFromSnapshot found = job.uid := by
        rw [← uid_of_fromDict built]
        cases activationNo with
        | none => rfl
        | some number => exact (uid_set (by decide) (by decide) named).symm
      have disk := safe.backed
      rw [own] at orderly whole
      refine ⟨⟨orderly, ?_, steady.entries, ?_, fun _ => tidy⟩, ?_, fun _ => ?_⟩
      · intro uid
        show uid ∈ run.runtime.tracker.keys ↔ uid ∈ popped.inFlightUids
        rw [flight]
        exact steady.index uid
      · intro row other taken
        obtain ⟨rfl, rfl⟩ := Prod.mk.inj (Option.some.inj taken)
        exact ⟨identified_of_fromDict built, uid_of_fromDict built⟩
      · refine ⟨fun row old => safe.named row (fewer row old), safe.namedDisk, ?_, safe.lawful, safe.foreseen⟩
        show uidsOf popped.queue ∪ popped.inFlightUids ∪ {job.uid} ⊆ uidsOf run.runtime.store.backend.queue
        rw [free, ← whole] at disk
        rw [flight]
        apply Finset.Subset.trans _ disk
        intro uid
        simp only [heldBy, Finset.mem_union, Finset.mem_insert, Finset.mem_singleton, Finset.notMem_empty]
        tauto
      · refine follows_of_events rfl ?_
        show uidsOf popped.queue ∪ popped.inFlightUids ∪ {job.uid} =
          uidsOf run.runtime.store.state.queue ∪ run.runtime.store.state.inFlightUids ∪ heldBy run.hand
        rw [free, ← whole, flight]
        ext uid
        simp only [heldBy, Finset.mem_union, Finset.mem_insert, Finset.mem_singleton, Finset.notMem_empty]
        tauto

/-- Rewriting rows under their uids changes nothing here. -/
theorem advances_rewrite {rows : List Record} (steady : Steady run) (safe : Safe opening run)
    (uids : rows.map jobUidFromSnapshot = run.runtime.store.state.queue.map jobUidFromSnapshot)
    (named : ∀ row ∈ rows, row ∈ run.runtime.store.state.queue ∨ Identified row) :
    Advances opening run (run.mapStore fun store => store.mapState fun state => { state with queue := rows }) := by
  have same : uidsOf rows = uidsOf run.runtime.store.state.queue := congrArg List.toFinset uids
  refine ⟨⟨orderly_rewrite steady.orderly uids named, steady.index, steady.entries, steady.inHand, ?_⟩, ?_,
    fun _ => ?_⟩
  · intro up
    show (rows.map jobUidFromSnapshot).Nodup
    rw [uids]
    exact steady.tidy up
  · refine ⟨?_, safe.namedDisk, ?_, safe.lawful, safe.foreseen⟩
    · intro row member
      rcases named row member with old | identified
      · exact safe.named row old
      · exact identified
    · show uidsOf rows ∪ _ ∪ _ ⊆ _
      rw [same]
      exact safe.backed
  · refine follows_of_events rfl ?_
    show uidsOf rows ∪ _ ∪ _ = _
    rw [same]
    rfl

theorem Advances.trans {last : Run} (first : Advances opening run next) (second : Advances opening next last)
    (up : last.crashed = false → next.crashed = false) : Advances opening run last :=
  ⟨second.steady, second.safe, fun still => (first.follows (up still)).trans (second.follows still)⟩

/-- The row in hand goes in flight. -/
theorem advances_track (steady : Steady run) (safe : Safe opening run) (hand : run.hand = some (row, job))
    (launch : Launch) :
    Advances opening run { run with
      runtime := run.runtime.track ⟨job.uid, row, job, launch.lease, launch.attemptId, launch.executionId⟩
      hand := none } := by
  obtain ⟨identified, own⟩ := steady.inHand row job hand
  have orderly := steady.orderly
  have disk := safe.backed
  rw [hand] at orderly disk
  have apart := orderly.heldApart
  simp only [heldBy, Finset.disjoint_singleton_left, Finset.mem_union, not_or] at apart
  have registered : Coherent (run.runtime.store.state.registerInFlight job.uid) := by
    apply coherent_registerInFlight orderly.coherent
    · rw [orderly.coherent.queueUids]
      exact apart.1.1
    · exact apart.2
  refine ⟨⟨⟨registered, orderly.plain, ?_, Finset.disjoint_empty_left _⟩, ?_, ?_,
    (fun _ _ none => nomatch none), steady.tidy⟩, ?_, fun _ => ?_⟩
  · exact Finset.disjoint_insert_right.mpr ⟨apart.1.1, orderly.apart⟩
  · intro uid
    show uid ∈ (run.runtime.tracker.set job.uid _).keys ↔ uid ∈ insert job.uid _
    rw [Dict.mem_keys_set, Finset.mem_insert, steady.index]
  · intro uid entry tracked
    have looked := (Dict.get?_set run.runtime.tracker job.uid uid
      ⟨job.uid, row, job, launch.lease, launch.attemptId, launch.executionId⟩).symm.trans tracked
    split at looked
    · rename_i same
      rw [← Option.some.inj looked]
      exact ⟨same.symm, identified, own, rfl⟩
    · exact steady.entries uid entry looked
  · refine ⟨safe.named, safe.namedDisk, ?_, safe.lawful, safe.foreseen⟩
    show uidsOf run.runtime.store.state.queue ∪ insert job.uid run.runtime.store.state.inFlightUids ∪ ∅ ⊆ _
    apply Finset.Subset.trans _ disk
    intro uid
    simp only [heldBy, Finset.mem_union, Finset.mem_insert, Finset.mem_singleton, Finset.notMem_empty]
    tauto
  · refine follows_of_events rfl ?_
    show uidsOf run.runtime.store.state.queue ∪ insert job.uid run.runtime.store.state.inFlightUids ∪ ∅ =
      uidsOf run.runtime.store.state.queue ∪ run.runtime.store.state.inFlightUids ∪ heldBy run.hand
    rw [hand]
    ext uid
    simp only [heldBy, Finset.mem_union, Finset.mem_insert, Finset.mem_singleton, Finset.notMem_empty]
    tauto

end Hand

section Loop

variable [Python] (config : StoreConfig)

omit [Python] in
theorem heldBy_of_hand (hand : run.hand = some (row, job)) : heldBy run.hand = {job.uid} := by
  rw [hand]
  rfl

omit [Python] in
/-- Where an operation on the store leads, as one record. -/
theorem after_eq (run : Run) (store : StateStore) (signal : Option Signal) : ∃ crashed,
    run.after store signal = { run with runtime := { run.runtime with store := store }, crashed := crashed } := by
  unfold Run.after
  split
  · exact ⟨true, rfl⟩
  · exact ⟨run.crashed, rfl⟩

omit [Python] in
theorem settled_eq (run : Run) (runtime : Runtime) (signal : Option Signal) : ∃ crashed,
    run.settled runtime signal = { run with runtime := runtime, crashed := crashed } ∧
      (crashed = false → run.crashed = false) := by
  unfold Run.settled
  split
  · exact ⟨true, rfl, fun impossible => nomatch impossible⟩
  · exact ⟨run.crashed, rfl, id⟩

theorem advances_reject (steady : Steady run) (safe : Safe opening run) (up : run.crashed = false)
    (hand : run.hand = some (row, job)) (metadata : Record) (countAs : StatKey) (attemptId : Option Int) :
    Advances opening run { run.after
      (run.runtime.store.applyFailure config job.uid metadata row countAs attemptId).1
      (raisedBy (run.runtime.store.applyFailure config job.uid metadata row countAs attemptId).2) with
        hand := none } := by
  obtain ⟨identified, own⟩ := steady.inHand row job hand
  have orderly := steady.orderly
  rw [heldBy_of_hand hand] at orderly
  obtain ⟨crashed, same⟩ := after_eq run
    (run.runtime.store.applyFailure config job.uid metadata row countAs attemptId).1
    (raisedBy (run.runtime.store.applyFailure config job.uid metadata row countAs attemptId).2)
  rw [same]
  apply advances_gives steady safe up hand own
  exact gives_applyFailure config orderly (Or.inl (Finset.mem_singleton_self _)) identified own metadata countAs
    attemptId

/-- Marking a job that is in no custody as skipped. -/
theorem advances_markTriggerSkipped {uid : String} (steady : Steady run) (safe : Safe opening run)
    (free : run.hand = none) (idle : uid ∉ uidsOf run.runtime.store.state.queue)
    (landed : uid ∉ run.runtime.store.state.inFlightUids) :
    Advances opening run (run.mapStore fun store => store.mapState fun state => state.markTriggerSkipped uid) := by
  have orderly := steady.orderly
  rw [free] at orderly
  have coherent := coherent_markTriggerSkipped orderly.coherent (orderly.coherent.queueUids ▸ idle) landed
  refine ⟨⟨⟨coherent, steady.orderly.plain, steady.orderly.apart, ?_⟩, steady.index, steady.entries,
    steady.inHand, steady.tidy⟩, ⟨safe.named, safe.namedDisk, safe.backed, safe.lawful, safe.foreseen⟩,
    fun _ => follows_of_events rfl rfl⟩
  show Disjoint (heldBy run.hand) _
  rw [free]
  exact Finset.disjoint_empty_left _

theorem advances_triggerSkip (steady : Steady run) (safe : Safe opening run) (up : run.crashed = false)
    (hand : run.hand = some (row, job)) (attemptId : Option Int) :
    Advances opening run (match run.runtime.store.applySkip job.uid (some row) attemptId with
      | (store, .ok _) => { run.after (store.mapState fun state => state.markTriggerSkipped job.uid) none with
          hand := none }
      | (store, .error signal) => { run.after store (some signal) with hand := none }) := by
  obtain ⟨identified, own⟩ := steady.inHand row job hand
  have orderly := steady.orderly
  rw [heldBy_of_hand hand] at orderly
  have owned : Owned {job.uid} run.runtime.store.state job.uid := Or.inl (Finset.mem_singleton_self _)
  have absent := orderly.notMem_of_owned owned
  obtain ⟨gives, queue⟩ := gives_applySkip orderly owned identified own attemptId
  split
  · rename_i store answer skipped
    rw [skipped] at gives queue
    have first := @advances_gives run opening row job _ store run.crashed row steady safe up hand own gives
    have idle : job.uid ∉ uidsOf store.state.queue := by
      rw [queue (by cases answer; rfl)]
      exact absent
    have landed : job.uid ∉ store.state.inFlightUids := by
      rw [gives.flight]
      exact Finset.notMem_erase _ _
    exact first.trans (advances_markTriggerSkipped first.steady first.safe rfl idle landed) id
  · rename_i store signal refused
    rw [refused] at gives
    obtain ⟨crashed, same⟩ := after_eq run store (some signal)
    rw [same]
    exact advances_gives steady safe up hand own gives

/-- An operation on the store that keeps what is owned. -/
theorem advances_keeps {store : StateStore} {crashed : Bool} (steady : Steady run) (safe : Safe opening run)
    (up : run.crashed = false) (keeps : Keeps run.runtime.store (heldBy run.hand) store) :
    Advances opening run { run with runtime := { run.runtime with store := store }, crashed := crashed } := by
  refine ⟨⟨keeps.passes.orderly, ?_, steady.entries, steady.inHand, fun _ => ?_⟩,
    keeps.passes.backed opening safe, fun _ => follows_keeps (steady.tidy up) keeps⟩
  · intro uid
    show uid ∈ run.runtime.tracker.keys ↔ uid ∈ store.state.inFlightUids
    rw [keeps.flight]
    exact steady.index uid
  · exact keeps.passes.moved.nodup (steady.tidy up)

/-- The signal of a refused skip is a commit crash. -/
theorem applySkip_error {store : StateStore} {uid : String} {snapshot : Option Record} {attemptId : Option Int}
    {signal : Signal} (refused : (store.applySkip uid snapshot attemptId).2 = .error signal) :
    ∃ message, signal = .commitCrash message := by
  unfold applySkip at refused
  split at refused
  · cases refused
  · exact ⟨_, (Except.error.inj refused).symm⟩

theorem advances_selectionSkip {idx : ℕ} (steady : Steady run) (safe : Safe opening run)
    (up : run.crashed = false) (parsed : parsedAt run.runtime.store.state idx = some (row, job)) :
    Advances opening run (run.after (run.runtime.store.applySkip job.uid (some row) none).1
      (raisedBy (run.runtime.store.applySkip job.uid (some row) none).2)) := by
  obtain ⟨looked, built⟩ := parsedAt_some parsed
  have own := uid_of_fromDict built
  have member : row ∈ run.runtime.store.state.queue := List.mem_of_getElem? looked
  have queued : job.uid ∈ uidsOf run.runtime.store.state.queue := own ▸ Fresh.key_mem_keys member
  have idle : ¬ Owned (heldBy run.hand) run.runtime.store.state job.uid :=
    fun owned => steady.orderly.notMem_of_owned owned queued
  obtain ⟨stays, keeps⟩ := stays_applySkip steady.orderly idle (fun row old _ => safe.named row old)
    (identified_of_fromDict built) own queued none
  cases answer : (run.runtime.store.applySkip job.uid (some row) none).2 with
  | ok done => exact advances_keeps steady safe up (keeps (by rw [answer]))
  | error signal =>
    obtain ⟨message, crash⟩ := applySkip_error answer
    subst crash
    refine ⟨⟨stays.orderly, ?_, steady.entries, steady.inHand, fun impossible => nomatch impossible⟩,
      stays.backed opening safe, fun impossible => nomatch impossible⟩
    intro uid
    show uid ∈ run.runtime.tracker.keys ↔
      uid ∈ (run.runtime.store.applySkip job.uid (some row) none).1.state.inFlightUids
    rw [stays.flight]
    exact steady.index uid

/-- The deadlock arbitration archives queued rows. -/
theorem advances_bulkFailure (steady : Steady run) (safe : Safe opening run) (up : run.crashed = false)
    (targets : Option (List String)) (error : String) :
    Advances opening run (run.after
      (run.runtime.store.applyBulkFailure config
        (splitDeadlockByUids run.runtime.store.state.queue targets error)).1
      (raisedBy (run.runtime.store.applyBulkFailure config
        (splitDeadlockByUids run.runtime.store.state.queue targets error)).2)) := by
  obtain ⟨crashed, same⟩ := after_eq run
    (run.runtime.store.applyBulkFailure config (splitDeadlockByUids run.runtime.store.state.queue targets error)).1
    (raisedBy (run.runtime.store.applyBulkFailure config
      (splitDeadlockByUids run.runtime.store.state.queue targets error)).2)
  rw [same]
  apply advances_keeps steady safe up
  apply keeps_applyBulkFailure config steady.orderly
  · intro uid member owned
    unfold splitDeadlockByUids at member
    simp only [List.map_map, List.mem_map, Function.comp_apply] at member
    obtain ⟨row, listed, rfl⟩ := member
    exact steady.orderly.notMem_of_owned owned (Fresh.key_mem_keys (List.mem_filter.mp listed).1)
  · exact fun row member _ => safe.named row member

/-- A batch of executions is settled. -/
theorem advances_settlesAll {runtime : Runtime} {entries : List InFlightJob} {crashed : Bool} (steady : Steady run)
    (safe : Safe opening run) (free : run.hand = none) (still : crashed = false → run.crashed = false)
    (settled : SettlesAll run.runtime entries runtime) :
    Advances opening run { run with runtime := runtime, crashed := crashed } := by
  have running := steady.running free
  have finish := settled.running running
  have backed := safe
  unfold Safe at backed
  rw [free] at backed
  have disk := backed_settlesAll backed settled
  have none : heldBy run.hand = ∅ := by rw [free]; rfl
  refine ⟨⟨none ▸ finish.orderly, finish.index, finish.entries, steady.inHand, fun up => ?_⟩, ?_, fun up => ?_⟩
  · exact (follows_settlesAll (steady.tidy (still up)) running settled).1
  · unfold Safe
    rw [show heldBy _ = ∅ from none]
    exact disk
  · rw [none]
    exact (follows_settlesAll (steady.tidy (still up)) running settled).2

omit [Python] in
theorem map_fst_filterMap {β : Type} (entries : List InFlightJob) (finished : String → Option β) :
    (entries.filterMap fun entry => (finished entry.jobUid).map fun ending => (entry, ending)).map Prod.fst =
      entries.filter fun entry => (finished entry.jobUid).isSome := by
  induction entries with
  | nil => rfl
  | cons entry rest ih =>
    cases ending : finished entry.jobUid with
    | none => simp [ending, ih]
    | some value => simp [ending, ih]

/-- An abort settles everything that is tracked, each entry once. -/
theorem distinct_partition {runtime : Runtime} {β : Type} (running : Running runtime)
    (finished : String → Option β) (cleanupFault : String → Option String) :
    let entries := runtime.tracker.entries.map Prod.snd
    Distinct runtime
      ((((entries.filter fun entry => (finished entry.jobUid).isNone).map fun entry =>
          (entry, cleanupFault entry.jobUid)).map Prod.fst) ++
        ((entries.filterMap fun entry => (finished entry.jobUid).map fun ending => (entry, ending)).map
          Prod.fst)) := by
  intro entries
  have kept : ((entries.filter fun entry => (finished entry.jobUid).isNone).map fun entry =>
      (entry, cleanupFault entry.jobUid)).map Prod.fst =
      entries.filter fun entry => !(finished entry.jobUid).isSome := by
    rw [List.map_map]
    simp [Function.comp_def]
  rw [kept, map_fst_filterMap]
  have whole : (entries.filter (fun entry => !(finished entry.jobUid).isSome) ++
      entries.filter fun entry => (finished entry.jobUid).isSome).Perm entries :=
    List.perm_append_comm.trans (List.filter_append_perm _ entries)
  have uids : entries.map InFlightJob.jobUid = runtime.tracker.entries.map Prod.fst := by
    rw [List.map_map]
    apply List.map_congr_left
    intro tracked member
    exact (running.entries tracked.1 tracked.2 (Dict.mem_entries.mp member)).1
  constructor
  · rw [(whole.map InFlightJob.jobUid).nodup_iff, uids]
    exact runtime.tracker.distinct
  · intro entry member
    obtain ⟨tracked, listed, rfl⟩ := List.mem_map.mp (whole.mem_iff.mp member)
    have found := Dict.mem_entries.mp listed
    rw [(running.entries tracked.1 tracked.2 found).1]
    exact found

end Loop

section Step

variable [Python] (config : StoreConfig)

/-- All rows that other processes enqueue in the course of an operation name their jobs. -/
def Named : Operation → Prop
  | .foresee _ answers _ => ∀ answer ∈ answers, ∀ batch ∈ answer.enqueued, ∀ row ∈ batch.1, Identified row
  | .enqueue snapshots _ => ∀ row ∈ snapshots, Identified row
  | .crash window _ _ => ∀ batch ∈ window.enqueued, ∀ row ∈ batch.1, Identified row
  | _ => True

/-- The operations of the event loop: no exception leaves a row out of the memory, and the memory stays. -/
def InLoop : Operation → Prop
  | .drop => False
  | .crash _ _ _ => False
  | _ => True

theorem advances_enqueue (steady : Steady run) (safe : Safe opening run) {snapshots : List Record}
    (named : ∀ row ∈ snapshots, Identified row) (front : Bool) :
    Advances opening run (run.mapStore fun store => store.enqueueElsewhere snapshots front) := by
  refine ⟨⟨steady.orderly, steady.index, steady.entries, steady.inHand, steady.tidy⟩,
    backed_enqueueElsewhere safe named front, fun _ => ?_⟩
  exact ⟨[.enqueued (run.runtime.store.backend.enqueueJobs snapshots front).2], rfl, fun uid => Iff.rfl⟩

theorem advances_putBack (steady : Steady run) (safe : Safe opening run) (up : run.crashed = false)
    (hand : run.hand = some (row, job)) (counted : Bool) :
    Advances opening run { run.mapStore (fun store => store.mapState fun state => state.requeueJobs
      [if counted then recordDispatchFailure row else row] true) with hand := none } := by
  obtain ⟨identified, own⟩ := steady.inHand row job hand
  have orderly := steady.orderly
  rw [heldBy_of_hand hand] at orderly
  have kept : Identified (if counted then recordDispatchFailure row else row) ∧
      jobUidFromSnapshot (if counted then recordDispatchFailure row else row) = job.uid := by
    split
    · exact ⟨identified_set (by decide) (by decide) identified,
        (uid_set (by decide) (by decide) identified).trans own⟩
    · exact ⟨identified, own⟩
  exact advances_gives steady safe up hand kept.2
    (gives_requeue run.runtime.store orderly kept.1 kept.2 rfl)

theorem advances_pop (steady : Steady run) (safe : Safe opening run) (up : run.crashed = false)
    (free : run.hand = none) {idx : ℕ} (parsed : parsedAt run.runtime.store.state idx = some (row, job))
    (activationNo : Option {n : ℕ // 1 ≤ n}) :
    Advances opening run (take (run.mapStore fun store => store.mapState fun state =>
      prepare config state idx job) idx activationNo) := by
  obtain ⟨uids, named⟩ := map_prepare config parsed
  have prepared := advances_rewrite steady safe uids named
  exact prepared.trans (advances_take prepared.steady prepared.safe up free idx activationNo) fun _ => up

theorem advances_save (steady : Steady run) (safe : Safe opening run) (raises : Bool) :
    Advances opening run (run.mapStore fun store => Recovery.saveQueueCrashSafe store raises) := by
  exact ⟨⟨steady.orderly, steady.index, steady.entries, steady.inHand, steady.tidy⟩,
    backed_saveQueueCrashSafe safe raises, fun _ => follows_of_events rfl rfl⟩

/-- One operation of the event loop. -/
theorem advances_step (steady : Steady run) (safe : Safe opening run) {operation : Operation}
    (named : Named operation) (loops : InLoop operation) :
    Advances opening run (step config run operation) := by
  cases operation with
  | foresee now answers hookRaises =>
    exact ⟨⟨steady.orderly, steady.index, steady.entries, steady.inHand, steady.tidy⟩,
      ⟨safe.named, safe.namedDisk, safe.backed, safe.lawful, named⟩, fun _ => follows_of_events rfl rfl⟩
  | enqueue snapshots front => exact advances_enqueue steady safe named front
  | pop idx activationNo =>
    simp only [step]
    split
    · rename_i up free parsed
      exact advances_pop config steady safe up free parsed activationNo
    · exact advances_self steady safe
  | popDepFailed idx =>
    simp only [step]
    split
    · rename_i up free _
      exact advances_take steady safe up free idx none
    · exact advances_self steady safe
  | track launch =>
    simp only [step]
    split
    · rename_i hand
      exact advances_track steady safe hand launch
    · exact advances_self steady safe
  | drop => exact loops.elim
  | putBack counted =>
    simp only [step]
    split
    · rename_i up hand
      exact advances_putBack steady safe up hand counted
    · exact advances_self steady safe
  | requeueTransient transientKind attemptId errorMessage =>
    simp only [step]
    split
    · rename_i up hand
      obtain ⟨identified, own⟩ := steady.inHand _ _ hand
      have orderly := steady.orderly
      rw [heldBy_of_hand hand] at orderly
      exact advances_gives steady safe up hand own (gives_requeueTransient config orderly
        (Finset.mem_singleton_self _) identified own transientKind attemptId errorMessage)
    · exact advances_self steady safe
  | reject metadata countAs attemptId =>
    simp only [step]
    split
    · rename_i up hand
      exact advances_reject config steady safe up hand metadata countAs attemptId
    · exact advances_self steady safe
  | triggerSkip attemptId =>
    simp only [step]
    split
    · rename_i up hand
      exact advances_triggerSkip steady safe up hand attemptId
    · exact advances_self steady safe
  | selectionSkip idx =>
    simp only [step]
    split
    · rename_i up _ parsed
      exact advances_selectionSkip steady safe up parsed
    · exact advances_self steady safe
  | bulkFailure targets error =>
    simp only [step]
    split
    · rename_i up _ _
      exact advances_bulkFailure config steady safe up targets error
    · exact advances_self steady safe
  | settleReaped reaped =>
    simp only [step]
    split
    · rename_i up free
      obtain ⟨entries, settled, -⟩ := settlesAll_settleReaped config reaped (steady.running free) none
      obtain ⟨crashed, same, still⟩ := settled_eq run (Runtime.settleReaped config reaped run.runtime none).1
        (Runtime.settleReaped config reaped run.runtime none).2
      rw [same]
      exact advances_settlesAll steady safe free still settled
    · exact advances_self steady safe
  | settleAborted finished cleanupFault =>
    simp only [step]
    split
    · rename_i free
      have running := steady.running free
      have settled := settlesAll_settleAborted config running (distinct_partition running finished cleanupFault)
      obtain ⟨crashed, same, still⟩ := settled_eq run (Runtime.settleAborted config run.runtime _ _).1
        (Runtime.settleAborted config run.runtime _ _).2
      rw [same]
      exact advances_settlesAll steady safe free still settled
    · exact advances_self steady safe
  | saveQueueCrashSafe raises => exact advances_save steady safe raises
  | crash window resources runId => exact loops.elim

/-- A run that has just loaded its state. -/
theorem steady_boot {store : StateStore} {held : Finset String} {rows : List Record}
    (backed : Backed opening held rows store) {window : Recovery.Window}
    (named : ∀ batch ∈ window.enqueued, ∀ row ∈ batch.1, Identified row) (resources : ResourceManager)
    (runId : Option String) :
    Steady (boot store window resources runId) ∧ Safe opening (boot store window resources runId) := by
  obtain ⟨orderly, tidy⟩ := orderly_loadAndRepair store window
  refine ⟨⟨orderly, ?_, ?_, (fun _ _ none => nomatch none), fun _ => tidy⟩, backed_loadAndRepair backed named⟩
  · intro uid
    exact iff_of_false List.not_mem_nil (Finset.notMem_empty uid)
  · intro uid entry tracked
    cases tracked

/-- Every operation keeps the memory in order and backed by the disk. -/
theorem steady_step (steady : Steady run) (safe : Safe opening run) {operation : Operation}
    (named : Named operation) : Steady (step config run operation) ∧ Safe opening (step config run operation) := by
  by_cases loops : InLoop operation
  · have advances := advances_step config steady safe named loops
    exact ⟨advances.steady, advances.safe⟩
  · cases operation with
    | drop =>
      have orderly := steady.orderly
      have held := orderly.heldApart
      refine ⟨⟨⟨orderly.coherent, orderly.plain, orderly.apart, Finset.disjoint_empty_left _⟩, steady.index,
        steady.entries, (fun _ _ none => nomatch none), steady.tidy⟩, ?_⟩
      refine ⟨safe.named, safe.namedDisk, ?_, safe.lawful, safe.foreseen⟩
      apply Finset.Subset.trans _ safe.backed
      exact Finset.union_subset_union_right (Finset.empty_subset _)
    | crash window resources runId => exact steady_boot safe named resources runId
    | _ => exact absurd trivial loops

end Step

section Sample

/-- A job is enqueued, loaded, dispatched, and fails. -/
def servedOnce : List Operation :=
  [.enqueue [namedRow] false, .crash {} sampleResources none, .pop 0 (some ⟨1, by decide⟩),
    .track ⟨0, none, none⟩, .settleReaped [("t::a", {}, {})]]

/-- The batch that archives what cannot run is refused, the archiving of the struck job is not. -/
def struckOut (rows : List Record) (targets : Option (List String)) : List Operation :=
  [.enqueue rows false, .crash {} sampleResources none,
    .foresee sampleNow [⟨[], false⟩, ⟨[], true⟩] [], .bulkFailure targets "malformed"]

end Sample

local instance : Python := samplePython

theorem named_servedOnce : ∀ operation ∈ servedOnce, Named operation := by
  intro operation member
  simp only [servedOnce, List.mem_cons, List.not_mem_nil, or_false] at member
  rcases member with rfl | rfl | rfl | rfl | rfl
  · intro row listed
    rw [List.mem_singleton.mp listed]
    decide
  · intro batch listed
    cases listed
  · trivial
  · trivial
  · trivial

theorem rowless : ∀ row ∈ Memory.empty.queue, Identified row := by
  intro row member
  cases member

theorem windowless : ∀ batch ∈ ({} : Recovery.Window).enqueued, ∀ row ∈ batch.1, Identified row := by
  intro batch member
  cases member

section Main

variable (config : StoreConfig)

/-- A store over a backend, before anything has happened. -/
def fresh (backend : Memory) (now : Text) : StateStore where
  backend := backend
  state := PipelineState.init Dict.empty Dict.empty Dict.empty []
  stats := fun _ => 0
  now := now
  answers := []
  hookRaises := []
  events := []
  finished := []

theorem backed_fresh [Python] {backend : Memory} (named : ∀ row ∈ backend.queue, Identified row) (now : Text) :
    Backed (uidsOf backend.queue) ∅ [] (fresh backend now) where
  named := by simp
  namedDisk := named
  backed := Finset.empty_subset _
  lawful := lawful_nil backend
  foreseen := by
    intro answer member
    cases member

/-- A run from the loading of its state on. -/
def history [Python] (backend : Memory) (now : Text) (window : Recovery.Window) (resources : ResourceManager)
    (runId : Option String) (operations : List Operation) : Run :=
  Machine.run (step config) (boot (fresh backend now) window resources runId) operations

theorem steady_history [Python] {backend : Memory} (named : ∀ row ∈ backend.queue, Identified row) (now : Text)
    {window : Recovery.Window} (windowed : ∀ batch ∈ window.enqueued, ∀ row ∈ batch.1, Identified row)
    (resources : ResourceManager) (runId : Option String) {operations : List Operation}
    (guarded : ∀ operation ∈ operations, Named operation) :
    Steady (history config backend now window resources runId operations) ∧
      Safe (uidsOf backend.queue) (history config backend now window resources runId operations) := by
  have start := steady_boot (backed_fresh named now) windowed resources runId
  have kept : ∀ run operation, Named operation → (Steady run ∧ Safe (uidsOf backend.queue) run) →
      Steady (step config run operation) ∧ Safe (uidsOf backend.queue) (step config run operation) :=
    fun _ _ named kept => steady_step config kept.1 kept.2 named
  exact @Machine.run_invariant_of_mem _ _ (step config)
    (fun run => Steady run ∧ Safe (uidsOf backend.queue) run) Named _ start kept _ guarded

/-- In every run all of whose rows name their jobs, over any number of crashes, the queue on disk holds
exactly the uids that were there or were inserted, and not removed since; and whatever was there or
inserted is queued, has succeeded or failed, or was skipped. -/
theorem disk_queue_lawful [Python] {backend : Memory} (named : ∀ row ∈ backend.queue, Identified row) (now : Text)
    {window : Recovery.Window} (windowed : ∀ batch ∈ window.enqueued, ∀ row ∈ batch.1, Identified row)
    (resources : ResourceManager) (runId : Option String) {operations : List Operation}
    (guarded : ∀ operation ∈ operations, Named operation) :
    let store := (history config backend now window resources runId operations).runtime.store
    Lawful (uidsOf backend.queue) store.backend store.events :=
  (steady_history config named now windowed resources runId guarded).2.lawful

theorem disk_queue_lawful_served : (∀ operation ∈ servedOnce, Named operation) ∧
    let store := (history sampleConfig Memory.empty sampleNow {} sampleResources none servedOnce).runtime.store
    Lawful (uidsOf Memory.empty.queue) store.backend store.events :=
  ⟨named_servedOnce, disk_queue_lawful sampleConfig rowless sampleNow windowless sampleResources none
    named_servedOnce⟩

/-- A row without a task type is struck: it is archived under the uid that it had, but goes on in memory
under the uid of its new content, and the next save writes it to the disk. -/
theorem struck_row_resurrected :
    let store := (history sampleConfig Memory.empty sampleNow {} sampleResources none
      (struckOut [unnamedRow 2] none ++ [.saveQueueCrashSafe false])).runtime.store
    uidsOf store.backend.queue =
        {"_unknown::3dc52814306d7c2c95fc6546d97a08c567a9cb0259ea2add5194812833866068"} ∧
      standing ∅ store.events = ∅ ∧ ¬ Lawful ∅ store.backend store.events := by
  refine ⟨by decide +kernel, by decide +kernel, fun lawful => ?_⟩
  exact absurd lawful.exact (by decide +kernel)

/-- In every such run the representation invariant of the memory holds in every state reached, and no uid
is queued twice unless a commit crash went through. -/
theorem memory_coherent [Python] {backend : Memory} (named : ∀ row ∈ backend.queue, Identified row) (now : Text)
    {window : Recovery.Window} (windowed : ∀ batch ∈ window.enqueued, ∀ row ∈ batch.1, Identified row)
    (resources : ResourceManager) (runId : Option String) {operations : List Operation}
    (guarded : ∀ operation ∈ operations, Named operation) :
    let run := history config backend now window resources runId operations
    Coherent run.runtime.store.state ∧ (run.crashed = false → Tidy run.runtime.store.state) := by
  obtain ⟨steady, -⟩ := steady_history config named now windowed resources runId guarded
  exact ⟨steady.orderly.coherent, steady.tidy⟩

theorem memory_coherent_served : (∀ operation ∈ servedOnce, Named operation) ∧
    let run := history sampleConfig Memory.empty sampleNow {} sampleResources none servedOnce
    Coherent run.runtime.store.state ∧ (run.crashed = false → Tidy run.runtime.store.state) :=
  ⟨named_servedOnce, memory_coherent sampleConfig rowless sampleNow windowless sampleResources none
    named_servedOnce⟩

/-- A struck row takes the uid of another row, and no crash signal says so. -/
theorem struck_row_duplicates :
    let run := history sampleConfig Memory.empty sampleNow {} sampleResources none
      (struckOut [unnamedRow 2, unnamedRow 3] (some [jobUidFromSnapshot (unnamedRow 2)]))
    run.crashed = false ∧ ¬ Tidy run.runtime.store.state := by
  unfold Tidy
  decide +kernel

end Main

section Agreement

variable [Python] (config : StoreConfig)

/-- The uids that other processes have inserted. -/
def foreign (events : List Event) : Finset String :=
  events.foldl (fun uids event => match event with
    | .enqueued enqueued => uids ∪ enqueued.toFinset
    | _ => uids) ∅

omit [Python] in
theorem foreign_concat (events : List Event) (event : Event) : foreign (events ++ [event]) =
    foreign events ∪ match event with
      | .enqueued enqueued => enqueued.toFinset
      | _ => ∅ := by
  unfold foreign
  rw [List.foldl_append, List.foldl_cons, List.foldl_nil]
  cases event <;> simp

omit [Python] in
theorem foreign_append (events later : List Event) : foreign (events ++ later) = foreign events ∪ foreign later := by
  induction later using List.reverseRecOn with
  | nil => simp [foreign]
  | append_singleton later event ih =>
    rw [← List.append_assoc, foreign_concat, ih, foreign_concat, Finset.union_assoc]

omit [Python] in
/-- What stands after some commits was put there by one of them, came from elsewhere, or stood before. -/
theorem mem_standing {uid : String} {before : Finset String} {events : List Event}
    (stands : uid ∈ standing before events) :
    Decided uid events (uid ∈ before) ∨ uid ∈ foreign events := by
  induction events using List.reverseRecOn with
  | nil => exact Or.inl stands
  | append_singleton events event ih =>
    rw [standing_concat] at stands
    rw [decided_append, foreign_concat]
    cases event with
    | enqueued enqueued =>
      rcases Finset.mem_union.mp stands with old | new
      · rcases ih old with decided | elsewhere
        · exact Or.inl decided
        · exact Or.inr (Finset.mem_union_left _ elsewhere)
      · exact Or.inr (Finset.mem_union_right _ new)
    | succeeded done spawned =>
      rcases Finset.mem_union.mp stands with old | child
      · obtain ⟨different, stood⟩ := Finset.mem_erase.mp old
        by_cases child : uid ∈ spawned
        · left
          simp [Decided, lastVerdict, verdict, child]
        · rcases ih stood with decided | elsewhere
          · left
            simpa [Decided, lastVerdict, verdict, child, different] using decided
          · exact Or.inr (Finset.mem_union_left _ elsewhere)
      · left
        simp [Decided, lastVerdict, verdict, List.mem_toFinset.mp child]
    | failed uids =>
      obtain ⟨stood, kept⟩ := Finset.mem_sdiff.mp stands
      have absent : uid ∉ uids := fun gone => kept (List.mem_toFinset.mpr gone)
      rcases ih stood with decided | elsewhere
      · left
        simpa [Decided, lastVerdict, verdict, absent] using decided
      · exact Or.inr (Finset.mem_union_left _ elsewhere)
    | retried retry =>
      rcases ih stands with decided | elsewhere
      · left
        by_cases this : uid = retry
        · simp [Decided, lastVerdict, verdict, this]
        · simpa [Decided, lastVerdict, verdict, this] using decided
      · exact Or.inr (Finset.mem_union_left _ elsewhere)
    | skipped skip =>
      obtain ⟨different, stood⟩ := Finset.mem_erase.mp stands
      rcases ih stood with decided | elsewhere
      · left
        simpa [Decided, lastVerdict, verdict, different] using decided
      · exact Or.inr (Finset.mem_union_left _ elsewhere)

omit [Python] in
theorem standing_append (before : Finset String) (events later : List Event) :
    standing before (events ++ later) = standing (standing before events) later := by
  unfold standing
  rw [List.foldl_append]

/-- What is on disk is in custody, or was inserted by another process since the mark. -/
def Covered (mark : ℕ) (run : Run) : Prop :=
  mark ≤ run.runtime.store.events.length ∧
    ∀ uid ∈ uidsOf run.runtime.store.backend.queue,
      uid ∈ custody run.runtime.store.state (heldBy run.hand) ∨
        uid ∈ foreign (run.runtime.store.events.drop mark)

theorem Advances.covered {mark : ℕ} (advances : Advances opening run next) (safe : Safe opening run)
    (up : next.crashed = false) (covered : Covered mark run) : Covered mark next := by
  obtain ⟨events, told, follows⟩ := advances.follows up
  have ledger : uidsOf next.runtime.store.backend.queue =
      standing (uidsOf run.runtime.store.backend.queue) events := by
    rw [advances.safe.lawful.exact, told, standing_append, ← safe.lawful.exact]
  have later : next.runtime.store.events.drop mark = run.runtime.store.events.drop mark ++ events := by
    rw [told, List.drop_append_of_le_length covered.1]
  refine ⟨?_, fun uid queued => ?_⟩
  · rw [told, List.length_append]
    have reached := covered.1
    omega
  · rw [ledger] at queued
    rw [follows uid, later, foreign_append, Finset.mem_union]
    rcases mem_standing queued with decided | elsewhere
    · unfold Decided at decided ⊢
      cases found : lastVerdict uid events with
      | some placed =>
        rw [found] at decided
        exact Or.inl decided
      | none =>
        rw [found] at decided
        rcases covered.2 uid decided with mine | foreigner
        · exact Or.inl mine
        · exact Or.inr (Or.inl foreigner)
    · exact Or.inr (Or.inr elsewhere)

/-- How far the history had come at the last read of the queue that did not raise. -/
def readMark (store : StateStore) (window : Recovery.Window) : ℕ :=
  if window.rereadFails then store.events.length
  else (Recovery.loadAndRepair store window).events.length

theorem covered_boot {store : StateStore} {held : Finset String} {rows : List Record}
    (backed : Backed opening held rows store) {window : Recovery.Window}
    (named : ∀ batch ∈ window.enqueued, ∀ row ∈ batch.1, Identified row) (resources : ResourceManager)
    (runId : Option String) :
    Covered (readMark store window) (boot store window resources runId) := by
  have safe : Safe opening (boot store window resources runId) := (steady_boot backed named resources runId).2
  have queue : uidsOf (boot store window resources runId).runtime.store.state.queue =
      uidsOf store.backend.queue ∪ uidsOf (if window.rereadFails then []
        else (boot store window resources runId).runtime.store.backend.queue) :=
    uidsOf_repairQueueOnLoad _ _
  have told : ∃ news, (boot store window resources runId).runtime.store.events = store.events ++ news ∧
      ∀ uid, lastVerdict uid news = none := by
    obtain ⟨-, ⟨news, told, quiet⟩, -⟩ := asked_foldl window.enqueued (if window.deleteFails then store else
      { store with backend := (store.backend.deleteSuccesses
          (store.backend.successes.keys.filter store.backend.failed.contains)).1 })
    refine ⟨news, told.trans ?_, quiet⟩
    split <;> rfl
  obtain ⟨news, told, quiet⟩ := told
  have ledger : uidsOf (boot store window resources runId).runtime.store.backend.queue =
      standing (uidsOf store.backend.queue) news := by
    rw [safe.lawful.exact, told, standing_append, ← backed.lawful.exact]
  have mine : ∀ uid ∈ uidsOf (boot store window resources runId).runtime.store.state.queue,
      uid ∈ custody (boot store window resources runId).runtime.store.state
        (heldBy (boot store window resources runId).hand) :=
    fun uid queued => Finset.mem_union_left _ (Finset.mem_union_left _ queued)
  unfold readMark
  cases fails : window.rereadFails with
  | false =>
    refine ⟨le_rfl, fun uid queued => Or.inl (mine uid ?_)⟩
    rw [queue, fails]
    exact Finset.mem_union_right _ queued
  | true =>
    refine ⟨?_, fun uid queued => ?_⟩
    · rw [told, List.length_append]
      exact Nat.le_add_right _ _
    · rw [told, if_pos rfl, List.drop_left]
      rw [ledger] at queued
      rcases mem_standing queued with decided | elsewhere
      · unfold Decided at decided
        rw [quiet uid] at decided
        left
        apply mine
        rw [queue]
        exact Finset.mem_union_left _ decided
      · exact Or.inr elsewhere

/-- Nothing but a load brings a crashed run up again. -/
theorem crashed_step {operation : Operation} (loops : InLoop operation) (down : run.crashed = true) :
    (step config run operation).crashed = true := by
  cases operation with
  | settleAborted finished cleanupFault =>
    simp only [step]
    split
    · obtain ⟨crashed, same, still⟩ := settled_eq run (Runtime.settleAborted config run.runtime _ _).1
        (Runtime.settleAborted config run.runtime _ _).2
      rw [same]
      cases crashed with
      | true => rfl
      | false => exact absurd (still rfl) (by simp [down])
    · exact down
  | drop => exact loops.elim
  | crash => exact loops.elim
  | foresee => exact down
  | enqueue => exact down
  | saveQueueCrashSafe => exact down
  | _ => simp only [step, down]

/-- A run that is watched: how far the history had come at the last read of the queue, and whether an
exception has left a row in hand out of the memory since. -/
structure Watch where
  run : Run
  mark : ℕ
  dropped : Bool

def watch (watched : Watch) (operation : Operation) : Watch where
  run := step config watched.run operation
  mark := match operation with
    | .crash window _ _ => readMark watched.run.runtime.store window
    | _ => watched.mark
  dropped := match operation with
    | .crash _ _ _ => false
    | .drop => watched.dropped || watched.run.hand.isSome
    | _ => watched.dropped

/-- The watch of a history from the loading of its state on. -/
def watchHistory (backend : Memory) (now : Text) (window : Recovery.Window) (resources : ResourceManager)
    (runId : Option String) (operations : List Operation) : Watch :=
  Machine.run (watch config)
    ⟨boot (fresh backend now) window resources runId, readMark (fresh backend now) window, false⟩ operations

/-- What every operation keeps of a watched run. -/
def Kept (opening : Finset String) (watched : Watch) : Prop :=
  Steady watched.run ∧ Safe opening watched.run ∧
    (watched.dropped = false → watched.run.crashed = false → Covered watched.mark watched.run)

theorem kept_watch {watched : Watch} {operation : Operation} (named : Named operation)
    (kept : Kept opening watched) : Kept opening (watch config watched operation) := by
  obtain ⟨steady, safe, covered⟩ := kept
  obtain ⟨next, secured⟩ := steady_step config steady safe named
  refine ⟨next, secured, ?_⟩
  by_cases loops : InLoop operation
  · intro complete up
    have mark : (watch config watched operation).mark = watched.mark := by
      cases operation <;> first | rfl | exact loops.elim
    have dropped : (watch config watched operation).dropped = watched.dropped := by
      cases operation <;> first | rfl | exact loops.elim
    rw [mark]
    have before : watched.run.crashed = false := by
      cases down : watched.run.crashed with
      | false => rfl
      | true => exact absurd up (by simp [watch, crashed_step config loops down])
    exact (advances_step config steady safe named loops).covered safe up (covered (dropped ▸ complete) before)
  · cases operation with
    | drop =>
      intro complete up
      have whole : watched.dropped = false ∧ watched.run.hand.isSome = false := by
        simpa [watch] using complete
      have free : watched.run.hand = none := by simpa using whole.2
      have before := covered whole.1 up
      refine ⟨before.1, ?_⟩
      have custodies := before.2
      rw [free] at custodies
      exact custodies
    | crash window resources runId => exact fun _ _ => covered_boot safe named resources runId
    | _ => exact absurd trivial loops

end Agreement

/-- In every run all of whose rows name their jobs, between any two steps of the event loop: the queue in
memory and what is in flight are disjoint and both on disk, and what is on disk but in neither was
inserted by another process after the queue was last read. -/
theorem memory_mirrors_queue [Python] (config : StoreConfig) {backend : Memory}
    (named : ∀ row ∈ backend.queue, Identified row) (now : Text)
    {window : Recovery.Window} (windowed : ∀ batch ∈ window.enqueued, ∀ row ∈ batch.1, Identified row)
    (resources : ResourceManager) (runId : Option String) {operations : List Operation}
    (guarded : ∀ operation ∈ operations, Named operation) :
    let watched := watchHistory config backend now window resources runId operations
    let store := watched.run.runtime.store
    watched.dropped = false → watched.run.crashed = false → watched.run.hand = none →
      Disjoint (uidsOf store.state.queue) store.state.inFlightUids ∧
      uidsOf store.state.queue ∪ store.state.inFlightUids ⊆ uidsOf store.backend.queue ∧
      ∀ uid ∈ uidsOf store.backend.queue, uid ∉ uidsOf store.state.queue → uid ∉ store.state.inFlightUids →
        uid ∈ foreign (store.events.drop watched.mark) := by
  intro watched store
  have start := steady_boot (backed_fresh named now) windowed resources runId
  have kept : Kept (uidsOf backend.queue) watched := by
    have initial : Kept (uidsOf backend.queue) ⟨boot (fresh backend now) window resources runId,
        readMark (fresh backend now) window, false⟩ :=
      ⟨start.1, start.2, fun _ _ => covered_boot (backed_fresh named now) windowed resources runId⟩
    exact @Machine.run_invariant_of_mem _ _ (watch config) (Kept (uidsOf backend.queue)) Named _ initial
      (fun _ _ named kept => kept_watch config named kept) _ guarded
  intro complete up free
  obtain ⟨steady, safe, covered⟩ := kept
  have running := steady.running free
  have inside := safe.backed
  rw [free] at inside
  refine ⟨running.orderly.apart, ?_, ?_⟩
  · exact Finset.Subset.trans Finset.subset_union_left inside
  · intro uid queued absent landed
    rcases (covered complete up).2 uid queued with mine | elsewhere
    · rw [free] at mine
      simp only [custody, heldBy, Finset.mem_union, Finset.notMem_empty, or_false] at mine
      exact absurd mine (by tauto)
    · exact elsewhere

theorem memory_mirrors_queue_served : (∀ operation ∈ servedOnce, Named operation) ∧
    let watched := watchHistory sampleConfig Memory.empty sampleNow {} sampleResources none servedOnce
    let store := watched.run.runtime.store
    watched.dropped = false ∧ watched.run.crashed = false ∧ watched.run.hand = none ∧
      Disjoint (uidsOf store.state.queue) store.state.inFlightUids ∧
      uidsOf store.state.queue ∪ store.state.inFlightUids ⊆ uidsOf store.backend.queue ∧
      ∀ uid ∈ uidsOf store.backend.queue, uid ∉ uidsOf store.state.queue → uid ∉ store.state.inFlightUids →
        uid ∈ foreign (store.events.drop watched.mark) := by
  have complete : (watchHistory sampleConfig Memory.empty sampleNow {} sampleResources none
      servedOnce).dropped = false := by decide +kernel
  have up : (watchHistory sampleConfig Memory.empty sampleNow {} sampleResources none
      servedOnce).run.crashed = false := by decide +kernel
  have free : (watchHistory sampleConfig Memory.empty sampleNow {} sampleResources none
      servedOnce).run.hand = none := by decide +kernel
  have mirrored := @memory_mirrors_queue _ sampleConfig Memory.empty rowless sampleNow {} windowless
    sampleResources none servedOnce named_servedOnce
  exact ⟨named_servedOnce, complete, up, free, mirrored complete up free⟩

/-- The struck row goes on in memory and is not on disk. -/
theorem struck_row_only_in_memory :
    let watched := watchHistory sampleConfig Memory.empty sampleNow {} sampleResources none
      (struckOut [unnamedRow 2] none)
    let store := watched.run.runtime.store
    watched.dropped = false ∧ watched.run.crashed = false ∧ watched.run.hand = none ∧
      ¬ uidsOf store.state.queue ∪ store.state.inFlightUids ⊆ uidsOf store.backend.queue := by
  decide +kernel

end Tasklite.Engine.Runs
