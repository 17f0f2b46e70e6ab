import Tasklite.Engine.Baseline

/-! When a job last succeeded, over whole runs: the engine, the restarts, and what an operator does at the
console. The archive and the log go separate ways, but as long as the counts of the successes are none below
zero they agree on every last success that still counts. -/

namespace Tasklite.Engine.Baseline
open Tasklite.Library Tasklite.Library.WriteOnce Tasklite.Models Tasklite.Backend Tasklite.Utils StateStore
open Tasklite.Engine.Cascade Tasklite.Engine.Tracing

section Fits

variable {uid : String} {last : Option Text} {store after : StateStore}

/-- The archive and the log say the same about the last success of a job that counts. -/
inductive Agrees (uid : String) (store : StateStore) : Option Text → Prop
  /-- Nothing counts: the archive knows of nothing, or of what was only marked as done. -/
  | blank (unknown : ∀ metadata ∈ store.state.successes.get? uid, metadata = Dict.empty) : Agrees uid store none
  | dated {stamp : Text} {count : Int} {runId : Option String} {metadata : Record} {winner : Int × AttemptRecord}
      (written : Written stamp count runId metadata) (archived : store.state.successes.get? uid = some metadata)
      (latest : (won uid store.backend.attempts).getLast? = some winner)
      (finished : winner.2.finishedAt = some stamp) : Agrees uid store (some stamp)

/-- The memory is in line with the disk, where no job has both succeeded and failed, and the archive with the log. -/
structure Fits (uid : String) (last : Option Text) (store : StateStore) : Prop where
  synced : store.state.successes.get? uid = store.backend.successes.get? uid
  disjoint : store.backend.failed.contains uid = true → store.backend.successes.get? uid = none
  agrees : Agrees uid store last

theorem Agrees.of_same (agrees : Agrees uid store last)
    (archive : after.state.successes.get? uid = store.state.successes.get? uid)
    (log : won uid after.backend.attempts = won uid store.backend.attempts) : Agrees uid after last := by
  cases agrees with
  | blank unknown =>
    rw [← archive] at unknown
    exact .blank unknown
  | dated written archived latest finished =>
    rw [← archive] at archived
    rw [← log] at latest
    exact .dated written archived latest finished

/-- The last success after some more events. -/
def since (uid : String) (store after : StateStore) (last : Option Text) : Option Text :=
  told uid after.now last (after.events.drop store.events.length)

theorem since_eq {news : List Event} (grown : after.events = store.events ++ news) :
    since uid store after last = told uid after.now last news := by
  unfold since
  rw [grown, List.drop_left]

theorem Fits.turn (fits : Fits uid last store) (turn : Turn uid store after) :
    Fits uid (since uid store after last) after := by
  cases turn with
  | still still =>
    obtain ⟨news, grown, quiet⟩ := still.news
    rw [since_eq grown, told, quiet]
    refine ⟨?_, ?_, fits.agrees.of_same still.memory still.won⟩
    · rw [still.memory, still.disk, fits.synced]
    · rw [still.failed, still.disk]
      exact fits.disjoint
  | lost lost =>
    obtain ⟨news, grown, spoilt⟩ := lost.news
    rw [since_eq grown, told, spoilt]
    refine ⟨lost.memory.trans lost.disk.symm, fun _ => lost.disk, .blank ?_⟩
    rw [lost.memory]
    intro metadata known
    cases known

theorem fits_gained {count : Int} {runId : Option String} {id : Int} (gained : Gained uid count runId id store after) :
    since uid store after last = some store.now ∧ Fits uid (some store.now) after := by
  obtain ⟨news, grown, gains⟩ := gained.news
  obtain ⟨metadata, written, memory, disk⟩ := gained.metadata
  obtain ⟨row, added, finished⟩ := gained.won
  refine ⟨?_, memory.trans disk.symm, ?_, @Agrees.dated _ _ _ _ _ _ (id, row) written memory ?_ finished⟩
  · rw [since_eq grown, told, gains, gained.now]
  · rw [gained.failed]
    intro failed
    cases failed
  · rw [added, List.getLast?_append]
    rfl

/-- Such metadata is trusted if the count is positive and the run has a name. -/
theorem extract_written (fromisoformat : String → Option DateTime) {stamp : Text} {count : Int}
    {runId : Option String} {metadata : Record} (written : Written stamp count runId metadata) :
    extractTrustedMetadataTimestampUs fromisoformat (some metadata) =
      if count < 1 ∨ runId = some "" then none else parseUtcIsoToUs fromisoformat stamp.val := by
  unfold extractTrustedMetadataTimestampUs
  dsimp only
  rw [written.counted, written.stamped]
  dsimp only
  by_cases few : count < 1
  · rw [if_pos few, if_pos (.inl few)]
  · rw [if_neg few]
    unfold Dict.contains Record.get
    rw [written.owned]
    cases runId with
    | none => simp [few]
    | some run => simp [few]

/-- The baseline of a job whose archive fits: nothing, or the time of its last success that counts, if the metadata is
trusted. -/
theorem trusted_of_agrees (fromisoformat : String → Option DateTime) (agrees : Agrees uid store last) {us : ℤ}
    (trusted : store.trustedLastSucceededAtUs fromisoformat uid = some us) :
    ∃ stamp, last = some stamp ∧ parseUtcIsoToUs fromisoformat stamp.val = some us := by
  unfold trustedLastSucceededAtUs at trusted
  cases agrees with
  | blank unknown =>
    cases found : store.state.successes.get? uid with
    | none => simp [found, extractTrustedMetadataTimestampUs] at trusted
    | some metadata =>
      rw [found, unknown metadata found] at trusted
      simp [extractTrustedMetadataTimestampUs, Record.get] at trusted
  | dated written archived latest finished =>
    rename_i stamp count runId metadata winner
    refine ⟨stamp, rfl, ?_⟩
    rw [archived, latest_eq, latest, Option.bind_some, finished] at trusted
    dsimp only [Option.map_some, Option.bind_some] at trusted
    split at trusted
    · cases trusted
    · split at trusted
      · cases trusted
      · rename_i traced parsed
        split at trusted
        · cases trusted
        · rw [← trusted]
          exact parsed

/-- After a success it is the time of that success, if it is counted on from no negative number and in a run with a
name. -/
theorem trusted_gained (fromisoformat : String → Option DateTime) {count : Int} {runId : Option String} {id : Int}
    (gained : Gained uid count runId id store after) : after.trustedLastSucceededAtUs fromisoformat uid =
      if count < 0 ∨ runId = some "" then none else parseUtcIsoToUs fromisoformat store.now.val := by
  obtain ⟨metadata, written, memory, disk⟩ := gained.metadata
  obtain ⟨row, added, finished⟩ := gained.won
  unfold trustedLastSucceededAtUs
  rw [memory, extract_written fromisoformat written, latest_eq, added, List.getLast?_append, List.getLast?_singleton]
  have counted : count + 1 < 1 ↔ count < 0 := by omega
  rw [if_congr (or_congr counted Iff.rfl) rfl rfl]
  by_cases spoilt : count < 0 ∨ runId = some ""
  · rw [if_pos spoilt]
  · rw [if_neg spoilt]
    simp only [Option.some_or, Option.bind_some, finished, Option.map_some]
    cases parseUtcIsoToUs fromisoformat store.now.val with
    | none => rfl
    | some us => simp

end Fits

section Advances

variable [Python] {uid : String} {last : Option Text} {runId : Option String} {entry : InFlightJob}
  {store after : StateStore}

/-- Some more events have brought a success of the job. -/
def Succeeds (uid : String) (store after : StateStore) : Prop :=
  heard uid (after.events.drop store.events.length) = some true

/-- What a step does about the last success of a job: the archive fits the log as before, and a success was
counted on from the archive as it was. -/
structure Advances (uid : String) (last : Option Text) (runId : Option String) (store after : StateStore) : Prop where
  fits : Fits uid (since uid store after last) after
  gains : Succeeds uid store after → ∃ id, Gained uid (priorCount store.state uid) runId id store after

omit [Python] in
theorem heard_turn (turn : Turn uid store after) : ¬ Succeeds uid store after := by
  unfold Succeeds
  cases turn with
  | still still =>
    obtain ⟨news, grown, quiet⟩ := still.news
    rw [grown, List.drop_left, quiet]
    exact nofun
  | lost lost =>
    obtain ⟨news, grown, spoilt⟩ := lost.news
    rw [grown, List.drop_left, spoilt]
    simp

theorem Fits.advances (fits : Fits uid last store) (turn : Turn uid store after) :
    Advances uid last runId store after :=
  ⟨fits.turn turn, fun succeeds => absurd succeeds (heard_turn turn)⟩

/-- The archives and the log of a job are as they were, up to failures that are forgotten. -/
structure Alike (uid : String) (store after : StateStore) : Prop where
  memory : after.state.successes.get? uid = store.state.successes.get? uid
  disk : after.backend.successes.get? uid = store.backend.successes.get? uid
  failed : after.backend.failed.contains uid = true → store.backend.failed.contains uid = true
  log : won uid after.backend.attempts = won uid store.backend.attempts
  news : ∃ news, after.events = store.events ++ news ∧ heard uid news = none

omit [Python] in
theorem Fits.alike (fits : Fits uid last store) (alike : Alike uid store after) : Fits uid last after := by
  refine ⟨?_, ?_, fits.agrees.of_same alike.memory alike.log⟩
  · rw [alike.memory, alike.disk, fits.synced]
  · rw [alike.disk]
    exact fun known => fits.disjoint (alike.failed known)

theorem Fits.advances_alike (fits : Fits uid last store) (alike : Alike uid store after) :
    Advances uid last runId store after := by
  obtain ⟨news, grown, quiet⟩ := alike.news
  refine ⟨?_, ?_⟩
  · rw [since_eq grown, told, quiet]
    exact fits.alike alike
  · unfold Succeeds
    rw [grown, List.drop_left, quiet]
    exact nofun

/-- What a step does about the archive of a job: nothing, a failure, or a success counted on from the archive. -/
inductive Change (uid : String) (runId : Option String) (store after : StateStore) : Prop
  | turn (turn : Turn uid store after)
  | alike (alike : Alike uid store after)
  | gained {id : Int} (gained : Gained uid (priorCount store.state uid) runId id store after)

theorem Ending.change (ending : Ending uid entry runId store after) : Change uid runId store after := by
  cases ending with
  | turn turn => exact .turn turn
  | gained own traced gained => exact .gained gained

theorem Change.advances (change : Change uid runId store after) (fits : Fits uid last store) :
    Advances uid last runId store after := by
  cases change with
  | turn turn => exact fits.advances turn
  | alike alike => exact fits.advances_alike alike
  | gained gained =>
    obtain ⟨dated, fitting⟩ := @fits_gained _ last _ _ _ _ _ gained
    refine ⟨?_, fun _ => ⟨_, gained⟩⟩
    rw [dated]
    exact fitting

/-- Loading drops only what has failed as well, which the job has not. -/
theorem alike_loadAndRepair (fits : Fits uid last store) (window : Recovery.Window) :
    Alike uid store (Recovery.loadAndRepair store window) := by
  have kept : (Memory.eraseKeys store.backend.successes
      (store.backend.successes.keys.filter store.backend.failed.contains)).get? uid =
        store.backend.successes.get? uid := by
    refine (Dict.get?_eraseAll _ _ _).trans ?_
    split
    · rename_i overlap
      exact (fits.disjoint (List.mem_filter.mp overlap).2).symm
    · rfl
  unfold Recovery.loadAndRepair
  dsimp only
  set converged := if window.deleteFails then store else { store with
    backend := (store.backend.deleteSuccesses (store.backend.successes.keys.filter store.backend.failed.contains)).1 }
    with dropped
  have disk : converged.backend.successes.get? uid = store.backend.successes.get? uid := by
    rw [dropped]
    split
    · rfl
    · exact kept
  have rest : converged.backend.failed = store.backend.failed ∧ converged.backend.attempts = store.backend.attempts ∧
      converged.events = store.events := by
    rw [dropped]
    split
    · exact ⟨rfl, rfl, rfl⟩
    · exact ⟨rfl, rfl, rfl⟩
  obtain ⟨failed, attempts, events⟩ := rest
  have enqueued := still_enqueueAll uid window.enqueued converged
  constructor
  · exact kept.trans fits.synced.symm
  · exact enqueued.disk.trans disk
  · intro known
    rw [← failed, ← enqueued.failed]
    exact known
  · exact enqueued.won.trans (by rw [attempts])
  · rw [← events]
    exact enqueued.news

end Advances

section Console

open OpsConsole

variable [Python] {config : StoreConfig} {uid : String} {last : Option Text} {runId : Option String}
  {store : StateStore}

/-- What is done at the console. -/
inductive Command where
  | clearFailures (taskTypes : Option (List String)) (keepFatal : Bool)
  | retryFailure (jobUid : String)
  | clearHistory (targets places : List String) (predicate : Option (String → Bool))
  | seedSuccesses (jobUids : List String)

variable (config) in
def perform (store : StateStore) : Command → StateStore
  | .clearFailures taskTypes keepFatal => (OpsConsole.clearFailures store taskTypes keepFatal).1
  | .retryFailure jobUid => (OpsConsole.retryFailure config store jobUid).1
  | .clearHistory targets places predicate => (OpsConsole.clearHistory store targets places predicate).1
  | .seedSuccesses jobUids => (OpsConsole.seedSuccesses store jobUids).1

/-- Whether a command clears the successes of a job or marks it as done. -/
def overrides (store : StateStore) (command : Command) (uid : String) : Bool :=
  match command with
  | .clearHistory targets places predicate =>
      (OpsConsole.clearHistory store targets places predicate).2.toBool && "successes" ∈ places &&
        matchesTarget targets predicate uid
  | .seedSuccesses jobUids => (OpsConsole.seedSuccesses store jobUids).2.toBool && uid ∈ jobUids
  | _ => false

/-- The last success that counts, after a command. -/
def afterCommand (uid : String) (store : StateStore) (command : Command) (last : Option Text) : Option Text :=
  if overrides store command uid then none else last

omit [Python] in
/-- Failures that are discarded. -/
theorem discardAllFailed_frame (store : StateStore) (uids : List String) :
    (discardAllFailed store uids).state.successes = store.state.successes ∧
      (discardAllFailed store uids).backend = store.backend ∧ (discardAllFailed store uids).events = store.events := by
  refine ⟨?_, rfl, rfl⟩
  unfold discardAllFailed mapState
  dsimp only
  induction uids generalizing store with
  | nil => rfl
  | cons jobUid rest ih => exact ih (store.mapState fun state => state.discardFailed jobUid)

omit [Python] in
theorem contains_deleteFailed (backend : Memory) (uids : List String)
    (known : (backend.deleteFailed uids).1.failed.contains uid = true) : backend.failed.contains uid = true := by
  have erased : (if uid ∈ uids then none else backend.failed.get? uid).isSome = true := by
    rw [← Dict.get?_eraseAll]
    exact known
  split at erased
  · cases erased
  · exact erased

omit [Python] in
/-- Failures that are deleted from the disk and the memory. -/
theorem Fits.forgive (fits : Fits uid last store) (uids : List String) :
    Fits uid last (discardAllFailed { store with backend := (store.backend.deleteFailed uids).1 } uids) := by
  obtain ⟨memory, backend, -⟩ := discardAllFailed_frame { store with backend := (store.backend.deleteFailed uids).1 } uids
  refine ⟨?_, ?_, fits.agrees.of_same (by rw [memory]) (by rw [backend]; rfl)⟩
  · rw [memory, backend]
    exact fits.synced
  · rw [backend]
    exact fun known => fits.disjoint (contains_deleteFailed _ _ known)

/-- What a command does besides: it adds to the queue at most. -/
structure Aside (store after : StateStore) : Prop where
  log : trailOf after = trailOf store
  news : ∃ news, after.events = store.events ++ news ∧ ∀ uid, heard uid news = none

omit [Python] in
theorem aside_refl (store : StateStore) : Aside store store := ⟨rfl, [], (List.append_nil _).symm, fun _ => rfl⟩

omit [Python] in
theorem aside_forgive (store : StateStore) (uids : List String) :
    Aside store (discardAllFailed { store with backend := (store.backend.deleteFailed uids).1 } uids) :=
  ⟨rfl, [], (List.append_nil _).symm, fun _ => rfl⟩

omit [Python] in
theorem Aside.trans {between after : StateStore} (first : Aside store between) (second : Aside between after) :
    Aside store after where
  log := second.log.trans first.log
  news := by
    obtain ⟨news, early, quiet⟩ := first.news
    obtain ⟨further, late, silent⟩ := second.news
    exact ⟨news ++ further, by rw [late, early, List.append_assoc],
      fun uid => by rw [heard_append, silent, quiet]; rfl⟩

omit [Python] in
theorem fits_clearFailures (fits : Fits uid last store) (taskTypes : Option (List String)) (keepFatal : Bool) :
    Fits uid last (clearFailures store taskTypes keepFatal).1 ∧
      Aside store (clearFailures store taskTypes keepFatal).1 := by
  unfold clearFailures
  split
  · exact ⟨fits, aside_refl store⟩
  · dsimp only
    split
    · exact ⟨fits, aside_refl store⟩
    · exact ⟨fits.forgive _, aside_forgive store _⟩

/-- A failure is taken back, and its job enqueued again. -/
theorem alike_retryFailure (store : StateStore) (jobUid : String) :
    Alike uid store (retryFailure config store jobUid).1 ∧ Aside store (retryFailure config store jobUid).1 := by
  have same : Alike uid store store := ⟨rfl, rfl, id, rfl, [], (List.append_nil _).symm, rfl⟩
  unfold retryFailure
  split
  · dsimp only
    split
    · exact ⟨same, aside_refl store⟩
    · rename_i job parsed
      set enqueued := enqueueJobs config store [job] true with taken
      obtain ⟨memory, backend, -⟩ := discardAllFailed_frame
        { enqueued with backend := (enqueued.backend.deleteFailed [jobUid]).1 } [jobUid]
      have added : Aside store enqueued := ⟨rfl, _, rfl, fun _ => rfl⟩
      refine ⟨⟨by rw [memory]; rfl, by rw [backend]; rfl, ?_, by rw [backend]; rfl, _, rfl, rfl⟩,
        added.trans (aside_forgive enqueued [jobUid])⟩
      rw [backend]
      exact fun known => contains_deleteFailed enqueued.backend _ known
  · exact ⟨same, aside_refl store⟩

theorem fits_retryFailure (fits : Fits uid last store) (jobUid : String) :
    Fits uid last (retryFailure config store jobUid).1 ∧ Aside store (retryFailure config store jobUid).1 :=
  ⟨fits.alike (alike_retryFailure store jobUid).1, (@alike_retryFailure _ config uid store jobUid).2⟩

omit [Python] in
/-- Clearing takes the successes that match from the disk and the memory. -/
theorem clearSuccesses_eq (fits : Fits uid last store) (targets : List String) (predicate : Option (String → Bool)) :
    let cleared := (clearSuccesses store (store.backend.successes.keys.filter (matchesTarget targets predicate))).1
    Aside store cleared ∧ cleared.backend.failed = store.backend.failed ∧
      cleared.state.successes.get? uid =
        (if matchesTarget targets predicate uid then none else store.state.successes.get? uid) ∧
      cleared.backend.successes.get? uid =
        if matchesTarget targets predicate uid then none else store.backend.successes.get? uid := by
  dsimp only
  set matched := store.backend.successes.keys.filter (matchesTarget targets predicate) with found
  have listed : uid ∈ matched ↔ (store.backend.successes.get? uid).isSome ∧ matchesTarget targets predicate uid := by
    rw [found, List.mem_filter, ← Dict.contains_iff]
    rfl
  have erased : ∀ successes : Dict String Record, successes.get? uid = store.backend.successes.get? uid →
      (matched.foldl Dict.erase successes).get? uid =
        if matchesTarget targets predicate uid then none else store.backend.successes.get? uid := by
    intro successes same
    rw [Dict.get?_eraseAll, same]
    cases known : store.backend.successes.get? uid with
    | none => simp
    | some metadata => simp [listed, known]
  have discarded : ∀ (uids : List String) (state : PipelineState),
      (uids.foldl PipelineState.discardSuccess state).successes = uids.foldl Dict.erase state.successes := by
    intro uids
    induction uids with
    | nil => exact fun _ => rfl
    | cons jobUid rest ih => exact fun state => ih (state.discardSuccess jobUid)
  unfold clearSuccesses
  split
  · rename_i nothing
    have empty : matched = [] := List.isEmpty_iff.mp nothing
    have memory := erased store.state.successes fits.synced
    have disk := erased store.backend.successes rfl
    rw [empty] at memory disk
    refine ⟨aside_refl store, rfl, ?_, disk⟩
    rw [fits.synced]
    exact fits.synced.symm.trans memory
  · refine ⟨⟨rfl, [], (List.append_nil _).symm, fun _ => rfl⟩, rfl, ?_, ?_⟩
    · show (matched.foldl PipelineState.discardSuccess store.state).successes.get? uid = _
      rw [discarded, erased _ fits.synced, fits.synced]
    · exact erased _ rfl

omit [Python] in
theorem fits_clearSuccesses (fits : Fits uid last store) (targets : List String) (predicate : Option (String → Bool)) :
    let cleared := (clearSuccesses store (store.backend.successes.keys.filter (matchesTarget targets predicate))).1
    Fits uid (if matchesTarget targets predicate uid then none else last) cleared ∧ Aside store cleared := by
  obtain ⟨aside, failed, memory, disk⟩ := clearSuccesses_eq fits targets predicate
  refine ⟨⟨?_, ?_, ?_⟩, aside⟩
  · rw [memory, disk, fits.synced]
  · rw [failed, disk]
    intro known
    rw [fits.disjoint known, ite_self]
  · by_cases matched : matchesTarget targets predicate uid
    · rw [if_pos matched] at memory ⊢
      refine .blank ?_
      rw [memory]
      exact nofun
    · rw [if_neg matched] at memory ⊢
      exact fits.agrees.of_same memory (congrArg (fun trail => won uid trail.attempts) aside.log)

omit [Python] in
theorem fits_clearFailed (fits : Fits uid last store) (matched : List String) :
    Fits uid last (clearFailed store matched).1 ∧ Aside store (clearFailed store matched).1 := by
  unfold clearFailed
  split
  · exact ⟨fits, aside_refl store⟩
  · exact ⟨fits.forgive matched, aside_forgive store matched⟩

theorem afterCommand_of {command : Command} {answer : Bool} (decided : overrides store command uid = answer) :
    afterCommand uid store command last = if answer then none else last := by
  rw [← decided]
  rfl

/-- A clearing is refused, or takes the successes that match and then the failures, as it was asked for. -/
theorem clearHistory_cases (store : StateStore) (targets places : List String) (predicate : Option (String → Bool)) :
    (∃ error, clearHistory store targets places predicate = (store, .error error)) ∨
      ∃ forgotten cleared total, clearHistory store targets places predicate = (cleared, .ok total) ∧
        (forgotten = if "successes" ∈ places then (clearSuccesses store
            (store.backend.successes.keys.filter (matchesTarget targets predicate))).1 else store) ∧
        ∃ matched, cleared = (clearFailed forgotten matched).1 ∨ cleared = forgotten := by
  unfold clearHistory
  dsimp only
  split
  · refine .inr ?_
    by_cases first : "successes" ∈ places
    · rw [if_pos first, if_pos first]
      split
      · exact ⟨_, _, _, rfl, rfl, _, .inl rfl⟩
      · exact ⟨_, _, _, rfl, rfl, [], .inr rfl⟩
    · rw [if_neg first, if_neg first]
      split
      · exact ⟨_, _, _, rfl, rfl, _, .inl rfl⟩
      · exact ⟨_, _, _, rfl, rfl, [], .inr rfl⟩
  · exact .inl ⟨_, rfl⟩

theorem fits_clearHistory (fits : Fits uid last store) (targets places : List String)
    (predicate : Option (String → Bool)) :
    Fits uid (afterCommand uid store (.clearHistory targets places predicate) last)
        (clearHistory store targets places predicate).1 ∧
      Aside store (clearHistory store targets places predicate).1 := by
  rcases clearHistory_cases store targets places predicate with
    ⟨error, refused⟩ | ⟨forgotten, cleared, total, done, first, matched, second⟩
  · have decided : overrides store (.clearHistory targets places predicate) uid = false := by
      unfold overrides
      dsimp only
      rw [refused]
      rfl
    rw [afterCommand_of decided, refused]
    exact ⟨fits, aside_refl store⟩
  · have decided : overrides store (.clearHistory targets places predicate) uid =
        (decide ("successes" ∈ places) && matchesTarget targets predicate uid) := by
      unfold overrides
      dsimp only
      rw [done]
      rfl
    rw [afterCommand_of decided, done]
    have forgets : Fits uid (if decide ("successes" ∈ places) && matchesTarget targets predicate uid then none else last)
        forgotten ∧ Aside store forgotten := by
      by_cases asked : "successes" ∈ places
      · rw [first, if_pos asked, decide_eq_true asked, Bool.true_and]
        exact fits_clearSuccesses fits targets predicate
      · rw [first, if_neg asked, decide_eq_false asked, Bool.false_and]
        exact ⟨fits, aside_refl store⟩
    obtain ⟨fitting, aside⟩ := forgets
    rcases second with rfl | rfl
    · obtain ⟨fits, more⟩ := fits_clearFailed fitting matched
      exact ⟨fits, aside.trans more⟩
    · exact ⟨fitting, aside⟩

/-- Marking jobs as done is refused, or gives each of them empty metadata. -/
theorem seedSuccesses_cases (store : StateStore) (jobUids : List String) :
    (∃ error, seedSuccesses store jobUids = (store, .error error)) ∨
      ∃ seeded total, seedSuccesses store jobUids = (seeded, .ok total) ∧ Aside store seeded ∧
        (∀ uid ∈ jobUids, store.backend.failed.contains uid = false) ∧
        seeded.backend.failed = store.backend.failed ∧
        seeded.backend.successes = jobUids.foldl (fun successes uid => successes.set uid Dict.empty)
          store.backend.successes ∧
        seeded.state.successes = jobUids.foldl (fun successes uid => successes.set uid Dict.empty)
          store.state.successes := by
  have added : ∀ (uids : List String) (state : PipelineState),
      (uids.foldl (fun state uid => state.addSuccess uid Dict.empty) state).successes =
        uids.foldl (fun successes uid => successes.set uid Dict.empty) state.successes := by
    intro uids
    induction uids with
    | nil => exact fun _ => rfl
    | cons jobUid rest ih => exact fun state => ih (state.addSuccess jobUid Dict.empty)
  unfold seedSuccesses
  split
  · exact .inl ⟨_, rfl⟩
  · dsimp only
    split
    · exact .inl ⟨_, rfl⟩
    · split
      · exact .inl ⟨_, rfl⟩
      · unfold Memory.seedSuccesses
        split
        · exact .inl ⟨_, rfl⟩
        · rename_i ended
          split at ended
          · cases ended
          · rename_i apart
            obtain ⟨rfl, -⟩ := Prod.mk.inj ended
            refine .inr ⟨_, _, rfl, ⟨rfl, [], (List.append_nil _).symm, fun _ => rfl⟩, ?_, rfl, rfl, added _ _⟩
            simpa using apart

theorem fits_seedSuccesses (fits : Fits uid last store) (jobUids : List String) :
    Fits uid (afterCommand uid store (.seedSuccesses jobUids) last) (seedSuccesses store jobUids).1 ∧
      Aside store (seedSuccesses store jobUids).1 := by
  rcases seedSuccesses_cases store jobUids with
    ⟨error, refused⟩ | ⟨seeded, total, done, aside, apart, failed, disk, memory⟩
  · have decided : overrides store (.seedSuccesses jobUids) uid = false := by
      unfold overrides
      dsimp only
      rw [refused]
      rfl
    rw [afterCommand_of decided, refused]
    exact ⟨fits, aside_refl store⟩
  · have decided : overrides store (.seedSuccesses jobUids) uid = decide (uid ∈ jobUids) := by
      unfold overrides
      dsimp only
      rw [done]
      rfl
    rw [afterCommand_of decided, done]
    refine ⟨?_, aside⟩
    have known : seeded.state.successes.get? uid =
        if uid ∈ jobUids then some Dict.empty else store.state.successes.get? uid := by
      rw [memory, Dict.get?_setAll]
    have archived : seeded.backend.successes.get? uid =
        if uid ∈ jobUids then some Dict.empty else store.backend.successes.get? uid := by
      rw [disk, Dict.get?_setAll]
    by_cases marked : uid ∈ jobUids
    · rw [if_pos marked] at known archived
      rw [decide_eq_true marked, if_pos rfl]
      refine ⟨known.trans archived.symm, ?_, .blank ?_⟩
      · rw [failed, apart uid marked]
        exact nofun
      · rw [known]
        intro metadata same
        exact (Option.some.inj same).symm
    · rw [if_neg marked] at known archived
      rw [decide_eq_false marked, if_neg Bool.false_ne_true]
      refine ⟨?_, ?_, fits.agrees.of_same known (congrArg (fun trail => won uid trail.attempts) aside.log)⟩
      · rw [known, archived, fits.synced]
      · rw [failed, archived]
        exact fits.disjoint

theorem fits_perform (fits : Fits uid last store) (command : Command) :
    Fits uid (afterCommand uid store command last) (perform config store command) ∧
      Aside store (perform config store command) := by
  cases command with
  | clearFailures taskTypes keepFatal => exact fits_clearFailures fits taskTypes keepFatal
  | retryFailure jobUid => exact fits_retryFailure fits jobUid
  | clearHistory targets places predicate => exact fits_clearHistory fits targets places predicate
  | seedSuccesses jobUids => exact fits_seedSuccesses fits jobUids

end Console

section Engine

open EngineRuntime

variable [Python] {config : StoreConfig} {uid : String} {last : Option Text} {origin : Dict Int AttemptRecord}
  {engine after : EngineRuntime}

/-- The attempts in flight come after those of their jobs that have succeeded. -/
def Leads (engine : EngineRuntime) : Prop :=
  ∀ uid entry, engine.runtime.tracker.get? uid = some entry → Leading engine.runtime.store entry

omit [Python] in
theorem Turn.won {store between : StateStore} (turn : Turn uid store between) :
    Baseline.won uid between.backend.attempts = Baseline.won uid store.backend.attempts := by
  cases turn with
  | still still => exact still.won
  | lost lost => exact lost.won

omit [Python] in
/-- Some entries have left, and no job of the others has succeeded. -/
theorem Leads.fewer (leads : Leads engine)
    (fewer : ∀ uid entry, after.runtime.tracker.get? uid = some entry → engine.runtime.tracker.get? uid = some entry)
    (log : ∀ uid entry, after.runtime.tracker.get? uid = some entry →
      won entry.jobUid after.runtime.store.backend.attempts = won entry.jobUid engine.runtime.store.backend.attempts) :
    Leads after := by
  intro uid entry tracked id own winner member
  rw [log uid entry tracked] at member
  exact leads uid entry (fewer uid entry tracked) id own winner member

omit [Python] in
/-- A row that has just been opened comes after all others. -/
theorem leading_opened {entry : InFlightJob} {trail : Trail} {store : StateStore} (serial : Serial trail.attempts trail.seq)
    (opens : Opens trail (trailOf store) entry.attemptId) : Leading store entry := by
  intro id own winner member
  have same := @won_opens entry.jobUid _ _ _ serial opens
  have before : winner ∈ won entry.jobUid trail.attempts := by
    rw [← same]
    exact member
  have bound := serial.below winner.1 (mem_keys_of_get? (mem_picked.mp before).1)
  generalize later : trailOf store = next at opens
  generalize handed : entry.attemptId = attemptId at opens own
  cases opens with
  | missing => cases own
  | opened =>
    obtain rfl : _ = id := Option.some.inj own
    exact bound

theorem leads_dispatch (guarded : Guarded origin engine) (leads : Leads engine) (sched : ScheduleResult)
    (launching : Launching) : Leads (engine.dispatchJob config sched launching).1 := by
  have turns : ∀ uid, won uid (engine.dispatchJob config sched launching).1.runtime.store.backend.attempts =
      won uid engine.runtime.store.backend.attempts :=
    fun uid => (@turns_dispatchJob _ config uid engine guarded.sound.serial sched launching).won
  cases dispatched_dispatchJob engine sched launching with
  | settled opens ends fewer => exact leads.fewer fewer fun uid entry _ => turns entry.jobUid
  | @tracked entry opens tracker =>
    intro uid other tracked
    rw [tracker, Dict.get?_set] at tracked
    split at tracked
    · obtain rfl : entry = other := Option.some.inj tracked
      exact leading_opened guarded.sound.serial opens
    · intro id own winner member
      rw [turns] at member
      exact leads uid other tracked id own winner member

theorem leads_complete (guarded : Guarded origin engine) (leads : Leads engine) {entry : InFlightJob}
    (tracked : engine.runtime.tracker.get? uid = some entry) (result : ExecutionResult) (surroundings : Surroundings) :
    Leads { engine with
      runtime := (Runtime.completeAndSettle config engine.runtime entry result surroundings).1 } := by
  have left := (@settles_completeAndSettle _ config engine.runtime entry result surroundings).2
  have endings := fun uid => @ending_completeAndSettle _ config uid entry engine.runtime guarded.sound.serial
    (leads _ entry tracked) result surroundings
  generalize (Runtime.completeAndSettle config engine.runtime entry result surroundings).1 = completed
    at left endings
  have remains : ∀ other another, completed.tracker.get? other = some another →
      other ≠ entry.jobUid ∧ engine.runtime.tracker.get? other = some another := by
    intro other another still
    rw [left, Dict.get?_erase] at still
    split at still
    · cases still
    · rename_i different
      exact ⟨fun same => different (by simp [same]), still⟩
  refine leads.fewer (fun other another still => (remains other another still).2) ?_
  intro other another still
  obtain ⟨different, before⟩ := remains other another still
  have named := guarded.keyed other another before
  cases endings another.jobUid with
  | turn turn => exact turn.won
  | gained own traced gained => exact absurd (named.symm.trans own) different

/-- What one step of the engine does about the archive of a job. -/
theorem change_step (guarded : Guarded origin engine) (leads : Leads engine)
    (fits : Fits uid last engine.runtime.store) (operation : EngineRuntime.Operation) :
    Change uid engine.runtime.runId engine.runtime.store
      (EngineRuntime.step config engine operation).runtime.store := by
  cases operation with
  | foresee now answers hookRaises => exact .alike ⟨rfl, rfl, id, rfl, [], (List.append_nil _).symm, rfl⟩
  | enqueue snapshots front => exact .turn (.still (still_enqueueElsewhere uid _ snapshots front))
  | dispatch sched launching => exact .turn (turns_dispatchJob engine guarded.sound.serial sched launching)
  | complete jobUid result surroundings =>
    simp only [step]
    split
    · exact .turn (turn_refl uid _)
    · rename_i entry tracked
      exact (@ending_completeAndSettle _ config uid entry engine.runtime guarded.sound.serial
        (leads jobUid entry tracked) result surroundings).change
  | cancel jobUid cleanupFault =>
    simp only [step]
    split
    · exact .turn (turn_refl uid _)
    · rename_i entry tracked
      exact .turn (.still (still_cancelAndSettle engine.runtime entry cleanupFault))
  | applySkips =>
    exact .turn (.still (still_applySkips ⟨engine.machine, engine.runtime.store, engine.dispatchNo⟩
      engine.runtime.runId guarded.sound))
  | bulkFailure uidsMetas => exact .turn (turn_applyBulkFailure engine.runtime.store uidsMetas)
  | clearInFlight => exact .turn (turn_refl uid _)
  | saveQueueCrashSafe raises => exact .turn (.still (still_saveQueueCrashSafe engine.runtime.store raises))
  | restart window resources machine runId => exact .alike (alike_loadAndRepair fits window)

theorem leads_step (guarded : Guarded origin engine) (leads : Leads engine) (operation : EngineRuntime.Operation) :
    Leads (EngineRuntime.step config engine operation) := by
  cases operation with
  | foresee now answers hookRaises => exact leads
  | enqueue snapshots front => exact leads
  | dispatch sched launching => exact leads_dispatch guarded leads sched launching
  | complete jobUid result surroundings =>
    simp only [step]
    split
    · exact leads
    · rename_i entry tracked
      exact leads_complete guarded leads tracked result surroundings
  | cancel jobUid cleanupFault =>
    simp only [step]
    split
    · exact leads
    · rename_i entry tracked
      apply leads.fewer
      · intro other another still
        rw [(settles_cancelAndSettle engine.runtime entry cleanupFault).2, Dict.get?_erase] at still
        split at still
        · cases still
        · exact still
      · exact fun _ another _ => (still_cancelAndSettle engine.runtime entry cleanupFault).won
  | applySkips =>
    exact leads.fewer (fun _ _ tracked => tracked) fun _ entry _ =>
      (still_applySkips ⟨engine.machine, engine.runtime.store, engine.dispatchNo⟩ engine.runtime.runId
        guarded.sound).won
  | bulkFailure uidsMetas =>
    exact leads.fewer (fun _ _ tracked => tracked) fun _ entry _ =>
      (@turn_applyBulkFailure _ config entry.jobUid engine.runtime.store uidsMetas).won
  | clearInFlight =>
    intro uid entry tracked
    cases tracked
  | saveQueueCrashSafe raises =>
    exact leads.fewer (fun _ _ tracked => tracked) fun _ entry _ =>
      (still_saveQueueCrashSafe engine.runtime.store raises).won
  | restart window resources machine runId =>
    intro uid entry tracked
    cases tracked

end Engine

section Run

open EngineRuntime

variable [Python] {config : StoreConfig} {uid : String} {origin : Dict Int AttemptRecord}

/-- An engine, and for each job the finishing time of its last success: the most recent that was committed, unless
the job has failed since, or its success was cleared or the job marked as done. -/
structure Watched where
  engine : EngineRuntime
  last : String → Option Text

abbrev Watched.store (watched : Watched) : StateStore := watched.engine.runtime.store

inductive Operation where
  | engine (operation : EngineRuntime.Operation)
  | console (command : Command)

variable (config) in
def step (watched : Watched) : Operation → Watched
  | .engine operation =>
      let after := EngineRuntime.step config watched.engine operation
      ⟨after, fun uid => since uid watched.store after.runtime.store (watched.last uid)⟩
  | .console command =>
      ⟨watched.engine.mapStore fun store => perform config store command,
        fun uid => afterCommand uid watched.store command (watched.last uid)⟩

variable (fromisoformat : String → Option DateTime)

variable (config) in
/-- The baseline after a step: nothing, or the time of the last success that counts; and right after a success, the
time of this success. -/
def Vouched (uid : String) (watched : Watched) (operation : Operation) : Prop :=
  let after := step config watched operation
  (∀ us, after.store.trustedLastSucceededAtUs fromisoformat uid = some us →
    ∃ stamp, after.last uid = some stamp ∧ parseUtcIsoToUs fromisoformat stamp.val = some us) ∧
  (Succeeds uid watched.store after.store →
    after.store.trustedLastSucceededAtUs fromisoformat uid = parseUtcIsoToUs fromisoformat watched.store.now.val)

variable (config) in
/-- A step that commits a success counts on from no negative number, and in a run with a name, unless the clock
cannot be read. -/
def Countable (uid : String) (watched : Watched) (operation : Operation) : Prop :=
  Succeeds uid watched.store (step config watched operation).store →
    0 ≤ priorCount watched.store.state uid ∧ watched.engine.runtime.runId ≠ some "" ∨
      parseUtcIsoToUs fromisoformat watched.store.now.val = none

/-- The log is sound, the attempts in flight lead, and the archive fits the log for every job. -/
structure Kept (origin : Dict Int AttemptRecord) (watched : Watched) : Prop where
  guarded : Guarded origin watched.engine
  leads : Leads watched.engine
  fits : ∀ uid, Fits uid (watched.last uid) watched.store

variable {watched : Watched} {fromisoformat}

theorem kept_step (kept : Kept origin watched) (operation : Operation) :
    Kept origin (step config watched operation) ∧
      ∀ uid, Succeeds uid watched.store (step config watched operation).store → ∃ id, Gained uid
        (priorCount watched.store.state uid) watched.engine.runtime.runId id watched.store
        (step config watched operation).store := by
  cases operation with
  | engine operation =>
    have advances := fun uid =>
      (@change_step _ config uid _ _ _ kept.guarded kept.leads (kept.fits uid) operation).advances (kept.fits uid)
    exact ⟨⟨(keeps_step config kept.guarded operation).1, leads_step kept.guarded kept.leads operation,
      fun uid => (advances uid).fits⟩, fun uid => (advances uid).gains⟩
  | console command =>
    have performs := fun uid => @fits_perform _ config uid _ _ (kept.fits uid) command
    obtain ⟨log, news, grown, quiet⟩ := (performs "").2
    have keeps : Keeps origin watched.engine (watched.engine.mapStore fun store => perform config store command) :=
      kept.guarded.keeps_same log fun _ _ tracked => tracked
    refine ⟨⟨keeps.1, ?_, fun uid => (performs uid).1⟩, ?_⟩
    · exact kept.leads.fewer (fun _ _ tracked => tracked) fun _ entry _ =>
        congrArg (fun trail => won entry.jobUid trail.attempts) log
    · intro uid succeeds
      unfold Succeeds at succeeds
      rw [show (step config watched (.console command)).store.events = _ from grown, List.drop_left, quiet] at succeeds
      cases succeeds

/-- Whatever a step does, the baseline is the last success that counts, and after a success it is there if and only if
it is counted on from no negative number. -/
theorem vouched_iff (kept : Kept origin watched) (operation : Operation) :
    Vouched config fromisoformat uid watched operation ↔ Countable config fromisoformat uid watched operation := by
  obtain ⟨after, gains⟩ := @kept_step _ config _ _ kept operation
  have dated : ∀ us, (step config watched operation).store.trustedLastSucceededAtUs fromisoformat uid = some us →
      ∃ stamp, (step config watched operation).last uid = some stamp ∧
        parseUtcIsoToUs fromisoformat stamp.val = some us :=
    fun us => trusted_of_agrees fromisoformat (after.fits uid).agrees
  have exact_when : Succeeds uid watched.store (step config watched operation).store →
      ((step config watched operation).store.trustedLastSucceededAtUs fromisoformat uid =
          parseUtcIsoToUs fromisoformat watched.store.now.val ↔
        0 ≤ priorCount watched.store.state uid ∧ watched.engine.runtime.runId ≠ some "" ∨
          parseUtcIsoToUs fromisoformat watched.store.now.val = none) := by
    intro succeeds
    obtain ⟨id, gained⟩ := gains uid succeeds
    rw [trusted_gained fromisoformat gained]
    split
    · rename_i spoilt
      have lost : ¬ (0 ≤ priorCount watched.store.state uid ∧ watched.engine.runtime.runId ≠ some "") := by
        rintro ⟨counted, named⟩
        rcases spoilt with negative | nameless
        · omega
        · exact named nameless
      rw [or_iff_right lost]
      exact eq_comm
    · rename_i sound
      rw [not_or, Int.not_lt] at sound
      exact iff_of_true rfl (.inl sound)
  constructor
  · intro vouched succeeds
    exact (exact_when succeeds).mp (vouched.2 succeeds)
  · intro countable
    exact ⟨dated, fun succeeds => (exact_when succeeds).mpr (countable succeeds)⟩

/-- A database in which nothing has been executed. -/
def unused (queue : List Record) (cursors : Dict String String) (now : Text) : StateStore where
  backend := { Memory.empty with queue, cursors }
  state := PipelineState.init Dict.empty Dict.empty cursors queue
  stats := fun _ => 0
  now := now
  answers := []
  hookRaises := []
  events := []
  finished := []

theorem kept_boot (queue : List Record) (cursors : Dict String String) (now : Text) (window : Recovery.Window)
    (resources : ResourceManager) (machine : SelectionMachine) (runId : Option String) :
    Kept Dict.empty ⟨boot (unused queue cursors now) window resources machine runId, fun _ => none⟩ where
  guarded := @guarded_boot _ (unused queue cursors now) (serial_empty 1) rfl window resources machine runId
  leads := by
    intro uid entry tracked
    cases tracked
  fits := by
    intro uid
    have fits : Fits uid none (unused queue cursors now) := ⟨rfl, fun _ => rfl, .blank nofun⟩
    exact fits.alike (alike_loadAndRepair fits window)

/-- Along any run of the engine and of commands at the console, from a database in which nothing has been executed: the
baseline of a job is always nothing or the time of its last success that counts, and right after a success it is the
time of that success, if and only if no success was counted on from a negative number. -/
theorem baseline_iff (fromisoformat : String → Option DateTime) (uid : String) (queue : List Record)
    (cursors : Dict String String) (now : Text) (window : Recovery.Window) (resources : ResourceManager)
    (machine : SelectionMachine) (runId : Option String) (operations : List Operation) :
    let start : Watched := ⟨boot (unused queue cursors now) window resources machine runId, fun _ => none⟩
    Machine.Along (step config) (Vouched config fromisoformat uid) start operations ↔
      Machine.Along (step config) (Countable config fromisoformat uid) start operations := by
  intro start
  have kept : Kept Dict.empty start := kept_boot queue cursors now window resources machine runId
  clear_value start
  induction operations generalizing start with
  | nil => exact Iff.rfl
  | cons operation rest ih =>
    exact and_congr (vouched_iff kept operation) (ih _ (kept_step kept operation).1)

end Run

section Sample

local instance : Python := Lifecycle.samplePython

/-- A job that runs again once it has failed. -/
def rerunRow : Record := Lifecycle.namedRow.set "trigger" (.str "on_failure")

def dispatched : Operation := .engine (.dispatch ⟨some 0, none, {}, .runnable, some "t::a"⟩ {})

/-- The job fails with metadata that bring a count along, is enqueued again, and is in flight once more. -/
def spoiltOperations : List Operation :=
  [dispatched,
    .engine (.complete "t::a" { success := false, resultMetadata := Dict.ofPairs [("success_count", .int (-5))] } {}),
    .engine (.enqueue [rerunRow] false),
    .engine (.restart {} Lifecycle.sampleResources ⟨⟨[]⟩, ∅⟩ (some "run")), dispatched]

/-- The success that follows counts on from the failure's number, and is not trusted. -/
theorem spoilt_count_unvouched :
    let start : Watched := ⟨EngineRuntime.boot (unused [rerunRow] Dict.empty Lifecycle.sampleNow) {}
      Lifecycle.sampleResources ⟨⟨[]⟩, ∅⟩ (some "run"), fun _ => none⟩
    let watched := Machine.run (step Tracing.servingConfig) start spoiltOperations
    ¬ Vouched Tracing.servingConfig (fun _ => some ⟨0, some 0⟩) "t::a" watched
      (.engine (.complete "t::a" { success := true } {})) := by
  intro start watched vouched
  have succeeds : Succeeds "t::a" watched.store
      (step Tracing.servingConfig watched (.engine (.complete "t::a" { success := true } {}))).store := by
    unfold Succeeds
    decide +kernel
  have distrusted : (step Tracing.servingConfig watched (.engine (.complete "t::a" { success := true } {}))
      ).store.trustedLastSucceededAtUs (fun _ => some ⟨0, some 0⟩) "t::a" = none := by decide +kernel
  have read : parseUtcIsoToUs (fun _ => some ⟨0, some 0⟩) watched.store.now.val = some 0 := by decide +kernel
  have finished := vouched.2 succeeds
  rw [distrusted, read] at finished
  cases finished

end Sample

end Tasklite.Engine.Baseline


