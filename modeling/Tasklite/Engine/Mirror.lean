import Tasklite.Engine.Custody
import Tasklite.Library.Machine

/-! The terminal state in memory as a mirror of the archives on disk. A failure that is
committed in its normal form is mirrored in it; the metadata of cascades and strikes is
committed as it is and mirrored in its normal form. -/

namespace Tasklite.Engine.Mirror
open Tasklite.Library Tasklite.Models Tasklite.Backend Custody Lifecycle PipelineState StateStore

section Normal

variable {classify : Record → ErrorCategory} {now : Text} {metadata : Record}

/-- Metadata that normalization leaves alone. -/
structure Complete (metadata : Record) : Prop where
  category : (Record.get metadata "error_category").truthy = true
  failedAt : metadata.contains "failed_at" = true
  attemptNo : metadata.contains "attempt_no" = true

theorem contains_set {record : Record} {key other : String} {value : Json} :
    (record.set key value).contains other = true ↔ other = key ∨ record.contains other = true := by
  rw [Dict.contains_iff, Dict.contains_iff, Dict.mem_keys_set]

theorem truthy_value (category : ErrorCategory) : (Json.str category.value).truthy = true := by
  cases category <;> rfl

theorem complete_normalize : Complete (normalizeFailureMetadata classify now metadata) := by
  have categorized : (Record.get (if (Record.get metadata "error_category").truthy = true then metadata
      else metadata.set "error_category" (.str (classify metadata).value)) "error_category").truthy = true := by
    split
    · assumption
    · rw [Record.get_set_self]
      exact truthy_value _
  unfold normalizeFailureMetadata
  dsimp only
  generalize (if (Record.get metadata "error_category").truthy = true then metadata
    else metadata.set "error_category" (.str (classify metadata).value)) = first at categorized ⊢
  have timed : (Record.get (if first.contains "failed_at" = true then first
      else first.set "failed_at" (.str now.val)) "error_category").truthy = true ∧
      (if first.contains "failed_at" = true then first
        else first.set "failed_at" (.str now.val)).contains "failed_at" = true := by
    split
    · exact ⟨categorized, by assumption⟩
    · rw [Record.get_set_of_ne _ _ (by decide), contains_set]
      exact ⟨categorized, Or.inl rfl⟩
  generalize (if first.contains "failed_at" = true then first
    else first.set "failed_at" (.str now.val)) = second at timed ⊢
  split
  · exact ⟨timed.1, timed.2, by assumption⟩
  · refine ⟨?_, ?_, ?_⟩
    · rw [Record.get_set_of_ne _ _ (by decide)]
      exact timed.1
    · exact contains_set.mpr (Or.inr timed.2)
    · exact contains_set.mpr (Or.inl rfl)

theorem normalize_of_complete (complete : Complete metadata) :
    normalizeFailureMetadata classify now metadata = metadata := by
  unfold normalizeFailureMetadata
  simp only [complete.category, if_true, complete.failedAt, complete.attemptNo]

theorem normalize_idem : normalizeFailureMetadata classify now (normalizeFailureMetadata classify now metadata) =
    normalizeFailureMetadata classify now metadata :=
  normalize_of_complete complete_normalize

/-- Metadata without a time of failure is not in normal form. -/
theorem normalize_ne (untimed : metadata.contains "failed_at" = false) :
    normalizeFailureMetadata classify now metadata ≠ metadata := by
  intro same
  have timed := (complete_normalize : Complete (normalizeFailureMetadata classify now metadata)).failedAt
  rw [same, untimed] at timed
  cases timed

theorem strike_untimed (failures : Int) : (strikeMetadata failures).contains "failed_at" = false := rfl

theorem dependency_untimed (failedUid : String) : (dependencyMetadata failedUid).contains "failed_at" = false := rfl

end Normal

section Mirrored

variable {store after between : StateStore} {uid : String}

/-- The terminal maps in memory are those on disk, and so are the cursors. -/
structure Mirrored (store : StateStore) : Prop where
  successes : ∀ key, store.state.successes.get? key = store.backend.successes.get? key
  failed : ∀ key, store.state.failed.get? key = store.backend.failed.get? key
  cursors : ∀ key, store.state.cursors.get? key = store.backend.cursors.get? key

/-- Neither side changes. -/
structure Quiet (store after : StateStore) : Prop where
  successes : after.state.successes = store.state.successes
  failed : after.state.failed = store.state.failed
  cursors : after.state.cursors = store.state.cursors
  diskSuccesses : after.backend.successes = store.backend.successes
  diskFailed : after.backend.failed = store.backend.failed
  diskCursors : after.backend.cursors = store.backend.cursors
  now : after.now = store.now

theorem quiet_refl (store : StateStore) : Quiet store store := ⟨rfl, rfl, rfl, rfl, rfl, rfl, rfl⟩

theorem Quiet.trans (first : Quiet store between) (second : Quiet between after) : Quiet store after where
  successes := second.successes.trans first.successes
  failed := second.failed.trans first.failed
  cursors := second.cursors.trans first.cursors
  diskSuccesses := second.diskSuccesses.trans first.diskSuccesses
  diskFailed := second.diskFailed.trans first.diskFailed
  diskCursors := second.diskCursors.trans first.diskCursors
  now := second.now.trans first.now

theorem Quiet.mirror (quiet : Quiet store after) : Mirrored after ↔ Mirrored store := by
  constructor
  · intro mirror
    have first := mirror.successes
    have second := mirror.failed
    have third := mirror.cursors
    rw [quiet.successes, quiet.diskSuccesses] at first
    rw [quiet.failed, quiet.diskFailed] at second
    rw [quiet.cursors, quiet.diskCursors] at third
    exact ⟨first, second, third⟩
  · intro mirror
    refine ⟨?_, ?_, ?_⟩
    · rw [quiet.successes, quiet.diskSuccesses]
      exact mirror.successes
    · rw [quiet.failed, quiet.diskFailed]
      exact mirror.failed
    · rw [quiet.cursors, quiet.diskCursors]
      exact mirror.cursors

theorem quiet_recordStat (store : StateStore) (key : StatKey) (amount : ℕ) :
    Quiet store (store.recordStat key amount) := ⟨rfl, rfl, rfl, rfl, rfl, rfl, rfl⟩

theorem quiet_fireAttemptFinished (store : StateStore) (uid : String) (outcome : AttemptOutcome) :
    Quiet store (store.fireAttemptFinished uid outcome) := by
  unfold fireAttemptFinished
  dsimp only
  split <;> exact ⟨rfl, rfl, rfl, rfl, rfl, rfl, rfl⟩

theorem quiet_noteCall (store : StateStore) (call : TraceCall) : Quiet store (store.noteCall call) :=
  ⟨rfl, rfl, rfl, rfl, rfl, rfl, rfl⟩

theorem quiet_finishAttempt (store : StateStore) (attemptId : Option Int) (outcome : Outcome)
    (errorMessage : Option Json) : Quiet store (store.finishAttempt attemptId outcome errorMessage) := by
  have updated : ∀ id text, Quiet store { store.noteCall (.update id (store.backend.attempts.get? id)) with
      backend := (store.backend.updateAttempt id outcome store.now.val text).1 } := by
    intro id text
    obtain ⟨attempts, changed⟩ := updateAttempt_fst store.backend id outcome store.now.val text
    rw [changed]
    exact ⟨rfl, rfl, rfl, rfl, rfl, rfl, rfl⟩
  unfold finishAttempt
  cases attemptId with
  | none => exact quiet_refl store
  | some id =>
    dsimp only
    split
    · exact updated _ _
    · exact updated _ _
    · exact updated _ _
    · exact quiet_noteCall store _

/-- A job is archived as failed with one metadata on disk and with another one in memory. -/
structure Archived (uid : String) (disk memory : Record) (store after : StateStore) : Prop where
  successes : after.state.successes = store.state.successes.erase uid
  failed : after.state.failed = store.state.failed.set uid memory
  cursors : after.state.cursors = store.state.cursors
  diskSuccesses : after.backend.successes = store.backend.successes.erase uid
  diskFailed : after.backend.failed = store.backend.failed.set uid disk
  diskCursors : after.backend.cursors = store.backend.cursors
  now : after.now = store.now

theorem Archived.quiet {disk memory : Record} (archived : Archived uid disk memory store between)
    (quiet : Quiet between after) : Archived uid disk memory store after where
  successes := quiet.successes.trans archived.successes
  failed := quiet.failed.trans archived.failed
  cursors := quiet.cursors.trans archived.cursors
  diskSuccesses := quiet.diskSuccesses.trans archived.diskSuccesses
  diskFailed := quiet.diskFailed.trans archived.diskFailed
  diskCursors := quiet.diskCursors.trans archived.diskCursors
  now := quiet.now.trans archived.now

theorem Archived.mirror {metadata : Record} (archived : Archived uid metadata metadata store after)
    (mirror : Mirrored store) : Mirrored after := by
  refine ⟨?_, ?_, ?_⟩
  · intro key
    rw [archived.successes, archived.diskSuccesses, Dict.get?_erase, Dict.get?_erase, mirror.successes]
  · intro key
    rw [archived.failed, archived.diskFailed, Dict.get?_set, Dict.get?_set, mirror.failed]
  · rw [archived.cursors, archived.diskCursors]
    exact mirror.cursors

/-- The failure of a job is not the same on both sides. -/
def Discord (uid : String) (store : StateStore) : Prop :=
  store.state.failed.get? uid ≠ store.backend.failed.get? uid

theorem Discord.not_mirror (discord : Discord uid store) : ¬ Mirrored store :=
  fun mirror => discord (mirror.failed uid)

theorem Discord.quiet (quiet : Quiet store after) (discord : Discord uid store) : Discord uid after := by
  unfold Discord
  rw [quiet.failed, quiet.diskFailed]
  exact discord

theorem Archived.discord {disk memory : Record} (archived : Archived uid disk memory store after)
    (different : memory ≠ disk) : Discord uid after := by
  unfold Discord
  rw [archived.failed, archived.diskFailed, Dict.get?_set_self, Dict.get?_set_self]
  exact fun same => different (Option.some.inj same)

theorem Archived.keeps {disk memory : Record} {other : String} (archived : Archived other disk memory store after)
    (different : memory ≠ disk) (discord : Discord uid store) : Discord uid after := by
  by_cases same : uid = other
  · rw [same]
    exact archived.discord different
  · unfold Discord
    rw [archived.failed, archived.diskFailed, Dict.get?_set_of_ne _ _ same, Dict.get?_set_of_ne _ _ same]
    exact discord

end Mirrored

section Commits

variable [Python] (config : StoreConfig) {store after : StateStore} {uid : String}

theorem quiet_asked {asked : StateStore} (heard : Asked store asked) : Quiet store asked := by
  obtain ⟨queue, same⟩ := heard.backend
  refine ⟨?_, ?_, ?_, ?_, ?_, ?_, heard.now⟩
  · rw [heard.state]
  · rw [heard.state]
  · rw [heard.state]
  · rw [same]
  · rw [same]
  · rw [same]

omit [Python] in
theorem quiet_mapState (store : StateStore) {change : PipelineState → PipelineState}
    (successes : (change store.state).successes = store.state.successes)
    (failed : (change store.state).failed = store.state.failed)
    (cursors : (change store.state).cursors = store.state.cursors) : Quiet store (store.mapState change) :=
  ⟨successes, failed, cursors, rfl, rfl, rfl, rfl⟩

/-- The commit of one failure, and its registration in memory. -/
theorem archived_commitJobFailure {asked : StateStore} (heard : Asked store asked) (uid : String)
    (disk metadata : Record) (payload : Option Record) (events : List Event) (unregister : Bool) :
    Archived uid disk (store.normalize config metadata) store (markFailedMemory config { asked with
      backend := (asked.backend.commitJobFailure uid disk payload).1, events := events } uid metadata
      unregister) := by
  have calm := quiet_asked heard
  have normal : StateStore.normalize config { asked with
      backend := (asked.backend.commitJobFailure uid disk payload).1, events := events } metadata =
      store.normalize config metadata := by
    simp only [StateStore.normalize, heard.now]
  unfold markFailedMemory
  dsimp only
  rw [normal]
  have marked : Archived uid disk (store.normalize config metadata) store (StateStore.mapState { asked with
      backend := (asked.backend.commitJobFailure uid disk payload).1, events := events } fun state =>
        state.markFailed uid (store.normalize config metadata)) := by
    refine ⟨?_, ?_, ?_, ?_, ?_, calm.diskCursors, calm.now⟩
    · rw [← calm.successes]
      rfl
    · rw [← calm.failed]
      rfl
    · rw [← calm.cursors]
      rfl
    · rw [← calm.diskSuccesses]
      rfl
    · rw [← calm.diskFailed]
      rfl
  cases unregister with
  | true =>
    rw [if_pos rfl]
    exact marked.quiet (quiet_mapState _ rfl rfl rfl)
  | false => exact marked

/-- A strike crashes the run, or it archives the job with one metadata on disk and another in memory. -/
theorem strike_discord (store : StateStore) (uid reason : String) (snapshot : Option Record)
    (attemptId : Option Int) :
    (∃ message, (store.handleCommitFailureStrike config uid reason snapshot attemptId).2 = .commitCrash message) ∨
      Discord uid (store.handleCommitFailureStrike config uid reason snapshot attemptId).1 := by
  unfold handleCommitFailureStrike
  dsimp only
  split
  · obtain ⟨asked, heard, refused | ⟨-, committed⟩⟩ := commit_cases store (.failed [uid]) fun backend =>
      backend.commitJobFailure uid
        (strikeMetadata (commitFailures (snapshot.getD (syntheticSnapshot uid)) + 1))
        (extractJobPayload (registerCommitFailure (snapshot.getD (syntheticSnapshot uid))))
    · rw [refused]
      exact Or.inl ⟨_, rfl⟩
    · rw [committed]
      right
      have archived := archived_commitJobFailure config heard uid
        (strikeMetadata (commitFailures (snapshot.getD (syntheticSnapshot uid)) + 1))
        (strikeMetadata (commitFailures (snapshot.getD (syntheticSnapshot uid)) + 1))
        (extractJobPayload (registerCommitFailure (snapshot.getD (syntheticSnapshot uid))))
        (asked.events ++ [.failed [uid]]) true
      have noted := (archived.quiet (quiet_recordStat _ .failed 1)).quiet
        (quiet_finishAttempt _ attemptId .failed (some (.str errCommitFailure)))
      exact (noted.quiet (quiet_fireAttemptFinished _ uid _)).discord (normalize_ne (strike_untimed _))
  · exact Or.inl ⟨_, rfl⟩

/-- The archiving of one job of a refused batch. -/
theorem bulkStrikeFinalize_cases (store : StateStore) (uid : String) (row : Record) (failures : Int) :
    (∃ after, store.bulkStrikeFinalize config uid row failures = (after, false) ∧ Quiet store after) ∨
      ∃ after, store.bulkStrikeFinalize config uid row failures = (after, true) ∧
        Archived uid (strikeMetadata failures) (store.normalize config (strikeMetadata failures)) store after := by
  unfold bulkStrikeFinalize
  obtain ⟨asked, heard, refused | ⟨-, committed⟩⟩ := commit_cases store (.failed [uid]) fun backend =>
    backend.commitJobFailure uid (strikeMetadata failures) (extractJobPayload row)
  · rw [refused]
    exact Or.inl ⟨asked, rfl, quiet_asked heard⟩
  · rw [committed]
    right
    refine ⟨_, rfl, ?_⟩
    have archived := archived_commitJobFailure config heard uid (strikeMetadata failures) (strikeMetadata failures)
      (extractJobPayload row) (asked.events ++ [.failed [uid]]) false
    exact (archived.quiet (quiet_recordStat _ .failed 1)).quiet (quiet_fireAttemptFinished _ uid _)

/-- The loop over a refused batch keeps a discord. -/
theorem discord_handleBulkFailureStrike {uids : List String} {rows : List Record} {kept : Bool}
    (discord : Discord uid store) : Discord uid (handleBulkFailureStrike config uids store rows kept).1 := by
  induction uids generalizing store rows kept with
  | nil => exact discord
  | cons other rest ih =>
    unfold handleBulkFailureStrike
    dsimp only
    split
    · rcases bulkStrikeFinalize_cases config store other
        (registerCommitFailure ((rows.find? fun row => jobUidFromSnapshot row = other).getD (syntheticSnapshot other)))
        (commitFailures ((rows.find? fun row => jobUidFromSnapshot row = other).getD (syntheticSnapshot other)) + 1)
        with ⟨next, refused, quiet⟩ | ⟨next, finished, archived⟩
      · rw [refused]
        exact ih (Discord.quiet quiet discord)
      · rw [finished]
        exact ih (archived.keeps (normalize_ne (strike_untimed _)) discord)
    · exact ih discord

theorem kept_handleBulkFailureStrike (uids : List String) (store : StateStore) (rows : List Record) :
    (handleBulkFailureStrike config uids store rows true).2.2 = true := by
  induction uids generalizing store rows with
  | nil => rfl
  | cons other rest ih =>
    unfold handleBulkFailureStrike
    dsimp only
    split
    · split
      · exact ih _ _
      · exact ih _ _
    · exact ih _ _

/-- A refused batch of which nothing is kept has been archived by strikes. -/
theorem bulk_discord {uids : List String} {rows : List Record} (some_ : uids ≠ [])
    (none_ : (handleBulkFailureStrike config uids store rows false).2.2 = false) :
    ∃ uid, Discord uid (handleBulkFailureStrike config uids store rows false).1 := by
  cases uids with
  | nil => exact absurd rfl some_
  | cons other rest =>
    unfold handleBulkFailureStrike at none_ ⊢
    dsimp only at none_ ⊢
    split at none_
    · rename_i reached
      rw [if_pos reached]
      rcases bulkStrikeFinalize_cases config store other
        (registerCommitFailure ((rows.find? fun row => jobUidFromSnapshot row = other).getD (syntheticSnapshot other)))
        (commitFailures ((rows.find? fun row => jobUidFromSnapshot row = other).getD (syntheticSnapshot other)) + 1)
        with ⟨next, refused, quiet⟩ | ⟨next, finished, archived⟩
      · rw [refused] at none_
        rw [kept_handleBulkFailureStrike] at none_
        cases none_
      · rw [finished]
        have discord := archived.discord (normalize_ne (strike_untimed _))
        exact ⟨other, discord_handleBulkFailureStrike config discord⟩
    · rw [kept_handleBulkFailureStrike] at none_
      cases none_

end Commits

section Batches

variable [Python] (config : StoreConfig) {store after : StateStore} {uid : String}
  {metas : List (String × Record)}

/-- The failures of a batch, each with its metadata changed in some way. -/
def archive (change : Record → Record) (metas : List (String × Record)) (failed : Dict String Record) :
    Dict String Record :=
  metas.foldl (fun failed entry => failed.set entry.1 (change entry.2)) failed

def retract (metas : List (String × Record)) (successes : Dict String Record) : Dict String Record :=
  metas.foldl (fun successes entry => successes.erase entry.1) successes

omit [Python] in
theorem get?_archive_congr {left right : Dict String Record} (same : ∀ key, left.get? key = right.get? key)
    (metas : List (String × Record)) (key : String) :
    (archive id metas left).get? key = (archive id metas right).get? key := by
  induction metas generalizing left right with
  | nil => exact same key
  | cons entry rest ih =>
    apply ih
    intro other
    rw [Dict.get?_set, Dict.get?_set, same]

omit [Python] in
theorem get?_retract_congr {left right : Dict String Record} (same : ∀ key, left.get? key = right.get? key)
    (metas : List (String × Record)) (key : String) :
    (retract metas left).get? key = (retract metas right).get? key := by
  induction metas generalizing left right with
  | nil => exact same key
  | cons entry rest ih =>
    apply ih
    intro other
    rw [Dict.get?_erase, Dict.get?_erase, same]

omit [Python] in
theorem get?_archive_const {change : Record → Record} {value : Record} {failed : Dict String Record}
    (const : ∀ entry ∈ metas, change entry.2 = value)
    (present : uid ∈ metas.map Prod.fst ∨ failed.get? uid = some value) :
    (archive change metas failed).get? uid = some value := by
  induction metas generalizing failed with
  | nil =>
    rcases present with listed | stood
    · cases listed
    · exact stood
  | cons entry rest ih =>
    rw [List.forall_mem_cons] at const
    apply ih const.2
    by_cases same : uid = entry.1
    · right
      rw [same, Dict.get?_set_self, const.1]
    · rw [Dict.get?_set_of_ne _ _ same]
      rcases present with listed | stood
      · left
        simpa [same] using listed
      · exact Or.inr stood

/-- A whole batch is archived, on disk as it is and in memory with each metadata changed. -/
structure ArchivedAll (change : Record → Record) (metas : List (String × Record)) (store after : StateStore) :
    Prop where
  successes : after.state.successes = retract metas store.state.successes
  failed : after.state.failed = archive change metas store.state.failed
  cursors : after.state.cursors = store.state.cursors
  diskSuccesses : after.backend.successes = retract metas store.backend.successes
  diskFailed : after.backend.failed = archive id metas store.backend.failed
  diskCursors : after.backend.cursors = store.backend.cursors

omit [Python] in
theorem ArchivedAll.mirror (archived : ArchivedAll id metas store after) (mirror : Mirrored store) :
    Mirrored after := by
  refine ⟨?_, ?_, ?_⟩
  · rw [archived.successes, archived.diskSuccesses]
    exact get?_retract_congr mirror.successes metas
  · rw [archived.failed, archived.diskFailed]
    exact get?_archive_congr mirror.failed metas
  · rw [archived.cursors, archived.diskCursors]
    exact mirror.cursors

omit [Python] in
/-- A batch with one metadata for all its jobs, which is not the same in memory. -/
theorem ArchivedAll.discord {change : Record → Record} {metadata : Record}
    (archived : ArchivedAll change metas store after) (only : ∀ entry ∈ metas, entry.2 = metadata)
    (different : change metadata ≠ metadata) (listed : uid ∈ metas.map Prod.fst) : Discord uid after := by
  have memory : after.state.failed.get? uid = some (change metadata) := by
    rw [archived.failed]
    apply get?_archive_const _ (Or.inl listed)
    intro entry member
    rw [only entry member]
  have disk : after.backend.failed.get? uid = some metadata := by
    rw [archived.diskFailed]
    exact get?_archive_const only (Or.inl listed)
  unfold Discord
  rw [memory, disk]
  exact fun same => different (Option.some.inj same)

/-- What registering one failed job in memory does. -/
def Marks (change : Record → Record) (mark : StateStore → String → Record → StateStore) (now : Text) : Prop :=
  ∀ store uid metadata, store.now = now →
    (mark store uid metadata).state.successes = store.state.successes.erase uid ∧
    (mark store uid metadata).state.failed = store.state.failed.set uid (change metadata) ∧
    (mark store uid metadata).state.cursors = store.state.cursors ∧
    (mark store uid metadata).backend = store.backend ∧ (mark store uid metadata).now = now

omit [Python] in
theorem markEach_archived {change : Record → Record} {mark : StateStore → String → Record → StateStore}
    (marks : Marks change mark store.now) (metas : List (String × Record)) :
    (markEach mark metas store).state.successes = retract metas store.state.successes ∧
    (markEach mark metas store).state.failed = archive change metas store.state.failed ∧
    (markEach mark metas store).state.cursors = store.state.cursors ∧
    (markEach mark metas store).backend.successes = store.backend.successes ∧
    (markEach mark metas store).backend.failed = store.backend.failed ∧
    (markEach mark metas store).backend.cursors = store.backend.cursors := by
  induction metas generalizing store with
  | nil => exact ⟨rfl, rfl, rfl, rfl, rfl, rfl⟩
  | cons entry rest ih =>
    rcases entry with ⟨uid, metadata⟩
    obtain ⟨successes, failed, cursors, backend, now⟩ := marks store uid metadata rfl
    have quiet := quiet_fireAttemptFinished (mark store uid metadata) uid ⟨false, false, metadata⟩
    have next := @ih ((mark store uid metadata).fireAttemptFinished uid ⟨false, false, metadata⟩)
      (by rw [quiet.now, now]; exact marks)
    rw [quiet.successes, quiet.failed, quiet.cursors, quiet.diskSuccesses, quiet.diskFailed, quiet.diskCursors,
      successes, failed, cursors, backend] at next
    exact next

/-- A batch is accepted and archived; or it is refused, and the run crashes or nothing of it is kept. -/
theorem settleBatch_cases {change : Record → Record} {mark : StateStore → String → Record → StateStore}
    (marks : Marks change mark store.now) (statKey : StatKey) (crashMessage : ℕ → ℕ → String)
    (metas : List (String × Record)) :
    let outcome := settleBatch config mark statKey crashMessage metas store
    ((store.commit (.failed (metas.map Prod.fst)) fun backend => backend.commitJobFailures metas).2 = true ∧
        (∃ uids, outcome.2 = .ok uids) ∧ ArchivedAll change metas store outcome.1) ∨
      ((store.commit (.failed (metas.map Prod.fst)) fun backend => backend.commitJobFailures metas).2 = false ∧
        (metas = [] ∧ Quiet store outcome.1 ∨
          metas ≠ [] ∧ ((∃ message, outcome.2 = .error (.commitCrash message)) ∨
            (∃ uids, outcome.2 = .ok uids) ∧ ∃ uid, Discord uid outcome.1))) := by
  unfold settleBatch
  dsimp only
  obtain ⟨asked, heard, refused | ⟨-, committed⟩⟩ := commit_cases store (.failed (metas.map Prod.fst))
    fun backend => backend.commitJobFailures metas
  · rw [refused]
    right
    refine ⟨rfl, ?_⟩
    dsimp only
    have calm := quiet_asked heard
    cases metas with
    | nil =>
      have replaced : Quiet asked (asked.mapState fun state => state.replaceQueue asked.state.queue) :=
        quiet_mapState asked rfl rfl rfl
      exact Or.inl ⟨rfl, calm.trans replaced⟩
    | cons entry rest =>
      refine Or.inr ⟨List.cons_ne_nil _ _, ?_⟩
      rcases result : handleBulkFailureStrike config (List.map Prod.fst (entry :: rest)) asked asked.state.queue
        false with ⟨struck, rows, kept⟩
      cases kept with
      | true => exact Or.inl ⟨_, rfl⟩
      | false =>
        obtain ⟨uid, discord⟩ := @bulk_discord _ config asked (List.map Prod.fst (entry :: rest)) asked.state.queue
          (by simp) (by rw [result])
        rw [result] at discord
        have replaced : Quiet struck (struck.mapState fun state => state.replaceQueue rows) :=
          quiet_mapState struck rfl rfl rfl
        exact Or.inr ⟨⟨_, rfl⟩, uid, Discord.quiet replaced discord⟩
  · rw [committed]
    left
    refine ⟨rfl, ⟨_, rfl⟩, ?_⟩
    dsimp only
    have calm := quiet_asked heard
    have still : StateStore.now (recordStat (StateStore.mapState { asked with
        backend := (asked.backend.commitJobFailures metas).1
        events := asked.events ++ [.failed (metas.map Prod.fst)] } fun state => state.replaceQueue
          (Fresh.without jobUidFromSnapshot (metas.map Prod.fst).toFinset state.queue)) statKey metas.length) =
        store.now := heard.now
    obtain ⟨successes, failed, cursors, diskSuccesses, diskFailed, diskCursors⟩ :=
      markEach_archived (by rw [still]; exact marks) metas
    refine ⟨successes.trans ?_, failed.trans ?_, cursors.trans ?_, diskSuccesses.trans ?_, diskFailed.trans ?_,
      diskCursors.trans ?_⟩
    · rw [← calm.successes]
      rfl
    · rw [← calm.failed]
      rfl
    · rw [← calm.cursors]
      rfl
    · rw [← calm.diskSuccesses]
      rfl
    · rw [← calm.diskFailed]
      rfl
    · rw [← calm.diskCursors]
      rfl

end Batches

section Cascade

variable [Python] (config : StoreConfig) {state after : PipelineState} {root : String}

/-- The cascade from a job does not depend on the terminal state of the job itself. -/
theorem cascadeFrom_congr (queue : after.queue = state.queue)
    (same : ∀ uid ≠ root, after.successes.contains uid = state.successes.contains uid ∧
      after.failed.contains uid = state.failed.contains uid) (excluded : Finset String)
    (visits : ℕ) {stack seen cascade : List String} (rooted : root ∈ seen) :
    after.cascadeFrom excluded visits stack seen cascade = state.cascadeFrom excluded visits stack seen cascade := by
  induction visits generalizing stack seen cascade with
  | zero => rfl
  | succ visits ih =>
    cases stack with
    | nil => rfl
    | cons current stack =>
      have reached : after.newlyReached excluded seen (after.dependents current) =
          state.newlyReached excluded seen (state.dependents current) := by
        have downstream : after.dependents current = state.dependents current := by
          simp only [dependents, queuedJobs, queue]
        rw [downstream]
        unfold newlyReached
        apply List.filter_congr
        intro uid _
        by_cases visited : uid ∈ seen
        · simp [visited]
        · have different : uid ≠ root := fun equal => visited (equal ▸ rooted)
          rw [(same uid different).1, (same uid different).2]
      simp only [cascadeFrom, reached]
      exact ih (List.mem_append_left _ rooted)

/-- The queued jobs that go down with a job. -/
def downstream (store : StateStore) (failedUid : String) : List String :=
  (store.state.cascadeFail failedUid (store.selectionExcludedUids config)).filter fun uid =>
    uid ∉ store.selectionExcludedUids config

theorem downstream_congr {store marked : StateStore} {uid : String} (queue : marked.state.queue = store.state.queue)
    (successes : marked.state.successes = store.state.successes.erase uid)
    {metadata : Record} (failed : marked.state.failed = store.state.failed.set uid metadata) :
    downstream config marked uid = downstream config store uid := by
  have excluded : marked.selectionExcludedUids config = store.selectionExcludedUids config := by
    simp only [selectionExcludedUids, queuedJobs, queue]
  have same : ∀ other ≠ uid, marked.state.successes.contains other = store.state.successes.contains other ∧
      marked.state.failed.contains other = store.state.failed.contains other := by
    intro other different
    rw [successes, failed, Dict.contains, Dict.contains, Dict.contains, Dict.contains, Dict.get?_erase,
      if_neg different, Dict.get?_set_of_ne _ _ different]
    exact ⟨rfl, rfl⟩
  unfold downstream
  rw [excluded]
  simp only [PipelineState.cascadeFail, queue]
  rw [cascadeFrom_congr queue same _ _ (List.mem_singleton_self uid)]

/-- A cascade with nothing downstream does nothing; any other crashes or leaves a discord. -/
theorem cascadeFail_cases (store : StateStore) (failedUid : String) :
    (downstream config store failedUid = [] ∧ store.cascadeFail config failedUid = (store, .ok [])) ∨
      downstream config store failedUid ≠ [] ∧
        ((∃ message, (store.cascadeFail config failedUid).2 = .error (.commitCrash message)) ∨
          (∃ uids, (store.cascadeFail config failedUid).2 = .ok uids) ∧
            ∃ uid, Discord uid (store.cascadeFail config failedUid).1) := by
  by_cases nothing : downstream config store failedUid = []
  · left
    have empty : (downstream config store failedUid).isEmpty = true := by rw [nothing]; rfl
    refine ⟨nothing, ?_⟩
    unfold StateStore.cascadeFail
    exact if_pos empty
  · right
    refine ⟨nothing, ?_⟩
    have some_ : ¬ (downstream config store failedUid).isEmpty = true := by simpa using nothing
    have cascaded : store.cascadeFail config failedUid = settleBatch config
        (fun store jobUid metadata => store.markFailedMemory config jobUid metadata true) .cascadeFailed
        cascadeCrashMessage ((downstream config store failedUid).map fun uid => (uid, dependencyMetadata failedUid))
        store := by
      unfold StateStore.cascadeFail
      exact if_neg some_
    rw [cascaded]
    have marks : Marks (normalizeFailureMetadata config.classify store.now)
        (fun store jobUid metadata => store.markFailedMemory config jobUid metadata true) store.now := by
      intro other uid metadata now
      refine ⟨rfl, ?_, rfl, rfl, now⟩
      rw [← now]
      rfl
    rcases settleBatch_cases config marks .cascadeFailed cascadeCrashMessage
      ((downstream config store failedUid).map fun uid => (uid, dependencyMetadata failedUid)) with
      ⟨-, answered, archived⟩ | ⟨-, ⟨empty, -⟩ | ⟨-, crashed | discord⟩⟩
    · right
      obtain ⟨uid, listed⟩ := List.exists_mem_of_ne_nil _ nothing
      refine ⟨answered, uid, ?_⟩
      apply @ArchivedAll.discord _ _ uid _ _ (dependencyMetadata failedUid) archived
      · intro entry member
        obtain ⟨other, -, rfl⟩ := List.mem_map.mp member
        rfl
      · exact normalize_ne (dependency_untimed failedUid)
      · simpa using listed
    · exact absurd (List.map_eq_nil_iff.mp empty) nothing
    · exact Or.inl crashed
    · exact Or.inr discord

end Cascade

section Main

variable [Python] (config : StoreConfig) {store : StateStore}

/-- The transitions that write terminal state. -/
inductive Transition where
  | success (request : SuccessRequest)
  | failure (jobUid : String) (metadata snapshot : Record) (countAs : StatKey) (attemptId : Option Int)
  | bulkFailure (uidsMetas : List (String × Record))
  | cascade (failedUid : String)
  | strike (jobUid reason : String) (snapshot : Option Record) (attemptId : Option Int)

/-- The store after a transition, and what the transition raised. -/
def perform (store : StateStore) : Transition → StateStore × Option Signal
  | .success request =>
      ((store.applySuccess config request).1, raisedBy (store.applySuccess config request).2)
  | .failure jobUid metadata snapshot countAs attemptId =>
      ((store.applyFailure config jobUid metadata snapshot countAs attemptId).1,
        raisedBy (store.applyFailure config jobUid metadata snapshot countAs attemptId).2)
  | .bulkFailure uidsMetas =>
      ((store.applyBulkFailure config uidsMetas).1, raisedBy (store.applyBulkFailure config uidsMetas).2)
  | .cascade failedUid =>
      ((store.cascadeFail config failedUid).1, raisedBy (store.cascadeFail config failedUid).2)
  | .strike jobUid reason snapshot attemptId =>
      ((store.handleCommitFailureStrike config jobUid reason snapshot attemptId).1,
        some (store.handleCommitFailureStrike config jobUid reason snapshot attemptId).2)

/-- What a success commits. -/
def successOf (store : StateStore) (request : SuccessRequest) : Memory.Success where
  jobUid := request.jobUid
  resultMetadata := store.successMetadata request.jobUid request.resultMetadata request.artifacts
    request.inputs request.runId
  attemptId := request.attemptId
  executionId := request.executionId
  finishedAt := some store.now.val
  spawned := request.spawned
  cursorUpdates := request.cursorUpdates

/-- The rows that a batch of failures archives. -/
def batchOf (store : StateStore) (uidsMetas : List (String × Record)) : List (String × Record) :=
  (uidsMetas.filter fun entry => entry.1 ∉ store.selectionExcludedUids config).map fun entry =>
    (entry.1, store.normalize config entry.2)

/-- The transition's own commit is answered with true, and no queued job goes down with the job. -/
def Undisturbed (store : StateStore) : Transition → Prop
  | .success request =>
      (store.commit (.succeeded request.jobUid (request.spawned.map jobUidFromSnapshot)) fun backend =>
        backend.commitJobSuccess (successOf store request)).2 = true
  | .failure jobUid metadata snapshot _ _ =>
      (store.commit (.failed [jobUid]) fun backend =>
        backend.commitJobFailure jobUid (store.normalize config metadata) (extractJobPayload snapshot)).2 = true ∧
      downstream config store jobUid = []
  | .bulkFailure uidsMetas =>
      batchOf config store uidsMetas = [] ∨
      (store.commit (.failed ((batchOf config store uidsMetas).map Prod.fst)) fun backend =>
        backend.commitJobFailures (batchOf config store uidsMetas)).2 = true
  | .cascade failedUid => downstream config store failedUid = []
  | .strike _ _ _ _ => False

/-- The transition raised a crash signal. -/
def Crashed (signal : Option Signal) : Prop := ∃ message, signal = some (.commitCrash message)

/-- Undisturbed, the mirror is kept; disturbed, the run crashes or the mirror is broken. -/
def Exact (store : StateStore) (transition : Transition) : Prop :=
  (Undisturbed config store transition → Mirrored (perform config store transition).1) ∧
    (¬ Undisturbed config store transition → ¬ Crashed (perform config store transition).2 →
      ¬ Mirrored (perform config store transition).1)

theorem exact_strike (jobUid reason : String) (snapshot : Option Record) (attemptId : Option Int) :
    Exact config store (.strike jobUid reason snapshot attemptId) := by
  refine ⟨fun never => absurd never id, fun _ quiet => ?_⟩
  rcases strike_discord config store jobUid reason snapshot attemptId with ⟨message, crashed⟩ | discord
  · exact absurd ⟨message, congrArg some crashed⟩ quiet
  · exact discord.not_mirror

/-- A refused commit of one job. -/
theorem not_mirrored_of_strike {α : Type} {outcome : StateStore × Except Signal α} {uid reason : String}
    {snapshot : Option Record} {attemptId : Option Int} {asked : StateStore}
    (struck : outcome = ((asked.handleCommitFailureStrike config uid reason snapshot attemptId).1,
      .error (asked.handleCommitFailureStrike config uid reason snapshot attemptId).2))
    (quiet : ¬ Crashed (raisedBy outcome.2)) : ¬ Mirrored outcome.1 := by
  rw [struck] at quiet ⊢
  rcases strike_discord config asked uid reason snapshot attemptId with ⟨message, crashed⟩ | discord
  · exact absurd ⟨message, congrArg some crashed⟩ quiet
  · exact discord.not_mirror

theorem cursors_commitJobSuccess {backend : Memory} {success : Memory.Success}
    (accepted : (backend.commitJobSuccess success).2 = true) :
    (backend.commitJobSuccess success).1.cursors =
      Memory.updateCursors backend.cursors success.cursorUpdates.entries := by
  unfold Memory.commitJobSuccess at accepted ⊢
  split at accepted
  · split at accepted
    · cases accepted
    · rename_i clear
      simp [clear]
  · cases accepted

omit [Python] in
theorem get?_updateCursors_congr {left right : Dict String String} (same : ∀ key, left.get? key = right.get? key)
    (updates : List (String × Option String)) (key : String) :
    (Memory.updateCursors left updates).get? key = (Memory.updateCursors right updates).get? key := by
  induction updates generalizing left right with
  | nil => exact same key
  | cons update rest ih =>
    rcases update with ⟨name, value⟩
    apply ih
    intro other
    cases value with
    | none =>
      dsimp only
      rw [Dict.get?_erase, Dict.get?_erase, same]
    | some value =>
      dsimp only
      rw [Dict.get?_set, Dict.get?_set, same]

/-- The end of a success in memory, after its commit. -/
theorem mirror_succeeded {committed spawned : StateStore} {uid : String} {metadata : Record}
    {updates : List (String × Option String)} (mirror : Mirrored store) (quiet : Quiet committed spawned)
    (memory : committed.state = store.state)
    (successes : committed.backend.successes = store.backend.successes.set uid metadata)
    (failed : committed.backend.failed = store.backend.failed.erase uid)
    (cursors : committed.backend.cursors = Memory.updateCursors store.backend.cursors updates) :
    Mirrored ((((spawned.mapState fun state => state.updateCursors updates).mapState fun state =>
      state.markSuccess uid metadata).mapState fun state => state.unregisterInFlight uid).recordStat .succeeded 1) := by
  refine ⟨?_, ?_, ?_⟩
  · intro key
    have inMemory : spawned.state.successes = store.state.successes := quiet.successes.trans (by rw [memory])
    have onDisk : spawned.backend.successes = store.backend.successes.set uid metadata :=
      quiet.diskSuccesses.trans successes
    show (spawned.state.successes.set uid metadata).get? key = spawned.backend.successes.get? key
    rw [inMemory, onDisk, Dict.get?_set, Dict.get?_set, mirror.successes]
  · intro key
    have inMemory : spawned.state.failed = store.state.failed := quiet.failed.trans (by rw [memory])
    have onDisk : spawned.backend.failed = store.backend.failed.erase uid := quiet.diskFailed.trans failed
    show (spawned.state.failed.erase uid).get? key = spawned.backend.failed.get? key
    rw [inMemory, onDisk, Dict.get?_erase, Dict.get?_erase, mirror.failed]
  · intro key
    have inMemory : spawned.state.cursors = store.state.cursors := quiet.cursors.trans (by rw [memory])
    have onDisk : spawned.backend.cursors = Memory.updateCursors store.backend.cursors updates :=
      quiet.diskCursors.trans cursors
    show (Memory.updateCursors spawned.state.cursors updates).get? key = spawned.backend.cursors.get? key
    rw [inMemory, onDisk]
    exact get?_updateCursors_congr mirror.cursors updates key

theorem exact_success (mirror : Mirrored store) (request : SuccessRequest) :
    Exact config store (.success request) := by
  obtain ⟨asked, heard, refused | ⟨accepted, committed⟩⟩ := commit_cases store
    (.succeeded request.jobUid (request.spawned.map jobUidFromSnapshot)) fun backend =>
      backend.commitJobSuccess (successOf store request)
  · constructor
    · intro answered
      simp only [Undisturbed, refused, Bool.false_eq_true] at answered
    · intro _ quiet
      set noted := asked.noteCall
        (.success request.attemptId (request.attemptId.bind store.backend.attempts.get?) false) with call
      have struck : store.applySuccess config request =
          ((noted.handleCommitFailureStrike config request.jobUid "commit_job_success" (some request.snapshot)
            request.attemptId).1, .error (noted.handleCommitFailureStrike config request.jobUid
            "commit_job_success" (some request.snapshot) request.attemptId).2) := by
        unfold successOf at refused
        unfold applySuccess
        simp only [refused]
        rfl
      exact not_mirrored_of_strike config struck quiet
  · constructor
    · intro _
      have calm := quiet_asked heard
      obtain ⟨-, -, -, successes, failed⟩ := Ledger.commitJobSuccess_true accepted
      have cursors := cursors_commitJobSuccess accepted
      rw [calm.diskSuccesses] at successes
      rw [calm.diskFailed] at failed
      rw [calm.diskCursors] at cursors
      have finish := fun spawned quiet => @mirror_succeeded _ store { asked with
        backend := (asked.backend.commitJobSuccess (successOf store request)).1
        events := asked.events ++ [.succeeded request.jobUid (request.spawned.map jobUidFromSnapshot)] }
        spawned _ _ _ mirror quiet heard.state successes failed cursors
      unfold successOf at committed
      unfold perform applySuccess
      simp only [committed]
      apply finish
      split
      · exact quiet_noteCall _ _
      · exact (quiet_noteCall _ _).trans (quiet_mapState _ rfl rfl rfl)
    · intro disturbed
      simp only [Undisturbed, committed, not_true_eq_false] at disturbed

theorem exact_failure (mirror : Mirrored store) (jobUid : String) (metadata snapshot : Record) (countAs : StatKey)
    (attemptId : Option Int) : Exact config store (.failure jobUid metadata snapshot countAs attemptId) := by
  obtain ⟨asked, heard, refused | ⟨-, committed⟩⟩ := commit_cases store (.failed [jobUid]) fun backend =>
    backend.commitJobFailure jobUid (store.normalize config metadata) (extractJobPayload snapshot)
  · constructor
    · rintro ⟨answered, -⟩
      rw [refused] at answered
      cases answered
    · intro _ quiet
      obtain ⟨reason, struck⟩ : ∃ reason, store.applyFailure config jobUid metadata snapshot countAs attemptId =
          ((asked.handleCommitFailureStrike config jobUid reason (some snapshot) attemptId).1,
            .error (asked.handleCommitFailureStrike config jobUid reason (some snapshot) attemptId).2) := by
        unfold applyFailure
        simp only [refused]
        exact ⟨_, rfl⟩
      exact not_mirrored_of_strike config struck quiet
  · have archived := archived_commitJobFailure config heard jobUid (store.normalize config metadata)
      (store.normalize config metadata) (extractJobPayload snapshot) (asked.events ++ [.failed [jobUid]]) true
    have noted := (archived.quiet (quiet_recordStat _ countAs 1)).quiet
      (quiet_finishAttempt _ attemptId .failed (attemptError (store.normalize config metadata)))
    have idem : store.normalize config (store.normalize config metadata) = store.normalize config metadata :=
      normalize_idem
    rw [idem] at noted
    have queue : (((markFailedMemory config { asked with
        backend := (asked.backend.commitJobFailure jobUid (store.normalize config metadata)
          (extractJobPayload snapshot)).1
        events := asked.events ++ [.failed [jobUid]] } jobUid (store.normalize config metadata) true).recordStat
          countAs 1).finishAttempt attemptId .failed
            (attemptError (store.normalize config metadata))).state.queue = store.state.queue := by
      rw [(alike_finishAttempt _ _ _ _).state, ← heard.state]
      rfl
    have below := downstream_congr config queue noted.successes noted.failed
    simp only [Exact, Undisturbed, perform, applyFailure, committed]
    rcases cascadeFail_cases config (((markFailedMemory config { asked with
        backend := (asked.backend.commitJobFailure jobUid (store.normalize config metadata)
          (extractJobPayload snapshot)).1
        events := asked.events ++ [.failed [jobUid]] } jobUid (store.normalize config metadata) true).recordStat
          countAs 1).finishAttempt attemptId .failed (attemptError (store.normalize config metadata))) jobUid with
      ⟨nothing, same⟩ | ⟨something, ⟨message, crashed⟩ | ⟨⟨uids, answered⟩, uid, discord⟩⟩
    · rw [below] at nothing
      rw [same]
      exact ⟨fun _ => noted.mirror mirror, fun disturbed => absurd ⟨trivial, nothing⟩ disturbed⟩
    · rw [below] at something
      refine ⟨fun undisturbed => absurd undisturbed.2 something, fun _ quiet => absurd ?_ quiet⟩
      split
      · rename_i raised signal result
        rw [result] at crashed
        cases crashed
        exact ⟨message, rfl⟩
      · rename_i result
        rw [result] at crashed
        cases crashed
    · rw [below] at something
      refine ⟨fun undisturbed => absurd undisturbed.2 something, fun _ _ => ?_⟩
      split
      · rename_i result
        rw [result] at answered
        cases answered
      · rename_i result
        rw [result] at discord
        exact discord.not_mirror

theorem exact_cascade (mirror : Mirrored store) (failedUid : String) :
    Exact config store (.cascade failedUid) := by
  simp only [Exact, Undisturbed, perform]
  rcases cascadeFail_cases config store failedUid with
    ⟨nothing, same⟩ | ⟨something, ⟨message, crashed⟩ | ⟨-, uid, discord⟩⟩
  · rw [same]
    exact ⟨fun _ => mirror, fun disturbed => absurd nothing disturbed⟩
  · refine ⟨fun undisturbed => absurd undisturbed something, fun _ quiet => absurd ⟨message, ?_⟩ quiet⟩
    rw [crashed]
    rfl
  · exact ⟨fun undisturbed => absurd undisturbed something, fun _ _ => discord.not_mirror⟩

theorem exact_bulkFailure (mirror : Mirrored store) (uidsMetas : List (String × Record)) :
    Exact config store (.bulkFailure uidsMetas) := by
  have marks : Marks id (fun store jobUid metadata =>
      (store.mapState fun state => state.markFailed jobUid metadata).mapState fun state =>
        state.unregisterInFlight jobUid) store.now :=
    fun _ _ _ now => ⟨rfl, rfl, rfl, rfl, now⟩
  simp only [Exact, Undisturbed, perform, applyBulkFailure]
  split
  · rename_i untouched
    have nothing : batchOf config store uidsMetas = [] := by
      unfold batchOf
      rw [List.isEmpty_iff.mp untouched.2]
      rfl
    exact ⟨fun _ => mirror, fun disturbed => absurd (Or.inl nothing) disturbed⟩
  · rcases settleBatch_cases config marks .failed bulkCrashMessage (batchOf config store uidsMetas) with
      ⟨answered, -, archived⟩ | ⟨refused, ⟨nothing, quiet⟩ | ⟨something, outcome⟩⟩
    · exact ⟨fun _ => archived.mirror mirror, fun disturbed => absurd (Or.inr answered) disturbed⟩
    · exact ⟨fun _ => quiet.mirror.mpr mirror, fun disturbed => absurd (Or.inl nothing) disturbed⟩
    · have disturbed : ¬ (batchOf config store uidsMetas = [] ∨
          (store.commit (.failed ((batchOf config store uidsMetas).map Prod.fst)) fun backend =>
            backend.commitJobFailures (batchOf config store uidsMetas)).2 = true) := by
        rw [refused]
        simp [something]
      refine ⟨fun undisturbed => absurd undisturbed disturbed, fun _ quiet => ?_⟩
      rcases outcome with ⟨message, crashed⟩ | ⟨-, uid, discord⟩
      · exact absurd ⟨message, congrArg raisedBy crashed⟩ quiet
      · exact discord.not_mirror

theorem exact_perform (mirror : Mirrored store) (transition : Transition) : Exact config store transition := by
  cases transition with
  | success request => exact exact_success config mirror request
  | failure jobUid metadata snapshot countAs attemptId =>
    exact exact_failure config mirror jobUid metadata snapshot countAs attemptId
  | bulkFailure uidsMetas => exact exact_bulkFailure config mirror uidsMetas
  | cascade failedUid => exact exact_cascade config mirror failedUid
  | strike jobUid reason snapshot attemptId => exact exact_strike config jobUid reason snapshot attemptId

/-- A transition at its own time, with the answers it is going to get. -/
structure Occasion where
  now : Text
  answers : List Answer
  hookRaises : List Bool
  transition : Transition

/-- The store at the time of a transition. -/
def Occasion.on (occasion : Occasion) (store : StateStore) : StateStore :=
  { store with now := occasion.now, answers := occasion.answers, hookRaises := occasion.hookRaises }

def step (store : StateStore) (occasion : Occasion) : StateStore :=
  (perform config (occasion.on store) occasion.transition).1

/-- From a mirrored state, a transition that does not crash keeps the mirror exactly when its own commit is
answered with true and no queued job goes down with the job; and the mirror holds in every state of every
run all of whose transitions are so. -/
theorem mirror_kept_iff :
    (∀ store transition, Mirrored store → ¬ Crashed (perform config store transition).2 →
      (Mirrored (perform config store transition).1 ↔ Undisturbed config store transition)) ∧
    (∀ store occasions, Mirrored store →
      Machine.Along (step config) (fun store occasion =>
        Undisturbed config (occasion.on store) occasion.transition) store occasions →
      Mirrored (Machine.run (step config) store occasions)) := by
  constructor
  · intro store transition mirror quiet
    obtain ⟨kept, broken⟩ := exact_perform config mirror transition
    refine ⟨fun after => ?_, kept⟩
    by_contra disturbed
    exact broken disturbed quiet after
  · intro store occasions mirror guarded
    apply Machine.run_invariant_along mirror _ guarded
    intro store occasion undisturbed mirror
    have prepared : Mirrored (occasion.on store) := ⟨mirror.successes, mirror.failed, mirror.cursors⟩
    exact (exact_perform config prepared occasion.transition).1 undisturbed

end Main

section Sample

local instance : Python := samplePython

def childRow : Record := Dict.ofPairs
  [("task_type", .str "t"), ("job_id", .str "b"), ("depends_on", .arr [.str "t::a"])]

/-- A store that has loaded its queue. -/
def loaded (queue : List Record) : StateStore where
  backend := { Memory.empty with queue := queue }
  state := PipelineState.init Dict.empty Dict.empty Dict.empty queue
  stats := fun _ => 0
  now := sampleNow
  answers := []
  hookRaises := []
  events := []
  finished := []

theorem mirrored_loaded (queue : List Record) : Mirrored (loaded queue) :=
  ⟨fun _ => rfl, fun _ => rfl, fun _ => rfl⟩

theorem mirror_kept_alone :
    let transition := Transition.failure "t::a" Dict.empty namedRow .failed none
    ¬ Crashed (perform sampleConfig (loaded []) transition).2 ∧
      Undisturbed sampleConfig (loaded []) transition ∧
      Mirrored (perform sampleConfig (loaded []) transition).1 := by
  have quiet : ¬ Crashed (perform sampleConfig (loaded [])
      (.failure "t::a" Dict.empty namedRow .failed none)).2 := by
    rintro ⟨message, crashed⟩
    cases crashed
  have undisturbed : Undisturbed sampleConfig (loaded [])
      (.failure "t::a" Dict.empty namedRow .failed none) := ⟨by decide +kernel, by decide +kernel⟩
  exact ⟨quiet, undisturbed, ((mirror_kept_iff sampleConfig).1 _ _ (mirrored_loaded []) quiet).mpr undisturbed⟩

/-- A queued job goes down with its dependency: its failure has no category on disk and one in memory. -/
theorem cascaded_failure_differs :
    let outcome := perform sampleConfig (loaded [childRow]) (.failure "t::a" Dict.empty namedRow .failed none)
    Mirrored (loaded [childRow]) ∧ outcome.2 = none ∧
      outcome.1.backend.failed.get? "t::b" = some (dependencyMetadata "t::a") ∧
      outcome.1.state.failed.get? "t::b" =
        some (normalizeFailureMetadata (fun _ => .fatal) sampleNow (dependencyMetadata "t::a")) ∧
      ¬ Mirrored outcome.1 := by
  refine ⟨mirrored_loaded [childRow], by decide +kernel, by decide +kernel, by decide +kernel, fun mirror => ?_⟩
  exact absurd (mirror.failed "t::b") (by decide +kernel)

end Sample

end Tasklite.Engine.Mirror
