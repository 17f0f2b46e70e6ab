import Tasklite.Engine.Batches
import Tasklite.Engine.Cascade
import Tasklite.Engine.Dispatch
import Tasklite.Library.WriteOnce

/-! The protocol of the attempt log. A row is opened when a job is dispatched or skipped,
under a number above all earlier ones, and closed at most once: by the commit of its
success or by one update. Nothing is ever called on a closed row. -/

namespace Tasklite.Engine.Tracing
open Tasklite.Library Tasklite.Library.WriteOnce Tasklite.Models Tasklite.Backend StateStore

section Trail

/-- What a row is about. -/
def identity (record : AttemptRecord) : Text × {n : ℕ // 1 ≤ n} × {n : ℕ // 1 ≤ n} × Text × Text × Text :=
  (record.jobUid, record.activationNo, record.attemptNo, record.executionId, record.runId, record.startedAt)

def IsRunning (record : AttemptRecord) : Prop := record.outcome = .running

/-- The row that a call was about to finish. -/
def rowOf : TraceCall → Option AttemptRecord
  | .update _ row => row
  | .success _ row _ => row

/-- The attempt rows, the next number, and the calls so far. -/
structure Trail where
  attempts : Dict Int AttemptRecord
  seq : ℕ
  calls : List TraceCall

def Trail.note (trail : Trail) (call : TraceCall) : Trail := { trail with calls := trail.calls ++ [call] }

def trailOf (store : StateStore) : Trail := ⟨store.backend.attempts, store.backend.attemptSeq, store.traced⟩

/-- The protocol as far as a trail shows it: the numbers rise, every call was about a running row, and the rows
that have succeeded are those that had at the start and those whose success was committed. -/
structure Sound (origin : Dict Int AttemptRecord) (trail : Trail) : Prop where
  serial : Serial trail.attempts trail.seq
  grown : ∀ id ∈ origin.keys, id ∈ trail.attempts.keys
  running : ∀ call ∈ trail.calls, ∀ row ∈ rowOf call, IsRunning row
  known : ∀ id row, .success (some id) row true ∈ trail.calls → id ∈ trail.attempts.keys
  succeeded : ∀ id row, trail.attempts.get? id = some row → (row.outcome = .succeeded ↔
    (∃ first, origin.get? id = some first ∧ first.outcome = .succeeded) ∨
      ∃ found, .success (some id) found true ∈ trail.calls)

/-- The row of an id is there and running. -/
def Open (trail : Trail) (id : Int) : Prop := ∃ row, trail.attempts.get? id = some row ∧ IsRunning row

abbrev Extends (before after : Trail) : Prop := Grows identity IsRunning before.attempts after.attempts

/-- One update of a row: it ends, or the update goes wrong and is only logged. -/
inductive Finishes (id : Int) (trail : Trail) : Trail → Prop where
  | updated {row : AttemptRecord} {ending : AttemptFinish} (found : trail.attempts.get? id = some row)
      (running : IsRunning row) (other : ending.outcome ≠ .succeeded) :
      Finishes id trail ({ trail with attempts := trail.attempts.set id (row.finish ending) }.note
        (.update id (some row)))
  | degraded : Finishes id trail (trail.note (.update id (trail.attempts.get? id)))

/-- What an operation that was handed an id does about it: at most one update, and nothing without an id. -/
def Closes (attemptId : Option Int) (trail after : Trail) : Prop :=
  match attemptId with
  | none => after = trail
  | some id => Finishes id trail after

/-- What the end of an execution does about its attempt: nothing, one update, a committed success, or a refused
success and one update. -/
inductive Ends (attemptId : Option Int) (trail : Trail) : Trail → Prop where
  | silent : Ends attemptId trail trail
  | closed {after : Trail} (closes : Closes attemptId trail after) : Ends attemptId trail after
  | succeeded {id : Int} {row : AttemptRecord} {ending : AttemptFinish} (own : attemptId = some id)
      (found : trail.attempts.get? id = some row) (running : IsRunning row) (final : ending.outcome = .succeeded) :
      Ends attemptId trail ({ trail with attempts := trail.attempts.set id (row.finish ending) }.note
        (.success (some id) (some row) true))
  | refused {after : Trail} (closes : Closes attemptId
      (trail.note (.success attemptId (attemptId.bind trail.attempts.get?) false)) after) : Ends attemptId trail after

/-- A row is opened under the next number, or the trace is missing. -/
inductive Opens (trail : Trail) : Trail → Option Int → Prop where
  | missing : Opens trail trail none
  | opened {row : AttemptRecord} (running : IsRunning row) :
      Opens trail { trail with attempts := trail.attempts.set trail.seq row, seq := trail.seq + 1 } (some trail.seq)

variable {origin : Dict Int AttemptRecord} {trail after : Trail} {id : Int} {attemptId : Option Int}

theorem Open.mem_keys (opened : Open trail id) : id ∈ trail.attempts.keys := by
  obtain ⟨row, found, -⟩ := opened
  exact mem_keys_of_get? found

theorem identity_finish (row : AttemptRecord) (ending : AttemptFinish) : identity (row.finish ending) = identity row :=
  rfl

/-- A call that is no committed success. -/
theorem Sound.note {call : TraceCall} (sound : Sound origin trail) (running : ∀ row ∈ rowOf call, IsRunning row)
    (plain : ∀ id row, call ≠ .success (some id) row true) : Sound origin (trail.note call) where
  serial := sound.serial
  grown := sound.grown
  running := by
    intro other member
    rcases List.mem_append.mp member with old | new
    · exact sound.running other old
    · rw [List.mem_singleton.mp new]
      exact running
  known := by
    intro id row member
    rcases List.mem_append.mp member with old | new
    · exact sound.known id row old
    · exact absurd (List.mem_singleton.mp new).symm (plain id row)
  succeeded := by
    intro id row found
    rw [sound.succeeded id row found]
    constructor
    · rintro (first | ⟨was, member⟩)
      · exact Or.inl first
      · exact Or.inr ⟨was, List.mem_append_left _ member⟩
    · rintro (first | ⟨was, member⟩)
      · exact Or.inl first
      · rcases List.mem_append.mp member with old | new
        · exact Or.inr ⟨was, old⟩
        · exact absurd (List.mem_singleton.mp new).symm (plain id was)

theorem running_of_open (opened : Open trail id) {row : AttemptRecord} (found : trail.attempts.get? id = some row) :
    IsRunning row := by
  obtain ⟨there, same, running⟩ := opened
  obtain rfl : there = row := Option.some.inj (same.symm.trans found)
  exact running

/-- No row that runs has succeeded. -/
theorem not_committed_of_open (sound : Sound origin trail) (opened : Open trail id) :
    ¬ ((∃ first, origin.get? id = some first ∧ first.outcome = .succeeded) ∨
      ∃ found, .success (some id) found true ∈ trail.calls) := by
  obtain ⟨row, found, running⟩ := opened
  intro committed
  have succeeded := (sound.succeeded id row found).mpr committed
  rw [IsRunning, succeeded] at running
  cases running

/-- A running row is closed without success. -/
theorem Sound.close {row : AttemptRecord} {ending : AttemptFinish} (sound : Sound origin trail)
    (found : trail.attempts.get? id = some row) (running : IsRunning row) (other : ending.outcome ≠ .succeeded) :
    Sound origin { trail with attempts := trail.attempts.set id (row.finish ending) } where
  serial := sound.serial.close found
  grown := by
    intro key member
    exact Dict.mem_keys_set.mpr (Or.inr (sound.grown key member))
  running := sound.running
  known := by
    intro key was member
    exact Dict.mem_keys_set.mpr (Or.inr (sound.known key was member))
  succeeded := by
    intro key later there
    by_cases same : key = id
    · subst same
      obtain rfl : row.finish ending = later := Option.some.inj ((Dict.get?_set_self _ _ _).symm.trans there)
      have never := not_committed_of_open sound ⟨row, found, running⟩
      exact ⟨fun success => absurd success other, fun committed => absurd committed never⟩
    · rw [Dict.get?_set_of_ne _ _ same] at there
      exact sound.succeeded key later there

/-- The success of a running row is committed. -/
theorem Sound.succeed {row : AttemptRecord} {ending : AttemptFinish} (sound : Sound origin trail)
    (found : trail.attempts.get? id = some row) (running : IsRunning row) (final : ending.outcome = .succeeded) :
    Sound origin ({ trail with attempts := trail.attempts.set id (row.finish ending) }.note
      (.success (some id) (some row) true)) where
  serial := sound.serial.close found
  grown := by
    intro key member
    exact Dict.mem_keys_set.mpr (Or.inr (sound.grown key member))
  running := by
    intro call member
    rcases List.mem_append.mp member with old | new
    · exact sound.running call old
    · rw [List.mem_singleton.mp new]
      rintro was ⟨⟩
      exact running
  known := by
    intro key was member
    rcases List.mem_append.mp member with old | new
    · exact Dict.mem_keys_set.mpr (Or.inr (sound.known key was old))
    · cases List.mem_singleton.mp new
      exact Dict.mem_keys_set.mpr (Or.inl rfl)
  succeeded := by
    intro key later there
    by_cases same : key = id
    · subst same
      obtain rfl : row.finish ending = later := Option.some.inj ((Dict.get?_set_self _ _ _).symm.trans there)
      exact ⟨fun _ => Or.inr ⟨some row, by simp [Trail.note]⟩, fun _ => final⟩
    · have apart : ∀ was, .success (some key) was true ∈ trail.calls ++ [.success (some id) (some row) true] ↔
          .success (some key) was true ∈ trail.calls := by
        intro was
        simp [same]
      have before : trail.attempts.get? key = some later := by
        rw [← there]
        exact (Dict.get?_set_of_ne _ _ same).symm
      simp only [Trail.note, apart]
      exact sound.succeeded key later before

/-- A running row is opened. -/
theorem Sound.open {row : AttemptRecord} (sound : Sound origin trail) (running : IsRunning row) :
    Sound origin { trail with attempts := trail.attempts.set trail.seq row, seq := trail.seq + 1 } where
  serial := sound.serial.append row
  grown := by
    intro key member
    exact Dict.mem_keys_set.mpr (Or.inr (sound.grown key member))
  running := sound.running
  known := by
    intro key was member
    exact Dict.mem_keys_set.mpr (Or.inr (sound.known key was member))
  succeeded := by
    intro key later there
    by_cases same : key = trail.seq
    · subst same
      obtain rfl : row = later := Option.some.inj ((Dict.get?_set_self _ _ _).symm.trans there)
      have absent := sound.serial.notMem
      constructor
      · intro success
        rw [IsRunning, success] at running
        cases running
      · rintro (⟨first, held, -⟩ | ⟨was, member⟩)
        · exact absurd (sound.grown _ (mem_keys_of_get? held)) absent
        · exact absurd (sound.known _ was member) absent
    · rw [Dict.get?_set_of_ne _ _ same] at there
      exact sound.succeeded key later there

/-- What follows from a step of the log that may touch the row of one id. -/
structure Passes (origin : Dict Int AttemptRecord) (attemptId : Option Int) (trail after : Trail) : Prop where
  sound : Sound origin after
  grows : Extends trail after
  others : ∀ other, attemptId ≠ some other → after.attempts.get? other = trail.attempts.get? other

theorem passes_refl (sound : Sound origin trail) : Passes origin attemptId trail trail where
  sound := sound
  grows := grows_refl _
  others := fun _ _ => rfl

theorem passes_finishes (sound : Sound origin trail) (opened : Open trail id) (finishes : Finishes id trail after) :
    Passes origin (some id) trail after := by
  cases finishes with
  | @updated row ending found running other =>
    refine ⟨?_, grows_close found running (identity_finish row ending), ?_⟩
    · apply (sound.close found running other).note
      · rintro was ⟨⟩
        exact running
      · intro key was
        simp
    · intro key different
      exact Dict.get?_set_of_ne _ _ fun same => different (congrArg some same.symm)
  | degraded =>
    refine ⟨?_, grows_refl _, fun _ _ => rfl⟩
    apply sound.note
    · intro row found
      exact running_of_open opened found
    · intro key was
      simp

theorem passes_closes (sound : Sound origin trail) (opened : ∀ id ∈ attemptId, Open trail id)
    (closes : Closes attemptId trail after) : Passes origin attemptId trail after := by
  cases attemptId with
  | none =>
    obtain rfl : after = trail := closes
    exact passes_refl sound
  | some id => exact passes_finishes sound (opened id rfl) closes

theorem passes_ends (sound : Sound origin trail) (opened : ∀ id ∈ attemptId, Open trail id)
    (ends : Ends attemptId trail after) : Passes origin attemptId trail after := by
  cases ends with
  | silent => exact passes_refl sound
  | closed closes => exact passes_closes sound opened closes
  | @succeeded id row ending own found running final =>
    subst own
    refine ⟨sound.succeed found running final, grows_close found running (identity_finish row ending), ?_⟩
    intro key different
    exact Dict.get?_set_of_ne _ _ fun same => different (congrArg some same.symm)
  | refused closes =>
    have noted : Sound origin (trail.note (.success attemptId (attemptId.bind trail.attempts.get?) false)) := by
      apply sound.note
      · intro row found
        obtain ⟨id, own, there⟩ := Option.bind_eq_some_iff.mp found
        exact running_of_open (opened id own) there
      · intro key was
        simp
    obtain ⟨kept, grows, others⟩ := passes_closes noted opened closes
    exact ⟨kept, grows, others⟩

theorem passes_opens (sound : Sound origin trail) (opens : Opens trail after attemptId) :
    Passes origin attemptId trail after ∧ (∀ id ∈ attemptId, Open after id ∧ id ∉ trail.attempts.keys) := by
  cases opens with
  | missing => exact ⟨passes_refl sound, by simp⟩
  | @opened row running =>
    refine ⟨⟨sound.open running, grows_append sound.serial.notMem row, ?_⟩, ?_⟩
    · intro key different
      exact Dict.get?_set_of_ne _ _ fun same => different (congrArg some same.symm)
    · rintro id ⟨⟩
      exact ⟨⟨row, Dict.get?_set_self _ _ _, running⟩, sound.serial.notMem⟩

end Trail

section Store

variable [Python] (config : StoreConfig) {store : StateStore}

/-- Other processes change the queue and its history, and a commit uses up one answer. -/
theorem arrived_eq (store : StateStore) : ∃ queue news, Cascade.arrived store = { store with
    backend := { store.backend with queue }
    events := store.events ++ news
    answers := store.answers.tail } ∧ ∀ event ∈ news, ∃ uids, event = .enqueued uids := by
  have grown : ∀ (batches : List (List Record × Bool)) (store : StateStore), ∃ queue news,
      batches.foldl (fun store batch => store.enqueueElsewhere batch.1 batch.2) store = { store with
        backend := { store.backend with queue }
        events := store.events ++ news } ∧ ∀ event ∈ news, ∃ uids, event = .enqueued uids := by
    intro batches
    induction batches with
    | nil => exact fun store => ⟨store.backend.queue, [], by simp, by simp⟩
    | cons batch rest ih =>
      intro store
      obtain ⟨queue, news, same, quiet⟩ := ih (store.enqueueElsewhere batch.1 batch.2)
      refine ⟨queue, .enqueued (store.backend.enqueueJobs batch.1 batch.2).2 :: news, ?_, ?_⟩
      · rw [List.foldl_cons, same]
        simp [enqueueElsewhere, Memory.enqueueJobs]
      · intro event member
        rcases List.mem_cons.mp member with rfl | later
        · exact ⟨_, rfl⟩
        · exact quiet event later
  obtain ⟨queue, news, same, quiet⟩ := grown (store.answers.headD {}).enqueued { store with answers := store.answers.tail }
  exact ⟨queue, news, same, quiet⟩

/-- A commit is refused, or it runs after the other processes had their turn. -/
theorem commit_eq (store : StateStore) (event : Event) (transaction : Memory → Memory × Bool) :
    store.commit event transaction = (Cascade.arrived store, false) ∨
      (transaction (Cascade.arrived store).backend).2 = true ∧
        store.commit event transaction = ({ Cascade.arrived store with
          backend := (transaction (Cascade.arrived store).backend).1
          events := (Cascade.arrived store).events ++ [event] }, true) := by
  by_cases accepted : (store.answers.headD {}).accepted = true
  · by_cases taken : (transaction (Cascade.arrived store).backend).2 = true
    · exact Or.inr ⟨taken, Cascade.commit_accepted accepted event taken⟩
    · left
      unfold commit Cascade.arrived at *
      dsimp only at taken ⊢
      rw [if_pos accepted]
      rcases ran : transaction _ with ⟨backend, answer⟩
      rw [ran] at taken
      cases answer with
      | true => exact absurd rfl taken
      | false => rfl
  · left
    unfold commit
    exact if_neg accepted

theorem trail_arrived (store : StateStore) : trailOf (Cascade.arrived store) = trailOf store := by
  obtain ⟨queue, news, same, -⟩ := arrived_eq store
  rw [same]
  rfl

/-- A commit of anything but a success leaves the attempts alone. -/
theorem trail_commit (store : StateStore) (event : Event) {transaction : Memory → Memory × Bool}
    (leaves : ∀ backend, (transaction backend).1.attempts = backend.attempts ∧
      (transaction backend).1.attemptSeq = backend.attemptSeq) :
    trailOf (store.commit event transaction).1 = trailOf store := by
  rcases commit_eq store event transaction with refused | ⟨-, accepted⟩
  · rw [refused, trail_arrived]
  · rw [accepted, ← trail_arrived store]
    obtain ⟨attempts, seq⟩ := leaves (Cascade.arrived store).backend
    unfold trailOf
    rw [attempts, seq]

theorem trail_commitFailure (store : StateStore) (event : Event) (jobUid : String) (metadata : Record)
    (payload : Option Record) :
    trailOf (store.commit event fun backend => backend.commitJobFailure jobUid metadata payload).1 = trailOf store :=
  trail_commit store event fun _ => ⟨rfl, rfl⟩

theorem leaves_commitRetry (jobUid : String) (requeued : Record) (front : Bool) (backend : Memory) :
    (backend.commitRetry jobUid requeued front).1.attempts = backend.attempts ∧
      (backend.commitRetry jobUid requeued front).1.attemptSeq = backend.attemptSeq := by
  unfold Memory.commitRetry
  dsimp only
  split <;> exact ⟨rfl, rfl⟩

omit [Python] in
theorem trail_fireAttemptFinished (store : StateStore) (jobUid : String) (outcome : AttemptOutcome) :
    trailOf (store.fireAttemptFinished jobUid outcome) = trailOf store := by
  unfold fireAttemptFinished
  dsimp only
  split <;> rfl

theorem trail_markFailedMemory (store : StateStore) (jobUid : String) (metadata : Record) (unregister : Bool) :
    trailOf (store.markFailedMemory config jobUid metadata unregister) = trailOf store := by
  unfold markFailedMemory
  cases unregister <;> rfl

omit [Python] in
theorem finishes_finishAttempt (store : StateStore) (id : Int) {outcome : Outcome} (errorMessage : Option Json)
    (other : outcome ≠ .succeeded) :
    Finishes id (trailOf store) (trailOf (store.finishAttempt (some id) outcome errorMessage)) := by
  have updated : ∀ text, Finishes id (trailOf store) (trailOf { store.noteCall
      (.update id (store.backend.attempts.get? id)) with
        backend := (store.backend.updateAttempt id outcome store.now.val text).1 }) := by
    intro text
    unfold Memory.updateAttempt
    cases ended : validateAttemptFinish outcome (some store.now.val) text with
    | none => exact .degraded
    | some ending =>
      dsimp only
      split
      · exact .degraded
      · rename_i row found
        split
        · exact .degraded
        · rename_i running
          rw [not_ne_iff] at running
          have final : ending.outcome ≠ .succeeded := by
            rw [outcome_of_validateAttemptFinish ended]
            exact other
          rw [found]
          exact @Finishes.updated id (trailOf store) row ending found running final
  unfold finishAttempt
  dsimp only
  split
  · exact updated _
  · exact updated _
  · exact updated _
  · exact .degraded

omit [Python] in
theorem closes_finishAttempt (store : StateStore) (attemptId : Option Int) {outcome : Outcome}
    (errorMessage : Option Json) (other : outcome ≠ .succeeded) :
    Closes attemptId (trailOf store) (trailOf (store.finishAttempt attemptId outcome errorMessage)) := by
  cases attemptId with
  | none => rfl
  | some id => exact finishes_finishAttempt store id errorMessage other

section Batches

theorem trail_bulkStrikeFinalize (store : StateStore) (jobUid : String) (row : Record) (failures : Int) :
    trailOf (store.bulkStrikeFinalize config jobUid row failures).1 = trailOf store := by
  have committed := trail_commitFailure store (.failed [jobUid]) jobUid (strikeMetadata failures)
    (extractJobPayload row)
  unfold bulkStrikeFinalize
  split
  · rename_i refused answer
    rw [answer] at committed
    exact committed
  · rename_i archived answer
    rw [answer] at committed
    dsimp only
    rw [trail_fireAttemptFinished]
    exact (trail_markFailedMemory config archived jobUid (strikeMetadata failures) false).trans committed

theorem trail_handleBulkFailureStrike (uids : List String) (store : StateStore) (rows : List Record) (kept : Bool) :
    trailOf (handleBulkFailureStrike config uids store rows kept).1 = trailOf store := by
  induction uids generalizing store rows kept with
  | nil => rfl
  | cons uid rest ih =>
    unfold handleBulkFailureStrike
    dsimp only
    split
    · have finalized := fun row failures => trail_bulkStrikeFinalize config store uid row failures
      split
      · rename_i archived answer
        rw [ih, ← finalized, answer]
      · rename_i refused answer
        rw [ih, ← finalized, answer]
    · exact ih _ _ _

omit [Python] in
theorem trail_markEach {mark : StateStore → String → Record → StateStore}
    (marks : ∀ store uid metadata, trailOf (mark store uid metadata) = trailOf store)
    (metas : List (String × Record)) (store : StateStore) : trailOf (markEach mark metas store) = trailOf store := by
  induction metas generalizing store with
  | nil => rfl
  | cons entry rest ih => rw [markEach, ih, trail_fireAttemptFinished, marks]

theorem trail_settleBatch {mark : StateStore → String → Record → StateStore}
    (marks : ∀ store uid metadata, trailOf (mark store uid metadata) = trailOf store) (statKey : StatKey)
    (crashMessage : ℕ → ℕ → String) (metas : List (String × Record)) (store : StateStore) :
    trailOf (settleBatch config mark statKey crashMessage metas store).1 = trailOf store := by
  have committed : trailOf (store.commit (.failed (metas.map Prod.fst)) fun backend =>
      backend.commitJobFailures metas).1 = trailOf store := trail_commit store _ fun _ => ⟨rfl, rfl⟩
  unfold settleBatch
  dsimp only
  split
  · rename_i archived answer
    rw [answer] at committed
    dsimp only
    rw [trail_markEach marks]
    exact committed
  · rename_i refused answer
    rw [answer] at committed
    have struck := trail_handleBulkFailureStrike config (metas.map Prod.fst) refused refused.state.queue false
    split
    · exact struck.trans committed
    · exact struck.trans committed

theorem trail_cascadeFail (store : StateStore) (failedUid : String) :
    trailOf (store.cascadeFail config failedUid).1 = trailOf store := by
  unfold StateStore.cascadeFail
  dsimp only
  split
  · rfl
  · exact trail_settleBatch config (fun _ _ _ => trail_markFailedMemory config _ _ _ true) _ _ _ store

theorem trail_applyBulkFailure (store : StateStore) (uidsMetas : List (String × Record)) :
    trailOf (store.applyBulkFailure config uidsMetas).1 = trailOf store := by
  unfold applyBulkFailure
  dsimp only
  split
  · rfl
  · apply trail_settleBatch
    exact fun _ _ _ => rfl

end Batches

section Transitions

variable {config}

theorem closes_requeueAndCrash (store : StateStore) (jobUid : String) (snapshot : Option Record) (reason : String)
    (attemptId : Option Int) :
    Closes attemptId (trailOf store) (trailOf (store.requeueAndCrash jobUid snapshot reason attemptId).1) := by
  unfold requeueAndCrash
  cases snapshot with
  | none => exact closes_finishAttempt (store.mapState _) attemptId _ (by decide)
  | some row => exact closes_finishAttempt ((store.mapState _).mapState _) attemptId _ (by decide)

theorem closes_handleCommitFailureStrike (store : StateStore) (jobUid reason : String) (snapshot : Option Record)
    (attemptId : Option Int) : Closes attemptId (trailOf store)
      (trailOf (store.handleCommitFailureStrike config jobUid reason snapshot attemptId).1) := by
  unfold handleCommitFailureStrike
  dsimp only
  set row := registerCommitFailure (snapshot.getD (syntheticSnapshot jobUid)) with given
  set metadata := strikeMetadata (commitFailures (snapshot.getD (syntheticSnapshot jobUid)) + 1) with struck
  have committed := trail_commitFailure store (.failed [jobUid]) jobUid metadata (extractJobPayload row)
  split
  · split
    · rename_i archived answer
      rw [answer] at committed
      dsimp only
      rw [trail_fireAttemptFinished, ← committed, ← trail_markFailedMemory config archived jobUid metadata true]
      exact closes_finishAttempt ((archived.markFailedMemory config jobUid metadata true).recordStat .failed 1)
        attemptId _ (by decide)
    · rename_i refused answer
      rw [answer] at committed
      rw [← committed]
      exact closes_requeueAndCrash refused jobUid _ reason attemptId
  · exact closes_requeueAndCrash store jobUid _ reason attemptId

theorem closes_applyFailure (store : StateStore) (jobUid : String) (metadata snapshot : Record) (countAs : StatKey)
    (attemptId : Option Int) : Closes attemptId (trailOf store)
      (trailOf (store.applyFailure config jobUid metadata snapshot countAs attemptId).1) := by
  have committed := trail_commitFailure store (.failed [jobUid]) jobUid (store.normalize config metadata)
    (extractJobPayload snapshot)
  unfold applyFailure
  dsimp only
  split
  · rename_i archived answer
    rw [answer] at committed
    set marked := ((archived.markFailedMemory config jobUid (store.normalize config metadata) true).recordStat
      countAs 1) with counted
    have same : trailOf marked = trailOf store :=
      (trail_markFailedMemory config archived jobUid (store.normalize config metadata) true).trans committed
    have closed := closes_finishAttempt marked attemptId (attemptError (store.normalize config metadata))
      (by decide : Outcome.failed ≠ .succeeded)
    have cascaded := trail_cascadeFail config
      (marked.finishAttempt attemptId .failed (attemptError (store.normalize config metadata))) jobUid
    rw [same, ← cascaded] at closed
    split
    · rename_i raised signal ended
      rw [ended] at closed
      exact closed
    · rename_i done uids ended
      rw [ended] at closed
      exact closed
  · rename_i refused answer
    rw [answer] at committed
    rw [← committed]
    exact closes_handleCommitFailureStrike refused jobUid _ (some snapshot) attemptId

theorem closes_applyRetry (store : StateStore) (jobUid : String) (snapshot retrySnapshot : Record)
    (transientKind : Option String) (attemptId : Option Int) (errorMessage : Option Json) :
    Closes attemptId (trailOf store)
      (trailOf (store.applyRetry config jobUid snapshot retrySnapshot transientKind attemptId errorMessage).1) := by
  have committed := trail_commit store (.retried jobUid)
    (leaves_commitRetry jobUid retrySnapshot (config.planRequeue retrySnapshot transientKind))
  unfold applyRetry
  dsimp only
  split
  · rename_i retried answer
    rw [answer] at committed
    rw [← committed]
    cases transientKind.bind transientKindStatKey with
    | none =>
      exact closes_finishAttempt (((retried.mapState _).mapState _).recordStat .retried 1) attemptId errorMessage
        (by decide)
    | some key =>
      exact closes_finishAttempt ((((retried.mapState _).mapState _).recordStat .retried 1).recordStat key 1)
        attemptId errorMessage (by decide)
  · rename_i refused answer
    rw [answer] at committed
    rw [← committed]
    exact closes_handleCommitFailureStrike refused jobUid _ (some snapshot) attemptId

theorem closes_applySkip (store : StateStore) (jobUid : String) (snapshot : Option Record) (attemptId : Option Int) :
    Closes attemptId (trailOf store) (trailOf (store.applySkip jobUid snapshot attemptId).1) := by
  have committed : trailOf (store.commit (.skipped jobUid) fun backend => backend.commitSkip jobUid).1 =
      trailOf store := trail_commit store _ fun _ => ⟨rfl, rfl⟩
  unfold applySkip
  split
  · rename_i skipped answer
    rw [answer] at committed
    rw [← committed]
    exact closes_finishAttempt (((skipped.mapState _).mapState _).recordStat .skipped 1) attemptId none (by decide)
  · rename_i refused answer
    rw [answer] at committed
    rw [← committed]
    exact closes_requeueAndCrash refused jobUid snapshot _ attemptId

theorem closes_requeueTransient (store : StateStore) (snapshot : Record) (transientKind : String)
    (attemptId : Option Int) (errorMessage : Option Json) : Closes attemptId (trailOf store)
      (trailOf (store.requeueTransient config snapshot transientKind attemptId errorMessage)) := by
  unfold requeueTransient
  cases transientKindStatKey transientKind with
  | none => exact closes_finishAttempt (store.mapState _) attemptId errorMessage (by decide)
  | some key => exact closes_finishAttempt ((store.mapState _).recordStat key 1) attemptId errorMessage (by decide)

/-- An accepted success has closed the row it was handed. -/
theorem commitJobSuccess_closed {backend : Memory} {success : Memory.Success}
    (accepted : (backend.commitJobSuccess success).2 = true) : ∃ id row ending, success.attemptId = some id ∧
      backend.attempts.get? id = some row ∧ IsRunning row ∧ ending.outcome = .succeeded ∧
        (backend.commitJobSuccess success).1.attempts = backend.attempts.set id (row.finish ending) ∧
        (backend.commitJobSuccess success).1.attemptSeq = backend.attemptSeq := by
  unfold Memory.commitJobSuccess at accepted ⊢
  split at accepted
  · rename_i id row ending open_ final
    split at accepted
    · cases accepted
    · rename_i clear
      obtain ⟨own, found, running⟩ : success.attemptId = some id ∧ backend.attempts.get? id = some row ∧
          IsRunning row := by
        unfold Memory.runningAttempt at open_
        grind [IsRunning]
      refine ⟨id, row, ending, own, found, running, outcome_of_validateAttemptFinish final, ?_⟩
      rw [if_neg clear]
      exact ⟨rfl, rfl⟩
  · cases accepted

theorem ends_applySuccess (store : StateStore) (request : SuccessRequest) :
    Ends request.attemptId (trailOf store) (trailOf (store.applySuccess config request).1) := by
  unfold applySuccess
  dsimp only
  set success : Memory.Success := ⟨request.jobUid, store.successMetadata request.jobUid request.resultMetadata
    request.artifacts request.inputs request.runId, request.attemptId, request.executionId, some store.now.val,
    request.spawned, request.cursorUpdates⟩ with asked
  rcases commit_eq store (.succeeded request.jobUid (request.spawned.map jobUidFromSnapshot)) fun backend =>
      backend.commitJobSuccess success with refused | ⟨taken, accepted⟩
  · rw [refused]
    dsimp only
    apply Ends.refused
    set call := TraceCall.success request.attemptId (request.attemptId.bind store.backend.attempts.get?) false
      with handed
    have noted : trailOf ((Cascade.arrived store).noteCall call) = (trailOf store).note call := by
      rw [← trail_arrived store]
      rfl
    have closes := @closes_handleCommitFailureStrike _ config ((Cascade.arrived store).noteCall call) request.jobUid
      "commit_job_success" (some request.snapshot) request.attemptId
    rw [noted] at closes
    exact closes
  · obtain ⟨id, row, ending, own, found, running, final, attempts, seq⟩ := commitJobSuccess_closed taken
    have same : (Cascade.arrived store).backend.attempts = store.backend.attempts :=
      congrArg Trail.attempts (trail_arrived store)
    rw [same] at found
    rw [accepted]
    dsimp only
    have ended := @Ends.succeeded request.attemptId (trailOf store) id row ending own found running final
    have calls : (Cascade.arrived store).traced = store.traced := congrArg Trail.calls (trail_arrived store)
    have next : (Cascade.arrived store).backend.attemptSeq = store.backend.attemptSeq :=
      congrArg Trail.seq (trail_arrived store)
    have bound : request.attemptId.bind store.backend.attempts.get? = some row := by
      have handed : request.attemptId = some id := own
      rw [handed, Option.bind_some, found]
    have reached : trailOf (({ Cascade.arrived store with
        backend := ((Cascade.arrived store).backend.commitJobSuccess success).1
        events := (Cascade.arrived store).events ++
          [.succeeded request.jobUid (request.spawned.map jobUidFromSnapshot)] } : StateStore).noteCall
        (.success request.attemptId (request.attemptId.bind store.backend.attempts.get?) true)) =
        ({ trailOf store with attempts := (trailOf store).attempts.set id (row.finish ending) } : Trail).note
          (.success (some id) (some row) true) := by
      have handed : request.attemptId = some id := own
      unfold trailOf noteCall Trail.note
      dsimp only
      rw [attempts, seq, same, next, calls, bound, handed]
    rw [← reached] at ended
    split
    · exact ended
    · exact ended

end Transitions

section Completion

variable {config} {runtime : Runtime} {entry : InFlightJob}

theorem ends_commitResult (runtime : Runtime) (entry : InFlightJob) (result : ExecutionResult)
    (surroundings : Surroundings) : Ends entry.attemptId (trailOf runtime.store)
      (trailOf (Runtime.commitResult config runtime entry result surroundings).1) := by
  unfold Runtime.commitResult
  split
  · unfold Runtime.applyRetry
    dsimp only
    split
    · have failed := @closes_applyFailure _ config runtime.store entry.jobUid
        (Runtime.maxRetriesMetadata entry.snapshot result.retryError) entry.snapshot .failed entry.attemptId
      split <;> (rename_i ended; rw [ended] at failed; exact .closed failed)
    · have retried := @closes_applyRetry _ config runtime.store entry.jobUid entry.snapshot
        (Runtime.buildRetryJobSnapshot entry.job entry.snapshot result.retryError result.transientKind.isSome)
        result.transientKind entry.attemptId result.retryError
      split <;> (rename_i ended; rw [ended] at retried; exact .closed retried)
  · split
    · rw [Batches.applySuccess_fst]
      exact ends_applySuccess runtime.store ⟨_, _, _, _, _, _, _, _, entry.attemptId, _⟩
    · unfold Runtime.applyFailure
      have failed := @closes_applyFailure _ config runtime.store entry.jobUid result.resultMetadata entry.snapshot
        .failed entry.attemptId
      split <;> (rename_i ended; rw [ended] at failed; exact .closed failed)

/-- The completion of an entry deals with its attempt, and the tracker is left to the caller. -/
def Completes (runtime : Runtime) (entry : InFlightJob) (after : Runtime) : Prop :=
  Ends entry.attemptId (trailOf runtime.store) (trailOf after.store) ∧ after.tracker = runtime.tracker

theorem completes_applyResult (runtime : Runtime) (entry : InFlightJob) (result : ExecutionResult)
    (surroundings : Surroundings) :
    Completes runtime entry (Runtime.applyResult config runtime entry result surroundings).1 := by
  unfold Runtime.applyResult
  split
  · exact ⟨.silent, rfl⟩
  · dsimp only
    split
    · exact ⟨.silent, rfl⟩
    · exact ⟨ends_commitResult _ entry _ surroundings, rfl⟩

theorem completes_completeJob (runtime : Runtime) (entry : InFlightJob) (result : ExecutionResult)
    (surroundings : Surroundings) :
    Completes runtime entry (Runtime.completeJob config runtime entry result surroundings).1 := by
  have applied := @completes_applyResult _ config runtime entry result surroundings
  unfold Runtime.completeJob
  dsimp only
  split
  · rename_i after message ended
    rw [ended] at applied
    exact applied
  · rename_i after signal terminated ended
    rw [ended] at applied
    exact applied
  · rename_i after willRetry ended
    rw [ended] at applied
    have fired : Completes runtime entry ((after.releaseResources entry).mapStore fun store =>
        store.fireAttemptFinished entry.jobUid ⟨(Runtime.checkedResult result surroundings).success, willRetry,
          (Runtime.checkedResult result surroundings).resultMetadata⟩) := by
      refine ⟨?_, applied.2⟩
      show Ends _ _ (trailOf (StateStore.fireAttemptFinished _ _ _))
      rw [trail_fireAttemptFinished]
      exact applied.1
    split
    · exact fired
    · exact fired

theorem trail_requeueUncommitted (runtime : Runtime) (entry : InFlightJob) :
    trailOf (runtime.requeueUncommitted entry).store = trailOf runtime.store := by
  unfold Runtime.requeueUncommitted Runtime.mapStore
  dsimp only
  split <;> rfl

theorem trail_settle (runtime : Runtime) (jobUid : String) :
    trailOf (runtime.settle jobUid).store = trailOf runtime.store := by
  unfold Runtime.settle Runtime.mapStore
  dsimp only
  split <;> rfl

/-- An entry that is completed or cancelled leaves the tracker, and its attempt is dealt with. -/
def Settles (runtime : Runtime) (entry : InFlightJob) (after : Runtime) : Prop :=
  Ends entry.attemptId (trailOf runtime.store) (trailOf after.store) ∧
    after.tracker = runtime.tracker.erase entry.jobUid

theorem settles_completeAndSettle (runtime : Runtime) (entry : InFlightJob) (result : ExecutionResult)
    (surroundings : Surroundings) :
    Settles runtime entry (Runtime.completeAndSettle config runtime entry result surroundings).1 := by
  obtain ⟨ends, tracker⟩ := @completes_completeJob _ config runtime entry result surroundings
  unfold Runtime.completeAndSettle
  dsimp only
  refine ⟨?_, congrArg (Dict.erase · entry.jobUid) tracker⟩
  rw [trail_settle, trail_requeueUncommitted]
  exact ends

theorem settles_cancelAndSettle (runtime : Runtime) (entry : InFlightJob) (cleanupFault : Option String) :
    Settles runtime entry (Runtime.cancelAndSettle runtime entry cleanupFault).1 := by
  unfold Runtime.cancelAndSettle
  refine ⟨?_, rfl⟩
  rw [trail_settle, trail_requeueUncommitted]
  exact .silent

end Completion

section Dispatching

open EngineRuntime

variable {config} {engine : EngineRuntime}

omit [Python] in
theorem opens_recordAttemptDispatch (store : StateStore) (job : Job) (executionId : Text) (runId : Option String) :
    Opens (trailOf store) (trailOf (store.recordAttemptDispatch job executionId runId).1)
      ((store.recordAttemptDispatch job executionId runId).2.map fun id => (id : Int)) := by
  unfold recordAttemptDispatch
  split
  · exact .missing
  · rename_i run
    split
    · exact .missing
    · rename_i given
      have valid : validateAttemptDispatch (store.dispatchRecord job executionId ⟨run, given⟩) = true := by
        simp [validateAttemptDispatch, dispatchRecord]
      unfold Memory.appendAttempt
      rw [if_pos valid]
      exact .opened rfl

omit [Python] in
/-- A skip of the selection opens a row and closes it at once. -/
theorem recordAttemptSkip_traced (store : StateStore) (job : Job) (errorMessage : String) (runId : Option String)
    (dispatchNo : ℕ) : ∃ between attemptId, Opens (trailOf store) between attemptId ∧
      Closes attemptId between (trailOf (store.recordAttemptSkip job errorMessage runId dispatchNo)) := by
  unfold recordAttemptSkip
  split
  · exact ⟨_, none, .missing, rfl⟩
  · rename_i run
    split
    · exact ⟨_, none, .missing, rfl⟩
    · rename_i given
      set record := store.dispatchRecord job ⟨run ++ ".skip." ++ toString dispatchNo,
        skip_execution_ne_empty run dispatchNo⟩ ⟨run, given⟩ with opened
      have valid : validateAttemptDispatch record = true := by simp [validateAttemptDispatch, opened, dispatchRecord]
      have running : IsRunning record := rfl
      have appended : store.backend.appendAttempt record = ({ store.backend with
          attempts := store.backend.attempts.set store.backend.attemptSeq record
          attemptSeq := store.backend.attemptSeq + 1 }, some store.backend.attemptSeq) := if_pos valid
      dsimp only
      rw [appended]
      refine ⟨_, _, .opened running, ?_⟩
      exact finishes_finishAttempt { store with backend := { store.backend with
        attempts := store.backend.attempts.set store.backend.attemptSeq record
        attemptSeq := store.backend.attemptSeq + 1 } } store.backend.attemptSeq (some (.str errorMessage)) (by decide)

/-- What a dispatch does to the log and the tracker: it opens at most one row, which is dealt with before the
dispatch ends or belongs to the entry that is registered. -/
inductive Dispatched (engine after : EngineRuntime) : Prop where
  | settled {between : Trail} {attemptId : Option Int}
      (opens : Opens (trailOf engine.runtime.store) between attemptId)
      (ends : Ends attemptId between (trailOf after.runtime.store))
      (fewer : ∀ uid entry, after.runtime.tracker.get? uid = some entry →
        engine.runtime.tracker.get? uid = some entry)
  | tracked {entry : InFlightJob}
      (opens : Opens (trailOf engine.runtime.store) (trailOf after.runtime.store) entry.attemptId)
      (tracker : after.runtime.tracker = engine.runtime.tracker.set entry.jobUid entry)

/-- What happens behind the opening of a trace: its row is dealt with, or it belongs to the entry that is
registered. -/
inductive Handles (attemptId : Option Int) (engine after : EngineRuntime) : Prop where
  | settled (ends : Ends attemptId (trailOf engine.runtime.store) (trailOf after.runtime.store))
      (fewer : ∀ uid entry, after.runtime.tracker.get? uid = some entry →
        engine.runtime.tracker.get? uid = some entry)
  | tracked {entry : InFlightJob} (own : entry.attemptId = attemptId)
      (same : trailOf after.runtime.store = trailOf engine.runtime.store)
      (tracker : after.runtime.tracker = engine.runtime.tracker.set entry.jobUid entry)

/-- Neither the log nor the tracker has changed. -/
structure Idle (engine after : EngineRuntime) : Prop where
  trail : trailOf after.runtime.store = trailOf engine.runtime.store
  tracker : after.runtime.tracker = engine.runtime.tracker

variable {between after : EngineRuntime}

omit [Python] in
theorem Idle.handles (idle : Idle engine between) (handles : Handles attemptId between after) :
    Handles attemptId engine after := by
  cases handles with
  | settled ends fewer =>
    rw [idle.trail] at ends
    rw [idle.tracker] at fewer
    exact .settled ends fewer
  | tracked own same tracker =>
    rw [idle.tracker] at tracker
    exact .tracked own (same.trans idle.trail) tracker

omit [Python] in
theorem Handles.idle (handles : Handles attemptId engine between) (idle : Idle between after) :
    Handles attemptId engine after := by
  cases handles with
  | settled ends fewer =>
    rw [← idle.trail] at ends
    rw [← idle.tracker] at fewer
    exact .settled ends fewer
  | tracked own same tracker => exact .tracked own (idle.trail.trans same) (idle.tracker.trans tracker)

omit [Python] in
theorem handles_refl (attemptId : Option Int) (engine : EngineRuntime) : Handles attemptId engine engine :=
  .settled .silent fun _ _ tracked => tracked

theorem closes_rejectAndCommit (store : StateStore) (jobUid : String) (snapshot metadata : Record)
    (countAs : StatKey) (attemptId : Option Int) : Closes attemptId (trailOf store)
      (trailOf (store.rejectAndCommit config jobUid snapshot metadata countAs attemptId).1) := by
  have failed := @closes_applyFailure _ config store jobUid metadata snapshot countAs attemptId
  unfold StateStore.rejectAndCommit
  split
  · rename_i done archived ended
    rw [ended] at failed
    dsimp only
    rw [trail_fireAttemptFinished]
    exact failed
  · rename_i struck message ended
    rw [ended] at failed
    exact failed
  · rename_i raised signal terminated ended
    rw [ended] at failed
    exact failed

theorem handles_rejectAndCommit (engine : EngineRuntime) (jobUid : String) (snapshot metadata : Record)
    (countAs : StatKey) (attemptId : Option Int) :
    Handles attemptId engine (engine.rejectAndCommit config jobUid snapshot metadata countAs attemptId).1 :=
  .settled (.closed (closes_rejectAndCommit engine.runtime.store jobUid snapshot metadata countAs attemptId))
    fun _ _ tracked => tracked

theorem idle_requeueFront (engine : EngineRuntime) (snapshot : Record) : Idle engine (engine.requeueFront snapshot) :=
  ⟨rfl, rfl⟩

/-- The block of the lease. What is left to the exceptions behind it finds the log and the tracker unchanged. -/
theorem spawnEntry_traced (engine : EngineRuntime) (row : Record) (job : Job) (attemptId : Option Int)
    (execution : Text) (launching : Launching) :
    let outcome := engine.spawnEntry config row job attemptId execution launching
    Handles attemptId engine outcome.1 ∧ ∀ fault, outcome.2 = .error fault →
      (∃ signal, fault = .crash signal) ∨ fault = .interrupted ∨ Idle engine outcome.1 := by
  have idle : ∀ resources, Idle engine (engine.withResources resources) := fun _ => ⟨rfl, rfl⟩
  have calm : ∀ resources, Handles attemptId engine (engine.withResources resources) := fun resources =>
    (handles_refl attemptId engine).idle (idle resources)
  unfold EngineRuntime.spawnEntry
  dsimp only
  split
  · exact ⟨calm _, fun _ _ => Or.inr (Or.inr (idle _))⟩
  · rename_i resources lease reserved
    split
    · rename_i error errors invalid
      have rejected := @handles_rejectAndCommit _ config (engine.withResources (resources.releaseLease lease)) job.uid
        row (payloadMetadata (error :: errors)) .failed attemptId
      have whole := (idle (resources.releaseLease lease)).handles rejected
      split
      · rename_i after ended
        rw [ended] at whole
        exact ⟨whole, by simp⟩
      · rename_i after signal ended
        rw [ended] at whole
        refine ⟨whole, ?_⟩
        rintro fault ⟨⟩
        exact Or.inl ⟨signal, rfl⟩
    · split
      · exact ⟨calm _, fun _ _ => Or.inr (Or.inr (idle _))⟩
      · exact ⟨calm _, fun _ _ => Or.inr (Or.inr (idle _))⟩
      · exact ⟨calm _, fun _ _ => Or.inr (Or.inr (idle _))⟩
      · exact ⟨calm _, fun _ _ => Or.inr (Or.inr (idle _))⟩
      · refine ⟨.tracked rfl rfl rfl, ?_⟩
        rintro fault ⟨⟩
        exact Or.inr (Or.inl rfl)
      · split
        · exact ⟨calm _, fun _ _ => Or.inr (Or.inr (idle _))⟩
        · exact ⟨.tracked rfl rfl rfl, by simp⟩

theorem handles_handleDispatchFailure (engine : EngineRuntime) (row : Record) (job : Job) (attemptId : Option Int)
    (message : String) :
    Handles attemptId engine (engine.handleDispatchFailure config row job attemptId message).1 := by
  set settled : EngineRuntime := { engine with runtime := engine.runtime.settle job.uid } with left
  have trail : trailOf settled.runtime.store = trailOf engine.runtime.store := trail_settle engine.runtime job.uid
  have fewer : ∀ uid entry, settled.runtime.tracker.get? uid = some entry →
      engine.runtime.tracker.get? uid = some entry := by
    intro uid entry tracked
    have erased : (engine.runtime.tracker.erase job.uid).get? uid = some entry := tracked
    rw [Dict.get?_erase] at erased
    split at erased
    · cases erased
    · exact erased
  unfold EngineRuntime.handleDispatchFailure
  dsimp only
  split
  · refine .settled (.closed ?_) fewer
    rw [← trail]
    exact closes_rejectAndCommit settled.runtime.store job.uid _ _ _ attemptId
  · refine .settled (.closed ?_) fewer
    rw [← trail]
    exact closes_finishAttempt (settled.requeueFront (Lifecycle.recordDispatchFailure row)).runtime.store attemptId
      (some (.str ("dispatch failure: " ++ message))) (by decide)

/-- What leaves the block is dealt with. -/
theorem handles_handleFault {fault : Fault} (handles : Handles attemptId engine between)
    (calm : (∃ signal, fault = .crash signal) ∨ fault = .interrupted ∨ Idle engine between) (row : Record) (job : Job) :
    Handles attemptId engine (between.handleFault config row job attemptId fault).1 := by
  cases fault with
  | crash signal => exact handles
  | asserted message => exact handles
  | interrupted =>
    simp only [EngineRuntime.handleFault]
    split
    · exact handles
    · exact handles.idle (idle_requeueFront between row)
  | rateLimited message =>
    have idle : Idle engine between := by simpa using calm
    apply idle.handles
    exact .settled (.closed (closes_requeueTransient between.runtime.store row "rate_limited" attemptId _))
      fun _ _ tracked => tracked
  | failed message =>
    have idle : Idle engine between := by simpa using calm
    exact idle.handles (handles_handleDispatchFailure between row job attemptId message)

theorem handles_dispatchOpened (engine : EngineRuntime) (row : Record) (job : Job) (attemptId : Option Int)
    (execution : Text) (launching : Launching) :
    Handles attemptId engine (engine.dispatchOpened config row job attemptId execution launching).1 := by
  unfold EngineRuntime.dispatchOpened
  split
  · exact handles_rejectAndCommit engine job.uid row _ _ attemptId
  · split
    · exact .settled (.closed (closes_requeueTransient engine.runtime.store row "lock_conflict" attemptId _))
        fun _ _ tracked => tracked
    · dsimp only
      set drained := engine.withResources
        (engine.runtime.resources.applySuspendSignals launching.drained launching.signals) with awake
      have idle : Idle engine drained := ⟨rfl, rfl⟩
      split
      · exact (handles_refl attemptId engine).idle idle
      · obtain ⟨handles, calm⟩ := @spawnEntry_traced _ config drained row job attemptId execution launching
        split
        · rename_i after ended
          rw [ended] at handles
          exact idle.handles handles
        · rename_i after fault ended
          rw [ended] at handles calm
          exact idle.handles (handles_handleFault handles (calm fault rfl) row job)

omit [Python] in
/-- A trace is opened, and the rest of the dispatch deals with it. -/
theorem Dispatched.of_handles {attemptId : Option Int}
    (opens : Opens (trailOf engine.runtime.store) (trailOf between.runtime.store) attemptId)
    (tracker : between.runtime.tracker = engine.runtime.tracker) (handles : Handles attemptId between after) :
    Dispatched engine after := by
  cases handles with
  | settled ends fewer =>
    rw [tracker] at fewer
    exact .settled opens ends fewer
  | @tracked entry own same registered =>
    rw [tracker] at registered
    rw [← own, ← same] at opens
    exact .tracked opens registered

omit [Python] in
theorem openAttempt_traced (engine : EngineRuntime) (job : Job) (openFault : Option String) :
    let outcome := engine.openAttempt job openFault
    Opens (trailOf engine.runtime.store) (trailOf outcome.1.runtime.store) (openedId outcome.2) ∧
      outcome.1.runtime.tracker = engine.runtime.tracker := by
  unfold openAttempt
  cases openFault with
  | some message => exact ⟨.missing, rfl⟩
  | none => exact ⟨opens_recordAttemptDispatch engine.runtime.store job _ engine.runtime.runId, rfl⟩

theorem dispatched_dispatchAdmitted (engine : EngineRuntime) (row : Record) (job : Job) (launching : Launching) :
    Dispatched engine (engine.dispatchAdmitted config row job launching).1 := by
  obtain ⟨opens, tracker⟩ := openAttempt_traced engine job launching.openFault
  unfold dispatchAdmitted
  split
  · rename_i opened message ended
    rw [ended] at opens tracker
    exact .of_handles opens tracker ((handles_refl _ opened).idle (idle_requeueFront opened row))
  · rename_i opened attemptId execution ended
    rw [ended] at opens tracker
    exact .of_handles opens tracker (handles_dispatchOpened opened row job attemptId execution launching)

theorem dispatched_dispatchSkip (engine : EngineRuntime) (row : Record) (job : Job) (launching : Launching) :
    Dispatched engine (engine.dispatchSkip row job launching).1 := by
  obtain ⟨opens, tracker⟩ := openAttempt_traced engine job launching.openFault
  unfold dispatchSkip
  dsimp only
  set opened := (engine.openAttempt job launching.openFault).1 with begun
  set attemptId := openedId (engine.openAttempt job launching.openFault).2 with handed
  have skipped := closes_applySkip opened.runtime.store job.uid (some row) attemptId
  split
  · rename_i store done ended
    rw [ended] at skipped
    exact .settled opens (.closed skipped) fun _ _ tracked => tracker ▸ tracked
  · rename_i store signal ended
    rw [ended] at skipped
    exact .settled opens (.closed skipped) fun _ _ tracked => tracker ▸ tracked

omit [Python] in
theorem dispatched_refl (engine : EngineRuntime) : Dispatched engine engine :=
  .settled .missing .silent fun _ _ tracked => tracked

omit [Python] in
/-- Changes of the memory alone come before. -/
theorem Dispatched.after_idle (idle : Idle engine between) (dispatched : Dispatched between after) :
    Dispatched engine after := by
  cases dispatched with
  | settled opens ends fewer =>
    rw [idle.trail] at opens
    rw [idle.tracker] at fewer
    exact .settled opens ends fewer
  | tracked opens tracker =>
    rw [idle.trail] at opens
    rw [idle.tracker] at tracker
    exact .tracked opens tracker

theorem dispatched_dispatchDepFailed (engine : EngineRuntime) (idx : ℕ) (pendingDepFailure : Option String)
    (launching : Launching) :
    Dispatched engine (engine.dispatchDepFailed config idx pendingDepFailure launching).1 := by
  unfold dispatchDepFailed
  split
  · exact dispatched_refl engine
  · rename_i row state taken
    dsimp only
    set popped := engine.mapStore fun store => { store with state := state } with removed
    have idle : Idle engine popped := ⟨rfl, rfl⟩
    apply Dispatched.after_idle idle
    split
    · exact dispatched_refl popped
    · rename_i job parsed
      obtain ⟨opens, tracker⟩ := openAttempt_traced popped job launching.openFault
      split
      · exact .of_handles opens tracker (handles_refl _ _)
      · rename_i failedUid
        exact .of_handles opens tracker (handles_rejectAndCommit _ job.uid row _ _ _)

theorem dispatched_dispatchRunnable (engine : EngineRuntime) (idx : ℕ) (launching : Launching) :
    Dispatched engine (engine.dispatchRunnable config idx launching).1 := by
  unfold dispatchRunnable
  split
  · exact dispatched_refl engine
  · rename_i taskType named
    dsimp only
    set prepared := engine.fillIn config idx taskType with filled
    have idle : Idle engine prepared := ⟨rfl, rfl⟩
    apply Dispatched.after_idle idle
    split
    · exact dispatched_refl prepared
    · rename_i row state taken
      set popped := prepared.mapStore fun store => { store with state := state } with removed
      have gone : Idle prepared popped := ⟨rfl, rfl⟩
      split
      · exact dispatched_refl prepared
      · rename_i job parsed
        split
        · split
          · exact dispatched_refl prepared
          · exact .after_idle gone (dispatched_dispatchSkip popped row job launching)
          · exact .after_idle gone (dispatched_dispatchAdmitted popped _ _ launching)
        · exact .after_idle gone (dispatched_dispatchAdmitted popped row job launching)

theorem dispatched_dispatchJob (engine : EngineRuntime) (sched : ScheduleResult) (launching : Launching) :
    Dispatched engine (engine.dispatchJob config sched launching).1 := by
  unfold dispatchJob
  split
  · exact dispatched_refl engine
  · rename_i idx chosen
    split
    · exact dispatched_dispatchDepFailed engine idx sched.pendingDepFailure launching
    · exact dispatched_dispatchRunnable engine idx launching

end Dispatching

section Machine

open EngineRuntime

/-- The log has been added to: the rows there were are as they were. -/
structure Adds (origin : Dict Int AttemptRecord) (trail after : Trail) : Prop where
  sound : Sound origin after
  grows : Extends trail after
  others : ∀ id ∈ trail.attempts.keys, after.attempts.get? id = trail.attempts.get? id

omit [Python] in
theorem adds_refl {origin : Dict Int AttemptRecord} {trail : Trail} (sound : Sound origin trail) :
    Adds origin trail trail :=
  ⟨sound, grows_refl _, fun _ _ => rfl⟩

omit [Python] in
theorem Adds.trans {origin : Dict Int AttemptRecord} {trail between after : Trail} (first : Adds origin trail between)
    (second : Adds origin between after) : Adds origin trail after where
  sound := second.sound
  grows := first.grows.trans second.grows
  others := by
    intro id member
    have still : id ∈ between.attempts.keys := first.grows.keys.subset member
    rw [second.others id still, first.others id member]

omit [Python] in
/-- A row that is opened and dealt with at once. -/
theorem adds_ends {origin : Dict Int AttemptRecord} {trail between after : Trail} {attemptId : Option Int}
    (sound : Sound origin trail) (opens : Opens trail between attemptId) (ends : Ends attemptId between after) :
    Adds origin trail after := by
  obtain ⟨begun, fresh⟩ := passes_opens sound opens
  have finished := passes_ends begun.sound (fun id own => (fresh id own).1) ends
  refine ⟨finished.sound, begun.grows.trans finished.grows, ?_⟩
  intro id member
  have different : attemptId ≠ some id := fun own => (fresh id own).2 member
  rw [finished.others id different, begun.others id different]

/-- The log is sound, and each entry in flight has a running row of its own. -/
structure Guarded (origin : Dict Int AttemptRecord) (engine : EngineRuntime) : Prop where
  sound : Sound origin (trailOf engine.runtime.store)
  keyed : ∀ uid entry, engine.runtime.tracker.get? uid = some entry → entry.jobUid = uid
  opened : ∀ uid entry, engine.runtime.tracker.get? uid = some entry → ∀ id ∈ entry.attemptId,
    Open (trailOf engine.runtime.store) id
  apart : ∀ uid entry other another, engine.runtime.tracker.get? uid = some entry →
    engine.runtime.tracker.get? other = some another → ∀ id ∈ entry.attemptId, id ∈ another.attemptId → uid = other

variable {origin : Dict Int AttemptRecord} {engine after : EngineRuntime}

omit [Python] in
/-- Some entries may have left the tracker, and the rows of those that are left are as they were. -/
theorem Guarded.fewer (guarded : Guarded origin engine) (sound : Sound origin (trailOf after.runtime.store))
    (fewer : ∀ uid entry, after.runtime.tracker.get? uid = some entry → engine.runtime.tracker.get? uid = some entry)
    (kept : ∀ uid entry, after.runtime.tracker.get? uid = some entry → ∀ id ∈ entry.attemptId,
      (trailOf after.runtime.store).attempts.get? id = (trailOf engine.runtime.store).attempts.get? id) :
    Guarded origin after where
  sound := sound
  keyed := fun uid entry tracked => guarded.keyed uid entry (fewer uid entry tracked)
  opened := by
    intro uid entry tracked id own
    obtain ⟨row, found, running⟩ := guarded.opened uid entry (fewer uid entry tracked) id own
    exact ⟨row, (kept uid entry tracked id own).trans found, running⟩
  apart := by
    intro uid entry other another tracked too
    exact guarded.apart uid entry other another (fewer uid entry tracked) (fewer other another too)

omit [Python] in
theorem Guarded.adds (guarded : Guarded origin engine)
    (adds : Adds origin (trailOf engine.runtime.store) (trailOf after.runtime.store))
    (fewer : ∀ uid entry, after.runtime.tracker.get? uid = some entry → engine.runtime.tracker.get? uid = some entry) :
    Guarded origin after := by
  apply guarded.fewer adds.sound fewer
  intro uid entry tracked id own
  exact adds.others id (guarded.opened uid entry (fewer uid entry tracked) id own).mem_keys

omit [Python] in
/-- An entry that is settled has left the tracker, and the rows of the others are as they were. -/
theorem Guarded.settles {uid : String} {entry : InFlightJob} {next : Runtime} (guarded : Guarded origin engine)
    (tracked : engine.runtime.tracker.get? uid = some entry) (settles : Settles engine.runtime entry next) :
    Guarded origin { engine with runtime := next } ∧ Extends (trailOf engine.runtime.store) (trailOf next.store) := by
  obtain ⟨ends, left⟩ := settles
  have passes := passes_ends guarded.sound (guarded.opened uid entry tracked) ends
  rw [guarded.keyed uid entry tracked] at left
  have remains : ∀ other another, next.tracker.get? other = some another →
      other ≠ uid ∧ engine.runtime.tracker.get? other = some another := by
    intro other another still
    rw [left, Dict.get?_erase] at still
    split at still
    · cases still
    · rename_i different
      exact ⟨fun same => different (by simp [same]), still⟩
  refine ⟨guarded.fewer passes.sound (fun other another still => (remains other another still).2) ?_, passes.grows⟩
  intro other another still id own
  obtain ⟨different, before⟩ := remains other another still
  apply passes.others
  intro same
  exact different (guarded.apart other another uid entry before tracked id own same)

omit [Python] in
theorem Guarded.dispatched (guarded : Guarded origin engine) (dispatched : Dispatched engine after) :
    Guarded origin after ∧ Extends (trailOf engine.runtime.store) (trailOf after.runtime.store) := by
  cases dispatched with
  | settled opens ends fewer =>
    have adds := adds_ends guarded.sound opens ends
    exact ⟨guarded.adds adds fewer, adds.grows⟩
  | @tracked entry opens tracker =>
    obtain ⟨begun, fresh⟩ := passes_opens guarded.sound opens
    have looked : ∀ uid another, after.runtime.tracker.get? uid = some another →
        (uid = entry.jobUid ∧ another = entry) ∨ engine.runtime.tracker.get? uid = some another := by
      intro uid another found
      rw [tracker, Dict.get?_set] at found
      split at found
      · rename_i same
        exact Or.inl ⟨same, (Option.some.inj found).symm⟩
      · exact Or.inr found
    have old : ∀ uid another, engine.runtime.tracker.get? uid = some another → ∀ id ∈ another.attemptId,
        id ∉ entry.attemptId := by
      intro uid another found id own same
      exact (fresh id same).2 (guarded.opened uid another found id own).mem_keys
    refine ⟨⟨begun.sound, ?_, ?_, ?_⟩, begun.grows⟩
    · intro uid another found
      rcases looked uid another found with ⟨rfl, rfl⟩ | before
      · rfl
      · exact guarded.keyed uid another before
    · intro uid another found id own
      rcases looked uid another found with ⟨rfl, rfl⟩ | before
      · exact (fresh id own).1
      · obtain ⟨row, there, running⟩ := guarded.opened uid another before id own
        have same := begun.others id fun new => old uid another before id own new
        exact ⟨row, same.trans there, running⟩
    · intro uid first other second found too id own also
      rcases looked uid first found with ⟨rfl, rfl⟩ | before
      · rcases looked other second too with ⟨rfl, rfl⟩ | earlier
        · rfl
        · exact absurd own (old other second earlier id also)
      · rcases looked other second too with ⟨rfl, rfl⟩ | earlier
        · exact absurd also (old uid first before id own)
        · exact guarded.apart uid first other second before earlier id own also

/-- The step of every operation. -/
abbrev Keeps (origin : Dict Int AttemptRecord) (engine after : EngineRuntime) : Prop :=
  Guarded origin after ∧ Extends (trailOf engine.runtime.store) (trailOf after.runtime.store)

omit [Python] in
theorem Guarded.keeps (guarded : Guarded origin engine)
    (adds : Adds origin (trailOf engine.runtime.store) (trailOf after.runtime.store))
    (fewer : ∀ uid entry, after.runtime.tracker.get? uid = some entry → engine.runtime.tracker.get? uid = some entry) :
    Keeps origin engine after :=
  ⟨guarded.adds adds fewer, adds.grows⟩

omit [Python] in
/-- A change that leaves the log alone and adds nothing to the tracker. -/
theorem Guarded.keeps_same (guarded : Guarded origin engine)
    (same : trailOf after.runtime.store = trailOf engine.runtime.store)
    (fewer : ∀ uid entry, after.runtime.tracker.get? uid = some entry → engine.runtime.tracker.get? uid = some entry) :
    Keeps origin engine after := by
  apply guarded.keeps _ fewer
  rw [same]
  exact adds_refl guarded.sound

theorem trail_enqueueAll (batches : List (List Record × Bool)) (store : StateStore) :
    trailOf (batches.foldl (fun store batch => store.enqueueElsewhere batch.1 batch.2) store) = trailOf store := by
  induction batches generalizing store with
  | nil => rfl
  | cons batch rest ih => exact ih (store.enqueueElsewhere batch.1 batch.2)

theorem trail_loadAndRepair (store : StateStore) (window : Recovery.Window) :
    trailOf (Recovery.loadAndRepair store window) = trailOf store := by
  unfold Recovery.loadAndRepair
  dsimp only
  split
  · exact trail_enqueueAll window.enqueued store
  · exact trail_enqueueAll window.enqueued _

theorem trail_saveQueueCrashSafe (store : StateStore) (raises : Bool) :
    trailOf (Recovery.saveQueueCrashSafe store raises) = trailOf store := by
  cases raises <;> rfl

/-- The rows that the selection skips are opened and closed one after the other. -/
theorem adds_skipEach (rows : Dict String (Record × Job)) (seeds : List String) (runId : Option String)
    (items : List (String × ℕ × String)) (phase : SelectionMachine.Phase) (skipped : ℕ)
    (sound : Sound origin (trailOf phase.store)) : Adds origin (trailOf phase.store)
      (trailOf (SelectionMachine.skipEach rows seeds runId items phase skipped).1.store) := by
  induction items generalizing phase skipped with
  | nil => exact adds_refl sound
  | cons item rest ih =>
    obtain ⟨uid, depth, root⟩ := item
    unfold SelectionMachine.skipEach
    split
    · exact ih phase skipped sound
    · rename_i row job found
      dsimp only
      set error := if uid ∈ seeds ∧ phase.machine.selection.isSkipped job.taskType.val then errSkipped
        else errDependencySkipped ++ " (upstream: " ++ root ++ ")" with text
      have same : trailOf (phase.store.applySkip uid (some row) none).1 = trailOf phase.store :=
        closes_applySkip phase.store uid (some row) none
      split
      · rename_i store signal ended
        rw [ended] at same
        rw [same]
        exact adds_refl sound
      · rename_i store done ended
        rw [ended] at same
        obtain ⟨between, attemptId, opens, closes⟩ := recordAttemptSkip_traced store job error runId
          (phase.dispatchNo + 1)
        rw [same] at opens
        have added := adds_ends sound opens (.closed closes)
        have later := ih {
          machine := { phase.machine with skippedUids := insert uid phase.machine.skippedUids }
          store := store.recordAttemptSkip job error runId (phase.dispatchNo + 1)
          dispatchNo := phase.dispatchNo + 1 } (skipped + 1) added.sound
        exact added.trans later

theorem adds_applySkips (phase : SelectionMachine.Phase) (runId : Option String)
    (sound : Sound origin (trailOf phase.store)) :
    Adds origin (trailOf phase.store) (trailOf (SelectionMachine.applySkips phase runId).1.store) := by
  unfold SelectionMachine.applySkips
  split
  · exact adds_refl sound
  · exact adds_skipEach _ _ runId _ phase 0 sound

/-- One step of the engine, whatever the commits answer and wherever something raises. -/
theorem keeps_step (guarded : Guarded origin engine) (operation : Operation) :
    Keeps origin engine (step config engine operation) := by
  cases operation with
  | foresee now answers hookRaises => exact guarded.keeps_same rfl fun _ _ tracked => tracked
  | enqueue snapshots front => exact guarded.keeps_same rfl fun _ _ tracked => tracked
  | dispatch sched launching => exact guarded.dispatched (dispatched_dispatchJob engine sched launching)
  | complete jobUid result surroundings =>
    simp only [step]
    split
    · exact guarded.keeps_same rfl fun _ _ tracked => tracked
    · rename_i entry tracked
      exact guarded.settles tracked (settles_completeAndSettle engine.runtime entry result surroundings)
  | cancel jobUid cleanupFault =>
    simp only [step]
    split
    · exact guarded.keeps_same rfl fun _ _ tracked => tracked
    · rename_i entry tracked
      exact guarded.settles tracked (settles_cancelAndSettle engine.runtime entry cleanupFault)
  | applySkips =>
    have adds := adds_applySkips ⟨engine.machine, engine.runtime.store, engine.dispatchNo⟩ engine.runtime.runId
      guarded.sound
    exact guarded.keeps adds fun _ _ tracked => tracked
  | bulkFailure uidsMetas =>
    exact guarded.keeps_same (trail_applyBulkFailure config engine.runtime.store uidsMetas) fun _ _ tracked => tracked
  | clearInFlight =>
    exact guarded.keeps_same rfl fun uid entry tracked => by cases tracked
  | saveQueueCrashSafe raises =>
    exact guarded.keeps_same (trail_saveQueueCrashSafe engine.runtime.store raises) fun _ _ tracked => tracked
  | restart window resources machine runId =>
    exact guarded.keeps_same (trail_loadAndRepair engine.runtime.store window) fun uid entry tracked => by
      cases tracked

/-- A whole run, restarts included. -/
theorem keeps_run (guarded : Guarded origin engine) (operations : List Operation) :
    Keeps origin engine (Machine.run (step config) engine operations) := by
  induction operations generalizing engine with
  | nil => exact ⟨guarded, grows_refl _⟩
  | cons operation rest ih =>
    obtain ⟨kept, grows⟩ := @keeps_step _ config _ _ guarded operation
    obtain ⟨still, grown⟩ := ih kept
    exact ⟨still, grows.trans grown⟩

/-- An engine that has just loaded a log no call of this history has touched. -/
theorem guarded_boot {store : StateStore} (serial : Serial store.backend.attempts store.backend.attemptSeq)
    (untouched : store.traced = []) (window : Recovery.Window) (resources : ResourceManager)
    (machine : SelectionMachine) (runId : Option String) :
    Guarded store.backend.attempts (boot store window resources machine runId) where
  sound := by
    show Sound _ (trailOf (Recovery.loadAndRepair store window))
    rw [trail_loadAndRepair]
    refine ⟨serial, fun _ member => member, ?_, ?_, ?_⟩
    · simp [trailOf, untouched]
    · simp [trailOf, untouched]
    · intro id row found
      have same : store.backend.attempts.get? id = some row := found
      simp [trailOf, untouched, same]
  keyed := by
    intro uid entry tracked
    cases tracked
  opened := by
    intro uid entry tracked
    cases tracked
  apart := by
    intro uid entry other another tracked
    cases tracked

end Machine

section Loops

open EngineRuntime

/-- The loop over reaped executions completes one entry after the other. -/
theorem settleReaped_run (reaped : List (String × ExecutionResult × Surroundings)) (engine : EngineRuntime)
    (error : Option Signal) :
    { engine with runtime := (Runtime.settleReaped config reaped engine.runtime error).1 } =
      Machine.run (step config) engine (reaped.map fun item => .complete item.1 item.2.1 item.2.2) := by
  induction reaped generalizing engine error with
  | nil => rfl
  | cons item rest ih =>
    obtain ⟨jobUid, result, surroundings⟩ := item
    rw [List.map_cons, Machine.run_cons]
    unfold Runtime.settleReaped
    simp only [step]
    cases tracked : engine.runtime.tracker.get? jobUid with
    | none => exact ih engine error
    | some entry =>
      exact ih { engine with runtime := (Runtime.completeAndSettle config engine.runtime entry result surroundings).1 } _

omit [Python] in
/-- An entry that leaves the tracker is none of the others. -/
theorem tracked_tail {runtime after : Runtime} {entry : InFlightJob} {rest : List InFlightJob}
    (distinct : Batches.Distinct runtime (entry :: rest)) (left : after.tracker = runtime.tracker.erase entry.jobUid) :
    runtime.tracker.get? entry.jobUid = some entry ∧ Batches.Distinct after rest :=
  ⟨distinct.2 entry List.mem_cons_self, distinct.tail left⟩

theorem settleDone_run (ended : List (InFlightJob × ExecutionResult × Surroundings)) (engine : EngineRuntime)
    (distinct : Batches.Distinct engine.runtime (ended.map Prod.fst)) (error : Option Signal) :
    { engine with runtime := (Runtime.settleDone config ended engine.runtime error).1 } =
      Machine.run (step config) engine (ended.map fun item => .complete item.1.jobUid item.2.1 item.2.2) := by
  induction ended generalizing engine error with
  | nil => rfl
  | cons item rest ih =>
    obtain ⟨entry, result, surroundings⟩ := item
    obtain ⟨-, left⟩ := @settles_completeAndSettle _ config engine.runtime entry result surroundings
    obtain ⟨tracked, others⟩ := tracked_tail distinct left
    rw [List.map_cons, Machine.run_cons]
    simp only [step, tracked]
    exact ih { engine with runtime := (Runtime.completeAndSettle config engine.runtime entry result surroundings).1 }
      others _

/-- The entries of an abort are given up or completed one after the other. -/
theorem settleAborted_run (cancelled : List (InFlightJob × Option String))
    (ended : List (InFlightJob × ExecutionResult × Surroundings)) (engine : EngineRuntime)
    (distinct : Batches.Distinct engine.runtime (cancelled.map Prod.fst ++ ended.map Prod.fst)) :
    { engine with runtime := (Runtime.settleAborted config engine.runtime cancelled ended).1 } =
      Machine.run (step config) engine (cancelled.map (fun item => .cancel item.1.jobUid item.2) ++
        ended.map fun item => .complete item.1.jobUid item.2.1 item.2.2) := by
  unfold Runtime.settleAborted
  dsimp only
  generalize (none : Option Signal) = error
  induction cancelled generalizing engine error with
  | nil => exact settleDone_run config ended engine distinct error
  | cons item rest ih =>
    obtain ⟨entry, cleanupFault⟩ := item
    obtain ⟨-, left⟩ := settles_cancelAndSettle engine.runtime entry cleanupFault
    obtain ⟨tracked, others⟩ := tracked_tail distinct left
    rw [List.map_cons, List.cons_append, Machine.run_cons]
    simp only [step, tracked]
    exact ih { engine with runtime := (Runtime.cancelAndSettle engine.runtime entry cleanupFault).1 } others _

end Loops

section Main

open EngineRuntime

def rows (engine : EngineRuntime) : Dict Int AttemptRecord := engine.runtime.store.backend.attempts

def calls (engine : EngineRuntime) : List TraceCall := engine.runtime.store.traced

/-- The protocol of the log, between any two points of any run: the numbers rise in the order in which the rows were
appended, no row has lost its identity and a closed row stays as it is, every call was about a running row, and the
rows that succeed are those whose success was committed, beside those that had before the run. -/
theorem attempt_protocol {store : StateStore} (serial : Serial store.backend.attempts store.backend.attemptSeq)
    (untouched : store.traced = []) (window : Recovery.Window) (resources : ResourceManager)
    (machine : SelectionMachine) (runId : Option String) (earlier later : List Operation) :
    let start := boot store window resources machine runId
    let before := Machine.run (step config) start earlier
    let after := Machine.run (step config) start (earlier ++ later)
    (rows after).keys.Pairwise (· < ·) ∧ Grows identity IsRunning (rows before) (rows after) ∧
      (∀ call ∈ calls after, ∀ row ∈ rowOf call, IsRunning row) ∧
      ∀ id row, (rows after).get? id = some row → (row.outcome = .succeeded ↔
        (∃ first, store.backend.attempts.get? id = some first ∧ first.outcome = .succeeded) ∨
          ∃ found, .success (some id) found true ∈ calls after) := by
  dsimp only
  rw [Machine.run_append]
  have start := guarded_boot serial untouched window resources machine runId
  obtain ⟨between, -⟩ := keeps_run config start earlier
  obtain ⟨⟨sound, -, -, -⟩, grows⟩ := keeps_run config between later
  exact ⟨sound.serial.rising, grows, sound.running, sound.succeeded⟩

end Main

end Store

section Sample

local instance : Python := Lifecycle.samplePython

/-- The task of the sample row is registered. -/
def servingConfig : StoreConfig := { Lifecycle.sampleConfig with
  tasks := Dict.ofPairs [("t", ⟨Dict.empty, none, 3, .int 3600, false, "once"⟩)] }

/-- The only job is dispatched, succeeds, and its attempt is committed. -/
def servedOperations : List EngineRuntime.Operation :=
  [.dispatch ⟨some 0, none, {}, .runnable, some "t::a"⟩ {}, .complete "t::a" { success := true } {}]

theorem attempt_protocol_served :
    let start := EngineRuntime.boot (Mirror.loaded [Lifecycle.namedRow]) {} Lifecycle.sampleResources ⟨⟨[]⟩, ∅⟩
      (some "run")
    let before := Machine.run (EngineRuntime.step servingConfig) start (servedOperations.take 1)
    let after := Machine.run (EngineRuntime.step servingConfig) start
      (servedOperations.take 1 ++ servedOperations.drop 1)
    (rows before).entries.map (fun entry => entry.2.outcome) = [.running] ∧
      (rows after).entries.map (fun entry => entry.2.outcome) = [.succeeded] ∧
      Grows identity IsRunning (rows before) (rows after) := by
  have whole := attempt_protocol servingConfig (serial_empty 1) (by rfl : (Mirror.loaded [Lifecycle.namedRow]).traced = [])
    {} Lifecycle.sampleResources ⟨⟨[]⟩, ∅⟩ (some "run") (servedOperations.take 1) (servedOperations.drop 1)
  exact ⟨by decide +kernel, by decide +kernel, whole.2.1⟩

end Sample

end Tasklite.Engine.Tracing
