import Tasklite.Engine.Mirror
import Tasklite.Engine.Ops
import Tasklite.Engine.Tracing

/-! The baseline of the triggers that go by time: when a job last succeeded. It is put
together from the archive of the successes, which is overwritten, cleared and seeded, and
from the log of the attempts, which only grows. -/

namespace Tasklite.Engine.Baseline
open Tasklite.Library Tasklite.Library.WriteOnce Tasklite.Models Tasklite.Backend Tasklite.Utils StateStore
open Tasklite.Engine.Cascade Tasklite.Engine.Tracing

section History

/-- What an event says about the last success of a job: that it has just happened, or that it counts no more. -/
def hears (uid : String) : Event → Option Bool
  | .succeeded other _ => if uid = other then some true else none
  | .failed uids => if uid ∈ uids then some false else none
  | _ => none

/-- The latest that some events say about it. -/
def heard (uid : String) (events : List Event) : Option Bool := (events.filterMap (hears uid)).getLast?

/-- The finishing time of the last success that still counts, after some more events at one time. -/
def told (uid : String) (now : Text) (last : Option Text) (events : List Event) : Option Text :=
  match heard uid events with
  | none => last
  | some true => some now
  | some false => none

theorem heard_append (uid : String) (events later : List Event) :
    heard uid (events ++ later) = (heard uid later <|> heard uid events) := by
  unfold heard
  rw [List.filterMap_append, List.getLast?_append]
  cases (later.filterMap (hears uid)).getLast? <;> rfl

theorem heard_singleton (uid : String) (event : Event) : heard uid [event] = hears uid event := by
  unfold heard
  rw [List.filterMap_cons]
  split <;> simp_all

theorem heard_of_quiet {uid : String} {events : List Event} (quiet : ∀ event ∈ events, hears uid event = none) :
    heard uid events = none := by
  unfold heard
  rw [List.filterMap_eq_nil_iff.mpr quiet]
  rfl

end History

section Turns

/-- The rows of a job's attempts that have succeeded. -/
def wins (uid : String) (row : AttemptRecord) : Bool := row.jobUid.val = uid ∧ row.outcome = .succeeded

def won (uid : String) (attempts : Dict Int AttemptRecord) : List (Int × AttemptRecord) := picked (wins uid) attempts

theorem latest_eq (backend : Memory) (uid : String) : backend.loadLatestSucceededFinishedAt uid =
    (won uid backend.attempts).getLast?.bind fun entry => entry.2.finishedAt.map Subtype.val := by
  unfold Memory.loadLatestSucceededFinishedAt won
  rw [show (fun record : AttemptRecord => decide (record.jobUid.val = uid ∧ record.outcome = .succeeded)) = wins uid
    from rfl, find?_reverse_picked]
  cases (picked (wins uid) backend.attempts).getLast? <;> rfl

variable {uid : String} {store between after : StateStore}

/-- Nothing has happened that the last success of a job depends on. -/
structure Still (uid : String) (store after : StateStore) : Prop where
  memory : after.state.successes.get? uid = store.state.successes.get? uid
  disk : after.backend.successes.get? uid = store.backend.successes.get? uid
  archive : after.state.failed.get? uid = store.state.failed.get? uid
  failed : after.backend.failed.contains uid = store.backend.failed.contains uid
  won : won uid after.backend.attempts = won uid store.backend.attempts
  now : after.now = store.now
  news : ∃ news, after.events = store.events ++ news ∧ heard uid news = none

/-- The job has failed since. -/
structure Lost (uid : String) (store after : StateStore) : Prop where
  memory : after.state.successes.get? uid = none
  disk : after.backend.successes.get? uid = none
  failed : after.backend.failed.contains uid = true
  won : Baseline.won uid after.backend.attempts = Baseline.won uid store.backend.attempts
  now : after.now = store.now
  news : ∃ news, after.events = store.events ++ news ∧ heard uid news = some false

/-- What anything but the success of a job does about its last success. -/
inductive Turn (uid : String) (store after : StateStore) : Prop
  | still (still : Still uid store after)
  | lost (lost : Lost uid store after)

theorem still_refl (uid : String) (store : StateStore) : Still uid store store :=
  ⟨rfl, rfl, rfl, rfl, rfl, rfl, [], (List.append_nil _).symm, rfl⟩

theorem Still.trans (first : Still uid store between) (second : Still uid between after) : Still uid store after where
  memory := second.memory.trans first.memory
  disk := second.disk.trans first.disk
  archive := second.archive.trans first.archive
  failed := second.failed.trans first.failed
  won := second.won.trans first.won
  now := second.now.trans first.now
  news := by
    obtain ⟨news, early, quiet⟩ := first.news
    obtain ⟨further, late, silent⟩ := second.news
    exact ⟨news ++ further, by rw [late, early, List.append_assoc], by rw [heard_append, silent, quiet]; rfl⟩

theorem Still.lost (first : Still uid store between) (second : Lost uid between after) : Lost uid store after where
  memory := second.memory
  disk := second.disk
  failed := second.failed
  won := second.won.trans first.won
  now := second.now.trans first.now
  news := by
    obtain ⟨news, early, quiet⟩ := first.news
    obtain ⟨further, late, spoilt⟩ := second.news
    exact ⟨news ++ further, by rw [late, early, List.append_assoc], by rw [heard_append, spoilt]; rfl⟩

theorem Lost.still (first : Lost uid store between) (second : Still uid between after) : Lost uid store after where
  memory := second.memory.trans first.memory
  disk := second.disk.trans first.disk
  failed := second.failed.trans first.failed
  won := second.won.trans first.won
  now := second.now.trans first.now
  news := by
    obtain ⟨news, early, spoilt⟩ := first.news
    obtain ⟨further, late, silent⟩ := second.news
    exact ⟨news ++ further, by rw [late, early, List.append_assoc], by rw [heard_append, silent, spoilt]; rfl⟩

theorem Lost.lost (first : Lost uid store between) (second : Lost uid between after) : Lost uid store after where
  memory := second.memory
  disk := second.disk
  failed := second.failed
  won := second.won.trans first.won
  now := second.now.trans first.now
  news := by
    obtain ⟨news, early, -⟩ := first.news
    obtain ⟨further, late, spoilt⟩ := second.news
    exact ⟨news ++ further, by rw [late, early, List.append_assoc], by rw [heard_append, spoilt]; rfl⟩

theorem Turn.trans (first : Turn uid store between) (second : Turn uid between after) : Turn uid store after := by
  cases first with
  | still still => cases second with
    | still next => exact .still (still.trans next)
    | lost lost => exact .lost (still.lost lost)
  | lost lost => cases second with
    | still still => exact .lost (lost.still still)
    | lost next => exact .lost (lost.lost next)

theorem Turn.calm (turn : Turn uid store between) (still : Still uid between after) : Turn uid store after :=
  turn.trans (.still still)

theorem turn_refl (uid : String) (store : StateStore) : Turn uid store store := .still (still_refl uid store)

/-- A change of neither the archives nor the log nor the history. -/
theorem still_same (successes : after.state.successes = store.state.successes)
    (failed : after.state.failed = store.state.failed) (backend : after.backend = store.backend)
    (now : after.now = store.now) (events : after.events = store.events) : Still uid store after where
  memory := by rw [successes]
  disk := by rw [backend]
  archive := by rw [failed]
  failed := by rw [backend]
  won := by rw [backend]
  now := now
  news := ⟨[], by rw [events, List.append_nil], rfl⟩

end Turns

section Log

variable {uid : String} {trail after : Trail} {attemptId : Option Int}

theorem won_opens (serial : Serial trail.attempts trail.seq) (opens : Opens trail after attemptId) :
    won uid after.attempts = won uid trail.attempts := by
  cases opens with
  | missing => rfl
  | @opened row running =>
    apply picked_set_of_not
    · simp [wins, show row.outcome = .running from running]
    · intro other found
      exact absurd (mem_keys_of_get? found) serial.notMem

theorem won_closes (closes : Closes attemptId trail after) : won uid after.attempts = won uid trail.attempts := by
  cases attemptId with
  | none => rw [show after = trail from closes]
  | some id => cases closes with
    | @updated row ending found running other =>
      apply picked_set_of_not
      · simp [wins, AttemptRecord.finish, other]
      · intro before there
        obtain rfl : row = before := Option.some.inj (found.symm.trans there)
        simp [wins, show row.outcome = .running from running]
    | degraded => rfl

end Log

section Store

variable [Python] {config : StoreConfig} {uid : String} {store between after : StateStore}

theorem still_arrived (uid : String) (store : StateStore) : Still uid store (arrived store) := by
  obtain ⟨queue, news, same, enqueued⟩ := arrived_eq store
  rw [same]
  refine ⟨rfl, rfl, rfl, rfl, rfl, rfl, news, rfl, heard_of_quiet ?_⟩
  intro event member
  obtain ⟨uids, rfl⟩ := enqueued event member
  rfl

/-- A commit that says nothing about the job, and touches neither the archives nor the log. -/
theorem still_commit {event : Event} {transaction : Memory → Memory × Bool} (quiet : hears uid event = none)
    (leaves : ∀ backend, (transaction backend).1.successes = backend.successes ∧
      (transaction backend).1.failed = backend.failed ∧ (transaction backend).1.attempts = backend.attempts) :
    Still uid store (store.commit event transaction).1 := by
  have arrives := still_arrived uid store
  rcases commit_eq store event transaction with refused | ⟨-, accepted⟩
  · rw [refused]
    exact arrives
  · rw [accepted]
    obtain ⟨successes, failed, attempts⟩ := leaves (arrived store).backend
    refine arrives.trans ⟨rfl, by rw [successes], rfl, by rw [failed], by rw [attempts], rfl, [event], rfl, ?_⟩
    rw [heard_singleton, quiet]

omit [Python] in
theorem still_fireAttemptFinished (uid : String) (store : StateStore) (jobUid : String) (outcome : AttemptOutcome) :
    Still uid store (store.fireAttemptFinished jobUid outcome) := by
  unfold fireAttemptFinished
  dsimp only
  split
  · exact still_same rfl rfl rfl rfl rfl
  · exact still_same rfl rfl rfl rfl rfl

omit [Python] in
theorem still_finishAttempt (uid : String) (store : StateStore) (attemptId : Option Int) {outcome : Outcome}
    (errorMessage : Option Json) (other : outcome ≠ .succeeded) :
    Still uid store (store.finishAttempt attemptId outcome errorMessage) := by
  have quiet := Mirror.quiet_finishAttempt store attemptId outcome errorMessage
  have closes := closes_finishAttempt store attemptId errorMessage other
  have alike := Custody.alike_finishAttempt store attemptId outcome errorMessage
  refine ⟨by rw [quiet.successes], by rw [quiet.diskSuccesses], by rw [quiet.failed], by rw [quiet.diskFailed], ?_,
    quiet.now, [], by rw [alike.events, List.append_nil], rfl⟩
  exact won_closes closes

section Failures

/-- What registering the failure of a job in memory does. -/
structure Marks (jobUid : String) (store after : StateStore) : Prop where
  successes : after.state.successes = store.state.successes.erase jobUid
  failed : ∃ metadata, after.state.failed = store.state.failed.set jobUid metadata
  backend : after.backend = store.backend
  now : after.now = store.now
  events : after.events = store.events

theorem marks_markFailedMemory (store : StateStore) (jobUid : String) (metadata : Record) (unregister : Bool) :
    Marks jobUid store (store.markFailedMemory config jobUid metadata unregister) := by
  cases unregister with
  | false => exact ⟨rfl, ⟨_, rfl⟩, rfl, rfl, rfl⟩
  | true => exact ⟨rfl, ⟨_, rfl⟩, rfl, rfl, rfl⟩

omit [Python] in
theorem Marks.still {jobUid : String} (marks : Marks jobUid store after) (other : uid ≠ jobUid) :
    Still uid store after := by
  obtain ⟨metadata, failed⟩ := marks.failed
  refine ⟨?_, by rw [marks.backend], ?_, by rw [marks.backend], by rw [marks.backend], marks.now, [], ?_, rfl⟩
  · rw [marks.successes, Dict.get?_erase, if_neg (by simpa using other)]
  · rw [failed, Dict.get?_set_of_ne _ _ other]
  · rw [marks.events, List.append_nil]

/-- The commit of a failure, and its registration in memory. -/
theorem turn_commitJobFailure {jobUid : String} {metadata : Record} {payload : Option Record}
    (ended : store.commit (.failed [jobUid]) (fun backend => backend.commitJobFailure jobUid metadata payload) =
      (between, true)) (marks : Marks jobUid between after) : Turn uid store after := by
  have arrives := still_arrived uid store
  rcases commit_eq store (.failed [jobUid]) fun backend => backend.commitJobFailure jobUid metadata payload with
    refused | ⟨-, accepted⟩
  · rw [refused] at ended
    cases ended
  · rw [accepted] at ended
    obtain ⟨rfl, -⟩ := Prod.mk.inj ended
    by_cases own : uid = jobUid
    · subst own
      apply Turn.lost
      apply arrives.lost
      refine ⟨?_, ?_, ?_, by rw [marks.backend]; rfl, marks.now, [.failed [uid]], marks.events, ?_⟩
      · rw [marks.successes, Dict.get?_erase, if_pos (by simp)]
      · rw [marks.backend]
        exact (Dict.get?_erase _ _ _).trans (if_pos (by simp))
      · rw [marks.backend]
        unfold Dict.contains
        show ((Dict.set _ uid metadata).get? uid).isSome = true
        rw [Dict.get?_set_self]
        rfl
      · rw [heard_singleton]
        simp [hears]
    · apply Turn.still
      refine (arrives.trans ?_).trans (marks.still own)
      refine ⟨rfl, ?_, rfl, ?_, rfl, rfl, [.failed [jobUid]], rfl, ?_⟩
      · exact (Dict.get?_erase _ _ _).trans (if_neg (by simpa using own))
      · show (Dict.get? (Dict.set _ jobUid metadata) uid).isSome = _
        rw [Dict.get?_set_of_ne _ _ own]
        rfl
      · rw [heard_singleton]
        simp [hears, own]

theorem still_refused {event : Event} {transaction : Memory → Memory × Bool}
    (ended : store.commit event transaction = (after, false)) : Still uid store after := by
  rcases commit_eq store event transaction with refused | ⟨-, accepted⟩
  · rw [refused] at ended
    obtain ⟨rfl, -⟩ := Prod.mk.inj ended
    exact still_arrived uid store
  · rw [accepted] at ended
    cases ended

theorem still_requeueAndCrash (store : StateStore) (jobUid : String) (snapshot : Option Record) (reason : String)
    (attemptId : Option Int) : Still uid store (store.requeueAndCrash jobUid snapshot reason attemptId).1 := by
  unfold requeueAndCrash
  dsimp only
  refine Still.trans ?_ (still_finishAttempt uid _ attemptId (some (.str reason)) (by decide))
  cases snapshot with
  | none => exact still_same rfl rfl rfl rfl rfl
  | some row => exact still_same rfl rfl rfl rfl rfl

omit [Python] in
theorem still_recordStat (uid : String) (store : StateStore) (key : StatKey) (amount : ℕ) :
    Still uid store (store.recordStat key amount) :=
  still_same rfl rfl rfl rfl rfl

theorem turn_handleCommitFailureStrike (store : StateStore) (jobUid reason : String) (snapshot : Option Record)
    (attemptId : Option Int) :
    Turn uid store (store.handleCommitFailureStrike config jobUid reason snapshot attemptId).1 := by
  unfold handleCommitFailureStrike
  dsimp only
  set metadata := strikeMetadata (commitFailures (snapshot.getD (syntheticSnapshot jobUid)) + 1) with struck
  split
  · split
    · rename_i committed ended
      have archived : Turn uid store (committed.markFailedMemory config jobUid metadata true) :=
        turn_commitJobFailure ended (marks_markFailedMemory committed jobUid metadata true)
      have counted := archived.calm (still_recordStat uid _ .failed 1)
      have finished := counted.calm (still_finishAttempt uid _ attemptId (some (.str errCommitFailure))
        (by decide : Outcome.failed ≠ .succeeded))
      exact finished.calm (still_fireAttemptFinished uid _ jobUid _)
    · rename_i refused ended
      exact .still ((still_refused ended).trans (still_requeueAndCrash refused jobUid _ reason attemptId))
  · exact .still (still_requeueAndCrash store jobUid _ reason attemptId)

theorem turn_bulkStrikeFinalize {jobUid : String} {row : Record} {failures : Int} {answer : Bool}
    (ended : store.bulkStrikeFinalize config jobUid row failures = (after, answer)) : Turn uid store after := by
  unfold bulkStrikeFinalize at ended
  split at ended
  · rename_i refused taken
    obtain ⟨rfl, -⟩ := Prod.mk.inj ended
    exact .still (still_refused taken)
  · rename_i committed taken
    obtain ⟨rfl, -⟩ := Prod.mk.inj ended
    have archived : Turn uid store (committed.markFailedMemory config jobUid (strikeMetadata failures) false) :=
      turn_commitJobFailure taken (marks_markFailedMemory committed jobUid _ false)
    exact (archived.calm (still_recordStat uid _ .failed 1)).calm (still_fireAttemptFinished uid _ jobUid _)

theorem turn_handleBulkFailureStrike (uids : List String) (store : StateStore) (rows : List Record) (kept : Bool) :
    Turn uid store (handleBulkFailureStrike config uids store rows kept).1 := by
  induction uids generalizing store rows kept with
  | nil => exact turn_refl uid store
  | cons jobUid rest ih =>
    unfold handleBulkFailureStrike
    dsimp only
    split
    · split
      · rename_i archived ended
        exact (turn_bulkStrikeFinalize ended).trans (ih archived _ kept)
      · rename_i refused ended
        exact (turn_bulkStrikeFinalize ended).trans (ih refused _ true)
    · exact ih store _ true

omit [Python] in
/-- Registering the failures of a batch, with the calls of the hook between them. -/
theorem markEach_frame {mark : StateStore → String → Record → StateStore}
    (marks : ∀ store jobUid metadata, Marks jobUid store (mark store jobUid metadata))
    (metas : List (String × Record)) (store : StateStore) :
    (markEach mark metas store).backend = store.backend ∧ (markEach mark metas store).now = store.now ∧
      (markEach mark metas store).events = store.events := by
  induction metas generalizing store with
  | nil => exact ⟨rfl, rfl, rfl⟩
  | cons entry rest ih =>
    obtain ⟨jobUid, metadata⟩ := entry
    have marked := marks store jobUid metadata
    have fired : ∀ store : StateStore, (store.fireAttemptFinished jobUid ⟨false, false, metadata⟩).backend =
        store.backend := by
      intro store
      unfold fireAttemptFinished
      dsimp only
      split
      · rfl
      · rfl
    have quiet := Mirror.quiet_fireAttemptFinished (mark store jobUid metadata) jobUid ⟨false, false, metadata⟩
    have alike := Custody.alike_fireAttemptFinished (mark store jobUid metadata) jobUid ⟨false, false, metadata⟩
    obtain ⟨backend, now, events⟩ := ih ((mark store jobUid metadata).fireAttemptFinished jobUid ⟨false, false, metadata⟩)
    exact ⟨(backend.trans (fired _)).trans marked.backend, (now.trans quiet.now).trans marked.now,
      (events.trans alike.events).trans marked.events⟩

omit [Python] in
theorem still_markEach {mark : StateStore → String → Record → StateStore}
    (marks : ∀ store jobUid metadata, Marks jobUid store (mark store jobUid metadata))
    {metas : List (String × Record)} (others : uid ∉ metas.map Prod.fst) (store : StateStore) :
    Still uid store (markEach mark metas store) := by
  induction metas generalizing store with
  | nil => exact still_refl uid store
  | cons entry rest ih =>
    obtain ⟨jobUid, metadata⟩ := entry
    rw [List.map_cons, List.mem_cons, not_or] at others
    exact ((marks store jobUid metadata).still others.1).trans ((still_fireAttemptFinished uid _ jobUid _).trans
      (ih others.2 _))

omit [Python] in
theorem markEach_forgets {mark : StateStore → String → Record → StateStore}
    (marks : ∀ store jobUid metadata, Marks jobUid store (mark store jobUid metadata))
    {metas : List (String × Record)} (store : StateStore)
    (gone : uid ∈ metas.map Prod.fst ∨ store.state.successes.get? uid = none) :
    (markEach mark metas store).state.successes.get? uid = none := by
  induction metas generalizing store with
  | nil =>
    rcases gone with member | none
    · cases member
    · exact none
  | cons entry rest ih =>
    obtain ⟨jobUid, metadata⟩ := entry
    have marked := marks store jobUid metadata
    apply ih
    rw [(still_fireAttemptFinished uid (mark store jobUid metadata) jobUid _).memory, marked.successes, Dict.get?_erase]
    by_cases own : uid = jobUid
    · exact .inr (if_pos (by simp [own]))
    · rw [List.map_cons, List.mem_cons] at gone
      rw [if_neg (by simpa using own)]
      exact gone.imp (fun member => member.resolve_left own) id

omit [Python] in
theorem get?_retracted (metas : List (String × Record)) (successes : Dict String Record) :
    (metas.foldl (fun successes entry => successes.erase entry.1) successes).get? uid =
      if uid ∈ metas.map Prod.fst then none else successes.get? uid := by
  rw [← Dict.get?_eraseAll successes (metas.map Prod.fst) uid, List.foldl_map]

omit [Python] in
theorem contains_archived (metas : List (String × Record)) (failed : Dict String Record) :
    (metas.foldl (fun failed entry => failed.set entry.1 entry.2) failed).contains uid =
      (decide (uid ∈ metas.map Prod.fst) || failed.contains uid) := by
  induction metas generalizing failed with
  | nil => rfl
  | cons entry rest ih =>
    rw [List.foldl_cons, ih]
    unfold Dict.contains
    rw [Dict.get?_set]
    by_cases own : uid = entry.1
    · simp [own]
    · have listed : uid ∈ (entry :: rest).map Prod.fst ↔ uid ∈ rest.map Prod.fst := by
        rw [List.map_cons, List.mem_cons, or_iff_right own]
      rw [if_neg own, decide_eq_decide.mpr listed]

/-- What follows a batch of failures. -/
theorem turn_settleBatch {mark : StateStore → String → Record → StateStore}
    (marks : ∀ store jobUid metadata, Marks jobUid store (mark store jobUid metadata)) (statKey : StatKey)
    (crashMessage : ℕ → ℕ → String) (metas : List (String × Record)) (store : StateStore) :
    Turn uid store (settleBatch config mark statKey crashMessage metas store).1 := by
  unfold settleBatch
  dsimp only
  split
  · rename_i committed ended
    have arrives := still_arrived uid store
    rcases commit_eq store (.failed (metas.map Prod.fst)) fun backend => backend.commitJobFailures metas with
      refused | ⟨-, accepted⟩
    · rw [refused] at ended
      cases ended
    · rw [accepted] at ended
      obtain ⟨rfl, -⟩ := Prod.mk.inj ended
      dsimp only
      by_cases own : uid ∈ metas.map Prod.fst
      · apply Turn.lost
        apply arrives.lost
        obtain ⟨backend, now, events⟩ := markEach_frame marks metas (recordStat (mapState { arrived store with
          backend := ((arrived store).backend.commitJobFailures metas).1
          events := (arrived store).events ++ [.failed (metas.map Prod.fst)] } fun state => state.replaceQueue
            (Fresh.without jobUidFromSnapshot (metas.map Prod.fst).toFinset state.queue)) statKey metas.length)
        refine ⟨markEach_forgets marks _ (.inl own), ?_, ?_, ?_, now, [.failed (metas.map Prod.fst)], events, ?_⟩
        · rw [backend]
          exact (get?_retracted metas _).trans (if_pos own)
        · rw [backend]
          exact (contains_archived metas _).trans (by rw [decide_eq_true own, Bool.true_or])
        · rw [backend]
          rfl
        · rw [heard_singleton]
          simp only [hears, if_pos own]
      · refine Turn.still ((arrives.trans ?_).trans (still_markEach marks own _))
        refine ⟨rfl, ?_, rfl, ?_, rfl, rfl, [.failed (metas.map Prod.fst)], rfl, ?_⟩
        · exact (get?_retracted metas _).trans (if_neg own)
        · exact (contains_archived metas _).trans (by rw [decide_eq_false own, Bool.false_or])
        · rw [heard_singleton]
          simp only [hears, if_neg own]
  · rename_i refused ended
    have struck := (Turn.still (still_refused ended)).trans
      (@turn_handleBulkFailureStrike _ config uid (metas.map Prod.fst) refused refused.state.queue false)
    split
    · exact struck.calm (still_same rfl rfl rfl rfl rfl)
    · exact struck.calm (still_same rfl rfl rfl rfl rfl)

theorem turn_cascadeFail (store : StateStore) (failedUid : String) :
    Turn uid store (store.cascadeFail config failedUid).1 := by
  unfold StateStore.cascadeFail
  dsimp only
  split
  · exact turn_refl uid store
  · exact turn_settleBatch (fun store jobUid metadata => marks_markFailedMemory store jobUid metadata true) _ _ _ store

theorem turn_applyBulkFailure (store : StateStore) (uidsMetas : List (String × Record)) :
    Turn uid store (store.applyBulkFailure config uidsMetas).1 := by
  unfold applyBulkFailure
  dsimp only
  split
  · exact turn_refl uid store
  · apply turn_settleBatch
    exact fun _ _ _ => ⟨rfl, ⟨_, rfl⟩, rfl, rfl, rfl⟩

theorem turn_applyFailure (store : StateStore) (jobUid : String) (metadata snapshot : Record) (countAs : StatKey)
    (attemptId : Option Int) :
    Turn uid store (store.applyFailure config jobUid metadata snapshot countAs attemptId).1 := by
  unfold applyFailure
  dsimp only
  split
  · rename_i committed ended
    have archived : Turn uid store (committed.markFailedMemory config jobUid (store.normalize config metadata) true) :=
      turn_commitJobFailure ended (marks_markFailedMemory committed jobUid _ true)
    have finished := (archived.calm (still_recordStat uid _ countAs 1)).calm (still_finishAttempt uid _ attemptId
      (attemptError (store.normalize config metadata)) (by decide : Outcome.failed ≠ .succeeded))
    have cascaded := finished.trans (@turn_cascadeFail _ config uid _ jobUid)
    split
    · rename_i raised signal cascading
      rw [cascading] at cascaded
      exact cascaded
    · rename_i done uids cascading
      rw [cascading] at cascaded
      exact cascaded
  · rename_i refused ended
    exact (Turn.still (still_refused ended)).trans (turn_handleCommitFailureStrike refused jobUid _ _ attemptId)

end Failures

theorem turn_applyRetry (store : StateStore) (jobUid : String) (snapshot retrySnapshot : Record)
    (transientKind : Option String) (attemptId : Option Int) (errorMessage : Option Json) :
    Turn uid store
      (store.applyRetry config jobUid snapshot retrySnapshot transientKind attemptId errorMessage).1 := by
  have committed := @still_commit _ uid store (.retried jobUid) (fun backend => backend.commitRetry jobUid
    retrySnapshot (config.planRequeue retrySnapshot transientKind)) rfl (by
      intro backend
      unfold Memory.commitRetry
      dsimp only
      split
      · exact ⟨rfl, rfl, rfl⟩
      · exact ⟨rfl, rfl, rfl⟩)
  unfold StateStore.applyRetry
  dsimp only
  split
  · rename_i retried ended
    rw [ended] at committed
    refine (Turn.still committed).calm (Still.trans ?_ (still_finishAttempt uid _ attemptId errorMessage (by decide)))
    cases transientKind.bind transientKindStatKey with
    | none => exact still_same rfl rfl rfl rfl rfl
    | some key => exact still_same rfl rfl rfl rfl rfl
  · rename_i refused ended
    rw [ended] at committed
    exact (Turn.still committed).trans (turn_handleCommitFailureStrike refused jobUid _ _ attemptId)

theorem still_applySkip (store : StateStore) (jobUid : String) (snapshot : Option Record) (attemptId : Option Int) :
    Still uid store (store.applySkip jobUid snapshot attemptId).1 := by
  have committed := @still_commit _ uid store (.skipped jobUid) (fun backend => backend.commitSkip jobUid) rfl
    fun _ => ⟨rfl, rfl, rfl⟩
  unfold applySkip
  split
  · rename_i skipped ended
    rw [ended] at committed
    refine committed.trans (Still.trans ?_ (still_finishAttempt uid _ attemptId none (by decide)))
    refine Still.trans ?_ (still_recordStat uid _ .skipped 1)
    unfold mapState PipelineState.removeQueuedUid
    dsimp only
    split
    · exact still_same rfl rfl rfl rfl rfl
    · exact still_same rfl rfl rfl rfl rfl
  · rename_i refused ended
    rw [ended] at committed
    exact committed.trans (still_requeueAndCrash refused jobUid snapshot _ attemptId)

theorem still_requeueTransient (store : StateStore) (snapshot : Record) (transientKind : String)
    (attemptId : Option Int) (errorMessage : Option Json) :
    Still uid store (store.requeueTransient config snapshot transientKind attemptId errorMessage) := by
  unfold requeueTransient
  dsimp only
  refine Still.trans ?_ (still_finishAttempt uid _ attemptId errorMessage (by decide))
  split
  · exact still_same rfl rfl rfl rfl rfl
  · exact still_same rfl rfl rfl rfl rfl

theorem turn_rejectAndCommit (store : StateStore) (jobUid : String) (snapshot metadata : Record) (countAs : StatKey)
    (attemptId : Option Int) :
    Turn uid store (store.rejectAndCommit config jobUid snapshot metadata countAs attemptId).1 := by
  have failed := @turn_applyFailure _ config uid store jobUid metadata snapshot countAs attemptId
  unfold StateStore.rejectAndCommit
  split
  · rename_i done archived ended
    rw [ended] at failed
    exact failed.calm (still_fireAttemptFinished uid done jobUid _)
  · rename_i struck message ended
    rw [ended] at failed
    exact failed
  · rename_i raised signal terminated ended
    rw [ended] at failed
    exact failed

omit [Python] in
theorem still_recordAttemptDispatch (serial : Serial store.backend.attempts store.backend.attemptSeq) (job : Job)
    (executionId : Text) (runId : Option String) :
    Still uid store (store.recordAttemptDispatch job executionId runId).1 := by
  have logged := @won_opens uid _ _ _ serial (opens_recordAttemptDispatch store job executionId runId)
  have rest : ∃ attempts seq, (store.recordAttemptDispatch job executionId runId).1 =
      { store with backend := { store.backend with attempts, attemptSeq := seq } } := by
    unfold recordAttemptDispatch
    split
    · exact ⟨_, _, rfl⟩
    · split
      · exact ⟨_, _, rfl⟩
      · dsimp only
        unfold Memory.appendAttempt
        split
        · exact ⟨_, _, rfl⟩
        · exact ⟨_, _, rfl⟩
  obtain ⟨attempts, seq, same⟩ := rest
  rw [same] at logged ⊢
  exact ⟨rfl, rfl, rfl, rfl, logged, rfl, [], (List.append_nil _).symm, rfl⟩

end Store

section Dispatch

open EngineRuntime

variable [Python] {config : StoreConfig} {uid : String} {engine between after : EngineRuntime}

/-- What a step of an engine does about the last success of a job. -/
abbrev Turns (uid : String) (engine after : EngineRuntime) : Prop := Turn uid engine.runtime.store after.runtime.store

omit [Python] in
theorem still_openAttempt (uid : String) (engine : EngineRuntime)
    (serial : Serial engine.runtime.store.backend.attempts engine.runtime.store.backend.attemptSeq)
    (job : Job) (openFault : Option String) :
    Still uid engine.runtime.store (engine.openAttempt job openFault).1.runtime.store := by
  unfold openAttempt
  cases openFault with
  | some message => exact still_same rfl rfl rfl rfl rfl
  | none => exact still_recordAttemptDispatch serial job _ _

theorem turns_rejectAndCommit (engine : EngineRuntime) (jobUid : String) (snapshot metadata : Record)
    (countAs : StatKey) (attemptId : Option Int) :
    Turns uid engine (engine.rejectAndCommit config jobUid snapshot metadata countAs attemptId).1 :=
  turn_rejectAndCommit engine.runtime.store jobUid snapshot metadata countAs attemptId

theorem still_settle (runtime : Runtime) (jobUid : String) : Still uid runtime.store (runtime.settle jobUid).store := by
  unfold Runtime.settle Runtime.mapStore
  dsimp only
  split
  · exact still_same rfl rfl rfl rfl rfl
  · exact still_refl uid _

theorem turns_handleDispatchFailure (engine : EngineRuntime) (row : Record) (job : Job) (attemptId : Option Int)
    (message : String) : Turns uid engine (engine.handleDispatchFailure config row job attemptId message).1 := by
  have settled := @still_settle _ uid engine.runtime job.uid
  unfold handleDispatchFailure
  dsimp only
  split
  · exact (Turn.still settled).trans (turn_rejectAndCommit _ job.uid _ _ _ attemptId)
  · refine (Turn.still settled).calm (Still.trans ?_ (still_finishAttempt uid _ attemptId
      (some (.str ("dispatch failure: " ++ message))) (by decide : Outcome.requeued ≠ .succeeded)))
    exact still_same rfl rfl rfl rfl rfl

theorem turns_handleFault (engine : EngineRuntime) (row : Record) (job : Job) (attemptId : Option Int) (fault : Fault) :
    Turns uid engine (engine.handleFault config row job attemptId fault).1 := by
  cases fault with
  | crash signal => exact turn_refl uid _
  | asserted message => exact turn_refl uid _
  | interrupted =>
    dsimp only [handleFault]
    split
    · exact turn_refl uid _
    · exact .still (still_same rfl rfl rfl rfl rfl)
  | rateLimited message =>
    exact .still (@still_requeueTransient _ config uid engine.runtime.store row "rate_limited" attemptId
      (some (.str message)))
  | failed message => exact turns_handleDispatchFailure engine row job attemptId message

theorem turns_spawnEntry (engine : EngineRuntime) (row : Record) (job : Job) (attemptId : Option Int)
    (execution : Text) (launching : Launching) :
    Turns uid engine (engine.spawnEntry config row job attemptId execution launching).1 := by
  unfold spawnEntry
  split
  · exact .still (still_same rfl rfl rfl rfl rfl)
  · rename_i resources lease reserved
    dsimp only
    split
    · rename_i error errors invalid
      have rejected := @turns_rejectAndCommit _ config uid (engine.withResources (resources.releaseLease lease)) job.uid
        row (payloadMetadata (error :: errors)) .failed attemptId
      split
      · rename_i after ended
        rw [ended] at rejected
        exact rejected
      · rename_i after signal ended
        rw [ended] at rejected
        exact rejected
    · split
      case h_6 =>
        split
        · exact .still (still_same rfl rfl rfl rfl rfl)
        · exact .still (still_same rfl rfl rfl rfl rfl)
      all_goals exact .still (still_same rfl rfl rfl rfl rfl)

theorem turns_dispatchOpened (engine : EngineRuntime) (row : Record) (job : Job) (attemptId : Option Int)
    (execution : Text) (launching : Launching) :
    Turns uid engine (engine.dispatchOpened config row job attemptId execution launching).1 := by
  unfold dispatchOpened
  split
  · exact turns_rejectAndCommit engine job.uid row _ _ attemptId
  · split
    · exact .still (@still_requeueTransient _ config uid engine.runtime.store row "lock_conflict" attemptId
        (some (.str "orphan lock conflict")))
    · dsimp only
      split
      · exact .still (still_same rfl rfl rfl rfl rfl)
      · have spawned := @turns_spawnEntry _ config uid (engine.withResources
          (engine.runtime.resources.applySuspendSignals launching.drained launching.signals)) row job attemptId
          execution launching
        split
        · rename_i after entry ended
          rw [ended] at spawned
          exact spawned
        · rename_i faulty fault ended
          rw [ended] at spawned
          exact Turn.trans spawned (turns_handleFault faulty row job attemptId fault)

theorem turns_dispatchAdmitted (engine : EngineRuntime)
    (serial : Serial engine.runtime.store.backend.attempts engine.runtime.store.backend.attemptSeq)
    (row : Record) (job : Job) (launching : Launching) :
    Turns uid engine (engine.dispatchAdmitted config row job launching).1 := by
  have opens := still_openAttempt uid engine serial job launching.openFault
  unfold dispatchAdmitted
  split
  · rename_i opened message ended
    rw [ended] at opens
    exact .still (opens.trans (still_same rfl rfl rfl rfl rfl))
  · rename_i opened attemptId execution ended
    rw [ended] at opens
    exact (Turn.still opens).trans (turns_dispatchOpened opened row job attemptId execution launching)

theorem turns_dispatchSkip (engine : EngineRuntime)
    (serial : Serial engine.runtime.store.backend.attempts engine.runtime.store.backend.attemptSeq)
    (row : Record) (job : Job) (launching : Launching) :
    Turns uid engine (engine.dispatchSkip row job launching).1 := by
  have opens := still_openAttempt uid engine serial job launching.openFault
  unfold dispatchSkip
  dsimp only
  have skipped := @still_applySkip _ uid (engine.openAttempt job launching.openFault).1.runtime.store job.uid (some row)
    (openedId (engine.openAttempt job launching.openFault).2)
  split
  · rename_i store done ended
    rw [ended] at skipped
    exact .still ((opens.trans skipped).trans (still_same rfl rfl rfl rfl rfl))
  · rename_i store signal ended
    rw [ended] at skipped
    exact .still (opens.trans skipped)

theorem still_popped {idx : ℕ} {row : Record} {state : PipelineState}
    (taken : engine.runtime.store.state.popJob idx = some (row, state)) :
    Still uid engine.runtime.store (engine.mapStore fun store => { store with state := state }).runtime.store := by
  obtain ⟨other, -, same⟩ := Option.map_eq_some_iff.mp taken
  obtain ⟨rfl, rfl⟩ := Prod.mk.inj same
  exact still_same rfl rfl rfl rfl rfl

theorem turns_dispatchDepFailed (engine : EngineRuntime)
    (serial : Serial engine.runtime.store.backend.attempts engine.runtime.store.backend.attemptSeq)
    (idx : ℕ) (pendingDepFailure : Option String) (launching : Launching) :
    Turns uid engine (engine.dispatchDepFailed config idx pendingDepFailure launching).1 := by
  unfold dispatchDepFailed
  split
  · exact turn_refl uid _
  · rename_i row state taken
    dsimp only
    set popped := engine.mapStore fun store => { store with state := state } with removed
    have gone : Turns uid engine popped := .still (still_popped taken)
    split
    · exact gone
    · rename_i job parsed
      have opens := gone.calm (still_openAttempt uid popped serial job launching.openFault)
      split
      · exact opens
      · exact Turn.trans opens (turns_rejectAndCommit _ job.uid row _ _ _)

theorem turns_dispatchRunnable (engine : EngineRuntime)
    (serial : Serial engine.runtime.store.backend.attempts engine.runtime.store.backend.attemptSeq)
    (idx : ℕ) (launching : Launching) :
    Turns uid engine (engine.dispatchRunnable config idx launching).1 := by
  unfold dispatchRunnable
  split
  · exact turn_refl uid _
  · rename_i taskType found
    dsimp only
    set prepared := engine.fillIn config idx taskType with filled
    have first : Turns uid engine prepared := .still (still_same rfl rfl rfl rfl rfl)
    split
    · exact first
    · rename_i row state taken
      set popped := prepared.mapStore fun store => { store with state := state } with removed
      have gone : Turns uid engine popped := first.calm (still_popped taken)
      split
      · exact first
      · rename_i job parsed
        split
        · split
          · exact first
          · exact gone.trans (turns_dispatchSkip popped serial row job launching)
          · exact gone.trans (turns_dispatchAdmitted popped serial _ _ launching)
        · exact gone.trans (turns_dispatchAdmitted popped serial row job launching)

theorem turns_dispatchJob (engine : EngineRuntime)
    (serial : Serial engine.runtime.store.backend.attempts engine.runtime.store.backend.attemptSeq)
    (sched : ScheduleResult) (launching : Launching) :
    Turns uid engine (engine.dispatchJob config sched launching).1 := by
  unfold dispatchJob
  split
  · exact turn_refl uid _
  · rename_i idx chosen
    split
    · exact turns_dispatchDepFailed engine serial idx sched.pendingDepFailure launching
    · exact turns_dispatchRunnable engine serial idx launching

end Dispatch

section Metadata

/-- The count of the successes that a success is counted on from: that of the last success, or that of the failure. -/
def priorCount [Python] (state : PipelineState) (uid : String) : Int :=
  let previous := match state.successes.get? uid with
    | some found => if found.entries.isEmpty then state.failed.get? uid else some found
    | none => state.failed.get? uid
  (previous.map fun found => JobRuntimeState.counter (Record.get found "success_count")).getD 0

/-- Metadata as the framework writes it for a success. -/
structure Written (stamp : Text) (count : Int) (runId : Option String) (metadata : Record) : Prop where
  counted : Record.get metadata "success_count" = .int count
  stamped : Record.get metadata "last_succeeded_at" = .str stamp.val
  owned : metadata.get? "last_success_run_id" = runId.map Json.str

theorem get?_erase_of_ne (record : Record) {key other : String} (different : other ≠ key) :
    (record.erase key).get? other = record.get? other := by
  rw [Dict.get?_erase, if_neg (by simpa using different)]

/-- Metadata with the paths that a success has read, or without them. -/
theorem get?_fed (owned : Record) (paths : List String) {key : String} (other : key ≠ "inputs") :
    (if paths.isEmpty then owned.erase "inputs" else owned.set "inputs" (.arr (paths.map Json.str))).get? key =
      owned.get? key := by
  split
  · exact get?_erase_of_ne _ other
  · exact Dict.get?_set_of_ne _ _ other

theorem written_successMetadata [Python] (store : StateStore) (uid : String) (resultMetadata : Record)
    (artifacts : List (String × String)) (inputs : List String) (runId : Option String) :
    Written store.now (priorCount store.state uid + 1) runId
      (store.successMetadata uid resultMetadata artifacts inputs runId) := by
  unfold successMetadata
  dsimp only
  refine ⟨?_, ?_, ?_⟩
  · rw [Record.get_set_self]
    rfl
  · unfold Record.get
    rw [Dict.get?_set_of_ne _ _ (by decide), get?_fed _ _ (by decide)]
    cases runId with
    | none => rw [get?_erase_of_ne _ (by decide), Dict.get?_set_self]; rfl
    | some run => rw [Dict.get?_set_of_ne _ _ (by decide), Dict.get?_set_self]; rfl
  · rw [Dict.get?_set_of_ne _ _ (by decide), get?_fed _ _ (by decide)]
    cases runId with
    | none => rw [Dict.get?_erase, if_pos (by simp)]; rfl
    | some run => rw [Dict.get?_set_self]; rfl

end Metadata

section Success

variable [Python] {config : StoreConfig} {uid : String} {store between after : StateStore} {count : Int}
  {runId : Option String} {id : Int}

/-- The job has succeeded, under the id of an attempt. -/
structure Gained (uid : String) (count : Int) (runId : Option String) (id : Int) (store after : StateStore) :
    Prop where
  metadata : ∃ metadata, Written store.now (count + 1) runId metadata ∧
    after.state.successes.get? uid = some metadata ∧ after.backend.successes.get? uid = some metadata
  failed : after.backend.failed.contains uid = false
  won : ∃ row, Baseline.won uid after.backend.attempts = Baseline.won uid store.backend.attempts ++ [(id, row)] ∧
    row.finishedAt = some store.now
  now : after.now = store.now
  news : ∃ news, after.events = store.events ++ news ∧ heard uid news = some true

omit [Python] in
theorem Gained.still (gained : Gained uid count runId id store between) (still : Still uid between after) :
    Gained uid count runId id store after where
  metadata := by
    obtain ⟨metadata, written, memory, disk⟩ := gained.metadata
    exact ⟨metadata, written, still.memory.trans memory, still.disk.trans disk⟩
  failed := still.failed.trans gained.failed
  won := by
    obtain ⟨row, added, finished⟩ := gained.won
    exact ⟨row, still.won.trans added, finished⟩
  now := still.now.trans gained.now
  news := by
    obtain ⟨news, early, gains⟩ := gained.news
    obtain ⟨further, late, quiet⟩ := still.news
    exact ⟨news ++ further, by rw [late, early, List.append_assoc], by rw [heard_append, quiet, gains]; rfl⟩

omit [Python] in
theorem Still.gained (still : Still uid store between) (gained : Gained uid count runId id between after) :
    Gained uid count runId id store after where
  metadata := by
    rw [← still.now]
    exact gained.metadata
  failed := gained.failed
  won := by
    obtain ⟨row, added, finished⟩ := gained.won
    exact ⟨row, by rw [added, still.won], by rw [finished, still.now]⟩
  now := gained.now.trans still.now
  news := by
    obtain ⟨news, early, quiet⟩ := still.news
    obtain ⟨further, late, gains⟩ := gained.news
    exact ⟨news ++ further, by rw [late, early, List.append_assoc], by rw [heard_append, gains]; rfl⟩

/-- What the commit of a success does to the archives and the log. -/
theorem commitJobSuccess_eq {backend : Memory} {success : Memory.Success}
    (accepted : (backend.commitJobSuccess success).2 = true) : ∃ id row ending,
      (success.attemptId = some id ∧ backend.attempts.get? id = some row ∧ IsRunning row ∧
        row.jobUid.val = success.jobUid ∧ ending.outcome = .succeeded ∧
        success.finishedAt = some ending.finishedAt.val) ∧
      (backend.commitJobSuccess success).1.attempts = backend.attempts.set id (row.finish ending) ∧
      (backend.commitJobSuccess success).1.successes = backend.successes.set success.jobUid success.resultMetadata ∧
      (backend.commitJobSuccess success).1.failed = backend.failed.erase success.jobUid := by
  unfold Memory.commitJobSuccess at accepted ⊢
  split at accepted
  · rename_i id row ending open_ final
    split at accepted
    · cases accepted
    · rename_i clear
      obtain ⟨own, found, running, named⟩ : success.attemptId = some id ∧ backend.attempts.get? id = some row ∧
          IsRunning row ∧ row.jobUid.val = success.jobUid := by
        unfold Memory.runningAttempt at open_
        grind [IsRunning]
      have timed : success.finishedAt = some ending.finishedAt.val := by
        unfold validateAttemptFinish at final
        grind
      refine ⟨id, row, ending, ⟨own, found, running, named, outcome_of_validateAttemptFinish final, timed⟩, ?_⟩
      rw [if_neg clear]
      exact ⟨rfl, rfl, rfl⟩
  · cases accepted

section Row

variable {attempts : Dict Int AttemptRecord} {next : ℕ} {row : AttemptRecord} {ending : AttemptFinish}

omit [Python] in
/-- The row of a success is the last of its job, if its attempt is. -/
theorem won_success (serial : Serial attempts next) (found : attempts.get? id = some row) (running : IsRunning row)
    (own : row.jobUid.val = uid) (final : ending.outcome = .succeeded)
    (above : ∀ entry ∈ won uid attempts, entry.1 < id) :
    won uid (attempts.set id (row.finish ending)) = won uid attempts ++ [(id, row.finish ending)] := by
  apply picked_set_last serial found _ _ above
  · simp [wins, show row.outcome = .running from running]
  · simp [wins, AttemptRecord.finish, own, final]

omit [Python] in
theorem won_success_other (found : attempts.get? id = some row) (running : IsRunning row)
    (other : row.jobUid.val ≠ uid) : won uid (attempts.set id (row.finish ending)) = won uid attempts := by
  apply picked_set_of_not
  · simp [wins, AttemptRecord.finish, other]
  · intro before there
    obtain rfl : row = before := Option.some.inj (found.symm.trans there)
    simp [wins, show row.outcome = .running from running]

end Row

/-- What the memory makes of a success that was committed. -/
structure Marked (jobUid : String) (metadata : Record) (store after : StateStore) : Prop where
  successes : after.state.successes = store.state.successes.set jobUid metadata
  failed : after.state.failed = store.state.failed.erase jobUid
  backend : after.backend = store.backend
  now : after.now = store.now
  events : after.events = store.events

/-- The transition of a success: it is refused, or marked. -/
theorem applySuccess_eq (store : StateStore) (request : SuccessRequest) :
    let metadata := store.successMetadata request.jobUid request.resultMetadata request.artifacts request.inputs
      request.runId
    let success : Memory.Success := ⟨request.jobUid, metadata, request.attemptId, request.executionId,
      some store.now.val, request.spawned, request.cursorUpdates⟩
    let event := Event.succeeded request.jobUid (request.spawned.map jobUidFromSnapshot)
    (∃ call, (store.applySuccess config request).1 = (((store.commit event fun backend =>
        backend.commitJobSuccess success).1.noteCall call).handleCommitFailureStrike config request.jobUid
          "commit_job_success" (some request.snapshot) request.attemptId).1 ∧
      (store.commit event fun backend => backend.commitJobSuccess success).2 = false) ∨
    (store.commit event fun backend => backend.commitJobSuccess success).2 = true ∧
      Marked request.jobUid metadata (store.commit event fun backend => backend.commitJobSuccess success).1
        (store.applySuccess config request).1 := by
  dsimp only
  unfold applySuccess
  dsimp only
  split
  · rename_i committed ended
    rw [ended]
    refine .inr ⟨rfl, ?_⟩
    split
    · exact ⟨rfl, rfl, rfl, rfl, rfl⟩
    · exact ⟨rfl, rfl, rfl, rfl, rfl⟩
  · rename_i refused ended
    rw [ended]
    exact .inl ⟨_, rfl, rfl⟩

theorem gained_applySuccess (store : StateStore) (request : SuccessRequest)
    (serial : Serial store.backend.attempts store.backend.attemptSeq)
    (leading : ∀ id ∈ request.attemptId, ∀ entry ∈ won request.jobUid store.backend.attempts, entry.1 < id) :
    Turn uid store (store.applySuccess config request).1 ∨
      uid = request.jobUid ∧ ∃ id ∈ request.attemptId,
        Gained uid (priorCount store.state uid) request.runId id store (store.applySuccess config request).1 := by
  have arrives := still_arrived uid store
  have same : (arrived store).backend.attempts = store.backend.attempts := congrArg Trail.attempts (trail_arrived store)
  have turns := @applySuccess_eq _ config store request
  dsimp only at turns
  set metadata := store.successMetadata request.jobUid request.resultMetadata request.artifacts request.inputs
    request.runId with made
  set success : Memory.Success := ⟨request.jobUid, metadata, request.attemptId, request.executionId,
    some store.now.val, request.spawned, request.cursorUpdates⟩ with asked
  rcases commit_eq store (.succeeded request.jobUid (request.spawned.map jobUidFromSnapshot)) fun backend =>
      backend.commitJobSuccess success with refused | ⟨taken, accepted⟩
  · rw [refused] at turns
    obtain ⟨call, ended, -⟩ := turns.resolve_right (by simp)
    rw [ended]
    left
    refine (Turn.still (arrives.trans ?_)).trans (turn_handleCommitFailureStrike _ request.jobUid _ _ _)
    exact still_same rfl rfl rfl rfl rfl
  · rw [accepted] at turns
    obtain ⟨-, marked⟩ := turns.resolve_left (by simp)
    obtain ⟨id, row, ending, ⟨own, found, running, named, final, timed⟩, attempts, successes, failed⟩ :=
      commitJobSuccess_eq taken
    have finished : ending.finishedAt = store.now := Subtype.ext (Option.some.inj timed).symm
    rw [same] at found
    by_cases mine : uid = request.jobUid
    · subst mine
      right
      refine ⟨rfl, id, own, arrives.gained ⟨⟨metadata, ?_, ?_, ?_⟩, ?_, ⟨row.finish ending, ?_, ?_⟩, ?_, _,
        marked.events, ?_⟩⟩
      · rw [arrives.now]
        exact written_successMetadata store _ _ _ _ _
      · rw [marked.successes, Dict.get?_set_self]
      · rw [marked.backend, successes, Dict.get?_set_self]
      · rw [marked.backend]
        unfold Dict.contains
        rw [failed, Dict.get?_erase, if_pos (by simp [asked])]
        rfl
      · rw [marked.backend, attempts, same]
        exact won_success serial found running named final (leading id own)
      · rw [arrives.now, ← finished]
        rfl
      · exact marked.now
      · rw [heard_singleton]
        simp [hears]
    · left
      apply Turn.still
      refine arrives.trans ⟨?_, ?_, ?_, ?_, ?_, marked.now, _, marked.events, ?_⟩
      · rw [marked.successes, Dict.get?_set_of_ne _ _ mine]
      · rw [marked.backend, successes, Dict.get?_set_of_ne _ _ mine]
      · rw [marked.failed, Dict.get?_erase, if_neg (by simpa using mine)]
      · rw [marked.backend]
        unfold Dict.contains
        rw [failed, Dict.get?_erase, if_neg (by simpa [asked] using mine)]
      · rw [marked.backend, attempts, same]
        exact won_success_other found running fun its => mine (its.symm.trans named)
      · rw [heard_singleton]
        simp [hears, mine]

end Success

section Completion

variable [Python] {config : StoreConfig} {uid : String} {store between after : StateStore} {entry : InFlightJob}
  {runId : Option String}

/-- What the end of an execution does about the last success of a job. -/
inductive Ending (uid : String) (entry : InFlightJob) (runId : Option String) (store after : StateStore) : Prop
  | turn (turn : Turn uid store after)
  | gained {id : Int} (own : uid = entry.jobUid) (traced : id ∈ entry.attemptId)
      (gained : Gained uid (priorCount store.state uid) runId id store after)

theorem Still.ending (still : Still uid store between) (ending : Ending uid entry runId between after) :
    Ending uid entry runId store after := by
  have counted : priorCount between.state uid = priorCount store.state uid := by
    unfold priorCount
    rw [still.memory, still.archive]
  cases ending with
  | turn turn => exact .turn ((Turn.still still).trans turn)
  | gained own traced gained =>
    rw [counted] at gained
    exact .gained own traced (still.gained gained)

theorem Ending.calm (ending : Ending uid entry runId store between) (still : Still uid between after) :
    Ending uid entry runId store after := by
  cases ending with
  | turn turn => exact .turn (turn.calm still)
  | gained own traced gained => exact .gained own traced (gained.still still)

/-- The attempt of an entry comes after those of its job that have succeeded. -/
def Leading (store : StateStore) (entry : InFlightJob) : Prop :=
  ∀ id ∈ entry.attemptId, ∀ winner ∈ won entry.jobUid store.backend.attempts, winner.1 < id

variable {runtime : Runtime}

theorem ending_commitResult (serial : Serial runtime.store.backend.attempts runtime.store.backend.attemptSeq)
    (leading : Leading runtime.store entry) (result : ExecutionResult) (surroundings : Surroundings) :
    Ending uid entry runtime.runId runtime.store
      (Runtime.commitResult config runtime entry result surroundings).1 := by
  unfold Runtime.commitResult
  split
  · unfold Runtime.applyRetry
    dsimp only
    split
    · have failed := @turn_applyFailure _ config uid runtime.store entry.jobUid
        (Runtime.maxRetriesMetadata entry.snapshot result.retryError) entry.snapshot .failed entry.attemptId
      split <;> (rename_i ended; rw [ended] at failed; exact .turn failed)
    · have retried := @turn_applyRetry _ config uid runtime.store entry.jobUid entry.snapshot
        (Runtime.buildRetryJobSnapshot entry.job entry.snapshot result.retryError result.transientKind.isSome)
        result.transientKind entry.attemptId result.retryError
      split <;> (rename_i ended; rw [ended] at retried; exact .turn retried)
  · split
    · rw [Batches.applySuccess_fst]
      rcases @gained_applySuccess _ config uid runtime.store ⟨_, _, _, _, _, _, _, _, entry.attemptId, _⟩ serial
        leading with turn | ⟨own, id, traced, gained⟩
      · exact .turn turn
      · exact .gained own traced gained
    · unfold Runtime.applyFailure
      have failed := @turn_applyFailure _ config uid runtime.store entry.jobUid result.resultMetadata entry.snapshot
        .failed entry.attemptId
      split <;> (rename_i ended; rw [ended] at failed; exact .turn failed)

theorem ending_applyResult (serial : Serial runtime.store.backend.attempts runtime.store.backend.attemptSeq)
    (leading : Leading runtime.store entry) (result : ExecutionResult) (surroundings : Surroundings) :
    Ending uid entry runtime.runId runtime.store
      (Runtime.applyResult config runtime entry result surroundings).1.store := by
  unfold Runtime.applyResult
  split
  · exact .turn (.still (still_same rfl rfl rfl rfl rfl))
  · dsimp only
    split
    · exact .turn (turn_refl uid _)
    · exact @ending_commitResult _ config uid entry
        (runtime.suspendAll surroundings.instant result.resourceSuspensions) serial leading _ surroundings

theorem ending_completeJob (serial : Serial runtime.store.backend.attempts runtime.store.backend.attemptSeq)
    (leading : Leading runtime.store entry) (result : ExecutionResult) (surroundings : Surroundings) :
    Ending uid entry runtime.runId runtime.store
      (Runtime.completeJob config runtime entry result surroundings).1.store := by
  have applied := @ending_applyResult _ config uid entry runtime serial leading result surroundings
  unfold Runtime.completeJob
  dsimp only
  split
  · rename_i after message ended
    rw [ended] at applied
    exact applied
  · rename_i after signal terminated ended
    rw [ended] at applied
    exact applied
  · rename_i after willRetry ended
    rw [ended] at applied
    have fired := applied.calm (still_fireAttemptFinished uid after.store entry.jobUid
      ⟨(Runtime.checkedResult result surroundings).success, willRetry,
        (Runtime.checkedResult result surroundings).resultMetadata⟩)
    split
    · exact fired
    · exact fired

theorem still_requeueUncommitted (runtime : Runtime) (entry : InFlightJob) :
    Still uid runtime.store (runtime.requeueUncommitted entry).store := by
  unfold Runtime.requeueUncommitted Runtime.mapStore
  dsimp only
  split
  · exact still_same rfl rfl rfl rfl rfl
  · exact still_refl uid _

theorem ending_completeAndSettle (serial : Serial runtime.store.backend.attempts runtime.store.backend.attemptSeq)
    (leading : Leading runtime.store entry) (result : ExecutionResult) (surroundings : Surroundings) :
    Ending uid entry runtime.runId runtime.store
      (Runtime.completeAndSettle config runtime entry result surroundings).1.store := by
  have completed := @ending_completeJob _ config uid entry runtime serial leading result surroundings
  unfold Runtime.completeAndSettle
  dsimp only
  exact (completed.calm (still_requeueUncommitted _ entry)).calm (still_settle _ entry.jobUid)

theorem still_cancelAndSettle (runtime : Runtime) (entry : InFlightJob) (cleanupFault : Option String) :
    Still uid runtime.store (Runtime.cancelAndSettle runtime entry cleanupFault).1.store := by
  unfold Runtime.cancelAndSettle
  exact (still_requeueUncommitted (runtime.releaseResources entry) entry).trans (still_settle _ entry.jobUid)

omit [Python] in
theorem won_closed {trail between after : Trail} {attemptId : Option Int} (serial : Serial trail.attempts trail.seq)
    (opens : Opens trail between attemptId) (closes : Closes attemptId between after) :
    won uid after.attempts = won uid trail.attempts :=
  (won_closes closes).trans (won_opens serial opens)

omit [Python] in
theorem still_recordAttemptSkip (serial : Serial store.backend.attempts store.backend.attemptSeq) (job : Job)
    (errorMessage : String) (dispatchNo : ℕ) :
    Still uid store (store.recordAttemptSkip job errorMessage runId dispatchNo) := by
  obtain ⟨between, attemptId, opens, closes⟩ := recordAttemptSkip_traced store job errorMessage runId dispatchNo
  have logged := @won_closed uid _ _ _ _ serial opens closes
  have rest : ∃ attempts seq traced, store.recordAttemptSkip job errorMessage runId dispatchNo =
      { store with backend := { store.backend with attempts, attemptSeq := seq }, traced } := by
    unfold recordAttemptSkip
    split
    · exact ⟨_, _, _, rfl⟩
    · split
      · exact ⟨_, _, _, rfl⟩
      · dsimp only
        rcases appended : store.backend.appendAttempt _ with ⟨backend, opened⟩
        have grown : ∃ attempts seq, backend = { store.backend with attempts, attemptSeq := seq } := by
          unfold Memory.appendAttempt at appended
          split at appended <;>
          · obtain ⟨rfl, -⟩ := Prod.mk.inj appended
            exact ⟨_, _, rfl⟩
        obtain ⟨attempts, seq, rfl⟩ := grown
        cases opened with
        | none => exact ⟨_, _, _, rfl⟩
        | some id =>
          dsimp only
          obtain ⟨later, changed⟩ := Custody.updateAttempt_fst { store.backend with attempts, attemptSeq := seq } id
            .skipped store.now.val (some errorMessage)
          rw [changed]
          exact ⟨later, _, _, rfl⟩
  obtain ⟨attempts, seq, traced, same⟩ := rest
  rw [same] at logged ⊢
  exact ⟨rfl, rfl, rfl, rfl, logged, rfl, [], (List.append_nil _).symm, rfl⟩

end Completion

section Surroundings

variable [Python] {config : StoreConfig} {uid : String} {store : StateStore} {origin : Dict Int AttemptRecord}

theorem still_enqueueElsewhere (uid : String) (store : StateStore) (snapshots : List Record) (front : Bool) :
    Still uid store (store.enqueueElsewhere snapshots front) :=
  ⟨rfl, rfl, rfl, rfl, rfl, rfl, _, rfl, rfl⟩

theorem still_enqueueAll (uid : String) (batches : List (List Record × Bool)) (store : StateStore) :
    Still uid store (batches.foldl (fun store batch => store.enqueueElsewhere batch.1 batch.2) store) := by
  induction batches generalizing store with
  | nil => exact still_refl uid store
  | cons batch rest ih => exact (still_enqueueElsewhere uid store batch.1 batch.2).trans (ih _)

theorem still_saveQueueCrashSafe (store : StateStore) (raises : Bool) :
    Still uid store (Recovery.saveQueueCrashSafe store raises) := by
  cases raises with
  | true => exact still_refl uid store
  | false => exact ⟨rfl, rfl, rfl, rfl, rfl, rfl, [], (List.append_nil _).symm, rfl⟩

theorem still_skipEach (rows : Dict String (Record × Job)) (seeds : List String) (runId : Option String)
    (items : List (String × ℕ × String)) (phase : SelectionMachine.Phase) (skipped : ℕ)
    (sound : Sound origin (trailOf phase.store)) :
    Still uid phase.store (SelectionMachine.skipEach rows seeds runId items phase skipped).1.store := by
  induction items generalizing phase skipped with
  | nil => exact still_refl uid _
  | cons item rest ih =>
    obtain ⟨jobUid, depth, root⟩ := item
    unfold SelectionMachine.skipEach
    split
    · exact ih phase skipped sound
    · rename_i row job found
      dsimp only
      set error := if jobUid ∈ seeds ∧ phase.machine.selection.isSkipped job.taskType.val then errSkipped
        else errDependencySkipped ++ " (upstream: " ++ root ++ ")" with text
      have left := @still_applySkip _ uid phase.store jobUid (some row) none
      have same : trailOf (phase.store.applySkip jobUid (some row) none).1 = trailOf phase.store :=
        closes_applySkip phase.store jobUid (some row) none
      split
      · rename_i skipping signal ended
        rw [ended] at left
        exact left
      · rename_i skipping done ended
        rw [ended] at left same
        have sound : Sound origin (trailOf skipping) := by
          rw [same]
          exact sound
        obtain ⟨between, attemptId, opens, closes⟩ := recordAttemptSkip_traced skipping job error runId
          (phase.dispatchNo + 1)
        have later := ih {
          machine := { phase.machine with skippedUids := insert jobUid phase.machine.skippedUids }
          store := skipping.recordAttemptSkip job error runId (phase.dispatchNo + 1)
          dispatchNo := phase.dispatchNo + 1 } (skipped + 1) (adds_ends sound opens (.closed closes)).sound
        exact (left.trans (still_recordAttemptSkip sound.serial job error _)).trans later

theorem still_applySkips (phase : SelectionMachine.Phase) (runId : Option String)
    (sound : Sound origin (trailOf phase.store)) :
    Still uid phase.store (SelectionMachine.applySkips phase runId).1.store := by
  unfold SelectionMachine.applySkips
  split
  · exact still_refl uid _
  · exact still_skipEach _ _ runId _ phase 0 sound

end Surroundings

end Tasklite.Engine.Baseline
