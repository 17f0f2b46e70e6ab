import Mathlib.Data.Multiset.AddSub
import Tasklite.Engine.Tracing

/-! The hook that observes finished attempts. A committed transition is reported by one
call, from the store or from the machine that has asked for it. The exception is a
failure whose cascade crashes the run: it is committed and never reported. -/

namespace Tasklite.Engine.Hooks
open Tasklite.Library Tasklite.Models Tasklite.Backend Tasklite.Engine.Cascade Tasklite.Engine.Custody
  Tasklite.Engine.Progress Tasklite.Engine.Tracing StateStore
open Tasklite.Engine.Mirror (downstream downstream_congr cascadeFrom_congr)

section Reports

/-- What there is to report about an event: the jobs, and whether they will run again. Jobs that are enqueued or
skipped have no attempt that has finished. -/
def transitions : Event → List (String × Bool)
  | .enqueued _ | .skipped _ => []
  | .succeeded uid _ => [(uid, false)]
  | .failed uids => uids.map fun uid => (uid, false)
  | .retried uid => [(uid, true)]

/-- What a call of the hook reports. -/
def told (call : String × AttemptOutcome) : String × Bool := (call.1, call.2.willRetry)

/-- The transitions that were committed are those that were reported and those that are due. -/
def Reports (store after : StateStore) (due : Multiset (String × Bool)) : Prop :=
  ∃ news calls, after.events = store.events ++ news ∧ after.finished = store.finished ++ calls ∧
    (news.flatMap transitions : Multiset (String × Bool)) = calls.map told + due

variable {store between after : StateStore} {due more : Multiset (String × Bool)}

/-- Neither history has grown. -/
theorem reports_same (events : after.events = store.events) (finished : after.finished = store.finished) :
    Reports store after 0 :=
  ⟨[], [], by simp [events], by simp [finished], by simp⟩

theorem reports_refl (store : StateStore) : Reports store store 0 := reports_same rfl rfl

theorem Reports.trans (first : Reports store between due) (second : Reports between after more) :
    Reports store after (due + more) := by
  obtain ⟨news, calls, events, finished, balance⟩ := first
  obtain ⟨others, further, later, next, also⟩ := second
  refine ⟨news ++ others, calls ++ further, by rw [later, events, List.append_assoc],
    by rw [next, finished, List.append_assoc], ?_⟩
  rw [List.flatMap_append, List.map_append, ← Multiset.coe_add, ← Multiset.coe_add, balance, also]
  exact add_add_add_comm _ _ _ _

theorem Reports.same (reports : Reports store between due) (events : after.events = between.events)
    (finished : after.finished = between.finished) : Reports store after due := by
  have whole := reports.trans (reports_same events finished)
  rwa [add_zero] at whole

theorem reports_of_zero (first : Reports store between 0) (second : Reports between after due) :
    Reports store after due := by
  have whole := first.trans second
  rwa [zero_add] at whole

/-- A call of the hook reports what is due. -/
theorem Reports.fire {uid : String} {outcome : AttemptOutcome}
    (reports : Reports store between (due + {(uid, outcome.willRetry)})) :
    Reports store (between.fireAttemptFinished uid outcome) due := by
  obtain ⟨news, calls, events, finished, balance⟩ := reports
  have called : (between.fireAttemptFinished uid outcome).events = between.events ∧
      (between.fireAttemptFinished uid outcome).finished = between.finished ++ [(uid, outcome)] := by
    unfold fireAttemptFinished
    dsimp only
    split <;> exact ⟨rfl, rfl⟩
  refine ⟨news, calls ++ [(uid, outcome)], called.1.trans events, ?_, ?_⟩
  · rw [called.2, finished, List.append_assoc]
  · rw [balance, List.map_append, ← Multiset.coe_add, List.map_singleton, Multiset.coe_singleton, told,
      add_assoc, add_comm due]

theorem finishAttempt_histories (store : StateStore) (attemptId : Option Int) (outcome : Outcome)
    (errorMessage : Option Json) : (store.finishAttempt attemptId outcome errorMessage).events = store.events ∧
      (store.finishAttempt attemptId outcome errorMessage).finished = store.finished := by
  unfold finishAttempt
  cases attemptId with
  | none => exact ⟨rfl, rfl⟩
  | some id =>
    dsimp only
    split <;> exact ⟨rfl, rfl⟩

theorem Reports.finishAttempt (reports : Reports store between due) (attemptId : Option Int) (outcome : Outcome)
    (errorMessage : Option Json) : Reports store (between.finishAttempt attemptId outcome errorMessage) due := by
  obtain ⟨events, finished⟩ := finishAttempt_histories between attemptId outcome errorMessage
  exact reports.same events finished

end Reports

section Store

variable [Python] (config : StoreConfig) {store between : StateStore} {due : Multiset (String × Bool)}

theorem Reports.markFailedMemory (reports : Reports store between due) (uid : String) (metadata : Record)
    (unregister : Bool) : Reports store (between.markFailedMemory config uid metadata unregister) due := by
  cases unregister with
  | false => exact reports.same rfl rfl
  | true => exact reports.same rfl rfl

theorem reports_arrived (store : StateStore) : Reports store (arrived store) 0 := by
  obtain ⟨queue, news, same, quiet⟩ := arrived_eq store
  rw [same]
  have nothing : news.flatMap transitions = [] := by
    rw [List.flatMap_eq_nil_iff]
    intro event member
    obtain ⟨uids, rfl⟩ := quiet event member
    rfl
  exact ⟨news, [], rfl, by simp, by simp [nothing]⟩

/-- What a commit owes to the hook. -/
def owed (event : Event) : Bool → Multiset (String × Bool)
  | true => transitions event
  | false => 0

theorem reports_commit (store : StateStore) (event : Event) (transaction : Memory → Memory × Bool) :
    Reports store (store.commit event transaction).1 (owed event (store.commit event transaction).2) := by
  rcases commit_eq store event transaction with refused | ⟨-, accepted⟩
  · rw [refused]
    exact reports_arrived store
  · rw [accepted]
    apply reports_of_zero (reports_arrived store)
    exact ⟨[event], [], rfl, by simp, by simp [owed]⟩

/-- A commit that the backend has no reason to refuse is answered from outside, and nothing else has changed. -/
theorem commit_answer (store : StateStore) (event : Event) {transaction : Memory → Memory × Bool}
    (takes : ∀ backend, (transaction backend).2 = true) :
    (store.commit event transaction).2 = (store.answers.headD {}).accepted ∧
      (store.commit event transaction).1.answers = store.answers.tail ∧
      (store.commit event transaction).1.state = store.state := by
  have answers := SelectionMachine.arrived_answers store
  have state := arrived_state store
  cases answer : (store.answers.headD {}).accepted with
  | true =>
    rw [commit_accepted answer event (takes _)]
    exact ⟨rfl, answers, state⟩
  | false =>
    rw [SelectionMachine.commit_refused answer]
    exact ⟨rfl, answers, state⟩

theorem reports_bulkStrikeFinalize (store : StateStore) (uid : String) (row : Record) (failures : Int) :
    Reports store (store.bulkStrikeFinalize config uid row failures).1 0 := by
  have committed := reports_commit store (.failed [uid]) fun backend =>
    backend.commitJobFailure uid (strikeMetadata failures) (extractJobPayload row)
  unfold bulkStrikeFinalize
  split
  · rename_i refused answer
    rw [answer] at committed
    exact committed
  · rename_i archived answer
    rw [answer] at committed
    apply Reports.fire
    rw [zero_add]
    exact (committed.markFailedMemory config uid (strikeMetadata failures) false).same rfl rfl

theorem reports_handleBulkFailureStrike (uids : List String) (store : StateStore) (rows : List Record) (kept : Bool) :
    Reports store (handleBulkFailureStrike config uids store rows kept).1 0 := by
  induction uids generalizing store rows kept with
  | nil => exact reports_refl store
  | cons uid rest ih =>
    unfold handleBulkFailureStrike
    dsimp only
    set given := (rows.find? fun row => jobUidFromSnapshot row = uid).getD (syntheticSnapshot uid) with found
    have first := reports_bulkStrikeFinalize config store uid (registerCommitFailure given) (commitFailures given + 1)
    split
    · split
      · rename_i archived answer
        rw [answer] at first
        exact reports_of_zero first (ih _ _ _)
      · rename_i refused answer
        rw [answer] at first
        exact reports_of_zero first (ih _ _ _)
    · exact ih _ _ _

omit [Python] in
/-- The jobs of a committed batch are reported one after the other. -/
theorem reports_markEach {mark : StateStore → String → Record → StateStore}
    (marks : ∀ store uid metadata, (mark store uid metadata).events = store.events ∧
      (mark store uid metadata).finished = store.finished)
    (metas : List (String × Record)) (reports : Reports store between
      (due + metas.map fun entry => (entry.1, false))) : Reports store (markEach mark metas between) due := by
  induction metas generalizing between with
  | nil =>
    rw [List.map_nil, Multiset.coe_nil, add_zero] at reports
    exact reports
  | cons entry rest ih =>
    obtain ⟨uid, metadata⟩ := entry
    unfold markEach
    obtain ⟨events, finished⟩ := marks between uid metadata
    apply ih
    apply Reports.fire
    apply Reports.same _ events finished
    rw [List.map_cons, ← Multiset.cons_coe, ← Multiset.singleton_add, add_comm {_}, ← add_assoc] at reports
    exact reports

theorem reports_settleBatch {mark : StateStore → String → Record → StateStore}
    (marks : ∀ store uid metadata, (mark store uid metadata).events = store.events ∧
      (mark store uid metadata).finished = store.finished) (statKey : StatKey)
    (crashMessage : ℕ → ℕ → String) (metas : List (String × Record)) (store : StateStore) :
    Reports store (settleBatch config mark statKey crashMessage metas store).1 0 := by
  have committed := reports_commit store (.failed (metas.map Prod.fst)) fun backend => backend.commitJobFailures metas
  unfold settleBatch
  dsimp only
  split
  · rename_i archived answer
    rw [answer] at committed
    apply reports_markEach marks
    rw [zero_add]
    simp only [owed, transitions, List.map_map] at committed
    exact committed.same rfl rfl
  · rename_i refused answer
    rw [answer] at committed
    have struck := reports_of_zero committed
      (reports_handleBulkFailureStrike config (metas.map Prod.fst) refused refused.state.queue false)
    split
    · exact struck.same rfl rfl
    · exact struck.same rfl rfl

theorem reports_cascadeFail (store : StateStore) (failedUid : String) :
    Reports store (store.cascadeFail config failedUid).1 0 := by
  unfold StateStore.cascadeFail
  dsimp only
  split
  · exact reports_refl store
  · apply reports_settleBatch
    intro store uid metadata
    exact ⟨rfl, rfl⟩

theorem reports_applyBulkFailure (store : StateStore) (uidsMetas : List (String × Record)) :
    Reports store (store.applyBulkFailure config uidsMetas).1 0 := by
  unfold applyBulkFailure
  dsimp only
  split
  · exact reports_refl store
  · apply reports_settleBatch
    intro store uid metadata
    exact ⟨rfl, rfl⟩

theorem reports_requeueAndCrash (store : StateStore) (uid : String) (snapshot : Option Record) (reason : String)
    (attemptId : Option Int) : Reports store (store.requeueAndCrash uid snapshot reason attemptId).1 0 := by
  unfold requeueAndCrash
  dsimp only
  apply Reports.finishAttempt
  cases snapshot with
  | none => exact reports_same rfl rfl
  | some row => exact reports_same rfl rfl

theorem reports_handleCommitFailureStrike (store : StateStore) (uid reason : String) (snapshot : Option Record)
    (attemptId : Option Int) :
    Reports store (store.handleCommitFailureStrike config uid reason snapshot attemptId).1 0 := by
  unfold handleCommitFailureStrike
  dsimp only
  set row := registerCommitFailure (snapshot.getD (syntheticSnapshot uid)) with given
  set metadata := strikeMetadata (commitFailures (snapshot.getD (syntheticSnapshot uid)) + 1) with struck
  have committed := reports_commit store (.failed [uid]) fun backend =>
    backend.commitJobFailure uid metadata (extractJobPayload row)
  split
  · split
    · rename_i archived answer
      rw [answer] at committed
      apply Reports.fire
      rw [zero_add]
      apply Reports.finishAttempt
      exact (committed.markFailedMemory config uid metadata true).same rfl rfl
    · rename_i refused answer
      rw [answer] at committed
      exact reports_of_zero committed (reports_requeueAndCrash refused uid _ reason attemptId)
  · exact reports_requeueAndCrash store uid _ reason attemptId

end Store

section Strands

variable [Python] (config : StoreConfig) {store after : StateStore} {uid : String}

/-- The next commits are answered with true. -/
def Granted (answers : List Answer) (count : ℕ) : Prop := ∀ answer ∈ answers.take count, answer.accepted = true

omit [Python] in
theorem granted_succ (answers : List Answer) (count : ℕ) : Granted answers (count + 1) ↔
    (answers.headD {}).accepted = true ∧ Granted answers.tail count := by
  unfold Granted
  cases answers with
  | nil => simp
  | cons first rest => simp

theorem bulkStrikeFinalize_answer (store : StateStore) (uid : String) (row : Record) (failures : Int) :
    (store.bulkStrikeFinalize config uid row failures).2 = (store.answers.headD {}).accepted ∧
      (store.bulkStrikeFinalize config uid row failures).1.answers = store.answers.tail := by
  obtain ⟨answer, answers, -⟩ := commit_answer store (.failed [uid]) fun backend =>
    (rfl : (backend.commitJobFailure uid (strikeMetadata failures) (extractJobPayload row)).2 = true)
  unfold bulkStrikeFinalize
  split
  · rename_i refused ended
    rw [ended] at answer answers
    exact ⟨answer, answers⟩
  · rename_i archived ended
    rw [ended] at answer answers
    refine ⟨answer, ?_⟩
    dsimp only
    rw [fireAttemptFinished_answers, ← answers]
    rfl

/-- A refused batch is gone if each of its jobs has reached the threshold and may be archived. -/
theorem strike_unkept_iff (uids : List String) (store : StateStore) (rows : List Record) (kept : Bool) :
    (handleBulkFailureStrike config uids store rows kept).2.2 = false ↔
      kept = false ∧ Reached config.threshold uids rows ∧ Granted store.answers uids.length := by
  induction uids generalizing store rows kept with
  | nil => simp [handleBulkFailureStrike, Reached, Granted]
  | cons uid rest ih =>
    unfold handleBulkFailureStrike Reached
    dsimp only
    set given := (rows.find? fun row => jobUidFromSnapshot row = uid).getD (syntheticSnapshot uid) with found
    obtain ⟨answer, answers⟩ := bulkStrikeFinalize_answer config store uid (registerCommitFailure given)
      (commitFailures given + 1)
    rw [List.length_cons, granted_succ]
    by_cases reached : commitFailures given + 1 ≥ config.threshold
    · rw [if_pos reached]
      split
      · rename_i archived ended
        rw [ended] at answer answers
        dsimp only at answer answers
        rw [ih, answers, ← answer]
        simp [reached, strikeOut]
      · rename_i refused ended
        rw [ended] at answer
        dsimp only at answer
        rw [ih, ← answer]
        simp
    · rw [if_neg reached, ih]
      simp [reached]

/-- The commit of a batch is refused, and one of its jobs is kept. -/
def Crashing (threshold : Int) (uids : List String) (rows : List Record) (answers : List Answer) : Prop :=
  uids ≠ [] ∧ (answers.headD {}).accepted = false ∧
    ¬ (Reached threshold uids rows ∧ Granted answers.tail uids.length)

/-- The failure of the job would be committed, and the run would crash on its cascade. -/
def Strands (store : StateStore) (uid : String) : Prop := (store.answers.headD {}).accepted = true ∧
  Crashing config.threshold (downstream config store uid) store.state.queue store.answers.tail

theorem settleBatch_crashing {mark : StateStore → String → Record → StateStore} (statKey : StatKey)
    (crashMessage : ℕ → ℕ → String) {metas : List (String × Record)} (some : metas ≠ []) (store : StateStore) :
    (Crashing config.threshold (metas.map Prod.fst) store.state.queue store.answers ∧
      ∃ message, (settleBatch config mark statKey crashMessage metas store).2 = .error (.commitCrash message)) ∨
    (¬ Crashing config.threshold (metas.map Prod.fst) store.state.queue store.answers ∧
      ∃ uids, (settleBatch config mark statKey crashMessage metas store).2 = .ok uids) := by
  obtain ⟨answer, answers, state⟩ := commit_answer store (.failed (metas.map Prod.fst)) fun backend =>
    (rfl : (backend.commitJobFailures metas).2 = true)
  unfold settleBatch
  dsimp only
  split
  · rename_i archived ended
    rw [ended] at answer
    refine Or.inr ⟨?_, _, rfl⟩
    rintro ⟨-, refused, -⟩
    rw [← answer] at refused
    cases refused
  · rename_i refused ended
    rw [ended] at answer answers state
    have unkept := strike_unkept_iff config (metas.map Prod.fst) refused refused.state.queue false
    dsimp only at answer answers state
    rw [state, answers] at unkept
    rw [state]
    split
    · rename_i kept
      refine Or.inl ⟨⟨by simpa using some, answer.symm, ?_⟩, _, rfl⟩
      intro gone
      rw [unkept.mpr ⟨rfl, gone⟩] at kept
      cases kept
    · rename_i kept
      refine Or.inr ⟨?_, _, rfl⟩
      rintro ⟨-, -, stays⟩
      rw [Bool.not_eq_true] at kept
      exact stays (unkept.mp kept).2

theorem cascadeFail_crashing (store : StateStore) (failedUid : String) :
    (Crashing config.threshold (downstream config store failedUid) store.state.queue store.answers ∧
      ∃ message, (store.cascadeFail config failedUid).2 = .error (.commitCrash message)) ∨
    (¬ Crashing config.threshold (downstream config store failedUid) store.state.queue store.answers ∧
      ∃ uids, (store.cascadeFail config failedUid).2 = .ok uids) := by
  unfold StateStore.cascadeFail
  dsimp only
  rw [← downstream]
  by_cases nothing : (downstream config store failedUid).isEmpty = true
  · rw [if_pos nothing]
    refine Or.inr ⟨?_, _, rfl⟩
    rintro ⟨some, -⟩
    exact some (List.isEmpty_iff.mp nothing)
  · rw [if_neg nothing]
    have some : (downstream config store failedUid).map (fun uid => (uid, dependencyMetadata failedUid)) ≠ [] := by
      simpa using nothing
    have settled := @settleBatch_crashing _ config
      (fun store jobUid metadata => store.markFailedMemory config jobUid metadata true) .cascadeFailed
      cascadeCrashMessage _ some store
    simpa only [List.map_map, Function.comp_def, List.map_id'] using settled

/-- How an operation ends that may commit a transition of a job: the transition is committed and the operation
returns, nothing is committed and it raises, or it raises although the transition is committed. -/
inductive Concludes {α : Type} (store after : StateStore) (uid : String) (again : α → Bool) (strands : Prop) :
    Except Signal α → Prop where
  | committed {value : α} (plain : ¬ strands) (reports : Reports store after {(uid, again value)}) :
      Concludes store after uid again strands (.ok value)
  | refused {signal : Signal} (plain : ¬ strands) (reports : Reports store after 0) :
      Concludes store after uid again strands (.error signal)
  | stranded {message : String} (cut : strands) (reports : Reports store after {(uid, false)}) :
      Concludes store after uid again strands (.error (.commitCrash message))

/-- The job that is archived first has left the picture for the jobs below it. -/
theorem strands_marked {marked : StateStore} (answers : marked.answers = store.answers.tail)
    (queue : marked.state.queue = store.state.queue) (successes : marked.state.successes = store.state.successes.erase uid)
    {metadata : Record} (failed : marked.state.failed = store.state.failed.set uid metadata)
    (accepted : (store.answers.headD {}).accepted = true) : Strands config store uid ↔
      Crashing config.threshold (downstream config marked uid) marked.state.queue marked.answers := by
  rw [downstream_congr config queue successes failed, queue, answers]
  exact and_iff_right accepted

variable {config}

theorem concludes_applyFailure (store : StateStore) (uid : String) (metadata snapshot : Record) (countAs : StatKey)
    (attemptId : Option Int) : Concludes store
      (store.applyFailure config uid metadata snapshot countAs attemptId).1 uid (fun _ => false)
      (Strands config store uid) (store.applyFailure config uid metadata snapshot countAs attemptId).2 := by
  set normalized := store.normalize config metadata with given
  have takes : ∀ backend : Memory, (backend.commitJobFailure uid normalized (extractJobPayload snapshot)).2 = true :=
    fun _ => rfl
  have committed := reports_commit store (.failed [uid]) fun backend =>
    backend.commitJobFailure uid normalized (extractJobPayload snapshot)
  obtain ⟨answer, answers, state⟩ := commit_answer store (.failed [uid]) takes
  unfold applyFailure
  dsimp only
  rw [← given]
  split
  · rename_i archived ended
    rw [ended] at committed answer answers state
    dsimp only at committed answer answers state
    set marked := ((archived.markFailedMemory config uid normalized true).recordStat countAs 1).finishAttempt
      attemptId .failed (attemptError normalized) with counted
    have alike := alike_finishAttempt ((archived.markFailedMemory config uid normalized true).recordStat countAs 1)
      attemptId .failed (attemptError normalized)
    rw [← counted] at alike
    have owes : Reports store marked {(uid, false)} := by
      apply Reports.finishAttempt
      exact (committed.markFailedMemory config uid normalized true).same rfl rfl
    have queue : marked.state.queue = store.state.queue := by
      rw [alike.state, ← state]
      rfl
    have successes : marked.state.successes = store.state.successes.erase uid := by
      rw [alike.state, ← state]
      rfl
    have failed : marked.state.failed = store.state.failed.set uid (archived.normalize config normalized) := by
      rw [alike.state, ← state]
      rfl
    have strands := strands_marked config (alike.answers.trans answers) queue successes failed answer.symm
    have cascade := reports_cascadeFail config marked uid
    have whole := owes.trans cascade
    rw [add_zero] at whole
    rcases cascadeFail_crashing config marked uid with ⟨crashing, message, raised⟩ | ⟨quiet, uids, done⟩
    · split
      · rename_i after signal outcome
        rw [outcome] at raised whole
        cases raised
        exact .stranded (strands.mpr crashing) whole
      · rename_i outcome
        rw [outcome] at raised
        cases raised
    · split
      · rename_i outcome
        rw [outcome] at done
        cases done
      · rename_i after values outcome
        rw [outcome] at whole
        exact .committed (fun cut => quiet (strands.mp cut)) whole
  · rename_i refused ended
    rw [ended] at committed answer
    dsimp only at committed answer
    apply Concludes.refused
    · rintro ⟨accepted, -⟩
      rw [← answer] at accepted
      cases accepted
    · exact reports_of_zero committed (reports_handleCommitFailureStrike config refused uid _ (some snapshot) attemptId)

theorem concludes_applySuccess (store : StateStore) (request : StateStore.SuccessRequest) :
    Concludes store (store.applySuccess config request).1 request.jobUid (fun _ => false) False
      (store.applySuccess config request).2 := by
  unfold applySuccess
  dsimp only
  set success : Memory.Success := ⟨request.jobUid, store.successMetadata request.jobUid request.resultMetadata
    request.artifacts request.inputs request.runId, request.attemptId, request.executionId, some store.now.val,
    request.spawned, request.cursorUpdates⟩ with asked
  have committed := reports_commit store (.succeeded request.jobUid (request.spawned.map jobUidFromSnapshot))
    fun backend => backend.commitJobSuccess success
  split
  · rename_i taken ended
    rw [ended] at committed
    apply Concludes.committed id
    split
    · exact committed.same rfl rfl
    · exact committed.same rfl rfl
  · rename_i refused ended
    rw [ended] at committed
    apply Concludes.refused id
    exact reports_of_zero (committed.same rfl rfl) (reports_handleCommitFailureStrike config _ request.jobUid _ _ _)

theorem concludes_applyRetry (store : StateStore) (uid : String) (snapshot retrySnapshot : Record)
    (transientKind : Option String) (attemptId : Option Int) (errorMessage : Option Json) :
    Concludes store (store.applyRetry config uid snapshot retrySnapshot transientKind attemptId errorMessage).1 uid
      (fun _ => true) False
      (store.applyRetry config uid snapshot retrySnapshot transientKind attemptId errorMessage).2 := by
  have committed := reports_commit store (.retried uid) fun backend =>
    backend.commitRetry uid retrySnapshot (config.planRequeue retrySnapshot transientKind)
  unfold applyRetry
  dsimp only
  split
  · rename_i retried ended
    rw [ended] at committed
    apply Concludes.committed id
    apply Reports.finishAttempt
    cases transientKind.bind transientKindStatKey with
    | none => exact committed.same rfl rfl
    | some key => exact committed.same rfl rfl
  · rename_i refused ended
    rw [ended] at committed
    apply Concludes.refused id
    exact reports_of_zero committed (reports_handleCommitFailureStrike config refused uid _ (some snapshot) attemptId)

theorem reports_applySkip (store : StateStore) (uid : String) (snapshot : Option Record) (attemptId : Option Int) :
    Reports store (store.applySkip uid snapshot attemptId).1 0 := by
  have committed := reports_commit store (.skipped uid) fun backend => backend.commitSkip uid
  unfold applySkip
  split
  · rename_i skipped ended
    rw [ended] at committed
    dsimp only
    apply Reports.finishAttempt
    exact committed.same rfl rfl
  · rename_i refused ended
    rw [ended] at committed
    exact reports_of_zero committed (reports_requeueAndCrash refused uid snapshot _ attemptId)

theorem reports_requeueTransient (store : StateStore) (snapshot : Record) (transientKind : String)
    (attemptId : Option Int) (errorMessage : Option Json) :
    Reports store (store.requeueTransient config snapshot transientKind attemptId errorMessage) 0 := by
  unfold requeueTransient
  dsimp only
  apply Reports.finishAttempt
  cases transientKindStatKey transientKind with
  | none => exact reports_same rfl rfl
  | some key => exact reports_same rfl rfl

/-- What a step leaves due: nothing, or the failure of a job if the step strands it. -/
def Leaves (strands : Prop) (store after : StateStore) : Prop :=
  (¬ strands ∧ Reports store after 0) ∨ (strands ∧ ∃ uid, Reports store after {(uid, false)})

omit [Python] in
theorem leaves_of_reports {strands : Prop} (plain : ¬ strands) (reports : Reports store after 0) :
    Leaves strands store after := Or.inl ⟨plain, reports⟩

omit [Python] in
theorem Leaves.congr {strands other : Prop} (leaves : Leaves strands store after) (same : other ↔ strands) :
    Leaves other store after := by
  unfold Leaves
  rw [same]
  exact leaves

omit [Python] in
theorem Leaves.after_zero {strands : Prop} {between : StateStore} (first : Reports store between 0)
    (leaves : Leaves strands between after) : Leaves strands store after := by
  rcases leaves with ⟨plain, reports⟩ | ⟨cut, uid, reports⟩
  · exact Or.inl ⟨plain, reports_of_zero first reports⟩
  · exact Or.inr ⟨cut, uid, reports_of_zero first reports⟩

omit [Python] in
theorem Leaves.before_zero {strands : Prop} {between : StateStore} (leaves : Leaves strands store between)
    (last : Reports between after 0) : Leaves strands store after := by
  rcases leaves with ⟨plain, reports⟩ | ⟨cut, uid, reports⟩
  · exact Or.inl ⟨plain, reports_of_zero reports last⟩
  · have whole := reports.trans last
    rw [add_zero] at whole
    exact Or.inr ⟨cut, uid, whole⟩

theorem leaves_rejectAndCommit (store : StateStore) (uid : String) (snapshot metadata : Record) (countAs : StatKey)
    (attemptId : Option Int) : Leaves (Strands config store uid) store
      (store.rejectAndCommit config uid snapshot metadata countAs attemptId).1 := by
  have concludes := @concludes_applyFailure _ config store uid metadata snapshot countAs attemptId
  unfold StateStore.rejectAndCommit
  split
  · rename_i failed archived ended
    rw [ended] at concludes
    cases concludes with
    | committed plain reports =>
      apply leaves_of_reports plain
      apply Reports.fire
      rw [zero_add]
      exact reports
  · rename_i struck message ended
    rw [ended] at concludes
    cases concludes with
    | refused plain reports => exact leaves_of_reports plain reports
  · rename_i raised signal terminated ended
    rw [ended] at concludes
    cases concludes with
    | refused plain reports => exact leaves_of_reports plain reports
    | stranded cut reports => exact Or.inr ⟨cut, uid, reports⟩

end Strands

section Completion

variable [Python] (config : StoreConfig)

theorem reports_settle (runtime : Runtime) (uid : String) : Reports runtime.store (runtime.settle uid).store 0 := by
  unfold Runtime.settle Runtime.mapStore
  dsimp only
  split <;> exact reports_same rfl rfl

theorem reports_requeueUncommitted (runtime : Runtime) (entry : InFlightJob) :
    Reports runtime.store (runtime.requeueUncommitted entry).store 0 := by
  unfold Runtime.requeueUncommitted Runtime.mapStore
  dsimp only
  split <;> exact reports_same rfl rfl

/-- The result ends the job as a failure: its retries are used up, or it is neither a retry nor a success. -/
def Fails (entry : InFlightJob) (result : ExecutionResult) : Prop :=
  if result.retryRequested then result.transientKind = none ∧ entry.job.attemptNo.val > entry.job.maxRetries.getD 3
  else result.success = false

omit [Python] in
/-- The failure of a job as the result of its completion. -/
theorem Concludes.settled {store : StateStore} {uid : String} {strands : Prop}
    {outcome : StateStore × Except Signal Record} {answer : StateStore × Except Signal Bool}
    (concludes : Concludes store outcome.1 uid (fun _ => false) strands outcome.2)
    (raises : ∀ raised signal, outcome = (raised, .error signal) → answer = (raised, .error signal))
    (returns : ∀ failed archived, outcome = (failed, .ok archived) → answer = (failed, .ok false)) :
    Concludes store answer.1 uid id strands answer.2 := by
  obtain ⟨after, signal | archived⟩ := outcome
  · rw [raises after signal rfl]
    cases concludes with
    | refused plain reports => exact .refused plain reports
    | stranded cut reports => exact .stranded cut reports
  · rw [returns after archived rfl]
    cases concludes with
    | committed plain reports => exact .committed plain reports

theorem concludes_commitResult (runtime : Runtime) (entry : InFlightJob) (result : ExecutionResult)
    (surroundings : Surroundings) :
    let outcome := Runtime.commitResult config runtime entry result surroundings
    Concludes runtime.store outcome.1 entry.jobUid id (Fails entry result ∧ Strands config runtime.store entry.jobUid)
      outcome.2 := by
  have failure := fun metadata => @concludes_applyFailure _ config runtime.store entry.jobUid metadata entry.snapshot
    .failed entry.attemptId
  unfold Runtime.commitResult
  dsimp only
  by_cases again : result.retryRequested = true
  · rw [if_pos again]
    unfold Runtime.applyRetry
    dsimp only
    by_cases spent : ¬ result.transientKind.isSome = true ∧ entry.job.attemptNo.val > entry.job.maxRetries.getD 3
    · rw [if_pos spent]
      have fails : Fails entry result := by
        unfold Fails
        rw [if_pos again]
        exact ⟨by simpa using spent.1, spent.2⟩
      rw [and_iff_right fails]
      apply (failure _).settled
      · intro raised signal ended
        rw [ended]
      · intro failed archived ended
        rw [ended]
    · rw [if_neg spent]
      have runsOn : ¬ Fails entry result := by
        unfold Fails
        rw [if_pos again]
        simpa using spent
      have concludes := @concludes_applyRetry _ config runtime.store entry.jobUid entry.snapshot
        (Runtime.buildRetryJobSnapshot entry.job entry.snapshot result.retryError result.transientKind.isSome)
        result.transientKind entry.attemptId result.retryError
      split
      · rename_i raised signal ended
        rw [ended] at concludes
        cases concludes with
        | refused plain reports => exact .refused (fun both => runsOn both.1) reports
        | stranded cut reports => exact cut.elim
      · rename_i retried done ended
        rw [ended] at concludes
        cases concludes with
        | committed plain reports => exact .committed (fun both => runsOn both.1) reports
  · rw [if_neg again]
    by_cases succeeds : result.success = true
    · rw [if_pos succeeds]
      have noFailure : ¬ Fails entry result := by
        unfold Fails
        rw [if_neg again, succeeds]
        decide
      unfold Runtime.applySuccess
      have concludes := @concludes_applySuccess _ config runtime.store {
        jobUid := entry.jobUid
        resultMetadata := result.resultMetadata
        spawned := Runtime.collectSpawnedJobSnapshots config runtime.store result.spawnedJobs
        cursorUpdates := Dict.ofPairs result.cursorUpdates
        artifacts := surroundings.artifacts
        inputs := surroundings.inputs
        runId := runtime.runId
        snapshot := entry.snapshot
        attemptId := entry.attemptId
        executionId := entry.executionId }
      split
      · rename_i raised signal ended
        rw [ended] at concludes
        cases concludes with
        | refused plain reports => exact .refused (fun both => noFailure both.1) reports
        | stranded cut reports => exact cut.elim
      · rename_i succeeded done ended
        rw [ended] at concludes
        cases concludes with
        | committed plain reports => exact .committed (fun both => noFailure both.1) reports
    · rw [if_neg succeeds]
      have fails : Fails entry result := by
        unfold Fails
        rw [if_neg again]
        exact Bool.eq_false_iff.mpr succeeds
      rw [and_iff_right fails]
      unfold Runtime.applyFailure
      apply (failure _).settled
      · intro raised signal ended
        rw [ended]
      · intro failed archived ended
        rw [ended]

/-- The completion comes to commit a failure. -/
def Settling (runtime : Runtime) (entry : InFlightJob) (result : ExecutionResult) (surroundings : Surroundings) : Prop :=
  entry.jobUid ∈ runtime.store.state.inFlightUids ∧ (result.artifactError <|> surroundings.artifactFault) = none ∧
    Fails entry (Runtime.checkedResult result surroundings)

theorem concludes_applyResult (runtime : Runtime) (entry : InFlightJob) (result : ExecutionResult)
    (surroundings : Surroundings) :
    let outcome := Runtime.applyResult config runtime entry result surroundings
    Concludes runtime.store outcome.1.store entry.jobUid id
      (Settling runtime entry result surroundings ∧ Strands config runtime.store entry.jobUid) outcome.2 := by
  unfold Runtime.applyResult
  dsimp only
  by_cases absent : entry.jobUid ∉ runtime.store.state.inFlightUids
  · rw [if_pos absent]
    exact .refused (fun both => absent both.1.1) (reports_same rfl rfl)
  · rw [if_neg absent]
    cases fault : result.artifactError <|> surroundings.artifactFault with
    | some message =>
      refine .refused ?_ (reports_same rfl rfl)
      rintro ⟨⟨-, none, -⟩, -⟩
      rw [fault] at none
      cases none
    | none =>
      have concludes := concludes_commitResult config
        (runtime.suspendAll surroundings.instant result.resourceSuspensions) entry
        (Runtime.checkedResult result surroundings) surroundings
      have same : (Settling runtime entry result surroundings ∧ Strands config runtime.store entry.jobUid) ↔
          (Fails entry (Runtime.checkedResult result surroundings) ∧ Strands config runtime.store entry.jobUid) := by
        unfold Settling
        simp [not_not.mp absent, fault]
      rw [same]
      exact concludes

theorem leaves_completeAndSettle (runtime : Runtime) (entry : InFlightJob) (result : ExecutionResult)
    (surroundings : Surroundings) :
    Leaves (Settling runtime entry result surroundings ∧ Strands config runtime.store entry.jobUid) runtime.store
      (Runtime.completeAndSettle config runtime entry result surroundings).1.store := by
  have concludes := concludes_applyResult config runtime entry result surroundings
  have settled : ∀ completed : Runtime,
      Reports completed.store ((completed.requeueUncommitted entry).settle entry.jobUid).store 0 := by
    intro completed
    exact reports_of_zero (reports_requeueUncommitted completed entry) (reports_settle _ _)
  unfold Runtime.completeAndSettle
  dsimp only
  refine Leaves.before_zero ?_ (settled _)
  unfold Runtime.completeJob
  dsimp only
  dsimp only at concludes
  split
  · rename_i applied message ended
    rw [ended] at concludes
    cases concludes with
    | refused plain reports => exact leaves_of_reports plain reports
  · rename_i applied signal terminated ended
    rw [ended] at concludes
    cases concludes with
    | refused plain reports => exact leaves_of_reports plain reports
    | stranded cut reports => exact Or.inr ⟨cut, entry.jobUid, reports⟩
  · rename_i applied willRetry ended
    rw [ended] at concludes
    cases concludes with
    | committed plain reports =>
      have fired : Reports runtime.store ((applied.releaseResources entry).mapStore fun store =>
          store.fireAttemptFinished entry.jobUid ⟨(Runtime.checkedResult result surroundings).success, willRetry,
            (Runtime.checkedResult result surroundings).resultMetadata⟩).store 0 := by
        apply Reports.fire
        rw [zero_add]
        exact reports
      split
      · exact leaves_of_reports plain fired
      · exact leaves_of_reports plain fired

end Completion

section Dispatching

open EngineRuntime

variable [Python] (config : StoreConfig) {engine : EngineRuntime}

/-- The dispatch failures of the row reach the threshold with the next one. -/
def Spent (row : Record) : Prop :=
  (JobRuntimeState.fromDict (Record.get row "runtime")).dispatchFailures + 1 ≥ config.threshold

/-- The worker of a leased job does not come to run, and not because of the engine or the user. -/
def Unstarted (manager : ResourceManager) (lease : ℕ) : Spawning → Prop
  | .raised _ _ => True
  | .started now => (manager.claimLease now lease).2.isSome
  | .asserted _ | .interrupted _ => False

/-- The block of the lease comes to commit a failure: for a payload that is not valid, or for one exception of the
dispatch too many. A rate limit is no such exception. -/
def Unspawned (resources : ResourceManager) (row : Record) (job : Job) (launching : Launching) : Prop :=
  match resources.reserve launching.reserved job.taskType.val (job.resources.map Dict.entries) job.uid with
  | (_, .error (.rateLimitUnavailable _ _)) => False
  | (_, .error _) => Spent config row
  | (held, .ok lease) => payloadErrors config job ≠ [] ∨ Spent config row ∧ Unstarted held lease launching.spawning

/-- What is chosen is rejected for good behind its trace. -/
def Rejects (resources : ResourceManager) (row : Record) (job : Job) (launching : Launching) : Prop :=
  config.tasks.contains job.taskType.val = false ∨ job.uid ∉ launching.held ∧ launching.cleanupFault = none ∧
    Unspawned config (resources.applySuspendSignals launching.drained launching.signals) row job launching

variable {config}

/-- Only the rows and the outcomes of other jobs matter to the jobs below a failed one. -/
theorem strands_congr {store other : StateStore} {uid : String} (answers : other.answers = store.answers)
    (queue : other.state.queue = store.state.queue) (successes : other.state.successes = store.state.successes)
    (failed : other.state.failed = store.state.failed) : Strands config other uid ↔ Strands config store uid := by
  have excluded : other.selectionExcludedUids config = store.selectionExcludedUids config := by
    simp only [selectionExcludedUids, PipelineState.queuedJobs, queue]
  have same : downstream config other uid = downstream config store uid := by
    unfold downstream
    rw [excluded]
    simp only [PipelineState.cascadeFail, queue]
    rw [cascadeFrom_congr queue (fun key _ => by rw [successes, failed]; exact ⟨rfl, rfl⟩) _ _
      (List.mem_singleton_self uid)]
  unfold Strands
  rw [answers, same, queue]

theorem spent_activation (row : Record) (activation : Json) :
    Spent config (row.set "activation_no" activation) ↔ Spent config row := by
  unfold Spent
  rw [Record.get_set_of_ne row activation (by decide : "runtime" ≠ "activation_no")]

theorem rejects_activation (resources : ResourceManager) (row : Record) (job : Job) (launching : Launching)
    (activation : {n : ℕ // 1 ≤ n}) :
    Rejects config resources (row.set "activation_no" (.int activation.val)) { job with activationNo := activation }
      launching ↔ Rejects config resources row job launching := by
  unfold Rejects Unspawned
  simp only [spent_activation]
  rfl

theorem leaves_engineReject (engine : EngineRuntime) (uid : String) (row metadata : Record) (countAs : StatKey)
    (attemptId : Option Int) : Leaves (Strands config engine.runtime.store uid) engine.runtime.store
      (engine.rejectAndCommit config uid row metadata countAs attemptId).1.runtime.store :=
  leaves_rejectAndCommit engine.runtime.store uid row metadata countAs attemptId

theorem leaves_handleDispatchFailure (engine : EngineRuntime) (row : Record) (job : Job) (attemptId : Option Int)
    (message : String) : Leaves (Spent config row ∧ Strands config engine.runtime.store job.uid) engine.runtime.store
      (engine.handleDispatchFailure config row job attemptId message).1.runtime.store := by
  set settled : EngineRuntime := { engine with runtime := engine.runtime.settle job.uid } with left
  have quiet : Reports engine.runtime.store settled.runtime.store 0 := reports_settle engine.runtime job.uid
  have same : Strands config settled.runtime.store job.uid ↔ Strands config engine.runtime.store job.uid := by
    rw [left]
    unfold Runtime.settle Runtime.mapStore
    dsimp only
    split
    · exact strands_congr rfl rfl rfl rfl
    · exact Iff.rfl
  unfold EngineRuntime.handleDispatchFailure
  dsimp only
  by_cases spent : (JobRuntimeState.fromDict (Record.get row "runtime")).dispatchFailures + 1 ≥ config.threshold
  · rw [if_pos spent]
    apply Leaves.after_zero quiet
    apply (leaves_engineReject settled job.uid _ _ _ attemptId).congr
    rw [same]
    exact and_iff_right spent
  · rw [if_neg spent]
    apply leaves_of_reports fun both => spent both.1
    have requeued : Reports engine.runtime.store
        (settled.requeueFront (Lifecycle.recordDispatchFailure row)).runtime.store 0 := quiet.same rfl rfl
    exact requeued.finishAttempt attemptId .requeued _

/-- The block of the lease, with what is done about the exceptions that leave it. -/
theorem leaves_spawn (engine : EngineRuntime) (row : Record) (job : Job) (attemptId : Option Int) (execution : Text)
    (launching : Launching) :
    Leaves (Unspawned config engine.runtime.resources row job launching ∧ Strands config engine.runtime.store job.uid)
      engine.runtime.store (match engine.spawnEntry config row job attemptId execution launching with
        | (spawned, .ok entry) => (spawned, Except.ok entry)
        | (faulty, .error fault) => handled (faulty.handleFault config row job attemptId fault)).1.runtime.store := by
  have calm : ∀ {strands : Prop} {after : EngineRuntime}, ¬ strands →
      Reports engine.runtime.store after.runtime.store 0 → Leaves strands engine.runtime.store after.runtime.store :=
    fun plain reports => leaves_of_reports plain reports
  unfold EngineRuntime.spawnEntry Unspawned
  rcases reserved : engine.runtime.resources.reserve launching.reserved job.taskType.val
    (job.resources.map Dict.entries) job.uid with ⟨resources, refusal | lease⟩
  · cases refusal with
    | rateLimitUnavailable name wait =>
      exact calm (fun both => both.1) (reports_requeueTransient engine.runtime.store row _ attemptId _)
    | notRegistered name => exact leaves_handleDispatchFailure (engine.withResources resources) row job attemptId _
    | negativeAmount amount => exact leaves_handleDispatchFailure (engine.withResources resources) row job attemptId _
    | exceedsCapacity amount capacity =>
      exact leaves_handleDispatchFailure (engine.withResources resources) row job attemptId _
  · dsimp only
    cases invalid : payloadErrors config job with
    | cons error errors =>
      have rejected := @leaves_engineReject _ config (engine.withResources (resources.releaseLease lease)) job.uid row
        (payloadMetadata (error :: errors)) .failed attemptId
      apply Leaves.congr _ (and_iff_right (Or.inl (List.cons_ne_nil error errors)))
      dsimp only
      split
      · rename_i spawned ended
        split at ended
        · rename_i after done
          rw [done] at rejected
          cases ended
          exact rejected
        · cases ended
      · rename_i faulty fault ended
        split at ended
        · cases ended
        · rename_i after signal raised
          rw [raised] at rejected
          cases ended
          exact rejected
    | nil =>
      have failed := fun manager message => @leaves_handleDispatchFailure _ config
        (engine.withResources manager) row job attemptId message
      have both : ∀ {unstarted : Prop}, (([] : List String) ≠ [] ∨ Spent config row ∧ unstarted) ∧
          Strands config engine.runtime.store job.uid ↔
            unstarted ∧ Spent config row ∧ Strands config engine.runtime.store job.uid := by
        intro unstarted
        simp only [ne_eq, not_true_eq_false, false_or]
        constructor
        · exact fun ⟨⟨spent, way⟩, cut⟩ => ⟨way, spent, cut⟩
        · exact fun ⟨way, spent, cut⟩ => ⟨⟨spent, way⟩, cut⟩
      apply Leaves.congr _ both
      cases launching.spawning with
      | raised claimed message =>
        apply Leaves.congr _ (and_iff_right trivial)
        cases claimed with
        | none => exact failed (resources.releaseLease lease) message
        | some now => exact failed ((resources.claimLease now lease).1.releaseLease lease) message
      | asserted message => exact calm (fun way => way.1) (reports_same rfl rfl)
      | interrupted tracked =>
        refine calm (fun way => way.1) ?_
        cases tracked with
        | none =>
          dsimp only [handleFault]
          split
          · exact reports_same rfl rfl
          · exact reports_same rfl rfl
        | some now =>
          dsimp only [handleFault]
          split
          · exact reports_same rfl rfl
          · exact reports_same rfl rfl
      | started now =>
        dsimp only [Unstarted]
        rcases claimed : resources.claimLease now lease with ⟨manager, refusal⟩
        cases refusal with
        | some refusal =>
          apply Leaves.congr _ (and_iff_right rfl)
          exact failed (manager.releaseLease lease) refusal.message
        | none =>
          refine calm ?_ (reports_same rfl rfl)
          rintro ⟨claim, -⟩
          cases claim

theorem leaves_dispatchOpened (engine : EngineRuntime) (row : Record) (job : Job) (attemptId : Option Int)
    (execution : Text) (launching : Launching) :
    Leaves (Rejects config engine.runtime.resources row job launching ∧ Strands config engine.runtime.store job.uid)
      engine.runtime.store
      (engine.dispatchOpened config row job attemptId execution launching).1.runtime.store := by
  unfold EngineRuntime.dispatchOpened Rejects
  by_cases unhandled : config.tasks.contains job.taskType.val = false
  · rw [if_pos unhandled]
    apply Leaves.congr _ (and_iff_right (Or.inl unhandled))
    exact leaves_engineReject engine job.uid row noHandlerMetadata .failed attemptId
  · rw [if_neg unhandled]
    by_cases orphaned : job.uid ∈ launching.held
    · rw [if_pos orphaned]
      apply leaves_of_reports (by simp [unhandled, orphaned])
      exact reports_requeueTransient engine.runtime.store row _ attemptId _
    · rw [if_neg orphaned]
      dsimp only
      cases cleanup : launching.cleanupFault with
      | some message => exact leaves_of_reports (by simp [unhandled]) (reports_same rfl rfl)
      | none =>
        have spawned := @leaves_spawn _ config (engine.withResources
          (engine.runtime.resources.applySuspendSignals launching.drained launching.signals)) row job attemptId
          execution launching
        apply Leaves.congr spawned
        have gate : (config.tasks.contains job.taskType.val = false ∨ job.uid ∉ launching.held ∧
            (none : Option String) = none ∧
            Unspawned config (engine.runtime.resources.applySuspendSignals launching.drained launching.signals) row job
              launching) ↔ Unspawned config
                (engine.runtime.resources.applySuspendSignals launching.drained launching.signals) row job launching := by
          rw [or_iff_right unhandled, and_iff_right orphaned, and_iff_right rfl]
        rw [gate]
        exact Iff.rfl

omit [Python] in
theorem openAttempt_same (engine : EngineRuntime) (job : Job) (openFault : Option String) :
    let opened := (engine.openAttempt job openFault).1
    Reports engine.runtime.store opened.runtime.store 0 ∧ opened.runtime.store.answers = engine.runtime.store.answers ∧
      opened.runtime.store.state = engine.runtime.store.state ∧ opened.runtime.resources = engine.runtime.resources := by
  unfold openAttempt recordAttemptDispatch
  cases openFault with
  | some message => exact ⟨reports_same rfl rfl, rfl, rfl, rfl⟩
  | none =>
    dsimp only
    split
    · exact ⟨reports_same rfl rfl, rfl, rfl, rfl⟩
    · split
      · exact ⟨reports_same rfl rfl, rfl, rfl, rfl⟩
      · exact ⟨reports_same rfl rfl, rfl, rfl, rfl⟩

theorem leaves_dispatchAdmitted (engine : EngineRuntime) (row : Record) (job : Job) (launching : Launching) :
    Leaves (launching.openFault = none ∧ Rejects config engine.runtime.resources row job launching ∧
      Strands config engine.runtime.store job.uid) engine.runtime.store
      (engine.dispatchAdmitted config row job launching).1.runtime.store := by
  obtain ⟨reports, answers, state, resources⟩ := openAttempt_same engine job launching.openFault
  unfold dispatchAdmitted
  split
  · rename_i opened message ended
    rw [ended] at reports
    have faulty : launching.openFault ≠ none := by
      intro clear
      rw [clear] at ended
      cases ended
    exact leaves_of_reports (fun all => faulty all.1) (reports.same rfl rfl)
  · rename_i opened attemptId execution ended
    rw [ended] at reports answers state resources
    dsimp only at reports answers state resources
    have clear : launching.openFault = none := by
      cases fault : launching.openFault with
      | none => rfl
      | some message =>
        rw [fault] at ended
        cases ended
    apply Leaves.after_zero reports
    apply (leaves_dispatchOpened opened row job attemptId execution launching).congr
    rw [resources, strands_congr answers (by rw [state]) (by rw [state]) (by rw [state])]
    exact and_iff_right clear

theorem reports_dispatchSkip (engine : EngineRuntime) (row : Record) (job : Job) (launching : Launching) :
    Reports engine.runtime.store (engine.dispatchSkip row job launching).1.runtime.store 0 := by
  obtain ⟨reports, -⟩ := openAttempt_same engine job launching.openFault
  have skipped := fun attemptId => reports_applySkip
    (engine.openAttempt job launching.openFault).1.runtime.store job.uid (some row) attemptId
  unfold dispatchSkip
  dsimp only
  split
  · rename_i store done ended
    have after := skipped (openedId (engine.openAttempt job launching.openFault).2)
    rw [ended] at after
    exact reports_of_zero reports (after.same rfl rfl)
  · rename_i store signal ended
    have after := skipped (openedId (engine.openAttempt job launching.openFault).2)
    rw [ended] at after
    exact reports_of_zero reports after

variable (config)

/-- The dispatch fails a job for its dependency and strands the failure. -/
def StrandsDepFailed (engine : EngineRuntime) (idx : ℕ) (pendingDepFailure : Option String) : Prop :=
  match engine.runtime.store.state.popJob idx with
  | none => False
  | some (row, state) => match Job.fromDict row with
      | .error _ => False
      | .ok job => pendingDepFailure.isSome ∧
          Strands config { engine.runtime.store with state := state } job.uid

/-- The dispatch rejects an admitted job and strands the failure. -/
def StrandsRunnable (engine : EngineRuntime) (idx : ℕ) (launching : Launching) : Prop :=
  match (engine.runtime.store.state.queue[idx]?).bind fun row => row.get? "task_type" with
  | none => False
  | some taskType => match (engine.fillIn config idx taskType).runtime.store.state.popJob idx with
      | none => False
      | some (row, state) => match Job.fromDict row with
          | .error _ => False
          | .ok job => (1 < job.attemptNo.val ∨ launching.admission.toOption = some true) ∧
              launching.openFault = none ∧ Rejects config engine.runtime.resources row job launching ∧
              Strands config { engine.runtime.store with state := state } job.uid

def StrandsDispatch (engine : EngineRuntime) (sched : ScheduleResult) (launching : Launching) : Prop :=
  match sched.runnableIdx with
  | none => False
  | some idx =>
      if sched.kind = .depFailed then StrandsDepFailed config engine idx sched.pendingDepFailure
      else StrandsRunnable config engine idx launching

variable {config}

theorem leaves_dispatchDepFailed (engine : EngineRuntime) (idx : ℕ) (pendingDepFailure : Option String)
    (launching : Launching) : Leaves (StrandsDepFailed config engine idx pendingDepFailure) engine.runtime.store
      (engine.dispatchDepFailed config idx pendingDepFailure launching).1.runtime.store := by
  unfold dispatchDepFailed StrandsDepFailed
  rcases engine.runtime.store.state.popJob idx with _ | ⟨row, state⟩
  · exact leaves_of_reports id (reports_same rfl rfl)
  · dsimp only
    set popped := engine.mapStore fun store => { store with state := state } with removed
    cases Job.fromDict row with
    | error refusal => exact leaves_of_reports id (reports_same rfl rfl)
    | ok job =>
      obtain ⟨reports, answers, opened, -⟩ := openAttempt_same popped job launching.openFault
      have whole : Reports engine.runtime.store (popped.openAttempt job launching.openFault).1.runtime.store 0 :=
        reports_of_zero (reports_same rfl rfl) reports
      cases pendingDepFailure with
      | none => exact leaves_of_reports (by simp) whole
      | some failedUid =>
        apply Leaves.after_zero whole
        apply (leaves_engineReject _ job.uid row _ _ _).congr
        rw [strands_congr answers (by rw [opened]) (by rw [opened]) (by rw [opened])]
        exact and_iff_right rfl

theorem leaves_dispatchRunnable (engine : EngineRuntime) (idx : ℕ) (launching : Launching) :
    Leaves (StrandsRunnable config engine idx launching) engine.runtime.store
      (engine.dispatchRunnable config idx launching).1.runtime.store := by
  unfold dispatchRunnable StrandsRunnable
  cases (engine.runtime.store.state.queue[idx]?).bind fun row => row.get? "task_type" with
  | none => exact leaves_of_reports id (reports_same rfl rfl)
  | some taskType =>
    dsimp only
    set prepared := engine.fillIn config idx taskType with filled
    have first : Reports engine.runtime.store prepared.runtime.store 0 := reports_same rfl rfl
    rcases prepared.runtime.store.state.popJob idx with _ | ⟨row, state⟩
    · exact leaves_of_reports id first
    · dsimp only
      set popped := prepared.mapStore fun store => { store with state := state } with removed
      have gone : Reports engine.runtime.store popped.runtime.store 0 := reports_same rfl rfl
      cases Job.fromDict row with
      | error refusal => exact leaves_of_reports id first
      | ok job =>
        dsimp only
        by_cases young : job.attemptNo.val ≤ 1
        · rw [if_pos young]
          have early : ¬ 1 < job.attemptNo.val := by omega
          cases launching.admission with
          | error message => exact leaves_of_reports (by simp [early, Except.toOption]) first
          | ok admitted =>
            cases admitted with
            | false =>
              apply leaves_of_reports (by simp [early, Except.toOption])
              exact reports_of_zero gone (reports_dispatchSkip popped row job launching)
            | true =>
              apply Leaves.after_zero gone
              dsimp only
              apply (leaves_dispatchAdmitted popped _ _ launching).congr
              rw [rejects_activation]
              exact and_iff_right (Or.inr rfl)
        · rw [if_neg young]
          apply Leaves.after_zero gone
          apply (leaves_dispatchAdmitted popped row job launching).congr
          exact and_iff_right (Or.inl (by omega))

theorem leaves_dispatchJob (engine : EngineRuntime) (sched : ScheduleResult) (launching : Launching) :
    Leaves (StrandsDispatch config engine sched launching) engine.runtime.store
      (engine.dispatchJob config sched launching).1.runtime.store := by
  unfold dispatchJob StrandsDispatch
  cases sched.runnableIdx with
  | none => exact leaves_of_reports id (reports_refl _)
  | some idx =>
    dsimp only
    by_cases pending : sched.kind = .depFailed
    · rw [if_pos pending, if_pos pending]
      exact leaves_dispatchDepFailed engine idx sched.pendingDepFailure launching
    · rw [if_neg pending, if_neg pending]
      exact leaves_dispatchRunnable engine idx launching

end Dispatching

section Machine

open EngineRuntime

variable [Python] (config : StoreConfig) {store after : StateStore}

theorem reports_enqueueAll (batches : List (List Record × Bool)) (store : StateStore) :
    Reports store (batches.foldl (fun store batch => store.enqueueElsewhere batch.1 batch.2) store) 0 := by
  induction batches generalizing store with
  | nil => exact reports_refl store
  | cons batch rest ih =>
    have first : Reports store (store.enqueueElsewhere batch.1 batch.2) 0 :=
      ⟨[.enqueued (store.backend.enqueueJobs batch.1 batch.2).2], [], rfl, by simp [enqueueElsewhere],
        by simp [transitions]⟩
    exact reports_of_zero first (ih _)

theorem reports_loadAndRepair (store : StateStore) (window : Recovery.Window) :
    Reports store (Recovery.loadAndRepair store window) 0 := by
  unfold Recovery.loadAndRepair
  dsimp only
  split
  · exact (reports_enqueueAll window.enqueued store).same rfl rfl
  · have deleted : Reports store { store with backend := (store.backend.deleteSuccesses
        (store.backend.successes.keys.filter store.backend.failed.contains)).1 } 0 := reports_same rfl rfl
    exact (reports_of_zero deleted (reports_enqueueAll window.enqueued _)).same rfl rfl

omit [Python] in
theorem reports_recordAttemptSkip (store : StateStore) (job : Job) (errorMessage : String) (runId : Option String)
    (dispatchNo : ℕ) : Reports store (store.recordAttemptSkip job errorMessage runId dispatchNo) 0 := by
  unfold recordAttemptSkip
  split
  · exact reports_refl store
  · split
    · exact reports_refl store
    · dsimp only
      split
      · exact reports_same rfl rfl
      · exact reports_same rfl rfl

theorem reports_skipEach (rows : Dict String (Record × Job)) (seeds : List String) (runId : Option String)
    (items : List (String × ℕ × String)) (phase : SelectionMachine.Phase) (skipped : ℕ) :
    Reports phase.store (SelectionMachine.skipEach rows seeds runId items phase skipped).1.store 0 := by
  induction items generalizing phase skipped with
  | nil => exact reports_refl phase.store
  | cons item rest ih =>
    obtain ⟨uid, depth, root⟩ := item
    unfold SelectionMachine.skipEach
    split
    · exact ih phase skipped
    · rename_i row job found
      have skips := reports_applySkip phase.store uid (some row) none
      dsimp only
      split
      · rename_i store signal ended
        rw [ended] at skips
        exact skips
      · rename_i store done ended
        rw [ended] at skips
        have recorded := reports_of_zero skips (reports_recordAttemptSkip store job
          (if uid ∈ seeds ∧ phase.machine.selection.isSkipped job.taskType.val then errSkipped
            else errDependencySkipped ++ " (upstream: " ++ root ++ ")") runId (phase.dispatchNo + 1))
        have later := ih {
          machine := { phase.machine with skippedUids := insert uid phase.machine.skippedUids }
          store := store.recordAttemptSkip job (if uid ∈ seeds ∧ phase.machine.selection.isSkipped job.taskType.val
            then errSkipped else errDependencySkipped ++ " (upstream: " ++ root ++ ")") runId (phase.dispatchNo + 1)
          dispatchNo := phase.dispatchNo + 1 } (skipped + 1)
        exact reports_of_zero recorded later

theorem reports_applySkips (phase : SelectionMachine.Phase) (runId : Option String) :
    Reports phase.store (SelectionMachine.applySkips phase runId).1.store 0 := by
  unfold SelectionMachine.applySkips
  split
  · exact reports_refl phase.store
  · exact reports_skipEach _ _ runId _ phase 0

/-- The step commits the failure of a job and crashes on its cascade: a completion, or a rejection of the dispatch. -/
def StrandsStep (engine : EngineRuntime) : Operation → Prop
  | .dispatch sched launching => StrandsDispatch config engine sched launching
  | .complete jobUid result surroundings => ∃ entry, engine.runtime.tracker.get? jobUid = some entry ∧
      Settling engine.runtime entry result surroundings ∧ Strands config engine.runtime.store entry.jobUid
  | _ => False

theorem leaves_step (engine : EngineRuntime) (operation : Operation) :
    Leaves (StrandsStep config engine operation) engine.runtime.store
      (step config engine operation).runtime.store := by
  cases operation with
  | foresee now answers hookRaises => exact leaves_of_reports id (reports_same rfl rfl)
  | enqueue snapshots front =>
    exact leaves_of_reports id (reports_enqueueAll [(snapshots, front)] engine.runtime.store)
  | dispatch sched launching => exact leaves_dispatchJob engine sched launching
  | complete jobUid result surroundings =>
    simp only [step]
    cases tracked : engine.runtime.tracker.get? jobUid with
    | none =>
      apply leaves_of_reports _ (reports_refl _)
      rintro ⟨entry, there, -⟩
      rw [tracked] at there
      cases there
    | some entry =>
      apply (leaves_completeAndSettle config engine.runtime entry result surroundings).congr
      constructor
      · rintro ⟨other, there, both⟩
        obtain rfl : entry = other := Option.some.inj (tracked.symm.trans there)
        exact both
      · exact fun both => ⟨entry, tracked, both⟩
  | cancel jobUid cleanupFault =>
    simp only [step]
    cases engine.runtime.tracker.get? jobUid with
    | none => exact leaves_of_reports id (reports_refl _)
    | some entry =>
      apply leaves_of_reports id
      exact reports_of_zero (reports_requeueUncommitted (engine.runtime.releaseResources entry) entry)
        (reports_settle _ _)
  | applySkips =>
    exact leaves_of_reports id (reports_applySkips ⟨engine.machine, engine.runtime.store, engine.dispatchNo⟩ _)
  | bulkFailure uidsMetas =>
    exact leaves_of_reports id (reports_applyBulkFailure config engine.runtime.store uidsMetas)
  | clearInFlight => exact leaves_of_reports id (reports_refl _)
  | saveQueueCrashSafe raises => exact leaves_of_reports id (reports_same rfl rfl)
  | restart window resources machine runId =>
    exact leaves_of_reports id (reports_loadAndRepair engine.runtime.store window)

/-- A run leaves nothing due exactly if none of its steps does. -/
theorem reports_run (engine : EngineRuntime) (operations : List Operation) : ∃ due,
    Reports engine.runtime.store (Machine.run (step config) engine operations).runtime.store due ∧
      (due = 0 ↔ Machine.Along (step config) (fun engine operation => ¬ StrandsStep config engine operation) engine
        operations) := by
  induction operations generalizing engine with
  | nil => exact ⟨0, reports_refl _, by simp [Machine.Along]⟩
  | cons operation rest ih =>
    obtain ⟨due, reports, nothing⟩ := ih (step config engine operation)
    rcases leaves_step config engine operation with ⟨plain, first⟩ | ⟨cut, uid, first⟩
    · refine ⟨0 + due, first.trans reports, ?_⟩
      rw [zero_add, nothing]
      exact (and_iff_right plain).symm
    · refine ⟨{(uid, false)} + due, first.trans reports, ?_⟩
      constructor
      · intro empty
        exact absurd (congrArg Multiset.card empty) (by simp)
      · exact fun along => absurd cut along.1

/-- Every transition that was committed since then has been reported by exactly one call of the hook, and no call has
reported anything else. -/
def Heard (store after : StateStore) : Prop :=
  ∃ news calls, after.events = store.events ++ news ∧ after.finished = store.finished ++ calls ∧
    (calls.map told).Perm (news.flatMap transitions)

omit [Python] in
theorem heard_iff {due : Multiset (String × Bool)} (reports : Reports store after due) : Heard store after ↔ due = 0 := by
  obtain ⟨news, calls, events, finished, balance⟩ := reports
  constructor
  · rintro ⟨others, further, happened, called, perm⟩
    obtain rfl : news = others := List.append_cancel_left (events.symm.trans happened)
    obtain rfl : calls = further := List.append_cancel_left (finished.symm.trans called)
    rw [Multiset.coe_eq_coe.mpr perm.symm] at balance
    exact left_eq_add.mp balance
  · rintro rfl
    rw [add_zero] at balance
    exact ⟨news, calls, events, finished, (Multiset.coe_eq_coe.mp balance).symm⟩

end Machine

section Sample

local instance : Python := Lifecycle.samplePython

/-- A job with a queued dependent is dispatched and fails; the commit of its failure is accepted, that of the cascade
refused. -/
def strandedOperations : List EngineRuntime.Operation :=
  [.dispatch ⟨some 0, none, {}, .runnable, some "t::a"⟩ {},
    .foresee Lifecycle.sampleNow [⟨[], true⟩, ⟨[], false⟩] [], .complete "t::a" {} {}]

end Sample

end Tasklite.Engine.Hooks
