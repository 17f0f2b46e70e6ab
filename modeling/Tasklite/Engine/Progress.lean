import Tasklite.Engine.Classification
import Tasklite.Engine.Loop
import Tasklite.Engine.Strikes

/-! Progress at a standstill. The round that arbitrates it ends the run, raises, waits
or makes the queue shorter; the exception is a refused batch of rows that change their
uid under the strikes counted in them and so are archived but not removed. -/

namespace Tasklite.Engine.Progress
open Tasklite.Library Tasklite.Models Tasklite.Models.Identity Tasklite.Models.Coherence
  Tasklite.Engine.Custody Tasklite.Engine.Lifecycle Tasklite.Engine.Strikes Tasklite.Engine.Scanning
  Tasklite.Engine.Deferral Tasklite.Engine.Classification Tasklite.Backend StateStore

section Theory

variable [Python] {config : StoreConfig} {store : StateStore} {rows : List Record} {uid : String}

section StrikeOut

/-- How many rows have a uid. -/
def occurrences (uid : String) (rows : List Record) : ℕ := (rows.map jobUidFromSnapshot).count uid

theorem occurrences_pos : 0 < occurrences uid rows ↔ ∃ row ∈ rows, jobUidFromSnapshot row = uid := by
  simp [occurrences, List.count_pos_iff]

theorem occurrences_cons (row : Record) : occurrences uid (row :: rows) =
    occurrences uid rows + if jobUidFromSnapshot row = uid then 1 else 0 := by
  simp [occurrences, List.count_cons]

/-- One row is counted: it leaves its uid for the one it has afterwards. -/
theorem occurrences_modifyFirst {found : Record}
    (first : rows.find? (fun row => jobUidFromSnapshot row = uid) = some found) (other : String) :
    occurrences other (modifyFirst uid registerCommitFailure rows) + (if other = uid then 1 else 0) =
      occurrences other rows +
        if other = jobUidFromSnapshot (registerCommitFailure found) then 1 else 0 := by
  induction rows with
  | nil => simp at first
  | cons row rest ih =>
    unfold modifyFirst
    by_cases same : jobUidFromSnapshot row = uid
    · rw [List.find?_cons_of_pos (by simpa using same)] at first
      cases first
      rw [if_pos same, occurrences_cons, occurrences_cons, same]
      simp only [eq_comm]
      omega
    · rw [List.find?_cons_of_neg (by simpa using same)] at first
      rw [if_neg same, occurrences_cons, occurrences_cons]
      have later := ih first
      omega

theorem length_modifyFirst : (modifyFirst uid registerCommitFailure rows).length = rows.length := by
  induction rows with
  | nil => rfl
  | cons row rest ih =>
    unfold modifyFirst
    split
    · rfl
    · rw [List.length_cons, ih, List.length_cons]

theorem length_without : (Fresh.without jobUidFromSnapshot {uid} rows).length + occurrences uid rows =
    rows.length := by
  induction rows with
  | nil => rfl
  | cons row rest ih =>
    rw [occurrences_cons]
    by_cases same : jobUidFromSnapshot row = uid
    · simp only [Fresh.without, Finset.mem_singleton, same] at ih ⊢
      rw [List.filter_cons_of_neg (by simp [same]), List.length_cons]
      simp only [if_true]
      omega
    · simp only [Fresh.without, Finset.mem_singleton] at ih ⊢
      rw [List.filter_cons_of_pos (by simpa using same), List.length_cons, List.length_cons, if_neg same]
      omega

/-- The rows after a strike that archives the job. -/
def strikeOut (rows : List Record) (uid : String) : List Record :=
  Fresh.without jobUidFromSnapshot {uid} (modifyFirst uid registerCommitFailure rows)

/-- The row that a strike is counted in has reached the threshold, one job after the other. -/
def Reached (threshold : Int) : List String → List Record → Prop
  | [], _ => True
  | uid :: rest, rows =>
      commitFailures ((rows.find? fun row => jobUidFromSnapshot row = uid).getD (syntheticSnapshot uid)) + 1 ≥
        threshold ∧ Reached threshold rest (strikeOut rows uid)

/-- Counting the strikes leaves no row under the uid it was counted for, so that none is removed. -/
def Evades : List String → List Record → Prop
  | [], _ => True
  | uid :: rest, rows => occurrences uid (modifyFirst uid registerCommitFailure rows) = 0 ∧
      Evades rest (modifyFirst uid registerCommitFailure rows)

theorem length_strikeOut : (strikeOut rows uid).length +
    occurrences uid (modifyFirst uid registerCommitFailure rows) = rows.length := by
  unfold strikeOut
  rw [length_without, length_modifyFirst]

theorem strikeOut_of_evades (evades : occurrences uid (modifyFirst uid registerCommitFailure rows) = 0) :
    strikeOut rows uid = modifyFirst uid registerCommitFailure rows := by
  unfold strikeOut Fresh.without
  rw [List.filter_eq_self]
  intro row member
  simp only [Finset.mem_singleton, decide_eq_true_eq]
  intro same
  have positive := occurrences_pos.mpr ⟨row, member, same⟩
  omega

theorem length_strikeOut_foldl (uids : List String) : (uids.foldl strikeOut rows).length ≤ rows.length ∧
    ((uids.foldl strikeOut rows).length = rows.length ↔ Evades uids rows) := by
  induction uids generalizing rows with
  | nil => simp [Evades]
  | cons uid rest ih =>
    rw [List.foldl_cons]
    obtain ⟨shorter, same⟩ := @ih (strikeOut rows uid)
    have step := @length_strikeOut _ rows uid
    unfold Evades
    by_cases evades : occurrences uid (modifyFirst uid registerCommitFailure rows) = 0
    · rw [strikeOut_of_evades evades] at shorter same step ⊢
      rw [length_modifyFirst] at shorter same
      exact ⟨shorter, by simp [evades, same]⟩
    · refine ⟨by omega, ?_⟩
      simp only [evades, false_and, iff_false]
      omega

theorem mem_modifyFirst_of_ne {row : Record} (member : row ∈ rows) (other : jobUidFromSnapshot row ≠ uid) :
    row ∈ modifyFirst uid registerCommitFailure rows := by
  induction rows with
  | nil => cases member
  | cons first rest ih =>
    unfold modifyFirst
    split
    · rename_i same
      rcases List.mem_cons.mp member with rfl | later
      · exact absurd same other
      · exact List.mem_cons_of_mem _ later
    · rcases List.mem_cons.mp member with rfl | later
      · exact List.mem_cons_self
      · exact List.mem_cons_of_mem _ (ih later)

/-- The only row of a uid is the first one. -/
theorem find_of_occurrences {row : Record} (once : occurrences uid rows ≤ 1) (member : row ∈ rows)
    (same : jobUidFromSnapshot row = uid) : rows.find? (fun row => jobUidFromSnapshot row = uid) = some row := by
  induction rows with
  | nil => cases member
  | cons first rest ih =>
    rw [occurrences_cons] at once
    by_cases named : jobUidFromSnapshot first = uid
    · rw [List.find?_cons_of_pos (by simpa using named)]
      rcases List.mem_cons.mp member with rfl | later
      · rfl
      · have positive := occurrences_pos.mpr ⟨row, later, same⟩
        rw [if_pos named] at once
        omega
    · rw [List.find?_cons_of_neg (by simpa using named)]
      rcases List.mem_cons.mp member with rfl | later
      · exact absurd same named
      · exact ih (by omega) later

/-- The row of a uid evades its strike if it is the only one and the strike gives it another uid. -/
theorem evades_head {row : Record} (member : row ∈ rows) (same : jobUidFromSnapshot row = uid) :
    occurrences uid (modifyFirst uid registerCommitFailure rows) = 0 ↔
      occurrences uid rows = 1 ∧ jobUidFromSnapshot (registerCommitFailure row) ≠ uid := by
  have positive := occurrences_pos.mpr ⟨row, member, same⟩
  cases first : rows.find? fun row => jobUidFromSnapshot row = uid with
  | none =>
    have absent := List.find?_eq_none.mp first row member
    simp [same] at absent
  | some found =>
    have moved := occurrences_modifyFirst first uid
    rw [if_pos rfl] at moved
    constructor
    · intro gone
      have once : occurrences uid rows = 1 := by omega
      rw [find_of_occurrences (by omega) member same] at first
      cases first
      refine ⟨once, fun kept => ?_⟩
      rw [if_pos kept.symm] at moved
      omega
    · rintro ⟨once, changed⟩
      rw [find_of_occurrences (by omega) member same] at first
      cases first
      rw [if_neg (Ne.symm changed)] at moved
      omega

/-- A row that names its job keeps its uid and is removed. -/
theorem not_evades_of_identified {rest : List String} {row : Record} (member : row ∈ rows)
    (identified : Identified row) (same : jobUidFromSnapshot row = uid) : ¬ Evades (uid :: rest) rows := by
  rintro ⟨gone, -⟩
  obtain ⟨-, changed⟩ := (evades_head member same).mp gone
  rw [(uid_registerCommitFailure identified).2] at changed
  exact changed same

/-- A row that a strike archives without removing it. -/
structure Elusive (threshold : Int) (rows : List Record) (row : Record) : Prop where
  once : occurrences (jobUidFromSnapshot row) rows = 1
  changes : jobUidFromSnapshot (registerCommitFailure row) ≠ jobUidFromSnapshot row
  reached : threshold ≤ commitFailures row + 1

/-- No row takes the uid of a later one. -/
def Apart (batch : List Record) : Prop :=
  batch.Pairwise fun earlier later => jobUidFromSnapshot (registerCommitFailure earlier) ≠ jobUidFromSnapshot later

/-- A batch of rows stays in the queue as a whole, although every job of it is archived, exactly if each of
the rows is elusive and no two of them get in each other's way. -/
theorem evades_iff {threshold : Int} {batch : List Record} (queued : ∀ row ∈ batch, row ∈ rows)
    (counted : ∀ uid, (batch.map jobUidFromSnapshot).count uid ≤ occurrences uid rows) :
    Evades (batch.map jobUidFromSnapshot) rows ∧ Reached threshold (batch.map jobUidFromSnapshot) rows ↔
      (∀ row ∈ batch, Elusive threshold rows row) ∧ Apart batch := by
  induction batch generalizing rows with
  | nil => simp [Evades, Reached, Apart]
  | cons row rest ih =>
    have member := queued row List.mem_cons_self
    have head := evades_head member rfl
    simp only [List.map_cons, Evades, Reached]
    by_cases gone : occurrences (jobUidFromSnapshot row)
        (modifyFirst (jobUidFromSnapshot row) registerCommitFailure rows) = 0
    · obtain ⟨once, changes⟩ := head.mp gone
      have first := find_of_occurrences (by omega) member rfl
      have moved := occurrences_modifyFirst first
      have others : ∀ other ∈ rest, jobUidFromSnapshot other ≠ jobUidFromSnapshot row := by
        intro other later same
        have twice := counted (jobUidFromSnapshot row)
        have present := List.count_pos_iff.mpr (List.mem_map.mpr ⟨other, later, same⟩)
        rw [List.map_cons, List.count_cons_self, once] at twice
        omega
      rw [strikeOut_of_evades gone, first, Option.getD_some]
      have still : ∀ other ∈ rest,
          other ∈ modifyFirst (jobUidFromSnapshot row) registerCommitFailure rows := fun other later =>
        mem_modifyFirst_of_ne (queued other (List.mem_cons_of_mem _ later)) (others other later)
      have enough : ∀ uid, (rest.map jobUidFromSnapshot).count uid ≤
          occurrences uid (modifyFirst (jobUidFromSnapshot row) registerCommitFailure rows) := by
        intro uid
        have before := counted uid
        have after := moved uid
        by_cases same : uid = jobUidFromSnapshot row
        · rw [same, List.map_cons, List.count_cons_self, once] at before
          rw [same]
          omega
        · rw [List.map_cons, List.count_cons_of_ne (Ne.symm same)] at before
          rw [if_neg same] at after
          omega
      have elusive : ∀ other ∈ rest, (Elusive threshold
          (modifyFirst (jobUidFromSnapshot row) registerCommitFailure rows) other ↔
          Elusive threshold rows other ∧
            jobUidFromSnapshot (registerCommitFailure row) ≠ jobUidFromSnapshot other) := by
        intro other later
        have after := moved (jobUidFromSnapshot other)
        have present := occurrences_pos.mpr ⟨other, queued other (List.mem_cons_of_mem _ later), rfl⟩
        rw [if_neg (others other later)] at after
        constructor
        · rintro ⟨still, changed, reached⟩
          by_cases taken : jobUidFromSnapshot other = jobUidFromSnapshot (registerCommitFailure row)
          · rw [if_pos taken] at after
            omega
          · rw [if_neg taken] at after
            exact ⟨⟨by omega, changed, reached⟩, Ne.symm taken⟩
        · rintro ⟨⟨still, changed, reached⟩, free⟩
          rw [if_neg (Ne.symm free)] at after
          exact ⟨by omega, changed, reached⟩
      have later := ih still enough
      rw [Apart, List.pairwise_cons, List.forall_mem_cons]
      constructor
      · rintro ⟨⟨-, evades⟩, reached, more⟩
        obtain ⟨each, apart⟩ := later.mp ⟨evades, more⟩
        exact ⟨⟨⟨once, changes, reached⟩, fun other within => ((elusive other within).mp (each other within)).1⟩,
          fun other within => ((elusive other within).mp (each other within)).2, apart⟩
      · rintro ⟨⟨own, each⟩, free, apart⟩
        obtain ⟨evades, more⟩ := later.mpr
          ⟨fun other within => (elusive other within).mpr ⟨each other within, free other within⟩, apart⟩
        exact ⟨⟨gone, evades⟩, own.reached, more⟩
    · constructor
      · rintro ⟨⟨none, -⟩, -⟩
        exact absurd none gone
      · rintro ⟨each, -⟩
        have own := each row List.mem_cons_self
        exact absurd (head.mpr ⟨own.once, own.changes⟩) gone

end StrikeOut

section Batch

variable {after : StateStore} {left : List Record} {kept : Bool}

/-- The loop over a refused batch keeps no job only if each of them reaches the threshold. -/
theorem strike_unkept {uids : List String}
    (struck : handleBulkFailureStrike config uids store rows kept = (after, left, false)) :
    left = uids.foldl strikeOut rows ∧ Reached config.threshold uids rows ∧ kept = false := by
  induction uids generalizing store rows kept with
  | nil =>
    simp only [handleBulkFailureStrike, Prod.mk.injEq] at struck
    obtain ⟨-, same, keeps⟩ := struck
    exact ⟨same.symm, trivial, keeps⟩
  | cons uid rest ih =>
    simp only [handleBulkFailureStrike] at struck
    split at struck
    · rename_i reached
      split at struck
      · obtain ⟨same, more, keeps⟩ := ih struck
        exact ⟨same, ⟨reached, more⟩, keeps⟩
      · obtain ⟨-, -, keeps⟩ := ih struck
        cases keeps
    · obtain ⟨-, -, keeps⟩ := ih struck
      cases keeps

theorem markFailedMemory_answers (uid : String) (metadata : Record) (unregister : Bool) :
    (store.markFailedMemory config uid metadata unregister).answers = store.answers := by
  cases unregister <;> rfl

omit [Python] in
theorem fireAttemptFinished_answers (uid : String) (outcome : AttemptOutcome) :
    (store.fireAttemptFinished uid outcome).answers = store.answers := by
  unfold fireAttemptFinished
  split <;> rfl

/-- Without a refusal to come every job of the batch that reaches the threshold is archived. -/
theorem strike_archives {uids : List String} (silent : store.answers = [])
    (reached : Reached config.threshold uids rows) :
    ∃ after, handleBulkFailureStrike config uids store rows false = (after, uids.foldl strikeOut rows, false) := by
  induction uids generalizing store rows with
  | nil => exact ⟨store, rfl⟩
  | cons uid rest ih =>
    obtain ⟨own, more⟩ := reached
    simp only [handleBulkFailureStrike, if_pos own, bulkStrikeFinalize, commit, silent, List.headD_nil,
      List.tail_nil, List.foldl_nil, if_true, Memory.commitJobFailure]
    refine ih ?_ more
    rw [fireAttemptFinished_answers]
    show (StateStore.markFailedMemory _ _ _ _ _).answers = []
    rw [markFailedMemory_answers]

omit [Python] in
theorem markEach_queue {mark : StateStore → String → Record → StateStore} {metas : List (String × Record)}
    (marks : ∀ store uid metadata, (mark store uid metadata).state.queue = store.state.queue) :
    (markEach mark metas store).state.queue = store.state.queue := by
  induction metas generalizing store with
  | nil => rfl
  | cons entry rest ih =>
    simp only [markEach]
    rw [ih, (alike_fireAttemptFinished _ _ _).state, marks]

/-- The jobs of a batch that the selection does not leave alone. -/
def batchOf (config : StoreConfig) (store : StateStore) (metas : List (String × Record)) : List String :=
  (metas.map Prod.fst).filter fun uid => uid ∉ store.selectionExcludedUids config

theorem map_fst_batch (config : StoreConfig) (store : StateStore) (metas : List (String × Record)) :
    ((metas.filter fun entry => entry.1 ∉ store.selectionExcludedUids config).map
      fun entry => (entry.1, store.normalize config entry.2)).map Prod.fst = batchOf config store metas := by
  rw [batchOf, List.map_map, List.filter_map]
  rfl

/-- What is left of the queue after a batch of failures that raised nothing. -/
theorem bulk_ok {metas : List (String × Record)} {failed : List String}
    (done : store.applyBulkFailure config metas = (after, .ok failed)) :
    failed = batchOf config store metas ∧
      (after.state.queue = Fresh.without jobUidFromSnapshot failed.toFinset store.state.queue ∨
        Reached config.threshold failed store.state.queue ∧
          after.state.queue = failed.foldl strikeOut store.state.queue) := by
  have uids := map_fst_batch config store metas
  unfold applyBulkFailure at done
  dsimp only at done
  split at done
  · rename_i nothing
    obtain ⟨rfl, same⟩ := Prod.mk.inj done
    cases same
    have empty : batchOf config store metas = [] := by
      rw [← uids, List.isEmpty_iff.mp nothing.2]
      rfl
    exact ⟨empty.symm, .inl (by simp [Fresh.without])⟩
  · unfold settleBatch at done
    rw [uids] at done
    obtain ⟨asked, heard, refused | ⟨-, committed⟩⟩ := commit_cases store (.failed (batchOf config store metas))
      fun backend => backend.commitJobFailures
        ((metas.filter fun entry => entry.1 ∉ store.selectionExcludedUids config).map
          fun entry => (entry.1, store.normalize config entry.2))
    · rcases struck : handleBulkFailureStrike config (batchOf config store metas) asked asked.state.queue false
        with ⟨finish, left, kept⟩
      simp only [refused, struck] at done
      split at done
      · simp at done
      · rename_i unkept
        obtain ⟨rfl, same⟩ := Prod.mk.inj done
        cases same
        rw [Bool.not_eq_true] at unkept
        rw [unkept] at struck
        obtain ⟨same, reached, -⟩ := strike_unkept struck
        rw [heard.state] at same reached
        exact ⟨rfl, .inr ⟨reached, same⟩⟩
    · simp only [committed] at done
      obtain ⟨rfl, same⟩ := Prod.mk.inj done
      cases same
      refine ⟨rfl, .inl ?_⟩
      rw [markEach_queue]
      swap
      · intro _ _ _
        rfl
      show Fresh.without jobUidFromSnapshot _ asked.state.queue = _
      rw [heard.state]

/-- A batch raises nothing but a crash. -/
theorem bulk_error {metas : List (String × Record)} {signal : Signal}
    (raised : store.applyBulkFailure config metas = (after, .error signal)) :
    ∃ message, signal = .commitCrash message := by
  unfold applyBulkFailure at raised
  dsimp only at raised
  split at raised
  · simp at raised
  · unfold settleBatch at raised
    dsimp only at raised
    split at raised
    · simp at raised
    · split at raised
      · obtain ⟨-, same⟩ := Prod.mk.inj raised
        exact ⟨_, (Except.error.inj same).symm⟩
      · simp at raised

/-- A batch that is refused, and none of whose jobs is kept. -/
theorem bulk_refused {metas : List (String × Record)} (refused : store.answers = [{ accepted := false }])
    (some : batchOf config store metas ≠ [])
    (struck : handleBulkFailureStrike config (batchOf config store metas) { store with answers := [] }
      store.state.queue false = (after, left, false)) :
    store.applyBulkFailure config metas =
      (after.mapState fun state => state.replaceQueue left, .ok (batchOf config store metas)) := by
  have uids := map_fst_batch config store metas
  unfold applyBulkFailure
  dsimp only
  rw [if_neg]
  · unfold settleBatch
    rw [uids]
    simp only [commit, refused, List.headD_cons, List.tail_cons, List.foldl_nil, Bool.false_eq_true, if_false,
      struck]
  · rintro ⟨-, empty⟩
    rw [← uids, List.isEmpty_iff.mp empty] at some
    exact some rfl

/-- A batch of queued jobs that raises nothing makes the queue shorter, unless it is evaded. -/
theorem bulk_shrinks {metas : List (String × Record)} {failed : List String}
    (done : store.applyBulkFailure config metas = (after, .ok failed)) (some : failed ≠ [])
    (queued : ∀ uid ∈ failed, ∃ row ∈ store.state.queue, jobUidFromSnapshot row = uid)
    (sheds : ¬ (Evades failed store.state.queue ∧ Reached config.threshold failed store.state.queue)) :
    after.state.queue.length < store.state.queue.length := by
  obtain ⟨-, removed | ⟨reached, struck⟩⟩ := bulk_ok done
  · rw [removed]
    obtain ⟨uid, member⟩ := List.exists_mem_of_ne_nil _ some
    obtain ⟨row, present, same⟩ := queued uid member
    exact List.length_filter_lt_length_iff_exists.mpr ⟨row, present, by simp [same, member]⟩
  · rw [struck]
    obtain ⟨shorter, unchanged⟩ := @length_strikeOut_foldl _ store.state.queue failed
    rcases Nat.lt_or_eq_of_le shorter with less | same
    · exact less
    · exact absurd ⟨unchanged.mp same, reached⟩ sheds

/-- A batch whose first job is named by its row is not evaded. -/
theorem sheds_of_identified {threshold : Int} {uids : List String} (some : uids ≠ [])
    (named : ∀ uid ∈ uids, ∃ row ∈ rows, Identified row ∧ jobUidFromSnapshot row = uid) :
    ¬ (Evades uids rows ∧ Reached threshold uids rows) := by
  cases uids with
  | nil => exact absurd rfl some
  | cons uid rest =>
    obtain ⟨row, member, identified, same⟩ := named uid List.mem_cons_self
    exact fun evades => not_evades_of_identified member identified same evades.1

end Batch

section Decision

variable {governor ruled : DeadlockGovernor} {after : StateStore} {facts : StandstillFacts}

/-- What arbitration brings about, apart from a crash. -/
inductive Progresses (before : PipelineState) (after : StateStore) (facts : StandstillFacts)
    (decision : DeadlockGovernor.DeadlockDecision) : Prop where
  | ends (acts : decision.action = .resolved ∨ decision.action = .selectionBlocked)
      (ended : decision.shouldTerminate = true)
  | shrinks (shorter : after.state.queue.length < before.queue.length)
  | pauses (acts : decision.action = .graceWaiting ∨ decision.action = .gapRetrying)
      (positive : 0 < decision.waitTime)
  | awaits (acts : decision.action = .none) (finite : facts.minWait ≠ ⊤) (positive : 0 < facts.minWait)

/-- What arbitration comes to. -/
def Concludes (before : PipelineState) (facts : StandstillFacts) :
    StateStore × Except Signal DeadlockGovernor.DeadlockDecision → Prop
  | (_, .error signal) => ∃ message, signal = .commitCrash message
  | (after, .ok decision) => Progresses before after facts decision

theorem concludes_convergeUnarchived :
    Concludes store.state facts (DeadlockGovernor.convergeUnarchived config store) := by
  unfold DeadlockGovernor.convergeUnarchived
  split
  · exact .ends (.inl rfl) rfl
  · rename_i standstill partitioned
    split
    · exact .ends (.inr rfl) rfl
    · rename_i held
      split
      · exact .ends (.inl rfl) rfl
      · split
        · rename_i raised
          exact bulk_error raised
        · rename_i archived failed done
          split
          · exact .ends (.inl rfl) rfl
          · rename_i some
            rw [List.isEmpty_iff] at some
            -- an empty queue is held up by nothing, so the rows of this one all parse
            have queue : store.state.queue ≠ [] := by
              intro empty
              unfold Selection.partitionStandstill at partitioned
              split at partitioned
              · cases partitioned
              · rw [empty] at partitioned
                cases partitioned
                exact held rfl
            obtain ⟨-, -, computed⟩ := partition_some queue partitioned
            have named : ∀ uid ∈ failed, ∃ row ∈ store.state.queue,
                Identified row ∧ jobUidFromSnapshot row = uid := by
              intro uid member
              rw [(bulk_ok done).1, batchOf, List.mem_filter, List.map_map] at member
              obtain ⟨stuck, listed, same⟩ := List.mem_map.mp member.1
              cases same
              rw [computed] at listed
              have allowed := (List.mem_filter.mp (mem_sortTexts.mp listed)).1
              obtain ⟨value, found, -⟩ := mem_allowedUids.mp allowed
              obtain ⟨job, queued, same, -⟩ := job_of_facts found
              obtain ⟨row, present, parsed⟩ := mem_queuedJobs.mp queued
              exact ⟨row, present, identified_of_fromDict parsed, by rw [uid_of_fromDict parsed, same]; rfl⟩
            refine .shrinks (bulk_shrinks done some (fun uid member => ?_) (sheds_of_identified some named))
            obtain ⟨row, present, -, same⟩ := named uid member
            exact ⟨row, present, same⟩

/-- A batch of queued jobs that is not evaded settles the standstill; an empty one does under a selection. -/
theorem concludes_archive (coherent : Coherent store.state) {metas : List (String × Record)}
    (queued : ∀ uid ∈ batchOf config store metas, ∃ row ∈ store.state.queue, jobUidFromSnapshot row = uid)
    (sheds : batchOf config store metas ≠ [] → ¬ (Evades (batchOf config store metas) store.state.queue ∧
      Reached config.threshold (batchOf config store metas) store.state.queue))
    (active : batchOf config store metas = [] → config.selection.isActive = true) :
    Concludes store.state facts (governor.archive config store metas).2 := by
  unfold DeadlockGovernor.archive
  split
  · rename_i raised
    exact bulk_error raised
  · rename_i archived failed done
    obtain ⟨batch, -⟩ := bulk_ok done
    rw [← batch] at queued sheds active
    dsimp only
    split
    · rename_i unarchived
      have empty : failed = [] := by simpa using (Bool.and_eq_true_iff.mp unarchived).1
      rw [empty] at done
      rw [← unarchived_state coherent done]
      exact concludes_convergeUnarchived
    · rename_i archives
      have some : failed ≠ [] := by
        intro empty
        simp [empty, active empty] at archives
      exact .shrinks (bulk_shrinks done some queued (sheds some))

end Decision

section Rows

variable {scheduler : JobScheduler} {state : PipelineState} {clock : ℕ → ℚ}

/-- What can be made of a row that parses: blame falls on its own uid, and a delay is positive. -/
inductive Judged (facts : JobFacts) : Verdict → Prop where
  | missing : Judged facts (.missing facts.uid)
  | unknown : Judged facts (.unknown facts.uid)
  | impossible : Judged facts (.impossible facts.uid)
  | delayed {wait : WithTop ℚ} (positive : 0 < wait) : Judged facts (.delayed wait)
  | silent {verdict : Verdict} (blameless : ∀ cause, blamed cause verdict = [])
      (prompt : ∀ wait, verdict ≠ .delayed wait) : Judged facts verdict

omit [Python] in
theorem judged_evaluated (now : ℚ) (facts : JobFacts) (cleared : Bool) :
    Judged facts (scheduler.evaluated now facts cleared) := by
  unfold JobScheduler.evaluated
  dsimp only
  split
  · exact .unknown
  · rename_i known
    split
    · exact .impossible
    · rename_i possible
      split
      · rename_i refused
        exact .delayed (evaluate_delayed (by simpa using known) (by simpa using possible)
          (by simpa using refused)).1
      · split <;> exact .silent (fun _ => rfl) (by simp)

theorem judged_ok (inFlight : Finset String) (now : ℚ) (row : Record) (facts : JobFacts) :
    Judged facts (scheduler.judge state inFlight now row (.ok facts)) := by
  simp only [JobScheduler.judge]
  split
  · exact .silent (fun _ => rfl) (by simp)
  · split
    · split
      · exact .silent (fun _ => rfl) (by simp)
      · split
        · exact .missing
        · split
          · exact .silent (fun _ => rfl) (by simp)
          · exact judged_evaluated now facts false
    · exact .missing
    · exact .silent (fun _ => rfl) (by simp)
    · exact judged_evaluated now facts true

omit [Python] in
theorem Judged.blamed {facts : JobFacts} {verdict : Verdict} {cause : Cause} (judged : Judged facts verdict)
    (blame : uid ∈ blamed cause verdict) : facts.uid = uid ∧ cause ≠ .malformed := by
  cases judged with
  | silent blameless _ =>
    rw [blameless cause] at blame
    cases blame
  | delayed _ => cases blame
  | _ =>
    simp only [Scanning.blamed] at blame
    split at blame
    · rename_i named
      exact ⟨(List.mem_singleton.mp blame).symm, by simp [named]⟩
    · cases blame

/-- A job is blamed under the uid of its row, and for being malformed exactly if the row does not parse. -/
theorem blamed_judge {inFlight : Finset String} {now : ℚ} {row : Record} {cause : Cause}
    (blame : uid ∈ blamed cause (scheduler.judge state inFlight now row (JobFacts.fromJobSnapshot row))) :
    jobUidFromSnapshot row = uid ∧ (cause = .malformed ↔ (Job.fromDict row).isOk = false) := by
  cases built : Job.fromDict row with
  | error refusal =>
    simp only [JobFacts.fromJobSnapshot, built, Except.map, JobScheduler.judge, blamed] at blame
    by_cases malformed : cause = .malformed
    · rw [if_pos malformed, List.mem_singleton] at blame
      exact ⟨blame.symm, by simp [malformed, Except.isOk, Except.toBool]⟩
    · rw [if_neg malformed] at blame
      cases blame
  | ok job =>
    rw [JobFacts.fromJobSnapshot, built] at blame
    obtain ⟨own, sound⟩ := (judged_ok inFlight now row (JobFacts.ofJob job)).blamed blame
    exact ⟨(uid_of_fromDict built).trans own, by simp [sound, Except.isOk, Except.toBool]⟩

/-- What a standstill says of its rows. -/
structure Reported (state : PipelineState) (facts : StandstillFacts) : Prop where
  malformed : ∀ uid, uid ∈ facts.attribution.malformedUids ↔
    ∃ row ∈ state.queue, (Job.fromDict row).isOk = false ∧ jobUidFromSnapshot row = uid
  blamed : ∀ cause, ∀ uid ∈ uidsFor facts.attribution cause, ∃ row ∈ state.queue, jobUidFromSnapshot row = uid
  forced : facts.attribution.hasDeadlockCauses = true → facts.minWait = ⊤
  positive : 0 < facts.minWait

theorem reported_of_scan (faithful : Faithful scheduler.jobCache state.queue)
    (none : (scheduler.scanNextRunnable state state.inFlightUids clock).2.runnableIdx = .none)
    (perm : (scheduler.orderingPolicy state.queue).Perm (List.finRange state.queue.length)) :
    Reported state (scheduler.scanNextRunnable state state.inFlightUids clock).2.facts := by
  rw [(standstill_of_scan faithful none).facts]
  have visited : ∀ idx, idx ∈ scheduler.orderingPolicy state.queue := fun idx =>
    perm.mem_iff.mpr (List.mem_finRange idx)
  have mem_uidsFor : ∀ cause uid, uid ∈ uidsFor (tallied (verdictAt scheduler state clock)
      (scheduler.orderingPolicy state.queue) {}).attribution cause ↔
      ∃ idx, uid ∈ blamed cause (verdictAt scheduler state clock idx) := by
    intro cause uid
    rw [tallied_uidsFor, List.mem_append, List.mem_flatMap]
    constructor
    · rintro (initial | ⟨idx, -, blame⟩)
      · cases cause <;> cases initial
      · exact ⟨idx, blame⟩
    · rintro ⟨idx, blame⟩
      exact .inr ⟨idx, visited idx, blame⟩
  constructor
  · intro uid
    apply Iff.trans (mem_uidsFor .malformed uid)
    constructor
    · rintro ⟨idx, blame⟩
      obtain ⟨same, malformed⟩ := blamed_judge blame
      exact ⟨_, List.get_mem _ idx, malformed.mp rfl, same⟩
    · rintro ⟨row, member, unparsed, same⟩
      obtain ⟨idx, rfl⟩ := List.get_of_mem member
      refine ⟨idx, ?_⟩
      cases built : Job.fromDict (state.queue.get idx) with
      | ok job =>
        rw [built] at unparsed
        cases unparsed
      | error refusal =>
        rw [verdictAt, JobFacts.fromJobSnapshot, built]
        simp only [Except.map, JobScheduler.judge, blamed, same]
        exact List.mem_singleton_self uid
  · intro cause uid member
    obtain ⟨idx, blame⟩ := (mem_uidsFor cause uid).mp member
    exact ⟨_, List.get_mem _ idx, (blamed_judge blame).1⟩
  · intro causes
    exact if_pos causes
  · unfold JobScheduler.Tally.facts
    dsimp only
    split
    · exact WithTop.top_pos
    · rename_i blameless
      rw [Bool.not_eq_true, hasDeadlockCauses_eq_false] at blameless
      obtain ⟨-, -, positive⟩ := @tallied_minWait _ (verdictAt scheduler state clock)
        (scheduler.orderingPolicy state.queue) {} (by
          intro idx _ uid judged
          have blame : uid ∈ blamed .unknown (verdictAt scheduler state clock idx) := by
            rw [judged]
            simp [blamed]
          have member := (mem_uidsFor .unknown uid).mpr ⟨idx, blame⟩
          rw [blameless] at member
          cases member)
      apply positive WithTop.top_pos
      intro idx _ wait judged
      unfold verdictAt at judged
      cases parsed : JobFacts.fromJobSnapshot (state.queue.get idx) with
      | error refusal =>
        rw [parsed] at judged
        simp [JobScheduler.judge] at judged
      | ok facts =>
        rw [parsed] at judged
        have verdict := @judged_ok _ scheduler state state.inFlightUids (clock idx) (state.queue.get idx) facts
        rw [judged] at verdict
        cases verdict with
        | delayed positive => exact positive
        | silent _ prompt => exact absurd rfl (prompt wait)

end Rows

section Ruling

variable {selection : Selection} {state : PipelineState} {facts : StandstillFacts} {governor : DeadlockGovernor}
  {now : ℚ}

theorem mem_cycleUidsOf (member : uid ∈ DeadlockGovernor.cycleUidsOf selection state) :
    ∃ row ∈ state.queue, jobUidFromSnapshot row = uid := by
  have searched : ∀ {nodeUids}, uid ∈ state.findDependencyCycles nodeUids →
      ∃ row ∈ state.queue, jobUidFromSnapshot row = uid := by
    intro nodeUids found
    have edge := Graph.mem_of_findCycles found
    rw [PipelineState.dependencyEdges, Dict.mem_keys_ofPairs, List.map_map] at edge
    obtain ⟨job, listed, same⟩ := List.mem_map.mp edge
    obtain ⟨row, present, parsed⟩ := mem_queuedJobs.mp (List.mem_filter.mp listed).1
    exact ⟨row, present, (uid_of_fromDict parsed).trans same⟩
  unfold DeadlockGovernor.cycleUidsOf at member
  split at member
  · unfold Selection.partitionStandstill at member
    split_ifs at member
    · cases member
    · cases member
    · simp only [Option.map_some, Option.getD_some, Selection.standstillOf] at member
      split at member
      · cases member
      · exact searched member
    · cases member
  · exact searched member

/-- Rows that do not parse are ruled on before anything else. -/
theorem rule_malformed (reported : Reported state facts) (some : facts.attribution.malformedUids ≠ []) :
    DeadlockGovernor.rule selection state facts =
      .culprits facts.attribution.malformedUids errMalformedJob := by
  have causes : facts.attribution.hasDeadlockCauses = true := by
    simp [DeadlockAttribution.hasDeadlockCauses, some]
  have unexplained : (selection.partitionStandstill state).filter (fun standstill =>
      !facts.attribution.hasDeadlockCauses && standstill.onlyBlockedByExclusion) = none := by
    simp [causes]
  unfold DeadlockGovernor.rule
  simp only [unexplained]
  rw [if_pos (.inl (reported.forced causes)), DeadlockGovernor.classify, if_pos (by simpa using some)]

/-- What a ruling says about the queue, when every row parses. -/
def Founded (state : PipelineState) (facts : StandstillFacts) : DeadlockGovernor.Ruling → Prop
  | .quiet => facts.minWait ≠ ⊤
  | .culprits uids _ | .missing uids => uids ≠ [] ∧ ∀ uid ∈ uids, ∃ row ∈ state.queue, jobUidFromSnapshot row = uid
  | .selectionBlocked _ | .gap _ => True

theorem founded_rule (reported : Reported state facts) (parses : facts.attribution.malformedUids = []) :
    Founded state facts (DeadlockGovernor.rule selection state facts) := by
  unfold DeadlockGovernor.rule
  dsimp only
  split
  · trivial
  · split
    · unfold DeadlockGovernor.classify
      dsimp only
      rw [if_neg (by simp [parses])]
      split_ifs with unknown missing impossible waiting cycles
      · exact ⟨by simpa using unknown, reported.blamed .unknown⟩
      · exact ⟨by simpa using missing, reported.blamed .missing⟩
      · exact ⟨by simpa using impossible, reported.blamed .impossible⟩
      · trivial
      · exact ⟨by simpa using cycles, fun _ => mem_cycleUidsOf⟩
      · trivial
    · rename_i explained
      exact fun infinite => explained (.inl infinite)

/-- The uids of the batch that a ruling archives: those of the rows it names, in queue order. -/
theorem batchOf_split (targets : Option (List String)) (error : String) :
    batchOf config store (splitDeadlockByUids store.state.queue targets error) =
      (store.state.queue.filter fun row => (∀ uids ∈ targets, jobUidFromSnapshot row ∈ uids) ∧
        jobUidFromSnapshot row ∉ store.selectionExcludedUids config).map jobUidFromSnapshot := by
  rw [batchOf, splitDeadlockByUids, List.map_map, List.filter_map, List.filter_filter]
  congr 2
  funext row
  simp [Bool.and_comm]

theorem excluded_inactive (inactive : config.selection.isActive = false) :
    store.selectionExcludedUids config = ∅ := by
  simp [selectionExcludedUids, inactive]

/-- A ruling on rows that all parse is carried out with effect. -/
theorem concludes_split (coherent : Coherent store.state) (named : ∀ row ∈ store.state.queue, Identified row)
    {targets : Option (List String)} {error : String}
    (some : ∃ row ∈ store.state.queue, ∀ uids ∈ targets, jobUidFromSnapshot row ∈ uids) :
    Concludes store.state facts
      (governor.archive config store (splitDeadlockByUids store.state.queue targets error)).2 := by
  have listed : ∀ uid ∈ batchOf config store (splitDeadlockByUids store.state.queue targets error),
      ∃ row ∈ store.state.queue, Identified row ∧ jobUidFromSnapshot row = uid := by
    intro uid member
    rw [batchOf_split] at member
    obtain ⟨row, kept, same⟩ := List.mem_map.mp member
    have present := (List.mem_filter.mp kept).1
    exact ⟨row, present, named row present, same⟩
  apply concludes_archive coherent
  · intro uid member
    obtain ⟨row, present, -, same⟩ := listed uid member
    exact ⟨row, present, same⟩
  · exact fun some => sheds_of_identified some listed
  · intro empty
    obtain ⟨row, present, targeted⟩ := some
    by_contra inactive
    rw [batchOf_split, List.map_eq_nil_iff, List.filter_eq_nil_iff] at empty
    apply empty row present
    simpa [excluded_inactive (Bool.not_eq_true _ ▸ inactive)] using targeted

/-- Arbitration of a queue whose rows all parse. -/
theorem concludes_of_parsing (coherent : Coherent store.state) (reported : Reported store.state facts)
    (some : store.state.queue ≠ []) (parses : facts.attribution.malformedUids = []) :
    Concludes store.state facts (governor.arbitrate config (.some facts) store now).2 := by
  have named : ∀ row ∈ store.state.queue, Identified row := by
    intro row member
    cases built : Job.fromDict row with
    | ok job => exact identified_of_fromDict built
    | error refusal =>
      have malformed := (reported.malformed _).mpr ⟨row, member, by rw [built]; rfl, rfl⟩
      rw [parses] at malformed
      cases malformed
  have targeted : ∀ uids : List String,
      (uids ≠ [] ∧ ∀ uid ∈ uids, ∃ row ∈ store.state.queue, jobUidFromSnapshot row = uid) →
      ∃ row ∈ store.state.queue, ∀ listed ∈ Option.some uids, jobUidFromSnapshot row ∈ listed := by
    rintro uids ⟨any, queued⟩
    obtain ⟨uid, member⟩ := List.exists_mem_of_ne_nil _ any
    obtain ⟨row, present, same⟩ := queued uid member
    exact ⟨row, present, by simpa [same] using member⟩
  have founded : Founded store.state facts (DeadlockGovernor.rule config.selection store.state facts) :=
    founded_rule reported parses
  simp only [DeadlockGovernor.arbitrate]
  cases ruling : DeadlockGovernor.rule config.selection store.state facts with
  | quiet =>
    rw [ruling] at founded
    exact .awaits rfl founded reported.positive
  | selectionBlocked standstill => exact .ends (.inr rfl) rfl
  | culprits uids error =>
    rw [ruling] at founded
    exact concludes_split coherent named (targeted uids founded)
  | missing uids =>
    rw [ruling] at founded
    simp only [DeadlockGovernor.resolveDeadlock]
    split
    · exact .pauses (.inl rfl) (by norm_num)
    · exact concludes_split coherent named (targeted uids founded)
  | gap logPrefix =>
    simp only [DeadlockGovernor.resolveDeadlock]
    split
    · exact .pauses (.inr rfl) (by norm_num)
    · obtain ⟨row, member⟩ := List.exists_mem_of_ne_nil _ some
      exact concludes_split coherent named ⟨row, member, by simp⟩

end Ruling

section Step

variable {scheduler : JobScheduler} {governor : DeadlockGovernor} {facts : StandstillFacts} {clock : ℕ → ℚ} {now : ℚ}

/-- The rows that do not parse, but for those that have the uid of a postponed job. -/
def unparsed (config : StoreConfig) (store : StateStore) : List Record :=
  store.state.queue.filter fun row =>
    (Job.fromDict row).isOk = false ∧ jobUidFromSnapshot row ∉ store.selectionExcludedUids config

/-- There are rows that do not parse, and each of them would be archived by one more strike and would not
be removed by it. -/
structure Spins (config : StoreConfig) (store : StateStore) : Prop where
  some : unparsed config store ≠ []
  each : ∀ row ∈ unparsed config store, Elusive config.threshold store.state.queue row
  apart : Apart (unparsed config store)

/-- The rows whose uid is that of a malformed job. -/
def accused (config : StoreConfig) (store : StateStore) (facts : StandstillFacts) : List Record :=
  store.state.queue.filter fun row => (∀ uids ∈ some facts.attribution.malformedUids,
    jobUidFromSnapshot row ∈ uids) ∧ jobUidFromSnapshot row ∉ store.selectionExcludedUids config

/-- Elusive rows share their uid with no other, so that the batch is made of rows that do not parse. -/
theorem accused_eq (reported : Reported store.state facts)
    (elusive : (∀ row ∈ accused config store facts, Elusive config.threshold store.state.queue row) ∨
      ∀ row ∈ unparsed config store, Elusive config.threshold store.state.queue row) :
    accused config store facts = unparsed config store := by
  unfold accused unparsed
  apply List.filter_congr
  intro row member
  rw [decide_eq_decide]
  simp only [Option.mem_def, Option.some.injEq, forall_eq', and_congr_left_iff]
  intro free
  rw [reported.malformed]
  constructor
  · rintro ⟨other, present, malformed, same⟩
    rcases elusive with all | all
    · have own := all row (List.mem_filter.mpr ⟨member, by
        simpa [free] using (reported.malformed _).mpr ⟨other, present, malformed, same⟩⟩)
      cases built : Job.fromDict row with
      | error refusal => rfl
      | ok job => exact absurd (uid_registerCommitFailure (identified_of_fromDict built)).2 own.changes
    · have own := all other (List.mem_filter.mpr ⟨present, by simp [malformed, same, free]⟩)
      have once : occurrences (jobUidFromSnapshot other) store.state.queue ≤ 1 := own.once.le
      have first := find_of_occurrences once present rfl
      rw [find_of_occurrences once member same.symm] at first
      cases first
      exact malformed
  · intro malformed
    exact ⟨row, member, malformed, rfl⟩

theorem spins_iff (reported : Reported store.state facts) : Spins config store ↔
    accused config store facts ≠ [] ∧
      Evades ((accused config store facts).map jobUidFromSnapshot) store.state.queue ∧
      Reached config.threshold ((accused config store facts).map jobUidFromSnapshot) store.state.queue := by
  have within : (accused config store facts).Sublist store.state.queue := List.filter_sublist
  have closed := @evades_iff _ store.state.queue config.threshold (accused config store facts)
    (fun row member => within.subset member) fun uid => (within.map jobUidFromSnapshot).count_le uid
  rw [closed]
  constructor
  · rintro ⟨some, each, apart⟩
    rw [accused_eq reported (.inr each)]
    exact ⟨some, each, apart⟩
  · rintro ⟨some, each, apart⟩
    have same := accused_eq reported (.inl each)
    rw [same] at some each apart
    exact ⟨some, each, apart⟩

/-- Arbitration settles every standstill but one that spins. -/
theorem concludes_of_steady (coherent : Coherent store.state) (reported : Reported store.state facts)
    (some : store.state.queue ≠ []) (steady : ¬ Spins config store) :
    Concludes store.state facts (governor.arbitrate config (.some facts) store now).2 := by
  by_cases parses : facts.attribution.malformedUids = []
  · exact concludes_of_parsing coherent reported some parses
  · simp only [DeadlockGovernor.arbitrate, rule_malformed reported parses, DeadlockGovernor.resolveDeadlock]
    have batch : batchOf config store (splitDeadlockByUids store.state.queue
        (.some facts.attribution.malformedUids) errMalformedJob) =
        (accused config store facts).map jobUidFromSnapshot := batchOf_split _ _
    apply concludes_archive coherent
    · intro uid member
      rw [batch] at member
      obtain ⟨row, kept, same⟩ := List.mem_map.mp member
      exact ⟨row, (List.mem_filter.mp kept).1, same⟩
    · rw [batch, ne_eq, List.map_eq_nil_iff]
      exact fun any evaded => steady ((spins_iff reported).mpr ⟨any, evaded⟩)
    · rw [batch, List.map_eq_nil_iff]
      intro empty
      by_contra inactive
      obtain ⟨uid, malformed⟩ := List.exists_mem_of_ne_nil _ parses
      obtain ⟨row, member, -, same⟩ := (reported.malformed uid).mp malformed
      have kept : row ∈ accused config store facts := by
        simpa [accused, member, same, excluded_inactive (Bool.not_eq_true _ ▸ inactive)] using malformed
      rw [empty] at kept
      cases kept

/-- What a round at a standstill has to come to: a crash, the end of the run, a shorter queue or a positive
wait. -/
def Advances (before : PipelineState) : DeadlockGovernor × StateStore × Except Signal StepOutcome → Prop
  | (_, _, .error signal) => ∃ message, signal = .commitCrash message
  | (_, after, .ok outcome) => outcome.shouldTerminate = true ∨
      after.state.queue.length < before.queue.length ∨ outcome.shouldWait = true ∧ 0 < outcome.waitTime

omit [Python] in
theorem reported_queue (standstill : Option SelectionStandstill) :
    (standstill.elim store (Loop.reportSelectionBlocked store)).state.queue = store.state.queue := by
  cases standstill with
  | none => rfl
  | some standstill =>
    show (Loop.reportSelectionBlocked store standstill).state.queue = store.state.queue
    unfold Loop.reportSelectionBlocked
    split <;> rfl

section Wait

variable {round : LoopFacts} (landed : round.hasInFlight = false) (occupied : round.storeEmpty = false)
  (goes : round.shouldTerminate = false)

include landed occupied goes

omit [Python] in
theorem decideWait_pause (positive : 0 < round.deadlockWait) :
    decideWait round = ⟨true, min round.deadlockWait waitCapSeconds⟩ := by
  simp [decideWait, landed, occupied, goes, positive]

omit [Python] in
theorem decideWait_await {wait : ℚ} (silent : round.deadlockWait = 0) (unable : round.hasRunnable = false)
    (known : round.minWait = wait) : decideWait round = ⟨true, min wait waitCapSeconds⟩ := by
  have capped : min (wait : WithTop ℚ) (waitCapSeconds : ℚ) = (min wait waitCapSeconds : ℚ) :=
    (WithTop.coe_min _ _).symm
  unfold decideWait
  rw [if_neg (by simp [occupied, goes]), if_neg (by simp [landed]), if_neg (by simp [silent]),
    if_pos (by simp [unable, known]), known, capped, WithTop.untopD_coe]

omit [Python] in
/-- Without a wait of any kind the round is over at once. -/
theorem decideWait_none (silent : round.deadlockWait = 0) (infinite : round.minWait = ⊤)
    (free : round.workerWait = 0) : (decideWait round).waitTime = 0 := by
  simp [decideWait, landed, occupied, goes, silent, infinite, free]

end Wait

theorem advances_of_concludes (some : store.state.queue ≠ [])
    (concludes : Concludes store.state
      (scheduler.scanNextRunnable store.state store.state.inFlightUids clock).2.facts
      (governor.arbitrate config (.some
        (scheduler.scanNextRunnable store.state store.state.inFlightUids clock).2.facts) store now).2) :
    Advances store.state (Loop.standstillStep config scheduler governor store clock now) := by
  generalize scanned : (scheduler.scanNextRunnable store.state store.state.inFlightUids clock).2.facts = facts
    at concludes
  have occupied : store.state.queue.isEmpty = false := by simpa using some
  rcases arbitrated : governor.arbitrate config (.some facts) store now with ⟨ruled, after, answer⟩
  rw [arbitrated] at concludes
  simp only [Loop.standstillStep, Loop.arbitrateDeadlock, scanned, arbitrated, occupied, Option.filter_some,
    decide_true, if_true, Bool.false_and, Bool.false_eq_true, if_false]
  cases answer with
  | error signal => exact concludes
  | ok decision =>
    cases concludes with
    | ends acts ended =>
      rcases acts with resolved | blocked
      · simp only [resolved, ended]
        exact .inl rfl
      · simp only [blocked, ended]
        exact .inl rfl
    | shrinks shorter =>
      cases acts : decision.action with
      | selectionBlocked =>
        simp only [acts]
        exact .inr (.inl (by rwa [reported_queue]))
      | _ =>
        simp only [acts]
        exact .inr (.inl shorter)
    | pauses acts positive =>
      cases idle : after.state.queue.isEmpty with
      | true => rcases acts with grace | gap <;> simp [*, Advances]
      | false =>
        rcases acts with acts | acts
        all_goals
          simp only [acts, idle, if_pos positive]
          rw [decideWait_pause rfl rfl rfl positive]
          exact .inr (.inr ⟨rfl, lt_min positive one_pos⟩)
    | awaits acts finite positive =>
      cases idle : after.state.queue.isEmpty with
      | true => simp [acts, idle, Advances]
      | false =>
        obtain ⟨wait, known⟩ := WithTop.ne_top_iff_exists.mp finite
        rw [← known] at positive
        simp only [acts, idle]
        rw [decideWait_await rfl rfl rfl rfl rfl known.symm]
        exact .inr (.inr ⟨rfl, lt_min (by simpa using positive) one_pos⟩)

/-- Rows that spin: the batch is refused, each job of it is archived, and the rows stay. -/
theorem archive_spins (reported : Reported store.state facts) (spins : Spins config store)
    (refused : store.answers = [{ accepted := false }]) :
    ∃ after failed, (governor.archive config store (splitDeadlockByUids store.state.queue
        (some facts.attribution.malformedUids) errMalformedJob)).2 = (after, .ok {
          action := .resolved, shouldTerminate := false, failedUids := failed }) ∧
      after.state.queue.length = store.state.queue.length := by
  obtain ⟨any, evades, reached⟩ := (spins_iff reported).mp spins
  set uids := (accused config store facts).map jobUidFromSnapshot with named
  have some : uids ≠ [] := by simpa [named] using any
  obtain ⟨finish, struck⟩ := @strike_archives _ config { store with answers := [] } store.state.queue uids rfl
    reached
  have kept := (@length_strikeOut_foldl _ store.state.queue uids).2.mpr evades
  have left : uids.foldl strikeOut store.state.queue ≠ [] := by
    intro empty
    obtain ⟨row, member⟩ := List.exists_mem_of_ne_nil _ any
    rw [empty, List.length_nil, eq_comm, List.length_eq_zero_iff] at kept
    have present := (List.mem_filter.mp member).1
    rw [kept] at present
    cases present
  have batch : batchOf config store (splitDeadlockByUids store.state.queue
      (.some facts.attribution.malformedUids) errMalformedJob) = uids := batchOf_split _ _
  rw [← batch] at struck some
  have archived := bulk_refused refused some struck
  rw [batch] at archived some
  refine ⟨finish.mapState fun state => state.replaceQueue (uids.foldl strikeOut store.state.queue), uids, ?_, kept⟩
  simp only [DeadlockGovernor.archive, archived]
  rw [if_neg (by simp [some])]
  have occupied : (uids.foldl strikeOut store.state.queue).isEmpty = false := by simpa using left
  simp only [mapState, PipelineState.replaceQueue, PipelineState.require, occupied, Bool.and_false]

theorem not_advances_of_spins (reported : Reported store.state
      (scheduler.scanNextRunnable store.state store.state.inFlightUids clock).2.facts)
    (spins : Spins config store) (refused : store.answers = [{ accepted := false }]) :
    ¬ Advances store.state (Loop.standstillStep config scheduler governor store clock now) := by
  generalize scanned : (scheduler.scanNextRunnable store.state store.state.inFlightUids clock).2.facts = facts
    at reported
  obtain ⟨row, member⟩ := List.exists_mem_of_ne_nil _ spins.some
  obtain ⟨present, unfit⟩ := List.mem_filter.mp member
  have malformed : facts.attribution.malformedUids ≠ [] := List.ne_nil_of_mem
    ((reported.malformed _).mpr ⟨row, present, (by simpa using unfit : _ ∧ _).1, rfl⟩)
  have forced : facts.minWait = ⊤ := reported.forced (by simp [DeadlockAttribution.hasDeadlockCauses, malformed])
  have occupied : store.state.queue.isEmpty = false := by simpa using List.ne_nil_of_mem present
  obtain ⟨after, failed, archived, same⟩ := @archive_spins _ config store governor facts reported spins refused
  have full : after.state.queue.isEmpty = false := by
    rw [List.isEmpty_eq_false_iff, ← List.length_pos_iff, same]
    exact List.length_pos_of_mem present
  rcases outcome : governor.archive config store (splitDeadlockByUids store.state.queue
    (some facts.attribution.malformedUids) errMalformedJob) with ⟨ruled, finish, answer⟩
  rw [outcome] at archived
  cases archived
  simp only [Loop.standstillStep, Loop.arbitrateDeadlock, scanned, DeadlockGovernor.arbitrate,
    rule_malformed reported malformed, DeadlockGovernor.resolveDeadlock, outcome, occupied, Option.filter_some,
    decide_true, if_true, Bool.false_and, Bool.false_eq_true, if_false, full, forced, Bool.or_false]
  rintro (ends | shorter | ⟨-, positive⟩)
  · cases ends
  · omega
  · rw [decideWait_none rfl rfl rfl rfl rfl rfl] at positive
    exact lt_irrefl 0 positive

/-- No standstill is met with an unchanged queue and no wait, whatever the backend answers, exactly if its
rows do not spin. -/
theorem standstill_advances_iff (coherent : Coherent store.state)
    (faithful : Faithful scheduler.jobCache store.state.queue)
    (none : (scheduler.scanNextRunnable store.state store.state.inFlightUids clock).2.runnableIdx = .none)
    (perm : (scheduler.orderingPolicy store.state.queue).Perm (List.finRange store.state.queue.length)) :
    (∀ answers hookRaises, Advances store.state (Loop.standstillStep config scheduler governor
        { store with answers := answers, hookRaises := hookRaises } clock now)) ↔ ¬ Spins config store := by
  have reported := reported_of_scan faithful none perm
  constructor
  · intro advances spins
    have stalls := @not_advances_of_spins _ config { store with answers := [{ accepted := false }], hookRaises := [] }
      scheduler governor clock now reported ⟨spins.some, spins.each, spins.apart⟩ rfl
    exact stalls (advances _ _)
  · intro steady answers hookRaises
    have still : ¬ Spins config { store with answers := answers, hookRaises := hookRaises } :=
      fun spins => steady ⟨spins.some, spins.each, spins.apart⟩
    by_cases empty : store.state.queue = []
    · simp only [Loop.standstillStep, Loop.arbitrateDeadlock, empty, Option.filter_some, decide_true, if_true,
        List.isEmpty_nil, Bool.not_false, Bool.and_true]
      exact .inl rfl
    · exact @advances_of_concludes _ config { store with answers := answers, hookRaises := hookRaises } scheduler
        governor clock now empty (concludes_of_steady coherent reported empty still)

end Step

end Theory

section Sample

local instance : Python := samplePython

/-- A queue of one row that does not parse, and a backend that refuses the next commit. -/
def unnamedStore : StateStore where
  backend := { Memory.empty with queue := [unnamedRow 2] }
  state := PipelineState.init Dict.empty Dict.empty Dict.empty [unnamedRow 2]
  stats := fun _ => 0
  now := sampleNow
  answers := [{ accepted := false }]
  hookRaises := []
  events := []
  finished := []

/-- A queue whose rows all parse never spins. -/
theorem standstill_advances_postponed :
    (limitedScheduler.scanNextRunnable (postponedStore Dict.empty).state
        (postponedStore Dict.empty).state.inFlightUids fun _ => 0).2.runnableIdx = none ∧
      ¬ Spins postponing (postponedStore Dict.empty) ∧
      ∀ answers hookRaises, Advances (postponedStore Dict.empty).state
        (Loop.standstillStep postponing limitedScheduler {}
          { postponedStore Dict.empty with answers := answers, hookRaises := hookRaises } (fun _ => 0) 0) := by
  have tidy : Tidy (postponedStore Dict.empty).state := by
    unfold Tidy
    decide +kernel
  have standing : (limitedScheduler.scanNextRunnable (postponedStore Dict.empty).state
      (postponedStore Dict.empty).state.inFlightUids fun _ => 0).2.runnableIdx = none := by decide +kernel
  have steady : ¬ Spins postponing (postponedStore Dict.empty) := by
    intro spins
    have none : unparsed postponing (postponedStore Dict.empty) = [] := by decide +kernel
    exact spins.some none
  have coherent : Coherent (postponedStore Dict.empty).state := coherent_postponed Dict.empty
  have faithful : Faithful limitedScheduler.jobCache (postponedStore Dict.empty).state.queue :=
    faithful_empty tidy
  refine ⟨standing, steady, ?_⟩
  rw [standstill_advances_iff coherent faithful standing (List.Perm.refl _)]
  exact steady

/-- The refused batch archives the job, the row stays under another uid, and the next round follows without
a wait. -/
theorem unnamed_row_spins :
    (plainScheduler.scanNextRunnable unnamedStore.state unnamedStore.state.inFlightUids
        fun _ => 0).2.runnableIdx = none ∧
      ¬ Advances unnamedStore.state
        (Loop.standstillStep sampleConfig plainScheduler {} unnamedStore (fun _ => 0) 0) := by
  have standing : (plainScheduler.scanNextRunnable unnamedStore.state unnamedStore.state.inFlightUids
      fun _ => 0).2.runnableIdx = none := by decide +kernel
  have queue : (Loop.standstillStep sampleConfig plainScheduler {} unnamedStore
      (fun _ => 0) 0).2.1.state.queue = [unnamedRow 3] := by decide +kernel
  have outcome : (Loop.standstillStep sampleConfig plainScheduler {} unnamedStore
      (fun _ => 0) 0).2.2.toOption.map (fun outcome => (outcome.shouldTerminate, outcome.waitTime)) =
      some (false, 0) := by decide +kernel
  refine ⟨standing, ?_⟩
  rcases step : Loop.standstillStep sampleConfig plainScheduler {} unnamedStore (fun _ => 0) 0 with
    ⟨ruled, after, answer⟩
  rw [step] at queue outcome
  cases answer with
  | error signal => simp [Except.toOption] at outcome
  | ok answer =>
    obtain ⟨goes, prompt⟩ : answer.shouldTerminate = false ∧ answer.waitTime = 0 := by
      simpa [Except.toOption] using outcome
    rintro (ends | shorter | ⟨-, positive⟩)
    · rw [goes] at ends
      cases ends
    · rw [queue] at shorter
      exact lt_irrefl 1 shorter
    · rw [prompt] at positive
      exact lt_irrefl 0 positive

end Sample

end Tasklite.Engine.Progress
