import Tasklite.Engine.Availability
import Tasklite.Engine.Scheduler
import Tasklite.Models.Coherence

/-! What a scan without a candidate says about the queue: every row was judged, none of
them can run or has a failed dependency, and the facts of the standstill are the sum of
what the rows came to. -/

namespace Tasklite.Engine.Scanning
open Tasklite.Library Tasklite.Models Tasklite.Models.Identity Tasklite.Models.Coherence
  Tasklite.Engine.Availability JobScheduler

variable [Python]

section Cache

/-- The cache answers for the rows of a queue as the parser would. It does so when a run begins, and as
long as rows of one job either all parse or do not. -/
structure Faithful (cache : JobCache) (rows : List Record) : Prop where
  hits : ∀ row ∈ rows, ∀ taskType jobId facts, Record.get row "task_type" = .str taskType →
    Record.get row "job_id" = .str jobId → cache.get? (taskType, jobId) = some facts →
    schedFieldsMatch facts row = true → JobFacts.fromJobSnapshot row = .ok facts
  alike : ∀ row ∈ rows, ∀ other ∈ rows, ∀ facts,
    Record.get row "task_type" = Record.get other "task_type" →
    Record.get row "job_id" = Record.get other "job_id" → JobFacts.fromJobSnapshot row = .ok facts →
    schedFieldsMatch facts other = true → JobFacts.fromJobSnapshot other = .ok facts

theorem faithful_empty {rows : List Record} (distinct : (rows.map jobUidFromSnapshot).Nodup) :
    Faithful Dict.empty rows where
  hits := by simp
  alike := by
    intro row member other present facts sameType sameId parsed _
    have same : jobUidFromSnapshot row = jobUidFromSnapshot other := by
      obtain ⟨job, read, -⟩ := JobFacts.fromJobSnapshot_eq parsed
      have identified := identified_of_fromDict read
      have otherIdentified : Identified other := by
        unfold Identified at identified ⊢
        rwa [← sameType, ← sameId]
      rw [uid_of_identified identified, uid_of_identified otherIdentified, sameType, sameId]
    rw [← List.inj_on_of_nodup_map distinct member present same]
    exact parsed

theorem cachedJob_faithful {cache : JobCache} {rows : List Record} {row : Record}
    (faithful : Faithful cache rows) (member : row ∈ rows) :
    (cachedJob cache row).2 = JobFacts.fromJobSnapshot row ∧ Faithful (cachedJob cache row).1 rows := by
  unfold cachedJob
  split
  · rename_i taskType jobId typed named
    split
    · rename_i facts hit
      obtain ⟨found, matching⟩ := Option.filter_eq_some_iff.mp hit
      exact ⟨(faithful.hits row member taskType jobId facts typed named found matching).symm, faithful⟩
    · split
      · rename_i refusal parsed
        exact ⟨parsed.symm, faithful⟩
      · rename_i facts parsed
        refine ⟨parsed.symm, ?_, faithful.alike⟩
        intro other present otherType otherId cached typed' named' found matching
        rw [Dict.get?_set] at found
        split at found
        · rename_i same
          obtain ⟨rfl, rfl⟩ := Prod.mk.inj same
          rw [← Option.some.inj found] at matching ⊢
          exact faithful.alike row member other present facts (typed.trans typed'.symm)
            (named.trans named'.symm) parsed matching
        · split at found
          · simp at found
          · exact faithful.hits other present otherType otherId cached typed' named' found matching
  · exact ⟨rfl, faithful⟩

end Cache

section Tally

/-- The classes of jobs that make a standstill a deadlock. -/
inductive Cause where
  | unknown
  | missing
  | malformed
  | impossible
deriving DecidableEq

def uidsFor (attribution : DeadlockAttribution) : Cause → List String
  | .unknown => attribution.unknownResourceUids
  | .missing => attribution.missingDependencyUids
  | .malformed => attribution.malformedUids
  | .impossible => attribution.impossibleResourceUids

def blamed (cause : Cause) : Verdict → List String
  | .unknown uid => if cause = .unknown then [uid] else []
  | .missing uid => if cause = .missing then [uid] else []
  | .malformed uid => if cause = .malformed then [uid] else []
  | .impossible uid => if cause = .impossible then [uid] else []
  | _ => []

omit [Python] in
theorem hasDeadlockCauses_eq_false {attribution : DeadlockAttribution} :
    attribution.hasDeadlockCauses = false ↔ ∀ cause, uidsFor attribution cause = [] := by
  simp only [DeadlockAttribution.hasDeadlockCauses, Bool.or_eq_false_iff, Bool.not_eq_false',
    List.isEmpty_iff]
  constructor
  · rintro ⟨⟨⟨unknown, missing⟩, malformed⟩, impossible⟩ cause
    cases cause <;> assumption
  · intro none
    exact ⟨⟨⟨none .unknown, none .missing⟩, none .malformed⟩, none .impossible⟩

variable {places : ℕ} {verdict : Fin places → Verdict} {order : List (Fin places)} {start : Tally}

/-- Add up the verdicts on a list of rows. -/
def tallied (verdict : Fin places → Verdict) (order : List (Fin places)) (start : Tally) : Tally :=
  order.foldl (fun tally (idx : Fin places) => tally.record idx (verdict idx)) start

omit [Python] in
theorem record_uidsFor (tally : Tally) (idx : ℕ) (verdict : Verdict) (cause : Cause) :
    uidsFor (tally.record idx verdict).attribution cause =
      uidsFor tally.attribution cause ++ blamed cause verdict := by
  cases verdict <;> cases cause <;> simp [Tally.record, uidsFor, blamed]

omit [Python] in
theorem tallied_uidsFor (cause : Cause) : uidsFor (tallied verdict order start).attribution cause =
    uidsFor start.attribution cause ++ order.flatMap fun idx => blamed cause (verdict idx) := by
  unfold tallied
  induction order generalizing start with
  | nil => simp
  | cons idx rest ih =>
    rw [List.foldl_cons, ih, record_uidsFor, List.flatMap_cons, List.append_assoc]

/-- A verdict that makes the standstill one about dependencies. -/
def aboutDependency : Verdict → Bool
  | .missing _ | .waiting => true
  | _ => false

omit [Python] in
theorem tallied_waiting : (tallied verdict order start).waitingForDependency =
    (start.waitingForDependency || order.any fun idx => aboutDependency (verdict idx)) := by
  unfold tallied
  induction order generalizing start with
  | nil => simp
  | cons idx rest ih =>
    rw [List.foldl_cons, ih, List.any_cons, ← Bool.or_assoc]
    congr 1
    cases verdict idx <;> simp [Tally.record, aboutDependency]

omit [Python] in
/-- Without a failed dependency among the verdicts none is remembered. -/
theorem tallied_failure (none : (tallied verdict order start).pendingDepFailure = .none) :
    start.pendingDepFailure = .none ∧ ∀ idx ∈ order, ∀ uid, verdict idx ≠ .dependencyFailed uid := by
  unfold tallied at none
  induction order generalizing start with
  | nil => exact ⟨none, by simp⟩
  | cons idx rest ih =>
    rw [List.foldl_cons] at none
    obtain ⟨here, later⟩ := ih none
    have kept : start.pendingDepFailure = .none ∧ ∀ uid, verdict idx ≠ .dependencyFailed uid := by
      cases judged : verdict idx with
      | dependencyFailed uid => simp [Tally.record, judged] at here
      | _ => simpa [Tally.record, judged] using here
    refine ⟨kept.1, fun other member uid => ?_⟩
    rcases List.mem_cons.mp member with rfl | after
    · exact kept.2 uid
    · exact later other after uid

omit [Python] in
/-- Unless a resource is unknown, the wait that is added up is at most that of every delayed job; and it is
positive when theirs are. -/
theorem tallied_minWait (known : ∀ idx ∈ order, ∀ uid, verdict idx ≠ .unknown uid) :
    (tallied verdict order start).minWait ≤ start.minWait ∧
      (∀ idx ∈ order, ∀ wait, verdict idx = .delayed wait → (tallied verdict order start).minWait ≤ wait) ∧
      (0 < start.minWait → (∀ idx ∈ order, ∀ wait, verdict idx = .delayed wait → 0 < wait) →
        0 < (tallied verdict order start).minWait) := by
  unfold tallied
  induction order generalizing start with
  | nil => simp
  | cons idx rest ih =>
    rw [List.foldl_cons]
    obtain ⟨below, each, positive⟩ := @ih (start.record idx (verdict idx))
      fun other member => known other (List.mem_cons_of_mem _ member)
    have step : (start.record idx (verdict idx)).minWait ≤ start.minWait ∧
        (∀ wait, verdict idx = .delayed wait → (start.record idx (verdict idx)).minWait ≤ wait) ∧
        (0 < start.minWait → (∀ wait, verdict idx = .delayed wait → 0 < wait) →
          0 < (start.record idx (verdict idx)).minWait) := by
      have named := known idx List.mem_cons_self
      cases judged : verdict idx with
      | unknown uid => exact absurd judged (named uid)
      | delayed wait =>
        refine ⟨min_le_left _ _, fun other same => ?_, fun started all => lt_min started (all wait rfl)⟩
        rw [← Verdict.delayed.inj same]
        exact min_le_right _ _
      | _ => simp [Tally.record]
    refine ⟨below.trans step.1, fun other member wait judged => ?_, fun started all => ?_⟩
    · rcases List.mem_cons.mp member with rfl | after
      · exact below.trans (step.2.1 wait judged)
      · exact each other after wait judged
    · exact positive (step.2.2 started (all idx List.mem_cons_self))
        fun other member => all other (List.mem_cons_of_mem _ member)

end Tally

section Barrier

variable {state : PipelineState} {active pending : Finset String} {dependency : String}

omit [Python] in
theorem standing_waiting (waits : standing state active pending dependency = .waiting) :
    dependency ∈ active ∨ dependency ∈ pending := by
  unfold standing at waits
  split at waits
  · exact .inl ‹_›
  · split_ifs at waits with _ _ _ queued
    exact .inr queued

omit [Python] in
theorem standing_met (met : standing state active pending dependency = .met) :
    dependency ∉ active ∧ (dependency ∈ state.triggerSkippedUids ∨
      state.successes.contains dependency = true) := by
  unfold standing at met
  split_ifs at met with inactive skipped _ succeeded
  · exact ⟨inactive, .inl skipped⟩
  · exact ⟨inactive, .inr succeeded⟩

omit [Python] in
theorem standing_failed (failed : standing state active pending dependency = .failed) :
    state.failed.contains dependency = true ∧ dependency ∉ state.triggerSkippedUids := by
  unfold standing at failed
  split_ifs at failed with _ awake archived
  exact ⟨archived, awake⟩

omit [Python] in
/-- What the loop over the dependencies has found, if none of them has failed. -/
theorem barrier_of_unfailed {dependencies : List String} {found : Barrier}
    (unfailed : (barrier state active pending dependencies found).failed = none) :
    (∀ dependency ∈ dependencies, standing state active pending dependency ≠ .failed) ∧
      ((barrier state active pending dependencies found).missing = true ↔ found.missing = true ∨
        ∃ dependency ∈ dependencies, standing state active pending dependency = .missing) ∧
      ((barrier state active pending dependencies found).waiting = true ↔ found.waiting = true ∨
        ∃ dependency ∈ dependencies, standing state active pending dependency = .waiting) := by
  induction dependencies generalizing found with
  | nil => simp [barrier]
  | cons dependency rest ih =>
    unfold barrier at unfailed ⊢
    cases stands : standing state active pending dependency with
    | failed => simp [stands] at unfailed
    | waiting | met | missing =>
      simp only [stands] at unfailed ⊢
      obtain ⟨others, missing, waiting⟩ := ih unfailed
      simp [stands, missing, waiting]
      exact others

omit [Python] in
/-- The failed dependency that ends the loop is one of those looped over. -/
theorem barrier_failed {dependencies : List String} {found : Barrier} {failed : String}
    (ends : (barrier state active pending dependencies found).failed = some failed) :
    found.failed = some failed ∨
      (failed ∈ dependencies ∧ standing state active pending failed = .failed) := by
  induction dependencies generalizing found with
  | nil => exact .inl ends
  | cons dependency rest ih =>
    unfold barrier at ends
    cases stands : standing state active pending dependency with
    | failed =>
      simp only [stands, Option.some.injEq] at ends
      exact .inr ⟨ends ▸ List.mem_cons_self, ends ▸ stands⟩
    | waiting | met | missing =>
      simp only [stands] at ends
      exact (ih ends).imp_right fun found => ⟨List.mem_cons_of_mem _ found.1, found.2⟩

end Barrier

section Evaluation

variable {manager : ResourceManager} {now : ℚ}

omit [Python] in
theorem evaluateEntries_delayed {entries : List (String × Number)} {minWait : WithTop ℚ}
    (finite : minWait ≠ ⊤) (known : (manager.evaluateEntries now entries minWait).isUnknown = false)
    (possible : (manager.evaluateEntries now entries minWait).isImpossible = false) :
    (manager.evaluateEntries now entries minWait).waitTime ≠ ⊤ ∧
      ((manager.evaluateEntries now entries minWait).isAvailable = false →
        0 < (manager.evaluateEntries now entries minWait).waitTime) := by
  induction entries generalizing minWait with
  | nil =>
    unfold ResourceManager.evaluateEntries
    split
    · exact ⟨finite, fun _ => ‹_›⟩
    · simp
  | cons entry rest ih =>
    rcases entry with ⟨name, amount⟩
    unfold ResourceManager.evaluateEntries at known possible ⊢
    cases registered : manager.resources.get? name with
    | none => simp [registered] at known
    | some resource =>
      rcases answer : resource.canAcquire now amount with ⟨free, wait⟩
      simp only [registered, answer] at known possible ⊢
      cases free with
      | true => exact ih finite known possible
      | false =>
        by_cases never : wait = ⊤
        · simp [never] at possible
        · simp only [if_neg never] at known possible ⊢
          refine ih ?_ known possible
          rw [ne_eq, max_eq_top, not_or]
          exact ⟨finite, never⟩

omit [Python] in
/-- A job that has to wait for its resources waits for a positive time that is known. -/
theorem evaluate_delayed {taskType : String} {declared : Option (List (String × Number))}
    (known : (manager.evaluate now taskType declared).isUnknown = false)
    (possible : (manager.evaluate now taskType declared).isImpossible = false)
    (refused : (manager.evaluate now taskType declared).isAvailable = false) :
    0 < (manager.evaluate now taskType declared).waitTime ∧
      (manager.evaluate now taskType declared).waitTime ≠ ⊤ := by
  obtain ⟨finite, positive⟩ := evaluateEntries_delayed WithTop.zero_ne_top known possible
  exact ⟨positive refused, finite⟩

end Evaluation

section Scan

variable {scheduler : JobScheduler} {state : PipelineState} {clock : ℕ → ℚ}

/-- What a row comes to when it is read from the queue and not from the cache. -/
def verdictAt (scheduler : JobScheduler) (state : PipelineState) (clock : ℕ → ℚ)
    (idx : Fin state.queue.length) : Verdict :=
  scheduler.judge state state.inFlightUids (clock idx) (state.queue.get idx)
    (JobFacts.fromJobSnapshot (state.queue.get idx))

theorem scanRows_none {order : List (Fin state.queue.length)} {cache : JobCache} {tally : Tally}
    (faithful : Faithful cache state.queue)
    (none : (scheduler.scanRows state state.inFlightUids clock order cache tally).2.2 = .none) :
    (scheduler.scanRows state state.inFlightUids clock order cache tally).2.1 =
        tallied (verdictAt scheduler state clock) order tally ∧
      ∀ idx ∈ order, verdictAt scheduler state clock idx ≠ .runnable := by
  induction order generalizing cache tally with
  | nil => exact ⟨rfl, by simp⟩
  | cons idx rest ih =>
    obtain ⟨read, still⟩ := cachedJob_faithful faithful (List.get_mem state.queue idx)
    have judged : scheduler.judge state state.inFlightUids (clock idx) (state.queue.get idx)
        (cachedJob cache (state.queue.get idx)).2 = verdictAt scheduler state clock idx := by
      rw [read, verdictAt]
    simp only [scanRows, judged] at none ⊢
    by_cases runs : verdictAt scheduler state clock idx = .runnable
    · simp [runs] at none
    · rw [if_neg runs] at none ⊢
      obtain ⟨sum, others⟩ := ih still none
      refine ⟨sum, fun other member => ?_⟩
      rcases List.mem_cons.mp member with rfl | after
      · exact runs
      · exact others other after

/-- A scan without a candidate, in the order of its policy. -/
structure Standstill (scheduler : JobScheduler) (state : PipelineState) (clock : ℕ → ℚ) : Prop where
  facts : (scheduler.scanNextRunnable state state.inFlightUids clock).2.facts =
    Tally.facts (tallied (verdictAt scheduler state clock) (scheduler.orderingPolicy state.queue) {})
  unable : ∀ idx ∈ scheduler.orderingPolicy state.queue, verdictAt scheduler state clock idx ≠ .runnable
  unfailed : ∀ idx ∈ scheduler.orderingPolicy state.queue, ∀ uid,
    verdictAt scheduler state clock idx ≠ .dependencyFailed uid

theorem standstill_of_scan (faithful : Faithful scheduler.jobCache state.queue)
    (none : (scheduler.scanNextRunnable state state.inFlightUids clock).2.runnableIdx = .none) :
    Standstill scheduler state clock := by
  simp only [scanNextRunnable, Option.or_eq_none_iff, Option.map_eq_none_iff] at none
  obtain ⟨sum, unable⟩ := scanRows_none faithful none.1
  have unfailed := none.2
  rw [sum] at unfailed
  refine ⟨?_, unable, (tallied_failure unfailed).2⟩
  simp only [scanNextRunnable, sum]

end Scan

end Tasklite.Engine.Scanning
