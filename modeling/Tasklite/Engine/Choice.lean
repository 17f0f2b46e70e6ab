import Tasklite.Engine.Caching
import Tasklite.Engine.Classification

/-! The scan against its specification. Every row falls into one class, by its parse, the
selection, its dependencies and its resources. The scan returns the first visited row that
is ready, else the first one that a failed dependency keeps from running, and what it says
about a standstill is read off the classes. -/

namespace Tasklite.Engine.Choice
open Tasklite.Library Tasklite.Models Tasklite.Models.Identity Tasklite.Engine.Lifecycle
  Tasklite.Engine.Scanning Tasklite.Engine.Deferral Tasklite.Engine.Caching JobScheduler

/-- The first member of a list with a property. -/
def First {α : Type} (property : α → Prop) (items : List α) (item : α) : Prop :=
  ∃ before after, items = before ++ item :: after ∧ (∀ earlier ∈ before, ¬ property earlier) ∧ property item

theorem exists_first {α : Type} {property : α → Prop} {items : List α} (some : ∃ item ∈ items, property item) :
    ∃ item, First property items item := by
  induction items with
  | nil =>
    obtain ⟨item, member, -⟩ := some
    cases member
  | cons head rest ih =>
    by_cases here : property head
    · exact ⟨head, [], rest, rfl, by simp, here⟩
    · obtain ⟨item, member, holds⟩ := some
      rcases List.mem_cons.mp member with rfl | later
      · exact absurd holds here
      · obtain ⟨first, before, after, split, unlike, found⟩ := ih ⟨item, later, holds⟩
        refine ⟨first, head :: before, after, by rw [split, List.cons_append], ?_, found⟩
        rw [List.forall_mem_cons]
        exact ⟨here, unlike⟩

theorem mem_of_first {α : Type} {property : α → Prop} {items : List α} {item : α}
    (first : First property items item) : item ∈ items ∧ property item := by
  obtain ⟨before, after, split, -, holds⟩ := first
  exact ⟨split ▸ List.mem_append_right _ List.mem_cons_self, holds⟩

theorem first_congr {α : Type} {property other : α → Prop} {items : List α} {item : α}
    (same : ∀ item ∈ items, property item ↔ other item) : First property items item ↔ First other items item := by
  unfold First
  refine exists_congr fun before => exists_congr fun after => and_congr_right fun split => ?_
  subst split
  have here := same item (List.mem_append_right _ List.mem_cons_self)
  have earlier : ∀ item ∈ before, property item ↔ other item := fun item member =>
    same item (List.mem_append_left _ member)
  rw [here]
  exact and_congr_left fun _ => forall₂_congr fun item member => not_congr (earlier item member)

section Theory

variable [Python]

section Dependencies

variable (selection : Selection) (state : PipelineState) (inFlight : Finset String)

/-- A queued row is of a type that the selection does not allow. -/
def Postponed (uid : String) : Prop :=
  ∃ row ∈ state.queue, ∃ taskType, Record.get row "task_type" = .str taskType ∧ taskType ≠ "" ∧
    selection.allowsTaskType taskType = false ∧ jobUidFromSnapshot row = uid

/-- A job of this batch: queued and not postponed, or in flight. -/
def Active (uid : String) : Prop :=
  (uid ∈ state.queueUids ∨ uid ∈ inFlight) ∧ ¬ Postponed selection state uid

def Satisfied (dependency : String) : Prop :=
  ¬ Active selection state inFlight dependency ∧ (dependency ∈ state.triggerSkippedUids ∨
    state.failed.contains dependency = false ∧ state.successes.contains dependency = true)

def Broken (dependency : String) : Prop :=
  ¬ Active selection state inFlight dependency ∧ dependency ∉ state.triggerSkippedUids ∧
    state.failed.contains dependency = true

def Missing (dependency : String) : Prop :=
  (dependency ∉ state.queueUids ∧ dependency ∉ inFlight) ∧ dependency ∉ state.triggerSkippedUids ∧
    state.failed.contains dependency = false ∧ state.successes.contains dependency = false

end Dependencies

section Rows

/-- The job of a row that parses and that the selection allows. -/
structure Candidate (selection : Selection) (row : Record) (job : Job) : Prop where
  parsed : Job.fromDict row = .ok job
  allowed : selection.allowsTaskType job.taskType.val = true

/-- A job whose dependencies are all satisfied. -/
def Cleared (selection : Selection) (state : PipelineState) (inFlight : Finset String) (row : Record)
    (job : Job) : Prop :=
  Candidate selection row job ∧ ∀ dependency ∈ job.dependsOn, Satisfied selection state inFlight dependency

variable (scheduler : JobScheduler) (state : PipelineState) (inFlight : Finset String) (now : ℚ) (row : Record)

omit [Python] in
/-- What the resource table says to the effective resources of a job. -/
def verdictOn (job : Job) : ResourceEvaluation :=
  scheduler.resources.evaluate now job.taskType.val (some (JobFacts.ofJob job).resources)

def Ready : Prop :=
  ∃ job, Cleared scheduler.selection state inFlight row job ∧ (verdictOn scheduler now job).isAvailable = true

/-- A row that a failed dependency keeps from running. -/
def Fails (dependency : String) : Prop :=
  ∃ job, Candidate scheduler.selection row job ∧ dependency ∈ job.dependsOn ∧
    Broken scheduler.selection state inFlight dependency

/-- A row that waits for resources only. -/
def Blocked (wait : WithTop ℚ) : Prop :=
  ∃ job, Cleared scheduler.selection state inFlight row job ∧ (verdictOn scheduler now job).isAvailable = false ∧
    (verdictOn scheduler now job).isUnknown = false ∧ (verdictOn scheduler now job).isImpossible = false ∧
    (verdictOn scheduler now job).waitTime = wait

/-- A row to which a deadlock is attributed. -/
def OfCause : Cause → Prop
  | .malformed => ∀ job, Job.fromDict row ≠ .ok job
  | .missing => ∃ job, Candidate scheduler.selection row job ∧
      (∀ dependency ∈ job.dependsOn, ¬ Broken scheduler.selection state inFlight dependency) ∧
      ∃ dependency ∈ job.dependsOn, Missing state inFlight dependency
  | .unknown => ∃ job, Cleared scheduler.selection state inFlight row job ∧
      (verdictOn scheduler now job).isUnknown = true
  | .impossible => ∃ job, Cleared scheduler.selection state inFlight row job ∧
      (verdictOn scheduler now job).isImpossible = true

end Rows

section Meets

variable (scheduler : JobScheduler) (state : PipelineState) (inFlight : Finset String) (clock : ℕ → ℚ)

abbrev ReadyAt (idx : Fin state.queue.length) : Prop :=
  Ready scheduler state inFlight (clock idx) (state.queue.get idx)

abbrev FailsAt (idx : Fin state.queue.length) : Prop :=
  ∃ dependency, Fails scheduler state inFlight (state.queue.get idx) dependency

/-- No visited row is ready. -/
def Idle : Prop := ∀ idx ∈ scheduler.orderingPolicy state.queue, ¬ ReadyAt scheduler state inFlight clock idx

/-- What a scan is for. -/
structure Meets (result : ScheduleResult) : Prop where
  runnable : ∀ idx, First (ReadyAt scheduler state inFlight clock) (scheduler.orderingPolicy state.queue) idx →
    result.kind = .runnable ∧ result.runnableIdx = some idx
  depFailed : Idle scheduler state inFlight clock →
    ∀ idx, First (FailsAt scheduler state inFlight) (scheduler.orderingPolicy state.queue) idx →
      result.kind = .depFailed ∧ result.runnableIdx = some idx ∧
        ∃ dependency, result.pendingDepFailure = some dependency ∧
          Fails scheduler state inFlight (state.queue.get idx) dependency
  none : Idle scheduler state inFlight clock →
    (∀ idx ∈ scheduler.orderingPolicy state.queue, ¬ FailsAt scheduler state inFlight idx) →
    result.kind = .none ∧ result.runnableIdx = none
  attribution : Idle scheduler state inFlight clock → ∀ cause uid, uid ∈ uidsFor result.facts.attribution cause ↔
    ∃ idx ∈ scheduler.orderingPolicy state.queue,
      OfCause scheduler state inFlight (clock idx) (state.queue.get idx) cause ∧
        jobUidFromSnapshot (state.queue.get idx) = uid
  deadlocked : Idle scheduler state inFlight clock → (∃ cause, uidsFor result.facts.attribution cause ≠ []) →
    result.facts.minWait = ⊤
  minWait : Idle scheduler state inFlight clock → (∀ cause, uidsFor result.facts.attribution cause = []) →
    IsLeast (insert ⊤ {wait | ∃ idx ∈ scheduler.orderingPolicy state.queue,
      Blocked scheduler state inFlight (clock idx) (state.queue.get idx) wait}) result.facts.minWait
  pending : result.pendingDepFailure ≠ .none → result.kind = .depFailed

end Meets

section Conditions

/-- The empty uid is not the first broken dependency of a row's job. -/
def Sound (selection : Selection) (state : PipelineState) (inFlight : Finset String) (row : Record) : Prop :=
  ∀ job, Candidate selection row job → ¬ First (Broken selection state inFlight) job.dependsOn ""

def Audible (selection : Selection) (state : PipelineState) (inFlight : Finset String) : Prop :=
  ∀ row ∈ state.queue, Sound selection state inFlight row

omit [Python] in
/-- A row has the key, the dependencies and the resources of a job. -/
def LooksLike (row : Record) (job : Job) : Prop :=
  Record.get row "task_type" = .str job.taskType.val ∧ Record.get row "job_id" = .str job.jobId.val ∧
    schedFieldsMatch (JobFacts.ofJob job) row = true

/-- A queued row that looks like a job parses. -/
def Apparent (state : PipelineState) : Prop :=
  ∀ row ∈ state.queue, ∀ job, LooksLike row job → (Job.fromDict row).isOk = true

end Conditions

section Standing

variable {scheduler : JobScheduler} {state : PipelineState} {inFlight : Finset String} {dependency : String}

theorem mem_excludedUids {uid : String} :
    uid ∈ scheduler.excludedUids state ↔ Postponed scheduler.selection state uid := by
  unfold excludedUids Postponed
  cases active : scheduler.selection.isActive with
  | false =>
    have inactive : scheduler.selection.rules = [] := by
      simpa [Selection.isActive, List.isEmpty_iff] using active
    simp [Selection.allowsTaskType, Selection.isSkipped, Selection.isExcluded, inactive]
  | true =>
    rw [if_pos rfl, PipelineState.uidsOf, Fresh.mem_keys]
    constructor
    · rintro ⟨row, member, same⟩
      obtain ⟨queued, barred⟩ := List.mem_filter.mp member
      cases typed : Record.get row "task_type" with
      | str taskType =>
        simp only [typed, Bool.and_eq_true, Bool.not_eq_true', decide_eq_true_eq] at barred
        exact ⟨row, queued, taskType, typed, barred.1, barred.2, same⟩
      | null | bool _ | int _ | float _ | arr _ | obj _ => simp [typed] at barred
    · rintro ⟨row, queued, taskType, typed, named, barred, same⟩
      exact ⟨row, List.mem_filter.mpr ⟨queued, by simp [typed, named, barred]⟩, same⟩

/-- What the scan takes a dependency for. -/
abbrev standingOf (scheduler : JobScheduler) (state : PipelineState) (inFlight : Finset String)
    (dependency : String) : Standing :=
  standing state ((state.queueUids ∪ inFlight) \ scheduler.excludedUids state) (state.queueUids ∪ inFlight) dependency

theorem mem_active : dependency ∈ (state.queueUids ∪ inFlight) \ scheduler.excludedUids state ↔
    Active scheduler.selection state inFlight dependency := by
  rw [Finset.mem_sdiff, Finset.mem_union, mem_excludedUids, Active]

theorem standingOf_failed : standingOf scheduler state inFlight dependency = .failed ↔
    Broken scheduler.selection state inFlight dependency := by
  unfold standingOf standing Broken
  rw [← mem_active]
  split_ifs <;> simp_all

theorem standingOf_met : standingOf scheduler state inFlight dependency = .met ↔
    Satisfied scheduler.selection state inFlight dependency := by
  unfold standingOf standing Satisfied
  rw [← mem_active]
  split_ifs <;> simp_all

theorem standingOf_missing : standingOf scheduler state inFlight dependency = .missing ↔
    Missing state inFlight dependency := by
  rw [Missing, ← not_or, ← Finset.mem_union]
  by_cases pending : dependency ∈ state.queueUids ∪ inFlight
  · unfold standingOf standing
    split_ifs <;> simp_all
  · have inactive : dependency ∉ (state.queueUids ∪ inFlight) \ scheduler.excludedUids state := fun active =>
      pending (Finset.mem_sdiff.mp active).1
    unfold standingOf standing
    rw [if_neg inactive]
    split_ifs <;> simp_all

end Standing

section Barrier

variable {state : PipelineState} {active pending : Finset String}

omit [Python] in
/-- The loop over the dependencies ends at the first one that has failed. -/
theorem barrier_first {dependencies : List String} {dependency : String} (found : Barrier)
    (first : First (fun dependency => standing state active pending dependency = .failed) dependencies dependency) :
    (barrier state active pending dependencies found).failed = some dependency := by
  obtain ⟨before, after, rfl, unlike, fails⟩ := first
  induction before generalizing found with
  | nil => simp [barrier, fails]
  | cons head rest ih =>
    rw [List.forall_mem_cons] at unlike
    rw [List.cons_append, barrier]
    cases stands : standing state active pending head with
    | failed => exact absurd stands unlike.1
    | waiting | met | missing => exact ih _ unlike.2

omit [Python] in
theorem barrier_unfailed {dependencies : List String} {found : Barrier} (unfailed : found.failed = none)
    (none : ∀ dependency ∈ dependencies, standing state active pending dependency ≠ .failed) :
    (barrier state active pending dependencies found).failed = .none := by
  cases ends : (barrier state active pending dependencies found).failed with
  | none => rfl
  | some dependency =>
    rcases barrier_failed ends with early | ⟨depends, fails⟩
    · rw [unfailed] at early
      cases early
    · exact absurd fails (none dependency depends)

end Barrier

section Judge

variable {scheduler : JobScheduler} {state : PipelineState} {inFlight : Finset String} {now : ℚ} {row : Record}
  {job : Job}

/-- The verdict on a row that is read from the queue. -/
abbrev verdictOf (scheduler : JobScheduler) (state : PipelineState) (inFlight : Finset String) (now : ℚ)
    (row : Record) : Verdict :=
  scheduler.judge state inFlight now row (JobFacts.fromJobSnapshot row)

theorem fromJobSnapshot_of_parsed (parsed : Job.fromDict row = .ok job) :
    JobFacts.fromJobSnapshot row = .ok (JobFacts.ofJob job) := by
  rw [JobFacts.fromJobSnapshot, parsed]
  rfl

theorem judge_malformed (bad : ∀ job, Job.fromDict row ≠ .ok job) :
    verdictOf scheduler state inFlight now row = .malformed (jobUidFromSnapshot row) := by
  unfold verdictOf JobFacts.fromJobSnapshot
  cases read : Job.fromDict row with
  | ok job => exact absurd read (bad job)
  | error refusal => rfl

theorem judge_barred (parsed : Job.fromDict row = .ok job)
    (barred : scheduler.selection.allowsTaskType job.taskType.val = false) :
    verdictOf scheduler state inFlight now row = .unselected := by
  have active : scheduler.selection.isActive = true := by
    by_contra inactive
    rw [allows_of_inactive (by simpa using inactive)] at barred
    cases barred
  rw [verdictOf, fromJobSnapshot_of_parsed parsed, judge, if_pos]
  simp [JobFacts.ofJob, active, barred]

/-- A row of a candidate is judged by its dependencies. -/
theorem judge_candidate (candidate : Candidate scheduler.selection row job) :
    verdictOf scheduler state inFlight now row =
      match scheduler.barrierOf state inFlight (JobFacts.ofJob job) with
      | ⟨some dependency, missing, waiting⟩ =>
          if dependency ≠ "" then .dependencyFailed dependency
          else if missing then .missing job.uid
          else if waiting then .waiting
          else scheduler.evaluated now (JobFacts.ofJob job) false
      | ⟨none, true, _⟩ => .missing job.uid
      | ⟨none, false, true⟩ => .waiting
      | ⟨none, false, false⟩ => scheduler.evaluated now (JobFacts.ofJob job) true := by
  rw [verdictOf, fromJobSnapshot_of_parsed candidate.parsed, judge, if_neg]
  · rfl
  · simp [JobFacts.ofJob, candidate.allowed]

variable (scheduler state inFlight now) in
/-- What a row of a candidate comes to, by the first of its dependencies that is broken. -/
theorem judge_broken {dependency : String} (candidate : Candidate scheduler.selection row job)
    (first : First (Broken scheduler.selection state inFlight) job.dependsOn dependency) (named : dependency ≠ "") :
    verdictOf scheduler state inFlight now row = .dependencyFailed dependency := by
  have failed : (scheduler.barrierOf state inFlight (JobFacts.ofJob job)).failed = some dependency :=
    barrier_first {} ((first_congr fun _ _ => standingOf_failed).mpr first)
  rw [judge_candidate candidate]
  rcases found : scheduler.barrierOf state inFlight (JobFacts.ofJob job) with ⟨_, missing, waiting⟩
  rw [found] at failed
  simp only at failed
  subst failed
  exact if_pos named

/-- What the loop finds where no dependency is broken. -/
theorem barrier_unbroken (unbroken : ∀ dependency ∈ job.dependsOn, ¬ Broken scheduler.selection state inFlight dependency) :
    (scheduler.barrierOf state inFlight (JobFacts.ofJob job)).failed = none ∧
      ((scheduler.barrierOf state inFlight (JobFacts.ofJob job)).missing = true ↔
        ∃ dependency ∈ job.dependsOn, Missing state inFlight dependency) ∧
      ((scheduler.barrierOf state inFlight (JobFacts.ofJob job)).waiting = true ↔
        ∃ dependency ∈ job.dependsOn, standingOf scheduler state inFlight dependency = .waiting) := by
  have unfailed : (scheduler.barrierOf state inFlight (JobFacts.ofJob job)).failed = none :=
    barrier_unfailed rfl fun dependency depends => fun fails =>
      unbroken dependency depends (standingOf_failed.mp fails)
  obtain ⟨-, missing, waiting⟩ := barrier_of_unfailed unfailed
  refine ⟨unfailed, ?_, ?_⟩
  · rw [barrierOf, missing]
    simp only [Bool.false_eq_true, false_or]
    exact exists_congr fun dependency => and_congr_right fun _ => standingOf_missing
  · rw [barrierOf, waiting]
    simp only [Bool.false_eq_true, false_or]
    rfl

variable (scheduler state inFlight now) in
theorem judge_missing (candidate : Candidate scheduler.selection row job)
    (unbroken : ∀ dependency ∈ job.dependsOn, ¬ Broken scheduler.selection state inFlight dependency)
    (absent : ∃ dependency ∈ job.dependsOn, Missing state inFlight dependency) :
    verdictOf scheduler state inFlight now row = .missing job.uid := by
  obtain ⟨unfailed, missing, -⟩ := barrier_unbroken unbroken
  rw [← missing] at absent
  rw [judge_candidate candidate]
  rcases found : scheduler.barrierOf state inFlight (JobFacts.ofJob job) with ⟨_, _, waiting⟩
  rw [found] at unfailed absent
  simp only at unfailed absent
  subst unfailed absent
  rfl

variable (scheduler state inFlight now) in
theorem judge_waiting (candidate : Candidate scheduler.selection row job)
    (unbroken : ∀ dependency ∈ job.dependsOn, ¬ Broken scheduler.selection state inFlight dependency)
    (present : ∀ dependency ∈ job.dependsOn, ¬ Missing state inFlight dependency)
    (unsatisfied : ∃ dependency ∈ job.dependsOn, ¬ Satisfied scheduler.selection state inFlight dependency) :
    verdictOf scheduler state inFlight now row = .waiting := by
  obtain ⟨unfailed, missing, waiting⟩ := barrier_unbroken unbroken
  have known : (scheduler.barrierOf state inFlight (JobFacts.ofJob job)).missing = false := by
    rw [← Bool.not_eq_true, missing]
    simpa using present
  have waits : (scheduler.barrierOf state inFlight (JobFacts.ofJob job)).waiting = true := by
    obtain ⟨dependency, depends, unmet⟩ := unsatisfied
    refine waiting.mpr ⟨dependency, depends, ?_⟩
    cases stands : standingOf scheduler state inFlight dependency with
    | waiting => rfl
    | met => exact absurd (standingOf_met.mp stands) unmet
    | failed => exact absurd (standingOf_failed.mp stands) (unbroken dependency depends)
    | missing => exact absurd (standingOf_missing.mp stands) (present dependency depends)
  rw [judge_candidate candidate]
  rcases found : scheduler.barrierOf state inFlight (JobFacts.ofJob job) with ⟨_, _, _⟩
  rw [found] at unfailed known waits
  simp only at unfailed known waits
  subst unfailed known waits
  rfl

theorem not_broken_of_satisfied {dependency : String}
    (satisfied : Satisfied scheduler.selection state inFlight dependency) :
    ¬ Broken scheduler.selection state inFlight dependency ∧ ¬ Missing state inFlight dependency := by
  rw [← standingOf_met] at satisfied
  rw [← standingOf_failed, ← standingOf_missing, satisfied]
  exact ⟨by simp, by simp⟩

variable (scheduler state inFlight now) in
theorem judge_cleared (cleared : Cleared scheduler.selection state inFlight row job) :
    verdictOf scheduler state inFlight now row = scheduler.evaluated now (JobFacts.ofJob job) true := by
  obtain ⟨candidate, satisfied⟩ := cleared
  obtain ⟨unfailed, missing, waiting⟩ := @barrier_unbroken _ scheduler state inFlight job
    fun dependency depends => (not_broken_of_satisfied (satisfied dependency depends)).1
  have known : (scheduler.barrierOf state inFlight (JobFacts.ofJob job)).missing = false := by
    rw [← Bool.not_eq_true, missing]
    rintro ⟨dependency, depends, absent⟩
    exact (not_broken_of_satisfied (satisfied dependency depends)).2 absent
  have free : (scheduler.barrierOf state inFlight (JobFacts.ofJob job)).waiting = false := by
    rw [← Bool.not_eq_true, waiting]
    rintro ⟨dependency, depends, waits⟩
    rw [standingOf_met.mpr (satisfied dependency depends)] at waits
    cases waits
  rw [judge_candidate candidate]
  rcases found : scheduler.barrierOf state inFlight (JobFacts.ofJob job) with ⟨_, _, _⟩
  rw [found] at unfailed known free
  simp only at unfailed known free
  subst unfailed known free
  rfl

end Judge

section Fate

variable {scheduler : JobScheduler} {state : PipelineState} {inFlight : Finset String} {now : ℚ} {row : Record}

omit [Python] in
/-- An evaluation has one answer. -/
theorem evaluateEntries_answer {manager : ResourceManager} (entries : List (String × Number)) (wait : WithTop ℚ) :
    ((manager.evaluateEntries now entries wait).isUnknown = true →
      (manager.evaluateEntries now entries wait).isAvailable = false ∧
        (manager.evaluateEntries now entries wait).isImpossible = false) ∧
      ((manager.evaluateEntries now entries wait).isImpossible = true →
        (manager.evaluateEntries now entries wait).isAvailable = false) := by
  induction entries generalizing wait with
  | nil =>
    unfold ResourceManager.evaluateEntries
    split <;> simp
  | cons entry rest ih =>
    rcases entry with ⟨name, amount⟩
    unfold ResourceManager.evaluateEntries
    split
    · simp
    · split
      · exact ih wait
      · split
        · simp
        · exact ih _

omit [Python] in
theorem verdictOn_answer (job : Job) :
    ((verdictOn scheduler now job).isUnknown = true → (verdictOn scheduler now job).isAvailable = false ∧
        (verdictOn scheduler now job).isImpossible = false) ∧
      ((verdictOn scheduler now job).isImpossible = true → (verdictOn scheduler now job).isAvailable = false) :=
  evaluateEntries_answer _ 0

omit [Python] in
theorem evaluated_eq (job : Job) : scheduler.evaluated now (JobFacts.ofJob job) true =
    if (verdictOn scheduler now job).isUnknown then .unknown job.uid
    else if (verdictOn scheduler now job).isImpossible then .impossible job.uid
    else if (verdictOn scheduler now job).isAvailable then .runnable
    else .delayed (verdictOn scheduler now job).waitTime := by
  show (if (verdictOn scheduler now job).isUnknown then Verdict.unknown job.uid
    else if (verdictOn scheduler now job).isImpossible then .impossible job.uid
    else if !(verdictOn scheduler now job).isAvailable then .delayed (verdictOn scheduler now job).waitTime
    else if true then .runnable else .lost) = _
  cases (verdictOn scheduler now job).isAvailable <;> rfl

variable (scheduler state inFlight now row) in
/-- What the class of a row makes of it. -/
inductive Fate : Verdict → Prop where
  | malformed (bad : ∀ job, Job.fromDict row ≠ .ok job) : Fate (.malformed (jobUidFromSnapshot row))
  | barred : Fate .unselected
  | broken {dependency : String} (fails : Fails scheduler state inFlight row dependency) :
      Fate (.dependencyFailed dependency)
  | missing {job : Job} (candidate : Candidate scheduler.selection row job)
      (unbroken : ∀ dependency ∈ job.dependsOn, ¬ Broken scheduler.selection state inFlight dependency)
      (absent : ∃ dependency ∈ job.dependsOn, Missing state inFlight dependency) :
      Fate (.missing (jobUidFromSnapshot row))
  | waiting : Fate .waiting
  | unknown {job : Job} (cleared : Cleared scheduler.selection state inFlight row job)
      (answer : (verdictOn scheduler now job).isUnknown = true) : Fate (.unknown (jobUidFromSnapshot row))
  | impossible {job : Job} (cleared : Cleared scheduler.selection state inFlight row job)
      (answer : (verdictOn scheduler now job).isImpossible = true) : Fate (.impossible (jobUidFromSnapshot row))
  | blocked {wait : WithTop ℚ} (blocked : Blocked scheduler state inFlight now row wait) : Fate (.delayed wait)
  | ready (ready : Ready scheduler state inFlight now row) : Fate .runnable

variable (now) in
theorem fails_first (sound : Sound scheduler.selection state inFlight row) {job : Job}
    (candidate : Candidate scheduler.selection row job)
    (fails : ∃ dependency ∈ job.dependsOn, Broken scheduler.selection state inFlight dependency) :
    ∃ dependency, Fails scheduler state inFlight row dependency ∧
      verdictOf scheduler state inFlight now row = .dependencyFailed dependency := by
  obtain ⟨dependency, first⟩ := exists_first fails
  have named : dependency ≠ "" := by
    rintro rfl
    exact sound job candidate first
  obtain ⟨depends, broken⟩ := mem_of_first first
  exact ⟨dependency, ⟨job, candidate, depends, broken⟩, judge_broken scheduler state inFlight now candidate first named⟩

theorem fate_of_cleared {job : Job} (cleared : Cleared scheduler.selection state inFlight row job) :
    Fate scheduler state inFlight now row (scheduler.evaluated now (JobFacts.ofJob job) true) := by
  rw [evaluated_eq, ← uid_of_fromDict cleared.1.parsed]
  split_ifs with unknown impossible available
  · exact .unknown cleared unknown
  · exact .impossible cleared impossible
  · exact .ready ⟨job, cleared, available⟩
  · exact .blocked ⟨job, cleared, by simpa using available, by simpa using unknown, by simpa using impossible, rfl⟩

/-- Every row has the fate of its class. -/
theorem fate (sound : Sound scheduler.selection state inFlight row) :
    Fate scheduler state inFlight now row (verdictOf scheduler state inFlight now row) := by
  by_cases bad : ∀ job, Job.fromDict row ≠ .ok job
  · rw [judge_malformed bad]
    exact .malformed bad
  · obtain ⟨job, parsed⟩ : ∃ job, Job.fromDict row = .ok job := by simpa using bad
    cases allowed : scheduler.selection.allowsTaskType job.taskType.val with
    | false =>
      rw [judge_barred parsed allowed]
      exact .barred
    | true =>
      have candidate : Candidate scheduler.selection row job := ⟨parsed, allowed⟩
      by_cases fails : ∃ dependency ∈ job.dependsOn, Broken scheduler.selection state inFlight dependency
      · obtain ⟨dependency, broken, judged⟩ := fails_first now sound candidate fails
        rw [judged]
        exact .broken broken
      · have unbroken : ∀ dependency ∈ job.dependsOn, ¬ Broken scheduler.selection state inFlight dependency := by
          simpa using fails
        by_cases absent : ∃ dependency ∈ job.dependsOn, Missing state inFlight dependency
        · rw [judge_missing scheduler state inFlight now candidate unbroken absent, ← uid_of_fromDict parsed]
          exact .missing candidate unbroken absent
        · by_cases satisfied : ∀ dependency ∈ job.dependsOn, Satisfied scheduler.selection state inFlight dependency
          · rw [judge_cleared scheduler state inFlight now ⟨candidate, satisfied⟩]
            exact fate_of_cleared ⟨candidate, satisfied⟩
          · rw [judge_waiting scheduler state inFlight now candidate unbroken (by simpa using absent)
              (by simpa using satisfied)]
            exact .waiting

theorem ready_iff (sound : Sound scheduler.selection state inFlight row) :
    Ready scheduler state inFlight now row ↔ verdictOf scheduler state inFlight now row = .runnable := by
  constructor
  · rintro ⟨job, cleared, available⟩
    obtain ⟨unknown, impossible⟩ := @verdictOn_answer scheduler now job
    rw [judge_cleared scheduler state inFlight now cleared, evaluated_eq, if_neg, if_neg, if_pos available]
    · intro refused
      rw [impossible refused] at available
      cases available
    · intro refused
      rw [(unknown refused).1] at available
      cases available
  · intro judged
    have found := @fate _ scheduler state inFlight now row sound
    rw [judged] at found
    cases found with
    | ready ready => exact ready

theorem fails_of_judged (sound : Sound scheduler.selection state inFlight row) {dependency : String}
    (judged : verdictOf scheduler state inFlight now row = .dependencyFailed dependency) :
    Fails scheduler state inFlight row dependency := by
  have found := @fate _ scheduler state inFlight now row sound
  rw [judged] at found
  cases found with
  | broken fails => exact fails

theorem fails_iff (sound : Sound scheduler.selection state inFlight row) :
    (∃ dependency, Fails scheduler state inFlight row dependency) ↔
      ∃ dependency, verdictOf scheduler state inFlight now row = .dependencyFailed dependency := by
  constructor
  · rintro ⟨dependency, job, candidate, depends, broken⟩
    obtain ⟨first, -, judged⟩ := fails_first now sound candidate ⟨dependency, depends, broken⟩
    exact ⟨first, judged⟩
  · rintro ⟨dependency, judged⟩
    exact ⟨dependency, fails_of_judged sound judged⟩

theorem blocked_iff (sound : Sound scheduler.selection state inFlight row) {wait : WithTop ℚ} :
    Blocked scheduler state inFlight now row wait ↔
      verdictOf scheduler state inFlight now row = .delayed wait := by
  constructor
  · rintro ⟨job, cleared, busy, known, possible, rfl⟩
    rw [judge_cleared scheduler state inFlight now cleared, evaluated_eq, known, possible, busy]
    rfl
  · intro judged
    have found := @fate _ scheduler state inFlight now row sound
    rw [judged] at found
    cases found with
    | blocked blocked => exact blocked

theorem ofCause_iff (sound : Sound scheduler.selection state inFlight row) (cause : Cause) (uid : String) :
    uid ∈ blamed cause (verdictOf scheduler state inFlight now row) ↔
      OfCause scheduler state inFlight now row cause ∧ jobUidFromSnapshot row = uid := by
  constructor
  · intro member
    have found := @fate _ scheduler state inFlight now row sound
    generalize verdictOf scheduler state inFlight now row = verdict at found member
    cases found with
    | malformed bad =>
      cases cause <;> simp [blamed] at member
      exact ⟨bad, member.symm⟩
    | missing candidate unbroken absent =>
      cases cause <;> simp [blamed] at member
      exact ⟨⟨_, candidate, unbroken, absent⟩, member.symm⟩
    | unknown cleared answer =>
      cases cause <;> simp [blamed] at member
      exact ⟨⟨_, cleared, answer⟩, member.symm⟩
    | impossible cleared answer =>
      cases cause <;> simp [blamed] at member
      exact ⟨⟨_, cleared, answer⟩, member.symm⟩
    | barred | broken _ | waiting | blocked _ | ready _ => simp [blamed] at member
  · rintro ⟨ofCause, rfl⟩
    cases cause with
    | malformed =>
      rw [judge_malformed ofCause]
      simp [blamed]
    | missing =>
      obtain ⟨job, candidate, unbroken, absent⟩ := ofCause
      rw [judge_missing scheduler state inFlight now candidate unbroken absent, ← uid_of_fromDict candidate.parsed]
      simp [blamed]
    | unknown =>
      obtain ⟨job, cleared, answer⟩ := ofCause
      rw [judge_cleared scheduler state inFlight now cleared, evaluated_eq, if_pos answer,
        ← uid_of_fromDict cleared.1.parsed]
      simp [blamed]
    | impossible =>
      obtain ⟨job, cleared, answer⟩ := ofCause
      have known : ¬ (verdictOn scheduler now job).isUnknown = true := by
        intro unknown
        rw [((verdictOn_answer job).1 unknown).2] at answer
        cases answer
      rw [judge_cleared scheduler state inFlight now cleared, evaluated_eq, if_neg known, if_pos answer,
        ← uid_of_fromDict cleared.1.parsed]
      simp [blamed]

end Fate

section Sum

variable {places : ℕ} {verdict : Fin places → Verdict} {order : List (Fin places)} {start : Tally}

/-- The failed dependency of a row and its place. -/
def failure (verdict : Fin places → Verdict) (idx : Fin places) : Option (String × ℕ) :=
  match verdict idx with
  | .dependencyFailed dependency => some (dependency, idx)
  | _ => none

omit [Python] in
theorem failure_eq_some {idx : Fin places} {entry : String × ℕ} :
    failure verdict idx = some entry ↔ verdict idx = .dependencyFailed entry.1 ∧ entry.2 = idx := by
  unfold failure
  rcases entry with ⟨dependency, place⟩
  cases verdict idx <;> simp [eq_comm]

omit [Python] in
/-- The first failure is remembered. -/
theorem tallied_pending : (tallied verdict order start).pendingDepFailure =
    start.pendingDepFailure.or (order.findSome? (failure verdict)) := by
  unfold tallied
  induction order generalizing start with
  | nil => simp
  | cons idx rest ih =>
    rw [List.foldl_cons, ih, List.findSome?_cons]
    cases judged : verdict idx <;> simp [Tally.record, failure, judged]

omit [Python] in
theorem tallied_pending_first {entry : String × ℕ} (pending : (tallied verdict order {}).pendingDepFailure = some entry) :
    ∃ idx, First (fun idx => ∃ dependency, verdict idx = .dependencyFailed dependency) order idx ∧
      verdict idx = .dependencyFailed entry.1 ∧ entry.2 = idx := by
  rw [tallied_pending, Option.none_or, List.findSome?_eq_some_iff] at pending
  obtain ⟨before, idx, after, split, found, unlike⟩ := pending
  obtain ⟨judged, place⟩ := failure_eq_some.mp found
  refine ⟨idx, ⟨before, after, split, ?_, entry.1, judged⟩, judged, place⟩
  rintro earlier member ⟨dependency, fails⟩
  have absent := unlike earlier member
  rw [(@failure_eq_some _ verdict earlier (dependency, earlier)).mpr ⟨fails, rfl⟩] at absent
  cases absent

omit [Python] in
theorem tallied_pending_of_first {idx : Fin places}
    (first : First (fun idx => ∃ dependency, verdict idx = .dependencyFailed dependency) order idx) :
    ∃ dependency, (tallied verdict order {}).pendingDepFailure = some (dependency, idx.val) ∧
      verdict idx = .dependencyFailed dependency := by
  obtain ⟨before, after, split, unlike, dependency, judged⟩ := first
  refine ⟨dependency, ?_, judged⟩
  rw [tallied_pending, Option.none_or, List.findSome?_eq_some_iff]
  refine ⟨before, idx, after, split, failure_eq_some.mpr ⟨judged, rfl⟩, fun earlier member => ?_⟩
  cases found : failure verdict earlier with
  | none => rfl
  | some entry => exact absurd ⟨entry.1, (failure_eq_some.mp found).1⟩ (unlike earlier member)

omit [Python] in
theorem tallied_pending_none (none : ∀ idx ∈ order, ¬ ∃ dependency, verdict idx = .dependencyFailed dependency) :
    (tallied verdict order {}).pendingDepFailure = .none := by
  cases pending : (tallied verdict order {}).pendingDepFailure with
  | none => rfl
  | some entry =>
    obtain ⟨idx, first, -⟩ := tallied_pending_first pending
    obtain ⟨member, fails⟩ := mem_of_first first
    exact absurd fails (none idx member)

omit [Python] in
/-- Unless a resource is unknown, the wait that is added up is the start or that of a delayed job. -/
theorem tallied_attained (known : ∀ idx ∈ order, ∀ uid, verdict idx ≠ .unknown uid) :
    (tallied verdict order start).minWait = start.minWait ∨
      ∃ idx ∈ order, verdict idx = .delayed (tallied verdict order start).minWait := by
  unfold tallied
  induction order generalizing start with
  | nil => exact .inl rfl
  | cons idx rest ih =>
    rw [List.forall_mem_cons] at known
    rw [List.foldl_cons]
    rcases @ih (start.record idx (verdict idx)) known.2 with same | ⟨other, member, judged⟩
    · rw [same]
      cases judged : verdict idx with
      | unknown uid => exact absurd judged (known.1 uid)
      | delayed wait =>
        rcases min_choice start.minWait wait with before | here
        · exact .inl before
        · refine .inr ⟨idx, List.mem_cons_self, ?_⟩
          rw [judged]
          exact congrArg Verdict.delayed here.symm
      | _ => exact .inl rfl
    · exact .inr ⟨other, List.mem_cons_of_mem _ member, judged⟩

end Sum

section Scan

variable {scheduler : JobScheduler} {state : PipelineState} {inFlight : Finset String} {clock : ℕ → ℚ}
  {order : List (Fin state.queue.length)}

/-- The verdict on a place of the queue. -/
abbrev verdictAt (scheduler : JobScheduler) (state : PipelineState) (inFlight : Finset String) (clock : ℕ → ℚ)
    (idx : Fin state.queue.length) : Verdict :=
  verdictOf scheduler state inFlight (clock idx) (state.queue.get idx)

theorem scanRowsUncached_none {tally : Tally}
    (none : ∀ idx ∈ order, verdictAt scheduler state inFlight clock idx ≠ .runnable) :
    scanRowsUncached scheduler state inFlight clock order tally =
      (tallied (verdictAt scheduler state inFlight clock) order tally, .none) := by
  induction order generalizing tally with
  | nil => rfl
  | cons idx rest ih =>
    rw [List.forall_mem_cons] at none
    rw [scanRowsUncached, if_neg none.1]
    exact ih none.2

theorem scanRowsUncached_first {tally : Tally} {idx : Fin state.queue.length}
    (first : First (fun idx => verdictAt scheduler state inFlight clock idx = .runnable) order idx) :
    ∃ before ⊆ order, scanRowsUncached scheduler state inFlight clock order tally =
      (tallied (verdictAt scheduler state inFlight clock) (before ++ [idx]) tally, some idx.val) := by
  obtain ⟨before, after, rfl, unlike, runs⟩ := first
  refine ⟨before, List.subset_append_left _ _, ?_⟩
  induction before generalizing tally with
  | nil =>
    rw [List.nil_append, scanRowsUncached, if_pos runs]
    rfl
  | cons head rest ih =>
    rw [List.forall_mem_cons] at unlike
    rw [List.cons_append, scanRowsUncached, if_neg unlike.1]
    exact ih unlike.2

/-- A scan that stops at a row that can run returns that row. -/
theorem scanUncached_first {idx : Fin state.queue.length}
    (first : First (fun idx => verdictAt scheduler state inFlight clock idx = .runnable)
      (scheduler.orderingPolicy state.queue) idx) :
    (scanUncached scheduler state inFlight clock).kind = .runnable ∧
      (scanUncached scheduler state inFlight clock).runnableIdx = some idx.val ∧
      (scanUncached scheduler state inFlight clock).pendingDepFailure = none := by
  obtain ⟨before, -, scanned⟩ := @scanRowsUncached_first _ scheduler state inFlight clock _ {} _ first
  have apart : some idx.val ≠ (tallied (verdictAt scheduler state inFlight clock)
      (before ++ [idx]) {}).pendingDepFailure.map Prod.snd := by
    intro same
    obtain ⟨entry, pending, place⟩ := Option.map_eq_some_iff.mp same.symm
    obtain ⟨other, -, judged, placed⟩ := tallied_pending_first pending
    have here : other = idx := Fin.ext (placed ▸ place)
    rw [here, (mem_of_first first).2] at judged
    cases judged
  simp only [scanUncached, scanned, concluded, Option.some_or]
  rw [if_neg apart]
  simp

/-- A scan that finds no row that can run falls back on the first failure. -/
theorem scanUncached_none
    (none : ∀ idx ∈ scheduler.orderingPolicy state.queue, verdictAt scheduler state inFlight clock idx ≠ .runnable) :
    scanUncached scheduler state inFlight clock =
      concluded state (tallied (verdictAt scheduler state inFlight clock)
        (scheduler.orderingPolicy state.queue) {}) .none := by
  unfold scanUncached
  rw [scanRowsUncached_none none]

/-- A scan through a cache of jobs, where rows that look like a job parse. -/
theorem scanNextRunnable_apparent (truthful : Truthful scheduler.jobCache) (apparent : Apparent state) :
    (scheduler.scanNextRunnable state inFlight clock).2 = scanUncached scheduler state inFlight clock := by
  have judged : ∀ idx ∈ scheduler.orderingPolicy state.queue, ∀ cache, Truthful cache →
      scheduler.judge state inFlight (clock idx) (state.queue.get idx) (cachedJob cache (state.queue.get idx)).2 =
        scheduler.judge state inFlight (clock idx) (state.queue.get idx)
          (JobFacts.fromJobSnapshot (state.queue.get idx)) := by
    intro idx _ cache truthful
    cases parsed : JobFacts.fromJobSnapshot (state.queue.get idx) with
    | ok fresh =>
      obtain ⟨facts, answered, agree⟩ := cachedJob_agrees truthful parsed
      rw [answered, judge_congr agree]
    | error refusal =>
      have missed : (cachedJob cache (state.queue.get idx)).2 = .error refusal := by
        unfold cachedJob
        split
        · rename_i taskType jobId typed named
          split
          · rename_i facts hit
            obtain ⟨stored, matching⟩ := Option.filter_eq_some_iff.mp hit
            obtain ⟨job, type, id, rfl⟩ := truthful taskType jobId facts stored
            have parses := apparent _ (List.get_mem _ idx) job ⟨type ▸ typed, id ▸ named, matching⟩
            rw [JobFacts.fromJobSnapshot] at parsed
            cases read : Job.fromDict (state.queue.get idx) with
            | ok job => simp only [read, Except.map, reduceCtorEq] at parsed
            | error other => simp only [read, Except.isOk, Except.toBool, Bool.false_eq_true] at parses
          · simp only [parsed]
        · exact parsed
      rw [missed]
  have same := @scanRows_uncached _ scheduler state inFlight clock Truthful (scheduler.orderingPolicy state.queue)
    (fun _ _ _ truthful => truthful_cachedJob truthful _) judged _ truthful {}
  unfold scanUncached
  rw [← same]
  rfl

end Scan

section Specification

variable {scheduler : JobScheduler} {state : PipelineState} {inFlight : Finset String} {clock : ℕ → ℚ}

theorem concluded_failed {tally : Tally} {entry : String × ℕ} (pending : tally.pendingDepFailure = some entry) :
    (concluded state tally none).kind = .depFailed ∧ (concluded state tally none).runnableIdx = some entry.2 ∧
      (concluded state tally none).pendingDepFailure = some entry.1 := by
  unfold concluded
  rw [pending]
  simp

theorem concluded_none {tally : Tally} (pending : tally.pendingDepFailure = none) :
    (concluded state tally none).kind = .none ∧ (concluded state tally none).runnableIdx = none ∧
      (concluded state tally none).pendingDepFailure = none := by
  unfold concluded
  rw [pending]
  simp

variable (audible : Audible scheduler.selection state inFlight)

include audible

theorem sound_at (idx : Fin state.queue.length) : Sound scheduler.selection state inFlight (state.queue.get idx) :=
  audible _ (List.get_mem _ idx)

theorem readyAt_iff (idx : Fin state.queue.length) : ReadyAt scheduler state inFlight clock idx ↔
    verdictAt scheduler state inFlight clock idx = .runnable :=
  ready_iff (sound_at audible idx)

theorem failsAt_iff (idx : Fin state.queue.length) : FailsAt scheduler state inFlight idx ↔
    ∃ dependency, verdictAt scheduler state inFlight clock idx = .dependencyFailed dependency :=
  fails_iff (sound_at audible idx)

theorem scanUncached_idle (idle : Idle scheduler state inFlight clock) : scanUncached scheduler state inFlight clock =
    concluded state (tallied (verdictAt scheduler state inFlight clock) (scheduler.orderingPolicy state.queue) {})
      none :=
  scanUncached_none fun idx member runs => idle idx member ((readyAt_iff audible idx).mpr runs)

/-- The attributions of a scan that finds no row ready are the rows of their classes. -/
theorem mem_uidsFor (idle : Idle scheduler state inFlight clock) (cause : Cause) (uid : String) :
    uid ∈ uidsFor (scanUncached scheduler state inFlight clock).facts.attribution cause ↔
      ∃ idx ∈ scheduler.orderingPolicy state.queue,
        OfCause scheduler state inFlight (clock idx) (state.queue.get idx) cause ∧
          jobUidFromSnapshot (state.queue.get idx) = uid := by
  rw [scanUncached_idle audible idle]
  show uid ∈ uidsFor (tallied _ _ {}).attribution cause ↔ _
  have nobody : uid ∉ uidsFor ({} : Tally).attribution cause := by
    cases cause <;> simp [uidsFor]
  rw [tallied_uidsFor, List.mem_append, List.mem_flatMap, or_iff_right nobody]
  exact exists_congr fun idx => and_congr_right fun _ => ofCause_iff (sound_at audible idx) cause uid

theorem deadlocked_minWait (idle : Idle scheduler state inFlight clock)
    (somebody : ∃ cause, uidsFor (scanUncached scheduler state inFlight clock).facts.attribution cause ≠ []) :
    (scanUncached scheduler state inFlight clock).facts.minWait = ⊤ := by
  rw [scanUncached_idle audible idle] at somebody ⊢
  apply if_pos
  by_contra causeless
  obtain ⟨cause, listed⟩ := somebody
  exact listed (hasDeadlockCauses_eq_false.mp (Bool.eq_false_iff.mpr causeless) cause)

theorem least_minWait (idle : Idle scheduler state inFlight clock)
    (nobody : ∀ cause, uidsFor (scanUncached scheduler state inFlight clock).facts.attribution cause = []) :
    IsLeast (insert ⊤ {wait | ∃ idx ∈ scheduler.orderingPolicy state.queue,
        Blocked scheduler state inFlight (clock idx) (state.queue.get idx) wait})
      (scanUncached scheduler state inFlight clock).facts.minWait := by
  set verdict := verdictAt scheduler state inFlight clock with verdictDef
  set order := scheduler.orderingPolicy state.queue with orderDef
  have known : ∀ idx ∈ order, ∀ uid, verdict idx ≠ .unknown uid := by
    intro idx member uid judged
    have blame : uid ∈ blamed .unknown (verdict idx) := by
      rw [judged]
      exact List.mem_singleton_self uid
    have listed := (mem_uidsFor audible idle .unknown uid).mpr
      ⟨idx, member, (ofCause_iff (sound_at audible idx) .unknown uid).mp blame⟩
    rw [nobody .unknown] at listed
    cases listed
  have wait : (scanUncached scheduler state inFlight clock).facts.minWait = (tallied verdict order {}).minWait := by
    rw [scanUncached_idle audible idle] at nobody ⊢
    exact if_neg (Bool.eq_false_iff.mp (hasDeadlockCauses_eq_false.mpr nobody))
  obtain ⟨-, below, -⟩ := @tallied_minWait _ verdict order {} known
  rw [wait]
  constructor
  · rcases @tallied_attained _ verdict order {} known with start | ⟨idx, member, judged⟩
    · exact .inl start
    · exact .inr ⟨idx, member, (blocked_iff (sound_at audible idx)).mpr judged⟩
  · rintro other (rfl | ⟨idx, member, blocked⟩)
    · exact le_top
    · exact below idx member other ((blocked_iff (sound_at audible idx)).mp blocked)

/-- A scan without a cache meets its specification, where no failed dependency goes unheard. -/
theorem scanUncached_meets : Meets scheduler state inFlight clock (scanUncached scheduler state inFlight clock) := by
  have stops : ∀ idx, First (ReadyAt scheduler state inFlight clock) (scheduler.orderingPolicy state.queue) idx →
      (scanUncached scheduler state inFlight clock).kind = .runnable ∧
        (scanUncached scheduler state inFlight clock).runnableIdx = some idx.val ∧
        (scanUncached scheduler state inFlight clock).pendingDepFailure = none := fun idx first =>
    scanUncached_first ((first_congr fun idx _ => readyAt_iff audible idx).mp first)
  constructor
  · intro idx first
    exact ⟨(stops idx first).1, (stops idx first).2.1⟩
  · intro idle idx first
    obtain ⟨dependency, pending, judged⟩ := tallied_pending_of_first
      ((first_congr fun idx _ => @failsAt_iff _ _ _ _ clock audible idx).mp first)
    obtain ⟨kind, place, failed⟩ := @concluded_failed _ state _ _ pending
    rw [scanUncached_idle audible idle]
    exact ⟨kind, place, dependency, failed, fails_of_judged (sound_at audible idx) judged⟩
  · intro idle unfailed
    obtain ⟨kind, place, -⟩ := @concluded_none _ state _ (tallied_pending_none
      fun idx member fails => unfailed idx member ((@failsAt_iff _ _ _ _ clock audible idx).mpr fails))
    rw [scanUncached_idle audible idle]
    exact ⟨kind, place⟩
  · exact mem_uidsFor audible
  · exact deadlocked_minWait audible
  · exact least_minWait audible
  · intro pending
    by_cases idle : Idle scheduler state inFlight clock
    · rw [scanUncached_idle audible idle] at pending ⊢
      cases remembered : (tallied (verdictAt scheduler state inFlight clock)
          (scheduler.orderingPolicy state.queue) {}).pendingDepFailure with
      | none => exact absurd (concluded_none remembered).2.2 pending
      | some entry => exact (concluded_failed remembered).1
    · obtain ⟨idx, first⟩ := exists_first (show ∃ idx ∈ scheduler.orderingPolicy state.queue,
        ReadyAt scheduler state inFlight clock idx by simpa [Idle] using idle)
      exact absurd (stops idx first).2.2 pending

end Specification

section Exact

variable {selection : Selection} {state : PipelineState} {inFlight : Finset String}

/-- Every scan with the selection meets its specification: under any resources, in any order of visits, and
with any cache of jobs. -/
def Specified (selection : Selection) (state : PipelineState) (inFlight : Finset String) : Prop :=
  ∀ scheduler : JobScheduler, scheduler.selection = selection → Truthful scheduler.jobCache → ∀ clock : ℕ → ℚ,
    Meets scheduler state inFlight clock (scheduler.scanNextRunnable state inFlight clock).2

/-- A scheduler that visits one place. -/
def visiting (selection : Selection) (cache : JobCache) (place : ℕ) : JobScheduler where
  resources := { resources := Dict.empty, tasks := Dict.empty, leases := [] }
  orderingPolicy := fun queue => if inside : place < queue.length then [⟨place, inside⟩] else []
  selection := selection
  jobCache := cache

omit [Python] in
theorem visiting_order (cache : JobCache) (idx : Fin state.queue.length) :
    (visiting selection cache idx).orderingPolicy state.queue = [idx] :=
  dif_pos idx.isLt

theorem scan_visiting (cache : JobCache) (idx : Fin state.queue.length) (clock : ℕ → ℚ) {verdict : Verdict}
    (judged : (visiting selection cache idx).judge state inFlight (clock idx) (state.queue.get idx)
      (cachedJob cache (state.queue.get idx)).2 = verdict) :
    ((visiting selection cache idx).scanNextRunnable state inFlight clock).2 =
      concluded state (Tally.record {} idx verdict) (if verdict = .runnable then some idx.val else none) := by
  have cached : (visiting selection cache idx).jobCache = cache := rfl
  unfold scanNextRunnable
  rw [visiting_order]
  simp only [scanRows, cached, judged]
  split <;> rfl

omit [Python] in
theorem first_singleton {α : Type} {property : α → Prop} {item : α} (holds : property item) :
    First property [item] item :=
  ⟨[], [], rfl, by simp, holds⟩

/-- A row of which the first broken dependency is the empty uid is passed over. -/
theorem judge_unheard {scheduler : JobScheduler} {now : ℚ} {row : Record} {job : Job}
    (candidate : Candidate scheduler.selection row job)
    (first : First (Broken scheduler.selection state inFlight) job.dependsOn "") :
    verdictOf scheduler state inFlight now row ≠ .runnable ∧
      ∀ dependency, verdictOf scheduler state inFlight now row ≠ .dependencyFailed dependency := by
  have failed : (scheduler.barrierOf state inFlight (JobFacts.ofJob job)).failed = some "" :=
    barrier_first {} ((first_congr fun _ _ => standingOf_failed).mpr first)
  rw [judge_candidate candidate]
  rcases found : scheduler.barrierOf state inFlight (JobFacts.ofJob job) with ⟨_, missing, waiting⟩
  rw [found] at failed
  simp only at failed
  subst failed
  simp only [ne_eq, not_true_eq_false, if_false, evaluated, Bool.false_eq_true]
  split_ifs <;> simp

theorem cachedJob_empty (row : Record) : (cachedJob Dict.empty row).2 = JobFacts.fromJobSnapshot row := by
  unfold cachedJob
  split
  · have absent : ∀ key, (Dict.empty : JobCache).get? key = none := fun _ => rfl
    rw [absent, Option.filter_none]
    cases JobFacts.fromJobSnapshot row <;> rfl
  · rfl

/-- A row that is taken for a job is not blamed for being malformed. -/
theorem judge_parsed {scheduler : JobScheduler} {now : ℚ} {row : Record} (facts : JobFacts) :
    blamed .malformed (scheduler.judge state inFlight now row (.ok facts)) = [] := by
  have evaluated : ∀ cleared, blamed .malformed (scheduler.evaluated now facts cleared) = [] := by
    intro cleared
    unfold JobScheduler.evaluated
    simp only
    split_ifs <;> rfl
  simp only [judge]
  split
  · rfl
  · split
    · split_ifs
      · rfl
      · rfl
      · rfl
      · exact evaluated false
    · rfl
    · rfl
    · exact evaluated true

theorem audible_of_specified (specified : Specified selection state inFlight) :
    Audible selection state inFlight := by
  intro row queued job candidate first
  obtain ⟨idx, rfl⟩ := List.get_of_mem queued
  obtain ⟨depends, broken⟩ := mem_of_first first
  have read := cachedJob_empty (state.queue.get idx)
  obtain ⟨unable, unheard⟩ := @judge_unheard _ state inFlight (visiting selection Dict.empty idx) 0 _ _ candidate first
  have scanned := @scan_visiting _ selection state inFlight Dict.empty idx (fun _ => 0) _
    (congrArg ((visiting selection Dict.empty idx).judge state inFlight 0 (state.queue.get idx)) read)
  rw [if_neg unable] at scanned
  have meets := specified (visiting selection Dict.empty idx) rfl truthful_empty fun _ => 0
  have order := @visiting_order selection state Dict.empty idx
  have idle : Idle (visiting selection Dict.empty idx) state inFlight fun _ => 0 := by
    rintro other member ⟨otherJob, ⟨otherCandidate, satisfied⟩, -⟩
    rw [order, List.mem_singleton] at member
    subst member
    have same := Except.ok.inj (otherCandidate.parsed.symm.trans candidate.parsed)
    exact (not_broken_of_satisfied (satisfied "" (same ▸ depends))).1 broken
  obtain ⟨kind, -⟩ := meets.depFailed idle idx
    (order ▸ first_singleton ⟨"", job, candidate, depends, broken⟩)
  have pending : (Tally.record {} idx (verdictOf (visiting selection Dict.empty idx) state inFlight 0
      (state.queue.get idx))).pendingDepFailure = none := by
    cases judged : verdictOf (visiting selection Dict.empty idx) state inFlight 0 (state.queue.get idx) with
    | dependencyFailed dependency => exact absurd judged (unheard dependency)
    | _ => rfl
  rw [scanned, (concluded_none pending).1] at kind
  cases kind

theorem apparent_of_specified (specified : Specified selection state inFlight) : Apparent state := by
  intro row queued job looks
  obtain ⟨idx, rfl⟩ := List.get_of_mem queued
  obtain ⟨typed, named, matching⟩ := looks
  by_contra bad
  have unread : ∀ other, Job.fromDict (state.queue.get idx) ≠ .ok other := by
    intro other parsed
    rw [parsed] at bad
    exact bad rfl
  set cache : JobCache := (Dict.empty : JobCache).set (job.taskType.val, job.jobId.val) (JobFacts.ofJob job) with cacheDef
  have truthful : Truthful cache := by
    intro taskType jobId facts stored
    rw [cacheDef, Dict.get?_set] at stored
    split at stored
    · rename_i same
      obtain ⟨rfl, rfl⟩ := Prod.mk.inj same
      exact ⟨job, rfl, rfl, (Option.some.inj stored).symm⟩
    · cases stored
  have hit : (cachedJob cache (state.queue.get idx)).2 = .ok (JobFacts.ofJob job) := by
    unfold cachedJob
    rw [typed, named]
    have stored : cache.get? (job.taskType.val, job.jobId.val) = some (JobFacts.ofJob job) := by
      rw [cacheDef, Dict.get?_set, if_pos rfl]
    simp only [stored, Option.filter_some, matching, if_true]
  have order := @visiting_order selection state cache idx
  have meets := specified (visiting selection cache idx) rfl truthful fun _ => 0
  have idle : Idle (visiting selection cache idx) state inFlight fun _ => 0 := by
    rintro other member ⟨otherJob, ⟨otherCandidate, -⟩, -⟩
    rw [order, List.mem_singleton] at member
    subst member
    exact unread otherJob otherCandidate.parsed
  have listed := (meets.attribution idle .malformed (jobUidFromSnapshot (state.queue.get idx))).mpr
    ⟨idx, by rw [order]; exact List.mem_singleton_self idx, unread, rfl⟩
  rw [@scan_visiting _ selection state inFlight cache idx (fun _ => 0) _ (congrArg _ hit)] at listed
  change _ ∈ uidsFor (Tally.record {} idx _).attribution .malformed at listed
  rw [record_uidsFor, judge_parsed] at listed
  cases listed

end Exact

end Theory

section Sample

open Tasklite.Engine.Classification (plainScheduler orphanState)

local instance : Python := samplePython

end Sample

end Tasklite.Engine.Choice
