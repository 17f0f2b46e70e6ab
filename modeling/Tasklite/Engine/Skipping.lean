import Mathlib.Data.List.Find
import Tasklite.Engine.Attempts
import Tasklite.Engine.Cascade
import Tasklite.Engine.Partition
import Tasklite.Library.Closure

/-! Skipping for good. The jobs that a rule skips leave the queue together with everything that
depends on them, the deepest first: whatever the phase is interrupted after, each job that is
left still hangs on a rule, and the next run finds the rest. -/

namespace Tasklite.Engine
open Tasklite.Library Tasklite.Models

/-- The machine that skips. It remembers what it has skipped in the run. -/
structure SelectionMachine where
  selection : Selection
  skippedUids : Finset String

namespace SelectionMachine

section Closure

variable [Python] (machine : SelectionMachine) (facts : Selection.QueueFacts)

/-- A run starts with nothing skipped. -/
def resetRun : SelectionMachine := { machine with skippedUids := ∅ }

/-- The jobs that depend on a uid, once for every mention. -/
def dependents (dependency : String) : List String :=
  facts.entries.flatMap fun entry => (entry.2.2.filter fun other => other = dependency).map fun _ => entry.1

/-- The jobs to start from, in the order a set gives them back. -/
def seeds : List String :=
  Python.setOrder ((facts.entries.filter fun entry =>
    machine.selection.isSkipped entry.2.1 || entry.2.2.any fun dependency => dependency ∈ machine.skippedUids).map
      Prod.fst)

/-- One level down, from the same root. -/
def below (label : ℕ × String) : ℕ × String := (label.1 + 1, label.2)

/-- The loop over the stack after so many rounds: every job found has its depth and its root. -/
def closureAt (rounds : ℕ) : Closure.Trail String (ℕ × String) :=
  (Closure.visit (dependents facts) below)^[rounds] (Closure.start ((machine.seeds facts).map fun uid => (uid, 0, uid)))

/-- A job is pushed once, so that one round for each is enough. -/
def closure : List (String × ℕ × String) :=
  (machine.closureAt facts ((machine.seeds facts).length + facts.entries.length)).marked

/-- Deeper jobs first, then by uid. -/
def Before (first second : String × ℕ × String) : Prop :=
  second.2.1 < first.2.1 ∨ second.2.1 = first.2.1 ∧ first.1 ≤ second.1

instance (first second : String × ℕ × String) : Decidable (Before first second) :=
  inferInstanceAs (Decidable (_ ∨ _ ∧ _))

def skipOrder : List (String × ℕ × String) := (machine.closure facts).insertionSort Before

end Closure

section Apply

variable [Python]

/-- The queued rows that parse, with their jobs, by uid. -/
def rowsOf (queue : List Record) : Dict String (Record × Job) :=
  Dict.ofPairs (queue.filterMap fun row => (Job.fromDict row).toOption.map fun job => (job.uid, row, job))

/-- What the phase changes: the machine, the store, and the number of the last dispatch. -/
structure Phase where
  machine : SelectionMachine
  store : StateStore
  dispatchNo : ℕ

/-- The loop over the jobs to skip. A refused commit ends it. -/
def skipEach (rows : Dict String (Record × Job)) (seeds : List String) (runId : Option String) :
    List (String × ℕ × String) → Phase → ℕ → Phase × Except Signal ℕ
  | [], phase, skipped => (phase, .ok skipped)
  | (uid, _, root) :: rest, phase, skipped =>
      match rows.get? uid with
      | none => skipEach rows seeds runId rest phase skipped
      | some (row, job) =>
          let error := if uid ∈ seeds ∧ phase.machine.selection.isSkipped job.taskType.val then errSkipped
            else errDependencySkipped ++ " (upstream: " ++ root ++ ")"
          match phase.store.applySkip uid (some row) none with
          | (store, .error signal) => ({ phase with store := store }, .error signal)
          | (store, .ok _) => skipEach rows seeds runId rest {
              machine := { phase.machine with skippedUids := insert uid phase.machine.skippedUids }
              store := store.recordAttemptSkip job error runId (phase.dispatchNo + 1)
              dispatchNo := phase.dispatchNo + 1 } (skipped + 1)

/-- Skip what the rules skip, and everything behind it. Without rows, facts or seeds there is nothing to
loop over. -/
def applySkips (phase : Phase) (runId : Option String) : Phase × Except Signal ℕ :=
  if !phase.machine.selection.hasSkipRules then (phase, .ok 0)
  else
    let facts := Selection.factsOf phase.store.state.queuedJobs
    skipEach (rowsOf phase.store.state.queue) (phase.machine.seeds facts) runId (phase.machine.skipOrder facts) phase 0

end Apply

section Meaning

open Tasklite.Engine.Partition

variable [Python] (selection : Selection) (state : PipelineState)

/-- The queued job of a uid is of a type that a rule skips. -/
def Matches (uid : String) : Prop :=
  ∃ job, state.rowOf none uid = some job ∧ selection.isSkipped job.taskType.val = true

/-- A queued job that a rule skips, or that depends on such a job over queued jobs. -/
inductive Skips : String → Prop where
  | matched {uid : String} (matched : Matches selection state uid) : Skips uid
  | behind {uid dependency : String} (requires : Requires state uid dependency) (skips : Skips dependency) : Skips uid

end Meaning

section Members

open Tasklite.Engine.Partition Relation

variable [Python] {machine : SelectionMachine} {state : PipelineState} {uid dependency : String}

/-- The facts of the queue. -/
abbrev queueFacts (state : PipelineState) : Selection.QueueFacts := Selection.factsOf state.queuedJobs

theorem requires_of_child : Closure.Child (dependents (queueFacts state)) dependency uid ↔
    Requires state uid dependency := by
  rw [← requires_iff]
  unfold Closure.Child dependents Selection.dependsOnOf
  simp only [List.mem_flatMap, List.mem_map, List.mem_filter, decide_eq_true_eq]
  constructor
  · rintro ⟨entry, listed, other, ⟨depends, rfl⟩, rfl⟩
    rw [Dict.mem_entries.mp listed]
    exact depends
  · intro depends
    cases found : (queueFacts state).get? uid with
    | none => simp [found] at depends
    | some value =>
      rw [found] at depends
      exact ⟨(uid, value), Dict.mem_entries.mpr found, dependency, ⟨depends, rfl⟩, rfl⟩

/-- Where the loop starts: at what a rule skips, and at what depends on something skipped before. -/
theorem mem_seeds : uid ∈ machine.seeds (queueFacts state) ↔ Matches machine.selection state uid ∨
    ∃ dependency ∈ machine.skippedUids, Requires state uid dependency := by
  unfold seeds
  rw [(Python.setOrder_perm _).mem_iff]
  simp only [List.mem_map, List.mem_filter, Bool.or_eq_true, List.any_eq_true, decide_eq_true_eq]
  constructor
  · rintro ⟨entry, ⟨listed, start⟩, rfl⟩
    have found := Dict.mem_entries.mp listed
    rw [get?_factsOf] at found
    obtain ⟨job, row, facts⟩ := Option.map_eq_some_iff.mp found
    rw [← facts] at start
    rcases start with matched | ⟨dependency, depends, skipped⟩
    · exact .inl ⟨job, row, matched⟩
    · exact .inr ⟨dependency, skipped, job, row, depends⟩
  · have listed : ∀ job, state.rowOf none uid = some job →
        (uid, job.taskType.val, job.dependsOn) ∈ (queueFacts state).entries := by
      intro job row
      rw [Dict.mem_entries, get?_factsOf, row]
      rfl
    rintro (⟨job, row, matched⟩ | ⟨dependency, skipped, job, row, depends⟩)
    · exact ⟨_, ⟨listed job row, .inl matched⟩, rfl⟩
    · exact ⟨_, ⟨listed job row, .inr ⟨dependency, depends, skipped⟩⟩, rfl⟩

theorem seeds_nodup : (machine.seeds (queueFacts state)).Nodup := by
  unfold seeds
  rw [(Python.setOrder_perm _).nodup_iff]
  exact (queueFacts state).distinct.sublist (List.filter_sublist.map Prod.fst)

theorem child_in_facts (parent child : String) (isChild : Closure.Child (dependents (queueFacts state)) parent child) :
    child ∈ (queueFacts state).keys.toFinset := by
  obtain ⟨job, row, -⟩ := requires_of_child.mp isChild
  have found : (queueFacts state).get? child = some (job.taskType.val, job.dependsOn) := by
    rw [get?_factsOf, row]
    rfl
  exact List.mem_toFinset.mpr (Dict.mem_keys_iff.mpr ⟨_, found⟩)

/-- The roots of the loop, with their labels. -/
abbrev roots (machine : SelectionMachine) (state : PipelineState) : List (String × ℕ × String) :=
  (machine.seeds (queueFacts state)).map fun uid => (uid, 0, uid)

theorem roots_fst : (roots machine state).map Prod.fst = machine.seeds (queueFacts state) := by
  simp [roots, Function.comp_def]

theorem roots_nodup : ((roots machine state).map Prod.fst).Nodup := by
  rw [roots_fst]
  exact seeds_nodup

theorem enough_rounds : (roots machine state).length + (queueFacts state).keys.toFinset.card ≤
    (machine.seeds (queueFacts state)).length + (queueFacts state).entries.length := by
  have keys := List.toFinset_card_le (queueFacts state).keys
  simp only [Dict.keys, List.length_map] at keys ⊢
  omega

theorem tracing_closure : Closure.Tracing (dependents (queueFacts state)) below (roots machine state)
    (machine.closureAt (queueFacts state) ((machine.seeds (queueFacts state)).length +
      (queueFacts state).entries.length)) :=
  Closure.tracing_iterate (Closure.tracing_start roots_nodup) _

theorem mem_closure : uid ∈ (machine.closure (queueFacts state)).map Prod.fst ↔
    ∃ seed ∈ machine.seeds (queueFacts state), ReflTransGen (fun parent child => Requires state child parent) seed uid := by
  have edges : Closure.Child (dependents (queueFacts state)) = fun parent child => Requires state child parent := by
    funext parent child
    exact propext requires_of_child
  have marked := @Closure.mem_marked_iff _ _ _ _ below (roots machine state) _ roots_nodup child_in_facts _
    enough_rounds uid
  rw [roots_fst, edges] at marked
  exact marked

end Members

section Fresh

open Tasklite.Engine.Partition Relation

variable [Python] {selection : Selection} {state : PipelineState} {uid : String}

/-- What the phase goes through, in this order. -/
def skipUids (machine : SelectionMachine) (state : PipelineState) : List String :=
  if machine.selection.hasSkipRules then (machine.skipOrder (queueFacts state)).map Prod.fst else []

theorem hasSkipRules_of_matches (matched : Matches selection state uid) : selection.hasSkipRules = true := by
  obtain ⟨job, -, skipped⟩ := matched
  unfold Selection.isSkipped at skipped
  unfold Selection.hasSkipRules
  rw [List.any_eq_true] at skipped ⊢
  obtain ⟨rule, member, skips⟩ := skipped
  exact ⟨rule, member, (Bool.and_eq_true _ _ ▸ skips).1⟩

theorem hasSkipRules_of_skips (skips : Skips selection state uid) : selection.hasSkipRules = true := by
  induction skips with
  | matched matched => exact hasSkipRules_of_matches matched
  | behind _ _ ih => exact ih

variable {machine : SelectionMachine}

theorem skipOrder_perm (facts : Selection.QueueFacts) : (machine.skipOrder facts).Perm (machine.closure facts) :=
  List.perm_insertionSort _ _

theorem skipUids_nodup (machine : SelectionMachine) (state : PipelineState) : (skipUids machine state).Nodup := by
  unfold skipUids
  split
  · rw [((skipOrder_perm _).map Prod.fst).nodup_iff]
    exact tracing_closure.distinct
  · exact List.nodup_nil

theorem mem_skipUids (active : machine.selection.hasSkipRules = true) : uid ∈ skipUids machine state ↔
    ∃ seed ∈ machine.seeds (queueFacts state),
      ReflTransGen (fun parent child => Requires state child parent) seed uid := by
  rw [skipUids, if_pos active, ((skipOrder_perm _).map Prod.fst).mem_iff, mem_closure]

theorem skips_of_path {seed : String} (skips : Skips selection state seed)
    (path : ReflTransGen (fun parent child => Requires state child parent) seed uid) : Skips selection state uid := by
  induction path with
  | refl => exact skips
  | tail _ requires ih => exact .behind requires ih

/-- Where nothing has been skipped yet, the closure is what hangs on a rule. -/
theorem mem_skipUids_fresh : uid ∈ skipUids ⟨selection, ∅⟩ state ↔ Skips selection state uid := by
  cases active : selection.hasSkipRules with
  | false =>
    have nothing : ¬ Skips selection state uid := by
      intro skips
      rw [hasSkipRules_of_skips skips] at active
      cases active
    simp [skipUids, active, nothing]
  | true =>
    rw [mem_skipUids active]
    constructor
    · rintro ⟨seed, isSeed, path⟩
      rcases mem_seeds.mp isSeed with matched | ⟨dependency, skipped, -⟩
      · exact skips_of_path (.matched matched) path
      · simp at skipped
    · intro skips
      induction skips with
      | matched matched => exact ⟨_, mem_seeds.mpr (.inl matched), ReflTransGen.refl⟩
      | behind requires _ ih =>
        obtain ⟨seed, isSeed, path⟩ := ih
        exact ⟨seed, isSeed, path.tail requires⟩

/-- Deeper jobs come first. -/
theorem skipOrder_depth {removed rest : List (String × ℕ × String)} {facts : Selection.QueueFacts}
    (split : machine.skipOrder facts = removed ++ rest) {early late : String × ℕ × String}
    (gone : early ∈ removed) (left : late ∈ rest) : late.2.1 ≤ early.2.1 := by
  have total : Std.Total Before := by
    constructor
    intro first second
    rcases lt_trichotomy second.2.1 first.2.1 with deeper | level | higher
    · exact .inl (.inl deeper)
    · rcases String.le_total first.1 second.1 with before | after
      · exact .inl (.inr ⟨level, before⟩)
      · exact .inr (.inr ⟨level.symm, after⟩)
    · exact .inr (.inl higher)
  have trans : IsTrans (String × ℕ × String) Before := by
    constructor
    rintro first second third (deeper | ⟨level, before⟩) (lower | ⟨same, after⟩)
    · exact .inl (lower.trans deeper)
    · exact .inl (same ▸ deeper)
    · exact .inl (level ▸ lower)
    · exact .inr ⟨same.trans level, String.le_trans before after⟩
  have sorted : (machine.skipOrder facts).Pairwise Before := List.pairwise_insertionSort _ _
  rw [split, List.pairwise_append] at sorted
  rcases sorted.2.2 early gone late left with deeper | ⟨level, -⟩
  · exact deeper.le
  · exact level.le

end Fresh

section Rerun

open Tasklite.Engine.Partition Relation

variable [Python] {selection : Selection} {state later : PipelineState} {uid : String} {removed : List String}

/-- A queue that has lost the rows of some uids, and no other rows. -/
def Left (state : PipelineState) (removed : List String) (later : PipelineState) : Prop :=
  ∀ uid, later.rowOf none uid = if uid ∈ removed then none else state.rowOf none uid

theorem matches_of_left (left : Left state removed later) :
    Matches selection later uid ↔ uid ∉ removed ∧ Matches selection state uid := by
  unfold Matches
  rw [left uid]
  by_cases gone : uid ∈ removed <;> simp [gone]

theorem requires_of_left (left : Left state removed later) (dependency : String) :
    Requires later uid dependency ↔ uid ∉ removed ∧ Requires state uid dependency := by
  unfold Requires
  rw [left uid]
  by_cases gone : uid ∈ removed <;> simp [gone]

/-- What the next phase finds hangs on a rule, and has not been removed. -/
theorem skips_of_left {machine : SelectionMachine} (same : machine.selection = selection)
    (known : ∀ uid ∈ machine.skippedUids, Skips selection state uid) (left : Left state removed later)
    (active : machine.selection.hasSkipRules = true) (member : uid ∈ skipUids machine later) :
    Skips selection state uid ∧ uid ∉ removed := by
  obtain ⟨seed, isSeed, path⟩ := (mem_skipUids active).mp member
  induction path with
  | refl =>
    rcases mem_seeds.mp isSeed with matched | ⟨dependency, skipped, requires⟩
    · obtain ⟨stays, matched⟩ := (matches_of_left left).mp (same ▸ matched)
      exact ⟨.matched matched, stays⟩
    · obtain ⟨stays, requires⟩ := (requires_of_left left dependency).mp requires
      exact ⟨.behind requires (known dependency skipped), stays⟩
  | @tail parent child earlier requires ih =>
    obtain ⟨stays, requires⟩ := (requires_of_left left parent).mp requires
    exact ⟨.behind requires (ih ((mem_skipUids active).mpr ⟨seed, isSeed, earlier⟩)).1, stays⟩

/-- A job that is left behind the first removals still hangs on a rule, over jobs that are left. -/
theorem left_of_rest {rest : List String} {machine : SelectionMachine}
    (split : skipUids ⟨selection, ∅⟩ state = removed ++ rest) (same : machine.selection = selection)
    (left : Left state removed later) (active : selection.hasSkipRules = true) (member : uid ∈ rest) :
    uid ∈ skipUids machine later := by
  have distinct := skipUids_nodup ⟨selection, ∅⟩ state
  rw [split, List.nodup_append] at distinct
  have stays : ∀ other ∈ rest, other ∉ removed := fun other late early => distinct.2.2 other early other late rfl
  rw [skipUids, if_pos active] at split
  obtain ⟨first, last, order, rfl, rfl⟩ := List.map_eq_append_iff.mp split
  obtain ⟨entry, listed, rfl⟩ := List.mem_map.mp member
  have perm : ((⟨selection, ∅⟩ : SelectionMachine).closure (queueFacts state)).Perm (first ++ last) := by
    rw [← order]
    exact (skipOrder_perm _).symm
  obtain ⟨root, isRoot, remains, path⟩ := @Closure.reached_rest _ _ _ _ _ _ Prod.fst _ _ tracing_closure
    (fun _ => rfl) perm (fun early gone late left => skipOrder_depth order gone left) _ listed
  have matched : Matches selection later root.1 := by
    obtain ⟨seed, isSeed, rfl⟩ := List.mem_map.mp isRoot
    rcases mem_seeds.mp isSeed with matched | ⟨dependency, skipped, -⟩
    · exact (matches_of_left left).mpr ⟨stays _ (List.mem_map_of_mem remains), matched⟩
    · simp at skipped
  rw [mem_skipUids (same ▸ active)]
  refine ⟨root.1, mem_seeds.mpr (.inl (same ▸ matched)), ?_⟩
  refine ReflTransGen.mono (fun parent child step => ?_) _ _ path
  exact (requires_of_left left parent).mpr ⟨stays child step.2, requires_of_child.mp step.1⟩

/-- After the first removals of a phase, the next phase finds the rest of its closure. -/
theorem mem_skipUids_left {rest : List String} {machine : SelectionMachine}
    (split : skipUids ⟨selection, ∅⟩ state = removed ++ rest) (same : machine.selection = selection)
    (known : ∀ uid ∈ machine.skippedUids, uid ∈ removed) (left : Left state removed later) :
    uid ∈ skipUids machine later ↔ uid ∈ rest := by
  cases active : selection.hasSkipRules with
  | false =>
    rw [skipUids, if_neg (by simp [active])] at split
    have nothing : rest = [] := (List.append_eq_nil_iff.mp split.symm).2
    simp [skipUids, same, active, nothing]
  | true =>
    constructor
    · intro member
      have hangs : ∀ other ∈ machine.skippedUids, Skips selection state other := fun other skipped =>
        mem_skipUids_fresh.mp (by rw [split]; exact List.mem_append_left _ (known other skipped))
      obtain ⟨skips, stays⟩ := skips_of_left same hangs left (same ▸ active) member
      have listed := mem_skipUids_fresh.mpr skips
      rw [split, List.mem_append] at listed
      exact listed.resolve_left stays
    · exact left_of_rest split same left active

end Rerun

section Rows

open PipelineState

variable [Python] {state later : PipelineState} {queue : List Record} {uid : String} {removed : List String}

/-- A row that parses to a job of the uid. -/
def carries (uid : String) (row : Record) : Bool := (Job.fromDict row).toOption.any fun job => job.uid = uid

theorem carries_iff {row : Record} : carries uid row = true ↔ ∃ job, Job.fromDict row = .ok job ∧ job.uid = uid := by
  unfold carries
  cases Job.fromDict row <;> simp [Except.toOption]

theorem rowOf_eq : state.rowOf none uid =
    (state.queue.reverse.find? (carries uid)).bind fun row => (Job.fromDict row).toOption := by
  have all : state.consideredJobs none = state.queuedJobs := by simp [consideredJobs]
  rw [rowOf, all, queuedJobs, ← List.filterMap_reverse, List.find?_filterMap]
  rfl

theorem get?_rowsOf : (rowsOf queue).get? uid = (queue.reverse.find? (carries uid)).bind fun row =>
    (Job.fromDict row).toOption.map fun job => (row, job) := by
  have single : ∀ row, ((Job.fromDict row).toOption.map fun job => (job.uid, row, job)).any
      (fun pair => decide (pair.1 = uid)) = carries uid row := by
    intro row
    unfold carries
    cases Job.fromDict row <;> rfl
  rw [rowsOf, Dict.get?_ofPairs, ← List.filterMap_reverse, List.find?_filterMap]
  simp only [single, Option.map_bind]
  congr 1
  funext row
  rw [Function.comp_apply, Option.map_map]
  rfl

/-- The row that is kept for a uid. -/
theorem row_of_get?_rowsOf {row : Record} {job : Job} (found : (rowsOf state.queue).get? uid = some (row, job)) :
    row ∈ state.queue ∧ jobUidFromSnapshot row = uid ∧ state.rowOf none uid = some job := by
  rw [get?_rowsOf] at found
  obtain ⟨other, last, parsed⟩ := Option.bind_eq_some_iff.mp found
  obtain ⟨same, read, pair⟩ := Option.map_eq_some_iff.mp parsed
  obtain ⟨rfl, rfl⟩ := Prod.mk.inj pair
  obtain ⟨listed, ok, named⟩ := carries_iff.mp (List.find?_some last)
  refine ⟨List.mem_reverse.mp (List.mem_of_find?_eq_some last), ?_, ?_⟩
  · rw [← named]
    exact Identity.uid_of_fromDict ok
  · rw [rowOf_eq, last]
    exact read

theorem get?_rowsOf_of_rowOf {job : Job} (row : state.rowOf none uid = some job) :
    ∃ snapshot, (rowsOf state.queue).get? uid = some (snapshot, job) := by
  rw [rowOf_eq] at row
  obtain ⟨snapshot, last, read⟩ := Option.bind_eq_some_iff.mp row
  refine ⟨snapshot, ?_⟩
  rw [get?_rowsOf, last]
  simp [read]

/-- A queue without the rows of some uids has lost just these. -/
theorem left_without (queued : later.queue = Fresh.without jobUidFromSnapshot removed.toFinset state.queue) :
    Left state removed later := by
  intro uid
  have named : ∀ row, carries uid row = true → jobUidFromSnapshot row = uid := by
    intro row carried
    obtain ⟨job, parsed, same⟩ := carries_iff.mp carried
    rw [Identity.uid_of_fromDict parsed, same]
  rw [rowOf_eq, queued, Fresh.without, ← List.filter_reverse, List.find?_filter]
  split
  · rename_i gone
    have nothing : state.queue.reverse.find? (fun row => decide
        (decide (jobUidFromSnapshot row ∉ removed.toFinset) = true ∧ carries uid row = true)) = none := by
      rw [List.find?_eq_none]
      intro row _ both
      simp only [decide_eq_true_eq, List.mem_toFinset] at both
      exact both.1 (named row both.2 ▸ gone)
    rw [nothing]
    rfl
  · rename_i stays
    rw [rowOf_eq]
    congr 1
    apply List.find?_congr
    intro row _
    cases carried : carries uid row with
    | false => simp
    | true => simp [named row carried, stays]

/-- A second copy of the row of a uid in front changes nothing. -/
theorem left_cons {row : Record} {job : Job} {rows : List Record}
    (left : Left state removed { later with queue := rows }) (stays : uid ∉ removed)
    (found : (rowsOf state.queue).get? uid = some (row, job)) (queued : later.queue = row :: rows) :
    Left state removed later := by
  obtain ⟨-, named, last⟩ := row_of_get?_rowsOf found
  intro other
  have before := left other
  rw [rowOf_eq] at before ⊢
  rw [queued, List.reverse_cons, List.find?_append]
  cases found : rows.reverse.find? (carries other) with
  | some first =>
    rw [found] at before
    rw [Option.some_or]
    exact before
  | none =>
    rw [found] at before
    have apart : carries other row = false := by
      rw [← Bool.not_eq_true]
      intro carried
      obtain ⟨own, parsed, same⟩ := carries_iff.mp carried
      rw [Identity.uid_of_fromDict parsed, same] at named
      subst named
      rw [if_neg stays, last] at before
      cases before
    rw [Option.none_or, List.find?_cons_of_neg (by simp [apart]), List.find?_nil]
    exact before

end Rows

section Loop

open PipelineState StateStore Cascade

variable [Python] {store : StateStore} {uid : String} {rows : Dict String (Record × Job)} {seeds : List String}
  {runId : Option String}

theorem arrived_answers (store : StateStore) : (arrived store).answers = store.answers.tail := by
  have kept : ∀ (batches : List (List Record × Bool)) (store : StateStore),
      (batches.foldl (fun store batch => store.enqueueElsewhere batch.1 batch.2) store).answers = store.answers := by
    intro batches
    induction batches with
    | nil => exact fun _ => rfl
    | cons batch rest ih =>
      intro store
      rw [List.foldl_cons, ih]
      rfl
  exact kept _ _

theorem commit_refused (refused : (store.answers.headD {}).accepted = false) (event : Event)
    (transaction : Backend.Memory → Backend.Memory × Bool) :
    store.commit event transaction = (arrived store, false) := by
  unfold commit
  dsimp only
  rw [if_neg (by rw [refused]; exact Bool.false_ne_true)]
  rfl

/-- The index of the queue is that of its rows. -/
abbrev Indexed (store : StateStore) : Prop := store.state.queueUids = uidsOf store.state.queue

theorem arrived_quiet (quiet : ∀ answer ∈ store.answers, answer.enqueued = []) :
    (arrived store).backend = store.backend := by
  have first : (store.answers.headD {}).enqueued = [] := by
    cases told : store.answers with
    | nil => rfl
    | cons answer rest => exact quiet answer (told ▸ List.mem_cons_self)
  unfold arrived
  rw [first]
  rfl

omit [Python] in
theorem refusal_of_headD (refused : (store.answers.headD {}).accepted = false) :
    ∃ answer ∈ store.answers, answer.accepted = false := by
  cases told : store.answers with
  | nil =>
    rw [told] at refused
    cases refused
  | cons answer rest =>
    rw [told] at refused
    exact ⟨answer, List.mem_cons_self, refused⟩

theorem removeQueuedUid_queue {state : PipelineState} (indexed : state.queueUids = uidsOf state.queue) :
    (state.removeQueuedUid uid).queue = Fresh.without jobUidFromSnapshot {uid} state.queue ∧
      (state.removeQueuedUid uid).queueUids = uidsOf (state.removeQueuedUid uid).queue := by
  unfold removeQueuedUid
  split
  · rename_i absent
    have same : Fresh.without jobUidFromSnapshot {uid} state.queue = state.queue := by
      apply Fresh.without_eq_self
      rw [indexed, uidsOf] at absent
      exact Finset.disjoint_singleton_right.mpr absent
    exact ⟨same.symm, indexed⟩
  · refine ⟨rfl, ?_⟩
    show state.queueUids.erase uid = Fresh.keys _ (Fresh.without _ _ _)
    rw [Fresh.keys_without, Finset.sdiff_singleton_eq_erase, indexed, uidsOf]

/-- A skip that is committed takes the rows of the uid out of the queue, in memory and on disk. -/
theorem applySkip_accepted (accepted : (store.answers.headD {}).accepted = true) (indexed : Indexed store)
    (snapshot : Option Record) :
    (store.applySkip uid snapshot none).2 = .ok () ∧
      let after := (store.applySkip uid snapshot none).1
      Indexed after ∧ after.state.queue = Fresh.without jobUidFromSnapshot {uid} store.state.queue ∧
        after.backend.queue = Fresh.without jobUidFromSnapshot {uid} (arrived store).backend.queue ∧
        after.answers = store.answers.tail := by
  let taken : StateStore := { arrived store with
    backend := ((arrived store).backend.commitSkip uid).1
    events := (arrived store).events ++ [.skipped uid] }
  have taking : ((fun backend : Backend.Memory => backend.commitSkip uid) (arrived store).backend).2 = true := rfl
  have committed : store.commit (.skipped uid) (fun backend => backend.commitSkip uid) = (taken, true) :=
    commit_accepted accepted (.skipped uid) taking
  have removed := @removeQueuedUid_queue _ uid _ indexed
  rw [← arrived_state] at removed
  have queue : ((arrived store).state.removeQueuedUid uid).queue =
      Fresh.without jobUidFromSnapshot {uid} store.state.queue := by
    rw [removed.1, arrived_state]
  unfold applySkip
  rw [committed]
  exact ⟨rfl, removed.2, queue, rfl, arrived_answers store⟩

/-- A skip that is refused puts the row in front. -/
theorem applySkip_refused (refused : (store.answers.headD {}).accepted = false) (indexed : Indexed store)
    (row : Record) :
    (store.applySkip uid (some row) none).2 = .error (refusal uid "commit_skip") ∧
      let after := (store.applySkip uid (some row) none).1
      Indexed after ∧ after.state.queue = row :: store.state.queue ∧
        after.backend.queue = (arrived store).backend.queue := by
  unfold applySkip
  rw [commit_refused refused]
  refine ⟨rfl, ?_, ?_, rfl⟩
  · show (arrived store).state.queueUids ∪ uidsOf [row] = uidsOf ([row] ++ (arrived store).state.queue)
    rw [arrived_state, indexed, Finset.union_comm]
    exact (Fresh.keys_append [row] store.state.queue).symm
  · show [row] ++ (arrived store).state.queue = _
    rw [arrived_state]
    rfl

omit [Python] in
/-- The loop only writes traces between the commits. -/
theorem recordAttemptSkip_frame (job : Job) (error : String) (dispatchNo : ℕ) :
    (store.recordAttemptSkip job error runId dispatchNo).state = store.state ∧
      (store.recordAttemptSkip job error runId dispatchNo).answers = store.answers ∧
      (store.recordAttemptSkip job error runId dispatchNo).backend.queue = store.backend.queue := by
  unfold recordAttemptSkip
  split
  · exact ⟨rfl, rfl, rfl⟩
  · rename_i run
    split
    · exact ⟨rfl, rfl, rfl⟩
    · dsimp only
      rcases appended : store.backend.appendAttempt _ with ⟨backend, attemptId⟩
      have queue : backend.queue = store.backend.queue := by
        unfold Backend.Memory.appendAttempt at appended
        split at appended <;>
        · obtain ⟨rfl, -⟩ := Prod.mk.inj appended
          rfl
      cases attemptId with
      | none => exact ⟨rfl, rfl, queue⟩
      | some id =>
        obtain ⟨attempts, changed⟩ := Custody.updateAttempt_fst backend id .skipped store.now.val (some error)
        refine ⟨rfl, rfl, ?_⟩
        show (backend.updateAttempt id .skipped store.now.val (some error)).1.queue = _
        rw [changed]
        exact queue

/-- What the loop leaves behind when the jobs in `removed` have been skipped. -/
structure Swept (phase after : Phase) (removed : List String) : Prop where
  machine : after.machine = { phase.machine with skippedUids := phase.machine.skippedUids ∪ removed.toFinset }
  indexed : Indexed after.store
  disk : (∀ answer ∈ phase.store.answers, answer.enqueued = []) → after.store.backend.queue =
    Fresh.without jobUidFromSnapshot removed.toFinset phase.store.backend.queue

/-- How the loop over some jobs ends: when all of them are skipped, or at a refused commit, after which the row
of the refused job stands in front. -/
inductive Ends (rows : Dict String (Record × Job)) (phase : Phase) (skipped : ℕ) (uids removed : List String) :
    Phase × Except Signal ℕ → Prop where
  | done {after : Phase} (split : uids = removed)
      (queue : after.store.state.queue = Fresh.without jobUidFromSnapshot removed.toFinset phase.store.state.queue) :
      Ends rows phase skipped uids removed (after, .ok (skipped + removed.length))
  | refused {after : Phase} {uid : String} {rest : List String} {row : Record} {job : Job}
      (split : uids = removed ++ uid :: rest) (found : rows.get? uid = some (row, job))
      (answered : ∃ answer ∈ phase.store.answers, answer.accepted = false)
      (queue : after.store.state.queue =
        row :: Fresh.without jobUidFromSnapshot removed.toFinset phase.store.state.queue) :
      Ends rows phase skipped uids removed (after, .error (refusal uid "commit_skip"))

theorem skipEach_swept (items : List (String × ℕ × String)) {phase : Phase} (skipped : ℕ)
    (present : ∀ item ∈ items, ∃ entry, rows.get? item.1 = some entry) (indexed : Indexed phase.store) :
    ∃ removed, Swept phase (skipEach rows seeds runId items phase skipped).1 removed ∧
      Ends rows phase skipped (items.map Prod.fst) removed (skipEach rows seeds runId items phase skipped) := by
  induction items generalizing phase skipped with
  | nil =>
    refine ⟨[], ⟨by simp [skipEach], indexed, fun _ => by simp [skipEach, Fresh.without]⟩, ?_⟩
    exact .done rfl (by simp [Fresh.without])
  | cons item rest ih =>
    rw [List.forall_mem_cons] at present
    rcases item with ⟨uid, depth, root⟩
    obtain ⟨⟨row, job⟩, found⟩ := present.1
    cases accepted : (phase.store.answers.headD {}).accepted with
    | true =>
      obtain ⟨answer, indexed', queue, disk, answers⟩ := applySkip_accepted accepted indexed (some row)
      rcases ran : phase.store.applySkip uid (some row) none with ⟨store, outcome⟩
      rw [ran] at answer indexed' queue disk answers
      simp only at answer indexed' queue disk answers
      subst answer
      simp only [skipEach, found, ran]
      generalize (if uid ∈ seeds ∧ phase.machine.selection.isSkipped job.taskType.val = true then errSkipped
        else errDependencySkipped ++ " (upstream: " ++ root ++ ")") = error
      obtain ⟨traced, heard, held⟩ := @recordAttemptSkip_frame store runId job error (phase.dispatchNo + 1)
      set next : Phase := {
        machine := { phase.machine with skippedUids := insert uid phase.machine.skippedUids }
        store := store.recordAttemptSkip job error runId (phase.dispatchNo + 1)
        dispatchNo := phase.dispatchNo + 1 } with nextDef
      have indexedNext : Indexed next.store := by
        show next.store.state.queueUids = _
        rw [traced]
        exact indexed'
      obtain ⟨removed, swept, ends⟩ := @ih next (skipped + 1) present.2 indexedNext
      have dropped : (uid :: removed).toFinset = {uid} ∪ removed.toFinset := by
        rw [List.toFinset_cons, Finset.insert_eq]
      have left : Fresh.without jobUidFromSnapshot removed.toFinset next.store.state.queue =
          Fresh.without jobUidFromSnapshot (uid :: removed).toFinset phase.store.state.queue := by
        show Fresh.without _ _ (store.recordAttemptSkip job error runId _).state.queue = _
        rw [traced, queue, Fresh.without_without, dropped]
      have after : next.store.answers = phase.store.answers.tail := heard.trans answers
      refine ⟨uid :: removed, ⟨?_, swept.indexed, fun quiet => ?_⟩, ?_⟩
      · rw [swept.machine, List.toFinset_cons, Finset.union_insert, ← Finset.insert_union]
      · have calm : ∀ answer ∈ next.store.answers, answer.enqueued = [] := fun answer member =>
          quiet answer (List.mem_of_mem_tail (after ▸ member))
        rw [swept.disk calm, dropped, ← Fresh.without_without]
        show Fresh.without _ _ (store.recordAttemptSkip job error runId _).backend.queue = _
        rw [held, disk, arrived_quiet quiet]
      · generalize skipEach rows seeds runId rest next (skipped + 1) = result at ends
        cases ends with
        | done split final =>
          have count : skipped + 1 + removed.length = skipped + (uid :: removed).length := by
            rw [List.length_cons]
            omega
          rw [count]
          exact .done (by rw [List.map_cons, split]) (final.trans left)
        | refused split held answered final =>
          obtain ⟨answer, member, refused⟩ := answered
          exact .refused (by rw [List.map_cons, split, List.cons_append]) held
            ⟨answer, List.mem_of_mem_tail (after ▸ member), refused⟩ (by rw [final, left])
    | false =>
      obtain ⟨answer, indexed', queue, disk⟩ := applySkip_refused accepted indexed row
      rcases ran : phase.store.applySkip uid (some row) none with ⟨store, outcome⟩
      rw [ran] at answer indexed' queue disk
      simp only at answer indexed' queue disk
      subst answer
      simp only [skipEach, found, ran]
      refine ⟨[], ⟨by simp, indexed', fun quiet => ?_⟩, .refused rfl found (refusal_of_headD accepted) ?_⟩
      · rw [disk, arrived_quiet quiet]
        simp [Fresh.without]
      · simpa [Fresh.without] using queue

end Loop

section Phases

open PipelineState Tasklite.Engine.Partition Relation

variable [Python] {phase : Phase} {uid : String}

/-- The phase, cut off after so many rounds of its loop. -/
def cutAfter (phase : Phase) (runId : Option String) (rounds : ℕ) : Phase × Except Signal ℕ :=
  if !phase.machine.selection.hasSkipRules then (phase, .ok 0)
  else
    let facts := queueFacts phase.store.state
    skipEach (rowsOf phase.store.state.queue) (phase.machine.seeds facts) runId
      ((phase.machine.skipOrder facts).take rounds) phase 0

theorem applySkips_eq (phase : Phase) (runId : Option String) :
    applySkips phase runId = cutAfter phase runId (skipUids phase.machine phase.store.state).length := by
  unfold applySkips cutAfter skipUids
  split
  · rfl
  · rename_i active
    rw [if_pos (by simpa using active), List.length_map]
    dsimp only
    rw [List.take_length]

theorem row_of_skipOrder {item : String × ℕ × String}
    (member : item ∈ phase.machine.skipOrder (queueFacts phase.store.state)) :
    ∃ entry, (rowsOf phase.store.state.queue).get? item.1 = some entry := by
  have listed := @List.mem_map_of_mem _ _ _ _ Prod.fst ((skipOrder_perm _).mem_iff.mp member)
  obtain ⟨seed, isSeed, path⟩ := mem_closure.mp listed
  obtain ⟨job, row⟩ : ∃ job, phase.store.state.rowOf none item.1 = some job := by
    cases path with
    | refl =>
      rcases mem_seeds.mp isSeed with ⟨job, row, -⟩ | ⟨-, -, job, row, -⟩ <;> exact ⟨job, row⟩
    | tail _ requires =>
      obtain ⟨job, row, -⟩ := requires
      exact ⟨job, row⟩
  obtain ⟨snapshot, found⟩ := get?_rowsOf_of_rowOf row
  exact ⟨_, found⟩

/-- A phase goes through its jobs in order, as far as it is let. -/
theorem cutAfter_swept (indexed : Indexed phase.store) (runId : Option String) (rounds : ℕ) :
    ∃ removed, Swept phase (cutAfter phase runId rounds).1 removed ∧
      Ends (rowsOf phase.store.state.queue) phase 0 ((skipUids phase.machine phase.store.state).take rounds) removed
        (cutAfter phase runId rounds) := by
  unfold cutAfter skipUids
  cases active : phase.machine.selection.hasSkipRules with
  | false =>
    simp only [Bool.not_false, if_true, Bool.false_eq_true, if_false, List.take_nil]
    exact @skipEach_swept _ _ [] runId [] phase 0 (by simp) indexed
  | true =>
    rw [if_pos rfl, ← List.map_take]
    exact skipEach_swept _ 0 (fun item member => row_of_skipOrder (List.mem_of_mem_take member)) indexed

/-- A phase whose commits are all accepted removes the rows of its closure. -/
theorem applySkips_accepted (indexed : Indexed phase.store) (runId : Option String)
    (accepted : ∀ answer ∈ phase.store.answers, answer.accepted = true) :
    (applySkips phase runId).2 = .ok (skipUids phase.machine phase.store.state).length ∧
      (applySkips phase runId).1.store.state.queue = Fresh.without jobUidFromSnapshot
        (skipUids phase.machine phase.store.state).toFinset phase.store.state.queue := by
  obtain ⟨removed, -, ends⟩ := cutAfter_swept indexed runId (skipUids phase.machine phase.store.state).length
  rw [List.take_length, ← applySkips_eq] at ends
  generalize applySkips phase runId = result at ends
  cases ends with
  | done split queue =>
    rw [split, Nat.zero_add]
    exact ⟨rfl, queue⟩
  | refused split found answered queue =>
    obtain ⟨answer, member, refused⟩ := answered
    rw [accepted answer member] at refused
    cases refused

/-- Where a loop over the first of some jobs has come to. -/
theorem ends_split {uids removed : List String} {rounds : ℕ} {result : Phase × Except Signal ℕ}
    (ends : Ends (rowsOf phase.store.state.queue) phase 0 (uids.take rounds) removed result) :
    ∃ rest, uids = removed ++ rest ∧
      ((∀ answer ∈ phase.store.answers, answer.accepted = true) → removed = uids.take rounds) ∧
      (result.1.store.state.queue = Fresh.without jobUidFromSnapshot removed.toFinset phase.store.state.queue ∨
        ∃ row job uid, (rowsOf phase.store.state.queue).get? uid = some (row, job) ∧ uid ∈ rest ∧
          result.1.store.state.queue =
            row :: Fresh.without jobUidFromSnapshot removed.toFinset phase.store.state.queue) := by
  have whole := List.take_append_drop rounds uids
  cases ends with
  | done split queue =>
    rw [split] at whole
    exact ⟨uids.drop rounds, whole.symm, fun _ => split.symm, .inl queue⟩
  | @refused _ uid rest row job split found answered queue =>
    refine ⟨uid :: rest ++ uids.drop rounds, ?_, ?_, .inr ⟨row, job, uid, found, List.mem_cons_self, queue⟩⟩
    · rw [← List.append_assoc, ← split, whole]
    · intro accepted
      obtain ⟨answer, member, refused⟩ := answered
      rw [accepted answer member] at refused
      cases refused

/-- A phase that finds what another one has left takes the queue to the same end. -/
theorem without_left {removed rest : List String} {queue rows : List Record}
    (same : rows = Fresh.without jobUidFromSnapshot removed.toFinset queue ∨
      ∃ row, jobUidFromSnapshot row ∈ rest ∧ rows = row :: Fresh.without jobUidFromSnapshot removed.toFinset queue) :
    Fresh.without jobUidFromSnapshot rest.toFinset rows =
      Fresh.without jobUidFromSnapshot (removed ++ rest).toFinset queue := by
  rw [List.toFinset_append, ← Fresh.without_without]
  rcases same with rfl | ⟨row, named, rfl⟩
  · rfl
  · exact List.filter_cons_of_neg (by simpa using named)

/-- Skipping is exact, and can be taken up again. The jobs to skip are those that a rule skips or that depend on
such a job over queued jobs, and a phase whose commits are accepted removes just their rows. However many rounds
the loop makes, and whether it is cut off there or by a refused commit before, it has removed the first of these
jobs; and a phase that starts from what is then in the queue, or on disk, finds just the others and takes the
queue to the same end. -/
theorem applySkips_spec (selection : Selection) (store : StateStore) (runId : Option String) (dispatchNo : ℕ)
    (indexed : Indexed store) :
    let phase : Phase := ⟨⟨selection, ∅⟩, store, dispatchNo⟩
    let uids := skipUids ⟨selection, ∅⟩ store.state
    (uids.Nodup ∧ ∀ uid, uid ∈ uids ↔ Skips selection store.state uid) ∧
      ((∀ answer ∈ store.answers, answer.accepted = true) →
        (applySkips phase runId).2 = .ok uids.length ∧ (applySkips phase runId).1.store.state.queue =
          Fresh.without jobUidFromSnapshot uids.toFinset store.state.queue) ∧
      applySkips phase runId = cutAfter phase runId uids.length ∧
      ∀ rounds, let cut := (cutAfter phase runId rounds).1
        ∃ removed rest, uids = removed ++ rest ∧
          ((∀ answer ∈ store.answers, answer.accepted = true) → removed = uids.take rounds) ∧
          (cut.store.state.queue = Fresh.without jobUidFromSnapshot removed.toFinset store.state.queue ∨
            ∃ row ∈ store.state.queue, jobUidFromSnapshot row ∈ rest ∧ cut.store.state.queue =
              row :: Fresh.without jobUidFromSnapshot removed.toFinset store.state.queue) ∧
          ((∀ answer ∈ store.answers, answer.enqueued = []) → cut.store.backend.queue =
            Fresh.without jobUidFromSnapshot removed.toFinset store.backend.queue) ∧
          ∀ (next : Phase) (nextId : Option String), next.machine.selection = selection →
            next.machine.skippedUids ⊆ cut.machine.skippedUids → Indexed next.store →
            (next.store.state.queue = cut.store.state.queue ∨ next.store.state.queue =
              Fresh.without jobUidFromSnapshot removed.toFinset store.state.queue) →
            (skipUids next.machine next.store.state).Nodup ∧
              (∀ uid, uid ∈ skipUids next.machine next.store.state ↔ uid ∈ uids ∧ uid ∉ removed) ∧
              ((∀ answer ∈ next.store.answers, answer.accepted = true) →
                (applySkips next nextId).1.store.state.queue =
                  Fresh.without jobUidFromSnapshot uids.toFinset store.state.queue) := by
  intro phase uids
  refine ⟨⟨skipUids_nodup _ _, fun uid => mem_skipUids_fresh⟩, fun accepted => applySkips_accepted indexed runId accepted,
    applySkips_eq phase runId, fun rounds => ?_⟩
  intro cut
  obtain ⟨removed, swept, ends⟩ := @cutAfter_swept _ phase indexed runId rounds
  obtain ⟨rest, split, complete, queued⟩ := ends_split ends
  change uids = removed ++ rest at split
  have distinct : (removed ++ rest).Nodup := split ▸ skipUids_nodup ⟨selection, ∅⟩ store.state
  have apart : ∀ uid ∈ rest, uid ∉ removed := fun uid late early =>
    (List.nodup_append.mp distinct).2.2 uid early uid late rfl
  have restored : cut.store.state.queue = Fresh.without jobUidFromSnapshot removed.toFinset store.state.queue ∨
      ∃ row ∈ store.state.queue, jobUidFromSnapshot row ∈ rest ∧ cut.store.state.queue =
        row :: Fresh.without jobUidFromSnapshot removed.toFinset store.state.queue := by
    rcases queued with same | ⟨row, job, uid, found, late, front⟩
    · exact .inl same
    · obtain ⟨listed, named, -⟩ := row_of_get?_rowsOf found
      exact .inr ⟨row, listed, named ▸ late, front⟩
  have skipped : cut.machine.skippedUids = removed.toFinset := by
    rw [swept.machine]
    exact Finset.empty_union _
  refine ⟨removed, rest, split, complete, restored, swept.disk, fun next nextId same known ready resumed => ?_⟩
  have left : Left store.state removed next.store.state := by
    rcases resumed with after | kept
    · rcases queued with same | ⟨row, job, uid, found, late, front⟩
      · exact left_without (after.trans same)
      · exact left_cons (left_without rfl) (apart uid late) found (after.trans front)
    · exact left_without kept
  have remembered : ∀ uid ∈ next.machine.skippedUids, uid ∈ removed := by
    intro uid member
    have listed := known member
    rw [skipped] at listed
    exact List.mem_toFinset.mp listed
  have found : ∀ uid, uid ∈ skipUids next.machine next.store.state ↔ uid ∈ rest := fun uid =>
    mem_skipUids_left split same remembered left
  refine ⟨skipUids_nodup _ _, fun uid => ?_, fun accepted => ?_⟩
  · rw [found, split, List.mem_append]
    constructor
    · intro late
      exact ⟨.inr late, apart uid late⟩
    · rintro ⟨early | late, stays⟩
      · exact absurd early stays
      · exact late
  · have uidsLeft : (skipUids next.machine next.store.state).toFinset = rest.toFinset := by
      ext uid
      rw [List.mem_toFinset, List.mem_toFinset, found]
    have rows : next.store.state.queue = Fresh.without jobUidFromSnapshot removed.toFinset store.state.queue ∨
        ∃ row, jobUidFromSnapshot row ∈ rest ∧ next.store.state.queue =
          row :: Fresh.without jobUidFromSnapshot removed.toFinset store.state.queue := by
      rcases resumed with after | kept
      · rcases restored with same | ⟨row, -, late, front⟩
        · exact .inl (after.trans same)
        · exact .inr ⟨row, late, after.trans front⟩
      · exact .inl kept
    rw [(applySkips_accepted ready nextId accepted).2, uidsLeft, split]
    exact without_left rows

end Phases

section Sample

open Lifecycle

local instance : Python := samplePython

/-- A job of a type that is skipped, and one that depends on it. -/
def skippedQueue : List Record := [
  Dict.ofPairs [("task_type", .str "s"), ("job_id", .str "1")],
  namedRow,
  Dict.ofPairs [("task_type", .str "t"), ("job_id", .str "b"), ("depends_on", .arr [.str "s::1"])]]

/-- Both jobs go, the other one stays. -/
theorem applySkips_dependent :
    Indexed (Mirror.loaded skippedQueue) ∧
      (applySkips ⟨⟨⟨[.skip "s"]⟩, ∅⟩, Mirror.loaded skippedQueue, 0⟩ none).1.store.state.queue = [namedRow] := by
  have indexed : Indexed (Mirror.loaded skippedQueue) := rfl
  obtain ⟨-, removes, -⟩ := applySkips_spec ⟨[.skip "s"]⟩ (Mirror.loaded skippedQueue) none 0 indexed
  refine ⟨indexed, (removes (by simp [Mirror.loaded])).2.trans ?_⟩
  decide +kernel

end Sample

end SelectionMachine

end Tasklite.Engine
