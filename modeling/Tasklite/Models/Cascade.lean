import Tasklite.Library.Closure
import Tasklite.Models.State

/-! What a failure takes down: exactly the queued jobs that depend on the failed one, directly or
through others, as far as the way to them does not lead over a job that is excluded or has
succeeded or failed already. -/

namespace Tasklite.Models.PipelineState
open Tasklite.Library Relation

variable [Python] (state : PipelineState) (excluded : Finset String)

/-- A failure of `uid` is passed on to a queued job that depends on it and may be reached. -/
def TakesDown (uid dependent : String) : Prop :=
  (∃ job ∈ state.queuedJobs, job.uid = dependent ∧ uid ∈ job.dependsOn) ∧
    dependent ∉ excluded ∧ ¬ state.successes.contains dependent ∧ ¬ state.failed.contains dependent

/-- The dependents of a uid that a cascade may reach. -/
def passable (uid : String) : List String :=
  (state.dependents uid).filter fun dependent =>
    dependent ∉ excluded ∧ ¬ state.successes.contains dependent ∧ ¬ state.failed.contains dependent

/-- The loop of `cascade_fail` after so many rounds: its stack, and everything it has seen. -/
def cascadeAt (failedUid : String) (rounds : ℕ) : Closure.Trail String Unit :=
  (Closure.visit (state.passable excluded) id)^[rounds] (Closure.start [(failedUid, ())])

variable {state excluded} {uid dependent failedUid : String}

theorem dependents_nodup (uid : String) : (state.dependents uid).Nodup := by
  have distinct := @Fresh.fresh_nodup _ _ _ id ∅
    ((state.queuedJobs.filter fun job => uid ∈ job.dependsOn).map Job.uid)
  rw [List.map_id] at distinct
  exact (Python.setOrder_perm _).nodup_iff.mpr distinct

theorem mem_dependents : dependent ∈ state.dependents uid ↔
    ∃ job ∈ state.queuedJobs, job.uid = dependent ∧ uid ∈ job.dependsOn := by
  have same := Finset.ext_iff.mp (@Fresh.keys_fresh _ _ _ id ∅
    ((state.queuedJobs.filter fun job => uid ∈ job.dependsOn).map Job.uid)) dependent
  unfold dependents
  rw [(Python.setOrder_perm _).mem_iff]
  simp only [Fresh.keys, List.map_id, List.mem_toFinset, Finset.sdiff_empty] at same
  rw [same]
  simp only [List.mem_map, List.mem_filter, decide_eq_true_eq]
  constructor
  · rintro ⟨job, ⟨queued, depends⟩, named⟩
    exact ⟨job, queued, named, depends⟩
  · rintro ⟨job, queued, named, depends⟩
    exact ⟨job, ⟨queued, depends⟩, named⟩

theorem child_passable :
    Closure.Child (state.passable excluded) uid dependent ↔ state.TakesDown excluded uid dependent := by
  simp only [Closure.Child, passable, List.mem_filter, mem_dependents, TakesDown, decide_eq_true_eq]

theorem newlyReached_eq {seen : List String} {marked : Finset String}
    (same : ∀ other, other ∈ marked ↔ other ∈ seen) (uid : String) :
    state.newlyReached excluded seen (state.dependents uid) =
      Fresh.fresh id marked (state.passable excluded uid) := by
  have distinct : ((state.passable excluded uid).map id).Nodup := by
    rw [List.map_id]
    exact (dependents_nodup uid).filter _
  rw [Fresh.fresh_eq_filter distinct, passable, List.filter_filter]
  apply List.filter_congr
  intro other _
  simp only [id_eq, same]
  by_cases met : other ∈ seen <;> simp [met]

/-- The loop as the source has it and the closure's loop visit the same uids in the same order. -/
theorem cascadeFrom_eq (rounds : ℕ) {trail : Closure.Trail String Unit} {cascade : List String}
    (seen : trail.marked.map Prod.fst = failedUid :: cascade) :
    failedUid :: state.cascadeFrom excluded rounds (trail.stack.map Prod.fst) (failedUid :: cascade) cascade =
      (((Closure.visit (state.passable excluded) id)^[rounds] trail).marked).map Prod.fst := by
  induction rounds generalizing trail cascade with
  | zero => exact seen.symm
  | succ rounds ih =>
    rcases shape : trail.stack with _ | ⟨⟨current, label⟩, stack⟩
    · rw [Closure.iterate_done shape, seen]
      rfl
    · have met : ∀ other, other ∈ Fresh.keys Prod.fst trail.marked ↔ other ∈ failedUid :: cascade := by
        intro other
        rw [← seen, Fresh.keys, List.mem_toFinset]
      have visited : Closure.visit (state.passable excluded) id trail =
          ⟨((Fresh.fresh id (Fresh.keys Prod.fst trail.marked) (state.passable excluded current)).map
              fun child => (child, label)).reverse ++ stack,
            trail.marked ++ (Fresh.fresh id (Fresh.keys Prod.fst trail.marked)
              (state.passable excluded current)).map fun child => (child, label)⟩ := by
        simp only [Closure.visit, shape, id_eq]
      rw [← newlyReached_eq met] at visited
      have next := @ih (Closure.visit (state.passable excluded) id trail)
        (cascade ++ state.newlyReached excluded (failedUid :: cascade) (state.dependents current))
        (by simp [visited, seen, Function.comp_def])
      rw [Function.iterate_succ_apply, ← next, visited]
      simp [cascadeFrom, Function.comp_def]

theorem cascadeAt_eq (rounds : ℕ) :
    failedUid :: state.cascadeFrom excluded rounds [failedUid] [failedUid] [] =
      (state.cascadeAt excluded failedUid rounds).marked.map Prod.fst :=
  @cascadeFrom_eq _ state excluded failedUid rounds (Closure.start [(failedUid, ())]) [] rfl

theorem queuedJobs_length : state.queuedJobs.length ≤ state.queue.length := List.length_filterMap_le _ _

theorem inside_queue (uid dependent : String) (child : Closure.Child (state.passable excluded) uid dependent) :
    dependent ∈ (state.queuedJobs.map Job.uid).toFinset := by
  obtain ⟨⟨job, queued, named, -⟩, -⟩ := child_passable.mp child
  rw [List.mem_toFinset, ← named]
  exact List.mem_map_of_mem queued

theorem enough_rounds {rounds : ℕ} (enough : state.queue.length + 1 ≤ rounds) :
    [(failedUid, ())].length + (state.queuedJobs.map Job.uid).toFinset.card ≤ rounds := by
  have few := List.toFinset_card_le (state.queuedJobs.map Job.uid)
  have parsed := @queuedJobs_length _ state
  rw [List.length_map] at few
  simp only [List.length_singleton]
  omega

/-- The loop is over after a round for every queued row and one more, and what it has reached then is the
downstream closure of the failed job, without the job itself and each uid once. -/
theorem cascadeFail_closure (state : PipelineState) (failedUid : String) (excluded : Finset String) :
    (∀ rounds, state.queue.length + 1 ≤ rounds →
      (state.cascadeAt excluded failedUid rounds).stack = [] ∧
        (state.cascadeAt excluded failedUid rounds).marked.map Prod.fst =
          failedUid :: state.cascadeFail failedUid excluded) ∧
      (state.cascadeFail failedUid excluded).Nodup ∧
      ∀ uid, uid ∈ state.cascadeFail failedUid excluded ↔
        uid ≠ failedUid ∧ TransGen (state.TakesDown excluded) failedUid uid := by
  have whole : failedUid :: state.cascadeFail failedUid excluded =
      (state.cascadeAt excluded failedUid (state.queue.length + 1)).marked.map Prod.fst := cascadeAt_eq _
  have single : ([(failedUid, ())].map Prod.fst).Nodup := List.nodup_singleton failedUid
  have first : (state.cascadeAt excluded failedUid (state.queue.length + 1)).stack = [] :=
    Closure.stack_start inside_queue (enough_rounds le_rfl)
  have tracing : Closure.Tracing (state.passable excluded) id [(failedUid, ())]
      (state.cascadeAt excluded failedUid (state.queue.length + 1)) :=
    Closure.tracing_iterate (Closure.tracing_start single) _
  have distinct : (failedUid :: state.cascadeFail failedUid excluded).Nodup := whole ▸ tracing.distinct
  rw [List.nodup_cons] at distinct
  refine ⟨fun rounds enough => ?_, distinct.2, fun uid => ?_⟩
  · have later : state.cascadeAt excluded failedUid rounds =
        state.cascadeAt excluded failedUid (state.queue.length + 1) := by
      have done : (Closure.visit (state.passable excluded) id)^[rounds - (state.queue.length + 1)]
          (state.cascadeAt excluded failedUid (state.queue.length + 1)) = _ := Closure.iterate_done first _
      unfold cascadeAt at done ⊢
      rw [← Function.iterate_add_apply, Nat.sub_add_cancel enough] at done
      exact done
    rw [later]
    exact ⟨first, whole.symm⟩
  · have edges : Closure.Child (state.passable excluded) = state.TakesDown excluded := by
      funext parent child
      exact propext child_passable
    have reached : uid ∈ (state.cascadeAt excluded failedUid (state.queue.length + 1)).marked.map Prod.fst ↔ _ :=
      Closure.mem_marked_iff single inside_queue (enough_rounds le_rfl)
    rw [← whole, edges, List.mem_cons] at reached
    have member : uid = failedUid ∨ uid ∈ state.cascadeFail failedUid excluded ↔
        uid = failedUid ∨ TransGen (state.TakesDown excluded) failedUid uid := by
      rw [← reflTransGen_iff_eq_or_transGen, reached]
      simp
    constructor
    · intro down
      have different : uid ≠ failedUid := fun same => distinct.1 (same ▸ down)
      exact ⟨different, (member.mp (.inr down)).resolve_left different⟩
    · rintro ⟨different, path⟩
      exact (member.mpr (.inr path)).resolve_left different

end Tasklite.Models.PipelineState
