import Tasklite.Models.State

/-! Rows that name their job. As long as the task type and the job id of a row are
there, its uid is made of these two and nothing else in the row can change it. -/

namespace Tasklite.Models.Identity
open Tasklite.Library

variable [Python] {row : Record} {job : Job}

/-- Both parts of the uid are in the row. -/
def Identified (row : Record) : Prop :=
  Record.get row "task_type" ≠ .null ∧ Record.get row "job_id" ≠ .null

instance (row : Record) : Decidable (Identified row) := inferInstanceAs (Decidable (_ ∧ _))

theorem uid_of_identified (identified : Identified row) : jobUidFromSnapshot row =
    format (Record.get row "task_type") ++ "::" ++ format (Record.get row "job_id") := by
  unfold jobUidFromSnapshot
  exact if_pos identified

section Set

variable {key : String} {value : Json} (notType : "task_type" ≠ key) (notId : "job_id" ≠ key)

include notType notId

omit [Python] in
theorem identified_set (identified : Identified row) : Identified (row.set key value) := by
  unfold Identified
  rw [Record.get_set_of_ne row value notType, Record.get_set_of_ne row value notId]
  exact identified

theorem uid_set (identified : Identified row) :
    jobUidFromSnapshot (row.set key value) = jobUidFromSnapshot row := by
  rw [uid_of_identified (identified_set notType notId identified), uid_of_identified identified,
    Record.get_set_of_ne row value notType, Record.get_set_of_ne row value notId]

end Set

section Parse

omit [Python] in
theorem bind_eq_ok {ε α β : Type} {first : Except ε α} {next : α → Except ε β} {result : β} :
    (first >>= next) = .ok result ↔ ∃ value, first = .ok value ∧ next value = .ok result := by
  cases first with
  | error refusal => simp [bind, Except.bind]
  | ok value => simp [bind, Except.bind]

theorem validateComponent_ok {field : String} {value : Json} {component : Component}
    (valid : validateComponent field value = .ok component) : value = .str component.val := by
  unfold validateComponent at valid
  split at valid
  · split at valid
    · cases valid
    · split at valid
      · cases valid
      · simp only [Except.ok.injEq] at valid
        rw [← valid]
  · cases valid

omit [Python] in
theorem required_ok {key : String} {value : Json}
    (found : (row.get? key).elim (throw (.keyError key)) pure = (.ok value : Except PyError Json)) :
    Record.get row key = value := by
  unfold Record.get
  cases lookup : row.get? key with
  | none => simp [lookup, throw, throwThe, MonadExceptOf.throw] at found
  | some other =>
    simp only [lookup, Option.elim_some, pure, Except.pure, Except.ok.injEq] at found
    exact found

/-- A row that parses holds the two parts of its job's uid. -/
theorem fromDict_ok (parsed : Job.fromDict row = .ok job) :
    Record.get row "task_type" = .str job.taskType.val ∧ Record.get row "job_id" = .str job.jobId.val := by
  unfold Job.fromDict at parsed
  by_cases rerun : row.contains "rerun" = true
  · simp [rerun, throw, throwThe, MonadExceptOf.throw, bind, Except.bind] at parsed
  · by_cases timeout : row.contains "timeout" = true
    · simp [rerun, timeout, throw, throwThe, MonadExceptOf.throw, bind, Except.bind] at parsed
    · simp only [rerun, timeout, Bool.false_eq_true, ↓reduceIte, bind_eq_ok] at parsed
      obtain ⟨rawTaskType, typed, rawJobId, named, taskType, validType, jobId, validId, _, _, _, _, _, _, _, _,
        _, _, _, _, _, _, _, _, _, _, _, _, _, _, built⟩ := parsed
      have whole := Except.ok.inj built
      rw [← whole, required_ok typed, required_ok named]
      exact ⟨validateComponent_ok validType, validateComponent_ok validId⟩

/-- What a row that parses says about resources and dependencies is what its job has. -/
theorem fromDict_fields (parsed : Job.fromDict row = .ok job) :
    normalizeResources (Record.get row "resources") = .ok job.resources ∧
      normalizeDependsOn (Record.get row "depends_on") = .ok job.dependsOn := by
  unfold Job.fromDict at parsed
  by_cases rerun : row.contains "rerun" = true
  · simp [rerun, throw, throwThe, MonadExceptOf.throw, bind, Except.bind] at parsed
  · by_cases timeout : row.contains "timeout" = true
    · simp [rerun, timeout, throw, throwThe, MonadExceptOf.throw, bind, Except.bind] at parsed
    · simp only [rerun, timeout, Bool.false_eq_true, ↓reduceIte, bind_eq_ok] at parsed
      obtain ⟨_, _, _, _, _, _, _, _, _, _, _, _, resources, amounts, _, _, dependsOn, depends, _, _,
        _, _, _, _, _, _, _, _, _, _, built⟩ := parsed
      have whole := Except.ok.inj built
      rw [← whole]
      exact ⟨amounts, depends⟩

theorem identified_of_fromDict (parsed : Job.fromDict row = .ok job) : Identified row := by
  unfold Identified
  simp [fromDict_ok parsed]

theorem uid_of_fromDict (parsed : Job.fromDict row = .ok job) : jobUidFromSnapshot row = job.uid := by
  rw [uid_of_identified (identified_of_fromDict parsed), (fromDict_ok parsed).1, (fromDict_ok parsed).2]
  rfl

end Parse

section Job

variable (job)

omit [Python] in
theorem toDict_parts : Record.get job.toDict "task_type" = .str job.taskType.val ∧
    Record.get job.toDict "job_id" = .str job.jobId.val := by
  simp [Record.get, Job.toDict, Dict.ofPairs, Dict.update, Dict.get?_set]

omit [Python] in
/-- Writing a job's fields over a row makes it a row of that job. -/
theorem update_toDict_parts (row : Record) :
    Record.get (row.update job.toDict.entries) "task_type" = .str job.taskType.val ∧
      Record.get (row.update job.toDict.entries) "job_id" = .str job.jobId.val := by
  have written : ∀ key value, job.toDict.get? key = some value →
      Record.get (row.update job.toDict.entries) key = value := by
    intro key value found
    unfold Record.get
    rw [Dict.get?_update_of_mem row job.toDict.distinct (Dict.mem_entries.mpr found), Option.getD_some]
  constructor
  · apply written
    simp [Job.toDict, Dict.ofPairs, Dict.update, Dict.get?_set]
  · apply written
    simp [Job.toDict, Dict.ofPairs, Dict.update, Dict.get?_set]

variable {job}

theorem uid_of_parts (taskType : Record.get row "task_type" = .str job.taskType.val)
    (jobId : Record.get row "job_id" = .str job.jobId.val) :
    Identified row ∧ jobUidFromSnapshot row = job.uid := by
  have identified : Identified row := by
    unfold Identified
    simp [taskType, jobId]
  refine ⟨identified, ?_⟩
  rw [uid_of_identified identified, taskType, jobId]
  rfl

end Job

end Tasklite.Models.Identity
