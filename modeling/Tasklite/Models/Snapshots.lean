import Tasklite.Models.Identity

/-! Snapshots and jobs. The snapshot that a job exports is accepted again and gives the
same job, its framework counters and the rest of its `runtime` object included. -/

namespace Tasklite.Models.Snapshots
open Tasklite.Library Tasklite.Models.Identity

section Runtime

open JobRuntimeState

variable {data : Record} {key other : String} {value : Json} {isEmpty : Bool}

theorem get_exportField_self :
    Record.get (exportField key value isEmpty data) key = if isEmpty then .null else value := by
  unfold exportField
  cases isEmpty with
  | true => simp [Record.get, Dict.get?_erase]
  | false => exact Record.get_set_self data key value

theorem get?_exportField_of_ne (different : other ≠ key) :
    (exportField key value isEmpty data).get? other = data.get? other := by
  unfold exportField
  cases isEmpty with
  | true => simp [Dict.get?_erase, different]
  | false => exact Dict.get?_set_of_ne data value different

theorem get_exportField_of_ne (different : other ≠ key) :
    Record.get (exportField key value isEmpty data) other = Record.get data other :=
  congrArg (·.getD .null) (get?_exportField_of_ne different)

theorem erase_exportField_self (absent : data.get? key = none) :
    (exportField key value isEmpty data).erase key = data := by
  unfold exportField
  cases isEmpty with
  | true => rw [if_pos rfl, Dict.erase_of_absent absent, Dict.erase_of_absent absent]
  | false => rw [if_neg (by simp), Dict.erase_set_self, Dict.erase_of_absent absent]

theorem erase_exportField_of_ne (different : other ≠ key) :
    (exportField key value isEmpty data).erase other = exportField key value isEmpty (data.erase other) := by
  unfold exportField
  cases isEmpty with
  | true => exact Dict.erase_comm data key other
  | false => exact Dict.erase_set_of_ne data different value

/-- The framework's fields are apart from the rest. -/
structure Clean (runtime : JobRuntimeState) : Prop where
  commits : runtime.extra.get? rtCommitFailures = none
  dispatches : runtime.extra.get? rtDispatchFailures = none
  lastError : runtime.extra.get? rtLastRetryError = none

theorem clean_fromDict [Python] (raw : Json) : Clean (fromDict raw) := by
  cases raw with
  | obj fields => constructor <;> simp [fromDict, Dict.get?_erase]
  | _ => exact ⟨rfl, rfl, rfl⟩

/-- A counter is read as it was written, zero when it was left out. -/
theorem counter_written [Python] (n : Int) : counter (if n = 0 then .null else .int n) = n := by
  by_cases zero : n = 0
  · rw [if_pos zero, zero]
    rfl
  · rw [if_neg zero]
    rfl

theorem errorText_written [Python] (text : String) :
    errorText (if text = "" then .null else .str text) = text := by
  by_cases empty : text = ""
  · rw [if_pos empty, empty]
    rfl
  · rw [if_neg empty]
    rfl

/-- The `runtime` object of a job survives the export. -/
theorem fromDict_toDict [Python] {runtime : JobRuntimeState} (clean : Clean runtime) :
    fromDict (.obj runtime.toDict.entries) = runtime := by
  have commits : Record.get runtime.toDict rtCommitFailures =
      if runtime.commitFailures = 0 then .null else .int runtime.commitFailures := by
    unfold toDict
    rw [get_exportField_of_ne (by decide), get_exportField_of_ne (by decide), get_exportField_self]
    simp
  have dispatches : Record.get runtime.toDict rtDispatchFailures =
      if runtime.dispatchFailures = 0 then .null else .int runtime.dispatchFailures := by
    unfold toDict
    rw [get_exportField_of_ne (by decide), get_exportField_self]
    simp
  have lastError : Record.get runtime.toDict rtLastRetryError =
      if runtime.lastRetryError = "" then .null else .str runtime.lastRetryError := by
    unfold toDict
    rw [get_exportField_self]
    simp
  have extra : ((runtime.toDict.erase rtCommitFailures).erase rtDispatchFailures).erase rtLastRetryError =
      runtime.extra := by
    have first : runtime.toDict.erase rtCommitFailures =
        exportField rtLastRetryError (.str runtime.lastRetryError) (runtime.lastRetryError = "")
          (exportField rtDispatchFailures (.int runtime.dispatchFailures) (runtime.dispatchFailures = 0)
            runtime.extra) := by
      unfold toDict
      rw [erase_exportField_of_ne (by decide)]
      congr 1
      rw [erase_exportField_of_ne (by decide), erase_exportField_self clean.commits]
    rw [first, erase_exportField_of_ne (by decide), erase_exportField_self clean.dispatches,
      erase_exportField_self clean.lastError]
  unfold fromDict
  simp only [Dict.ofPairs_entries, commits, dispatches, lastError, extra, counter_written, errorText_written]

end Runtime

section Fields

variable [Python] {row : Record} {job : Job}

/-- What a snapshot says, field by field, is what its job has. -/
structure Reads (row : Record) (job : Job) : Prop where
  noRerun : row.contains "rerun" = false
  noTimeout : row.contains "timeout" = false
  taskType : Record.get row "task_type" = .str job.taskType.val
  jobId : Record.get row "job_id" = .str job.jobId.val
  payload : normalizePayload (Record.get row "payload") = .ok job.payload
  resources : normalizeResources (Record.get row "resources") = .ok job.resources
  maxRetries : ∃ budget, optional validateRetryBudget (Record.get row "max_retries") = .ok budget ∧
    budget.map Subtype.val = job.maxRetries
  dependsOn : normalizeDependsOn (Record.get row "depends_on") = .ok job.dependsOn
  timeoutSeconds : optional validateTimeoutSeconds (Record.get row "timeout_seconds") = .ok job.timeoutSeconds
  timeoutIsTransient : optional validateTimeoutFlag (Record.get row "timeout_is_transient") =
    .ok job.timeoutIsTransient
  trigger : optional validateTrigger (Record.get row "trigger") = .ok job.trigger
  attemptNo : validateAttemptNo ((row.get? "attempt_no").getD (.int 1)) = .ok job.attemptNo
  activationNo : validateActivationNo ((row.get? "activation_no").getD (.int 1)) = .ok job.activationNo
  firstEnqueuedAt : validateFirstEnqueuedAt (Record.get row "first_enqueued_at") = .ok job.firstEnqueuedAt
  runtime : JobRuntimeState.fromDict (Record.get row "runtime") = job.runtime

theorem reads_of_fromDict (parsed : Job.fromDict row = .ok job) : Reads row job := by
  unfold Job.fromDict at parsed
  by_cases rerun : row.contains "rerun" = true
  · simp [rerun, throw, throwThe, MonadExceptOf.throw, bind, Except.bind] at parsed
  · by_cases timeout : row.contains "timeout" = true
    · simp [rerun, timeout, throw, throwThe, MonadExceptOf.throw, bind, Except.bind] at parsed
    · simp only [rerun, timeout, Bool.false_eq_true, ↓reduceIte, bind_eq_ok] at parsed
      obtain ⟨rawTaskType, typed, rawJobId, named, taskType, validType, jobId, validId, fits, fitted, payload,
        carried, resources, amounts, maxRetries, budget, dependsOn, depends, timeoutSeconds, timed,
        timeoutIsTransient, flagged, trigger, triggered, attemptNo, attempted, activationNo, activated,
        firstEnqueuedAt, enqueued, built⟩ := parsed
      have whole := Except.ok.inj built
      rw [← whole]
      exact ⟨Bool.eq_false_iff.mpr rerun, Bool.eq_false_iff.mpr timeout,
        (required_ok typed).trans (validateComponent_ok validType),
        (required_ok named).trans (validateComponent_ok validId), carried, amounts, ⟨maxRetries, budget, rfl⟩,
        depends, timed, flagged, triggered, attempted, activated, enqueued, rfl⟩

theorem validateComponent_str (field : String) (component : Component) :
    validateComponent field (.str component.val) = .ok component := by
  unfold validateComponent
  simp [component.2.1, component.2.2]

theorem fromDict_of_reads (reads : Reads row job) : Job.fromDict row = .ok job := by
  obtain ⟨budget, accepted, same⟩ := reads.maxRetries
  have typed : row.get? "task_type" = some (.str job.taskType.val) := by
    have found := reads.taskType
    unfold Record.get at found
    cases looked : row.get? "task_type" with
    | none => simp [looked] at found
    | some value => simpa [looked] using found
  have named : row.get? "job_id" = some (.str job.jobId.val) := by
    have found := reads.jobId
    unfold Record.get at found
    cases looked : row.get? "job_id" with
    | none => simp [looked] at found
    | some value => simpa [looked] using found
  have fitted : validateUidIpcFilename job.taskType.val job.jobId.val = .ok ⟨job.fits⟩ := by
    unfold validateUidIpcFilename
    rw [dif_pos job.fits]
  unfold Job.fromDict
  simp only [reads.noRerun, reads.noTimeout, typed, named, Option.elim_some, validateTaskType, validateJobId,
    validateComponent_str, fitted, reads.payload, reads.resources, accepted, reads.dependsOn, reads.timeoutSeconds,
    reads.timeoutIsTransient, reads.trigger, reads.attemptNo, reads.activationNo, reads.firstEnqueuedAt,
    reads.runtime, same, bind, Except.bind, pure, Except.pure, Bool.false_eq_true, if_false]

theorem fromDict_iff : Job.fromDict row = .ok job ↔ Reads row job := ⟨reads_of_fromDict, fromDict_of_reads⟩

end Fields

section Export

variable [Python] {row : Record} {job : Job}

omit [Python] in
/-- An optional field that was accepted is what its value is exported as. -/
theorem optional_read {α : Type} {validate : Json → Except PyError α} {back : α → Json} {value : Json}
    {result : Option α} (done : optional validate value = .ok result)
    (read : ∀ accepted, validate value = .ok accepted → value = back accepted) :
    value = result.elim .null back := by
  unfold optional at done
  split at done
  · obtain rfl := Except.ok.inj done
    rfl
  · cases checked : validate value with
    | error refusal => simp [checked, Except.map] at done
    | ok accepted =>
      have same : result = some accepted := by
        simpa [checked, Except.map, eq_comm] using done
      rw [same]
      exact read accepted checked

theorem validateInteger_read {field : String} {least : ℕ} {value : Json} {n : {n : ℕ // least ≤ n}}
    (valid : validateInteger field least value = .ok n) : value = .int n.val := by
  unfold validateInteger at valid
  split at valid
  · split at valid
    · rename_i enough
      rw [← Except.ok.inj valid, Int.toNat_of_nonneg ((Int.natCast_nonneg least).trans enough)]
    · cases valid
  · cases valid

theorem validateTimeoutSeconds_read {value : Json} {number : Number}
    (valid : validateTimeoutSeconds value = .ok number) : value = number.toJson := by
  unfold validateTimeoutSeconds at valid
  split at valid
  · cases valid
  · rename_i found read
    split at valid
    · cases valid
    · rw [← Except.ok.inj valid]
      cases value <;> simp only [Number.ofJson, Option.some.injEq, reduceCtorEq] at read <;> rw [← read] <;> rfl

theorem validateTimeoutFlag_read {value : Json} {flag : Bool} (valid : validateTimeoutFlag value = .ok flag) :
    value = .bool flag := by
  unfold validateTimeoutFlag at valid
  split at valid
  · rw [Except.ok.inj valid]
  · cases valid

omit [Python] in
theorem validateTrigger_read {value : Json} {name : String} (valid : validateTrigger value = .ok name) :
    value = .str name := by
  unfold validateTrigger at valid
  split at valid
  · split at valid
    · cases valid
    · rw [Except.ok.inj valid]
  · cases valid

theorem validateFirstEnqueuedAt_read {value : Json} {stamp : Option String}
    (valid : validateFirstEnqueuedAt value = .ok stamp) : value = stamp.elim .null Json.str := by
  unfold validateFirstEnqueuedAt at valid
  split at valid
  · rw [← Except.ok.inj valid]
    rfl
  · split at valid
    · cases valid
    · rw [← Except.ok.inj valid]
      rfl
  · cases valid

/-- The fields that a job exports as its snapshot has them. -/
def statedFields : List String := ["task_type", "job_id", "max_retries", "timeout_seconds", "timeout_is_transient",
  "trigger", "first_enqueued_at"]

theorem get_toDict_of_stated {key : String} (stated : key ∈ statedFields) (parsed : Job.fromDict row = .ok job) :
    Record.get job.toDict key = Record.get row key := by
  have reads := reads_of_fromDict parsed
  obtain ⟨budget, budgeted, same⟩ := reads.maxRetries
  have retries := @optional_read _ _ (fun n : {n : ℕ // 0 ≤ n} => Json.int n.val) _ _ budgeted
    fun _ => validateInteger_read
  have timed := optional_read reads.timeoutSeconds fun _ => validateTimeoutSeconds_read
  have flagged := optional_read reads.timeoutIsTransient fun _ => validateTimeoutFlag_read
  have triggered := optional_read reads.trigger fun _ => validateTrigger_read
  have enqueued := validateFirstEnqueuedAt_read reads.firstEnqueuedAt
  simp only [statedFields, List.mem_cons, List.not_mem_nil, or_false] at stated
  rcases stated with rfl | rfl | rfl | rfl | rfl | rfl | rfl
  · rw [(toDict_parts job).1, reads.taskType]
  · rw [(toDict_parts job).2, reads.jobId]
  all_goals simp only [Record.get, Job.toDict, Dict.ofPairs, Dict.update, List.foldl_cons, List.foldl_nil,
    Dict.get?_set, String.reduceEq, if_true, if_false, Option.getD_some]
  · refine Eq.trans ?_ retries.symm
    rw [← same]
    cases budget <;> rfl
  · refine Eq.trans ?_ timed.symm
    cases job.timeoutSeconds <;> rfl
  · refine Eq.trans ?_ flagged.symm
    cases job.timeoutIsTransient <;> rfl
  · refine Eq.trans ?_ triggered.symm
    cases job.trigger <;> rfl
  · refine Eq.trans ?_ enqueued.symm
    cases job.firstEnqueuedAt <;> rfl

theorem validateResourceAmount_back {place name : String} {amount : Json} {number : Number}
    (valid : validateResourceAmount place name amount = .ok number) :
    validateResourceAmount place name number.toJson = .ok number := by
  have read : Number.ofJson number.toJson = some number := by cases number <;> rfl
  unfold validateResourceAmount at valid ⊢
  split at valid
  · cases valid
  · rename_i present
    split at valid
    · cases valid
    · split at valid
      · cases valid
      · rename_i found finite
        split at valid
        · cases valid
        · rename_i nonnegative
          obtain rfl := Except.ok.inj valid
          simp [present, read, finite, nonnegative]

/-- Resources that were accepted are accepted as they are exported. -/
theorem normalizeResources_back {value : Json} {resources : Option (Dict String Number)} :
    normalizeResources value = .ok resources → normalizeResources (match resources with
      | none => .null
      | some amounts => .obj (amounts.entries.map fun entry => (entry.1, entry.2.toJson))) = .ok resources := by
  intro accepted
  unfold normalizeResources at accepted
  split at accepted
  · cases accepted
    rfl
  · rename_i fields
    cases valid : validateResourceAmounts (Dict.ofPairs fields) "resources" with
    | error refusal => simp [valid, Except.map] at accepted
    | ok amounts =>
      have same : resources = some amounts := by
        simpa [valid, Except.map, eq_comm] using accepted
      subst same
      have back : ∀ entry ∈ amounts.entries, validateResourceAmount "resources" entry.1 entry.2.toJson =
          .ok entry.2 := by
        intro entry member
        obtain ⟨raw, checked⟩ := Dict.mem_traverse valid entry member
        exact validateResourceAmount_back checked
      have keys : (amounts.entries.map fun entry => (entry.1, entry.2.toJson)).map Prod.fst =
          amounts.entries.map Prod.fst := by
        rw [List.map_map]
        rfl
      have entries : (Dict.ofPairs (amounts.entries.map fun entry => (entry.1, entry.2.toJson))).entries =
          amounts.entries.map fun entry => (entry.1, entry.2.toJson) :=
        Dict.entries_ofPairs (keys ▸ amounts.distinct)
      have again := Dict.traverse_back back entries
      show (validateResourceAmounts (Dict.ofPairs _) "resources").map some = _
      unfold validateResourceAmounts
      rw [again]
      rfl
  · cases accepted

theorem validateInteger_back (field : String) {least : ℕ} (n : {n : ℕ // least ≤ n}) :
    validateInteger field least (.int n.val) = .ok n := by
  have enough : (least : Int) ≤ (n.val : Int) := Int.ofNat_le.mpr n.2
  unfold validateInteger
  dsimp only
  rw [dif_pos enough]
  rfl

omit [Python] in
theorem dependencyUids_back (uids : List String) : dependencyUids (uids.map Json.str) = some uids := by
  induction uids with
  | nil => rfl
  | cons uid rest ih => rw [List.map_cons, dependencyUids, ih, Option.map_some]

/-- The snapshot that an accepted job exports is accepted, and gives the same job. -/
theorem fromDict_export (parsed : Job.fromDict row = .ok job) : Job.fromDict job.toDict = .ok job := by
  have reads := reads_of_fromDict parsed
  have side := fromDict_toDict (reads.runtime ▸ clean_fromDict _)
  apply fromDict_of_reads
  constructor
  case noRerun => simp [Dict.contains, Job.toDict, Dict.ofPairs, Dict.update, Dict.get?_set]
  case noTimeout => simp [Dict.contains, Job.toDict, Dict.ofPairs, Dict.update, Dict.get?_set]
  case taskType => exact (toDict_parts job).1
  case jobId => exact (toDict_parts job).2
  case maxRetries =>
    rw [get_toDict_of_stated (by decide) parsed]
    exact reads.maxRetries
  case timeoutSeconds =>
    rw [get_toDict_of_stated (by decide) parsed]
    exact reads.timeoutSeconds
  case timeoutIsTransient =>
    rw [get_toDict_of_stated (by decide) parsed]
    exact reads.timeoutIsTransient
  case trigger =>
    rw [get_toDict_of_stated (by decide) parsed]
    exact reads.trigger
  case firstEnqueuedAt =>
    rw [get_toDict_of_stated (by decide) parsed]
    exact reads.firstEnqueuedAt
  all_goals simp only [Record.get, Job.toDict, Dict.ofPairs, Dict.update, List.foldl_cons, List.foldl_nil,
    Dict.get?_set, String.reduceEq, if_true, if_false, Option.getD_some]
  case payload => exact congrArg Except.ok (Dict.ofPairs_entries job.payload)
  case resources => exact normalizeResources_back reads.resources
  case dependsOn => simp [normalizeDependsOn, dependencyUids_back]
  case attemptNo => exact validateInteger_back _ _
  case activationNo => exact validateInteger_back _ _
  case runtime => exact side

end Export

section Sample

local instance : Python := Python.sample

/-- A row after one refused commit, with a field of its own next to the framework's. -/
def storedRow : Record := Dict.ofPairs [("task_type", .str "t"), ("job_id", .str "a"), ("max_retries", .int 2),
  ("resources", .obj [("cpu", .float 2)]), ("runtime", .obj [("seen", .bool true), ("_commit_failures", .int 1)])]

theorem fromDict_export_stored :
    ∃ job, Job.fromDict storedRow = .ok job ∧ Job.fromDict job.toDict = .ok job := by
  cases parsed : Job.fromDict storedRow with
  | error refusal =>
    have accepted : (Job.fromDict storedRow).isOk = true := by decide +kernel
    rw [parsed] at accepted
    cases accepted
  | ok job => exact ⟨job, rfl, fromDict_export parsed⟩

end Sample

end Tasklite.Models.Snapshots
