import Tasklite.Engine.Provenance
import Tasklite.Models.Snapshots

/-! The history of a row. Every copy of a row descends from one that was enqueued or
spawned, by strikes, failed dispatches, filling in, activations and retries. Its
counters are the tallies of that history, retries stay within the budget, and what the
row says about its job stays what it was. -/

namespace Tasklite.Engine.Lineage
open Tasklite.Library Tasklite.Models Tasklite.Models.Snapshots Tasklite.Backend
open StateStore Lifecycle Provenance Runs

/-- What has happened to a row: retries that count, refused commits and failed dispatches. -/
structure Tally where
  retries : ℕ := 0
  strikes : ℕ := 0
  dispatchFailures : ℕ := 0

section History

variable [Python] (config : StoreConfig)

/-- The rows that come of one row, rewriting by rewriting. -/
inductive Descends (origin : Record) : Tally → Record → Prop
  | refl : Descends origin {} origin
  | struck {tally : Tally} {row : Record} (before : Descends origin tally row) :
      Descends origin { tally with strikes := tally.strikes + 1 } (registerCommitFailure row)
  | undispatched {tally : Tally} {row : Record} (before : Descends origin tally row) :
      Descends origin { tally with dispatchFailures := tally.dispatchFailures + 1 } (recordDispatchFailure row)
  | filled {tally : Tally} {row : Record} {job : Job} (before : Descends origin tally row)
      (parsed : Job.fromDict row = .ok job) :
      Descends origin tally (normalizeJobSnapshot config row job.taskType.val)
  | activated {tally : Tally} {row : Record} (number : {n : ℕ // 1 ≤ n}) (before : Descends origin tally row) :
      Descends origin tally (row.set "activation_no" (.int number.val))
  | requeued {tally : Tally} {row : Record} {job : Job} (retryError : Option Json)
      (before : Descends origin tally row) (parsed : Job.fromDict row = .ok job) :
      Descends origin tally (Runtime.buildRetryJobSnapshot job row retryError true)
  | retried {tally : Tally} {row : Record} {job : Job} (retryError : Option Json)
      (before : Descends origin tally row) (parsed : Job.fromDict row = .ok job)
      (within : job.attemptNo.val ≤ job.maxRetries.getD 3) :
      Descends origin { tally with retries := tally.retries + 1 }
        (Runtime.buildRetryJobSnapshot job row retryError false)

/-- A row that a finished job has spawned. -/
def Spawned (origin : Record) : Prop :=
  ∃ (store : StateStore) (job : Job), origin = store.normalizeSpawnedJob config job

/-- A row with an origin among the given ones or the spawned ones. -/
def Traced (given : Record → Prop) (row : Record) : Prop :=
  ∃ origin tally, (given origin ∨ Spawned config origin) ∧ Descends config origin tally row

theorem closed_traced (given : Record → Prop) : Closed config (Traced config given) where
  struck := by
    rintro row ⟨origin, tally, known, descends⟩
    exact ⟨origin, _, known, .struck descends⟩
  undispatched := by
    rintro row ⟨origin, tally, known, descends⟩
    exact ⟨origin, _, known, .undispatched descends⟩
  filled := by
    rintro row job ⟨origin, tally, known, descends⟩ parsed
    exact ⟨origin, _, known, .filled descends parsed⟩
  activated := by
    rintro row number ⟨origin, tally, known, descends⟩
    exact ⟨origin, _, known, .activated number descends⟩
  retried := by
    rintro row job retryError isTransient ⟨origin, tally, known, descends⟩ parsed within
    cases isTransient with
    | true => exact ⟨origin, _, known, .requeued retryError descends parsed⟩
    | false => exact ⟨origin, _, known, .retried retryError descends parsed (by simpa using within)⟩
  spawned := fun store job => ⟨_, {}, Or.inr ⟨store, job, rfl⟩, .refl⟩

variable {config} {row : Record} {job : Job}

section Side

/-- The framework's part of a row. -/
def sideOf (row : Record) : JobRuntimeState := JobRuntimeState.fromDict (Record.get row "runtime")

theorem clean_sideOf (row : Record) : Clean (sideOf row) := clean_fromDict _

theorem sideOf_set {runtime : JobRuntimeState} (clean : Clean runtime) :
    sideOf (row.set "runtime" (.obj runtime.toDict.entries)) = runtime := by
  unfold sideOf
  rw [Record.get_set_self, fromDict_toDict clean]

theorem sideOf_of_get {other : Record} (same : Record.get other "runtime" = Record.get row "runtime") :
    sideOf other = sideOf row := by
  unfold sideOf
  rw [same]

theorem sideOf_registerCommitFailure : sideOf (registerCommitFailure row) = (sideOf row).recordCommitFailure := by
  have clean := clean_sideOf row
  exact sideOf_set ⟨clean.commits, clean.dispatches, clean.lastError⟩

theorem sideOf_recordDispatchFailure : sideOf (recordDispatchFailure row) = (sideOf row).recordDispatchFailure := by
  have clean := clean_sideOf row
  exact sideOf_set ⟨clean.commits, clean.dispatches, clean.lastError⟩

/-- The framework's part after a retry: the error is noted if the retry counts. -/
def noted (side : JobRuntimeState) (retryError : Option Json) (isTransient : Bool) : JobRuntimeState :=
  match retryError with
  | some error =>
      if error.truthy ∧ ¬ isTransient then side.recordRetryError (JobRuntimeState.errorText error) else side
  | none => side

omit [Python] in
theorem one_le_counted (job : Job) : 1 ≤ job.attemptNo.val + 1 :=
  Nat.le_add_left 1 _

/-- The job as a retry writes it. -/
def counted (job : Job) (isTransient : Bool) : Job :=
  if isTransient then job else { job with attemptNo := ⟨job.attemptNo.val + 1, one_le_counted job⟩ }

theorem buildRetryJobSnapshot_eq (job : Job) (row : Record) (retryError : Option Json) (isTransient : Bool) :
    Runtime.buildRetryJobSnapshot job row retryError isTransient =
      ((row.update (counted job isTransient).toDict.entries).set "resources"
        (.obj (entriesOf (Record.get row "resources")))).set "runtime"
          (.obj (noted (sideOf row) retryError isTransient).toDict.entries) := by
  cases retryError <;> rfl

theorem noted_eq (side : JobRuntimeState) (retryError : Option Json) (isTransient : Bool) :
    ∃ error, noted side retryError isTransient = { side with lastRetryError := error } ∧
      (isTransient = true → error = side.lastRetryError) := by
  unfold noted
  split
  · split
    · rename_i counts
      exact ⟨_, rfl, fun transient => absurd transient counts.2⟩
    · exact ⟨side.lastRetryError, rfl, fun _ => rfl⟩
  · exact ⟨side.lastRetryError, rfl, fun _ => rfl⟩

/-- A retry changes nothing in the framework's part but the last error, and that only if it counts. -/
theorem sideOf_retry (job : Job) (row : Record) (retryError : Option Json) (isTransient : Bool) :
    sideOf (Runtime.buildRetryJobSnapshot job row retryError isTransient) =
      noted (sideOf row) retryError isTransient := by
  have clean := clean_sideOf row
  obtain ⟨error, same, -⟩ := noted_eq (sideOf row) retryError isTransient
  rw [buildRetryJobSnapshot_eq]
  apply sideOf_set
  rw [same]
  exact ⟨clean.commits, clean.dispatches, clean.lastError⟩

theorem sideOf_set_of_ne {key : String} (value : Json) (different : "runtime" ≠ key) :
    sideOf (row.set key value) = sideOf row := sideOf_of_get (Record.get_set_of_ne row value different)

end Side

section Fields

omit [Python] in
theorem get?_setDefault_of_ne (record : Record) {key other : String} (value : Json) (different : other ≠ key) :
    (setDefault record key value).get? other = record.get? other := by
  unfold setDefault
  split
  · exact Dict.get?_set_of_ne record value different
  · rfl

omit [Python] in
theorem get_setDefault_of_ne (record : Record) {key other : String} (value : Json) (different : other ≠ key) :
    Record.get (setDefault record key value) other = Record.get record other :=
  congrArg (·.getD .null) (get?_setDefault_of_ne record value different)

omit [Python] in
theorem get_setDefault_self (record : Record) (key : String) (value : Json) :
    Record.get (setDefault record key value) key =
      if Record.get record key = .null then value else Record.get record key := by
  unfold setDefault
  split
  · exact Record.get_set_self record key value
  · rfl

/-- The fields that a task fills in where a row leaves them open. -/
def openFields : List String := ["max_retries", "timeout_seconds", "timeout_is_transient", "trigger"]

/-- The fields that a job exports. -/
def jobFields : List String := ["task_type", "job_id", "payload", "resources", "max_retries", "depends_on",
  "timeout_seconds", "timeout_is_transient", "trigger", "runtime", "attempt_no", "activation_no",
  "first_enqueued_at"]

omit [Python] in
theorem get?_filled_of_ne {key : String} (other : key ≠ "resources") (closed : key ∉ openFields) (taskType : String) :
    (normalizeJobSnapshot config row taskType).get? key = row.get? key := by
  simp only [openFields, List.mem_cons, List.not_mem_nil, or_false, not_or] at closed
  obtain ⟨retries, timeout, transient, trigger⟩ := closed
  unfold normalizeJobSnapshot
  dsimp only
  rw [get?_setDefault_of_ne _ _ trigger, get?_setDefault_of_ne _ _ transient, get?_setDefault_of_ne _ _ timeout,
    get?_setDefault_of_ne _ _ retries, Dict.get?_set_of_ne _ _ other]

omit [Python] in
theorem get_filled_of_ne {key : String} (other : key ≠ "resources") (closed : key ∉ openFields) (taskType : String) :
    Record.get (normalizeJobSnapshot config row taskType) key = Record.get row key :=
  congrArg (·.getD .null) (get?_filled_of_ne other closed taskType)

omit [Python] in
/-- What a row says itself the task does not overrule. -/
theorem get_filled_of_open {key : String} (left : key ∈ openFields) (present : Record.get row key ≠ .null)
    (taskType : String) : Record.get (normalizeJobSnapshot config row taskType) key = Record.get row key := by
  simp only [openFields, List.mem_cons, List.not_mem_nil, or_false] at left
  unfold normalizeJobSnapshot
  dsimp only
  rcases left with rfl | rfl | rfl | rfl
  · rw [get_setDefault_of_ne _ _ (by decide), get_setDefault_of_ne _ _ (by decide),
      get_setDefault_of_ne _ _ (by decide), get_setDefault_self, Record.get_set_of_ne _ _ (by decide), if_neg present]
  · rw [get_setDefault_of_ne _ _ (by decide), get_setDefault_of_ne _ _ (by decide), get_setDefault_self,
      get_setDefault_of_ne _ _ (by decide), Record.get_set_of_ne _ _ (by decide), if_neg present]
  · rw [get_setDefault_of_ne _ _ (by decide), get_setDefault_self, get_setDefault_of_ne _ _ (by decide),
      get_setDefault_of_ne _ _ (by decide), Record.get_set_of_ne _ _ (by decide), if_neg present]
  · rw [get_setDefault_self, get_setDefault_of_ne _ _ (by decide), get_setDefault_of_ne _ _ (by decide),
      get_setDefault_of_ne _ _ (by decide), Record.get_set_of_ne _ _ (by decide), if_neg present]

theorem get?_retry {key : String} (other : key ≠ "resources") (outside : key ≠ "runtime")
    (retryError : Option Json) (isTransient : Bool) :
    (Runtime.buildRetryJobSnapshot job row retryError isTransient).get? key =
      ((counted job isTransient).toDict.get? key).or (row.get? key) := by
  rw [buildRetryJobSnapshot_eq, Dict.get?_set_of_ne _ _ outside, Dict.get?_set_of_ne _ _ other,
    Dict.get?_update _ (counted job isTransient).toDict.distinct]
  rfl

omit [Python] in
theorem get?_toDict_of_unknown {key : String} (unknown : key ∉ jobFields) (job : Job) :
    job.toDict.get? key = none := by
  simp only [jobFields, List.mem_cons, List.not_mem_nil, or_false, not_or] at unknown
  simp [Job.toDict, Dict.ofPairs, Dict.update, Dict.get?_set, unknown]

/-- A field that a retry writes over a row. -/
theorem get_retry {key : String} {value : Json} (other : key ≠ "resources") (outside : key ≠ "runtime")
    {isTransient : Bool} (written : (counted job isTransient).toDict.get? key = some value)
    (retryError : Option Json) :
    Record.get (Runtime.buildRetryJobSnapshot job row retryError isTransient) key = value := by
  unfold Record.get
  rw [get?_retry other outside, written]
  rfl

end Fields

section Budget

/-- The attempt that a row counts, the first one if it has no number. -/
def attemptNo (row : Record) : ℕ :=
  match (row.get? "attempt_no").getD (.int 1) with
  | .int n => n.toNat
  | _ => 0

/-- The retries that the task of a row allows. -/
def taskRetries (config : StoreConfig) (row : Record) : ℕ :=
  match Record.get row "task_type" with
  | .str taskType => ((config.tasks.get? taskType).map fun task => task.maxRetries).getD 3
  | _ => 0

/-- The retries that a row allows: its own number, or the larger of its task's and the default. -/
def allowance (config : StoreConfig) (row : Record) : ℕ :=
  match Record.get row "max_retries" with
  | .null => max 3 (taskRetries config row)
  | .int n => n.toNat
  | _ => 0

omit [Python] in
theorem attemptNo_congr {other : Record} (same : other.get? "attempt_no" = row.get? "attempt_no") :
    attemptNo other = attemptNo row := by
  unfold attemptNo
  rw [same]

theorem attemptNo_of_parsed (parsed : Job.fromDict row = .ok job) : attemptNo row = job.attemptNo.val := by
  unfold attemptNo
  rw [validateInteger_read (reads_of_fromDict parsed).attemptNo]
  rfl

/-- A job never allows more retries than its row. -/
theorem maxRetries_le (parsed : Job.fromDict row = .ok job) : job.maxRetries.getD 3 ≤ allowance config row := by
  obtain ⟨budget, budgeted, same⟩ := (reads_of_fromDict parsed).maxRetries
  have read := @optional_read _ _ (fun n : {n : ℕ // 0 ≤ n} => Json.int n.val) _ _ budgeted
    fun _ => validateInteger_read
  unfold allowance
  rw [read, ← same]
  cases budget with
  | none => exact le_max_left _ _
  | some n => exact le_rfl

omit [Python] in
theorem toDict_attemptNo (job : Job) : job.toDict.get? "attempt_no" = some (.int job.attemptNo.val) := by
  simp [Job.toDict, Dict.ofPairs, Dict.update, Dict.get?_set]

theorem attemptNo_retry (parsed : Job.fromDict row = .ok job) (retryError : Option Json) (isTransient : Bool) :
    attemptNo (Runtime.buildRetryJobSnapshot job row retryError isTransient) =
      attemptNo row + if isTransient then 0 else 1 := by
  have written : (Runtime.buildRetryJobSnapshot job row retryError isTransient).get? "attempt_no" = _ :=
    get?_retry (by decide) (by decide) retryError isTransient
  rw [toDict_attemptNo] at written
  rw [attemptNo_of_parsed parsed]
  unfold attemptNo
  rw [written]
  cases isTransient <;> rfl

omit [Python] in
/-- The fields by which a row allows retries are kept by what writes neither. -/
theorem allowance_congr {other : Record} (budget : Record.get other "max_retries" = Record.get row "max_retries")
    (taskType : Record.get other "task_type" = Record.get row "task_type") :
    allowance config other = allowance config row := by
  unfold allowance taskRetries
  rw [budget, taskType]

theorem allowance_filled (parsed : Job.fromDict row = .ok job) :
    allowance config (normalizeJobSnapshot config row job.taskType.val) ≤ allowance config row := by
  have typed := (reads_of_fromDict parsed).taskType
  have sameType : Record.get (normalizeJobSnapshot config row job.taskType.val) "task_type" =
      Record.get row "task_type" := get_filled_of_ne (by decide) (by decide) _
  by_cases stated : Record.get row "max_retries" = .null
  · have filled : Record.get (normalizeJobSnapshot config row job.taskType.val) "max_retries" =
        .int (((config.tasks.get? job.taskType.val).map fun task => task.maxRetries).getD 3 : ℕ) := by
      unfold normalizeJobSnapshot
      dsimp only
      rw [get_setDefault_of_ne _ _ (by decide), get_setDefault_of_ne _ _ (by decide),
        get_setDefault_of_ne _ _ (by decide), get_setDefault_self, Record.get_set_of_ne _ _ (by decide),
        if_pos stated]
      cases config.tasks.get? job.taskType.val <;> rfl
    have allowed : allowance config row = max 3 (taskRetries config row) := by
      unfold allowance
      rw [stated]
    rw [allowed]
    unfold allowance taskRetries
    rw [filled, typed]
    exact le_max_right _ _
  · exact (allowance_congr (get_filled_of_open (by decide) stated _) sameType).le

omit [Python] in
/-- A retry exports the fields of the job, its attempt apart. -/
theorem get_counted (job : Job) (isTransient : Bool) {key : String} (other : key ≠ "attempt_no") :
    (counted job isTransient).toDict.get? key = job.toDict.get? key := by
  cases isTransient with
  | true => rfl
  | false => simp [counted, Job.toDict, Dict.ofPairs, Dict.update, Dict.get?_set, other]

omit [Python] in
theorem get?_toDict_of_stated {key : String} (stated : key ∈ statedFields) (job : Job) :
    ∃ value, job.toDict.get? key = some value := by
  simp only [statedFields, List.mem_cons, List.not_mem_nil, or_false] at stated
  rcases stated with rfl | rfl | rfl | rfl | rfl | rfl | rfl <;>
    simp [Job.toDict, Dict.ofPairs, Dict.update, Dict.get?_set]

/-- A retry writes these fields as the row has them. -/
theorem get_retry_of_stated {key : String} (stated : key ∈ statedFields) (parsed : Job.fromDict row = .ok job)
    (retryError : Option Json) (isTransient : Bool) :
    Record.get (Runtime.buildRetryJobSnapshot job row retryError isTransient) key = Record.get row key := by
  have apart : key ≠ "resources" ∧ key ≠ "runtime" ∧ key ≠ "attempt_no" := by
    refine ⟨?_, ?_, ?_⟩ <;> rintro rfl <;> exact absurd stated (by decide)
  obtain ⟨value, written⟩ := get?_toDict_of_stated stated job
  rw [get_retry apart.1 apart.2.1 ((get_counted job isTransient apart.2.2).trans written),
    ← get_toDict_of_stated stated parsed]
  unfold Record.get
  rw [written]
  rfl

theorem allowance_retry (parsed : Job.fromDict row = .ok job) (retryError : Option Json) (isTransient : Bool) :
    allowance config (Runtime.buildRetryJobSnapshot job row retryError isTransient) = allowance config row :=
  allowance_congr (get_retry_of_stated (by decide) parsed retryError isTransient)
    (get_retry_of_stated (by decide) parsed retryError isTransient)

omit [Python] in
/-- Writing framework fields leaves the budget as it is. -/
theorem allowance_set {key : String} (framework : key = "runtime" ∨ key = "activation_no") (value : Json) :
    allowance config (row.set key value) = allowance config row := by
  rcases framework with rfl | rfl <;>
    exact allowance_congr (Record.get_set_of_ne _ _ (by decide)) (Record.get_set_of_ne _ _ (by decide))

omit [Python] in
theorem attemptNo_set {key : String} (framework : key = "runtime" ∨ key = "activation_no") (value : Json) :
    attemptNo (row.set key value) = attemptNo row := by
  rcases framework with rfl | rfl <;> exact attemptNo_congr (Dict.get?_set_of_ne _ _ (by decide))

end Budget

section Descent

variable {origin : Record} {tally : Tally}

/-- The counters of a row are the tallies of its history, and its last error is the first one's as long as
no retry counted. -/
theorem Descends.counters (descends : Descends config origin tally row) :
    attemptNo row = attemptNo origin + tally.retries ∧
      (sideOf row).commitFailures = (sideOf origin).commitFailures + tally.strikes ∧
      (sideOf row).dispatchFailures = (sideOf origin).dispatchFailures + tally.dispatchFailures ∧
      (tally.retries = 0 → (sideOf row).lastRetryError = (sideOf origin).lastRetryError) := by
  induction descends with
  | refl => simp
  | struck before ih =>
    obtain ⟨attempts, strikes, failures, error⟩ := ih
    rw [sideOf_registerCommitFailure]
    refine ⟨?_, ?_, failures, error⟩
    · exact (attemptNo_set (Or.inl rfl) _).trans attempts
    · show (sideOf _).commitFailures + 1 = _
      rw [strikes]
      dsimp only
      omega
  | undispatched before ih =>
    obtain ⟨attempts, strikes, failures, error⟩ := ih
    rw [sideOf_recordDispatchFailure]
    refine ⟨?_, strikes, ?_, error⟩
    · exact (attemptNo_set (Or.inl rfl) _).trans attempts
    · show (sideOf _).dispatchFailures + 1 = _
      rw [failures]
      dsimp only
      omega
  | filled before parsed ih =>
    obtain ⟨attempts, rest⟩ := ih
    rw [sideOf_of_get (get_filled_of_ne (by decide) (by decide) _)]
    exact ⟨(attemptNo_congr (get?_filled_of_ne (by decide) (by decide) _)).trans attempts, rest⟩
  | activated number before ih =>
    obtain ⟨attempts, rest⟩ := ih
    rw [sideOf_set_of_ne _ (by decide)]
    exact ⟨(attemptNo_set (Or.inr rfl) _).trans attempts, rest⟩
  | requeued retryError before parsed ih =>
    obtain ⟨attempts, strikes, failures, error⟩ := ih
    obtain ⟨last, same, kept⟩ := noted_eq (sideOf _) retryError true
    rw [sideOf_retry, same, attemptNo_retry parsed]
    exact ⟨attempts, strikes, failures, fun none => (kept rfl).trans (error none)⟩
  | retried retryError before parsed within ih =>
    obtain ⟨attempts, strikes, failures, error⟩ := ih
    obtain ⟨last, same, -⟩ := noted_eq (sideOf _) retryError false
    rw [sideOf_retry, same, attemptNo_retry parsed]
    refine ⟨?_, strikes, failures, fun none => absurd none (Nat.succ_ne_zero _)⟩
    show attemptNo _ + 1 = _
    rw [attempts, Nat.add_assoc]

/-- The allowance of a row never grows, and a row that was retried is within it. -/
theorem Descends.within (descends : Descends config origin tally row) :
    allowance config row ≤ allowance config origin ∧
      (0 < tally.retries → attemptNo row ≤ allowance config origin + 1) := by
  induction descends with
  | refl => exact ⟨le_rfl, fun impossible => absurd impossible (lt_irrefl 0)⟩
  | struck before ih =>
    unfold registerCommitFailure
    dsimp only
    rw [allowance_set (Or.inl rfl), attemptNo_set (Or.inl rfl)]
    exact ih
  | undispatched before ih =>
    unfold recordDispatchFailure
    rw [allowance_set (Or.inl rfl), attemptNo_set (Or.inl rfl)]
    exact ih
  | filled before parsed ih =>
    rw [attemptNo_congr (get?_filled_of_ne (by decide) (by decide) _)]
    exact ⟨(allowance_filled parsed).trans ih.1, ih.2⟩
  | activated number before ih =>
    rw [allowance_set (Or.inr rfl), attemptNo_set (Or.inr rfl)]
    exact ih
  | requeued retryError before parsed ih =>
    rw [allowance_retry parsed, attemptNo_retry parsed]
    exact ih
  | retried retryError before parsed within ih =>
    rw [allowance_retry parsed, attemptNo_retry parsed]
    refine ⟨ih.1, fun _ => ?_⟩
    have bound := within.trans ((maxRetries_le parsed).trans ih.1)
    rw [attemptNo_of_parsed parsed]
    exact Nat.succ_le_succ bound

end Descent

section Frame

/-- The payload that a row carries. -/
def payloadOf (row : Record) : Record :=
  match Record.get row "payload" with
  | .obj fields => Dict.ofPairs fields
  | _ => Dict.empty

/-- The dependencies that a row names. -/
def dependenciesOf (row : Record) : List Json :=
  match Record.get row "depends_on" with
  | .arr items => items
  | _ => []

/-- The amount of a resource that a row names itself. -/
def amountOf (row : Record) (name : String) : Option Json :=
  (Dict.ofPairs (entriesOf (Record.get row "resources"))).get? name

/-- What a row says about its job stays as it was: who it is, what it carries and waits for, what it says
itself about its task's settings, and everything that the engine does not know. -/
structure Frame (before after : Record) : Prop where
  fixed : ∀ key ∈ ["task_type", "job_id", "first_enqueued_at"], Record.get after key = Record.get before key
  chosen : ∀ key ∈ openFields, Record.get before key ≠ .null → Record.get after key = Record.get before key
  payload : payloadOf after = payloadOf before
  dependencies : dependenciesOf after = dependenciesOf before
  resources : ∀ name amount, amountOf before name = some amount → amountOf after name = some amount
  extra : (sideOf after).extra = (sideOf before).extra
  unknown : ∀ key ∉ jobFields, after.get? key = before.get? key

variable {before middle after : Record}

theorem Frame.refl (row : Record) : Frame row row :=
  ⟨fun _ _ => rfl, fun _ _ _ => rfl, rfl, rfl, fun _ _ => id, rfl, fun _ _ => rfl⟩

theorem Frame.trans (first : Frame before middle) (second : Frame middle after) : Frame before after where
  fixed := fun key listed => (second.fixed key listed).trans (first.fixed key listed)
  chosen := by
    intro key listed present
    have same := first.chosen key listed present
    exact (second.chosen key listed (same ▸ present)).trans same
  payload := second.payload.trans first.payload
  dependencies := second.dependencies.trans first.dependencies
  resources := fun name amount named => second.resources name amount (first.resources name amount named)
  extra := second.extra.trans first.extra
  unknown := fun key outside => (second.unknown key outside).trans (first.unknown key outside)

/-- A frame from what is the same at the top of two rows. -/
theorem frame_of_get {settled : List String} (same : ∀ key ∉ settled, after.get? key = before.get? key)
    (own : ∀ key ∈ settled, key ∈ jobFields)
    (fixed : ∀ key ∈ ["task_type", "job_id", "first_enqueued_at", "payload", "depends_on"], key ∉ settled)
    (chosen : ∀ key ∈ openFields, Record.get before key ≠ .null → Record.get after key = Record.get before key)
    (resources : ∀ name amount, amountOf before name = some amount → amountOf after name = some amount)
    (extra : (sideOf after).extra = (sideOf before).extra) : Frame before after := by
  have got : ∀ key ∉ settled, Record.get after key = Record.get before key :=
    fun key free => congrArg (·.getD .null) (same key free)
  refine ⟨?_, chosen, ?_, ?_, resources, extra, ?_⟩
  · intro key listed
    apply got key (fixed key _)
    simp only [List.mem_cons, List.not_mem_nil, or_false] at listed ⊢
    tauto
  · unfold payloadOf
    rw [got "payload" (fixed _ (by decide))]
  · unfold dependenciesOf
    rw [got "depends_on" (fixed _ (by decide))]
  · exact fun key outside => same key fun inside => outside (own key inside)

theorem frame_set {key : String} {value : Json} (framework : key = "runtime" ∨ key = "activation_no")
    (extra : (sideOf (row.set key value)).extra = (sideOf row).extra) : Frame row (row.set key value) := by
  have got : ∀ other ≠ key, Record.get (row.set key value) other = Record.get row other :=
    fun other different => Record.get_set_of_ne row value different
  have apart : ∀ other ∈ "resources" :: openFields, other ≠ key := by
    rcases framework with rfl | rfl <;> decide
  apply @frame_of_get _ row (row.set key value) [key] _ _ _ _ _ extra
  · intro other different
    exact Dict.get?_set_of_ne row value (List.ne_of_not_mem_cons different)
  · rcases framework with rfl | rfl <;> decide
  · rcases framework with rfl | rfl <;> decide
  · exact fun other listed _ => got other (apart other (List.mem_cons_of_mem _ listed))
  · intro name amount named
    unfold amountOf at named ⊢
    rw [got "resources" (apart _ List.mem_cons_self)]
    exact named

omit [Python] in
/-- Filling in adds the task's resources to those that the row names. -/
theorem amountOf_filled {taskType name : String} {amount : Json} (named : amountOf row name = some amount) :
    amountOf (normalizeJobSnapshot config row taskType) name = some amount := by
  have written : ∃ defaults : Record, Record.get (normalizeJobSnapshot config row taskType) "resources" =
      .obj (defaults.update (entriesOf (Record.get row "resources"))).entries := by
    refine ⟨Dict.ofPairs ((((config.tasks.get? taskType).map fun task => task.resources.entries).getD []).map
      fun entry => (entry.1, entry.2.toJson)), ?_⟩
    unfold normalizeJobSnapshot
    dsimp only
    rw [get_setDefault_of_ne _ _ (by decide), get_setDefault_of_ne _ _ (by decide),
      get_setDefault_of_ne _ _ (by decide), get_setDefault_of_ne _ _ (by decide), Record.get_set_self]
  obtain ⟨defaults, merged⟩ := written
  unfold amountOf at named ⊢
  rw [merged]
  show (Dict.ofPairs (defaults.update (entriesOf (Record.get row "resources"))).entries).get? name = _
  rw [Dict.ofPairs_entries, Dict.get?_update_pairs, named, Option.some_or]

theorem frame_filled (taskType : String) : Frame row (normalizeJobSnapshot config row taskType) := by
  apply @frame_of_get _ row _ ("resources" :: openFields)
  · intro key free
    exact get?_filled_of_ne (List.ne_of_not_mem_cons free) (List.not_mem_of_not_mem_cons free) taskType
  · decide
  · decide
  · exact fun key listed present => get_filled_of_open listed present taskType
  · exact fun name amount named => amountOf_filled named
  · rw [sideOf_of_get (get_filled_of_ne (by decide) (by decide) taskType)]

omit [Python] in
theorem dependencyUids_read {items : List Json} {uids : List String} (read : dependencyUids items = some uids) :
    items = uids.map Json.str := by
  induction items generalizing uids with
  | nil =>
    obtain rfl := Option.some.inj read
    rfl
  | cons item rest ih =>
    cases item with
    | str uid =>
      obtain ⟨others, found, rfl⟩ := Option.map_eq_some_iff.mp read
      rw [ih found, List.map_cons]
    | _ => cases read

/-- A retry exports the job over its own row, with the row's resources and its extra part. -/
theorem frame_retry (parsed : Job.fromDict row = .ok job) (retryError : Option Json) (isTransient : Bool) :
    Frame row (Runtime.buildRetryJobSnapshot job row retryError isTransient) := by
  have reads := reads_of_fromDict parsed
  constructor
  case fixed =>
    intro key listed
    apply get_retry_of_stated _ parsed
    simp only [List.mem_cons, List.not_mem_nil, or_false, statedFields] at listed ⊢
    tauto
  case chosen =>
    intro key listed _
    apply get_retry_of_stated _ parsed
    simp only [openFields, List.mem_cons, List.not_mem_nil, or_false, statedFields] at listed ⊢
    tauto
  case payload =>
    have written : job.toDict.get? "payload" = some (.obj job.payload.entries) := by
      simp [Job.toDict, Dict.ofPairs, Dict.update, Dict.get?_set]
    unfold payloadOf
    rw [get_retry (by decide) (by decide) ((get_counted job isTransient (by decide)).trans written)]
    have carried := reads.payload
    unfold normalizePayload at carried
    split at carried
    · rename_i found
      rw [found, ← Except.ok.inj carried]
      rfl
    · rename_i fields found
      rw [found, ← Except.ok.inj carried]
      exact Dict.ofPairs_entries _
    · cases carried
  case dependencies =>
    have written : job.toDict.get? "depends_on" = some (.arr (job.dependsOn.map Json.str)) := by
      simp [Job.toDict, Dict.ofPairs, Dict.update, Dict.get?_set]
    unfold dependenciesOf
    rw [get_retry (by decide) (by decide) ((get_counted job isTransient (by decide)).trans written)]
    have named := reads.dependsOn
    unfold normalizeDependsOn at named
    split at named
    · rename_i found
      rw [found, ← Except.ok.inj named]
      rfl
    · rename_i items found
      split at named
      · rename_i uids read
        rw [found, ← Except.ok.inj named]
        exact (dependencyUids_read read).symm
      · cases named
    · cases named
  case resources =>
    intro name amount named
    unfold amountOf at named ⊢
    rw [buildRetryJobSnapshot_eq, Record.get_set_of_ne _ _ (by decide), Record.get_set_self]
    exact named
  case extra =>
    obtain ⟨error, same, -⟩ := noted_eq (sideOf row) retryError isTransient
    rw [sideOf_retry, same]
  case unknown =>
    intro key outside
    have apart : key ≠ "resources" ∧ key ≠ "runtime" := by
      constructor <;> rintro rfl <;> exact outside (by decide)
    rw [get?_retry apart.1 apart.2, get?_toDict_of_unknown outside, Option.none_or]

theorem Descends.frame {origin : Record} {tally : Tally} (descends : Descends config origin tally row) :
    Frame origin row := by
  induction descends with
  | refl => exact Frame.refl origin
  | struck before ih =>
    refine ih.trans (frame_set (Or.inl rfl) ?_)
    show (sideOf (registerCommitFailure _)).extra = _
    rw [sideOf_registerCommitFailure]
    rfl
  | undispatched before ih =>
    refine ih.trans (frame_set (Or.inl rfl) ?_)
    show (sideOf (recordDispatchFailure _)).extra = _
    rw [sideOf_recordDispatchFailure]
    rfl
  | filled before parsed ih => exact ih.trans (frame_filled _)
  | activated number before ih =>
    exact ih.trans (frame_set (Or.inr rfl) (congrArg _ (sideOf_set_of_ne _ (by decide))))
  | requeued retryError before parsed ih => exact ih.trans (frame_retry parsed retryError true)
  | retried retryError before parsed within ih => exact ih.trans (frame_retry parsed retryError false)

end Frame

section Runs

/-- The rows that a run is given: those on disk at first and those that other processes enqueue. -/
def Given (backend : Memory) (window : Recovery.Window) (operations : List Operation) (row : Record) : Prop :=
  row ∈ backend.queue ∨ (∃ batch ∈ window.enqueued, row ∈ batch.1) ∨ ∃ operation ∈ operations, Brings row operation

variable (config) {backend : Memory} {now : Text} {window : Recovery.Window} {resources : ResourceManager}
variable {runId : Option String} {operations : List Operation}

theorem traced_of_copy (copy : Copy (history config backend now window resources runId operations) row) :
    Traced config (Given backend window operations) row := by
  have traced : ∀ row, Given backend window operations row → Traced config (Given backend window operations) row :=
    fun row given => ⟨row, {}, Or.inl given, .refl⟩
  apply Everywhere.copy _ copy
  apply everywhere_run (closed_traced config _)
  · exact fun row member => traced row (Or.inl member)
  · exact fun batch listed row member => traced row (Or.inr (Or.inl ⟨batch, listed, member⟩))
  · exact fun operation listed row brings => traced row (Or.inr (Or.inr ⟨operation, listed, brings⟩))

end Runs

end History

section Sample

local instance : Python := samplePython

/-- The first attempt of a job asks for a retry. -/
def retriedOnce : List Operation :=
  [.enqueue [namedRow] false, .crash {} sampleResources none, .pop 0 none, .track ⟨0, none, none⟩,
    .settleReaped [("t::a", { retryRequested := true, retryError := some (.str "later") }, {})]]

theorem retriedOnce_queue : ∃ row ∈ (history sampleConfig Memory.empty sampleNow {} sampleResources none
    retriedOnce).runtime.store.backend.queue, attemptNo row = 2 := by
  decide +kernel

end Sample

end Tasklite.Engine.Lineage
