import Tasklite.Engine.Lifecycle
import Tasklite.Engine.Scheduler
import Tasklite.Models.Identity

/-! The cache of job projections. Every entry is the projection of a job that has the entry's
key, so a hit whose dependencies and resources are those of the row at hand is as good as
parsing the row; the amounts of the resources may be numbers of another class. -/

namespace Tasklite.Engine.Caching
open Tasklite.Library Tasklite.Models Tasklite.Models.Identity JobScheduler

/-- The amounts as numbers, whatever their class. -/
abbrev amounts (entries : List (String × Number)) : List (String × ℚ) := Dict.mapEntries Number.value entries

/-- Equal facts, with the resources compared by name and amount. -/
structure Agree (left right : JobFacts) : Prop where
  uid : left.uid = right.uid
  taskType : left.taskType = right.taskType
  dependsOn : left.dependsOn = right.dependsOn
  resources : amounts left.resources = amounts right.resources

theorem agree_refl (facts : JobFacts) : Agree facts facts := ⟨rfl, rfl, rfl, rfl⟩

section Resources

variable [Python]

/-- What the validation of the resources makes of their amounts. -/
theorem amounts_of_traverse {place : String} {entries : List (String × Json)} {converted : List (String × Number)}
    (valid : Dict.traverseEntries (validateResourceAmount place) entries = .ok converted) :
    Dict.mapEntries comparedAmount entries = Dict.mapEntries (fun amount : Number => some amount.value) converted := by
  induction entries generalizing converted with
  | nil =>
    cases valid
    rfl
  | cons entry rest ih =>
    rcases entry with ⟨name, amount⟩
    unfold Dict.traverseEntries at valid
    split at valid
    · cases valid
    · rename_i number validated
      split at valid
      · cases valid
      · rename_i others heq
        cases valid
        have compared : comparedAmount amount = some number.value := by
          unfold validateResourceAmount at validated
          split_ifs at validated
          cases amount with
          | int n =>
            simp only [Number.ofJson] at validated
            split_ifs at validated
            cases validated
            rfl
          | float q =>
            simp only [Number.ofJson] at validated
            split_ifs at validated
            cases validated
            rfl
          | null | bool _ | str _ | arr _ | obj _ => simp [Number.ofJson] at validated
        have later := ih heq
        simp only [Dict.mapEntries, List.map_cons, compared] at later ⊢
        rw [later]

/-- The table that a row with valid resources is compared by. -/
theorem asAmounts_of_normalize {raw : Json} {resources : Option (Dict String Number)}
    (valid : normalizeResources raw = .ok resources) : ∃ table, asAmounts raw = some table ∧
      Dict.mapEntries comparedAmount table.entries =
        Dict.mapEntries (fun amount : Number => some amount.value) (resources.getD Dict.empty).entries := by
  cases raw with
  | null =>
    cases valid
    exact ⟨Dict.empty, rfl, rfl⟩
  | obj fields =>
    refine ⟨Dict.ofPairs fields, rfl, ?_⟩
    simp only [normalizeResources, validateResourceAmounts] at valid
    unfold Dict.traverse at valid
    split at valid
    · cases valid
    · rename_i converted done
      cases valid
      exact amounts_of_traverse done
  | bool _ | int _ | float _ | str _ | arr _ => cases valid

omit [Python] in
/-- Sorting by name depends on the amounts only. -/
theorem amounts_sorted {left right : List (String × Number)} (distinct : (left.map Prod.fst).Nodup)
    (perm : (amounts left).Perm (amounts right)) :
    amounts (left.insertionSort fun first second => first.1 ≤ second.1) =
      amounts (right.insertionSort fun first second => first.1 ≤ second.1) := by
  have total : Std.Total fun first second : String × Number => first.1 ≤ second.1 :=
    ⟨fun first second => String.le_total first.1 second.1⟩
  have trans : IsTrans (String × Number) fun first second => first.1 ≤ second.1 :=
    ⟨fun _ _ _ first second => String.le_trans first second⟩
  have sorted : ∀ entries : List (String × Number),
      (amounts (entries.insertionSort fun first second => first.1 ≤ second.1)).Pairwise
        fun first second => first.1 ≤ second.1 := by
    intro entries
    rw [amounts, Dict.mapEntries, List.pairwise_map]
    exact List.pairwise_insertionSort _ entries
  have same : ∀ entries : List (String × Number),
      (amounts (entries.insertionSort fun first second => first.1 ≤ second.1)).Perm (amounts entries) :=
    fun entries => (List.perm_insertionSort _ entries).map _
  have whole := (same left).trans (perm.trans (same right).symm)
  refine whole.eq_of_pairwise ?_ (sorted left) (sorted right)
  intro first second inLeft inRight lower upper
  have keys : ((amounts left).map Prod.fst).Nodup := by
    rw [amounts, Dict.keys_mapEntries]
    exact distinct
  exact List.inj_on_of_nodup_map keys ((same left).subset inLeft)
    ((same left).subset (whole.symm.subset inRight)) (String.le_antisymm lower upper)

omit [Python] in
theorem dependencyUids_eq {items : List Json} {uids : List String} (valid : dependencyUids items = some uids) :
    items = uids.map Json.str := by
  induction items generalizing uids with
  | nil =>
    cases valid
    rfl
  | cons item rest ih =>
    cases item with
    | str uid =>
      obtain ⟨others, found, rfl⟩ := Option.map_eq_some_iff.mp valid
      rw [List.map_cons, ← ih found]
    | null | bool _ | int _ | float _ | arr _ | obj _ => cases valid

theorem asItems_of_normalize {raw : Json} {dependsOn : List String}
    (valid : normalizeDependsOn raw = .ok dependsOn) : asItems raw = some (dependsOn.map Json.str) := by
  cases raw with
  | null =>
    cases valid
    rfl
  | arr items =>
    simp only [normalizeDependsOn] at valid
    split at valid
    · rename_i uids found
      cases valid
      rw [asItems, dependencyUids_eq found]
    · cases valid
  | bool _ | int _ | float _ | str _ | obj _ => cases valid

/-- A projection of a job of the same key that passes the comparison with a row that parses. -/
theorem agree_of_match {row : Record} {job other : Job} (parsed : Job.fromDict row = .ok job)
    (taskType : other.taskType = job.taskType) (jobId : other.jobId = job.jobId)
    (hit : schedFieldsMatch (JobFacts.ofJob other) row = true) :
    Agree (JobFacts.ofJob other) (JobFacts.ofJob job) := by
  obtain ⟨validResources, validDepends⟩ := fromDict_fields parsed
  obtain ⟨table, read, compared⟩ := asAmounts_of_normalize validResources
  unfold schedFieldsMatch at hit
  rw [read, asItems_of_normalize validDepends] at hit
  simp only [decide_eq_true_eq] at hit
  obtain ⟨depends, size, each⟩ := hit
  refine ⟨?_, congrArg Subtype.val taskType, ?_, ?_⟩
  · simp only [JobFacts.ofJob, Job.uid, taskType, jobId]
  · exact (List.map_injective_iff.mpr (fun _ _ same => Json.str.inj same) depends).symm
  · set own := other.resources.getD Dict.empty with ownDef
    set fresh := job.resources.getD Dict.empty with freshDef
    have lengths : (amounts own.entries).length = (amounts fresh.entries).length := by
      have sizes := congrArg List.length compared
      simp only [Dict.mapEntries, List.length_map] at sizes ⊢
      rw [← sizes, size]
      simp [JobFacts.ofJob, List.length_insertionSort, ownDef]
    have inside : amounts own.entries ⊆ amounts fresh.entries := by
      intro pair member
      obtain ⟨entry, listed, rfl⟩ := List.mem_map.mp member
      have sorted : entry ∈ (JobFacts.ofJob other).resources := (List.mem_insertionSort _).mpr listed
      obtain ⟨raw, found, value⟩ := Option.bind_eq_some_iff.mp (each entry sorted)
      have present : (entry.1, some entry.2.value) ∈ Dict.mapEntries comparedAmount table.entries :=
        List.mem_map.mpr ⟨(entry.1, raw), Dict.mem_entries.mpr found, by rw [value]⟩
      rw [compared] at present
      obtain ⟨amount, stored, same⟩ := List.mem_map.mp present
      obtain ⟨name, number⟩ := Prod.mk.inj same
      exact List.mem_map.mpr ⟨amount, stored, by rw [name, Option.some.inj number]⟩
    have distinct : (amounts own.entries).Nodup := by
      apply List.Nodup.of_map Prod.fst
      rw [amounts, Dict.keys_mapEntries]
      exact own.distinct
    exact amounts_sorted own.distinct
      ((List.subperm_of_subset distinct inside).perm_of_length_le lengths.ge)

end Resources

section Cache

variable [Python]

/-- Every entry is the projection of a job with the entry's key. -/
def Truthful (cache : JobCache) : Prop :=
  ∀ taskType jobId facts, cache.get? (taskType, jobId) = some facts →
    ∃ job : Job, job.taskType.val = taskType ∧ job.jobId.val = jobId ∧ facts = JobFacts.ofJob job

omit [Python] in
theorem truthful_empty : Truthful Dict.empty := by
  intro taskType jobId facts found
  cases found

theorem truthful_cachedJob {cache : JobCache} (truthful : Truthful cache) (snapshot : Record) :
    Truthful (cachedJob cache snapshot).1 := by
  unfold cachedJob
  split
  · rename_i taskType jobId typed named
    split
    · exact truthful
    · split
      · exact truthful
      · rename_i facts parsed
        obtain ⟨job, read, rfl⟩ := JobFacts.fromJobSnapshot_eq parsed
        obtain ⟨type, id⟩ := fromDict_ok read
        intro otherType otherId found stored
        rw [Dict.get?_set] at stored
        split at stored
        · rename_i same
          obtain ⟨rfl, rfl⟩ := Prod.mk.inj same
          rw [typed] at type
          rw [named] at id
          exact ⟨job, (Json.str.inj type).symm, (Json.str.inj id).symm, (Option.some.inj stored).symm⟩
        · split at stored
          · cases stored
          · exact truthful otherType otherId found stored
  · exact truthful

/-- On a row that parses, the cache says what the parser says. -/
theorem cachedJob_agrees {cache : JobCache} (truthful : Truthful cache) {snapshot : Record} {fresh : JobFacts}
    (parsed : JobFacts.fromJobSnapshot snapshot = .ok fresh) :
    ∃ facts, (cachedJob cache snapshot).2 = .ok facts ∧ Agree facts fresh := by
  unfold cachedJob
  split
  · rename_i taskType jobId typed named
    split
    · rename_i facts hit
      obtain ⟨stored, matching⟩ := Option.filter_eq_some_iff.mp hit
      obtain ⟨other, type, id, rfl⟩ := truthful taskType jobId facts stored
      obtain ⟨job, read, rfl⟩ := JobFacts.fromJobSnapshot_eq parsed
      obtain ⟨ownType, ownId⟩ := fromDict_ok read
      rw [typed] at ownType
      rw [named] at ownId
      refine ⟨_, rfl, agree_of_match read (Subtype.ext ?_) (Subtype.ext ?_) matching⟩
      · rw [type, Json.str.inj ownType]
      · rw [id, Json.str.inj ownId]
    · rw [parsed]
      exact ⟨fresh, rfl, agree_refl fresh⟩
  · exact ⟨fresh, parsed, agree_refl fresh⟩

end Cache

section Evaluation

variable {manager : ResourceManager} {now : ℚ} {left right : List (String × Number)}

theorem canAcquire_congr {first second : Number} (same : first.value = second.value) (resource : Resource) :
    resource.canAcquire now first = resource.canAcquire now second := by
  cases resource with
  | rateLimit limit => rfl
  | capacity capacity => simp only [Resource.canAcquire, CapacityResource.canAcquire, same]

theorem evaluateEntries_congr (same : amounts left = amounts right) (wait : WithTop ℚ) :
    manager.evaluateEntries now left wait = manager.evaluateEntries now right wait := by
  induction left generalizing right wait with
  | nil =>
    have none : right = [] := List.map_eq_nil_iff.mp same.symm
    rw [none]
  | cons entry rest ih =>
    cases right with
    | nil => cases same
    | cons other more =>
      rcases entry with ⟨name, amount⟩
      rcases other with ⟨otherName, otherAmount⟩
      obtain ⟨first, later⟩ := List.cons.inj same
      obtain ⟨rfl, value⟩ := Prod.mk.inj first
      unfold ResourceManager.evaluateEntries
      cases registered : manager.resources.get? name with
      | none => rfl
      | some resource =>
        simp only [canAcquire_congr value resource]
        rcases resource.canAcquire now otherAmount with ⟨_ | _, delay⟩
        · simp only [ih later]
        · exact ih later wait

theorem evaluate_congr (same : amounts left = amounts right) (taskType : String) :
    manager.evaluate now taskType (some left) = manager.evaluate now taskType (some right) := by
  have base : amounts (Dict.ofPairs left).entries = amounts (Dict.ofPairs right).entries :=
    Dict.mapEntries_update Number.value rfl same
  apply evaluateEntries_congr
  unfold ResourceManager.effectiveResources
  cases manager.tasks.get? taskType with
  | none => exact base
  | some task =>
    by_cases none : task.resources.entries.isEmpty = true
    · simp only [none, if_true]
      exact base
    · simp only [none]
      exact Dict.mapEntries_update Number.value rfl base

end Evaluation

section Scan

variable [Python] {scheduler : JobScheduler} {state : PipelineState} {inFlight : Finset String} {clock : ℕ → ℚ}

theorem judge_congr {facts fresh : JobFacts} (agree : Agree facts fresh) (now : ℚ) (snapshot : Record) :
    scheduler.judge state inFlight now snapshot (.ok facts) =
      scheduler.judge state inFlight now snapshot (.ok fresh) := by
  have evaluated : ∀ cleared, scheduler.evaluated now facts cleared = scheduler.evaluated now fresh cleared := by
    intro cleared
    simp only [JobScheduler.evaluated, agree.uid, agree.taskType, evaluate_congr agree.resources]
  have barrier : scheduler.barrierOf state inFlight facts = scheduler.barrierOf state inFlight fresh := by
    simp only [barrierOf, agree.dependsOn]
  simp only [judge, barrier, evaluated, agree.taskType, agree.uid]

/-- A row that does not parse has a key under which nothing is cached, now or from the rows. -/
def Unshadowed (cache : JobCache) (rows : List Record) : Prop :=
  ∀ row ∈ rows, (Job.fromDict row).isOk = false → ∀ taskType jobId,
    Record.get row "task_type" = .str taskType → Record.get row "job_id" = .str jobId →
    cache.get? (taskType, jobId) = none ∧ ∀ other ∈ rows, (Job.fromDict other).isOk = true →
      ¬ (Record.get other "task_type" = .str taskType ∧ Record.get other "job_id" = .str jobId)

theorem unshadowed_cachedJob {cache : JobCache} {rows : List Record} (unshadowed : Unshadowed cache rows)
    {snapshot : Record} (member : snapshot ∈ rows) : Unshadowed (cachedJob cache snapshot).1 rows := by
  unfold cachedJob
  split
  · rename_i ownType ownId typed named
    split
    · exact unshadowed
    · split
      · exact unshadowed
      · rename_i facts parsed
        obtain ⟨job, read, -⟩ := JobFacts.fromJobSnapshot_eq parsed
        intro row listed bad taskType jobId type id
        obtain ⟨absent, apart⟩ := unshadowed row listed bad taskType jobId type id
        refine ⟨?_, apart⟩
        rw [Dict.get?_set, if_neg]
        · split
          · rfl
          · exact absent
        · intro same
          obtain ⟨rfl, rfl⟩ := Prod.mk.inj same
          exact apart snapshot member (by rw [read]; rfl) ⟨typed, named⟩
  · exact unshadowed

/-- The verdict on a row is the same, whether the row is read through the cache or parsed. -/
theorem judge_cachedJob {cache : JobCache} {rows : List Record} (truthful : Truthful cache)
    (unshadowed : Unshadowed cache rows) {snapshot : Record} (member : snapshot ∈ rows) (now : ℚ) :
    scheduler.judge state inFlight now snapshot (cachedJob cache snapshot).2 =
      scheduler.judge state inFlight now snapshot (JobFacts.fromJobSnapshot snapshot) := by
  cases parsed : JobFacts.fromJobSnapshot snapshot with
  | ok fresh =>
    obtain ⟨facts, answered, agree⟩ := cachedJob_agrees truthful parsed
    rw [answered, judge_congr agree]
  | error refusal =>
    have bad : (Job.fromDict snapshot).isOk = false := by
      unfold JobFacts.fromJobSnapshot at parsed
      cases read : Job.fromDict snapshot with
      | error _ => rfl
      | ok job => simp [read, Except.map] at parsed
    have answered : (cachedJob cache snapshot).2 = .error refusal := by
      unfold cachedJob
      split
      · rename_i taskType jobId typed named
        rw [(unshadowed snapshot member bad taskType jobId typed named).1, Option.filter_none]
        simp only [parsed]
      · exact parsed
    rw [answered]

/-- The loop over the queue without a cache. -/
def scanRowsUncached (scheduler : JobScheduler) (state : PipelineState) (inFlight : Finset String) (clock : ℕ → ℚ) :
    List (Fin state.queue.length) → Tally → Tally × Option ℕ
  | [], tally => (tally, none)
  | idx :: rest, tally =>
      let snapshot := state.queue.get idx
      let verdict := scheduler.judge state inFlight (clock idx) snapshot (JobFacts.fromJobSnapshot snapshot)
      let tally := tally.record idx verdict
      if verdict = .runnable then (tally, some idx)
      else scanRowsUncached scheduler state inFlight clock rest tally

/-- What a scan makes of the sum over the rows that it has passed. -/
def concluded (state : PipelineState) (tally : Tally) (found : Option ℕ) : ScheduleResult :=
  let failedIdx := tally.pendingDepFailure.map Prod.snd
  let runnableIdx := found.or failedIdx
  let pendingDepFailure :=
    if runnableIdx = failedIdx then tally.pendingDepFailure.map Prod.fst else none
  { runnableIdx, pendingDepFailure, facts := Tally.facts tally
    kind := match runnableIdx, pendingDepFailure with
      | some _, some _ => .depFailed
      | some _, none => .runnable
      | none, _ => .none
    candidateUid := (runnableIdx.bind fun idx => state.queue[idx]?).map jobUidFromSnapshot }

/-- A scan that parses every row. -/
def scanUncached (scheduler : JobScheduler) (state : PipelineState) (inFlight : Finset String) (clock : ℕ → ℚ) :
    ScheduleResult :=
  let (tally, found) := scanRowsUncached scheduler state inFlight clock (scheduler.orderingPolicy state.queue) {}
  concluded state tally found

theorem truthful_scanRows {cache : JobCache} (truthful : Truthful cache) (order : List (Fin state.queue.length))
    (tally : Tally) : Truthful (scheduler.scanRows state inFlight clock order cache tally).1 := by
  induction order generalizing cache tally with
  | nil => exact truthful
  | cons idx rest ih =>
    have next := truthful_cachedJob truthful (state.queue.get idx)
    simp only [scanRows]
    split
    · exact next
    · exact ih next _

/-- A scan through a cache, where every cache that is met on the way leaves the verdicts as they are. -/
theorem scanRows_uncached (sound : JobCache → Prop) {order : List (Fin state.queue.length)}
    (kept : ∀ idx ∈ order, ∀ cache, sound cache → sound (cachedJob cache (state.queue.get idx)).1)
    (judged : ∀ idx ∈ order, ∀ cache, sound cache →
      scheduler.judge state inFlight (clock idx) (state.queue.get idx) (cachedJob cache (state.queue.get idx)).2 =
        scheduler.judge state inFlight (clock idx) (state.queue.get idx)
          (JobFacts.fromJobSnapshot (state.queue.get idx)))
    {cache : JobCache} (starts : sound cache) (tally : Tally) :
    (scheduler.scanRows state inFlight clock order cache tally).2 =
      scanRowsUncached scheduler state inFlight clock order tally := by
  induction order generalizing cache tally with
  | nil => rfl
  | cons idx rest ih =>
    rw [List.forall_mem_cons] at kept judged
    simp only [scanRows, scanRowsUncached, judged.1 cache starts]
    split
    · rfl
    · exact ih kept.2 judged.2 (kept.1 cache starts) _

/-- The rows that a scan visits. -/
def visitedRows (scheduler : JobScheduler) (state : PipelineState) : List Record :=
  (scheduler.orderingPolicy state.queue).map state.queue.get

theorem scanNextRunnable_uncached (truthful : Truthful scheduler.jobCache)
    (unshadowed : Unshadowed scheduler.jobCache (visitedRows scheduler state)) :
    (scheduler.scanNextRunnable state inFlight clock).2 = scanUncached scheduler state inFlight clock := by
  have same := @scanRows_uncached _ scheduler state inFlight clock
    (fun cache => Truthful cache ∧ Unshadowed cache (visitedRows scheduler state)) (scheduler.orderingPolicy state.queue)
    (fun idx member cache sound => ⟨truthful_cachedJob sound.1 _,
      unshadowed_cachedJob sound.2 (List.mem_map_of_mem member)⟩)
    (fun idx member cache sound => judge_cachedJob sound.1 sound.2 (List.mem_map_of_mem member) _)
    _ ⟨truthful, unshadowed⟩ {}
  unfold scanUncached
  rw [← same]
  rfl

end Scan

section History

variable [Python]

/-- What is done to a scheduler's cache. -/
inductive CacheCall where
  | beginRound
  | cachedJob (snapshot : Record)
  | scan (state : PipelineState) (inFlight : Finset String) (clock : ℕ → ℚ)

def afterCall (scheduler : JobScheduler) : CacheCall → JobScheduler
  | .beginRound => scheduler.beginRound
  | .cachedJob snapshot => { scheduler with jobCache := (Engine.cachedJob scheduler.jobCache snapshot).1 }
  | .scan state inFlight clock => (scheduler.scanNextRunnable state inFlight clock).1

theorem truthful_afterCall {scheduler : JobScheduler} (truthful : Truthful scheduler.jobCache) (call : CacheCall) :
    Truthful (afterCall scheduler call).jobCache := by
  cases call with
  | beginRound => exact truthful_empty
  | cachedJob snapshot => exact truthful_cachedJob truthful snapshot
  | scan state inFlight clock => exact truthful_scanRows truthful _ _

theorem truthful_afterCalls {scheduler : JobScheduler} (truthful : Truthful scheduler.jobCache)
    (calls : List CacheCall) : Truthful (calls.foldl afterCall scheduler).jobCache := by
  induction calls generalizing scheduler with
  | nil => exact truthful
  | cons call rest ih => exact ih (truthful_afterCall truthful call)

/-- Whatever has been done to the cache: a row that parses gets the facts that parsing it gives, and a scan has
the result that it has without a cache. -/
theorem cache_transparent (scheduler : JobScheduler) (calls : List CacheCall) :
    let reached := calls.foldl afterCall scheduler.beginRound
    (∀ snapshot fresh, JobFacts.fromJobSnapshot snapshot = .ok fresh →
      ∃ facts, (cachedJob reached.jobCache snapshot).2 = .ok facts ∧ Agree facts fresh) ∧
      ∀ state inFlight clock, Unshadowed reached.jobCache (visitedRows reached state) →
        (reached.scanNextRunnable state inFlight clock).2 = scanUncached reached state inFlight clock := by
  intro reached
  have truthful : Truthful reached.jobCache := truthful_afterCalls truthful_empty calls
  exact ⟨fun snapshot fresh parsed => cachedJob_agrees truthful parsed,
    fun state inFlight clock unshadowed => scanNextRunnable_uncached truthful unshadowed⟩

/-- Rows that all parse are not shadowed. -/
theorem unshadowed_of_parses {cache : JobCache} {rows : List Record}
    (parses : ∀ row ∈ rows, (Job.fromDict row).isOk = true) : Unshadowed cache rows := by
  intro row member bad
  rw [parses row member] at bad
  cases bad

end History

section Sample

local instance : Python := Lifecycle.samplePython

/-- A job that asks for one unit of a resource. -/
def askingRow (amount : Json) : Record := Dict.ofPairs
  [("task_type", .str "t"), ("job_id", .str "a"), ("resources", .obj [("api", amount)])]

def emptyScheduler : JobScheduler where
  resources := Lifecycle.sampleResources
  orderingPolicy := fifoOrderingPolicy
  selection := ⟨[]⟩
  jobCache := Dict.empty

/-- An amount of another class is a hit. -/
theorem cache_transparent_class :
    let reached := [CacheCall.cachedJob (askingRow (.int 1))].foldl afterCall emptyScheduler.beginRound
    let fresh : JobFacts := ⟨"t::a", "t", [("api", .float 1)], []⟩
    JobFacts.fromJobSnapshot (askingRow (.float 1)) = .ok fresh ∧
      ∃ facts, (cachedJob reached.jobCache (askingRow (.float 1))).2 = .ok facts ∧ Agree facts fresh := by
  intro reached fresh
  have parsed : JobFacts.fromJobSnapshot (askingRow (.float 1)) = .ok fresh := by decide +kernel
  exact ⟨parsed, (cache_transparent emptyScheduler [.cachedJob (askingRow (.int 1))]).1 _ _ parsed⟩

end Sample

end Tasklite.Engine.Caching
