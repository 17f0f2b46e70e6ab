import Tasklite.Engine.Trusted

/-! How often a job has succeeded. The count is carried on from the archived success, or else from the archived
failure; a failure that the engine archives has no count, so that the next success counts from the start. -/

namespace Tasklite.Engine.Counting
open Tasklite.Library Tasklite.Models Tasklite.Utils
open Tasklite.Engine.Baseline Tasklite.Engine.Tracing

/-- An engine, how often one job has succeeded, and whether it has failed since its first success. -/
structure Score where
  watched : Watched
  succeeded : ℕ
  interrupted : Bool

abbrev Score.store (score : Score) : StateStore := score.watched.store

/-- Count a success of the job, or note its failure. -/
def Score.hear (score : Score) (after : Watched) : Option Bool → Score
  | some true => ⟨after, score.succeeded + 1, score.interrupted⟩
  | some false => ⟨after, score.succeeded, score.interrupted || decide (0 < score.succeeded)⟩
  | none => ⟨after, score.succeeded, score.interrupted⟩

section Run

variable [Python] (config : StoreConfig) (uid : String)

def step (score : Score) (operation : Operation) : Score :=
  let after := Baseline.step config score.watched operation
  score.hear after (heard uid (after.store.events.drop score.store.events.length))

omit [Python] in
/-- The failures of the job are archived without a count, as the engine's own metadata have none; and nothing is
cleared or seeded. -/
def Plain (score : Score) (operation : Operation) : Prop :=
  (∀ metadata ∈ score.store.state.failed.get? uid, metadata.get? "success_count" = none) ∧
  match operation with
  | .engine _ | .console (.retryFailure _) => True
  | .console _ => False

/-- A success that is committed is archived with the number of all successes of the job so far. -/
def Counts (score : Score) (operation : Operation) : Prop :=
  let after := step config uid score operation
  Succeeds uid score.store after.store → ∃ metadata, after.store.state.successes.get? uid = some metadata ∧
    after.store.backend.successes.get? uid = some metadata ∧
    Record.get metadata "success_count" = .int after.succeeded

/-- A success is only committed if no failure has been committed since the first one. -/
def Uninterrupted (score : Score) (operation : Operation) : Prop :=
  Succeeds uid score.store (step config uid score operation).store → score.interrupted = false

variable {config uid} {score : Score} {origin : Dict Int AttemptRecord}

/-- The archived count is the number of successes, or less once the job has failed between them. -/
structure Counted (uid : String) (score : Score) : Prop where
  archived : ∀ metadata ∈ score.store.state.successes.get? uid, ∃ count : ℕ,
    Record.get metadata "success_count" = .int count ∧ count ≤ score.succeeded ∧
      (count = score.succeeded ↔ score.interrupted = false)
  absent : score.store.state.successes.get? uid = none → score.succeeded = 0 ∨ score.interrupted = true
  later : score.interrupted = true → 0 < score.succeeded

theorem step_watched (score : Score) (operation : Operation) :
    (step config uid score operation).watched = Baseline.step config score.watched operation := by
  unfold step Score.hear
  dsimp only
  split <;> rfl

/-- A step whose events say something about the job. -/
theorem step_of_news {operation : Operation} {news : List Event} {answer : Option Bool}
    (grown : (Baseline.step config score.watched operation).store.events = score.store.events ++ news)
    (hears : heard uid news = answer) :
    step config uid score operation = score.hear (Baseline.step config score.watched operation) answer ∧
      (Succeeds uid score.store (step config uid score operation).store ↔ answer = some true) := by
  constructor
  · unfold step
    dsimp only
    rw [grown, List.drop_left, hears]
  · unfold Succeeds
    rw [show (step config uid score operation).store = (step config uid score operation).watched.store from rfl,
      step_watched, grown, List.drop_left, hears]

/-- What a step of a run without clearing and seeding does about the archive of the job. -/
theorem change_plain (kept : Kept origin score.watched) {operation : Operation} (plain : Plain uid score operation) :
    Change uid score.watched.engine.runtime.runId score.store (Baseline.step config score.watched operation).store := by
  cases operation with
  | engine operation => exact change_step kept.guarded kept.leads (kept.fits uid) operation
  | console command =>
    cases command with
    | retryFailure jobUid => exact .alike (alike_retryFailure score.store jobUid).1
    | clearFailures | clearHistory | seedSuccesses => exact plain.2.elim

/-- The count that a success is counted on from: that of the archived success, or none. -/
theorem priorCount_eq (counted : Counted uid score) {operation : Operation} (plain : Plain uid score operation) :
    ∃ count : ℕ, priorCount score.store.state uid = count ∧ count ≤ score.succeeded ∧
      (count = score.succeeded ↔ score.interrupted = false) := by
  unfold priorCount
  cases found : score.store.state.successes.get? uid with
  | some metadata =>
    obtain ⟨count, is, bound, exact_when⟩ := counted.archived metadata found
    have filled : metadata.entries.isEmpty = false := by
      by_contra empty
      rw [Bool.not_eq_false, List.isEmpty_iff] at empty
      simp [Record.get, Dict.get?, empty, Dict.find] at is
    refine ⟨count, ?_, bound, exact_when⟩
    simp [filled, is, JobRuntimeState.counter]
  | none =>
    refine ⟨0, ?_, Nat.zero_le _, ?_⟩
    · cases failed : score.store.state.failed.get? uid with
      | none => simp
      | some metadata =>
        have uncounted := plain.1 metadata failed
        simp [Record.get, uncounted, JobRuntimeState.counter]
    · rcases counted.absent found with none | interrupted
      · rw [none, eq_self, true_iff]
        by_contra interrupted
        have some := counted.later (Bool.eq_true_of_not_eq_false interrupted)
        omega
      · have some := counted.later interrupted
        simp [interrupted]
        omega

/-- A step without a commit about the job. -/
theorem counted_quiet (counted : Counted uid score) {operation : Operation}
    (kept : (Baseline.step config score.watched operation).store.state.successes.get? uid =
      score.store.state.successes.get? uid)
    (quiet : ∃ news, (Baseline.step config score.watched operation).store.events = score.store.events ++ news ∧
      heard uid news = none) :
    Counted uid (step config uid score operation) ∧ Counts config uid score operation ∧
      Uninterrupted config uid score operation := by
  obtain ⟨news, grown, nothing⟩ := quiet
  have stays : step config uid score operation =
      ⟨Baseline.step config score.watched operation, score.succeeded, score.interrupted⟩ :=
    (step_of_news grown nothing).1
  have fails : ¬ Succeeds uid score.store (step config uid score operation).store := by
    rw [(step_of_news grown nothing).2]
    exact nofun
  refine ⟨?_, fun succeeds => absurd succeeds fails, fun succeeds => absurd succeeds fails⟩
  rw [stays]
  refine ⟨?_, ?_, counted.later⟩
  · show ∀ metadata ∈ (Baseline.step config score.watched operation).store.state.successes.get? uid, _
    rw [kept]
    exact counted.archived
  · show (Baseline.step config score.watched operation).store.state.successes.get? uid = none → _
    rw [kept]
    exact counted.absent

/-- The commit of a failure of the job. -/
theorem counted_lost (counted : Counted uid score) {operation : Operation}
    (lost : Lost uid score.store (Baseline.step config score.watched operation).store) :
    Counted uid (step config uid score operation) ∧ Counts config uid score operation ∧
      Uninterrupted config uid score operation := by
  obtain ⟨news, grown, spoilt⟩ := lost.news
  have breaks : step config uid score operation = ⟨Baseline.step config score.watched operation, score.succeeded,
      score.interrupted || decide (0 < score.succeeded)⟩ := (step_of_news grown spoilt).1
  have fails : ¬ Succeeds uid score.store (step config uid score operation).store := by
    rw [(step_of_news grown spoilt).2]
    simp
  refine ⟨?_, fun succeeds => absurd succeeds fails, fun succeeds => absurd succeeds fails⟩
  rw [breaks]
  refine ⟨?_, ?_, ?_⟩
  · intro metadata known
    cases (lost.memory.symm.trans known : none = some metadata)
  · intro
    rcases Nat.eq_zero_or_pos score.succeeded with none | some
    · exact .inl none
    · exact .inr (by simp [some])
  · intro interrupted
    rw [Bool.or_eq_true, decide_eq_true_eq] at interrupted
    exact interrupted.elim counted.later id

/-- The commit of a success of the job. -/
theorem counted_gained (counted : Counted uid score) {operation : Operation} (plain : Plain uid score operation)
    {id : Int} (gained : Gained uid (priorCount score.store.state uid) score.watched.engine.runtime.runId id score.store
      (Baseline.step config score.watched operation).store) :
    Counted uid (step config uid score operation) ∧
      (Counts config uid score operation ↔ Uninterrupted config uid score operation) := by
  obtain ⟨count, prior, bound, exact_when⟩ := priorCount_eq counted plain
  obtain ⟨news, grown, gains⟩ := gained.news
  obtain ⟨metadata, written, memory, disk⟩ := gained.metadata
  have counts : Record.get metadata "success_count" = .int ((count + 1 : ℕ) : Int) := by
    rw [written.counted, prior]
    rfl
  have adds : step config uid score operation =
      ⟨Baseline.step config score.watched operation, score.succeeded + 1, score.interrupted⟩ :=
    (step_of_news grown gains).1
  have succeeds : Succeeds uid score.store (step config uid score operation).store :=
    (step_of_news grown gains).2.mpr rfl
  constructor
  · rw [adds]
    refine ⟨?_, ?_, fun _ => Nat.succ_pos _⟩
    · intro other known
      obtain rfl : metadata = other := Option.some.inj (memory.symm.trans known)
      exact ⟨count + 1, counts, Nat.succ_le_succ bound, by rw [Nat.succ_inj, exact_when]⟩
    · intro none
      cases (memory.symm.trans none : some metadata = Option.none)
  · constructor
    · intro right _
      obtain ⟨other, known, -, numbered⟩ := right succeeds
      rw [adds] at known numbered
      obtain rfl : metadata = other := Option.some.inj (memory.symm.trans known)
      rw [counts, Json.int.injEq, Int.natCast_inj, Nat.succ_inj] at numbered
      exact exact_when.mp numbered
    · intro uninterrupted _
      have whole := exact_when.mpr (uninterrupted succeeds)
      rw [adds]
      exact ⟨metadata, memory, disk, by rw [counts, whole]⟩

theorem counted_step (kept : Kept origin score.watched) (counted : Counted uid score) {operation : Operation}
    (plain : Plain uid score operation) :
    Counted uid (step config uid score operation) ∧
      (Counts config uid score operation ↔ Uninterrupted config uid score operation) := by
  cases change_plain kept plain with
  | turn turn =>
    cases turn with
    | still still =>
      obtain ⟨after, counts, uninterrupted⟩ := counted_quiet counted still.memory still.news
      exact ⟨after, iff_of_true counts uninterrupted⟩
    | lost lost =>
      obtain ⟨after, counts, uninterrupted⟩ := counted_lost counted lost
      exact ⟨after, iff_of_true counts uninterrupted⟩
  | alike alike =>
    obtain ⟨after, counts, uninterrupted⟩ := counted_quiet counted alike.memory alike.news
    exact ⟨after, iff_of_true counts uninterrupted⟩
  | gained gained => exact counted_gained counted plain gained

/-- Along any run of the engine with retried failures, from a database in which nothing has been executed, without
clearing and seeding and with the engine's own metadata for failures: every success is archived with the number of all
successes of its job so far, if and only if no success is committed after a failure after a success. -/
theorem success_count_iff (uid : String) (queue : List Record) (cursors : Dict String String) (now : Text)
    (window : Recovery.Window) (resources : ResourceManager) (machine : SelectionMachine) (runId : Option String)
    (operations : List Operation)
    (plain : Machine.Along (step config uid) (Plain uid)
      ⟨⟨EngineRuntime.boot (unused queue cursors now) window resources machine runId, fun _ => none⟩, 0, false⟩
      operations) :
    let start : Score :=
      ⟨⟨EngineRuntime.boot (unused queue cursors now) window resources machine runId, fun _ => none⟩, 0, false⟩
    Machine.Along (step config uid) (Counts config uid) start operations ↔
      Machine.Along (step config uid) (Uninterrupted config uid) start operations := by
  intro start
  have kept : Kept Dict.empty start.watched := kept_boot queue cursors now window resources machine runId
  have counted : Counted uid start := by
    have none : start.store.state.successes.get? uid = none := rfl
    refine ⟨?_, fun _ => .inl rfl, nofun⟩
    intro metadata known
    rw [none] at known
    cases known
  change Machine.Along (step config uid) (Plain uid) start operations at plain
  clear_value start
  induction operations generalizing start with
  | nil => exact Iff.rfl
  | cons operation rest ih =>
    obtain ⟨after, same⟩ := @counted_step _ config _ _ _ kept counted _ plain.1
    refine and_congr same (ih _ ?_ after plain.2)
    rw [step_watched]
    exact (kept_step kept operation).1

end Run

section Sample

local instance : Python := Lifecycle.samplePython

/-- A job that runs whenever it is enqueued. -/
def alwaysRow : Record := Lifecycle.namedRow.set "trigger" (.str "always")

/-- The job is dispatched and ends. -/
def executed (success : Bool) : List Operation :=
  [Baseline.dispatched, .engine (.complete "t::a" { success := success } {})]

/-- The job is enqueued again, and the engine restarted. -/
def rerun : List Operation :=
  [.engine (.enqueue [alwaysRow] false), .engine (.restart {} Lifecycle.sampleResources ⟨⟨[]⟩, ∅⟩ (some "run"))]

def sampleStart : Score :=
  ⟨⟨EngineRuntime.boot (unused [alwaysRow] Dict.empty Lifecycle.sampleNow) {} Lifecycle.sampleResources ⟨⟨[]⟩, ∅⟩
    (some "run"), fun _ => none⟩, 0, false⟩

theorem plain_engine {operation : EngineRuntime.Operation} {score : Score}
    (uncounted : ∀ metadata ∈ score.store.state.failed.get? "t::a", metadata.get? "success_count" = none) :
    Plain "t::a" score (.engine operation) := ⟨uncounted, trivial⟩

/-- Two successes are counted. -/
theorem two_successes_counted :
    Machine.Along (step servingConfig "t::a") (Plain "t::a") sampleStart
        (executed true ++ rerun ++ executed true) ∧
      Machine.Along (step servingConfig "t::a") (Counts servingConfig "t::a") sampleStart
        (executed true ++ rerun ++ executed true) := by
  have plain : Machine.Along (step servingConfig "t::a") (Plain "t::a") sampleStart
      (executed true ++ rerun ++ executed true) :=
    ⟨plain_engine (by decide +kernel), plain_engine (by decide +kernel), plain_engine (by decide +kernel),
      plain_engine (by decide +kernel), plain_engine (by decide +kernel), plain_engine (by decide +kernel), trivial⟩
  refine ⟨plain, (success_count_iff "t::a" [alwaysRow] Dict.empty Lifecycle.sampleNow {} Lifecycle.sampleResources
    ⟨⟨[]⟩, ∅⟩ (some "run") _ plain).mpr ?_⟩
  exact ⟨fun _ => by decide +kernel, fun _ => by decide +kernel, fun _ => by decide +kernel, fun _ => by decide +kernel,
    fun _ => by decide +kernel, fun _ => by decide +kernel, trivial⟩

/-- A success, a failure, and the job is in flight once more. -/
def interruptedRun : List Operation :=
  executed true ++ rerun ++ executed false ++ rerun ++ [Baseline.dispatched]

def secondSuccess : Operation := .engine (.complete "t::a" { success := true } {})

/-- The second success counts from the start again. -/
theorem count_restarts :
    Machine.Along (step servingConfig "t::a") (Plain "t::a") sampleStart (interruptedRun ++ [secondSuccess]) ∧
      ¬ Machine.Along (step servingConfig "t::a") (Counts servingConfig "t::a") sampleStart
        (interruptedRun ++ [secondSuccess]) := by
  constructor
  · exact ⟨plain_engine (by decide +kernel), plain_engine (by decide +kernel), plain_engine (by decide +kernel),
      plain_engine (by decide +kernel), plain_engine (by decide +kernel), plain_engine (by decide +kernel),
      plain_engine (by decide +kernel), plain_engine (by decide +kernel), plain_engine (by decide +kernel),
      plain_engine (by decide +kernel), trivial⟩
  · intro along
    obtain ⟨-, counts, -⟩ := Machine.along_append.mp along
    set before := Machine.run (step servingConfig "t::a") sampleStart interruptedRun with run
    have succeeds : Succeeds "t::a" before.store (step servingConfig "t::a" before secondSuccess).store := by
      unfold Succeeds
      rw [run]
      decide +kernel
    obtain ⟨metadata, known, -, counted⟩ := counts succeeds
    have stored : ((step servingConfig "t::a" before secondSuccess).store.state.successes.get? "t::a").map
        (fun metadata => Record.get metadata "success_count") = some (.int 1) := by
      rw [run]
      decide +kernel
    have twice : (step servingConfig "t::a" before secondSuccess).succeeded = 2 := by
      rw [run]
      decide +kernel
    rw [known, Option.map_some, counted, twice] at stored
    exact absurd stored (by decide)

end Sample

end Tasklite.Engine.Counting
