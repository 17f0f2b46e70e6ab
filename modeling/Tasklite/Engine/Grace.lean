import Mathlib.Tactic.Linarith
import Tasklite.Engine.Lifecycle

/-! The grace for missing dependencies. A governor is asked again and again whether the
wait goes on; when it says no, the same jobs have been missing for a whole grace
period, provided that a deadline is never taken over by other jobs. -/

namespace Tasklite.Engine.Grace
open Tasklite.Library Tasklite.Models

/-- What the governor is told: the jobs with missing dependencies, while others could still spawn those, or a
dispatch. -/
inductive Call where
  | check (state : PipelineState) (missing : Finset String) (now : ℚ)
  | progress

/-- The governor with all the calls so far. -/
structure Watch where
  governor : DeadlockGovernor
  calls : List Call

section Theory

variable [Python] {watch : Watch} {missing : Finset String} {now grace : ℚ} {state : PipelineState}

def answer (governor : DeadlockGovernor) : Call → DeadlockGovernor × Bool
  | .check state missing now => governor.checkDependencyGrace state missing (some true) now
  | .progress => (governor.recordDispatchProgress, true)

def step (watch : Watch) (call : Call) : Watch where
  governor := (answer watch.governor call).1
  calls := watch.calls ++ [call]

def Presents (missing : Finset String) (call : Call) : Prop := ∃ state now, call = .check state missing now

/-- From some call on, made no later than the given time, the same jobs have been missing. -/
def MissingSince (missing : Finset String) (time : ℚ) (calls : List Call) : Prop :=
  ∃ before state asked since, calls = before ++ .check state missing asked :: since ∧ asked ≤ time ∧
    ∀ call ∈ since, Presents missing call

/-- A call asks about some job; and while there is a deadline but no note of the jobs it was granted to, it asks
about the jobs of the call before. -/
def Anchored (watch : Watch) : Call → Prop
  | .check _ missing _ => missing.Nonempty ∧ (watch.governor.depGraceMissing = none →
      watch.governor.depGraceDeadline.isSome → ∃ call ∈ watch.calls.getLast?, Presents missing call)
  | .progress => True

omit [Python] in
theorem missingSince_concat {time : ℚ} {calls : List Call} {call : Call} (since : MissingSince missing time calls)
    (presents : Presents missing call) : MissingSince missing time (calls ++ [call]) := by
  obtain ⟨before, state, asked, later, told, early, same⟩ := since
  refine ⟨before, state, asked, later ++ [call], by rw [told]; simp, early, fun other member => ?_⟩
  rcases List.mem_append.mp member with old | new
  · exact same other old
  · rw [List.mem_singleton.mp new]
    exact presents

omit [Python] in
theorem missingSince_now {calls : List Call} {now : ℚ} :
    MissingSince missing now (calls ++ [.check state missing now]) :=
  ⟨calls, state, now, [], rfl, le_rfl, by simp⟩

omit [Python] in
theorem presents_of_missingSince {time : ℚ} {calls : List Call} (since : MissingSince missing time calls)
    {call : Call} (last : call ∈ calls.getLast?) : Presents missing call := by
  obtain ⟨before, state, asked, later, told, -, same⟩ := since
  rw [told] at last
  cases later using List.reverseRecOn with
  | nil =>
    simp only [List.getLast?_append, List.getLast?_singleton, Option.some_or, Option.mem_def] at last
    exact ⟨state, asked, (Option.some.inj last).symm⟩
  | append_singleton others final =>
    rw [← List.cons_append, ← List.append_assoc, List.getLast?_concat, Option.mem_def] at last
    rw [← Option.some.inj last]
    exact same final (by simp)

/-- A deadline lies a grace period after a call since which the same jobs have been missing; if the governor has a
note of the jobs, it is of these. -/
structure Held (grace : ℚ) (watch : Watch) : Prop where
  length : watch.governor.dependencyGraceSeconds = grace
  granted : ∀ deadline, watch.governor.depGraceDeadline = some deadline →
    ∃ missing, MissingSince missing (deadline - grace) watch.calls ∧
      ∀ noted, watch.governor.depGraceMissing = some noted → noted = missing

omit [Python] in
theorem held_fresh {governor : DeadlockGovernor} (idle : governor.depGraceDeadline = none) :
    Held governor.dependencyGraceSeconds ⟨governor, []⟩ where
  length := rfl
  granted := by
    intro deadline live
    rw [idle] at live
    cases live

omit [Python] in
/-- The question is put to a governor whose note is of these jobs, if it has one. -/
theorem held_grantOrExpire {governor : DeadlockGovernor} {calls : List Call}
    (length : governor.dependencyGraceSeconds = grace)
    (since : ∀ deadline, governor.depGraceDeadline = some deadline →
      MissingSince missing (deadline - grace) (calls ++ [.check state missing now]))
    (noted : ∀ note, governor.depGraceMissing = some note → note = missing) :
    Held grace ⟨(governor.grantOrExpire now grace).1, calls ++ [.check state missing now]⟩ ∧
      ((governor.grantOrExpire now grace).2 = false →
        MissingSince missing (now - grace) (calls ++ [.check state missing now])) := by
  unfold DeadlockGovernor.grantOrExpire
  dsimp only
  have reached : MissingSince missing (governor.depGraceDeadline.getD (now + grace) - grace)
      (calls ++ [.check state missing now]) := by
    cases live : governor.depGraceDeadline with
    | none =>
      rw [Option.getD_none, add_sub_cancel_right]
      exact missingSince_now
    | some deadline => exact since deadline live
  split
  · refine ⟨⟨length, fun deadline live => ⟨missing, ?_, noted⟩⟩, by simp⟩
    cases live
    exact reached
  · rename_i expired
    refine ⟨⟨length, by simp [DeadlockGovernor.endGraceEpisode]⟩, fun _ => ?_⟩
    obtain ⟨before, earlier, asked, later, told, early, same⟩ := reached
    exact ⟨before, earlier, asked, later, told, by linarith, same⟩

/-- The governor that has taken note of the jobs of a question, and has dropped a deadline of others or one that
has been over for a whole grace period. -/
def noting (governor : DeadlockGovernor) (missing : Finset String) (now : ℚ) : DeadlockGovernor :=
  let renewed :=
    if ∃ before ∈ governor.depGraceMissing, before ≠ missing then { governor with depGraceDeadline := none }
    else governor
  let noted := { renewed with depGraceMissing := some missing }
  if ∃ deadline ∈ noted.depGraceDeadline, now - deadline > governor.dependencyGraceSeconds then
    noted.endGraceEpisode
  else noted

theorem answer_check {governor : DeadlockGovernor} (asks : missing.Nonempty) :
    answer governor (.check state missing now) =
      (noting governor missing now).grantOrExpire now governor.dependencyGraceSeconds := by
  simp only [answer, DeadlockGovernor.checkDependencyGrace, if_neg asks.ne_empty, noting]

omit [Python] in
theorem noting_cases (governor : DeadlockGovernor) (missing : Finset String) (now : ℚ) :
    (noting governor missing now).dependencyGraceSeconds = governor.dependencyGraceSeconds ∧
      (∀ note, (noting governor missing now).depGraceMissing = some note → note = missing) ∧
      ∀ deadline, (noting governor missing now).depGraceDeadline = some deadline →
        governor.depGraceDeadline = some deadline ∧
          ∀ before, governor.depGraceMissing = some before → before = missing := by
  unfold noting
  dsimp only
  by_cases changed : ∃ before ∈ governor.depGraceMissing, before ≠ missing
  · rw [if_pos changed]
    simp
  · rw [if_neg changed]
    push Not at changed
    split
    · simp [DeadlockGovernor.endGraceEpisode]
    · refine ⟨rfl, fun note noted => (Option.some.inj noted).symm, fun deadline live => ⟨live, changed⟩⟩

/-- One question: the invariant is kept, and a negative answer comes after a whole grace period. -/
theorem held_check (held : Held grace watch)
    (anchored : Anchored watch (.check state missing now)) :
    Held grace (step watch (.check state missing now)) ∧
      ((answer watch.governor (.check state missing now)).2 = false →
        MissingSince missing (now - grace) (watch.calls ++ [.check state missing now])) := by
  obtain ⟨asks, anchor⟩ := anchored
  obtain ⟨length, noted, live⟩ := noting_cases watch.governor missing now
  unfold step
  rw [answer_check asks, held.length]
  refine held_grantOrExpire (length.trans held.length) (fun deadline granted => ?_) noted
  obtain ⟨before, unchanged⟩ := live deadline granted
  obtain ⟨others, waited, note⟩ := held.granted deadline before
  have same : others = missing := by
    cases remembered : watch.governor.depGraceMissing with
    | none =>
      obtain ⟨call, last, state, time, presents⟩ := anchor remembered (by simp [before])
      obtain ⟨_, _, other⟩ := presents_of_missingSince waited last
      rw [presents] at other
      injection other with _ sets _
      exact sets.symm
    | some earlier => exact (note earlier remembered).symm.trans (unchanged earlier remembered)
  subst same
  exact missingSince_concat waited ⟨state, now, rfl⟩

theorem held_step (held : Held grace watch) {call : Call} (anchored : Anchored watch call) :
    Held grace (step watch call) := by
  cases call with
  | check state missing now => exact (held_check held anchored).1
  | progress =>
    refine ⟨?_, fun deadline live => ?_⟩
    · simp only [step, answer, DeadlockGovernor.recordDispatchProgress]
      split <;> exact held.length
    · simp only [step, answer, DeadlockGovernor.recordDispatchProgress] at live
      split at live
      · cases live
      · rename_i idle
        simp [live] at idle

/-- Along every sequence of calls in which no deadline is taken over by other jobs, a wait is only given up when the
same jobs have been missing, without a dispatch, since a call a grace period ago. -/
theorem expired_after_grace {governor : DeadlockGovernor} (idle : governor.depGraceDeadline = none)
    {calls : List Call} {state : PipelineState} {missing : Finset String} {now : ℚ}
    (anchored : Machine.Along step Anchored ⟨governor, []⟩ (calls ++ [.check state missing now]))
    (expired : (answer (Machine.run step ⟨governor, []⟩ calls).governor (.check state missing now)).2 = false) :
    MissingSince missing (now - governor.dependencyGraceSeconds) (calls ++ [.check state missing now]) := by
  obtain ⟨before, last, -⟩ := Machine.along_append.mp anchored
  have told : ∀ (calls : List Call) (watch : Watch), (Machine.run step watch calls).calls = watch.calls ++ calls := by
    intro calls
    induction calls with
    | nil => simp
    | cons call rest ih =>
      intro watch
      rw [Machine.run_cons, ih]
      simp [step]
  have held := Machine.run_invariant_along (held_fresh idle)
    (fun watch call anchored held => held_step held anchored) before
  have waited := (held_check held last).2 expired
  rwa [told, List.nil_append] at waited

end Theory

section Sample

local instance : Python := Lifecycle.samplePython

def idleState : PipelineState := PipelineState.init Dict.empty Dict.empty Dict.empty []

/-- The first job waits on; nobody asks for more than two grace periods; then another job waits. -/
def overtaken : List Call :=
  [.check idleState {"t::a"} 0, .check idleState {"t::a"} 121, .check idleState {"t::b"} 150]

theorem expired_after_grace_alone :
    Machine.Along step Anchored ⟨{}, []⟩ [.check idleState {"t::a"} 0, .check idleState {"t::a"} 60] ∧
      MissingSince {"t::a"} (60 - 60) [.check idleState {"t::a"} 0, .check idleState {"t::a"} 60] := by
  have anchored : Machine.Along step Anchored ⟨{}, []⟩
      ([.check idleState {"t::a"} 0] ++ [.check idleState {"t::a"} 60]) :=
    ⟨⟨by decide, fun _ live => nomatch live⟩, ⟨by decide, fun forgotten _ => absurd forgotten (by decide +kernel)⟩,
      trivial⟩
  exact ⟨anchored, expired_after_grace rfl anchored (by decide +kernel)⟩

/-- A deadline that was granted to one job runs out on another, which has not waited for half as long. -/
theorem overtaken_cut_short :
    (answer (Machine.run step ⟨{}, []⟩ overtaken).governor (.check idleState {"t::b"} 181)).2 = false ∧
      ¬ MissingSince {"t::b"} (181 - 60) (overtaken ++ [.check idleState {"t::b"} 181]) := by
  refine ⟨by decide +kernel, ?_⟩
  rintro ⟨before, state, asked, since, told, early, -⟩
  have listed : Call.check state {"t::b"} asked ∈ overtaken ++ [.check idleState {"t::b"} 181] := by
    rw [told]
    simp
  have other : ({"t::b"} : Finset String) ≠ {"t::a"} := by decide
  have late : state = idleState ∧ asked = 150 ∨ state = idleState ∧ asked = 181 := by
    simpa [overtaken, other] using listed
  rcases late with ⟨-, rfl⟩ | ⟨-, rfl⟩
  · norm_num at early
  · norm_num at early

end Sample

end Tasklite.Engine.Grace
