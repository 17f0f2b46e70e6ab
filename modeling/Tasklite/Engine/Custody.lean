import Tasklite.Engine.Ledger

/-! Who has a job. Between two commits a job is queued in memory, in flight, or held by
the dispatch; the rows in memory belong to jobs that the backend has queued as well.
Every operation of the store is described by what it does to this, and by how the rows
of every single uid move. -/

namespace Tasklite.Engine.Custody
open Tasklite.Library Tasklite.Models Tasklite.Models.Identity Tasklite.Models.Coherence Tasklite.Backend
open PipelineState StateStore Ledger

variable [Python] {uid : String} {before middle after rows : List Record} {events later : List Event}

section Verdict

/-- What an accepted commit decides about a job in memory: queued again, or gone from the queue. What
other processes enqueue the memory does not see. -/
def verdict (uid : String) : Event → Option Bool
  | .enqueued _ => none
  | .succeeded other spawned =>
      if uid ∈ spawned then some true else if uid = other then some false else none
  | .failed uids => if uid ∈ uids then some false else none
  | .retried other => if uid = other then some true else none
  | .skipped other => if uid = other then some false else none

/-- The latest decision about a job. -/
def lastVerdict (uid : String) : List Event → Option Bool
  | [] => none
  | event :: rest => lastVerdict uid rest <|> verdict uid event

omit [Python] in
theorem lastVerdict_append (events later : List Event) :
    lastVerdict uid (events ++ later) = (lastVerdict uid later <|> lastVerdict uid events) := by
  induction events with
  | nil => simp [lastVerdict]
  | cons event rest ih =>
    rw [List.cons_append, lastVerdict, lastVerdict, ih]
    cases lastVerdict uid later <;> rfl

omit [Python] in
theorem lastVerdict_concat (events : List Event) (event : Event) :
    lastVerdict uid (events ++ [event]) = (verdict uid event <|> lastVerdict uid events) := by
  rw [lastVerdict_append]
  rfl

end Verdict

section Moves

/-- The rows of a uid. -/
def rowsOf (uid : String) (rows : List Record) : List Record := Fresh.having jobUidFromSnapshot uid rows

/-- How the rows of a uid move: where nothing was decided they stay, with some refused commits counted;
they are gone after a terminal commit, and there is one after a commit that queued the job. -/
def MovesAt (uid : String) (before after : List Record) (events : List Event) : Prop :=
  match lastVerdict uid events with
  | none => ∃ strikes, rowsOf uid after = (rowsOf uid before).map registerCommitFailure^[strikes]
  | some false => rowsOf uid after = []
  | some true => (rowsOf uid after).length = 1

theorem movesAt_refl (rows : List Record) (quiet : lastVerdict uid events = none) :
    MovesAt uid rows rows events := by
  unfold MovesAt
  rw [quiet]
  exact ⟨0, by simp⟩

theorem movesAt_congr (same : rowsOf uid after = rowsOf uid before) (quiet : lastVerdict uid events = none) :
    MovesAt uid before after events := by
  unfold MovesAt
  rw [quiet]
  exact ⟨0, by simp [same]⟩

theorem MovesAt.trans (first : MovesAt uid before middle events) (second : MovesAt uid middle after later) :
    MovesAt uid before after (events ++ later) := by
  unfold MovesAt at first second ⊢
  rw [lastVerdict_append]
  cases decided : lastVerdict uid later with
  | some queued =>
    rw [decided] at second
    cases queued <;> exact second
  | none =>
    rw [decided] at second
    obtain ⟨more, second⟩ := second
    show match lastVerdict uid events with | none => _ | some false => _ | some true => _
    cases earlier : lastVerdict uid events with
    | none =>
      rw [earlier] at first
      obtain ⟨strikes, first⟩ := first
      exact ⟨more + strikes, by simp [second, first, Function.iterate_add]⟩
    | some queued =>
      rw [earlier] at first
      cases queued
      · simpa [first] using second
      · simpa [first] using congrArg List.length second

theorem MovesAt.length_le (moves : MovesAt uid before after events) (once : (rowsOf uid before).length ≤ 1) :
    (rowsOf uid after).length ≤ 1 := by
  unfold MovesAt at moves
  split at moves
  · obtain ⟨strikes, moves⟩ := moves
    simpa [moves] using once
  · simp [moves]
  · exact moves.le

/-- All uids that stand at most once move as the new events say. -/
def Moved (start : StateStore) (before : List Record) (finish : StateStore) (after : List Record) : Prop :=
  ∃ events, finish.events = start.events ++ events ∧
    ∀ uid, (rowsOf uid before).length ≤ 1 → MovesAt uid before after events

variable {start between finish : StateStore}

theorem moved_refl (store : StateStore) (rows : List Record) : Moved store rows store rows :=
  ⟨[], by simp, fun _ _ => movesAt_refl rows rfl⟩

theorem Moved.trans (first : Moved start before between middle) (second : Moved between middle finish after) :
    Moved start before finish after := by
  obtain ⟨events, early, moves⟩ := first
  obtain ⟨later, late, follows⟩ := second
  refine ⟨events ++ later, by rw [late, early, List.append_assoc], fun uid once => ?_⟩
  exact (moves uid once).trans (follows uid ((moves uid once).length_le once))

theorem tidy_iff {state : PipelineState} : Tidy state ↔ ∀ uid, (rowsOf uid state.queue).length ≤ 1 :=
  Fresh.nodup_iff

theorem Moved.nodup (moved : Moved start before finish after) (tidy : (before.map jobUidFromSnapshot).Nodup) :
    (after.map jobUidFromSnapshot).Nodup := by
  obtain ⟨events, -, moves⟩ := moved
  rw [Fresh.nodup_iff] at tidy ⊢
  exact fun uid => (moves uid (tidy uid)).length_le (tidy uid)

end Moves

section Custody

/-- The memory is in order, with the given rows as its queue: a row that does not name its job is the only
one of its uid, and no job is queued, in flight and held at once. -/
structure Orderly (held : Finset String) (rows : List Record) (state : PipelineState) : Prop where
  coherent : Coherent state
  plain : ∀ row ∈ rows, Identified row ∨ (rowsOf (jobUidFromSnapshot row) rows).length ≤ 1
  apart : Disjoint (uidsOf rows) state.inFlightUids
  heldApart : Disjoint held (uidsOf rows ∪ state.inFlightUids ∪ state.triggerSkippedUids)

/-- The backend has what the memory has: all rows name their jobs, and whatever is queued, in flight or
held is queued on disk. -/
structure Backed (opening held : Finset String) (rows : List Record) (store : StateStore) : Prop where
  named : ∀ row ∈ rows, Identified row
  namedDisk : ∀ row ∈ store.backend.queue, Identified row
  backed : uidsOf rows ∪ store.state.inFlightUids ∪ held ⊆ uidsOf store.backend.queue
  lawful : Lawful opening store.backend store.events
  foreseen : ∀ answer ∈ store.answers, ∀ batch ∈ answer.enqueued, ∀ row ∈ batch.1, Identified row

variable {opening held : Finset String} {store asked : StateStore} {state : PipelineState}

/-- A job that the dispatch holds or that is in flight. -/
def Owned (held : Finset String) (state : PipelineState) (uid : String) : Prop :=
  uid ∈ held ∨ uid ∈ state.inFlightUids

theorem Orderly.notMem_of_owned (orderly : Orderly held rows state) (owned : Owned held state uid) :
    uid ∉ uidsOf rows := by
  intro queued
  rcases owned with holding | flying
  · apply Finset.disjoint_left.mp orderly.heldApart holding
    simp [queued]
  · exact Finset.disjoint_left.mp orderly.apart queued flying

/-- No commit decided about a job that is still owned. -/
def Aside (store : StateStore) (held : Finset String) (after : StateStore) (held' : Finset String) : Prop :=
  ∀ uid, Owned held' after.state uid → Owned held store.state uid ∧
    ∀ events, after.events = store.events ++ events → lastVerdict uid events = none

omit [Python] in
theorem aside_of_events {after : StateStore} {held' : Finset String} (told : after.events = store.events)
    (fewer : ∀ uid, Owned held' after.state uid → Owned held store.state uid) :
    Aside store held after held' := by
  refine fun uid owned => ⟨fewer uid owned, fun events news => ?_⟩
  have none : events = [] := by simpa [told] using news
  rw [none]
  rfl

omit [Python] in
theorem Aside.trans {between finish : StateStore} {held' held'' : Finset String} {events later : List Event}
    (first : Aside store held between held') (second : Aside between held' finish held'')
    (early : between.events = store.events ++ events) (late : finish.events = between.events ++ later) :
    Aside store held finish held'' := by
  intro uid owned
  obtain ⟨still, quiet⟩ := second uid owned
  obtain ⟨before, silent⟩ := first uid still
  refine ⟨before, fun news told => ?_⟩
  rw [late, early, List.append_assoc, List.append_cancel_left_eq] at told
  rw [← told, lastVerdict_append, quiet later late, silent events early]
  rfl

/-- What one operation does: the memory stays in order, rows move as the events say, nothing is decided
about jobs that are still owned, and a memory that the backend has stays one. -/
structure Passes (store : StateStore) (held : Finset String) (rows source : List Record)
    (after : StateStore) (held' : Finset String) (rows' : List Record) : Prop where
  orderly : Orderly held' rows' after.state
  moved : Moved store source after rows'
  aside : Aside store held after held'
  backed : ∀ opening, Backed opening held rows store → Backed opening held' rows' after

theorem passes_refl (orderly : Orderly held rows store.state) : Passes store held rows rows store held rows :=
  ⟨orderly, moved_refl store rows, aside_of_events rfl fun _ owned => owned, fun _ backed => backed⟩

theorem Passes.trans {between finish : StateStore} {held' held'' : Finset String}
    {source rows' rows'' : List Record} (first : Passes store held rows source between held' rows')
    (second : Passes between held' rows' rows' finish held'' rows'') :
    Passes store held rows source finish held'' rows'' where
  orderly := second.orderly
  moved := first.moved.trans second.moved
  aside := by
    obtain ⟨events, early, -⟩ := first.moved
    obtain ⟨later, late, -⟩ := second.moved
    exact first.aside.trans second.aside early late
  backed := fun opening backed => second.backed opening (first.backed opening backed)

end Custody

section Plumbing

variable {opening held : Finset String} {store asked finish : StateStore}

/-- The stores differ at most in their counters, hooks and attempt rows. -/
structure Alike (store after : StateStore) : Prop where
  state : after.state = store.state
  queue : after.backend.queue = store.backend.queue
  successes : after.backend.successes = store.backend.successes
  failed : after.backend.failed = store.backend.failed
  events : after.events = store.events
  answers : after.answers = store.answers

omit [Python] in
theorem Alike.trans {between finish : StateStore} (first : Alike store between) (second : Alike between finish) :
    Alike store finish where
  state := second.state.trans first.state
  queue := second.queue.trans first.queue
  successes := second.successes.trans first.successes
  failed := second.failed.trans first.failed
  events := second.events.trans first.events
  answers := second.answers.trans first.answers

omit [Python] in
theorem alike_recordStat (store : StateStore) (key : StatKey) (amount : ℕ) :
    Alike store (store.recordStat key amount) := ⟨rfl, rfl, rfl, rfl, rfl, rfl⟩

omit [Python] in
theorem alike_fireAttemptFinished (store : StateStore) (jobUid : String) (outcome : AttemptOutcome) :
    Alike store (store.fireAttemptFinished jobUid outcome) := by
  unfold fireAttemptFinished
  dsimp only
  split <;> exact ⟨rfl, rfl, rfl, rfl, rfl, rfl⟩

omit [Python] in
theorem updateAttempt_fst (backend : Memory) (attemptId : Int) (outcome : Outcome) (finishedAt : String)
    (errorMessage : Option String) : ∃ attempts,
      (backend.updateAttempt attemptId outcome finishedAt errorMessage).1 =
        { backend with attempts := attempts } := by
  unfold Memory.updateAttempt
  split
  · exact ⟨backend.attempts, rfl⟩
  · split
    · exact ⟨backend.attempts, rfl⟩
    · split
      · exact ⟨backend.attempts, rfl⟩
      · exact ⟨_, rfl⟩

omit [Python] in
theorem alike_noteCall (store : StateStore) (call : TraceCall) : Alike store (store.noteCall call) :=
  ⟨rfl, rfl, rfl, rfl, rfl, rfl⟩

omit [Python] in
theorem alike_finishAttempt (store : StateStore) (attemptId : Option Int) (outcome : Outcome)
    (errorMessage : Option Json) : Alike store (store.finishAttempt attemptId outcome errorMessage) := by
  have updated : ∀ id text, Alike store { store.noteCall (.update id (store.backend.attempts.get? id)) with
      backend := (store.backend.updateAttempt id outcome store.now.val text).1 } := by
    intro id text
    obtain ⟨attempts, changed⟩ := updateAttempt_fst store.backend id outcome store.now.val text
    rw [changed]
    exact ⟨rfl, rfl, rfl, rfl, rfl, rfl⟩
  unfold finishAttempt
  cases attemptId with
  | none => exact ⟨rfl, rfl, rfl, rfl, rfl, rfl⟩
  | some id =>
    dsimp only
    split
    · exact updated _ _
    · exact updated _ _
    · exact updated _ _
    · exact ⟨rfl, rfl, rfl, rfl, rfl, rfl⟩

theorem Backed.alike (backed : Backed opening held rows store) (alike : Alike store finish) :
    Backed opening held rows finish where
  named := backed.named
  namedDisk := by
    rw [alike.queue]
    exact backed.namedDisk
  backed := by
    rw [alike.state, alike.queue]
    exact backed.backed
  lawful := by
    rw [alike.events]
    apply backed.lawful.congr (by rw [alike.queue])
    rw [alike.successes, alike.failed]
    exact fun _ ended => ended
  foreseen := by
    rw [alike.answers]
    exact backed.foreseen

/-- Nothing that custody is about changes between stores that are alike. -/
theorem Passes.alike {held' : Finset String} {source rows' : List Record}
    (passes : Passes store held rows source asked held' rows') (alike : Alike asked finish) :
    Passes store held rows source finish held' rows' where
  orderly := by
    rw [alike.state]
    exact passes.orderly
  moved := by
    obtain ⟨events, told, moves⟩ := passes.moved
    exact ⟨events, by rw [alike.events, told], moves⟩
  aside := by
    unfold Aside
    rw [alike.state, alike.events]
    exact passes.aside
  backed := fun opening backed => (passes.backed opening backed).alike alike

end Plumbing

section Commit

variable {opening held : Finset String} {store : StateStore}

/-- Rows that another process enqueues are backed and nothing else changes. -/
theorem backed_enqueueElsewhere (backed : Backed opening held rows store) {snapshots : List Record}
    (named : ∀ row ∈ snapshots, Identified row) (front : Bool) :
    Backed opening held rows (store.enqueueElsewhere snapshots front) where
  named := backed.named
  namedDisk := by
    intro row member
    have fresh : row ∈ Fresh.fresh jobUidFromSnapshot (uidsOf store.backend.queue) snapshots →
        Identified row := fun new => named row ((Fresh.fresh_sublist _ _).subset new)
    unfold enqueueElsewhere Memory.enqueueJobs at member
    cases front
    · rcases List.mem_append.mp member with old | new
      · exact backed.namedDisk row old
      · exact fresh new
    · rcases List.mem_append.mp member with new | old
      · exact fresh new
      · exact backed.namedDisk row old
  backed := by
    apply backed.backed.trans
    show uidsOf store.backend.queue ⊆ uidsOf (store.backend.enqueueJobs snapshots front).1.queue
    rw [uidsOf_enqueueJobs]
    exact Finset.subset_union_left
  lawful := lawful_enqueueJobs backed.lawful snapshots front
  foreseen := backed.foreseen

/-- What a commit finds: the store as it was, after other processes had their turn. -/
structure Asked (store asked : StateStore) : Prop where
  state : asked.state = store.state
  now : asked.now = store.now
  backend : ∃ queue, asked.backend = { store.backend with queue := queue }
  quiet : ∃ news, asked.events = store.events ++ news ∧ ∀ uid, lastVerdict uid news = none
  backed : ∀ opening held rows, Backed opening held rows store → Backed opening held rows asked

theorem Asked.noteCall {asked : StateStore} (heard : Asked store asked) (call : TraceCall) :
    Asked store (asked.noteCall call) where
  state := heard.state
  now := heard.now
  backend := heard.backend
  quiet := heard.quiet
  backed := fun opening held rows backed => (heard.backed opening held rows backed).alike (alike_noteCall asked call)

theorem asked_foldl (batches : List (List Record × Bool)) (store : StateStore) :
    let asked := batches.foldl (fun store batch => store.enqueueElsewhere batch.1 batch.2) store
    (asked.state = store.state ∧ asked.now = store.now ∧
        ∃ queue, asked.backend = { store.backend with queue := queue }) ∧
      (∃ news, asked.events = store.events ++ news ∧ ∀ uid, lastVerdict uid news = none) ∧
      ∀ opening held rows, (∀ batch ∈ batches, ∀ row ∈ batch.1, Identified row) →
        Backed opening held rows store → Backed opening held rows asked := by
  induction batches generalizing store with
  | nil => exact ⟨⟨rfl, rfl, _, rfl⟩, ⟨[], by simp, fun _ => rfl⟩, fun _ _ _ _ backed => backed⟩
  | cons batch rest ih =>
    obtain ⟨⟨state, now, backend⟩, ⟨news, told, quiet⟩, keeps⟩ := ih (store.enqueueElsewhere batch.1 batch.2)
    refine ⟨⟨state, now, backend⟩, ⟨.enqueued (store.backend.enqueueJobs batch.1 batch.2).2 :: news, ?_, ?_⟩, ?_⟩
    · rw [List.foldl_cons, told]
      simp [enqueueElsewhere]
    · intro uid
      simp [lastVerdict, quiet uid, verdict]
    · intro opening held rows named backed
      apply keeps opening held rows (fun other member => named other (List.mem_cons_of_mem _ member))
      exact backed_enqueueElsewhere backed (named batch List.mem_cons_self) batch.2

theorem Asked.moved {asked : StateStore} (heard : Asked store asked) (rows : List Record) :
    Moved store rows asked rows := by
  obtain ⟨news, told, quiet⟩ := heard.quiet
  exact ⟨news, told, fun uid _ => movesAt_refl rows (quiet uid)⟩

theorem Asked.aside {asked : StateStore} (heard : Asked store asked) (held : Finset String) :
    Aside store held asked held := by
  intro uid owned
  obtain ⟨news, told, quiet⟩ := heard.quiet
  rw [heard.state] at owned
  refine ⟨owned, fun events same => ?_⟩
  rw [told, List.append_cancel_left_eq] at same
  rw [← same]
  exact quiet uid

/-- A commit is refused and nothing happens, or it runs after the other processes had their turn. -/
theorem commit_cases (store : StateStore) (event : Event) (transaction : Memory → Memory × Bool) :
    ∃ asked, Asked store asked ∧
      (store.commit event transaction = (asked, false) ∨
        (transaction asked.backend).2 = true ∧
          store.commit event transaction = ({ asked with
            backend := (transaction asked.backend).1
            events := asked.events ++ [event] }, true)) := by
  obtain ⟨⟨state, now, backend⟩, ⟨news, told, quiet⟩, keeps⟩ := asked_foldl (store.answers.headD {}).enqueued
    { store with answers := store.answers.tail }
  refine ⟨_, ⟨state, now, backend, ⟨news, told, quiet⟩, ?_⟩, ?_⟩
  · intro opening held rows backed
    apply keeps opening held rows
    · cases foreseen : store.answers with
      | nil => simp
      | cons answer rest => exact backed.foreseen answer (by simp [foreseen])
    · have coming : ∀ answer ∈ store.answers.tail, ∀ batch ∈ answer.enqueued, ∀ row ∈ batch.1,
          Identified row := fun answer member => backed.foreseen answer (List.mem_of_mem_tail member)
      exact { backed with foreseen := coming }
  · unfold commit
    dsimp only
    split
    · split
      · rename_i backend ran
        exact Or.inr ⟨by rw [ran], by rw [ran]⟩
      · exact Or.inl rfl
    · exact Or.inl rfl

end Commit

end Tasklite.Engine.Custody
