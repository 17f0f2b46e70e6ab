import Mathlib.Data.List.Forall2
import Tasklite.Backend.Sqlite

/-! The SQLite backend as a mirror of the in-memory one. The queue table lists, by position, the rows of the
in-memory queue; the other tables spell the collections. What the two backends load is the same as long as
one mirrors the other, and so is what their methods do to them. -/

namespace Tasklite.Backend.Mirroring
open Tasklite.Library Tasklite.Models Sqlite

/-! What is common to rows and records that are written by them. -/
section Related

variable {α β κ : Type} [DecidableEq κ] {R : α → β → Prop} {key : α → κ} {other : β → κ}

omit [DecidableEq κ] in
theorem related_keys (keys : ∀ first second, R first second → key first = other second) {left : List α}
    {right : List β} (related : List.Forall₂ R left right) : left.map key = right.map other := by
  induction related with
  | nil => rfl
  | cons head _ ih => rw [List.map_cons, List.map_cons, keys _ _ head, ih]

theorem related_fresh (keys : ∀ first second, R first second → key first = other second) {left : List α}
    {right : List β} (related : List.Forall₂ R left right) (seen : Finset κ) :
    List.Forall₂ R (Fresh.fresh key seen left) (Fresh.fresh other seen right) := by
  induction related generalizing seen with
  | nil => exact .nil
  | cons head _ ih =>
    unfold Fresh.fresh
    rw [keys _ _ head]
    split
    · exact ih seen
    · exact .cons head (ih _)

theorem related_without (keys : ∀ first second, R first second → key first = other second) {left : List α}
    {right : List β} (related : List.Forall₂ R left right) (dropped : Finset κ) :
    List.Forall₂ R (Fresh.without key dropped left) (Fresh.without other dropped right) := by
  refine List.rel_filter ?_ related
  intro first second head
  simp [keys _ _ head]

/-- Entries in turn under the same keys: what one of them finds, the other does. -/
theorem related_find {ν μ : Type} {S : ν → μ → Prop} {left : List (κ × ν)} {right : List (κ × μ)}
    (related : List.Forall₂ (fun first second => first.1 = second.1 ∧ S first.2 second.2) left right) (k : κ) :
    Option.Rel S (Dict.find k left) (Dict.find k right) := by
  induction related with
  | nil => exact .none
  | @cons first second _ _ head _ ih =>
    obtain ⟨key, value⟩ := first
    obtain ⟨other, image⟩ := second
    obtain ⟨rfl, both⟩ := head
    by_cases same : k = key
    · simpa [Dict.find, same] using Option.Rel.some both
    · simpa [Dict.find, same] using ih

omit [DecidableEq κ] in
theorem rel_unique {S : α → β → Prop} (unique : ∀ value first second, S value first → S value second → first = second)
    {value : Option α} {first second : Option β} (one : Option.Rel S value first) (two : Option.Rel S value second) :
    first = second := by
  cases one with
  | none =>
    cases two
    rfl
  | some one =>
    cases two with
    | some two => rw [unique _ _ _ one two]

omit [DecidableEq κ] in
theorem rel_isSome {S : α → β → Prop} {value : Option α} {image : Option β} (related : Option.Rel S value image) :
    value.isSome = image.isSome := by
  cases related with
  | none => rfl
  | some _ => rfl

omit [DecidableEq κ] in
theorem mapM_eq_ok {ε : Type} {f : α → Except ε β} {left : List α} {right : List β}
    (each : List.Forall₂ (fun first second => f first = .ok second) left right) : left.mapM f = .ok right := by
  induction each with
  | nil => rfl
  | cons head _ ih =>
    rw [List.mapM_cons, head, ih]
    rfl

end Related

section Spelling

variable [JsonText]

/-- The text of a column for a record that comes back from it. -/
def Spells (text : String) (record : Record) : Prop := dumps record = .ok text ∧ loads text = .ok record

/-- A record in JSON normal form. -/
def Normal (record : Record) : Prop := ∃ text, Spells text record

theorem normal_empty : Normal Dict.empty := JsonText.empty_back

/-- What a query of uids and texts loads is the dict that the texts spell. -/
theorem loadRecords_eq {rows : List (String × String)} {dict : Dict String Record}
    (distinct : (rows.map Prod.fst).Nodup)
    (spelled : ∀ uid, Option.Rel Spells (Dict.find uid rows) (dict.get? uid)) :
    ∃ loaded, loadRecords rows = .ok loaded ∧ ∀ uid, loaded.get? uid = dict.get? uid := by
  have spelled_each : ∀ row ∈ rows, ∃ record, Spells row.2 record := by
    intro row member
    have found : Dict.find row.1 rows = some row.2 := (Dict.mem_entries_iff distinct).mp member
    have related := spelled row.1
    rw [found] at related
    generalize dict.get? row.1 = given at related
    cases related with
    | some spells => exact ⟨_, spells⟩
  have pairs_related : ∃ pairs : List (String × Record),
      List.Forall₂ (fun row pair => row.1 = pair.1 ∧ Spells row.2 pair.2) rows pairs := by
    clear distinct spelled
    induction rows with
    | nil => exact ⟨[], .nil⟩
    | cons row rows ih =>
      obtain ⟨record, first⟩ := spelled_each row List.mem_cons_self
      obtain ⟨pairs, rest⟩ := ih fun other member => spelled_each other (List.mem_cons_of_mem _ member)
      exact ⟨(row.1, record) :: pairs, .cons ⟨rfl, first⟩ rest⟩
  obtain ⟨pairs, related⟩ := pairs_related
  have keys : rows.map Prod.fst = pairs.map Prod.fst := related_keys (fun _ _ => And.left) related
  have loaded : loadRecords rows = .ok (Dict.ofPairs pairs) := by
    have each : List.Forall₂ (fun row pair => (do
        let record ← loads row.2
        return (row.1, record)) = Except.ok (ε := SqlError) pair) rows pairs := by
      refine related.imp fun row pair head => ?_
      rw [head.2.2, head.1]
      rfl
    rw [loadRecords, mapM_eq_ok each]
    rfl
  refine ⟨_, loaded, fun uid => ?_⟩
  rw [Dict.get?, Dict.entries_ofPairs (keys ▸ distinct)]
  have read : Option.Rel Spells (Dict.find uid rows) (Dict.find uid pairs) := related_find related uid
  exact rel_unique (fun _ _ _ one two => Except.ok.inj (one.2.symm.trans two.2)) read (spelled uid)

end Spelling

section Rows

variable [Python] [JsonText]

/-- A row of the queue table for a record of the queue. -/
def Holds (row : String × QueueRow) (record : Record) : Prop :=
  row.1 = jobUidFromSnapshot record ∧ Spells row.2.jobSnapshot record

/-- The table lists the queue by position. -/
def Queued (table : Dict String QueueRow) (queue : List Record) : Prop :=
  ∃ listing, Table.Listed position table listing ∧ List.Forall₂ Holds listing queue

variable {table after : Dict String QueueRow} {queue snapshots : List Record} {rows : List (String × QueueRow)}

theorem holds_key (row : String × QueueRow) (record : Record) (holds : Holds row record) :
    row.1 = jobUidFromSnapshot record := holds.1

theorem loadQueue_eq {sqlite : Sqlite} (queued : Queued sqlite.queue queue) : sqlite.loadQueue = .ok queue := by
  obtain ⟨listing, listed, held⟩ := queued
  rw [loadQueue, Table.orderBy_eq listed]
  exact mapM_eq_ok (held.imp fun row record holds => holds.2.2)

theorem uids_eq (queued : Queued table queue) : table.keys.toFinset = PipelineState.uidsOf queue := by
  obtain ⟨listing, listed, held⟩ := queued
  have keys : listing.map Prod.fst = queue.map jobUidFromSnapshot := related_keys holds_key held
  have same : (listing.map Prod.fst).toFinset = table.keys.toFinset :=
    List.toFinset_eq_of_perm _ _ (listed.perm.map Prod.fst)
  rw [← same, keys]
  rfl

theorem length_queued (queued : Queued table queue) : table.entries.length = queue.length := by
  obtain ⟨listing, listed, held⟩ := queued
  rw [← listed.perm.length_eq, held.length_eq]

theorem queued_normal (queued : Queued table queue) : ∀ record ∈ queue, Normal record := by
  obtain ⟨listing, -, held⟩ := queued
  intro record member
  induction held with
  | nil => cases member
  | cons head _ ih =>
    rcases List.mem_cons.mp member with rfl | later
    · exact ⟨_, head.2⟩
    · exact ih later

theorem queued_without (queued : Queued table queue) (dropped : Finset String)
    (entries : after.entries = Fresh.without Prod.fst dropped table.entries) :
    Queued after (Fresh.without jobUidFromSnapshot dropped queue) := by
  obtain ⟨listing, listed, held⟩ := queued
  exact ⟨_, listed.without dropped entries, related_without holds_key held dropped⟩

theorem queued_erase (queued : Queued table queue) (jobUid : String) :
    Queued (table.erase jobUid) (Fresh.without jobUidFromSnapshot {jobUid} queue) := by
  apply queued_without queued
  apply List.filter_congr
  simp

section Positions

omit [Python] [JsonText]

theorem length_queuePositionRange (count : ℕ) (front : Bool) :
    (queuePositionRange table count front).length = count := by
  simp [queuePositionRange]

theorem pairwise_queuePositionRange (count : ℕ) (front : Bool) :
    (queuePositionRange table count front).Pairwise (· < ·) := by
  unfold queuePositionRange
  refine List.pairwise_map.mpr (List.pairwise_lt_range.imp ?_)
  intro first second below
  simpa using below

theorem queuePositionRange_below {count : ℕ} {p : Int} (given : p ∈ queuePositionRange table count true)
    {row : String × QueueRow} (member : row ∈ table.entries) : p < position row := by
  obtain ⟨i, inside, rfl⟩ := List.mem_map.mp given
  have listed : position row ∈ table.entries.map fun row => row.2.queuePosition := List.mem_map_of_mem member
  obtain ⟨least, found⟩ := Option.isSome_iff_exists.mp (List.isSome_min?_of_mem listed)
  have most : least ≤ position row := (List.min?_eq_some_iff.mp found).2 _ listed
  have few : i < count := List.mem_range.mp inside
  simp only [found, if_true, Option.getD_some]
  omega

theorem queuePositionRange_above {count : ℕ} {p : Int} (given : p ∈ queuePositionRange table count false)
    {row : String × QueueRow} (member : row ∈ table.entries) : position row < p := by
  obtain ⟨i, inside, rfl⟩ := List.mem_map.mp given
  have listed : position row ∈ table.entries.map fun row => row.2.queuePosition := List.mem_map_of_mem member
  obtain ⟨greatest, found⟩ := Option.isSome_iff_exists.mp (List.isSome_max?_of_mem listed)
  have least : position row ≤ greatest := (List.max?_eq_some_iff.mp found).2 _ listed
  simp only [found, Bool.false_eq_true, if_false, Option.getD_some]
  omega

end Positions

theorem newRows_ok {positions : List Int} (normal : ∀ record ∈ snapshots, Normal record)
    (room : ∀ p ∈ positions, fits p = true) (long : positions.length = snapshots.length) :
    ∃ rows, newRows snapshots positions = .ok rows ∧ List.Forall₂ Holds rows snapshots ∧
      rows.map position = positions := by
  induction snapshots generalizing positions with
  | nil =>
    have none : positions = [] := List.length_eq_zero_iff.mp long
    exact ⟨[], by rw [none]; rfl, .nil, none.symm⟩
  | cons record snapshots ih =>
    cases positions with
    | nil => cases long
    | cons p positions =>
      obtain ⟨text, spells⟩ := normal record List.mem_cons_self
      obtain ⟨rows, made, held, placed⟩ := ih (fun other member => normal other (List.mem_cons_of_mem _ member))
        (fun other member => room other (List.mem_cons_of_mem _ member)) (Nat.succ.inj long)
      refine ⟨(jobUidFromSnapshot record, ⟨p, text⟩) :: rows, ?_, .cons ⟨rfl, spells⟩ held, ?_⟩
      · rw [newRows, spells.1, bindInteger, if_pos (room p List.mem_cons_self), made]
        rfl
      · rw [List.map_cons, placed]
        rfl

/-- A position that no column holds is refused. -/
theorem newRows_refused {positions : List Int} (made : newRows snapshots positions = .ok rows)
    (long : positions.length = snapshots.length) : ∀ p ∈ positions, fits p = true := by
  induction snapshots generalizing positions rows with
  | nil =>
    rw [List.length_eq_zero_iff.mp long]
    exact fun p member => absurd member List.not_mem_nil
  | cons record snapshots ih =>
    cases positions with
    | nil => cases long
    | cons p positions =>
      rw [newRows] at made
      cases written : dumps record with
      | error raised => rw [written] at made; cases made
      | ok text =>
        rw [written] at made
        by_cases small : fits p = true
        · rw [bindInteger, if_pos small] at made
          cases rest : newRows snapshots positions with
          | error raised => rw [rest] at made; cases made
          | ok more =>
            intro other member
            rcases List.mem_cons.mp member with rfl | later
            · exact small
            · exact ih rest (Nat.succ.inj long) other later
        · rw [bindInteger, if_neg small] at made
          cases made

theorem newRows_positions {positions : List Int} (made : newRows snapshots positions = .ok rows) :
    ∀ row ∈ rows, position row ∈ positions := by
  induction snapshots generalizing positions rows with
  | nil =>
    cases made
    exact fun row member => absurd member List.not_mem_nil
  | cons record snapshots ih =>
    cases positions with
    | nil =>
      cases made
      exact fun row member => absurd member List.not_mem_nil
    | cons p positions =>
      rw [newRows] at made
      cases written : dumps record with
      | error raised => rw [written] at made; cases made
      | ok text =>
        rw [written] at made
        by_cases small : fits p = true
        · rw [bindInteger, if_pos small] at made
          cases rest : newRows snapshots positions with
          | error raised => rw [rest] at made; cases made
          | ok more =>
            rw [rest] at made
            cases made
            intro row member
            rcases List.mem_cons.mp member with rfl | later
            · exact List.mem_cons_self
            · exact List.mem_cons_of_mem _ (ih rest row later)
        · rw [bindInteger, if_neg small] at made
          cases made

/-- Rows in front of all others. -/
theorem queued_front (queued : Queued table queue) (held : List.Forall₂ Holds rows snapshots)
    (placed : rows.map position = queuePositionRange table snapshots.length true)
    (entries : after.entries = table.entries ++ rows) : Queued after (snapshots ++ queue) := by
  obtain ⟨listing, listed, before⟩ := queued
  refine ⟨rows ++ listing, listed.front entries ?_ ?_, List.rel_append held before⟩
  · apply List.pairwise_map.mp
    rw [placed]
    exact pairwise_queuePositionRange _ _
  · intro first fresh second old
    exact queuePositionRange_below (placed ▸ List.mem_map_of_mem fresh) old

theorem queued_back (queued : Queued table queue) (held : List.Forall₂ Holds rows snapshots)
    (placed : rows.map position = queuePositionRange table snapshots.length false)
    (entries : after.entries = table.entries ++ rows) : Queued after (queue ++ snapshots) := by
  obtain ⟨listing, listed, before⟩ := queued
  refine ⟨listing ++ rows, listed.back entries ?_ ?_, List.rel_append before held⟩
  · apply List.pairwise_map.mp
    rw [placed]
    exact pairwise_queuePositionRange _ _
  · intro first fresh second old
    exact queuePositionRange_above (placed ▸ List.mem_map_of_mem fresh) old

end Rows

section Mirrors

variable [Python] [JsonText] {memory : Memory} {sqlite : Sqlite}

/-- The tables hold what the collections hold: the queue in order, texts for the records, the attempts under
the same ids, the last of which is the last that was given. -/
structure Mirrors (memory : Memory) (sqlite : Sqlite) : Prop where
  queue : Queued sqlite.queue memory.queue
  successes : ∀ uid, Option.Rel Spells (sqlite.successes.get? uid) (memory.successes.get? uid)
  failed : ∀ uid, Option.Rel Spells ((sqlite.failed.get? uid).map FailedRow.metadata) (memory.failed.get? uid)
  payloads : ∀ uid,
    Option.Rel Spells ((sqlite.failed.get? uid).bind FailedRow.payload) (memory.failurePayloads.get? uid)
  cursors : ∀ key, sqlite.cursors.get? key = memory.cursors.get? key
  attempts : sqlite.attempts.entries = Dict.mapEntries AttemptRow.ofRecord memory.attempts.entries
  numbered : memory.attempts.keys.Pairwise (· < ·)
  given : ∀ id ∈ memory.attempts.keys, 0 < id ∧ id ≤ sqlite.attemptSequence
  sequence : memory.attemptSeq = sqlite.attemptSequence + 1
  bounded : fits sqlite.attemptSequence = true

/-- Everything that is loaded from the two backends is the same. -/
structure Agrees (memory : Memory) (sqlite : Sqlite) : Prop where
  queue : sqlite.loadQueue = .ok memory.queue
  successes : ∃ loaded, sqlite.loadSuccesses = .ok loaded ∧ ∀ uid, loaded.get? uid = memory.successes.get? uid
  failed : ∃ loaded, sqlite.loadFailed = .ok loaded ∧ ∀ uid, loaded.get? uid = memory.failed.get? uid
  payloads : ∃ loaded, sqlite.loadFailurePayloads = .ok loaded ∧
    ∀ uid, loaded.get? uid = memory.failurePayloads.get? uid
  cursors : ∀ key, sqlite.loadCursors.get? key = memory.cursors.get? key
  attempts : ∀ uid, sqlite.loadAttempts uid = .ok (memory.loadAttempts uid)
  latest : ∀ uid, sqlite.loadLatestSucceededFinishedAt uid = memory.loadLatestSucceededFinishedAt uid

theorem mirrors_empty : Mirrors Memory.empty Sqlite.empty where
  queue := ⟨[], ⟨List.Perm.refl _, .nil⟩, .nil⟩
  successes := fun _ => .none
  failed := fun _ => .none
  payloads := fun _ => .none
  cursors := fun _ => rfl
  attempts := rfl
  numbered := .nil
  given := fun _ member => absurd member List.not_mem_nil
  sequence := rfl
  bounded := rfl

/-- The attempts come in the order of their ids. -/
theorem attempts_listed (mirrors : Mirrors memory sqlite) :
    Table.orderBy Prod.fst sqlite.attempts = Dict.mapEntries AttemptRow.ofRecord memory.attempts.entries := by
  apply Table.orderBy_eq
  rw [← mirrors.attempts]
  refine ⟨List.Perm.refl _, List.pairwise_map.mp ?_⟩
  rw [mirrors.attempts, Dict.keys_mapEntries]
  exact mirrors.numbered

theorem get?_attempts (mirrors : Mirrors memory sqlite) (id : Int) :
    sqlite.attempts.get? id = (memory.attempts.get? id).map AttemptRow.ofRecord := by
  rw [Dict.get?, mirrors.attempts, Dict.find_mapEntries]
  rfl

/-- The ids that were given have room in their column. -/
theorem fits_given (mirrors : Mirrors memory sqlite) {id : Int} (given : id ∈ memory.attempts.keys) :
    fits id = true := by
  have bounds := mirrors.given id given
  have bounded := mirrors.bounded
  simp only [fits, decide_eq_true_eq] at bounded ⊢
  omega

theorem mirrors_agrees (mirrors : Mirrors memory sqlite) : Agrees memory sqlite where
  queue := loadQueue_eq mirrors.queue
  successes := loadRecords_eq sqlite.successes.distinct mirrors.successes
  failed := by
    apply loadRecords_eq
    · rw [Dict.keys_mapEntries]
      exact sqlite.failed.distinct
    · intro uid
      rw [Dict.find_mapEntries]
      exact mirrors.failed uid
  payloads := by
    apply loadRecords_eq
    · exact sqlite.failed.distinct.sublist (Dict.keys_chooseEntries _ _)
    · intro uid
      rw [Dict.find_chooseEntries _ sqlite.failed.distinct]
      exact mirrors.payloads uid
  cursors := by
    intro key
    rw [loadCursors, Dict.get?, Dict.entries_ofPairs sqlite.cursors.distinct]
    exact mirrors.cursors key
  attempts := by
    intro uid
    rw [loadAttempts, attempts_listed mirrors, Memory.loadAttempts, Dict.mapEntries, List.filter_map, List.filter_map]
    apply mapM_eq_ok
    refine List.forall₂_map_left_iff.mpr (List.forall₂_map_right_iff.mpr ?_)
    refine List.forall₂_same.mpr fun entry _ => ?_
    exact AttemptRow.fromDict_ofRecord entry.2
  latest := by
    intro uid
    rw [loadLatestSucceededFinishedAt, attempts_listed mirrors, Memory.loadLatestSucceededFinishedAt, Dict.mapEntries,
      ← List.map_reverse, ← List.map_reverse, List.find?_map, List.find?_map]
    have tests : ((fun row : Int × AttemptRow => decide (row.2.jobUid = uid ∧ row.2.outcome = .succeeded)) ∘
        fun entry : Int × AttemptRecord => (entry.1, AttemptRow.ofRecord entry.2)) =
          (fun record : AttemptRecord => decide (record.jobUid.val = uid ∧ record.outcome = .succeeded)) ∘
            Prod.snd := rfl
    rw [tests]
    cases List.find? _ memory.attempts.entries.reverse with
    | none => rfl
    | some entry =>
      show Option.filter _ (entry.2.finishedAt.map Subtype.val) = entry.2.finishedAt.map Subtype.val
      cases finished : entry.2.finishedAt with
      | none => rfl
      | some stamp => simp [Option.filter, stamp.property]

end Mirrors

end Tasklite.Backend.Mirroring
