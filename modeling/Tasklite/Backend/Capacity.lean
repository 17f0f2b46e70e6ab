import Tasklite.Backend.Parity
import Tasklite.Models.Identity

/-! How long the positions of the queue table last. Rows in front of the others count down and rows behind them
count up, and a row that goes gives no position back; still the positions stay within the number of rows that
were ever inserted, so that the SQLite backend keeps up with the in-memory one for 2^63 - 1 rows. -/

namespace Tasklite.Backend.Capacity
open Tasklite.Library Tasklite.Models Tasklite.Models.Identity Sqlite Mirroring Simulation Parity

section Few

variable [Python] [JsonText] {sqlite : Sqlite} {operation : Operation} {n : ℕ}

omit [Python] in
/-- What a replacement puts in place of the queue, if it comes to that. -/
def replacement (sqlite : Sqlite) (compute : List Record → Except String (List Record)) : List Record :=
  match sqlite.loadQueue with
  | .error _ => []
  | .ok queue => match compute queue with
      | .error _ => []
      | .ok rows => rows

/-- The positions that an operation takes. -/
def allotted (sqlite : Sqlite) : Operation → List Int
  | .enqueueJobs snapshots front => queuePositionRange sqlite.queue
      (Fresh.fresh jobUidFromSnapshot sqlite.queue.keys.toFinset snapshots).length front
  | .saveQueue snapshots => numbers snapshots
  | .replaceQueueAtomic compute => numbers (replacement sqlite compute)
  | .commitJobSuccess success =>
      queuePositionRange (sqlite.queue.erase success.jobUid) success.spawned.length true
  | .commitRetry poppedJobUid _ front => queuePositionRange (sqlite.queue.erase poppedJobUid) 1 front
  | _ => []

/-- The rows that an operation inserts into the queue table or the attempts. -/
def inserts (sqlite : Sqlite) : Operation → ℕ
  | .appendAttempt _ => 1
  | operation => (allotted sqlite operation).length

/-- The integers that an operation brings along have room in their columns. -/
def Numbered : Operation → Prop
  | .appendAttempt record => fits record.activationNo.val = true ∧ fits record.attemptNo.val = true
  | .updateAttempt attemptId _ _ _ => fits attemptId = true
  | _ => True

/-- Positions and ids are within a number of insertions. -/
structure Within (n : ℕ) (sqlite : Sqlite) : Prop where
  positions : ∀ row ∈ sqlite.queue.entries, -(n : Int) ≤ position row ∧ position row < n
  given : sqlite.attemptSequence ≤ n

section Positions

omit [Python] [JsonText] in
theorem queuePositionRange_within {queue : Dict String QueueRow}
    (within : ∀ row ∈ queue.entries, -(n : Int) ≤ position row ∧ position row < n) {count : ℕ} {front : Bool}
    {p : Int} (given : p ∈ queuePositionRange queue count front) :
    -((n + count : ℕ) : Int) ≤ p ∧ p < (n + count : ℕ) := by
  have bounds : ∀ value ∈ queue.entries.map (fun row => row.2.queuePosition), -(n : Int) ≤ value ∧ value < n := by
    intro value member
    obtain ⟨row, inside, rfl⟩ := List.mem_map.mp member
    exact within row inside
  obtain ⟨i, inside, rfl⟩ := List.mem_map.mp given
  have below : i < count := List.mem_range.mp inside
  cases front with
  | true =>
    cases least : (queue.entries.map fun row => row.2.queuePosition).min? with
    | none =>
      simp only [if_true, Option.getD_none]
      omega
    | some value =>
      have bound := bounds value (List.min?_mem least)
      simp only [if_true, Option.getD_some]
      omega
  | false =>
    cases greatest : (queue.entries.map fun row => row.2.queuePosition).max? with
    | none =>
      simp only [Bool.false_eq_true, if_false, Option.getD_none]
      omega
    | some value =>
      have bound := bounds value (List.max?_mem greatest)
      simp only [Bool.false_eq_true, if_false, Option.getD_some]
      omega

omit [Python] [JsonText] in
theorem erase_within {queue : Dict String QueueRow}
    (within : ∀ row ∈ queue.entries, -(n : Int) ≤ position row ∧ position row < n) (jobUid : String) :
    ∀ row ∈ (queue.erase jobUid).entries, -(n : Int) ≤ position row ∧ position row < n :=
  fun row member => within row (List.mem_of_mem_filter member)

omit [JsonText] in
theorem numbers_within (snapshots : List Record) {p : Int} (given : p ∈ numbers snapshots) :
    0 ≤ p ∧ p < (numbers snapshots).length := by
  obtain ⟨i, inside, rfl⟩ := List.mem_map.mp given
  rw [length_numbers]
  exact ⟨Int.natCast_nonneg i, Int.ofNat_lt.mpr (List.mem_range.mp inside)⟩

theorem allotted_within (within : Within n sqlite) {p : Int} (given : p ∈ allotted sqlite operation) :
    -((n + inserts sqlite operation : ℕ) : Int) ≤ p ∧ p < (n + inserts sqlite operation : ℕ) := by
  have counted : ∀ snapshots, p ∈ numbers snapshots →
      -((n + (numbers snapshots).length : ℕ) : Int) ≤ p ∧ p < (n + (numbers snapshots).length : ℕ) := by
    intro snapshots member
    have bounds := numbers_within snapshots member
    omega
  cases operation with
  | enqueueJobs snapshots front =>
    rw [inserts, allotted, length_queuePositionRange]
    · exact queuePositionRange_within within.positions given
    · nofun
  | saveQueue snapshots => exact counted snapshots given
  | replaceQueueAtomic compute => exact counted _ given
  | commitJobSuccess success =>
    rw [inserts, allotted, length_queuePositionRange]
    · exact queuePositionRange_within (erase_within within.positions _) given
    · nofun
  | commitRetry poppedJobUid requeued front =>
    rw [inserts, allotted, length_queuePositionRange]
    · exact queuePositionRange_within (erase_within within.positions _) given
    · nofun
  | _ => cases given

end Positions

section Calls

/-- Every row of the queue table was there before, or has one of the positions; the attempt ids have gone up by no
more than a number. -/
structure Carried (before : Sqlite) (positions : List Int) (added : ℕ) (after : Sqlite) : Prop where
  rows : ∀ row ∈ after.queue.entries, row ∈ before.queue.entries ∨ position row ∈ positions
  sequence : after.attemptSequence ≤ before.attemptSequence + added

variable {positions : List Int} {added : ℕ}

omit [Python] [JsonText]

theorem carried_aside {after : Sqlite} (same : after.queue = sqlite.queue)
    (sequence : after.attemptSequence = sqlite.attemptSequence) : Carried sqlite positions added after :=
  ⟨fun _ member => .inl (same ▸ member), sequence ▸ Nat.le_add_right _ _⟩

theorem carried_transact {α : Type} {block : Except SqlError (Sqlite × α)}
    (through : ∀ after value, block = .ok (after, value) → Carried sqlite positions added after) :
    Carried sqlite positions added (Table.transact sqlite block).1 :=
  Table.transact_keeps (carried_aside rfl rfl) through

theorem carried_committed {block : Except SqlError (Sqlite × Unit)}
    (through : ∀ after value, block = .ok (after, value) → Carried sqlite positions added after) :
    Carried sqlite positions added (sqlite.committed block).1 := by
  have carried := carried_transact through
  unfold committed
  split
  · rename_i ended
    rw [ended] at carried
    exact carried
  · rename_i ended
    rw [ended] at carried
    exact carried

theorem inserted_rows {queue after : Dict String QueueRow} {rows : List (String × QueueRow)}
    (inserted : insertRows queue rows = .ok after) {row : String × QueueRow} (member : row ∈ after.entries) :
    row ∈ queue.entries ∨ row ∈ rows := by
  unfold insertRows at inserted
  split at inserted
  · cases inserted
  · rename_i made
    cases inserted
    rw [Table.entries_insertMany made] at member
    exact List.mem_append.mp member

variable [Python] [JsonText]

theorem spawned_rows {queue after : Dict String QueueRow} {spawned : List Record}
    (inserted : insertSpawned queue spawned = .ok after) {row : String × QueueRow} (member : row ∈ after.entries) :
    row ∈ queue.entries ∨ position row ∈ queuePositionRange queue spawned.length true := by
  obtain ⟨rows, made, rest⟩ := bind_eq_ok.mp inserted
  dsimp only at rest
  split at rest
  · cases rest
  · cases rest
    rw [(Table.insertOrIgnoreMany_eq queue rows).1] at member
    refine (List.mem_append.mp member).imp_right fun new => ?_
    exact newRows_positions made row ((Fresh.fresh_sublist _ rows).subset new)

theorem rewriteQueueRows_carried {snapshots : List Record} {after : Sqlite} {value : Unit}
    (rewritten : sqlite.rewriteQueueRows snapshots = .ok (after, value)) :
    Carried sqlite (numbers snapshots) added after := by
  obtain ⟨rows, made, rest⟩ := bind_eq_ok.mp rewritten
  cases rest
  refine ⟨fun row inside => ?_, Nat.le_add_right _ _⟩
  rcases Table.mem_insertOrReplaceMany inside with before | taken
  · cases before
  · exact .inr (newRows_positions made row taken)

theorem call_carried :
    Carried sqlite (allotted sqlite operation) (inserts sqlite operation) (sqliteStep sqlite operation) := by
  cases operation with
  | enqueueJobs snapshots front =>
    refine carried_transact fun after value through => ?_
    obtain ⟨rows, made, more⟩ := bind_eq_ok.mp through
    obtain ⟨queue, inserted, rest⟩ := bind_eq_ok.mp more
    cases rest
    exact ⟨fun row member => (inserted_rows inserted member).imp_right (newRows_positions made row),
      Nat.le_add_right _ _⟩
  | saveQueue snapshots => exact carried_transact fun _ _ => rewriteQueueRows_carried
  | replaceQueueAtomic compute =>
    refine carried_transact fun after value through => ?_
    obtain ⟨queue, loaded, rest⟩ := bind_eq_ok.mp through
    cases computed : compute queue with
    | error raised =>
      rw [computed] at rest
      cases rest
    | ok rows =>
      rw [computed] at rest
      have same : replacement sqlite compute = rows := by simp only [replacement, loaded, computed]
      rw [allotted, same]
      exact rewriteQueueRows_carried rest
  | commitJobSuccess success =>
    simp only [sqliteStep, sqliteCall, commitJobSuccess, Prod.map_fst, id]
    split
    · exact carried_aside rfl rfl
    · split
      · exact carried_aside rfl rfl
      · split
        · exact carried_aside rfl rfl
        · refine carried_committed fun after value through => ?_
          obtain ⟨id, -, one⟩ := bind_eq_ok.mp through
          obtain ⟨row, -, two⟩ := bind_eq_ok.mp one
          obtain ⟨metadata, -, three⟩ := bind_eq_ok.mp two
          obtain ⟨queue, inserted, rest⟩ := bind_eq_ok.mp three
          cases rest
          exact ⟨fun row member => (spawned_rows inserted member).imp_left List.mem_of_mem_filter,
            Nat.le_add_right _ _⟩
  | commitJobFailure jobUid metadata payload =>
    refine carried_committed fun after value through => ?_
    obtain ⟨failed, -, rest⟩ := bind_eq_ok.mp through
    cases rest
    exact ⟨fun row member => .inl (List.mem_of_mem_filter member), Nat.le_add_right _ _⟩
  | commitJobFailures uidsMetadata =>
    refine carried_committed fun after value through => ?_
    obtain ⟨failed, -, rest⟩ := bind_eq_ok.mp through
    cases rest
    refine ⟨fun row member => ?_, Nat.le_add_right _ _⟩
    rw [Table.entries_deleteMany] at member
    exact .inl (List.mem_of_mem_filter member)
  | commitRetry poppedJobUid requeued front =>
    refine carried_committed fun after value through => ?_
    obtain ⟨rows, made, more⟩ := bind_eq_ok.mp through
    obtain ⟨queue, inserted, rest⟩ := bind_eq_ok.mp more
    cases rest
    exact ⟨fun row member => (inserted_rows inserted member).imp List.mem_of_mem_filter (newRows_positions made row),
      Nat.le_add_right _ _⟩
  | commitSkip jobUid => exact ⟨fun row member => .inl (List.mem_of_mem_filter member), Nat.le_add_right _ _⟩
  | appendFailed jobUid metadata =>
    refine carried_transact fun after value through => ?_
    obtain ⟨failed, -, rest⟩ := bind_eq_ok.mp through
    cases rest
    exact carried_aside rfl rfl
  | deleteQueueUids jobUids =>
    refine ⟨fun row member => ?_, Nat.le_add_right _ _⟩
    rw [show (sqliteStep sqlite (.deleteQueueUids jobUids)).queue =
        (Table.deleteMany sqlite.queue jobUids).1 from rfl,
      Table.entries_deleteMany] at member
    exact .inl (List.mem_of_mem_filter member)
  | deleteFailed jobUids => exact carried_aside rfl rfl
  | deleteSuccesses jobUids => exact carried_aside rfl rfl
  | seedSuccesses jobUids =>
    simp only [sqliteStep, sqliteCall, seedSuccesses, Prod.map_fst, id]
    split
    · exact carried_aside rfl rfl
    · refine carried_transact fun after value through => ?_
      split at through
      · cases through
      · obtain ⟨metadata, -, rest⟩ := bind_eq_ok.mp through
        cases rest
        exact carried_aside rfl rfl
  | seedCursor key value =>
    simp only [sqliteStep, sqliteCall, seedCursor, Prod.map_fst, id]
    split
    · exact carried_aside rfl rfl
    · exact carried_aside rfl rfl
  | appendAttempt record =>
    simp only [sqliteStep, sqliteCall, appendAttempt, Prod.map_fst, id]
    split
    · refine carried_transact fun after value through => ?_
      obtain ⟨activation, -, one⟩ := bind_eq_ok.mp through
      obtain ⟨attempt, -, two⟩ := bind_eq_ok.mp one
      obtain ⟨attemptId, next, rest⟩ := bind_eq_ok.mp two
      cases rest
      refine ⟨fun _ member => .inl member, ?_⟩
      unfold nextAttemptId at next
      split at next
      · cases next
        exact le_refl _
      · cases next
    · exact carried_aside rfl rfl
  | updateAttempt attemptId outcome finishedAt errorMessage =>
    simp only [sqliteStep, sqliteCall, updateAttempt, Prod.map_fst, id]
    split
    · exact carried_aside rfl rfl
    · refine carried_transact fun after value through => ?_
      obtain ⟨attemptId, -, one⟩ := bind_eq_ok.mp through
      split at one
      · cases one
        exact carried_aside rfl rfl
      · split at one
        · cases one
        · cases one
          exact carried_aside rfl rfl

end Calls

omit [Python] [JsonText] in
theorem within_empty : Within 0 Sqlite.empty := ⟨fun _ member => absurd member List.not_mem_nil, le_refl 0⟩

theorem within_call (within : Within n sqlite) :
    Within (n + inserts sqlite operation) (sqliteStep sqlite operation) where
  positions := by
    intro row member
    rcases call_carried.rows row member with before | taken
    · have bounds := within.positions row before
      omega
    · exact allotted_within within taken
  given := by
    have sequence :
        (sqliteStep sqlite operation).attemptSequence ≤ sqlite.attemptSequence + inserts sqlite operation :=
      call_carried.sequence
    have given := within.given
    omega

theorem fits_of_within (within : Within n sqlite) (numbered : Numbered operation)
    (few : n + inserts sqlite operation ≤ 9223372036854775807) : Fits sqlite operation := by
  have room : Room (allotted sqlite operation) := by
    intro p given
    have bounds := allotted_within within given
    simp only [fits, decide_eq_true_eq]
    omega
  cases operation with
  | enqueueJobs snapshots front => exact room
  | saveQueue snapshots => exact room
  | replaceQueueAtomic compute =>
    intro queue rows loaded computed
    have same : replacement sqlite compute = rows := by simp only [replacement, loaded, computed]
    rw [← same]
    exact room
  | commitJobSuccess success => exact fun _ => room
  | commitRetry poppedJobUid requeued front => exact fun _ => room
  | appendAttempt record =>
    intro _
    refine ⟨numbered.1, numbered.2, ?_⟩
    have given := within.given
    have one : n + 1 ≤ 9223372036854775807 := few
    simp only [fits, decide_eq_true_eq]
    omega
  | updateAttempt attemptId outcome finishedAt errorMessage => exact fun _ => numbered
  | _ => trivial

/-- The rows that a list of operations inserts. -/
def inserted : Sqlite → List Operation → ℕ
  | _, [] => 0
  | sqlite, operation :: rest => inserts sqlite operation + inserted (sqliteStep sqlite operation) rest

theorem along_of_few (within : Within n sqlite) {operations : List Operation}
    (numbered : ∀ operation ∈ operations, Numbered operation)
    (few : n + inserted sqlite operations ≤ 9223372036854775807) :
    Machine.Along sqliteStep Fits sqlite operations := by
  induction operations generalizing n sqlite with
  | nil => trivial
  | cons operation rest ih =>
    rw [inserted, ← Nat.add_assoc] at few
    refine ⟨fits_of_within within (numbered operation List.mem_cons_self) (by omega), ?_⟩
    exact ih (within_call within) (fun other member => numbered other (List.mem_cons_of_mem _ member)) few

end Few

section Sample

local instance : Python := Python.sample
local instance : JsonText := sampleText

end Sample

end Tasklite.Backend.Capacity
