import Tasklite.Backend.Mirroring

/-! The methods of the SQLite backend against those of the in-memory one. Where one mirrors the other before a
call, the answers are the same and it does so after the call, provided that every integer that is bound has room
in its column; where one has no room, the method raises or answers `False`. -/

namespace Tasklite.Backend.Simulation
open Tasklite.Library Tasklite.Models Sqlite Mirroring

variable [Python] [JsonText] {memory : Memory} {sqlite : Sqlite}

section Queue

omit [Python] [JsonText] in
/-- The positions that rows would take have room in their column. -/
def Room (positions : List Int) : Prop := ∀ p ∈ positions, fits p = true

/-- Rows are new to a table exactly when their records are. -/
theorem fresh_rows_iff {rows : List (String × QueueRow)} {snapshots : List Record}
    (held : List.Forall₂ Holds rows snapshots) (seen : Finset String) :
    Fresh.fresh Prod.fst seen rows = rows ↔ Fresh.fresh jobUidFromSnapshot seen snapshots = snapshots := by
  have lengths := held.length_eq
  have left := (related_fresh holds_key held seen).length_eq
  constructor
  · intro all
    apply (Fresh.fresh_sublist seen snapshots).eq_of_length
    rw [← left, all, lengths]
  · intro all
    apply (Fresh.fresh_sublist seen rows).eq_of_length
    rw [left, all, lengths]

theorem fresh_normal {snapshots : List Record} (normal : ∀ record ∈ snapshots, Normal record) (seen : Finset String) :
    ∀ record ∈ Fresh.fresh jobUidFromSnapshot seen snapshots, Normal record :=
  fun record member => normal record ((Fresh.fresh_sublist seen snapshots).subset member)

theorem enqueueJobs_mirrors (mirrors : Mirrors memory sqlite) {snapshots : List Record}
    (normal : ∀ record ∈ snapshots, Normal record) {front : Bool}
    (room : Room (queuePositionRange sqlite.queue
      (Fresh.fresh jobUidFromSnapshot sqlite.queue.keys.toFinset snapshots).length front)) :
    ∃ after, sqlite.enqueueJobs snapshots front = (after, .ok (memory.enqueueJobs snapshots front).2) ∧
      Mirrors (memory.enqueueJobs snapshots front).1 after := by
  have uids : sqlite.queue.keys.toFinset = PipelineState.uidsOf memory.queue := uids_eq mirrors.queue
  rw [uids] at room
  obtain ⟨rows, made, held, placed⟩ := newRows_ok (fresh_normal normal _) room (length_queuePositionRange _ _)
  have new := (fresh_rows_iff held sqlite.queue.keys.toFinset).mpr (by rw [uids]; exact Fresh.fresh_fresh _ _)
  obtain ⟨queue, inserted, entries⟩ := Table.insertMany_of_fresh new
  refine ⟨{ sqlite with queue := queue }, ?_, ?_⟩
  · simp only [enqueueJobs, uids, made, insertRows, bind, Except.bind, inserted]
    rfl
  · have queued : Queued queue (memory.enqueueJobs snapshots front).1.queue := by
      cases front with
      | true => exact queued_front mirrors.queue held placed entries
      | false => exact queued_back mirrors.queue held placed entries
    exact { mirrors with queue := queued }

theorem enqueueJobs_refused {snapshots : List Record} {front : Bool}
    (cramped : ¬Room (queuePositionRange sqlite.queue
      (Fresh.fresh jobUidFromSnapshot sqlite.queue.keys.toFinset snapshots).length front)) :
    ∃ raised, (sqlite.enqueueJobs snapshots front).2 = .error raised := by
  cases made : newRows (Fresh.fresh jobUidFromSnapshot sqlite.queue.keys.toFinset snapshots)
      (queuePositionRange sqlite.queue _ front) with
  | ok rows => exact absurd (newRows_refused made (length_queuePositionRange _ _)) cramped
  | error raised => exact ⟨raised, by simp only [enqueueJobs, made]; rfl⟩

/-- The positions of a replacement count its rows. -/
def numbers (snapshots : List Record) : List Int :=
  (List.range (Fresh.fresh jobUidFromSnapshot ∅ snapshots).length).map Int.ofNat

omit [JsonText] in
theorem length_numbers (snapshots : List Record) :
    (numbers snapshots).length = (Fresh.fresh jobUidFromSnapshot ∅ snapshots).length := by
  simp [numbers]

theorem rewriteQueueRows_mirrors (mirrors : Mirrors memory sqlite) {snapshots : List Record}
    (normal : ∀ record ∈ snapshots, Normal record) (room : Room (numbers snapshots)) :
    ∃ after, sqlite.rewriteQueueRows snapshots = .ok (after, ()) ∧ Mirrors (memory.saveQueue snapshots) after := by
  obtain ⟨rows, made, held, placed⟩ := newRows_ok (fresh_normal normal ∅) room (length_numbers snapshots)
  have new := (fresh_rows_iff held ∅).mpr (Fresh.fresh_fresh _ _)
  obtain ⟨queue, inserted, entries⟩ :
      ∃ after, Table.insertMany Dict.empty rows = some after ∧ after.entries = [] ++ rows :=
    Table.insertMany_of_fresh new
  refine ⟨{ sqlite with queue := queue }, ?_, ?_⟩
  · rw [rewriteQueueRows, show (List.range _).map Int.ofNat = numbers snapshots from rfl, made,
      ← Table.insertOrReplaceMany_eq inserted]
    rfl
  · have listed : Table.Listed position queue rows := by
      refine ⟨by rw [entries]; exact List.Perm.refl _, List.pairwise_map.mp ?_⟩
      rw [placed]
      exact List.pairwise_map.mpr (List.pairwise_lt_range.imp Int.ofNat_lt.mpr)
    exact { mirrors with queue := ⟨rows, listed, held⟩ }

theorem rewriteQueueRows_refused {snapshots : List Record} (cramped : ¬Room (numbers snapshots)) :
    ∃ raised, sqlite.rewriteQueueRows snapshots = .error raised := by
  cases made : newRows (Fresh.fresh jobUidFromSnapshot ∅ snapshots) (numbers snapshots) with
  | ok rows => exact absurd (newRows_refused made (length_numbers snapshots)) cramped
  | error raised =>
    refine ⟨raised, ?_⟩
    rw [rewriteQueueRows, show (List.range _).map Int.ofNat = numbers snapshots from rfl, made]
    rfl

theorem saveQueue_mirrors (mirrors : Mirrors memory sqlite) {snapshots : List Record}
    (normal : ∀ record ∈ snapshots, Normal record) (room : Room (numbers snapshots)) :
    ∃ after, sqlite.saveQueue snapshots = (after, .ok ()) ∧ Mirrors (memory.saveQueue snapshots) after := by
  obtain ⟨after, written, mirrored⟩ := rewriteQueueRows_mirrors mirrors normal room
  exact ⟨after, by rw [saveQueue, written]; rfl, mirrored⟩

theorem replaceQueueAtomic_eq (mirrors : Mirrors memory sqlite)
    (compute : List Record → Except String (List Record)) :
    sqlite.replaceQueueAtomic compute = match compute memory.queue with
      | .error raised => (sqlite, .error (.compute raised))
      | .ok rows => sqlite.saveQueue rows := by
  rw [replaceQueueAtomic, loadQueue_eq mirrors.queue]
  show Table.transact sqlite (match compute memory.queue with
    | .error raised => .error (.compute raised)
    | .ok rows => sqlite.rewriteQueueRows rows) = _
  cases compute memory.queue with
  | error raised => rfl
  | ok rows => rfl

end Queue

section Removal

theorem erase_mirrors (mirrors : Mirrors memory sqlite) (jobUid : String) :
    Queued (sqlite.queue.erase jobUid) (memory.remaining jobUid) := queued_erase mirrors.queue jobUid

theorem commitSkip_mirrors (mirrors : Mirrors memory sqlite) (jobUid : String) :
    ∃ after, sqlite.commitSkip jobUid = (after, true) ∧ Mirrors (memory.commitSkip jobUid).1 after :=
  ⟨_, rfl, { mirrors with queue := erase_mirrors mirrors jobUid }⟩

theorem deleteQueueUids_mirrors (mirrors : Mirrors memory sqlite) (jobUids : List String) :
    (sqlite.deleteQueueUids jobUids).2 = (memory.deleteQueueUids jobUids).2 ∧
      Mirrors (memory.deleteQueueUids jobUids).1 (sqlite.deleteQueueUids jobUids).1 := by
  have queued := queued_without mirrors.queue jobUids.toFinset (Table.entries_deleteMany sqlite.queue jobUids)
  constructor
  · show (Table.deleteMany sqlite.queue jobUids).2 = _
    rw [Table.count_eq_missing, length_queued mirrors.queue, length_queued queued]
    rfl
  · exact { mirrors with queue := queued }

omit [Python] [JsonText] in
/-- The uids of a list that a collection has, each counted once. -/
theorem count_present {ν μ : Type} {table : Dict String ν} {dict : Dict String μ}
    (same : ∀ uid, (table.get? uid).isSome = (dict.get? uid).isSome) (jobUids : List String) :
    (Table.deleteMany table jobUids).2 = (Fresh.fresh id ∅ (jobUids.filter dict.contains)).length := by
  have distinct : ((Fresh.fresh id ∅ (jobUids.filter dict.contains)).map id).Nodup := Fresh.fresh_nodup ∅ _
  have counted : jobUids.toFinset ∩ table.keys.toFinset =
      Fresh.keys id (Fresh.fresh id ∅ (jobUids.filter dict.contains)) := by
    rw [Fresh.keys_fresh, Finset.sdiff_empty]
    ext uid
    have present : uid ∈ table.keys ↔ dict.contains uid = true := by
      rw [← Dict.contains_iff, Dict.contains, Dict.contains, same]
    simp [Fresh.keys, present]
  rw [Table.count_deleteMany, counted, Fresh.keys, List.toFinset_card_of_nodup distinct, List.length_map]

theorem deleteFailed_mirrors (mirrors : Mirrors memory sqlite) (jobUids : List String) :
    (sqlite.deleteFailed jobUids).2 = (memory.deleteFailed jobUids).2 ∧
      Mirrors (memory.deleteFailed jobUids).1 (sqlite.deleteFailed jobUids).1 := by
  have present : ∀ uid, (sqlite.failed.get? uid).isSome = (memory.failed.get? uid).isSome := by
    intro uid
    rw [← rel_isSome (mirrors.failed uid), Option.isSome_map]
  constructor
  · exact count_present present jobUids
  · refine { mirrors with failed := fun uid => ?_, payloads := fun uid => ?_ }
    · show Option.Rel Spells (((Table.deleteMany sqlite.failed jobUids).1.get? uid).map FailedRow.metadata)
        ((jobUids.foldl Dict.erase memory.failed).get? uid)
      rw [Table.get?_deleteMany, Dict.get?_eraseAll]
      split
      · exact .none
      · exact mirrors.failed uid
    · show Option.Rel Spells (((Table.deleteMany sqlite.failed jobUids).1.get? uid).bind FailedRow.payload)
        (((jobUids.filter memory.failed.contains).foldl Dict.erase memory.failurePayloads).get? uid)
      have old := mirrors.payloads uid
      rw [Table.get?_deleteMany, Dict.get?_eraseAll]
      by_cases given : uid ∈ jobUids
      · by_cases failed : memory.failed.contains uid = true
        · rw [if_pos given, if_pos (List.mem_filter.mpr ⟨given, failed⟩)]
          exact .none
        · have absent : sqlite.failed.get? uid = none := by
            rw [← Option.not_isSome_iff_eq_none, present]
            exact failed
          rw [if_pos given, if_neg fun member => failed (List.mem_filter.mp member).2]
          rw [absent] at old
          exact old
      · rw [if_neg given, if_neg fun member => given (List.mem_filter.mp member).1]
        exact old

theorem deleteSuccesses_mirrors (mirrors : Mirrors memory sqlite) (jobUids : List String) :
    (sqlite.deleteSuccesses jobUids).2 = (memory.deleteSuccesses jobUids).2 ∧
      Mirrors (memory.deleteSuccesses jobUids).1 (sqlite.deleteSuccesses jobUids).1 := by
  constructor
  · exact count_present (fun uid => rel_isSome (mirrors.successes uid)) jobUids
  · refine { mirrors with successes := fun uid => ?_ }
    show Option.Rel Spells ((Table.deleteMany sqlite.successes jobUids).1.get? uid)
      ((jobUids.foldl Dict.erase memory.successes).get? uid)
    rw [Table.get?_deleteMany, Dict.get?_eraseAll]
    split
    · exact .none
    · exact mirrors.successes uid

end Removal

section Failures

/-- The rows of the failed table spell the archive and the payloads. -/
structure Archives (failed : Dict String FailedRow) (archive payloads : Dict String Record) : Prop where
  metadata : ∀ uid, Option.Rel Spells ((failed.get? uid).map FailedRow.metadata) (archive.get? uid)
  payload : ∀ uid, Option.Rel Spells ((failed.get? uid).bind FailedRow.payload) (payloads.get? uid)

variable {failed : Dict String FailedRow} {archive payloads : Dict String Record}

omit [Python] in
/-- The text of the payload that a failure leaves in its row. -/
theorem payload_written (archives : Archives failed archive payloads) {payload : Option Record}
    (normal : ∀ record ∈ payload, Normal record) (jobUid : String) :
    ∃ effective text, effectivePayload failed jobUid payload = .ok effective ∧ dumpsPayload effective = .ok text ∧
      Option.Rel Spells text (payload.or (payloads.get? jobUid)) := by
  cases payload with
  | some record =>
    obtain ⟨text, spells⟩ := normal record rfl
    exact ⟨some record, some text, rfl, by rw [dumpsPayload, spells.1]; rfl, .some spells⟩
  | none =>
    have kept := archives.payload jobUid
    rw [Option.none_or]
    unfold effectivePayload
    generalize (failed.get? jobUid).bind FailedRow.payload = text at kept ⊢
    generalize payloads.get? jobUid = record at kept ⊢
    cases kept with
    | none => exact ⟨none, none, rfl, rfl, .none⟩
    | @some text record spells =>
      refine ⟨some record, some text, ?_, ?_, .some spells⟩
      · show (loads text).map some = _
        rw [spells.2]
        rfl
      · rw [dumpsPayload, spells.1]
        rfl

omit [Python] [JsonText] in
/-- The latest payload stands; without one the earlier is kept. -/
def withPayload (payloads : Dict String Record) (jobUid : String) : Option Record → Dict String Record
  | none => payloads
  | some payload => payloads.set jobUid payload

omit [Python] [JsonText] in
theorem get?_withPayload (jobUid uid : String) (payload : Option Record) :
    (withPayload payloads jobUid payload).get? uid =
      if uid = jobUid then payload.or (payloads.get? jobUid) else payloads.get? uid := by
  cases payload with
  | some record => exact Dict.get?_set payloads jobUid uid record
  | none =>
    rw [Option.none_or]
    split
    · rename_i own
      rw [own]
      rfl
    · rfl

omit [Python] in
theorem writeFailedRow_archives (archives : Archives failed archive payloads) {metadata : Record}
    (normal : Normal metadata) {payload : Option Record} (normalPayload : ∀ record ∈ payload, Normal record)
    (jobUid : String) :
    ∃ after, writeFailedRow failed jobUid metadata payload = .ok after ∧
      Archives after (archive.set jobUid metadata) (withPayload payloads jobUid payload) := by
  obtain ⟨metadataText, spells⟩ := normal
  obtain ⟨effective, payloadText, chosen, written, spelled⟩ := payload_written archives normalPayload jobUid
  refine ⟨Table.insertOrReplace failed jobUid ⟨metadataText, payloadText⟩, ?_, ?_, ?_⟩
  · simp only [writeFailedRow, chosen, spells.1, written, bind, Except.bind]
    rfl
  · intro uid
    rw [Table.get?_insertOrReplace, Dict.get?_set]
    split
    · exact .some spells
    · exact archives.metadata uid
  · intro uid
    rw [Table.get?_insertOrReplace, get?_withPayload]
    split
    · exact spelled
    · exact archives.payload uid

omit [Python] in
theorem writeFailedRows_archives (archives : Archives failed archive payloads)
    {uidsMetadata : List (String × Record)} (normal : ∀ entry ∈ uidsMetadata, Normal entry.2) :
    ∃ after, writeFailedRows failed uidsMetadata = .ok after ∧
      Archives after (uidsMetadata.foldl (fun archive entry => archive.set entry.1 entry.2) archive) payloads := by
  induction uidsMetadata generalizing failed archive with
  | nil => exact ⟨failed, rfl, archives⟩
  | cons entry rest ih =>
    obtain ⟨first, written, archived⟩ := writeFailedRow_archives archives (normal entry List.mem_cons_self)
      (fun record member => absurd member (Option.not_mem_none record)) entry.1
    obtain ⟨after, more, last⟩ := ih archived fun other member => normal other (List.mem_cons_of_mem _ member)
    refine ⟨after, ?_, last⟩
    rw [writeFailedRows, written]
    exact more

theorem archives_of_mirrors (mirrors : Mirrors memory sqlite) :
    Archives sqlite.failed memory.failed memory.failurePayloads :=
  ⟨mirrors.failed, mirrors.payloads⟩

theorem appendFailed_mirrors (mirrors : Mirrors memory sqlite) {metadata : Record} (normal : Normal metadata)
    (jobUid : String) :
    ∃ after, sqlite.appendFailed jobUid metadata = (after, .ok ()) ∧
      Mirrors (memory.appendFailed jobUid metadata) after := by
  obtain ⟨failed, written, archived⟩ := writeFailedRow_archives (archives_of_mirrors mirrors) normal
    (fun record member => absurd member (Option.not_mem_none record)) jobUid
  refine ⟨{ sqlite with failed := failed }, ?_, ?_⟩
  · rw [appendFailed, written]
    rfl
  · exact { mirrors with failed := archived.metadata, payloads := archived.payload }

theorem commitJobFailure_mirrors (mirrors : Mirrors memory sqlite) {metadata : Record} (normal : Normal metadata)
    {payload : Option Record} (normalPayload : ∀ record ∈ payload, Normal record) (jobUid : String) :
    ∃ after, sqlite.commitJobFailure jobUid metadata payload = (after, true) ∧
      Mirrors (memory.commitJobFailure jobUid metadata payload).1 after := by
  obtain ⟨failed, written, archived⟩ :=
    writeFailedRow_archives (archives_of_mirrors mirrors) normal normalPayload jobUid
  refine ⟨{ sqlite with
    failed := failed
    queue := sqlite.queue.erase jobUid
    successes := sqlite.successes.erase jobUid }, ?_, ?_⟩
  · rw [commitJobFailure, written]
    rfl
  · refine { mirrors with
      queue := erase_mirrors mirrors jobUid
      failed := archived.metadata
      payloads := archived.payload
      successes := fun uid => ?_ }
    show Option.Rel Spells ((sqlite.successes.erase jobUid).get? uid) ((memory.successes.erase jobUid).get? uid)
    rw [Dict.get?_erase, Dict.get?_erase]
    split
    · exact .none
    · exact mirrors.successes uid

omit [Python] [JsonText] in
theorem get?_eraseEntries {ν μ : Type} (dict : Dict String ν) (entries : List (String × μ)) (uid : String) :
    (entries.foldl (fun dict entry => dict.erase entry.1) dict).get? uid =
      if uid ∈ entries.map Prod.fst then none else dict.get? uid := by
  rw [← Dict.get?_eraseAll, List.foldl_map]

theorem commitJobFailures_mirrors (mirrors : Mirrors memory sqlite) {uidsMetadata : List (String × Record)}
    (normal : ∀ entry ∈ uidsMetadata, Normal entry.2) :
    ∃ after, sqlite.commitJobFailures uidsMetadata = (after, true) ∧
      Mirrors (memory.commitJobFailures uidsMetadata).1 after := by
  obtain ⟨failed, written, archived⟩ := writeFailedRows_archives (archives_of_mirrors mirrors) normal
  refine ⟨{ sqlite with
    failed := failed
    queue := (Table.deleteMany sqlite.queue (uidsMetadata.map Prod.fst)).1
    successes := (Table.deleteMany sqlite.successes (uidsMetadata.map Prod.fst)).1 }, ?_, ?_⟩
  · rw [commitJobFailures, written]
    rfl
  · refine { mirrors with
      queue := queued_without mirrors.queue _ (Table.entries_deleteMany sqlite.queue _)
      failed := archived.metadata
      payloads := archived.payload
      successes := fun uid => ?_ }
    show Option.Rel Spells ((Table.deleteMany sqlite.successes (uidsMetadata.map Prod.fst)).1.get? uid)
      ((uidsMetadata.foldl (fun successes entry => successes.erase entry.1) memory.successes).get? uid)
    rw [Table.get?_deleteMany, get?_eraseEntries]
    split
    · exact .none
    · exact mirrors.successes uid

end Failures

section Retries

variable {requeued : Record} {poppedJobUid : String} {front : Bool}

/-- A row with the uid of the requeued one, which is not the popped one, is a conflict on both sides. -/
theorem commitRetry_conflict (mirrors : Mirrors memory sqlite) (normal : Normal requeued)
    (conflict : jobUidFromSnapshot requeued ∈ (sqlite.queue.erase poppedJobUid).keys) :
    sqlite.commitRetry poppedJobUid requeued front = (sqlite, false) ∧
      memory.commitRetry poppedJobUid requeued front = (memory, false) := by
  constructor
  · unfold Sqlite.commitRetry
    dsimp only
    cases made : newRows [requeued] (queuePositionRange (sqlite.queue.erase poppedJobUid) 1 front) with
    | error raised => rfl
    | ok rows =>
      have room := newRows_refused made (length_queuePositionRange _ _)
      obtain ⟨same, again, held, -⟩ := newRows_ok (List.forall_mem_singleton.mpr normal) room
        (length_queuePositionRange _ _)
      rw [Except.ok.inj (made.symm.trans again)]
      obtain ⟨row, none, holds, nothing, rfl⟩ := List.forall₂_cons_right_iff.mp held
      rw [List.forall₂_nil_right_iff] at nothing
      have refused : Table.insertMany (sqlite.queue.erase poppedJobUid) (row :: none) = Option.none := by
        rw [Table.insertMany, Table.insert_eq_none.mpr (holds.1 ▸ conflict)]
      show sqlite.committed ((insertRows (sqlite.queue.erase poppedJobUid) (row :: none)).bind _) = _
      rw [insertRows, refused]
      rfl
  · have other : jobUidFromSnapshot requeued ≠ poppedJobUid := (Dict.mem_keys_erase.mp conflict).1
    have queued : jobUidFromSnapshot requeued ∈ PipelineState.uidsOf (memory.remaining poppedJobUid) := by
      rw [← uids_eq (erase_mirrors mirrors poppedJobUid)]
      exact List.mem_toFinset.mpr conflict
    rw [Memory.commitRetry, if_pos ⟨other, queued⟩]

theorem commitRetry_accepts (mirrors : Mirrors memory sqlite)
    (new : jobUidFromSnapshot requeued ∉ (sqlite.queue.erase poppedJobUid).keys) :
    memory.commitRetry poppedJobUid requeued front = ({ memory with
      queue := if front then requeued :: memory.remaining poppedJobUid
        else memory.remaining poppedJobUid ++ [requeued] }, true) := by
  apply if_neg
  rw [← uids_eq (erase_mirrors mirrors poppedJobUid), List.mem_toFinset]
  exact fun conflict => new conflict.2

theorem commitRetry_mirrors (mirrors : Mirrors memory sqlite) (normal : Normal requeued)
    (new : jobUidFromSnapshot requeued ∉ (sqlite.queue.erase poppedJobUid).keys)
    (room : Room (queuePositionRange (sqlite.queue.erase poppedJobUid) 1 front)) :
    ∃ after, sqlite.commitRetry poppedJobUid requeued front = (after, true) ∧
      (memory.commitRetry poppedJobUid requeued front).2 = true ∧
        Mirrors (memory.commitRetry poppedJobUid requeued front).1 after := by
  have queued := erase_mirrors mirrors poppedJobUid
  obtain ⟨rows, made, held, placed⟩ := newRows_ok (List.forall_mem_singleton.mpr normal) room
    (length_queuePositionRange _ _)
  have single :
      Fresh.fresh jobUidFromSnapshot (sqlite.queue.erase poppedJobUid).keys.toFinset [requeued] = [requeued] := by
    simp [Fresh.fresh, new]
  obtain ⟨queue, inserted, entries⟩ := Table.insertMany_of_fresh ((fresh_rows_iff held _).mpr single)
  refine ⟨{ sqlite with queue := queue }, ?_, ?_, ?_⟩
  · simp only [Sqlite.commitRetry, made, insertRows, bind, Except.bind, inserted]
    rfl
  · rw [commitRetry_accepts mirrors new]
  · rw [commitRetry_accepts mirrors new]
    cases front with
    | true => exact { mirrors with queue := queued_front queued held placed entries }
    | false => exact { mirrors with queue := queued_back queued held placed entries }

theorem commitRetry_refused (cramped : ¬Room (queuePositionRange (sqlite.queue.erase poppedJobUid) 1 front)) :
    (sqlite.commitRetry poppedJobUid requeued front).2 = false := by
  unfold Sqlite.commitRetry
  dsimp only
  cases made : newRows [requeued] (queuePositionRange (sqlite.queue.erase poppedJobUid) 1 front) with
  | error raised => rfl
  | ok rows => exact absurd (newRows_refused made (length_queuePositionRange _ _)) cramped

end Retries

section Seeds

theorem seedSuccesses_mirrors (mirrors : Mirrors memory sqlite) (jobUids : List String) :
    (∃ raised, sqlite.seedSuccesses jobUids = (sqlite, .error raised) ∧
        memory.seedSuccesses jobUids = (memory, none)) ∨
      ∃ after, sqlite.seedSuccesses jobUids = (after, .ok jobUids.length) ∧
        (memory.seedSuccesses jobUids).2 = some jobUids.length ∧ Mirrors (memory.seedSuccesses jobUids).1 after := by
  have present : sqlite.failed.contains = memory.failed.contains := by
    funext uid
    rw [Dict.contains, Dict.contains, ← rel_isSome (mirrors.failed uid), Option.isSome_map]
  unfold Sqlite.seedSuccesses Memory.seedSuccesses
  cases jobUids with
  | nil => exact .inr ⟨sqlite, rfl, rfl, mirrors⟩
  | cons first rest =>
    rw [if_neg (List.cons_ne_nil _ _), present]
    by_cases conflict : (first :: rest).any memory.failed.contains = true
    · refine .inl ⟨.valueError, ?_, ?_⟩
      · rw [if_pos conflict]
        rfl
      · rw [if_pos conflict]
    · obtain ⟨text, spells⟩ := normal_empty
      refine .inr ⟨{ sqlite with
        successes := Table.insertOrReplaceMany sqlite.successes ((first :: rest).map fun jobUid => (jobUid, text)) },
          ?_, ?_, ?_⟩
      · rw [if_neg conflict, spells.1]
        rfl
      · rw [if_neg conflict]
      · rw [if_neg conflict]
        refine { mirrors with successes := fun uid => ?_ }
        show Option.Rel Spells ((Table.insertOrReplaceMany sqlite.successes _).get? uid) (((first :: rest).foldl
          (fun successes uid => successes.set uid Dict.empty) memory.successes).get? uid)
        rw [Table.get?_insertOrReplaceMany, Dict.get?_setAll]
        split
        · exact .some spells
        · exact mirrors.successes uid

theorem seedCursor_mirrors (mirrors : Mirrors memory sqlite) (key value : String) :
    (sqlite.seedCursor key value = (sqlite, .error .typeError) ∧ memory.seedCursor key value = (memory, false)) ∨
      ∃ after, sqlite.seedCursor key value = (after, .ok ()) ∧ (memory.seedCursor key value).2 = true ∧
        Mirrors (memory.seedCursor key value).1 after := by
  unfold Sqlite.seedCursor Memory.seedCursor
  by_cases blank : key = ""
  · exact .inl ⟨if_pos blank, if_pos blank⟩
  · rw [if_neg blank, if_neg blank]
    refine .inr ⟨_, rfl, rfl, { mirrors with cursors := fun k => ?_ }⟩
    show (Table.insertOrReplace sqlite.cursors key value).get? k = (memory.cursors.set key value).get? k
    rw [Table.get?_insertOrReplace, Dict.get?_set, mirrors.cursors]

end Seeds

section Attempts

/-- The next id, and the counters of a record, that no column holds. -/
def Countable (sqlite : Sqlite) (record : AttemptRecord) : Prop :=
  fits record.activationNo.val = true ∧ fits record.attemptNo.val = true ∧ fits (sqlite.attemptSequence + 1) = true

theorem appendAttempt_mirrors (mirrors : Mirrors memory sqlite) {record : AttemptRecord}
    (valid : validateAttemptDispatch record = true) (countable : Countable sqlite record) :
    ∃ after, sqlite.appendAttempt record = (after, .ok memory.attemptSeq) ∧
      Mirrors (memory.appendAttempt record).1 after := by
  obtain ⟨activation, attempt, next⟩ := countable
  have new : (memory.attemptSeq : Int) ∉ memory.attempts.keys := by
    intro member
    have bounds := mirrors.given _ member
    have sequence := mirrors.sequence
    omega
  have keys : (memory.attempts.set memory.attemptSeq record).keys =
      memory.attempts.keys ++ [(memory.attemptSeq : Int)] := by
    show (Dict.place _ record memory.attempts.entries).map Prod.fst = _
    rw [Dict.place_of_notMem new, List.map_append]
    rfl
  refine ⟨{ sqlite with
    attempts := sqlite.attempts.set memory.attemptSeq (.ofRecord record)
    attemptSequence := memory.attemptSeq }, ?_, ?_⟩
  · rw [Sqlite.appendAttempt, if_pos valid, bindInteger, if_pos activation, bindInteger, if_pos attempt,
      nextAttemptId, if_pos next, mirrors.sequence]
    rfl
  · rw [Memory.appendAttempt, if_pos valid]
    refine { mirrors with attempts := ?_, numbered := ?_, given := ?_, sequence := rfl, bounded := ?_ }
    · show Dict.place _ _ sqlite.attempts.entries = Dict.mapEntries _ (Dict.place _ _ memory.attempts.entries)
      rw [Dict.mapEntries_place, mirrors.attempts]
    · show (memory.attempts.set memory.attemptSeq record).keys.Pairwise _
      rw [keys]
      refine List.pairwise_append.mpr ⟨mirrors.numbered, List.pairwise_singleton _ _, ?_⟩
      intro id member last only
      have bounds := mirrors.given id member
      have sequence := mirrors.sequence
      rw [List.mem_singleton.mp only]
      omega
    · show ∀ id ∈ (memory.attempts.set memory.attemptSeq record).keys, 0 < id ∧ id ≤ (memory.attemptSeq : Int)
      rw [keys]
      intro id member
      have sequence := mirrors.sequence
      rcases List.mem_append.mp member with old | only
      · have bounds := mirrors.given id old
        omega
      · rw [List.mem_singleton.mp only]
        omega
    · show fits (memory.attemptSeq : Int) = true
      rw [mirrors.sequence]
      exact next

omit [Python] [JsonText] in
theorem appendAttempt_refused {record : AttemptRecord} (uncountable : ¬Countable sqlite record) :
    ∃ raised, (sqlite.appendAttempt record).2 = .error raised := by
  unfold Sqlite.appendAttempt
  by_cases valid : validateAttemptDispatch record = true
  · rw [if_pos valid]
    by_cases activation : fits record.activationNo.val = true
    · by_cases attempt : fits record.attemptNo.val = true
      · have full : ¬fits (sqlite.attemptSequence + 1) = true := fun next => uncountable ⟨activation, attempt, next⟩
        rw [bindInteger, if_pos activation, bindInteger, if_pos attempt, nextAttemptId, if_neg full]
        exact ⟨_, rfl⟩
      · rw [bindInteger, if_pos activation, bindInteger, if_neg attempt]
        exact ⟨_, rfl⟩
    · rw [bindInteger, if_neg activation]
      exact ⟨_, rfl⟩
  · rw [if_neg valid]
    exact ⟨_, rfl⟩

theorem attempts_finished (mirrors : Mirrors memory sqlite) {id : Int} {record : AttemptRecord}
    (found : memory.attempts.get? id = some record) (ending : AttemptFinish) :
    Mirrors { memory with attempts := memory.attempts.set id (record.finish ending) }
      { sqlite with attempts := sqlite.attempts.set id ((AttemptRow.ofRecord record).finish ending) } := by
  have present : id ∈ memory.attempts.keys := Dict.mem_keys_iff.mpr ⟨record, found⟩
  have keys : (memory.attempts.set id (record.finish ending)).keys = memory.attempts.keys :=
    Dict.keys_place_of_mem present _
  refine { mirrors with attempts := ?_, numbered := ?_, given := ?_ }
  · show Dict.place _ _ sqlite.attempts.entries = Dict.mapEntries _ (Dict.place _ _ memory.attempts.entries)
    rw [Dict.mapEntries_place, mirrors.attempts, AttemptRow.ofRecord_finish]
  · rw [keys]
    exact mirrors.numbered
  · rw [keys]
    exact mirrors.given

theorem updateAttempt_mirrors (mirrors : Mirrors memory sqlite) {attemptId : Int} (outcome : Outcome)
    (finishedAt : String) (errorMessage : Option String) (room : fits attemptId = true) :
    (∃ raised, sqlite.updateAttempt attemptId outcome finishedAt errorMessage = (sqlite, .error raised) ∧
        memory.updateAttempt attemptId outcome finishedAt errorMessage = (memory, none)) ∨
      ∃ after answer, sqlite.updateAttempt attemptId outcome finishedAt errorMessage = (after, .ok answer) ∧
        (memory.updateAttempt attemptId outcome finishedAt errorMessage).2 = some answer ∧
          Mirrors (memory.updateAttempt attemptId outcome finishedAt errorMessage).1 after := by
  unfold Sqlite.updateAttempt Memory.updateAttempt
  cases validateAttemptFinish outcome (some finishedAt) errorMessage with
  | none => exact .inl ⟨_, rfl, rfl⟩
  | some ending =>
    dsimp only
    rw [bindInteger, if_pos room]
    have rows := get?_attempts mirrors attemptId
    cases found : memory.attempts.get? attemptId with
    | none =>
      rw [found] at rows
      refine .inr ⟨sqlite, false, ?_, rfl, mirrors⟩
      simp only [rows, bind, Except.bind, Option.map_none]
      rfl
    | some record =>
      rw [found] at rows
      simp only [rows, bind, Except.bind, Option.map_some]
      by_cases running : record.outcome = .running
      · have row : (AttemptRow.ofRecord record).outcome = .running := running
        rw [if_neg (not_not_intro running), if_neg (not_not_intro row)]
        exact .inr ⟨_, true, rfl, rfl, attempts_finished mirrors found ending⟩
      · rw [if_pos running, if_pos (show (AttemptRow.ofRecord record).outcome ≠ _ from running)]
        exact .inl ⟨_, rfl, rfl⟩

/-- An id that no column holds raises, where the in-memory backend finds no row. -/
theorem updateAttempt_refused (mirrors : Mirrors memory sqlite) {attemptId : Int} {outcome : Outcome}
    {finishedAt : String} {errorMessage : Option String} {ending : AttemptFinish}
    (valid : validateAttemptFinish outcome (some finishedAt) errorMessage = some ending)
    (large : ¬fits attemptId = true) :
    (∃ raised, (sqlite.updateAttempt attemptId outcome finishedAt errorMessage).2 = .error raised) ∧
      (memory.updateAttempt attemptId outcome finishedAt errorMessage).2 = some false := by
  unfold Sqlite.updateAttempt Memory.updateAttempt
  rw [valid]
  dsimp only
  rw [bindInteger, if_neg large]
  have absent : memory.attempts.get? attemptId = none := by
    cases found : memory.attempts.get? attemptId with
    | none => rfl
    | some record => exact absurd (fits_given mirrors (Dict.mem_keys_iff.mpr ⟨record, found⟩)) large
  rw [absent]
  exact ⟨⟨_, rfl⟩, rfl⟩

end Attempts

section Successes

variable {success : Memory.Success}

/-- The attempt that a success ends: both backends find it running, or both refuse. -/
theorem runningRow_mirrors (mirrors : Mirrors memory sqlite) {id : Int} {jobUid : String}
    {executionId : Option String} (named : executionId ≠ some "") :
    (∃ raised, sqlite.runningRow id jobUid executionId = .error raised ∧
        memory.runningAttempt jobUid (some id) executionId = none) ∨
      ∃ record, memory.attempts.get? id = some record ∧
        sqlite.runningRow id jobUid executionId = .ok (.ofRecord record) ∧
          memory.runningAttempt jobUid (some id) executionId = some (id, record) := by
  have rows := get?_attempts mirrors id
  unfold runningRow Memory.runningAttempt
  dsimp only
  cases found : memory.attempts.get? id with
  | none =>
    rw [found] at rows
    rw [rows]
    exact .inl ⟨_, rfl, rfl⟩
  | some record =>
    rw [found] at rows
    rw [rows]
    dsimp only [Option.map_some]
    by_cases owner : record.jobUid.val ≠ jobUid
    · exact .inl ⟨_, if_pos owner, if_pos (.inr (.inl owner))⟩
    · by_cases stale : ∃ execution ∈ executionId, record.executionId.val ≠ execution
      · exact .inl ⟨_, (if_neg owner).trans (if_pos stale), if_pos (.inr (.inr (.inl stale)))⟩
      · by_cases ended : record.outcome ≠ .running
        · exact .inl ⟨_, (if_neg owner).trans ((if_neg stale).trans (if_pos ended)),
            if_pos (.inr (.inr (.inr ended)))⟩
        · refine .inr ⟨record, rfl, (if_neg owner).trans ((if_neg stale).trans (if_neg ended)), if_neg ?_⟩
          rintro (blank | wrong | other | final)
          · exact named blank
          · exact owner wrong
          · exact stale other
          · exact ended final

theorem insertSpawned_conflict {queue : Dict String QueueRow} {spawned : List Record}
    (normal : ∀ record ∈ spawned, Normal record)
    (conflict : Fresh.fresh jobUidFromSnapshot queue.keys.toFinset spawned ≠ spawned) :
    ∃ raised, insertSpawned queue spawned = .error raised := by
  cases made : newRows spawned (queuePositionRange queue spawned.length true) with
  | error raised => exact ⟨raised, by rw [insertSpawned, made]; rfl⟩
  | ok rows =>
    obtain ⟨same, again, held, -⟩ := newRows_ok normal (newRows_refused made (length_queuePositionRange _ _))
      (length_queuePositionRange _ _)
    cases Except.ok.inj (made.symm.trans again)
    have few : (Table.insertOrIgnoreMany queue rows).2 < spawned.length := by
      rw [(Table.insertOrIgnoreMany_eq queue rows).2, ← held.length_eq]
      have most : (Fresh.fresh Prod.fst queue.keys.toFinset rows).length ≤ rows.length :=
        (Fresh.fresh_sublist _ rows).length_le
      refine lt_of_le_of_ne most fun all => conflict ?_
      exact (fresh_rows_iff held _).mp ((Fresh.fresh_sublist _ rows).eq_of_length all)
    refine ⟨.runtimeError, ?_⟩
    rw [insertSpawned, made]
    exact if_pos few

theorem insertSpawned_ok {queue : Dict String QueueRow} {rows spawned : List Record} (queued : Queued queue rows)
    (normal : ∀ record ∈ spawned, Normal record)
    (new : Fresh.fresh jobUidFromSnapshot queue.keys.toFinset spawned = spawned)
    (room : Room (queuePositionRange queue spawned.length true)) :
    ∃ after, insertSpawned queue spawned = .ok after ∧ Queued after (spawned ++ rows) := by
  obtain ⟨inserted, made, held, placed⟩ := newRows_ok normal room (length_queuePositionRange _ _)
  obtain ⟨entries, count⟩ := Table.insertOrIgnoreMany_eq queue inserted
  rw [(fresh_rows_iff held _).mpr new] at entries count
  refine ⟨(Table.insertOrIgnoreMany queue inserted).1, ?_, queued_front queued held placed entries⟩
  have all : ¬(Table.insertOrIgnoreMany queue inserted).2 < spawned.length := by
    rw [count, held.length_eq]
    exact lt_irrefl _
  rw [insertSpawned, made]
  exact if_neg all

theorem insertSpawned_refused {queue : Dict String QueueRow} {spawned : List Record}
    (cramped : ¬Room (queuePositionRange queue spawned.length true)) :
    ∃ raised, insertSpawned queue spawned = .error raised := by
  cases made : newRows spawned (queuePositionRange queue spawned.length true) with
  | error raised => exact ⟨raised, by rw [insertSpawned, made]; rfl⟩
  | ok rows => exact absurd (newRows_refused made (length_queuePositionRange _ _)) cramped

omit [Python] [JsonText] in
theorem updateCursors_same {left right : Dict String String} (same : ∀ key, left.get? key = right.get? key)
    (updates : List (String × Option String)) (key : String) :
    (Sqlite.updateCursors left updates).get? key = (Memory.updateCursors right updates).get? key := by
  induction updates generalizing left right with
  | nil => exact same key
  | cons update rest ih =>
    apply ih
    intro k
    rcases update with ⟨name, _ | value⟩
    · show (left.erase name).get? k = (right.erase name).get? k
      rw [Dict.get?_erase, Dict.get?_erase, same]
    · show (Table.insertOrReplace left name value).get? k = (right.set name value).get? k
      rw [Table.get?_insertOrReplace, Dict.get?_set, same]

/-- The checks that a success passes: its attempt is there and running, belongs to the job and the execution, the
end is well formed, and the spawned rows are new. -/
structure Accepted (sqlite : Sqlite) (success : Memory.Success) : Prop where
  attempt : ∃ id row, success.attemptId = some id ∧ sqlite.runningRow id success.jobUid success.executionId = .ok row
  named : success.executionId ≠ some ""
  ended : ∃ ending, validateAttemptFinish .succeeded success.finishedAt none = some ending
  new : Fresh.fresh jobUidFromSnapshot (sqlite.queue.erase success.jobUid).keys.toFinset success.spawned =
    success.spawned

theorem spawnConflict_iff (mirrors : Mirrors memory sqlite) :
    Memory.spawnConflict (memory.remaining success.jobUid) success.spawned = false ↔
      Fresh.fresh jobUidFromSnapshot (sqlite.queue.erase success.jobUid).keys.toFinset success.spawned =
        success.spawned := by
  rw [uids_eq (erase_mirrors mirrors success.jobUid), Memory.spawnConflict]
  simp [PipelineState.uidsOf]

/-- A block whose spawned rows are refused is taken back. -/
theorem spawning_refused {raised : SqlError}
    (stopped : insertSpawned (sqlite.queue.erase success.jobUid) success.spawned = .error raised)
    (ending : AttemptFinish) (id : Int) :
    (sqlite.committed do
      let attemptId ← bindInteger id
      let row ← sqlite.runningRow attemptId success.jobUid success.executionId
      let metadata ← dumps success.resultMetadata
      let queue ← insertSpawned (sqlite.queue.erase success.jobUid) success.spawned
      return ({ sqlite with
        attempts := sqlite.attempts.set attemptId (row.finish ending)
        successes := Table.insertOrReplace sqlite.successes success.jobUid metadata
        queue := queue
        failed := sqlite.failed.erase success.jobUid
        cursors := Sqlite.updateCursors sqlite.cursors success.cursorUpdates.entries }, ())) = (sqlite, false) := by
  cases bound : bindInteger id with
  | error raised => rfl
  | ok attemptId =>
    cases running : sqlite.runningRow attemptId success.jobUid success.executionId with
    | error raised =>
      simp only [running, bind, Except.bind]
      rfl
    | ok row =>
      cases written : dumps success.resultMetadata with
      | error raised =>
        simp only [running, bind, Except.bind]
        rfl
      | ok metadata =>
        simp only [running, stopped, bind, Except.bind]
        rfl

/-- A success that is not accepted is refused by both. -/
theorem commitJobSuccess_conflict (mirrors : Mirrors memory sqlite)
    (normal : ∀ record ∈ success.spawned, Normal record) (refused : ¬Accepted sqlite success) :
    sqlite.commitJobSuccess success = (sqlite, false) ∧ memory.commitJobSuccess success = (memory, false) := by
  unfold Sqlite.commitJobSuccess Memory.commitJobSuccess
  cases attempt : success.attemptId with
  | none => exact ⟨rfl, rfl⟩
  | some id =>
    dsimp only
    by_cases blank : success.executionId = some ""
    · have absent : memory.runningAttempt success.jobUid (some id) success.executionId = none := by
        unfold Memory.runningAttempt
        dsimp only
        split
        · rfl
        · exact if_pos (.inl blank)
      rw [if_pos blank, absent]
      exact ⟨rfl, rfl⟩
    · rw [if_neg blank]
      cases ended : validateAttemptFinish .succeeded success.finishedAt none with
      | none =>
        refine ⟨rfl, ?_⟩
        split
        · rename_i impossible
          cases impossible
        · rfl
      | some ending =>
        rcases @runningRow_mirrors _ _ _ _ mirrors id success.jobUid _ blank with
          ⟨raised, stopped, absent⟩ | ⟨record, -, running, found⟩
        · rw [absent]
          refine ⟨?_, rfl⟩
          by_cases room : fits id = true
          · rw [bindInteger, if_pos room]
            simp only [stopped, bind, Except.bind]
            rfl
          · rw [bindInteger, if_neg room]
            rfl
        · have conflict : ¬Fresh.fresh jobUidFromSnapshot (sqlite.queue.erase success.jobUid).keys.toFinset
              success.spawned = success.spawned :=
            fun new => refused ⟨⟨id, _, attempt, running⟩, blank, ⟨ending, ended⟩, new⟩
          obtain ⟨raised, stopped⟩ := insertSpawned_conflict normal conflict
          have conflicts : Memory.spawnConflict (memory.remaining success.jobUid) success.spawned = true := by
            rw [← Bool.not_eq_false, spawnConflict_iff mirrors]
            exact conflict
          rw [found]
          refine ⟨spawning_refused stopped ending id, ?_⟩
          dsimp only
          rw [conflicts]
          rfl

theorem commitJobSuccess_accepts (mirrors : Mirrors memory sqlite) (accepted : Accepted sqlite success) :
    ∃ id record ending, success.attemptId = some id ∧ memory.attempts.get? id = some record ∧
      sqlite.runningRow id success.jobUid success.executionId = .ok (.ofRecord record) ∧
        validateAttemptFinish .succeeded success.finishedAt none = some ending ∧
          memory.commitJobSuccess success = ({ memory with
            attempts := memory.attempts.set id (record.finish ending)
            successes := memory.successes.set success.jobUid success.resultMetadata
            queue := success.spawned ++ memory.remaining success.jobUid
            failed := memory.failed.erase success.jobUid
            failurePayloads := memory.failurePayloads.erase success.jobUid
            cursors := Memory.updateCursors memory.cursors success.cursorUpdates.entries }, true) := by
  obtain ⟨⟨id, row, attempt, running⟩, named, ⟨ending, ended⟩, new⟩ := accepted
  have calm := (spawnConflict_iff mirrors).mpr new
  rcases runningRow_mirrors mirrors named with ⟨raised, stopped, -⟩ | ⟨record, found, same, attempted⟩
  · rw [running] at stopped
    cases stopped
  · refine ⟨id, record, ending, attempt, found, same, ended, ?_⟩
    unfold Memory.commitJobSuccess
    rw [attempt, attempted, ended]
    dsimp only
    rw [calm]
    rfl

theorem commitJobSuccess_mirrors (mirrors : Mirrors memory sqlite) (accepted : Accepted sqlite success)
    (normalMetadata : Normal success.resultMetadata) (normal : ∀ record ∈ success.spawned, Normal record)
    (room : Room (queuePositionRange (sqlite.queue.erase success.jobUid) success.spawned.length true)) :
    ∃ after, sqlite.commitJobSuccess success = (after, true) ∧ (memory.commitJobSuccess success).2 = true ∧
      Mirrors (memory.commitJobSuccess success).1 after := by
  obtain ⟨metadata, spells⟩ := normalMetadata
  obtain ⟨queue, inserted, queued⟩ := insertSpawned_ok (erase_mirrors mirrors success.jobUid) normal accepted.new room
  obtain ⟨id, record, ending, attempt, found, same, ended, accepts⟩ := commitJobSuccess_accepts mirrors accepted
  have bound : bindInteger id = .ok id := if_pos (fits_given mirrors (Dict.mem_keys_iff.mpr ⟨record, found⟩))
  have ends := attempts_finished mirrors found ending
  rw [accepts]
  refine ⟨{ sqlite with
    attempts := sqlite.attempts.set id ((AttemptRow.ofRecord record).finish ending)
    successes := Table.insertOrReplace sqlite.successes success.jobUid metadata
    queue := queue
    failed := sqlite.failed.erase success.jobUid
    cursors := Sqlite.updateCursors sqlite.cursors success.cursorUpdates.entries }, ?_, rfl, ?_⟩
  · unfold Sqlite.commitJobSuccess
    rw [attempt]
    dsimp only
    rw [if_neg accepted.named, ended]
    simp only [bound, same, spells.1, inserted, bind, Except.bind]
    rfl
  · refine { ends with
      queue := queued
      successes := fun uid => ?_
      failed := fun uid => ?_
      payloads := fun uid => ?_
      cursors := updateCursors_same mirrors.cursors _ }
    · show Option.Rel Spells ((Table.insertOrReplace sqlite.successes success.jobUid metadata).get? uid)
        ((memory.successes.set success.jobUid success.resultMetadata).get? uid)
      rw [Table.get?_insertOrReplace, Dict.get?_set]
      split
      · exact .some spells
      · exact mirrors.successes uid
    · show Option.Rel Spells (((sqlite.failed.erase success.jobUid).get? uid).map FailedRow.metadata)
        ((memory.failed.erase success.jobUid).get? uid)
      rw [Dict.get?_erase, Dict.get?_erase]
      split
      · exact .none
      · exact mirrors.failed uid
    · show Option.Rel Spells (((sqlite.failed.erase success.jobUid).get? uid).bind FailedRow.payload)
        ((memory.failurePayloads.erase success.jobUid).get? uid)
      rw [Dict.get?_erase, Dict.get?_erase]
      split
      · exact .none
      · exact mirrors.payloads uid

theorem commitJobSuccess_refused
    (cramped : ¬Room (queuePositionRange (sqlite.queue.erase success.jobUid) success.spawned.length true)) :
    (sqlite.commitJobSuccess success).2 = false := by
  obtain ⟨raised, stopped⟩ := insertSpawned_refused cramped
  unfold Sqlite.commitJobSuccess
  cases success.attemptId with
  | none => rfl
  | some id =>
    dsimp only
    by_cases blank : success.executionId = some ""
    · rw [if_pos blank]
    · rw [if_neg blank]
      cases validateAttemptFinish .succeeded success.finishedAt none with
      | none => rfl
      | some ending => exact congrArg Prod.snd (spawning_refused stopped ending id)

end Successes

end Tasklite.Backend.Simulation
