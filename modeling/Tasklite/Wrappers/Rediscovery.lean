import Tasklite.Wrappers.Discovery

/-! What the next run makes of the items that a run has skipped. It comes to an item if every page
before still shows something new; a page of which everything has been seen in the meantime ends
the scan, whatever was skipped behind it. -/

namespace Tasklite.Wrappers.Rediscovery
open Tasklite.Models Tasklite.Utils

section Theory

variable [Sha256] {Item : Type}

section Pages

variable {calls : Callbacks Item} {snapshot : Snapshot} {processTaskType namespacePrefix : String}
  {scanMode : ScanMode}

theorem mem_collect {page : ℕ} {items : List Item} {start : ℕ} {entry : Entry Item} :
    entry ∈ (collectPageEntries calls processTaskType namespacePrefix page items start).entries ↔
      ∃ index item cid, items[index]? = some item ∧ validId (calls.idFunc (page, start + index) item) = some cid ∧
        entry = ⟨(page, start + index), item, contentIdOf namespacePrefix cid,
          processUid processTaskType (contentIdOf namespacePrefix cid)⟩ := by
  induction items generalizing start with
  | nil => simp [collectPageEntries]
  | cons first rest ih =>
    have shifted : ∀ index, start + (index + 1) = start + 1 + index := fun index => by omega
    unfold collectPageEntries
    constructor
    · intro member
      have later : entry ∈ (collectPageEntries calls processTaskType namespacePrefix page rest (start + 1)).entries →
          ∃ index item cid, (first :: rest)[index]? = some item ∧
            validId (calls.idFunc (page, start + index) item) = some cid ∧
            entry = ⟨(page, start + index), item, contentIdOf namespacePrefix cid,
              processUid processTaskType (contentIdOf namespacePrefix cid)⟩ := by
        intro behind
        obtain ⟨index, item, cid, there, valid, same⟩ := ih.mp behind
        exact ⟨index + 1, item, cid, there, by rw [shifted]; exact valid, by rw [shifted]; exact same⟩
      cases valid : validId (calls.idFunc (page, start) first) with
      | none =>
        simp only [valid] at member
        exact later member
      | some cid =>
        simp only [valid, List.mem_cons] at member
        rcases member with here | behind
        · exact ⟨0, first, cid, rfl, valid, here⟩
        · exact later behind
    · rintro ⟨index, item, cid, there, valid, same⟩
      cases index with
      | zero =>
        obtain rfl : first = item := by simpa using there
        rw [Nat.add_zero] at valid same
        simp only [valid]
        exact same ▸ List.mem_cons_self
      | succ index =>
        rw [shifted] at valid same
        have behind := ih.mpr ⟨index, item, cid, there, valid, same⟩
        split
        · exact behind
        · exact List.mem_cons_of_mem _ behind

theorem place_of_failure {page : ℕ} {items : List Item} {start : ℕ} {place : Place}
    (failed : place ∈ (collectPageEntries calls processTaskType namespacePrefix page items start).failures) :
    place.1 = page ∧ start ≤ place.2 ∧ place.2 < start + items.length := by
  induction items generalizing start with
  | nil => simp [collectPageEntries] at failed
  | cons first rest ih =>
    have later : place ∈ (collectPageEntries calls processTaskType namespacePrefix page rest (start + 1)).failures →
        place.1 = page ∧ start ≤ place.2 ∧ place.2 < start + (first :: rest).length := by
      intro behind
      obtain ⟨same, after, before⟩ := ih behind
      rw [List.length_cons]
      exact ⟨same, by omega, by omega⟩
    unfold collectPageEntries at failed
    cases valid : validId (calls.idFunc (page, start) first) with
    | none =>
      simp only [valid, List.mem_cons] at failed
      rcases failed with rfl | behind
      · exact ⟨rfl, le_rfl, by simp⟩
      · exact later behind
    | some cid =>
      simp only [valid] at failed
      exact later failed

omit [Sha256] in
/-- Trying the items of a page: the attempts are those at the entries that have not been seen. -/
theorem processPageEntries_spec {allSeen : Bool} (entries : List (Entry Item)) (scan : Scan) :
    let after := processPageEntries calls snapshot allSeen entries scan
    (∀ attempt, attempt ∈ after.attempts ↔ attempt ∈ scan.attempts ∨ allSeen = false ∧
        ∃ entry ∈ entries, snapshot.seen entry.uid = false ∧
          attempt = (entry.place, calls.processItemFunc entry.place entry.item entry.contentId)) ∧
      ∀ place ∈ after.skipped, place ∈ scan.skipped ∨ ∃ entry ∈ entries, entry.place = place := by
  dsimp only
  induction entries generalizing scan with
  | nil => simp [processPageEntries]
  | cons entry rest ih =>
    unfold processPageEntries
    split
    · rename_i passed
      obtain ⟨attempts, skips⟩ := ih scan
      refine ⟨fun attempt => ?_, fun place member => ?_⟩
      · rw [attempts]
        refine or_congr_right (and_congr_right fun some => ?_)
        have known : snapshot.seen entry.uid = true := by simpa [some] using passed
        simp [known]
      · exact (skips place member).imp_right fun ⟨other, later, same⟩ => ⟨other, List.mem_cons_of_mem _ later, same⟩
    · rename_i passed
      simp only [Bool.or_eq_true, not_or, Bool.not_eq_true] at passed
      obtain ⟨attempts, skips⟩ := ih { scan with
        attempts := scan.attempts ++ [(entry.place, calls.processItemFunc entry.place entry.item entry.contentId)]
        skipped := if calls.processItemFunc entry.place entry.item entry.contentId then scan.skipped
          else scan.skipped ++ [entry.place] }
      refine ⟨fun attempt => ?_, fun place member => ?_⟩
      · rw [attempts, List.mem_append, List.mem_singleton, or_assoc]
        simp [passed.1, passed.2]
      · rcases skips place member with before | ⟨other, later, same⟩
        · split at before
          · exact .inl before
          · rcases List.mem_append.mp before with old | here
            · exact .inl old
            · exact .inr ⟨entry, List.mem_cons_self, (List.mem_singleton.mp here).symm⟩
        · exact .inr ⟨other, List.mem_cons_of_mem _ later, same⟩

end Pages

section Scanning

variable (calls : Callbacks Item) (snapshot : Snapshot) (processTaskType namespacePrefix : String)
  (scanMode : ScanMode) (pages : List (List Item))

omit [Sha256] in
/-- The items of a page, counted from 1; there are none behind the last page. -/
def itemsOn (page : ℕ) : List Item := pages.getD (page - 1) []

omit [Sha256] in
/-- The pages come from a list that does not change. -/
def Serves : Prop := ∀ page, 1 ≤ page → calls.fetchFunc page = .ok (some (itemsOn pages page))

def entriesOn (page : ℕ) : List (Entry Item) :=
  (collectPageEntries calls processTaskType namespacePrefix page (itemsOn pages page) 0).entries

/-- The scan goes on behind a page: some ids can be computed, and, unless it is a full scan, one is new. -/
structure Passes (page : ℕ) : Prop where
  identified : entriesOn calls processTaskType namespacePrefix pages page ≠ []
  news : scanMode = .full ∨
    ∃ entry ∈ entriesOn calls processTaskType namespacePrefix pages page, snapshot.seen entry.uid = false

/-- An attempt at an entry of its page that has not been seen. -/
def Tried (attempt : Place × Bool) : Prop :=
  ∃ entry ∈ entriesOn calls processTaskType namespacePrefix pages attempt.1.1, snapshot.seen entry.uid = false ∧
    attempt = (entry.place, calls.processItemFunc entry.place entry.item entry.contentId)

variable {calls snapshot processTaskType namespacePrefix scanMode pages}

theorem place_of_entry {page : ℕ} {entry : Entry Item}
    (member : entry ∈ entriesOn calls processTaskType namespacePrefix pages page) :
    entry.place.1 = page ∧ entry.place.2 < (itemsOn pages page).length := by
  obtain ⟨index, item, cid, there, -, rfl⟩ := mem_collect.mp member
  refine ⟨rfl, ?_⟩
  rw [Nat.zero_add]
  exact (List.getElem?_eq_some_iff.mp there).1

theorem items_of_passes {page : ℕ} (passes : Passes calls snapshot processTaskType namespacePrefix scanMode pages page) :
    itemsOn pages page ≠ [] := by
  intro nothing
  apply passes.identified
  rw [entriesOn, nothing]
  rfl

/-- One round of the loop: the scan ends at the page, having tried nothing there, or goes on behind it. -/
theorem scanPages_page (serves : Serves calls pages) {page : ℕ} (counted : 1 ≤ page) (remaining : ℕ) (scan : Scan) :
    ∃ noted : Scan, noted.attempts = scan.attempts ∧
      (∀ place ∈ noted.skipped, place ∈ scan.skipped ∨ place.1 = page ∧ place.2 < (itemsOn pages page).length) ∧
      (¬ Passes calls snapshot processTaskType namespacePrefix scanMode pages page ∧
          (scanPages calls snapshot processTaskType namespacePrefix scanMode (remaining + 1) page scan).1 = noted ∨
        Passes calls snapshot processTaskType namespacePrefix scanMode pages page ∧
          scanPages calls snapshot processTaskType namespacePrefix scanMode (remaining + 1) page scan =
            scanPages calls snapshot processTaskType namespacePrefix scanMode remaining (page + 1)
              (processPageEntries calls snapshot
                ((entriesOn calls processTaskType namespacePrefix pages page).all fun entry => snapshot.seen entry.uid)
                (entriesOn calls processTaskType namespacePrefix pages page) noted)) := by
  have served := serves page counted
  cases items : itemsOn pages page with
  | nil =>
    refine ⟨{ scan with fetched := scan.fetched ++ [page] }, rfl, fun place member => .inl member, .inl ⟨?_, ?_⟩⟩
    · exact fun passes => items_of_passes passes items
    · simp only [scanPages, served, items]
  | cons first others =>
    have entries : entriesOn calls processTaskType namespacePrefix pages page =
        (collectPageEntries calls processTaskType namespacePrefix page (first :: others) 0).entries := by
      rw [entriesOn, items]
    set collected := collectPageEntries calls processTaskType namespacePrefix page (first :: others) 0 with collectedDef
    let noted : Scan := { scan with
      fetched := scan.fetched ++ [page]
      skipped := scan.skipped ++ collected.failures
      seenThisRun := if scanMode = .full then
        scan.seenThisRun ∪ (collected.entries.map Entry.contentId).toFinset else scan.seenThisRun
      completedFull := scan.completedFull && collected.failures.isEmpty }
    refine ⟨noted, rfl, fun place member => ?_, ?_⟩
    · rcases List.mem_append.mp member with old | failed
      · exact .inl old
      · obtain ⟨same, -, below⟩ := place_of_failure failed
        rw [Nat.zero_add] at below
        exact .inr ⟨same, below⟩
    · have round : scanPages calls snapshot processTaskType namespacePrefix scanMode (remaining + 1) page scan =
          if collected.entries.isEmpty then (noted, none)
          else if (collected.entries.all fun entry => snapshot.seen entry.uid) && scanMode ≠ .full then (noted, none)
          else scanPages calls snapshot processTaskType namespacePrefix scanMode remaining (page + 1)
            (processPageEntries calls snapshot (collected.entries.all fun entry => snapshot.seen entry.uid)
              collected.entries noted) := by
        simp only [scanPages, served, items]
        rfl
      rw [round, entries]
      by_cases nobody : collected.entries = []
      · refine .inl ⟨fun passes => passes.identified (entries.trans nobody), ?_⟩
        rw [if_pos (by simp [nobody])]
      · rw [if_neg (by simpa using nobody)]
        by_cases stale : ((collected.entries.all fun entry => snapshot.seen entry.uid) && scanMode ≠ .full) = true
        · refine .inl ⟨fun passes => ?_, by rw [if_pos stale]⟩
          obtain ⟨known, partly⟩ := Bool.and_eq_true_iff.mp stale
          rcases passes.news with full | ⟨entry, member, unseen⟩
          · simp [full] at partly
          · rw [entries] at member
            rw [List.all_eq_true.mp known entry member] at unseen
            cases unseen
        · refine .inr ⟨⟨entries ▸ nobody, ?_⟩, by rw [if_neg stale]⟩
          rw [entries]
          by_cases full : scanMode = .full
          · exact .inl full
          · right
            simpa [full] using stale

theorem scanPages_spec (serves : Serves calls pages) (remaining : ℕ) {page : ℕ} (counted : 1 ≤ page) (scan : Scan) :
    let after := (scanPages calls snapshot processTaskType namespacePrefix scanMode remaining page scan).1
    (∀ attempt, attempt ∈ after.attempts ↔ attempt ∈ scan.attempts ∨
        page ≤ attempt.1.1 ∧ attempt.1.1 < page + remaining ∧
          (∀ other, page ≤ other → other ≤ attempt.1.1 →
            Passes calls snapshot processTaskType namespacePrefix scanMode pages other) ∧
          Tried calls snapshot processTaskType namespacePrefix pages attempt) ∧
      ∀ place ∈ after.skipped, place ∈ scan.skipped ∨
        page ≤ place.1 ∧ place.1 < page + remaining ∧
          (∀ other, page ≤ other → other < place.1 →
            Passes calls snapshot processTaskType namespacePrefix scanMode pages other) ∧
          place.2 < (itemsOn pages place.1).length := by
  dsimp only
  induction remaining generalizing page scan with
  | zero =>
    refine ⟨fun attempt => ?_, fun place member => .inl member⟩
    simp only [scanPages, Nat.add_zero]
    constructor
    · exact .inl
    · rintro (before | ⟨lower, upper, -⟩)
      · exact before
      · omega
  | succ remaining ih =>
    obtain ⟨noted, attempts, skips, ends | goes⟩ := @scanPages_page _ _ calls snapshot processTaskType namespacePrefix
      scanMode pages serves page counted remaining scan
    · rw [ends.2, attempts]
      refine ⟨fun attempt => ⟨.inl, ?_⟩, fun place member => ?_⟩
      · rintro (before | ⟨lower, -, passes, -⟩)
        · exact before
        · exact absurd (passes page le_rfl lower) ends.1
      · refine (skips place member).imp_right fun ⟨same, below⟩ => ⟨same.ge, by omega, fun other lower upper => ?_, ?_⟩
        · omega
        · rw [same]
          exact below
    · obtain ⟨passes, next⟩ := goes
      rw [next]
      set entries := entriesOn calls processTaskType namespacePrefix pages page with entriesDef
      obtain ⟨tried, logged⟩ := @processPageEntries_spec _ calls snapshot
        (entries.all fun entry => snapshot.seen entry.uid) entries noted
      obtain ⟨later, behind⟩ := @ih (page + 1) (by omega) (processPageEntries calls snapshot
        (entries.all fun entry => snapshot.seen entry.uid) entries noted)
      have onward : ∀ last, (∀ other, page + 1 ≤ other → other ≤ last →
          Passes calls snapshot processTaskType namespacePrefix scanMode pages other) →
          ∀ other, page ≤ other → other ≤ last →
            Passes calls snapshot processTaskType namespacePrefix scanMode pages other := by
        intro last all other lower upper
        rcases Nat.eq_or_lt_of_le lower with rfl | above
        · exact passes
        · exact all other above upper
      refine ⟨fun attempt => ?_, fun place member => ?_⟩
      · rw [later, tried, attempts]
        constructor
        · rintro ((before | ⟨-, entry, listed, unseen, same⟩) | ⟨lower, upper, all, attempted⟩)
          · exact .inl before
          · have here : attempt.1.1 = page := by
              rw [same]
              exact (place_of_entry listed).1
            refine .inr ⟨here.ge, by omega, fun other lower upper => ?_, entry, here ▸ listed, unseen, same⟩
            rw [show other = page by omega]
            exact passes
          · exact .inr ⟨by omega, by omega, onward _ all, attempted⟩
        · rintro (before | ⟨lower, upper, all, attempted⟩)
          · exact .inl (.inl before)
          · rcases Nat.eq_or_lt_of_le lower with here | above
            · obtain ⟨entry, listed, unseen, same⟩ := attempted
              rw [← here] at listed
              have news : (entries.all fun entry => snapshot.seen entry.uid) = false := by
                rw [List.all_eq_false]
                exact ⟨entry, listed, by simp [unseen]⟩
              exact .inl (.inr ⟨news, entry, listed, unseen, same⟩)
            · exact .inr ⟨above, by omega, fun other low high => all other (by omega) high, attempted⟩
      · rcases behind place member with before | ⟨lower, upper, all, below⟩
        · rcases logged place before with old | ⟨entry, listed, same⟩
          · refine (skips place old).imp_right fun ⟨here, below⟩ => ⟨here.ge, by omega, fun other low high => ?_, ?_⟩
            · omega
            · rw [here]
              exact below
          · obtain ⟨here, below⟩ := place_of_entry listed
            rw [same] at here below
            refine .inr ⟨here.ge, by omega, fun other low high => by omega, ?_⟩
            rw [here]
            exact below
        · refine .inr ⟨by omega, by omega, fun other low high => ?_, below⟩
          rcases Nat.eq_or_lt_of_le low with rfl | above
          · exact passes
          · exact all other above high

end Scanning

section Rerun

variable {calls next : Callbacks Item} {earlier later : Snapshot} {processTaskType namespacePrefix : String}
  {pages : List (List Item)} {maxPages : ℕ} {idOf : Item → String}

/-- A run of the scan, from the first page. -/
def scanRun (calls : Callbacks Item) (snapshot : Snapshot) (processTaskType namespacePrefix : String)
    (scanMode : ScanMode) (maxPages : ℕ) : Scan :=
  (scanPages calls snapshot processTaskType namespacePrefix scanMode maxPages 1 {}).1

omit [Sha256] in
/-- The callbacks succeed on the items of the source. -/
structure Succeeds (calls : Callbacks Item) (pages : List (List Item)) (idOf : Item → String) : Prop where
  ids : ∀ page index item, (itemsOn pages page)[index]? = some item →
    calls.idFunc (page, index) item = some (.str (idOf item)) ∧ idOf item ≠ ""
  processes : ∀ place item contentId, calls.processItemFunc place item contentId = true

/-- The uid under which an item is seen. -/
def uidOf (processTaskType namespacePrefix : String) (idOf : Item → String) (item : Item) : String :=
  processUid processTaskType (contentIdOf namespacePrefix (idOf item))

theorem mem_entriesOn (succeeds : Succeeds calls pages idOf) {page : ℕ} {entry : Entry Item} :
    entry ∈ entriesOn calls processTaskType namespacePrefix pages page ↔
      ∃ index item, (itemsOn pages page)[index]? = some item ∧
        entry = ⟨(page, index), item, contentIdOf namespacePrefix (idOf item),
          uidOf processTaskType namespacePrefix idOf item⟩ := by
  unfold entriesOn
  rw [mem_collect]
  refine exists_congr fun index => exists_congr fun item => ?_
  rw [Nat.zero_add]
  constructor
  · rintro ⟨cid, there, valid, rfl⟩
    obtain ⟨answered, named⟩ := succeeds.ids page index item there
    rw [answered, validId, if_neg named] at valid
    obtain rfl := Option.some.inj valid
    exact ⟨there, rfl⟩
  · rintro ⟨there, rfl⟩
    obtain ⟨answered, named⟩ := succeeds.ids page index item there
    exact ⟨idOf item, there, by rw [answered, validId, if_neg named], rfl⟩

/-- An incremental run goes on behind a page exactly when it shows something new. -/
theorem passes_iff (succeeds : Succeeds calls pages idOf) {page : ℕ} :
    Passes calls later processTaskType namespacePrefix .incremental pages page ↔
      ∃ item ∈ itemsOn pages page, later.seen (uidOf processTaskType namespacePrefix idOf item) = false := by
  constructor
  · intro passes
    rcases passes.news with full | ⟨entry, listed, unseen⟩
    · cases full
    · obtain ⟨index, item, there, rfl⟩ := (mem_entriesOn succeeds).mp listed
      exact ⟨item, List.mem_of_getElem? there, unseen⟩
  · rintro ⟨item, member, unseen⟩
    obtain ⟨index, there⟩ := List.mem_iff_getElem?.mp member
    have listed := (@mem_entriesOn _ _ _ processTaskType namespacePrefix _ _ succeeds page _).mpr
      ⟨index, item, there, rfl⟩
    exact ⟨List.ne_nil_of_mem listed, .inr ⟨_, listed, unseen⟩⟩

theorem tried_iff (succeeds : Succeeds calls pages idOf) {place : Place} {item : Item}
    (there : (itemsOn pages place.1)[place.2]? = some item) :
    Tried calls later processTaskType namespacePrefix pages (place, true) ↔
      later.seen (uidOf processTaskType namespacePrefix idOf item) = false := by
  constructor
  · rintro ⟨entry, listed, unseen, same⟩
    obtain ⟨index, other, found, rfl⟩ := (mem_entriesOn succeeds).mp listed
    obtain ⟨here, -⟩ := Prod.mk.inj same
    have second : place.2 = index := congrArg Prod.snd here
    rw [second] at there
    rw [there] at found
    rw [Option.some.inj found]
    exact unseen
  · intro unseen
    exact ⟨_, (mem_entriesOn succeeds).mpr ⟨place.2, item, there, rfl⟩, unseen, by rw [succeeds.processes]⟩

/-- A run comes to a skipped item again exactly when the item is new to it, and something on every page before
is new as well. -/
theorem retried_iff (serves : Serves calls pages) (servesNext : Serves next pages)
    (succeeds : Succeeds next pages idOf) {place : Place} {item : Item}
    (skipped : place ∈ (scanRun calls earlier processTaskType namespacePrefix .incremental maxPages).skipped)
    (there : (itemsOn pages place.1)[place.2]? = some item) :
    (place, true) ∈ (scanRun next later processTaskType namespacePrefix .incremental maxPages).attempts ↔
      later.seen (uidOf processTaskType namespacePrefix idOf item) = false ∧
        ∀ page, 1 ≤ page → page < place.1 →
          ∃ other ∈ itemsOn pages page, later.seen (uidOf processTaskType namespacePrefix idOf other) = false := by
  obtain ⟨-, skips⟩ := @scanPages_spec _ _ calls earlier processTaskType namespacePrefix .incremental pages serves
    maxPages 1 le_rfl {}
  obtain ⟨attempts, -⟩ := @scanPages_spec _ _ next later processTaskType namespacePrefix .incremental pages servesNext
    maxPages 1 le_rfl {}
  have reached : 1 ≤ place.1 ∧ place.1 < 1 + maxPages := by
    rcases skips place skipped with nowhere | ⟨lower, upper, -⟩
    · cases nowhere
    · exact ⟨lower, upper⟩
  unfold scanRun
  rw [attempts, tried_iff succeeds there]
  constructor
  · rintro (nowhere | ⟨-, -, passes, unseen⟩)
    · cases nowhere
    · exact ⟨unseen, fun page lower upper => (passes_iff succeeds).mp (passes page lower upper.le)⟩
  · rintro ⟨unseen, news⟩
    refine .inr ⟨reached.1, reached.2, fun page lower upper => (passes_iff succeeds).mpr ?_, unseen⟩
    rcases Nat.eq_or_lt_of_le upper with rfl | before
    · exact ⟨item, List.mem_of_getElem? there, unseen⟩
    · exact news page lower before

/-- The items that a run has processed are seen later. -/
def Absorbed (run : Scan) (pages : List (List Item)) (later : Snapshot) (processTaskType namespacePrefix : String)
    (idOf : Item → String) : Prop :=
  ∀ place item, (place, true) ∈ run.attempts → (itemsOn pages place.1)[place.2]? = some item →
    later.seen (uidOf processTaskType namespacePrefix idOf item) = true

end Rerun

end Theory

section Sample

local instance : Sha256 := Sha256.sample

/-- Callbacks for a source of ids, of which one is perhaps refused. -/
def sampleCalls (pages : List (List String)) (refused : Option String) : Callbacks String where
  fetchFunc := fun page => .ok (some (itemsOn pages page))
  idFunc := fun _ item => some (.str item)
  processItemFunc := fun _ item _ => some item ≠ refused

def sampleSnapshot (seen : Option String) : Snapshot where
  hasSucceeded := fun uid => some uid = seen
  hasFailed := fun _ => false

theorem succeeds_sample {pages : List (List String)} (named : ∀ items ∈ pages, ∀ item ∈ items, item ≠ "") :
    Succeeds (sampleCalls pages none) pages id where
  ids := by
    intro page index item there
    refine ⟨rfl, ?_⟩
    have member := List.mem_of_getElem? there
    unfold itemsOn at member
    rw [List.getD_eq_getElem?_getD] at member
    cases found : pages[page - 1]? with
    | none => simp [found] at member
    | some items =>
      rw [found] at member
      exact named items (List.mem_of_getElem? found) item member
  processes := by
    intro place item contentId
    simp [sampleCalls]

/-- An item that was skipped on the first page is tried again. -/
theorem retried_first_page :
    ((1, 1) : Place) ∈ (scanRun (sampleCalls [["a", "b"]] (some "b")) (sampleSnapshot none) "p" "" .incremental 9).skipped ∧
      (((1, 1) : Place), true) ∈ (scanRun (sampleCalls [["a", "b"]] none) (sampleSnapshot (some "p::a")) "p" ""
        .incremental 9).attempts := by
  have skipped : ((1, 1) : Place) ∈ (scanRun (sampleCalls [["a", "b"]] (some "b")) (sampleSnapshot none) "p" ""
      .incremental 9).skipped := by decide
  refine ⟨skipped, ?_⟩
  have succeeds : Succeeds (sampleCalls [["a", "b"]] none) [["a", "b"]] id := succeeds_sample (by decide)
  refine (retried_iff (fun _ _ => rfl) (fun _ _ => rfl) succeeds skipped rfl).mpr ⟨by decide, ?_⟩
  intro page lower upper
  omega

/-- An item that was skipped on the second page is not, once all of the first page has been seen. -/
theorem passed_over_second_page :
    let pages := [["a"], ["b"]]
    let first := sampleCalls pages (some "b")
    let next := sampleCalls pages none
    let later := sampleSnapshot (some "p::a")
    let run := scanRun first (sampleSnapshot none) "p" "" .incremental 9
    Serves first pages ∧ Serves next pages ∧ Succeeds next pages id ∧ Absorbed run pages later "p" "" id ∧
      ((2, 0) : Place) ∈ run.skipped ∧ (scanRun next later "p" "" .incremental 9).attempts = [] := by
  refine ⟨fun _ _ => rfl, fun _ _ => rfl, succeeds_sample (by decide), ?_, by decide, by decide +kernel⟩
  intro place item attempted there
  have attempts : (scanRun (sampleCalls [["a"], ["b"]] (some "b")) (sampleSnapshot none) "p" "" .incremental 9).attempts =
      [((1, 0), true), ((2, 0), false)] := by decide
  rw [attempts] at attempted
  simp only [List.mem_cons, Prod.mk.injEq, and_true, Bool.true_eq_false, and_false, List.not_mem_nil, or_false]
    at attempted
  subst attempted
  obtain rfl : "a" = item := Option.some.inj there
  decide

end Sample

end Tasklite.Wrappers.Rediscovery
