import Mathlib.Data.List.TakeWhile
import Tasklite.Wrappers.Discovery

/-! Which pages a scan asks for and which items it hands on. The scan reads the pages in order up to the first
one at which it stops, and hands on what is new on the pages before. -/

namespace Tasklite.Wrappers.Pages
open Tasklite.Models Tasklite.Utils

variable [Sha256] {Item : Type}

section Source

/-- A source of pages: every page is a list, and an id or an item is looked at with its place. -/
structure Source (Item : Type) where
  pages : ℕ → List Item
  idFunc : Place → Item → Option Json
  processItemFunc : Place → Item → String → Bool

/-- The functions that a scan of the source is given. -/
def Source.callbacks (source : Source Item) : Callbacks Item where
  fetchFunc := fun page => .ok (some (source.pages page))
  idFunc := source.idFunc
  processItemFunc := source.processItemFunc

variable (source : Source Item) (snapshot : Snapshot) (processTaskType namespacePrefix : String) (scanMode : ScanMode)

/-- The entry of an item with a computable id. -/
def entryAt (page : ℕ) (item : Item × ℕ) : Option (Entry Item) :=
  (validId (source.idFunc (page, item.2) item.1)).map fun cid =>
    ⟨(page, item.2), item.1, contentIdOf namespacePrefix cid,
      processUid processTaskType (contentIdOf namespacePrefix cid)⟩

/-- The items of a page whose ids can be computed. -/
def identified (page : ℕ) : List (Entry Item) :=
  (source.pages page).zipIdx.filterMap (entryAt source processTaskType namespacePrefix page)

/-- Every id on a page can be computed. -/
def Intact (page : ℕ) : Prop :=
  ∀ item ∈ (source.pages page).zipIdx, (validId (source.idFunc (page, item.2) item.1)).isSome = true

instance (page : ℕ) : Decidable (Intact source page) := inferInstanceAs (Decidable (∀ _ ∈ _, _))

/-- The scan stops at a page that is empty, that has no computable id, or, in the incremental mode, of which all
computable ids have been seen. -/
def Stops (page : ℕ) : Prop :=
  source.pages page = [] ∨ identified source processTaskType namespacePrefix page = [] ∨
    scanMode = .incremental ∧
      ∀ entry ∈ identified source processTaskType namespacePrefix page, snapshot.seen entry.uid = true

/-- The items of a page with a computable id that has not been seen. -/
def unseen (page : ℕ) : List (Entry Item) :=
  (identified source processTaskType namespacePrefix page).filter fun entry => !snapshot.seen entry.uid

def scanOf (maxPages : ℕ) : Scan × Option String :=
  scanPages source.callbacks snapshot processTaskType namespacePrefix scanMode maxPages 1 {}

end Source

section Steps

variable {source : Source Item} {snapshot : Snapshot} {processTaskType namespacePrefix : String} {scanMode : ScanMode}

theorem collect_entries (page : ℕ) (items : List Item) (start : ℕ) :
    (collectPageEntries source.callbacks processTaskType namespacePrefix page items start).entries =
      (items.zipIdx start).filterMap (entryAt source processTaskType namespacePrefix page) := by
  induction items generalizing start with
  | nil => rfl
  | cons first rest ih =>
    rw [collectPageEntries, List.zipIdx_cons, List.filterMap_cons, ← ih (start + 1)]
    unfold entryAt
    cases found : validId (source.idFunc (page, start) first) with
    | none => simp only [Source.callbacks, found, Option.map_none]
    | some cid => simp only [Source.callbacks, found, Option.map_some]

theorem collect_intact (page : ℕ) (items : List Item) (start : ℕ) :
    (collectPageEntries source.callbacks processTaskType namespacePrefix page items start).failures.isEmpty = true ↔
      ∀ item ∈ items.zipIdx start, (validId (source.idFunc (page, item.2) item.1)).isSome = true := by
  induction items generalizing start with
  | nil => simp [collectPageEntries]
  | cons first rest ih =>
    rw [collectPageEntries, List.zipIdx_cons, List.forall_mem_cons, ← ih (start + 1)]
    cases found : validId (source.idFunc (page, start) first) with
    | none => simp [Source.callbacks, found]
    | some cid => simp only [Source.callbacks, found, Option.isSome_some, true_and]

omit [Sha256] in
/-- Trying the items of a page only adds attempts, at those that are new. -/
theorem process_attempts {calls : Callbacks Item} (allSeen : Bool) (entries : List (Entry Item)) (scan : Scan) :
    let after := processPageEntries calls snapshot allSeen entries scan
    after.attempts.map Prod.fst = scan.attempts.map Prod.fst ++
        (entries.filter fun entry => !(allSeen || snapshot.seen entry.uid)).map Entry.place ∧
      after.fetched = scan.fetched ∧ after.seenThisRun = scan.seenThisRun ∧
        after.completedFull = scan.completedFull := by
  dsimp only
  induction entries generalizing scan with
  | nil => simp [processPageEntries]
  | cons entry rest ih =>
    unfold processPageEntries
    by_cases passed : (allSeen || snapshot.seen entry.uid) = true
    · rw [if_pos passed, List.filter_cons_of_neg (by simp [passed])]
      exact ih scan
    · rw [if_neg passed, List.filter_cons_of_pos (by simpa using passed)]
      obtain ⟨attempts, others⟩ := ih { scan with
        attempts := scan.attempts ++ [(entry.place, calls.processItemFunc entry.place entry.item entry.contentId)]
        skipped := if calls.processItemFunc entry.place entry.item entry.contentId then scan.skipped
          else scan.skipped ++ [entry.place] }
      refine ⟨?_, others⟩
      rw [attempts, List.map_append, List.map_cons, List.map_cons, List.map_nil, List.append_assoc,
        List.singleton_append]

/-- What a page adds to the scan before its items are tried. -/
def noted (source : Source Item) (processTaskType namespacePrefix : String) (scanMode : ScanMode) (page : ℕ)
    (scan : Scan) : Scan :=
  { scan with
    fetched := scan.fetched ++ [page]
    skipped := scan.skipped ++ (collectPageEntries source.callbacks processTaskType namespacePrefix page
      (source.pages page) 0).failures
    seenThisRun := if scanMode = .full then scan.seenThisRun ∪
      ((identified source processTaskType namespacePrefix page).map Entry.contentId).toFinset else scan.seenThisRun
    completedFull := scan.completedFull && decide (Intact source page) }

/-- One round of the loop: the scan ends at the page, or tries what is new there and goes on. -/
theorem scanPages_round (remaining page : ℕ) (scan : Scan) :
    (Stops source snapshot processTaskType namespacePrefix scanMode page ∧
      scanPages source.callbacks snapshot processTaskType namespacePrefix scanMode (remaining + 1) page scan =
        (noted source processTaskType namespacePrefix scanMode page scan, none)) ∨
    (¬ Stops source snapshot processTaskType namespacePrefix scanMode page ∧ ∃ after : Scan,
      scanPages source.callbacks snapshot processTaskType namespacePrefix scanMode (remaining + 1) page scan =
        scanPages source.callbacks snapshot processTaskType namespacePrefix scanMode remaining (page + 1) after ∧
      after.attempts.map Prod.fst = scan.attempts.map Prod.fst ++
        (unseen source snapshot processTaskType namespacePrefix page).map Entry.place ∧
      after.fetched = scan.fetched ++ [page] ∧
      after.seenThisRun = (noted source processTaskType namespacePrefix scanMode page scan).seenThisRun ∧
      after.completedFull = (noted source processTaskType namespacePrefix scanMode page scan).completedFull) := by
  have fetched : source.callbacks.fetchFunc page = .ok (some (source.pages page)) := rfl
  have entries : (collectPageEntries source.callbacks processTaskType namespacePrefix page (source.pages page) 0).entries =
      identified source processTaskType namespacePrefix page := collect_entries page (source.pages page) 0
  have intact : (collectPageEntries source.callbacks processTaskType namespacePrefix page
      (source.pages page) 0).failures.isEmpty = decide (Intact source page) := by
    rw [Bool.eq_iff_iff, collect_intact, decide_eq_true_iff]
    rfl
  cases items : source.pages page with
  | nil =>
    left
    refine ⟨Or.inl items, ?_⟩
    have nothing : identified source processTaskType namespacePrefix page = [] := by rw [identified, items]; rfl
    have whole : Intact source page := by rw [Intact, items]; simp
    rw [scanPages, fetched, items, noted, nothing, decide_eq_true whole]
    simp [items, collectPageEntries]
  | cons first others =>
    have round : scanPages source.callbacks snapshot processTaskType namespacePrefix scanMode (remaining + 1) page scan =
        if (identified source processTaskType namespacePrefix page).isEmpty then
          (noted source processTaskType namespacePrefix scanMode page scan, none)
        else
          let pageAllSeen := (identified source processTaskType namespacePrefix page).all fun entry =>
            snapshot.seen entry.uid
          if pageAllSeen && scanMode ≠ .full then (noted source processTaskType namespacePrefix scanMode page scan, none)
          else scanPages source.callbacks snapshot processTaskType namespacePrefix scanMode remaining (page + 1)
            (processPageEntries source.callbacks snapshot pageAllSeen
              (identified source processTaskType namespacePrefix page)
              (noted source processTaskType namespacePrefix scanMode page scan)) := by
      rw [noted, ← intact, ← entries, scanPages, fetched, items]
    rw [round]
    by_cases nobody : identified source processTaskType namespacePrefix page = []
    · left
      exact ⟨Or.inr (Or.inl nobody), if_pos (by rw [nobody]; rfl)⟩
    · rw [if_neg (by rw [List.isEmpty_iff]; exact nobody)]
      by_cases stale : ((identified source processTaskType namespacePrefix page).all fun entry =>
          snapshot.seen entry.uid) && scanMode ≠ .full
      · left
        refine ⟨Or.inr (Or.inr ⟨?_, ?_⟩), if_pos stale⟩
        · cases scanMode with
          | incremental => rfl
          | full => simp at stale
        · exact List.all_eq_true.mp (Bool.and_eq_true_iff.mp stale).1
      · right
        obtain ⟨attempts, fetches, seen, completed⟩ := @process_attempts _ snapshot source.callbacks
          ((identified source processTaskType namespacePrefix page).all fun entry => snapshot.seen entry.uid)
          (identified source processTaskType namespacePrefix page)
          (noted source processTaskType namespacePrefix scanMode page scan)
        refine ⟨?_, _, if_neg stale, ?_, fetches, seen, completed⟩
        · rintro (empty | empty | ⟨incremental, known⟩)
          · rw [items] at empty
            cases empty
          · exact nobody empty
          · apply stale
            rw [List.all_eq_true.mpr known, incremental]
            rfl
        · rw [attempts, unseen]
          congr 2
          apply List.filter_congr
          intro entry member
          cases known : snapshot.seen entry.uid with
          | true => rw [Bool.or_true]
          | false =>
            have news : ((identified source processTaskType namespacePrefix page).all fun entry =>
                snapshot.seen entry.uid) = false := by
              rw [List.all_eq_false]
              exact ⟨entry, member, by simp [known]⟩
            rw [news, Bool.or_self]

end Steps

section Runs

variable {source : Source Item} {snapshot : Snapshot} {processTaskType namespacePrefix : String} {scanMode : ScanMode}

/-- A scan passes some pages and stops at the one behind them, unless it has passed as many as it may. -/
theorem scanPages_run (remaining page : ℕ) (scan : Scan) :
    ∃ passed ≤ remaining, ∃ after : Scan,
      scanPages source.callbacks snapshot processTaskType namespacePrefix scanMode remaining page scan = (after, none) ∧
      (∀ other, page ≤ other → other < page + passed →
        ¬ Stops source snapshot processTaskType namespacePrefix scanMode other) ∧
      after.attempts.map Prod.fst = scan.attempts.map Prod.fst ++ (List.range' page passed).flatMap (fun other =>
        (unseen source snapshot processTaskType namespacePrefix other).map Entry.place) ∧
      ∃ fetched : List ℕ, after.fetched = scan.fetched ++ fetched ∧
        (passed = remaining ∧ fetched = List.range' page passed ∧ after.completedFull = false ∨
          passed < remaining ∧ fetched = List.range' page (passed + 1) ∧
            Stops source snapshot processTaskType namespacePrefix scanMode (page + passed) ∧
            (after.completedFull = true ↔
              scan.completedFull = true ∧ ∀ other ∈ fetched, Intact source other)) ∧
        (scanMode = .full → ∀ id, id ∈ after.seenThisRun ↔ id ∈ scan.seenThisRun ∨
          ∃ other ∈ fetched, ∃ entry ∈ identified source processTaskType namespacePrefix other,
            entry.contentId = id) := by
  induction remaining generalizing page scan with
  | zero =>
    refine ⟨0, le_rfl, { scan with completedFull := false }, rfl, fun other lower upper => by omega, by simp, [],
      by simp, Or.inl ⟨rfl, rfl, rfl⟩, by simp⟩
  | succ remaining ih =>
    rcases @scanPages_round _ _ source snapshot processTaskType namespacePrefix scanMode remaining page scan with
      ⟨stops, ended⟩ | ⟨goes, middle, next, attempts, fetches, seen, completed⟩
    · refine ⟨0, Nat.zero_le _, _, ended, fun other lower upper => by omega, by simp [noted], [page], rfl,
        Or.inr ⟨Nat.zero_lt_succ _, rfl, stops, ?_⟩, ?_⟩
      · simp [noted]
      · rintro rfl id
        simp [noted]
    · obtain ⟨passed, few, after, ran, before, tried, fetched, behind, ending, found⟩ := ih (page + 1) middle
      refine ⟨passed + 1, by omega, after, next.trans ran, fun other lower upper => ?_, ?_, page :: fetched, ?_, ?_, ?_⟩
      · rcases Nat.eq_or_lt_of_le lower with rfl | later
        · exact goes
        · exact before other later (by omega)
      · rw [tried, attempts, List.range'_succ, List.flatMap_cons, List.append_assoc]
      · rw [behind, fetches, List.append_assoc, List.singleton_append]
      · rcases ending with ⟨all, pages, incomplete⟩ | ⟨some, pages, stops, complete⟩
        · exact Or.inl ⟨by omega, by rw [pages, List.range'_succ], incomplete⟩
        · refine Or.inr ⟨by omega, by rw [pages]; rfl, ?_, ?_⟩
          · rw [show page + (passed + 1) = page + 1 + passed by omega]
            exact stops
          · rw [complete, completed, noted, List.forall_mem_cons, Bool.and_eq_true_iff, decide_eq_true_iff, and_assoc]
      · intro full id
        have added : id ∈ (noted source processTaskType namespacePrefix scanMode page scan).seenThisRun ↔
            id ∈ scan.seenThisRun ∨
              ∃ entry ∈ identified source processTaskType namespacePrefix page, entry.contentId = id := by
          rw [noted, full]
          simp
        rw [found full, seen, added, or_assoc]
        simp only [List.mem_cons, exists_eq_or_imp]

end Runs

end Tasklite.Wrappers.Pages
