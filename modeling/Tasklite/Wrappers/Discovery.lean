import Mathlib.Data.Finset.Dedup
import Mathlib.Data.Finset.Lattice.Lemmas
import Tasklite.Models.Json
import Tasklite.Utils.Encoding

/-! The scan of a paged source for items that have not been seen. An item is seen when its
process job is in the snapshot of the successes or of the failures. An item whose id cannot be
computed, or that cannot be processed, is skipped and logged; nothing is remembered of it. -/

namespace Tasklite.Wrappers
open Tasklite.Models Tasklite.Utils

inductive ScanMode where
  | incremental
  | full
deriving DecidableEq

/-- Where an item stands: its page, counted from 1, and its index there. -/
abbrev Place := ℕ × ℕ

/-- What the user's functions answer in one run. `fetchFunc` raises or returns a value, which may not be a
list; `idFunc` raises or returns a value; `processItemFunc` raises or not. -/
structure Callbacks (Item : Type) where
  fetchFunc : ℕ → Except String (Option (List Item))
  idFunc : Place → Item → Option Json
  processItemFunc : Place → Item → String → Bool

/-- The successes and failures when the discovery job was dispatched. -/
structure Snapshot where
  hasSucceeded : String → Bool
  hasFailed : String → Bool

def Snapshot.seen (snapshot : Snapshot) (uid : String) : Bool := snapshot.hasSucceeded uid || snapshot.hasFailed uid

structure Entry (Item : Type) where
  place : Place
  item : Item
  contentId : String
  uid : String

/-- What a page gives: the items with an id, and the places of those without. -/
structure Collected (Item : Type) where
  entries : List (Entry Item)
  failures : List Place

/-- What a scan has done: the pages it has asked for, the items it has tried to process with what came of it,
the items it has skipped, and what it has seen. -/
structure Scan where
  fetched : List ℕ := []
  attempts : List (Place × Bool) := []
  skipped : List Place := []
  seenThisRun : Finset String := ∅
  completedFull : Bool := true

/-- An answer of `idFunc` that is an id. -/
def validId : Option Json → Option String
  | some (.str cid) => if cid = "" then none else some cid
  | _ => none

section Ids

variable [Sha256]

def contentIdMaxLen : ℤ := 120

/-- The content id of an item. The encoder does not raise for the default length. -/
def contentIdOf (namespacePrefix cid : String) : String :=
  (Encoding.encodeContentId contentIdMaxLen (namespacePrefix ++ cid)).getD ""

theorem encodeContentId_isSome (text : String) : (Encoding.encodeContentId contentIdMaxLen text).isSome = true := by
  unfold Encoding.encodeContentId Encoding.encodeIdentifier
  have room : ¬ contentIdMaxLen - Encoding.truncFixedLen < 0 := by decide
  simp only [if_neg room]
  split_ifs <;> rfl

/-- The uid of the job that processes an item. -/
def processUid (processTaskType contentId : String) : String := processTaskType ++ "::" ++ contentId

end Ids

section Scanning

variable [Sha256] {Item : Type} (calls : Callbacks Item) (snapshot : Snapshot) (processTaskType namespacePrefix : String)
  (scanMode : ScanMode)

/-- `_collect_page_entries` on the items of a page from an index on. -/
def collectPageEntries (page : ℕ) : List Item → ℕ → Collected Item
  | [], _ => ⟨[], []⟩
  | item :: rest, index =>
      let collected := collectPageEntries page rest (index + 1)
      match validId (calls.idFunc (page, index) item) with
      | none => { collected with failures := (page, index) :: collected.failures }
      | some cid =>
          let contentId := contentIdOf namespacePrefix cid
          { collected with entries := ⟨(page, index), item, contentId, processUid processTaskType contentId⟩ ::
              collected.entries }

omit [Sha256] in
/-- `_process_page_entries`: try every item that has not been seen. -/
def processPageEntries (pageAllSeen : Bool) : List (Entry Item) → Scan → Scan
  | [], scan => scan
  | entry :: rest, scan =>
      if pageAllSeen || snapshot.seen entry.uid then processPageEntries pageAllSeen rest scan
      else
        let processed := calls.processItemFunc entry.place entry.item entry.contentId
        processPageEntries pageAllSeen rest { scan with
          attempts := scan.attempts ++ [(entry.place, processed)]
          skipped := if processed then scan.skipped else scan.skipped ++ [entry.place] }

def notAList : String := "fetch_func must return a list of items"

/-- The loop over the pages, with the number of pages that are left to it. The message is that of an exception
that ends the scan. -/
def scanPages : ℕ → ℕ → Scan → Scan × Option String
  | 0, _, scan => ({ scan with completedFull := false }, none)
  | remaining + 1, page, scan =>
      let asked := { scan with fetched := scan.fetched ++ [page] }
      match calls.fetchFunc page with
      | .error message => (asked, some message)
      | .ok none => (asked, some notAList)
      | .ok (some []) => (asked, none)
      | .ok (some (first :: others)) =>
          let collected := collectPageEntries calls processTaskType namespacePrefix page (first :: others) 0
          let noted := { asked with
            skipped := scan.skipped ++ collected.failures
            seenThisRun := if scanMode = .full then
              scan.seenThisRun ∪ (collected.entries.map Entry.contentId).toFinset else scan.seenThisRun
            completedFull := scan.completedFull && collected.failures.isEmpty }
          if collected.entries.isEmpty then (noted, none)
          else
            let pageAllSeen := collected.entries.all fun entry => snapshot.seen entry.uid
            if pageAllSeen && scanMode ≠ .full then (noted, none)
            else scanPages remaining (page + 1) (processPageEntries calls snapshot pageAllSeen collected.entries noted)

end Scanning

end Tasklite.Wrappers
