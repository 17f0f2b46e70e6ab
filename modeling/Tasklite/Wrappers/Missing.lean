import Mathlib.Data.Finset.Option
import Mathlib.Data.Finset.Sort
import Mathlib.Data.Finset.Union
import Mathlib.Data.String.Basic
import Tasklite.Wrappers.Groups
import Tasklite.Wrappers.Pages

/-! The report of missing contents. A full scan that has reached the end of the source, and has found the id of
every item on the way, reports the contents of its group that were seen before and not this time. -/

namespace Tasklite.Wrappers.Missing
open Tasklite.Library Tasklite.Models Tasklite.Utils Tasklite.Utils.Encoding Tasklite.Utils.Escapes
open Tasklite.Utils.Identifiers Groups Pages

/-- The uids of a host's successes and failures when a discovery job is dispatched. -/
structure Context where
  successes : Finset String
  failed : Finset String

/-- Membership, as a scan asks for it. -/
def Context.snapshot (context : Context) : Snapshot where
  hasSucceeded := fun uid => uid ∈ context.successes
  hasFailed := fun uid => uid ∈ context.failed

def Context.succeededOrFailedJobUids (context : Context) : Finset String := context.successes ∪ context.failed

/-- `DiscoveryHandler`: the functions it is given, and the defaults of its scan. It has a callback for missing
contents or not. -/
structure DiscoveryHandler (Item : Type) where
  calls : Callbacks Item
  processTaskType : String
  groupKeyFunc : Option (Json → Except String Json)
  maxPages : ℤ
  scanMode : ScanMode
  onMissing : Bool

namespace DiscoveryHandler

variable {Item : Type} [Python]

/-- The namespace of the handler's group; a key that is not a text, or is empty, is refused. -/
def resolvePrefix (handler : DiscoveryHandler Item) (payload : Json) : Except String String :=
  match handler.groupKeyFunc with
  | none => .ok ""
  | some groupKeyFunc =>
      match groupKeyFunc payload with
      | .error message => .error message
      | .ok (.str key) =>
          if key = "" then .error ("group_key_func must return a non-empty str, got " ++ Python.repr (.str key))
          else .ok (Groups.resolvePrefix key)
      | .ok value => .error ("group_key_func must return a non-empty str, got " ++ Python.repr value)

/-- The scan mode of a payload, when it names one. -/
def payloadMode (default : ScanMode) : Option Json → Except String ScanMode
  | none => .ok default
  | some value =>
      if value = .str "incremental" then .ok .incremental
      else if value = .str "full" then .ok .full
      else .error ("scan_mode in payload must be 'incremental' or 'full', got " ++ Python.repr value)

/-- The page limit of a payload, when it names one. -/
def payloadMaxPages (default : ℤ) : Option Json → Except String ℤ
  | none => .ok default
  | some (.int n) =>
      if n < 1 then .error ("max_pages in payload must be a positive int, got " ++ Python.repr (.int n)) else .ok n
  | some value => .error ("max_pages in payload must be a positive int, got " ++ Python.repr value)

/-- The options of a job's payload go before the handler's own. -/
def resolveScanOptions (handler : DiscoveryHandler Item) (payload : Json) : Except String (ScanMode × ℤ) :=
  let option (key : String) : Option Json := match payload with
    | .obj fields => (Dict.ofPairs fields).get? key
    | _ => none
  match payloadMode handler.scanMode (option "scan_mode") with
  | .error message => .error message
  | .ok scanMode =>
      match payloadMaxPages handler.maxPages (option "max_pages") with
      | .error message => .error message
      | .ok maxPages => .ok (scanMode, maxPages)

end DiscoveryHandler

/-- The content part of a uid of the task type. -/
def contentPart (processTaskType uid : String) : Option String :=
  if (processTaskType ++ "::").toList.isPrefixOf uid.toList then
    some (String.ofList (uid.toList.drop (processTaskType ++ "::").toList.length))
  else none

/-- The contents of the group that have been seen. -/
def knownContents (context : Context) (processTaskType namespacePrefix : String) : Finset String :=
  let escaped := if namespacePrefix = "" then "" else groupPrefix namespacePrefix
  (context.succeededOrFailedJobUids.biUnion fun uid => (contentPart processTaskType uid).toFinset).filter
    fun content => escaped = "" ∨ inDiscoveryGroup content escaped = true

/-- `_report_missing`: the argument of the callback, which is called unless nothing is missing. -/
def reportMissing (context : Context) (processTaskType namespacePrefix : String) (seenThisRun : Finset String) :
    Option (List String) :=
  let missing := (knownContents context processTaskType namespacePrefix \ seenThisRun).sort
  if missing = [] then none else some missing

/-- One call of a handler: what the scan did, and what was reported to the callback. -/
def DiscoveryHandler.call [Python] [Sha256] {Item : Type} (handler : DiscoveryHandler Item) (context : Context)
    (payload : Json) : Except String (Scan × Option (List String)) :=
  match handler.resolvePrefix payload with
  | .error message => .error message
  | .ok namespacePrefix =>
      match handler.resolveScanOptions payload with
      | .error message => .error message
      | .ok (scanMode, maxPages) =>
          match scanPages handler.calls context.snapshot handler.processTaskType namespacePrefix scanMode
              maxPages.toNat 1 {} with
          | (_, some message) => .error message
          | (scan, none) => .ok (scan,
              if scanMode = .full ∧ handler.onMissing ∧ scan.completedFull then
                reportMissing context handler.processTaskType namespacePrefix scan.seenThisRun
              else none)

section Contents

variable {context : Context} {processTaskType namespacePrefix content : String}

/-- A content of the task type that has been seen before. -/
def SeenBefore (context : Context) (processTaskType content : String) : Prop :=
  processUid processTaskType content ∈ context.succeededOrFailedJobUids

/-- No content of the task type that has been seen has an id that is cut. -/
def Untruncated (context : Context) (processTaskType : String) : Prop :=
  ∀ content, SeenBefore context processTaskType content → ∃ text, content = percentEncode isClean text

/-- A content with the namespace of the group, and an id behind it. -/
def InGroup (namespacePrefix content : String) : Prop :=
  ∃ cid, content = percentEncode isClean (namespacePrefix ++ cid)

theorem contentPart_eq_some {uid : String} :
    contentPart processTaskType uid = some content ↔ uid = processUid processTaskType content := by
  have letters : (processUid processTaskType content).toList =
      (processTaskType ++ "::").toList ++ content.toList := String.toList_append
  rw [contentPart, ← String.toList_inj, letters]
  split
  · rename_i opens
    obtain ⟨rest, split⟩ := List.isPrefixOf_iff_prefix.mp opens
    rw [← split, List.drop_left, Option.some.injEq, ← String.toList_inj, String.toList_ofList,
      List.append_cancel_left_eq]
  · rename_i other
    simp only [reduceCtorEq, false_iff]
    intro same
    apply other
    rw [List.isPrefixOf_iff_prefix, same]
    exact List.prefix_append _ _

/-- What the report starts from: the contents of the group that have been seen before. -/
theorem mem_knownContents (untruncated : Untruncated context processTaskType) :
    content ∈ knownContents context processTaskType namespacePrefix ↔
      SeenBefore context processTaskType content ∧ InGroup namespacePrefix content := by
  have seen : content ∈ (context.succeededOrFailedJobUids.biUnion fun uid =>
      (contentPart processTaskType uid).toFinset) ↔ SeenBefore context processTaskType content := by
    rw [Finset.mem_biUnion]
    simp only [Option.mem_toFinset, Option.mem_def, contentPart_eq_some, exists_eq_right, SeenBefore]
  rw [knownContents, Finset.mem_filter, seen]
  apply and_congr_right
  intro before
  obtain ⟨text, rfl⟩ := untruncated content before
  by_cases bare : namespacePrefix = ""
  · rw [if_pos bare]
    refine iff_of_true (Or.inl rfl) ⟨text, ?_⟩
    rw [bare, String.empty_append]
  · have escaped : groupPrefix namespacePrefix ≠ "" := percentEncode_ne_empty bare
    simp only [if_neg bare, escaped, false_or]
    rw [inDiscoveryGroup_escaped]
    constructor
    · rintro ⟨rest, split⟩
      refine ⟨String.ofList rest, ?_⟩
      congr 1
      rw [← String.toList_inj, String.toList_append, String.toList_ofList, split]
    · rintro ⟨cid, same⟩
      rw [percentEncode_injective isClean same, String.toList_append]
      exact List.prefix_append _ _

theorem reportMissing_eq_some {seenThisRun : Finset String} {reported : List String}
    (called : reportMissing context processTaskType namespacePrefix seenThisRun = some reported) :
    ∀ content, content ∈ reported ↔
      content ∈ knownContents context processTaskType namespacePrefix ∧ content ∉ seenThisRun := by
  unfold reportMissing at called
  dsimp only at called
  split at called
  · cases called
  · rw [Option.some.injEq] at called
    intro content
    rw [← called, Finset.mem_sort, Finset.mem_sdiff]

theorem reportMissing_of_mem {seenThisRun : Finset String}
    (known : content ∈ knownContents context processTaskType namespacePrefix) (gone : content ∉ seenThisRun) :
    ∃ reported, reportMissing context processTaskType namespacePrefix seenThisRun = some reported ∧
      content ∈ reported := by
  have member : content ∈ (knownContents context processTaskType namespacePrefix \ seenThisRun).sort := by
    rw [Finset.mem_sort, Finset.mem_sdiff]
    exact ⟨known, gone⟩
  refine ⟨_, ?_, member⟩
  unfold reportMissing
  exact if_neg (List.ne_nil_of_mem member)

end Contents

section Report

variable [Python] [Sha256] {Item : Type} {handler : DiscoveryHandler Item} {source : Source Item} {context : Context}
  {namespacePrefix content : String} {payload : Json} {scanMode : ScanMode}

/-- The content is that of an item of the page. -/
def OnPage (source : Source Item) (namespacePrefix : String) (page : ℕ) (content : String) : Prop :=
  ∃ item ∈ (source.pages page).zipIdx, ∃ cid, validId (source.idFunc (page, item.2) item.1) = some cid ∧
    contentIdOf namespacePrefix cid = content

omit [Sha256] [Python] in
/-- The scan has come to an empty page, and every id on the pages it has fetched could be computed. -/
def ReachedEnd (source : Source Item) (scan : Scan) : Prop :=
  ∃ passed, scan.fetched = List.range' 1 (passed + 1) ∧ source.pages (passed + 1) = [] ∧
    ∀ page ∈ scan.fetched, Intact source page

omit [Python] in
theorem onPage_iff {processTaskType : String} {page : ℕ} :
    (∃ entry ∈ identified source processTaskType namespacePrefix page, entry.contentId = content) ↔
      OnPage source namespacePrefix page content := by
  unfold identified OnPage entryAt
  constructor
  · rintro ⟨entry, member, same⟩
    obtain ⟨item, there, found⟩ := List.mem_filterMap.mp member
    obtain ⟨cid, valid, rfl⟩ := Option.map_eq_some_iff.mp found
    exact ⟨item, there, cid, valid, same⟩
  · rintro ⟨item, there, cid, valid, same⟩
    exact ⟨_, List.mem_filterMap.mpr ⟨item, there, by rw [valid]; rfl⟩, same⟩

omit [Python] in
/-- A full scan is complete exactly when it has reached the end, and then has seen what is on the pages. -/
theorem completed_iff {snapshot : Snapshot} {processTaskType : String} {maxPages : ℕ} {scan : Scan}
    {failure : Option String}
    (ran : scanPages source.callbacks snapshot processTaskType namespacePrefix .full maxPages 1 {} = (scan, failure)) :
    failure = none ∧ (scan.completedFull = true ↔ ReachedEnd source scan) ∧
      ∀ content, content ∈ scan.seenThisRun ↔ ∃ page ∈ scan.fetched, OnPage source namespacePrefix page content := by
  obtain ⟨passed, -, after, result, before, -, fetched, behind, ending, seen⟩ :=
    @scanPages_run _ _ source snapshot processTaskType namespacePrefix .full maxPages 1 {}
  rw [ran, Prod.mk.injEq] at result
  obtain ⟨rfl, rfl⟩ := result
  rw [List.nil_append] at behind
  refine ⟨rfl, ?_, fun content => ?_⟩
  · rcases ending with ⟨-, pages, incomplete⟩ | ⟨-, pages, stops, complete⟩
    · -- the page at which a complete scan ends would have been passed
      rw [incomplete]
      refine iff_of_false (by decide) ?_
      rintro ⟨last, fetches, empty, -⟩
      have count := congrArg List.length (behind.symm.trans fetches)
      rw [pages, List.length_range', List.length_range'] at count
      exact before (last + 1) (by omega) (by omega) (Or.inl empty)
    · rw [complete]
      constructor
      · rintro ⟨-, intact⟩
        refine ⟨passed, behind.trans pages, ?_, by rw [behind]; exact intact⟩
        rw [Nat.add_comm]
        rcases stops with empty | nobody | ⟨incremental, -⟩
        · exact empty
        · have whole : Intact source (1 + passed) := by
            apply intact
            rw [pages, List.mem_range'_1]
            omega
          cases items : source.pages (1 + passed) with
          | nil => rfl
          | cons first rest =>
            have here : (first, 0) ∈ (source.pages (1 + passed)).zipIdx := by
              rw [items]
              exact List.mem_cons_self
            obtain ⟨cid, valid⟩ := Option.isSome_iff_exists.mp (whole _ here)
            have found : OnPage source namespacePrefix (1 + passed) (contentIdOf namespacePrefix cid) :=
              ⟨_, here, cid, valid, rfl⟩
            obtain ⟨entry, member, -⟩ := (@onPage_iff _ _ source namespacePrefix _ processTaskType _).mpr found
            rw [nobody] at member
            cases member
        · cases incremental
      · rintro ⟨-, -, -, intact⟩
        exact ⟨rfl, by rw [← behind]; exact intact⟩
  · rw [seen rfl, behind]
    simp only [Finset.notMem_empty, false_or, onPage_iff]

/-- What a call that returns has done: it has resolved its options, scanned, and reported what the scan allows. -/
theorem call_ok {scan : Scan} {report : Option (List String)}
    (called : DiscoveryHandler.call { handler with calls := source.callbacks } context payload = .ok (scan, report)) :
    ∃ namespacePrefix scanMode maxPages, handler.resolvePrefix payload = .ok namespacePrefix ∧
      handler.resolveScanOptions payload = .ok (scanMode, maxPages) ∧
      scanPages source.callbacks context.snapshot handler.processTaskType namespacePrefix scanMode maxPages.toNat 1 {} =
        (scan, none) ∧
      report = if scanMode = .full ∧ handler.onMissing ∧ scan.completedFull then
          reportMissing context handler.processTaskType namespacePrefix scan.seenThisRun
        else none := by
  have samePrefix : DiscoveryHandler.resolvePrefix { handler with calls := source.callbacks } payload =
      handler.resolvePrefix payload := rfl
  have sameOptions : DiscoveryHandler.resolveScanOptions { handler with calls := source.callbacks } payload =
      handler.resolveScanOptions payload := rfl
  unfold DiscoveryHandler.call at called
  rw [samePrefix, sameOptions] at called
  cases grouped : handler.resolvePrefix payload with
  | error message => simp [grouped] at called
  | ok namespacePrefix =>
    cases resolved : handler.resolveScanOptions payload with
    | error message => simp [grouped, resolved] at called
    | ok options =>
      obtain ⟨scanMode, maxPages⟩ := options
      simp only [grouped, resolved] at called
      split at called
      · cases called
      · rename_i ran
        simp only [Except.ok.injEq, Prod.mk.injEq] at called
        obtain ⟨rfl, rfl⟩ := called
        exact ⟨namespacePrefix, scanMode, maxPages, rfl, rfl, ran, rfl⟩

/-- What is reported is missing, and what is missing is reported. A report is made only by a scan whose effective
mode is the full one and that has come to the end of the source, with every id on the way computed; it names
contents of the group that were seen before and are on no page. Such a scan reports all of them. -/
theorem report_exact (source : Source Item) (handler : DiscoveryHandler Item) (context : Context) (payload : Json)
    (untruncated : Untruncated context handler.processTaskType) :
    (∀ scan reported,
      DiscoveryHandler.call { handler with calls := source.callbacks } context payload = .ok (scan, some reported) →
      ∃ namespacePrefix maxPages, handler.resolvePrefix payload = .ok namespacePrefix ∧
        handler.resolveScanOptions payload = .ok (.full, maxPages) ∧ ReachedEnd source scan ∧
        ∀ content ∈ reported, SeenBefore context handler.processTaskType content ∧ InGroup namespacePrefix content ∧
          ∀ page ∈ scan.fetched, ¬ OnPage source namespacePrefix page content) ∧
    (∀ scan report namespacePrefix maxPages,
      DiscoveryHandler.call { handler with calls := source.callbacks } context payload = .ok (scan, report) →
      handler.resolvePrefix payload = .ok namespacePrefix →
      handler.resolveScanOptions payload = .ok (.full, maxPages) → handler.onMissing = true →
      ReachedEnd source scan →
      ∀ content, SeenBefore context handler.processTaskType content → InGroup namespacePrefix content →
        (∀ page ∈ scan.fetched, ¬ OnPage source namespacePrefix page content) →
        ∃ reported, report = some reported ∧ content ∈ reported) := by
  constructor
  · intro scan reported called
    obtain ⟨namespacePrefix, scanMode, maxPages, grouped, resolved, ran, report⟩ := call_ok called
    split at report
    · rename_i allowed
      obtain ⟨rfl, -, completed⟩ := allowed
      obtain ⟨-, ended, seen⟩ := completed_iff ran
      refine ⟨namespacePrefix, maxPages, grouped, resolved, ended.mp completed, fun content member => ?_⟩
      obtain ⟨known, gone⟩ := (reportMissing_eq_some report.symm content).mp member
      obtain ⟨before, group⟩ := (mem_knownContents untruncated).mp known
      refine ⟨before, group, fun page fetched there => gone ?_⟩
      exact (seen content).mpr ⟨page, fetched, there⟩
    · cases report
  · intro scan report namespacePrefix maxPages called grouped resolved given ended content before group absent
    obtain ⟨otherPrefix, scanMode, otherPages, grouped', resolved', ran, report⟩ := call_ok called
    obtain rfl : namespacePrefix = otherPrefix := Except.ok.inj (grouped.symm.trans grouped')
    obtain ⟨rfl, rfl⟩ : ScanMode.full = scanMode ∧ maxPages = otherPages := by
      have options := Except.ok.inj (resolved.symm.trans resolved')
      exact Prod.mk.inj options
    obtain ⟨-, completed, seen⟩ := completed_iff ran
    rw [if_pos ⟨rfl, given, completed.mpr ended⟩] at report
    have gone : content ∉ scan.seenThisRun := by
      rw [seen]
      rintro ⟨page, fetched, there⟩
      exact absent page fetched there
    obtain ⟨reported, called, member⟩ := reportMissing_of_mem ((mem_knownContents untruncated).mpr ⟨before, group⟩) gone
    exact ⟨reported, report.trans called, member⟩

end Report

section Sample

local instance : Python := Python.sample
local instance : Sha256 := Sha256.sample

/-- A source from which everything is gone. -/
def sampleSource : Source String where
  pages := fun _ => []
  idFunc := fun _ item => some (.str item)
  processItemFunc := fun _ _ _ => true

/-- A handler for the group `g`, incremental by default. -/
def sampleHandler : DiscoveryHandler String where
  calls := sampleSource.callbacks
  processTaskType := "p"
  groupKeyFunc := some fun _ => .ok (.str "g")
  maxPages := 3
  scanMode := .incremental
  onMissing := true

/-- The content `x` of the group has succeeded before. -/
def sampleContext : Context where
  successes := {"p::1%3Agx"}
  failed := ∅

theorem untruncated_sample : Untruncated sampleContext "p" := by
  intro content before
  refine ⟨"1:gx", ?_⟩
  have uid : processUid "p" content = "p::1%3Agx" := by
    simpa [SeenBefore, Context.succeededOrFailedJobUids, sampleContext] using before
  have escaped : "p::1%3Agx" = processUid "p" (percentEncode isClean "1:gx") := by decide
  have parts := congrArg (contentPart "p") (uid.trans escaped)
  rw [contentPart_eq_some.mpr rfl, contentPart_eq_some.mpr rfl] at parts
  exact Option.some.inj parts

/-- The content that is gone is reported, as the payload asks for a full scan. -/
theorem report_gone : Untruncated sampleContext sampleHandler.processTaskType ∧ ∃ scan reported,
    DiscoveryHandler.call { sampleHandler with calls := sampleSource.callbacks } sampleContext
      (.obj [("scan_mode", .str "full")]) = .ok (scan, some reported) ∧ "1%3Agx" ∈ reported := by
  have group : InGroup "1:g" "1%3Agx" := ⟨"x", by decide⟩
  have before : SeenBefore sampleContext "p" "1%3Agx" := by
    rw [SeenBefore]
    decide
  obtain ⟨reported, report, member⟩ := (report_exact sampleSource sampleHandler sampleContext
    (.obj [("scan_mode", .str "full")]) untruncated_sample).2 { fetched := [1] } _ "1:g" 3 rfl rfl rfl rfl
    ⟨0, rfl, rfl, by simp [Intact, sampleSource]⟩ "1%3Agx" before group
    (by simp [OnPage, sampleSource])
  refine ⟨untruncated_sample, { fetched := [1] }, reported, ?_, member⟩
  rw [← report]
  rfl

end Sample

end Tasklite.Wrappers.Missing
