import Tasklite.Engine.Completion
import Tasklite.Engine.Decoding
import Tasklite.Library.Segments

/-! What a failure is put down to. An exception of a handler is sorted in the worker, sent as a status with a text,
read by the scheduler, and sorted once more by its text when it is archived. -/

namespace Tasklite.Engine.Attribution
open Tasklite.Library Tasklite.Models Tasklite.Engine.Decoding Tasklite.Engine.Transport

def errIpcWriteDegradedPrefix : String := "IPC_RESULT_WRITE_DEGRADED"

/-- The codes by which a text is sorted, with category, transience and fatality. -/
def mapping : List (String × ErrorCategory × Bool × Bool) := [
  (errDependencyDeadlock, .deadlock, false, false),
  (errResourceDeadlock, .deadlock, false, false),
  (errMalformedJob, .deadlock, false, false),
  (errDeadlockGap, .deadlock, false, false),
  (errJobDependency, .dependency, false, false),
  (errMaxRetries, .transientExhausted, false, false),
  (errNoHandler, .noHandler, false, true),
  (errPayloadValidation, .validation, false, false),
  (errTimeoutPrefix, .fatal, false, true),
  (errProcessCrashPrefix, .transientExhausted, true, false),
  (errNoIpcResult, .transientExhausted, true, false),
  (errProcessSignalDeath, .transientExhausted, true, false),
  (errIpcWriteDegradedPrefix, .transientExhausted, true, false)]

/-- What the classifier says about a failure. -/
structure ErrorClassification where
  category : ErrorCategory
  errorCode : String := ""
  errorCategory : Json := .str category.value
  isTransient : Bool := false
  isFatal : Bool := false
  isRetry : Bool := false
  isInterrupted : Bool := false
  traceback : Json := .null
  rawError : String := ""

def startsWith (error code : String) : Bool := code.toList.isPrefixOf error.toList

def classifyString (error : String) : ErrorClassification :=
  match mapping.find? fun entry => startsWith error entry.1 with
  | some (code, category, isTransient, isFatal) =>
      { category, errorCode := code, isTransient, isFatal, rawError := error }
  | none =>
      if startsWith error errCommitFailure then
        { category := .commitFailure, errorCode := errCommitFailure, rawError := error }
      else if startsWith error errDispatchFailure then
        { category := .dispatch, errorCode := errDispatchFailure, rawError := error }
      else { category := .unknown, rawError := error }

/-- An exception that a handler raises: its class by name and by the families that it belongs to, and its texts. The
classes that are declared to a classifier are `Exception`s. -/
structure Exception where
  typeName : String
  text : String
  traceback : String
  isException : Bool := true
  artifactError : Bool := false
  retryError : Bool := false
  rateLimitHit : Bool := false
  fatalError : Bool := false
  keyboardInterrupt : Bool := false
  systemExit : Bool := false
  registered : Bool := false
  fatalHeuristic : Bool := false
  transientHeuristic : Bool := false
  declared : isException = false → (artifactError || retryError || fatalError || registered || fatalHeuristic ||
    transientHeuristic) = false
  apart : isException = true → keyboardInterrupt = false ∧ systemExit = false
  limited : rateLimitHit = true → retryError = true

theorem Exception.calm {e : Exception} (retry : e.retryError = false) : e.rateLimitHit = false := by
  rw [Bool.eq_false_iff]
  intro hit
  rw [e.limited hit] at retry
  cases retry

/-- The name of the class in front of the text. -/
def Exception.named (e : Exception) : String := e.typeName ++ ": " ++ e.text

def classifyException (e : Exception) : ErrorClassification :=
  let rawError := if e.text = "" then e.typeName else e.named
  if e.keyboardInterrupt then {
      category := .interrupted
      errorCode := "INTERRUPTED"
      errorCategory := .str ErrorCategory.unknown.value
      isInterrupted := true
      rawError }
  else if e.retryError || e.registered then
    { category := .transientExhausted, errorCode := errMaxRetries, isTransient := true, isRetry := true, rawError }
  else if e.fatalError || e.fatalHeuristic then { category := .fatal, isFatal := true, rawError }
  else if e.transientHeuristic then
    { category := .transientExhausted, errorCode := errMaxRetries, isTransient := true, rawError }
  else { category := .unknown, rawError }

/-- The message of a worker about what its handler has raised. -/
def report (status message : String) (more : List (String × Json)) : Record :=
  Dict.ofPairs ([("status", .str status), ("error_message", .str message)] ++ more)

/-- What the worker sends about an exception; some make it die without a word. -/
def reportOf (e : Exception) : Option Record :=
  let trace : List (String × Json) := [("traceback", .str e.traceback)]
  if e.artifactError then some (report "artifact_error" e.text [])
  else if e.retryError then
    some (report "retry" e.text (if e.rateLimitHit then [("transient_kind", .str "rate_limited")] else []))
  else if e.fatalError then some (report "fatal" e.text trace)
  else if e.isException then
    if (classifyException e).isRetry || (classifyException e).isTransient then some (report "retry" e.named [])
    else if (classifyException e).isFatal then some (report "fatal" e.named trace)
    else some (report "error" e.named trace)
  else if e.keyboardInterrupt then some (report "interrupted" ("WORKER_INTERRUPTED: " ++ e.typeName) trace)
  else if e.systemExit then some (report "error" ("WORKER_INTERRUPTED: " ++ e.typeName) trace)
  else none

section Archive

variable [Python] [IntDigits]

/-- A value as text, or what stands for it when there is none. -/
def safeStr (value : Json) : String :=
  match spelled format value with
  | .ok text => text
  | .error _ => "<unprintable " ++ value.typeName ++ ">"

def classifyDict (metadata : Record) : ErrorClassification :=
  let rawError := safeStr (fieldOr metadata "error_message" (.str ""))
  let traceback := Record.get metadata "traceback"
  match Record.get metadata "status" with
  | .str "retry" => {
      category := .transientExhausted
      errorCode := errMaxRetries
      isTransient := true
      isRetry := true
      rawError, traceback }
  | .str "fatal" => { category := .fatal, isFatal := true, rawError, traceback }
  | .str "interrupted" => {
      category := .interrupted
      errorCode := "INTERRUPTED"
      errorCategory := .str ErrorCategory.unknown.value
      isInterrupted := true
      rawError }
  | _ =>
      if (Record.get metadata "is_fatal").truthy then
        { category := .fatal, errorCode := rawError, isFatal := true, rawError, traceback }
      else
        let sorted := classifyString rawError
        let stated := Record.get metadata "error_category"
        if stated.truthy ∧ stated ≠ .str ErrorCategory.unknown.value then
          { sorted with errorCode := rawError, errorCategory := stated, rawError, traceback }
        else sorted

/-- The category under which metadata without one is filed. -/
def filed (metadata : Record) : ErrorCategory :=
  if (classifyDict metadata).isInterrupted then .unknown else (classifyDict metadata).category

/-- The metadata of a job that is given up with a result: when a retry is asked for, its retries are used up. -/
def givenUp (row : Record) (result : ExecutionResult) : Record :=
  if result.retryRequested then Runtime.maxRetriesMetadata row result.retryError else result.resultMetadata

end Archive

section Codes

def errorCodes : List String := mapping.map Prod.fst ++ [errCommitFailure, errDispatchFailure]

theorem startsWith_iff {error code : String} : startsWith error code = true ↔ code.toList <+: error.toList :=
  List.isPrefixOf_iff_prefix

theorem mapping_known : ∀ entry ∈ mapping, entry.2.1 ≠ .unknown := by decide

theorem colon_not_mem_code : ∀ code ∈ errorCodes, ':' ∉ code.toList := by decide

/-- A text is sorted as unknown exactly when it opens with no code. -/
theorem classifyString_unknown_iff {error : String} :
    (classifyString error).category = .unknown ↔ ∀ code ∈ errorCodes, startsWith error code = false := by
  unfold classifyString errorCodes
  split
  · rename_i entry found
    refine iff_of_false (mapping_known _ (List.mem_of_find?_eq_some found)) fun none => ?_
    have opens := List.find?_some found
    rw [none _ (List.mem_append_left _ (List.mem_map_of_mem (List.mem_of_find?_eq_some found)))] at opens
    cases opens
  · rename_i absent
    have others : ∀ code ∈ mapping.map Prod.fst, startsWith error code = false := by
      intro code member
      obtain ⟨entry, inside, rfl⟩ := List.mem_map.mp member
      simpa using List.find?_eq_none.mp absent entry inside
    rw [List.forall_mem_append]
    split
    · rename_i opens
      exact iff_of_false (fun same => by cases same) fun none => by simp [opens] at none
    · split
      · rename_i opens
        exact iff_of_false (fun same => by cases same) fun none => by simp [opens] at none
      · rename_i first second
        exact iff_of_true rfl ⟨others, by simp [first, second]⟩

theorem not_interrupted_string (error : String) : (classifyString error).isInterrupted = false := by
  unfold classifyString
  split
  · rfl
  · split
    · rfl
    · split <;> rfl

/-- A code holds no colon, so the colon behind the name of a class ends what it can open. -/
theorem startsWith_named (e : Exception) {code : String} (member : code ∈ errorCodes) :
    startsWith e.named code = startsWith e.typeName code := by
  rw [Bool.eq_iff_iff, startsWith_iff, startsWith_iff]
  have text : e.named.toList = e.typeName.toList ++ ':' :: (' ' :: e.text.toList) := by
    simp [Exception.named]
  rw [text]
  refine ⟨fun opens => ?_, fun opens => opens.trans (List.prefix_append _ _)⟩
  obtain ⟨later, same⟩ := opens
  obtain ⟨gap, longer, -⟩ := Segments.behind_front (colon_not_mem_code code member) same
  exact ⟨gap, longer.symm⟩

/-- An exception that is sorted as unknown, and raised as one of no family. -/
def Exception.isPlain (e : Exception) : Bool :=
  e.isException && !e.retryError && !e.fatalError && !e.registered && !e.fatalHeuristic && !e.transientHeuristic

/-- The exceptions that are archived under another category than the classifier's: a fatal error that is registered as
transient, and one whose class has a name that opens with a code. -/
def Misfiled (e : Exception) : Prop :=
  e.retryError = false ∧ e.fatalError = true ∧ e.registered = true ∨
    e.isPlain = true ∧ ∃ code ∈ errorCodes, startsWith e.typeName code = true

/-- The text of an exception is sorted as unknown unless the name of its class opens with a code. -/
theorem classifyString_named (e : Exception) :
    (classifyString e.named).category = .unknown ↔ ¬ ∃ code ∈ errorCodes, startsWith e.typeName code = true := by
  rw [classifyString_unknown_iff]
  constructor
  · rintro none ⟨code, member, opens⟩
    rw [← startsWith_named e member, none code member] at opens
    cases opens
  · intro absent code member
    rw [startsWith_named e member, Bool.eq_false_iff]
    exact fun opens => absent ⟨code, member, opens⟩

theorem classifyString_interrupted (name : String) :
    (classifyString ("WORKER_INTERRUPTED: " ++ name)).category = .unknown := by
  rw [classifyString_unknown_iff]
  have first : ∀ code ∈ errorCodes, ∃ head rest, code.toList = head :: rest ∧ head ≠ 'W' := by
    intro code member
    have opening : ∀ code ∈ errorCodes, code.toList.head? ≠ none ∧ code.toList.head? ≠ some 'W' := by decide
    obtain ⟨some, other⟩ := opening code member
    cases letters : code.toList with
    | nil => rw [letters] at some; exact absurd rfl some
    | cons head rest => exact ⟨head, rest, rfl, fun same => other (by rw [letters, same]; rfl)⟩
  intro code member
  obtain ⟨head, rest, letters, other⟩ := first code member
  rw [Bool.eq_false_iff]
  intro opens
  rw [startsWith_iff, letters, String.toList_append] at opens
  obtain ⟨_, same⟩ := opens
  exact other (List.cons.inj same).1

end Codes

section Reports

variable [Python] [IntDigits] {platform : Platform} {exitcode : Option Int} {message trace : String}

theorem decode_report {status : String} {more : List (String × Json)} {result : Except String ExecutionResult}
    (current : legacyKeys (report status message more) = [])
    (decoded : decodeStatus platform exitcode (report status message more) = result) :
    decodeIpcResult platform exitcode (.obj (report status message more).entries) = result := by
  rw [decodeIpcResult, Dict.ofPairs_entries]
  simp only [current, if_true]
  exact decoded

/-- The retry that a worker asks for. -/
theorem decode_retry (limited : Bool) : decodeIpcResult platform exitcode
      (.obj (report "retry" message (if limited then [("transient_kind", .str "rate_limited")] else [])).entries) =
    .ok { retryRequested := true, retryError := some (.str message),
          transientKind := if limited then some "rate_limited" else none } := by
  cases limited with
  | false => exact decode_report rfl rfl
  | true => exact decode_report rfl rfl

theorem decode_fatal : decodeIpcResult platform exitcode
      (.obj (report "fatal" message [("traceback", .str trace)]).entries) =
    .ok { resultMetadata := Dict.ofPairs
            [("error_message", .str message), ("traceback", .str trace), ("is_fatal", .bool true)] } :=
  decode_report rfl rfl

theorem decode_error : decodeIpcResult platform exitcode
      (.obj (report "error" message [("traceback", .str trace)]).entries) =
    .ok { resultMetadata := Dict.ofPairs [("error_message", .str message), ("traceback", .str trace)] } :=
  decode_report rfl rfl

theorem decode_interrupted : decodeIpcResult platform exitcode
      (.obj (report "interrupted" message [("traceback", .str trace)]).entries) =
    .ok { retryRequested := true, retryError := some (.str message), transientKind := some "interrupted" } :=
  decode_report rfl rfl

end Reports

section Filing

variable [Python] [IntDigits]

/-- Metadata that says nothing else is filed by its text. -/
theorem filed_by_text {metadata : Record} {text : String} (message : metadata.get? "error_message" = some (.str text))
    (status : Record.get metadata "status" = .null) (fatal : Record.get metadata "is_fatal" = .null)
    (stated : Record.get metadata "error_category" = .null) :
    filed metadata = (classifyString text).category := by
  have read : safeStr (fieldOr metadata "error_message" (.str "")) = text := by
    rw [fieldOr, message]
    rfl
  have sorted : classifyDict metadata = classifyString text := by
    rw [classifyDict, status, read]
    simp only [fatal, stated, Json.truthy, Bool.false_eq_true, false_and, if_false]
  rw [filed, sorted, not_interrupted_string]
  rfl

/-- Metadata that states no category is archived under the one that it is filed under. -/
theorem category_of_normalize {metadata : Record} (now : Text)
    (stated : Record.get metadata "error_category" = .null) :
    Record.get (normalizeFailureMetadata filed now metadata) "error_category" = .str (filed metadata).value := by
  have unstated : ¬ (Record.get metadata "error_category").truthy = true := by
    rw [stated]
    simp [Json.truthy]
  unfold normalizeFailureMetadata
  simp only [if_neg unstated]
  split <;> split <;> simp [Record.get, Dict.get?_set]

omit [IntDigits] in
theorem maxRetries_get {key : String} (row : Record) (retryError : Option Json) (message : key ≠ "error_message")
    (last : key ≠ "last_retry_error") (error : key ≠ "retry_error") :
    Record.get (Runtime.maxRetriesMetadata row retryError) key = .null := by
  have base : Record.get (Dict.ofPairs [("error_message", Json.str errMaxRetries)]) key = .null := by
    simp [Record.get, Dict.ofPairs, Dict.update, Dict.get?_set, message]
  unfold Runtime.maxRetriesMetadata
  dsimp only
  have kept (value : Json) : Record.get ((if (JobRuntimeState.fromDict (Record.get row "runtime")).lastRetryError = ""
      then Dict.ofPairs [("error_message", Json.str errMaxRetries)]
      else (Dict.ofPairs [("error_message", Json.str errMaxRetries)]).set "last_retry_error" value)) key = .null := by
    split
    · exact base
    · rw [Record.get_set_of_ne _ _ last]
      exact base
  cases retryError with
  | none => exact kept _
  | some raised =>
    dsimp only
    split
    · rw [Record.get_set_of_ne _ _ error]
      exact kept _
    · exact kept _

omit [IntDigits] in
theorem maxRetries_message (row : Record) (retryError : Option Json) :
    (Runtime.maxRetriesMetadata row retryError).get? "error_message" = some (.str errMaxRetries) := by
  unfold Runtime.maxRetriesMetadata
  dsimp only
  cases retryError with
  | none => dsimp only; split <;> simp [Dict.ofPairs, Dict.update, Dict.get?_set]
  | some raised => dsimp only; split <;> split <;> simp [Dict.ofPairs, Dict.update, Dict.get?_set]

variable {row : Record} {result : ExecutionResult}

/-- A job whose retries are used up is archived as transient. -/
theorem archived_retry (now : Text) (retry : result.retryRequested = true) :
    Record.get (normalizeFailureMetadata filed now (givenUp row result)) "error_category" =
      .str ErrorCategory.transientExhausted.value := by
  have stated : Record.get (Runtime.maxRetriesMetadata row result.retryError) "error_category" = .null :=
    maxRetries_get row _ (by decide) (by decide) (by decide)
  rw [givenUp, if_pos retry, category_of_normalize now stated,
    filed_by_text (maxRetries_message row result.retryError)
      (maxRetries_get row _ (by decide) (by decide) (by decide))
      (maxRetries_get row _ (by decide) (by decide) (by decide)) stated]
  rfl

/-- A failure of a worker is archived by what its metadata says. -/
theorem archived_failure (row : Record) (now : Text) (retry : result.retryRequested = false)
    (stated : Record.get result.resultMetadata "error_category" = .null) :
    Record.get (normalizeFailureMetadata filed now (givenUp row result)) "error_category" =
      .str (filed result.resultMetadata).value := by
  rw [givenUp, if_neg (by simp [retry]), category_of_normalize now stated]

theorem filed_fatal {message trace : String} : filed (Dict.ofPairs
    [("error_message", .str message), ("traceback", .str trace), ("is_fatal", .bool true)]) = .fatal := rfl

theorem filed_error {message trace : String} : filed (Dict.ofPairs
    [("error_message", .str message), ("traceback", .str trace)]) = (classifyString message).category :=
  filed_by_text rfl rfl rfl rfl

end Filing

theorem value_unknown_iff {category : ErrorCategory} :
    Json.str category.value = .str ErrorCategory.unknown.value ↔ category = .unknown := by
  cases category <;> simp [ErrorCategory.value]

section Ends

variable [Python] [IntDigits] {platform : Platform} {exitcode : Option Int} {row payload : Record} {now : Text}
  {e : Exception}

/-- What becomes of the report of an exception. It is read as a transient signal exactly for a rate limit or an
interrupt; else the job, once it is given up with it, is archived under the category that the classifier gives to
the exception, unless the exception is misfiled. -/
def Filed (platform : Platform) (exitcode : Option Int) (row : Record) (now : Text) (e : Exception)
    (payload : Record) : Prop :=
  ∃ result, decodeIpcResult platform exitcode (.obj payload.entries) = .ok result ∧
    (result.transientKind ≠ none ↔ e.rateLimitHit = true ∨ e.keyboardInterrupt = true) ∧
    (result.transientKind = none →
      (Record.get (normalizeFailureMetadata filed now (givenUp row result)) "error_category" =
        (classifyException e).errorCategory ↔ ¬ Misfiled e))

theorem filed_retry_error (awake : e.keyboardInterrupt = false) (retry : e.retryError = true) :
    Filed platform exitcode row now e
      (report "retry" e.text (if e.rateLimitHit then [("transient_kind", .str "rate_limited")] else [])) := by
  refine ⟨_, decode_retry e.rateLimitHit, ?_, fun _ => ?_⟩
  · cases e.rateLimitHit <;> simp [awake]
  · rw [archived_retry now rfl]
    exact iff_of_true (by simp [classifyException, awake, retry]) (by simp [Misfiled, Exception.isPlain, retry])

theorem filed_fatal_error (awake : e.keyboardInterrupt = false) (retry : e.retryError = false)
    (fatal : e.fatalError = true) :
    Filed platform exitcode row now e (report "fatal" e.text [("traceback", .str e.traceback)]) := by
  refine ⟨_, decode_fatal, by simp [e.calm retry, awake], fun _ => ?_⟩
  rw [archived_failure row now rfl rfl, filed_fatal]
  cases registered : e.registered with
  | false =>
    exact iff_of_true (by simp [classifyException, awake, retry, fatal, registered])
      (by simp [Misfiled, Exception.isPlain, fatal, registered])
  | true =>
    refine iff_of_false ?_ (not_not.mpr (.inl ⟨retry, fatal, registered⟩))
    simp [classifyException, awake, retry, registered, ErrorCategory.value]

section Sorted

variable (awake : e.keyboardInterrupt = false) (retry : e.retryError = false) (fatal : e.fatalError = false)
  (exception : e.isException = true) (handled : e.artifactError = false)

include awake retry fatal exception handled

theorem filed_transient (again : e.registered = true ∨ e.fatalHeuristic = false ∧ e.transientHeuristic = true)
    (reported : reportOf e = some payload) : Filed platform exitcode row now e payload := by
  have sorted : (classifyException e).isTransient = true ∧
      (classifyException e).errorCategory = .str ErrorCategory.transientExhausted.value := by
    rcases again with registered | ⟨calmly, transient⟩
    · simp [classifyException, awake, retry, registered]
    · cases registered : e.registered <;>
        simp [classifyException, awake, retry, fatal, registered, calmly, transient]
  obtain rfl : report "retry" e.named [] = payload := by
    simpa [reportOf, handled, retry, fatal, exception, sorted.1] using reported
  refine ⟨_, decode_retry false, by simp [e.calm retry, awake], fun _ => ?_⟩
  rw [archived_retry now rfl, sorted.2]
  refine iff_of_true rfl ?_
  rcases again with registered | ⟨calmly, transient⟩
  · simp [Misfiled, Exception.isPlain, fatal, registered]
  · simp [Misfiled, Exception.isPlain, fatal, transient]

theorem filed_heuristic (registered : e.registered = false) (heuristic : e.fatalHeuristic = true)
    (reported : reportOf e = some payload) : Filed platform exitcode row now e payload := by
  obtain rfl : report "fatal" e.named [("traceback", .str e.traceback)] = payload := by
    simpa [reportOf, handled, retry, fatal, exception, classifyException, awake, registered, heuristic]
      using reported
  refine ⟨_, decode_fatal, by simp [e.calm retry, awake], fun _ => ?_⟩
  rw [archived_failure row now rfl rfl, filed_fatal]
  exact iff_of_true (by simp [classifyException, awake, retry, fatal, registered, heuristic])
    (by simp [Misfiled, Exception.isPlain, fatal, heuristic])

/-- What no family and no heuristic knows is archived by its text, which opens with the name of its class. -/
theorem filed_plain (registered : e.registered = false) (heuristic : e.fatalHeuristic = false)
    (transient : e.transientHeuristic = false) (reported : reportOf e = some payload) :
    Filed platform exitcode row now e payload := by
  have plain : e.isPlain = true := by
    simp [Exception.isPlain, exception, retry, fatal, registered, heuristic, transient]
  obtain rfl : report "error" e.named [("traceback", .str e.traceback)] = payload := by
    simpa [reportOf, handled, retry, fatal, exception, classifyException, awake, registered, heuristic, transient]
      using reported
  refine ⟨_, decode_error, by simp [e.calm retry, awake], fun _ => ?_⟩
  have unknown : (classifyException e).errorCategory = .str ErrorCategory.unknown.value := by
    simp [classifyException, awake, retry, fatal, registered, heuristic, transient]
  rw [archived_failure row now rfl rfl, filed_error, unknown, value_unknown_iff, classifyString_named]
  simp [Misfiled, plain, fatal]

/-- An exception of neither family is sorted by the worker as the classifier sorts it. -/
theorem filed_sorted (reported : reportOf e = some payload) : Filed platform exitcode row now e payload := by
  by_cases again : e.registered = true ∨ e.fatalHeuristic = false ∧ e.transientHeuristic = true
  · exact filed_transient awake retry fatal exception handled again reported
  · rw [not_or] at again
    have registered : e.registered = false := by simpa using again.1
    cases heuristic : e.fatalHeuristic with
    | true => exact filed_heuristic awake retry fatal exception handled registered heuristic reported
    | false =>
      have transient : e.transientHeuristic = false := by simpa [heuristic] using again.2
      exact filed_plain awake retry fatal exception handled registered heuristic transient reported

end Sorted

/-- What is no `Exception` belongs to no family. -/
theorem filed_exit (out : e.isException = false) (reported : reportOf e = some payload) :
    Filed platform exitcode row now e payload := by
  have none := e.declared out
  simp only [Bool.or_eq_false_iff] at none
  obtain ⟨⟨⟨⟨⟨artifact, retry⟩, fatal⟩, registered⟩, heuristic⟩, transient⟩ := none
  have calm := e.calm retry
  cases interrupt : e.keyboardInterrupt with
  | true =>
    obtain rfl : report "interrupted" _ [("traceback", .str e.traceback)] = payload := by
      simpa [reportOf, artifact, retry, fatal, out, interrupt] using reported
    exact ⟨_, decode_interrupted, by simp [interrupt], fun silent => by cases silent⟩
  | false =>
    cases exits : e.systemExit with
    | true =>
      obtain rfl : report "error" _ [("traceback", .str e.traceback)] = payload := by
        simpa [reportOf, artifact, retry, fatal, out, interrupt, exits] using reported
      refine ⟨_, decode_error, by simp [calm, interrupt], fun _ => ?_⟩
      rw [archived_failure row now rfl rfl, filed_error, classifyString_interrupted]
      exact iff_of_true (by simp [classifyException, interrupt, retry, fatal, registered, heuristic, transient])
        (by simp [Misfiled, Exception.isPlain, fatal, out])
    | false => simp [reportOf, artifact, retry, fatal, out, interrupt, exits] at reported

theorem filed_exception (handled : e.artifactError = false) (reported : reportOf e = some payload) :
    Filed platform exitcode row now e payload := by
  cases exception : e.isException with
  | false => exact filed_exit exception reported
  | true =>
    have awake := (e.apart exception).1
    cases retry : e.retryError with
    | true =>
      obtain rfl : report "retry" e.text _ = payload := by simpa [reportOf, handled, retry] using reported
      exact filed_retry_error awake retry
    | false =>
      cases fatal : e.fatalError with
      | true =>
        obtain rfl : report "fatal" e.text _ = payload := by simpa [reportOf, handled, retry, fatal] using reported
        exact filed_fatal_error awake retry fatal
      | false => exact filed_sorted awake retry fatal exception handled reported

theorem filed_timeout (seconds : String) : filed (Dict.ofPairs
    [("error_message", .str (errTimeoutPrefix ++ seconds))]) = .fatal := by
  refine (filed_by_text rfl rfl rfl rfl).trans ?_
  simp only [classifyString, startsWith, String.toList_append]
  rfl

/-- A dead process is archived under the category that its death was put down to. -/
theorem filed_death (platform : Platform) (exitcode : Option Int) (timedOut transient : Bool) (seconds : Number)
    (row : Record) (now : Text) :
    Record.get (normalizeFailureMetadata filed now
        (givenUp row (classifyProcessDeath platform exitcode timedOut seconds transient).result)) "error_category" =
      .str (classifyProcessDeath platform exitcode timedOut seconds transient).errorCategory.value := by
  unfold classifyProcessDeath
  cases timedOut with
  | true =>
    cases transient with
    | true => exact archived_retry now rfl
    | false =>
      have text := filed_timeout (format seconds.toJson ++ "s)")
      rw [← String.append_assoc] at text
      refine (archived_failure row now rfl rfl).trans ?_
      exact congrArg (fun category : ErrorCategory => Json.str category.value) text
  | false =>
    match exitcode with
    | none => exact archived_retry now rfl
    | some (.ofNat 0) => exact archived_retry now rfl
    | some (.ofNat (_ + 1)) => exact archived_retry now rfl
    | some (.negSucc _) => exact archived_retry now rfl

end Ends

end Tasklite.Engine.Attribution
