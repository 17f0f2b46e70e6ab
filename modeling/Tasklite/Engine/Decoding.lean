import Mathlib.Data.List.Infix
import Tasklite.Engine.ErrorClass
import Tasklite.Engine.Transport

/-! Reading the result that a worker has sent. A payload of any shape is taken for a
failure or a retry when it is not a sound success; what a text cannot be made of, and an
integer that no float holds, makes the reader raise. -/

namespace Tasklite.Engine.Decoding
open Tasklite.Library Tasklite.Models Tasklite.Engine.Transport

/-- What a parser answers: a value, a text that refuses it, or an exception that nothing catches. -/
inductive Parse (α : Type) where
  | valid (value : α)
  | refused (text : String)
  | raised (text : String)

section Lists

variable {α β : Type} {step : α → Parse β}

/-- Parse item by item, up to the first that is not valid. -/
def parseAll (step : α → Parse β) : List α → Parse (List β)
  | [] => .valid []
  | item :: rest =>
      match step item with
      | .raised text => .raised text
      | .refused text => .refused text
      | .valid value =>
          match parseAll step rest with
          | .raised text => .raised text
          | .refused text => .refused text
          | .valid values => .valid (value :: values)

def Accepts (step : α → Parse β) (item : α) : Prop := ∃ value, step item = .valid value

def Raises (step : α → Parse β) (item : α) : Prop := ∃ text, step item = .raised text

theorem neither_of_refused {item : α} {text : String} (refused : step item = .refused text) :
    ¬ Accepts step item ∧ ¬ Raises step item := by
  simp [Accepts, Raises, refused]

theorem calm_of_valid {item : α} {value : β} (valid : step item = .valid value) :
    Accepts step item ∧ ¬ Raises step item := by
  simp [Accepts, Raises, valid]

theorem accepts_parseAll_iff {items : List α} :
    Accepts (parseAll step) items ↔ ∀ item ∈ items, Accepts step item := by
  induction items with
  | nil => exact iff_of_true ⟨[], rfl⟩ (by simp)
  | cons item rest ih =>
    rw [List.forall_mem_cons, ← ih]
    unfold Accepts
    rw [parseAll]
    cases step item with
    | raised text => simp
    | refused text => simp
    | valid value =>
      cases parseAll step rest <;> simp

/-- The first item that is not good is bad. -/
def FirstBad (good bad : α → Prop) (items : List α) : Prop :=
  ∃ before item after, items = before ++ item :: after ∧ (∀ earlier ∈ before, good earlier) ∧ bad item

theorem firstBad_congr {good other bad worse : α → Prop} (alike : ∀ item, good item ↔ other item)
    (same : ∀ item, bad item ↔ worse item) {items : List α} : FirstBad good bad items ↔ FirstBad other worse items := by
  have goods : good = other := funext fun item => propext (alike item)
  have bads : bad = worse := funext fun item => propext (same item)
  rw [goods, bads]

theorem raises_parseAll_iff {items : List α} :
    Raises (parseAll step) items ↔ FirstBad (Accepts step) (Raises step) items := by
  induction items with
  | nil =>
    refine iff_of_false ?_ ?_
    · rintro ⟨text, raised⟩
      cases raised
    · rintro ⟨before, item, after, split, _⟩
      exact absurd split.symm (by simp)
  | cons item rest ih =>
    have parts : FirstBad (Accepts step) (Raises step) (item :: rest) ↔
        Raises step item ∨ Accepts step item ∧ FirstBad (Accepts step) (Raises step) rest := by
      constructor
      · rintro ⟨before, broken, after, split, accepted, raised⟩
        cases before with
        | nil =>
          obtain ⟨rfl, rfl⟩ := List.cons.inj split
          exact Or.inl raised
        | cons first before =>
          obtain ⟨rfl, rfl⟩ := List.cons.inj split
          exact Or.inr ⟨accepted _ List.mem_cons_self, before, broken, after, rfl,
            fun earlier member => accepted earlier (List.mem_cons_of_mem _ member), raised⟩
      · rintro (raised | ⟨accepted, before, broken, after, rfl, earlier, raised⟩)
        · exact ⟨[], item, rest, rfl, by simp, raised⟩
        · exact ⟨item :: before, broken, after, rfl, List.forall_mem_cons.mpr ⟨accepted, earlier⟩, raised⟩
    rw [parts, ← ih]
    unfold Raises Accepts
    rw [parseAll]
    cases step item with
    | raised text => simp
    | refused text => simp
    | valid value => cases parseAll step rest <;> simp

end Lists

section Texts

variable [Python] [IntDigits]

mutual

/-- No integer of a value has more digits than the interpreter prints. -/
def printable : Json → Bool
  | .int n => !tooLong n
  | .arr items => printableItems items
  | .obj fields => printableFields fields
  | _ => true

def printableItems : List Json → Bool
  | [] => true
  | item :: rest => printable item && printableItems rest

def printableFields : List (String × Json) → Bool
  | [] => true
  | (_, value) :: rest => printable value && printableFields rest

end

/-- A value in the text of an f-string, by `str` or by `repr`. -/
def spelled (print : Json → String) (value : Json) : Except String String :=
  if printable value then .ok (print value) else .error tooLongText

/-- Refuse a value with a text that quotes it. -/
def refuse {α : Type} (start : String) (value : Json) : Parse α :=
  match spelled Python.repr value with
  | .ok text => .refused (start ++ text)
  | .error text => .raised text

end Texts

section Parsers

variable [Python] [IntDigits]

/-- `str` of an exception. -/
def errorText : PyError → String
  | .keyError key => Python.repr (.str key)
  | .typeError message | .valueError message => message

/-- The text that `from_dict` makes of the last retry error. -/
def runtimePrints (data : Record) : Bool :=
  match Record.get data "runtime" with
  | .obj fields => printable (Record.get (Dict.ofPairs fields) JobRuntimeState.rtLastRetryError)
  | _ => true

def legacyFieldText (rerun timeout : Prop) [Decidable rerun] [Decidable timeout] (otherwise : String) : String :=
  if rerun then "Job 快照不接受旧字段 rerun；请使用 trigger"
  else if timeout then "Job 快照不接受旧字段 timeout；请使用 timeout_seconds"
  else otherwise

/-- `Job.from_dict` on a value of any class. A text and a list are searched for the old fields before
the first subscript fails. -/
def jobFromDict : Json → Except String Job
  | .obj fields =>
      match Job.fromDict (Dict.ofPairs fields) with
      | .error refusal => .error (errorText refusal)
      | .ok job => if runtimePrints (Dict.ofPairs fields) then .ok job else .error tooLongText
  | .str text => .error (legacyFieldText ("rerun".toList <:+: text.toList) ("timeout".toList <:+: text.toList)
      "string indices must be integers, not 'str'")
  | .arr items => .error (legacyFieldText (Json.str "rerun" ∈ items) (Json.str "timeout" ∈ items)
      "list indices must be integers or slices, not str")
  | value => .error ("argument of type '" ++ value.typeName ++ "' is not iterable")

/-- Every error of the constructor is caught. -/
def parseSpawnedJob (snapshot : Json) : Parse Job :=
  match jobFromDict snapshot with
  | .ok job => .valid job
  | .error text => .refused ("invalid spawned job dict: " ++ text)

def parseSpawnedJobs : Json → Parse (List Job)
  | .arr snapshots => parseAll parseSpawnedJob snapshots
  | value => .refused ("invalid spawned_jobs type: " ++ value.typeName)

def parseCursorUpdate : String × Json → Parse (String × Option String)
  | (key, .null) => .valid (key, none)
  | (key, .str text) => .valid (key, some text)
  | (key, value) => refuse ("invalid cursor_updates value: " ++ Python.repr (.str key) ++ "=") value

def parseCursorUpdates : Json → Parse (List (String × Option String))
  | .obj fields => parseAll parseCursorUpdate (Dict.ofPairs fields).entries
  | value => .refused ("invalid cursor_updates type: " ++ value.typeName)

/-- The double nearest to an integer, the even one of two. -/
def nearestFloat (n : Int) : ℚ :=
  let unit := 2 ^ (Nat.log2 n.natAbs - 52)
  let low := n.natAbs / unit
  let rest := n.natAbs % unit
  let rounded := if unit < 2 * rest ∨ (2 * rest = unit ∧ low % 2 = 1) then low + 1 else low
  n.sign * rounded * unit

/-- `float` of a number. -/
def toFloat : Number → ℚ
  | .int n => nearestFloat n
  | .float q => q

def parseResourceSuspension : Json → Parse (String × ℚ)
  | .arr [.str name, amount] =>
      match Number.ofJson amount with
      | none => refuse "invalid resource_suspension entry: " (.arr [.str name, amount])
      | some number =>
          if number.isFinite then .valid (name, toFloat number)
          -- the conversion is outside every `try`
          else .raised "int too large to convert to float"
  | item => refuse "invalid resource_suspension entry: " item

def parseResourceSuspensions : Json → Parse (List (String × ℚ))
  | .arr items => parseAll parseResourceSuspension items
  | value => .refused ("invalid resource_suspensions type: " ++ value.typeName)

end Parsers

section Shapes

variable [Python] [IntDigits]

theorem accepts_refuse {α : Type} (start : String) (value : Json) :
    ¬ ∃ accepted : α, refuse start value = .valid accepted := by
  rintro ⟨accepted, same⟩
  unfold refuse at same
  split at same <;> cases same

theorem raises_refuse {α : Type} (start : String) (value : Json) :
    (∃ text, (refuse start value : Parse α) = .raised text) ↔ printable value = false := by
  unfold refuse spelled
  cases printable value <;> simp

theorem accepts_parseSpawnedJob {snapshot : Json} :
    Accepts parseSpawnedJob snapshot ↔ ∃ job, jobFromDict snapshot = .ok job := by
  unfold Accepts parseSpawnedJob
  cases jobFromDict snapshot <;> simp

theorem raises_parseSpawnedJob {snapshot : Json} : ¬ Raises parseSpawnedJob snapshot := by
  unfold Raises parseSpawnedJob
  cases jobFromDict snapshot <;> simp

/-- The value of a cursor update. -/
def CursorValue (value : Json) : Prop := value = .null ∨ ∃ text, value = .str text

theorem accepts_parseCursorUpdate {entry : String × Json} :
    Accepts parseCursorUpdate entry ↔ CursorValue entry.2 := by
  obtain ⟨key, value⟩ := entry
  unfold Accepts CursorValue
  cases value <;> simp [parseCursorUpdate, accepts_refuse]

theorem raises_parseCursorUpdate {entry : String × Json} :
    Raises parseCursorUpdate entry ↔ ¬ CursorValue entry.2 ∧ printable entry.2 = false := by
  obtain ⟨key, value⟩ := entry
  unfold Raises CursorValue
  cases value <;> simp [parseCursorUpdate, raises_refuse]

/-- A name and a number that a float holds. -/
def Suspension (item : Json) : Prop :=
  ∃ name amount number, item = .arr [.str name, amount] ∧ Number.ofJson amount = some number ∧
    number.isFinite = true

/-- A name and an integer beyond the range of floats. -/
def Overflows (item : Json) : Prop :=
  ∃ name n, item = .arr [.str name, .int n] ∧ (Number.int n).isFinite = false

/-- What the parser does with an entry that is a text and a value, and with every other one. -/
theorem parseResourceSuspension_cases (item : Json) :
    (∃ name amount number, item = .arr [.str name, amount] ∧ Number.ofJson amount = some number ∧
      parseResourceSuspension item =
        if number.isFinite then .valid (name, toFloat number) else .raised "int too large to convert to float") ∨
    (¬ ∃ name amount number, item = .arr [.str name, amount] ∧ Number.ofJson amount = some number) ∧
      parseResourceSuspension item = refuse "invalid resource_suspension entry: " item := by
  unfold parseResourceSuspension
  split
  · rename_i name amount
    split
    · rename_i none
      refine Or.inr ⟨?_, rfl⟩
      rintro ⟨_, _, number, same, read⟩
      simp only [Json.arr.injEq, List.cons.injEq, Json.str.injEq, and_true] at same
      rw [← same.2, none] at read
      cases read
    · rename_i number read
      exact Or.inl ⟨name, amount, number, rfl, read, rfl⟩
  · rename_i other
    refine Or.inr ⟨?_, rfl⟩
    rintro ⟨name, amount, _, same, _⟩
    exact other name amount same

theorem accepts_parseResourceSuspension {item : Json} :
    Accepts parseResourceSuspension item ↔ Suspension item := by
  unfold Accepts
  rcases parseResourceSuspension_cases item with ⟨name, amount, number, rfl, read, parsed⟩ | ⟨other, parsed⟩
  · have shape : Suspension (.arr [.str name, amount]) ↔ number.isFinite = true := by
      constructor
      · rintro ⟨_, _, held, same, reread, finite⟩
        simp only [Json.arr.injEq, List.cons.injEq, Json.str.injEq, and_true] at same
        rw [← same.2, read, Option.some_inj] at reread
        rwa [reread]
      · exact fun finite => ⟨name, amount, number, rfl, read, finite⟩
    rw [parsed, shape]
    cases number.isFinite <;> simp
  · rw [parsed]
    refine iff_of_false (accepts_refuse _ item) ?_
    rintro ⟨name, amount, number, same, read, _⟩
    exact other ⟨name, amount, number, same, read⟩

theorem raises_parseResourceSuspension {item : Json} :
    Raises parseResourceSuspension item ↔ Overflows item ∨ ¬ Suspension item ∧ printable item = false := by
  unfold Raises
  rcases parseResourceSuspension_cases item with ⟨name, amount, number, rfl, read, parsed⟩ | ⟨other, parsed⟩
  · rw [parsed]
    by_cases finite : number.isFinite = true
    · rw [if_pos finite]
      refine iff_of_false (by simp) ?_
      rintro (⟨_, n, same, beyond⟩ | ⟨unsound, _⟩)
      · simp only [Json.arr.injEq, List.cons.injEq, Json.str.injEq, and_true] at same
        rw [same.2, Number.ofJson, Option.some_inj] at read
        rw [read, finite] at beyond
        cases beyond
      · exact unsound ⟨name, amount, number, rfl, read, finite⟩
    · rw [if_neg finite]
      refine iff_of_true ⟨_, rfl⟩ (Or.inl ?_)
      cases amount with
      | int n =>
        rw [Number.ofJson, Option.some_inj] at read
        rw [← read] at finite
        exact ⟨name, n, rfl, Bool.eq_false_iff.mpr finite⟩
      | float q =>
        rw [Number.ofJson, Option.some_inj] at read
        rw [← read] at finite
        exact absurd rfl finite
      | _ => cases read
  · have unsound : ¬ Suspension item := by
      rintro ⟨name, amount, number, same, read, _⟩
      exact other ⟨name, amount, number, same, read⟩
    have within : ¬ Overflows item := by
      rintro ⟨name, n, same, _⟩
      exact other ⟨name, .int n, .int n, same, rfl⟩
    rw [parsed, raises_refuse]
    simp only [within, unsound, false_or, not_false_eq_true, true_and]

end Shapes

section Death

/-- The signals of the platform: their names by number, and the number of the kill signal if it has one. -/
structure Platform where
  signalName : ℕ → Option String
  sigkill : Option ℕ

def errTimeoutPrefix : String := "TIMEOUT ("

def errProcessCrashPrefix : String := "PROCESS_CRASH_EXITCODE_"

def errNoIpcResult : String := "NO_IPC_RESULT"

def errProcessSignalDeath : String := "PROCESS_SIGNAL_DEATH"

/-- A row of the table of process deaths. -/
structure DeathAttribution where
  retryRequested : Bool
  resultMetadata : Record
  retryError : Option String
  errorCategory : ErrorCategory

/-- Decide by the exit code and the timeout what a dead process is put down to. -/
def classifyProcessDeath [Python] (platform : Platform) (exitcode : Option Int) (timedOut : Bool)
    (timeoutSeconds : Number) (timeoutIsTransient : Bool) : DeathAttribution :=
  if timedOut then
    let text := errTimeoutPrefix ++ format timeoutSeconds.toJson ++ "s)"
    if timeoutIsTransient then ⟨true, Dict.empty, some text, .transientExhausted⟩
    else ⟨false, Dict.ofPairs [("error_message", .str text)], none, .fatal⟩
  else match exitcode with
    | some (.negSucc n) =>
        let name := (platform.signalName (n + 1)).getD ("SIGNO" ++ toString (n + 1))
        ⟨true, Dict.ofPairs
          [("error_message", .str (errProcessCrashPrefix ++ toString (Int.negSucc n))),
            ("signal", .str name),
            ("oom_hint", .bool (platform.sigkill = some (n + 1)))],
          some (errProcessSignalDeath ++ ": killed by " ++ name ++ " (" ++ toString (Int.negSucc n) ++ ")"),
          .transientExhausted⟩
    | some (.ofNat (n + 1)) =>
        ⟨true, Dict.ofPairs [("error_message", .str (errProcessCrashPrefix ++ toString (n + 1)))],
          some ("PROCESS_CRASH_EXIT: worker exited with code " ++ toString (n + 1)), .transientExhausted⟩
    | _ =>
        ⟨true, Dict.ofPairs [("error_message", .str errNoIpcResult)],
          some (errNoIpcResult ++ ": worker exited without writing a result file"), .transientExhausted⟩

/-- The result of a process whose payload says nothing. -/
def DeathAttribution.result (attribution : DeathAttribution) : ExecutionResult where
  resultMetadata := attribution.resultMetadata
  retryRequested := attribution.retryRequested
  retryError := attribution.retryError.map .str

end Death

section Decode

variable [Python] [IntDigits]

/-- A failure with its message. -/
def failed (text : String) : ExecutionResult where
  resultMetadata := Dict.ofPairs [("error_message", .str text)]

/-- A field of the payload, or its default. -/
def fieldOr (data : Record) (key : String) (otherwise : Json) : Json := (data.get? key).getD otherwise

/-- Flag and metadata of the raw result. -/
def rawOutcome (raw : Json) : Bool × Record :=
  let (success, metadata) := normalizeHandlerResult (decodeRawResult raw)
  (success, Dict.ofPairs (reloadedFields metadata))

def decodeSuccessBranch (data : Record) : Except String ExecutionResult :=
  match data.get? "raw_result" with
  | none => .ok (failed "CORRUPT_RESULT_FILE: missing raw_result")
  | some raw =>
      match parseSpawnedJobs (fieldOr data "spawned_jobs" (.arr [])) with
      | .raised text => .error text
      | .refused text => .ok (failed text)
      | .valid spawnedJobs =>
          if (rawOutcome raw).1 = false then .ok { resultMetadata := (rawOutcome raw).2 }
          else match parseCursorUpdates (fieldOr data "cursor_updates" (.obj [])) with
            | .raised text => .error text
            | .refused text => .ok (failed text)
            | .valid cursorUpdates =>
                match parseResourceSuspensions (fieldOr data "resource_suspensions" (.arr [])) with
                | .raised text => .error text
                | .refused text => .ok (failed text)
                | .valid resourceSuspensions => .ok {
                    success := true
                    resultMetadata := (rawOutcome raw).2
                    spawnedJobs, cursorUpdates, resourceSuspensions }

/-- The fields of older workers, in the order of the alphabet. -/
def legacyKeys (data : Record) : List String := ["error", "new_jobs"].filter fun key => data.contains key

/-- The message of a retry; an absent and a null one read alike. -/
def retryMessage (data : Record) : Option Json :=
  match Record.get data "error_message" with
  | .null => none
  | message => some message

/-- The log line of a worker's failure prints the traceback. -/
def logTraceback (data : Record) : Except String String := spelled format (fieldOr data "traceback" (.str ""))

/-- Message and traceback of a worker's failure. -/
def workerFailure (data : Record) (otherwise : String) : List (String × Json) :=
  [("error_message", fieldOr data "error_message" (.str otherwise)), ("traceback", Record.get data "traceback")]

def decodeStatus (platform : Platform) (exitcode : Option Int) (data : Record) : Except String ExecutionResult :=
  match Record.get data "status" with
  | .null => .ok (classifyProcessDeath platform exitcode false (.float 0) false).result
  | .str "success" => decodeSuccessBranch data
  | .str "retry" => .ok {
      retryRequested := true
      retryError := retryMessage data
      transientKind := match Record.get data "transient_kind" with
        | .str kind => some kind
        | _ => none }
  | .str "interrupted" => .ok {
      retryRequested := true, retryError := retryMessage data, transientKind := some "interrupted" }
  | .str "artifact_error" =>
      let message := Record.get data "error_message"
      (spelled format (if message.truthy then message else .str "Artifact declaration I/O failed")).map
        fun text => { artifactError := some text }
  | .str "fatal" =>
      (logTraceback data).map fun _ => {
        resultMetadata := Dict.ofPairs (workerFailure data "FATAL (no message)" ++ [("is_fatal", .bool true)]) }
  | status =>
      -- the default text is made whether it is used or not
      (spelled Python.repr status).bind fun text => (logTraceback data).map fun _ => {
        resultMetadata := Dict.ofPairs (workerFailure data ("unknown status " ++ text)) }

/-- The result of a payload, or the exception that gets through. -/
def decodeIpcResult (platform : Platform) (exitcode : Option Int) : Json → Except String ExecutionResult
  | .obj fields =>
      let data := Dict.ofPairs fields
      if legacyKeys data = [] then decodeStatus platform exitcode data
      else .ok (failed ("CORRUPT_RESULT_FILE: unsupported fields " ++
        format (.arr ((legacyKeys data).map .str))))
  | _ => .ok (classifyProcessDeath platform exitcode false (.float 0) false).result

end Decode

section Fields

variable [Python] [IntDigits] {data : Record}

/-- The raw result is there and stands for a success. -/
def SoundRaw (data : Record) : Prop := ∃ raw, data.get? "raw_result" = some raw ∧ (rawOutcome raw).1 = true

/-- The spawned jobs are snapshots that the constructor accepts. -/
def SoundSpawned (data : Record) : Prop :=
  ∃ snapshots, fieldOr data "spawned_jobs" (.arr []) = .arr snapshots ∧
    ∀ snapshot ∈ snapshots, ∃ job, jobFromDict snapshot = .ok job

def SoundCursors (data : Record) : Prop :=
  ∃ fields, fieldOr data "cursor_updates" (.obj []) = .obj fields ∧
    ∀ entry ∈ (Dict.ofPairs fields).entries, CursorValue entry.2

def SoundSuspensions (data : Record) : Prop :=
  ∃ items, fieldOr data "resource_suspensions" (.arr []) = .arr items ∧ ∀ item ∈ items, Suspension item

/-- The first improper cursor value cannot be quoted. -/
def CursorsRaise (data : Record) : Prop :=
  ∃ fields, fieldOr data "cursor_updates" (.obj []) = .obj fields ∧
    FirstBad (fun entry => CursorValue entry.2) (fun entry => ¬ CursorValue entry.2 ∧ printable entry.2 = false)
      (Dict.ofPairs fields).entries

/-- The first improper suspension names an integer beyond the range of floats, or cannot be quoted. -/
def SuspensionsRaise (data : Record) : Prop :=
  ∃ items, fieldOr data "resource_suspensions" (.arr []) = .arr items ∧
    FirstBad Suspension (fun item => Overflows item ∨ ¬ Suspension item ∧ printable item = false) items

theorem accepts_parseSpawnedJobs :
    Accepts parseSpawnedJobs (fieldOr data "spawned_jobs" (.arr [])) ↔ SoundSpawned data := by
  unfold SoundSpawned
  cases fieldOr data "spawned_jobs" (.arr []) with
  | arr snapshots =>
    have parsed := @accepts_parseAll_iff _ _ parseSpawnedJob snapshots
    simp only [accepts_parseSpawnedJob] at parsed
    simpa [parseSpawnedJobs, Accepts] using parsed
  | _ => simp [parseSpawnedJobs, Accepts]

theorem raises_parseSpawnedJobs {value : Json} : ¬ Raises parseSpawnedJobs value := by
  cases value with
  | arr snapshots =>
    intro raises
    obtain ⟨_, snapshot, _, _, _, raised⟩ := raises_parseAll_iff.mp raises
    exact raises_parseSpawnedJob raised
  | _ => simp [parseSpawnedJobs, Raises]

theorem accepts_parseCursorUpdates :
    Accepts parseCursorUpdates (fieldOr data "cursor_updates" (.obj [])) ↔ SoundCursors data := by
  unfold SoundCursors
  cases fieldOr data "cursor_updates" (.obj []) with
  | obj fields =>
    have parsed := @accepts_parseAll_iff _ _ parseCursorUpdate (Dict.ofPairs fields).entries
    simp only [accepts_parseCursorUpdate] at parsed
    simpa [parseCursorUpdates, Accepts] using parsed
  | _ => simp [parseCursorUpdates, Accepts]

theorem raises_parseCursorUpdates :
    Raises parseCursorUpdates (fieldOr data "cursor_updates" (.obj [])) ↔ CursorsRaise data := by
  unfold CursorsRaise
  cases fieldOr data "cursor_updates" (.obj []) with
  | obj fields =>
    have parsed := @raises_parseAll_iff _ _ parseCursorUpdate (Dict.ofPairs fields).entries
    rw [firstBad_congr (fun _ => accepts_parseCursorUpdate) (fun _ => raises_parseCursorUpdate)] at parsed
    simpa [parseCursorUpdates, Raises] using parsed
  | _ => simp [parseCursorUpdates, Raises]

theorem accepts_parseResourceSuspensions :
    Accepts parseResourceSuspensions (fieldOr data "resource_suspensions" (.arr [])) ↔ SoundSuspensions data := by
  unfold SoundSuspensions
  cases fieldOr data "resource_suspensions" (.arr []) with
  | arr items =>
    have parsed := @accepts_parseAll_iff _ _ parseResourceSuspension items
    simp only [accepts_parseResourceSuspension] at parsed
    simpa [parseResourceSuspensions, Accepts] using parsed
  | _ => simp [parseResourceSuspensions, Accepts]

theorem raises_parseResourceSuspensions :
    Raises parseResourceSuspensions (fieldOr data "resource_suspensions" (.arr [])) ↔ SuspensionsRaise data := by
  unfold SuspensionsRaise
  cases fieldOr data "resource_suspensions" (.arr []) with
  | arr items =>
    have parsed := @raises_parseAll_iff _ _ parseResourceSuspension items
    rw [firstBad_congr (fun _ => accepts_parseResourceSuspension) (fun _ => raises_parseResourceSuspension)] at parsed
    simpa [parseResourceSuspensions, Raises] using parsed
  | _ => simp [parseResourceSuspensions, Raises]

end Fields

section Decoded

variable [Python] [IntDigits] {data : Record}

/-- What failures carry: nothing that has an effect. -/
def Effectless (result : ExecutionResult) : Prop :=
  result.spawnedJobs = [] ∧ result.cursorUpdates = [] ∧ result.resourceSuspensions = []

/-- A payload whose success is sound in all of its fields. -/
def SoundFields (data : Record) : Prop :=
  SoundRaw data ∧ SoundSpawned data ∧ SoundCursors data ∧ SoundSuspensions data

/-- A success whose fields make the reader raise. -/
def SuccessRaises (data : Record) : Prop :=
  SoundRaw data ∧ SoundSpawned data ∧ (CursorsRaise data ∨ SoundCursors data ∧ SuspensionsRaise data)

/-- The success branch answers with a sound success or a failure without effects, or it raises, and it
raises only on what `SuccessRaises` names. -/
theorem decodeSuccessBranch_spec (data : Record) :
    (∃ result, decodeSuccessBranch data = .ok result ∧ ¬ SuccessRaises data ∧
      (result.success = true → SoundFields data) ∧ (result.success = false → Effectless result)) ∨
    (∃ text, decodeSuccessBranch data = .error text) ∧ SuccessRaises data := by
  unfold decodeSuccessBranch
  cases raw_eq : data.get? "raw_result" with
  | none =>
    refine Or.inl ⟨_, rfl, ?_, by simp [failed], fun _ => ⟨rfl, rfl, rfl⟩⟩
    rintro ⟨⟨raw, present, _⟩, _⟩
    rw [raw_eq] at present
    cases present
  | some raw =>
    simp only
    cases spawned_eq : parseSpawnedJobs (fieldOr data "spawned_jobs" (.arr [])) with
    | raised text => exact absurd ⟨text, spawned_eq⟩ raises_parseSpawnedJobs
    | refused text =>
      have refusal := neither_of_refused spawned_eq
      rw [accepts_parseSpawnedJobs] at refusal
      exact Or.inl ⟨_, rfl, fun raises => refusal.1 raises.2.1, by simp [failed], fun _ => ⟨rfl, rfl, rfl⟩⟩
    | valid jobs =>
      have spawned : SoundSpawned data := accepts_parseSpawnedJobs.mp ⟨jobs, spawned_eq⟩
      simp only
      by_cases failure : (rawOutcome raw).1 = false
      · rw [if_pos failure]
        refine Or.inl ⟨_, rfl, ?_, by simp, fun _ => ⟨rfl, rfl, rfl⟩⟩
        rintro ⟨⟨other, present, success⟩, _⟩
        rw [raw_eq, Option.some_inj] at present
        rw [← present, failure] at success
        cases success
      · have sound : SoundRaw data := ⟨raw, raw_eq, Bool.not_eq_false _ ▸ failure⟩
        rw [if_neg failure]
        cases cursors_eq : parseCursorUpdates (fieldOr data "cursor_updates" (.obj [])) with
        | raised text =>
          exact Or.inr ⟨⟨text, rfl⟩, sound, spawned, Or.inl (raises_parseCursorUpdates.mp ⟨text, cursors_eq⟩)⟩
        | refused text =>
          have refusal := neither_of_refused cursors_eq
          rw [accepts_parseCursorUpdates, raises_parseCursorUpdates] at refusal
          refine Or.inl ⟨_, rfl, ?_, by simp [failed], fun _ => ⟨rfl, rfl, rfl⟩⟩
          exact fun raises => raises.2.2.elim refusal.2 fun later => refusal.1 later.1
        | valid updates =>
          have cursors := calm_of_valid cursors_eq
          rw [accepts_parseCursorUpdates, raises_parseCursorUpdates] at cursors
          simp only
          cases suspensions_eq : parseResourceSuspensions (fieldOr data "resource_suspensions" (.arr [])) with
          | raised text =>
            exact Or.inr ⟨⟨text, rfl⟩, sound, spawned,
              Or.inr ⟨cursors.1, raises_parseResourceSuspensions.mp ⟨text, suspensions_eq⟩⟩⟩
          | refused text =>
            have refusal := neither_of_refused suspensions_eq
            rw [raises_parseResourceSuspensions] at refusal
            refine Or.inl ⟨_, rfl, ?_, by simp [failed], fun _ => ⟨rfl, rfl, rfl⟩⟩
            exact fun raises => raises.2.2.elim cursors.2 fun later => refusal.2 later.2
          | valid entries =>
            have suspensions := calm_of_valid suspensions_eq
            rw [accepts_parseResourceSuspensions, raises_parseResourceSuspensions] at suspensions
            refine Or.inl ⟨_, rfl, ?_, fun _ => ⟨sound, spawned, cursors.1, suspensions.1⟩, by simp⟩
            exact fun raises => raises.2.2.elim cursors.2 fun later => suspensions.2 later.2

/-- The values of the status field that have a branch of their own. -/
def knownStatuses : List Json :=
  [.null, .str "success", .str "retry", .str "interrupted", .str "artifact_error", .str "fatal"]

/-- The payloads without old fields on which the reader raises. -/
inductive StatusRaises (data : Record) : Prop where
  | success (status : Record.get data "status" = .str "success") (raises : SuccessRaises data)
  | artifactError (status : Record.get data "status" = .str "artifact_error")
      (long : printable (Record.get data "error_message") = false)
  | fatal (status : Record.get data "status" = .str "fatal")
      (long : printable (fieldOr data "traceback" (.str "")) = false)
  | unknown (status : Record.get data "status" ∉ knownStatuses)
      (long : printable (Record.get data "status") = false ∨
        printable (fieldOr data "traceback" (.str "")) = false)

def Escapes (res : Json) : Prop :=
  ∃ fields, res = .obj fields ∧ legacyKeys (Dict.ofPairs fields) = [] ∧ StatusRaises (Dict.ofPairs fields)

/-- A payload that is a sound success. -/
def Sound (res : Json) : Prop :=
  ∃ fields, res = .obj fields ∧ legacyKeys (Dict.ofPairs fields) = [] ∧
    Record.get (Dict.ofPairs fields) "status" = .str "success" ∧ SoundFields (Dict.ofPairs fields)

omit [Python] in
theorem spelled_spec (print : Json → String) (value : Json) :
    (∃ text, spelled print value = .ok text) ∧ printable value = true ∨
    (∃ text, spelled print value = .error text) ∧ printable value = false := by
  unfold spelled
  cases printable value <;> simp

omit [Python] in
/-- The message of an artifact error, or the text that stands for none. -/
theorem printable_message (message : Json) (otherwise : String) :
    printable (if message.truthy then message else .str otherwise) = printable message := by
  by_cases some : message.truthy = true
  · rw [if_pos some]
  · rw [if_neg some]
    have zero : tooLong 0 = false := by simp [tooLong]
    cases message with
    | int n =>
      have none : n = 0 := by
        by_contra other
        apply some
        unfold Json.truthy
        split <;> simp_all
      have short : printable (.int 0) = true := by rw [printable, zero]; rfl
      rw [none]
      exact short.symm
    | arr items => cases items <;> simp_all [Json.truthy, printable, printableItems]
    | obj fields => cases fields <;> simp_all [Json.truthy, printable, printableFields]
    | _ => rfl

/-- Statuses whose branch prints and parses nothing. -/
theorem quiet {status : Json} (reads : Record.get data "status" = status)
    (silent : status = .null ∨ status = .str "retry" ∨ status = .str "interrupted") : ¬ StatusRaises data := by
  rintro (⟨other, _⟩ | ⟨other, _⟩ | ⟨other, _⟩ | ⟨other, _⟩)
  · rcases silent with rfl | rfl | rfl <;> simp [reads] at other
  · rcases silent with rfl | rfl | rfl <;> simp [reads] at other
  · rcases silent with rfl | rfl | rfl <;> simp [reads] at other
  · rcases silent with rfl | rfl | rfl <;> simp [reads, knownStatuses] at other

theorem statusRaises_success (reads : Record.get data "status" = .str "success") :
    StatusRaises data ↔ SuccessRaises data := by
  constructor
  · rintro (⟨_, raises⟩ | ⟨other, _⟩ | ⟨other, _⟩ | ⟨other, _⟩)
    · exact raises
    · simp [reads] at other
    · simp [reads] at other
    · simp [reads, knownStatuses] at other
  · exact .success reads

theorem statusRaises_artifactError (reads : Record.get data "status" = .str "artifact_error") :
    StatusRaises data ↔ printable (Record.get data "error_message") = false := by
  constructor
  · rintro (⟨other, _⟩ | ⟨_, long⟩ | ⟨other, _⟩ | ⟨other, _⟩)
    · simp [reads] at other
    · exact long
    · simp [reads] at other
    · simp [reads, knownStatuses] at other
  · exact .artifactError reads

theorem statusRaises_fatal (reads : Record.get data "status" = .str "fatal") :
    StatusRaises data ↔ printable (fieldOr data "traceback" (.str "")) = false := by
  constructor
  · rintro (⟨other, _⟩ | ⟨other, _⟩ | ⟨_, long⟩ | ⟨other, _⟩)
    · simp [reads] at other
    · simp [reads] at other
    · exact long
    · simp [reads, knownStatuses] at other
  · exact .fatal reads

theorem statusRaises_unknown (unknown : Record.get data "status" ∉ knownStatuses) :
    StatusRaises data ↔ printable (Record.get data "status") = false ∨
      printable (fieldOr data "traceback" (.str "")) = false := by
  constructor
  · rintro (⟨other, _⟩ | ⟨other, _⟩ | ⟨other, _⟩ | ⟨_, long⟩)
    · simp [other, knownStatuses] at unknown
    · simp [other, knownStatuses] at unknown
    · simp [other, knownStatuses] at unknown
    · exact long
  · exact .unknown unknown

/-- One status: a result, which is a sound success or without effects, or an exception. -/
theorem decodeStatus_spec (platform : Platform) (exitcode : Option Int) (data : Record) :
    (∃ result, decodeStatus platform exitcode data = .ok result ∧ ¬ StatusRaises data ∧
      (result.success = true → Record.get data "status" = .str "success" ∧ SoundFields data) ∧
      (result.success = false → Effectless result)) ∨
    (∃ text, decodeStatus platform exitcode data = .error text) ∧ StatusRaises data := by
  unfold decodeStatus
  split
  · rename_i reads
    exact Or.inl ⟨_, rfl, quiet reads (Or.inl rfl), by simp [DeathAttribution.result], fun _ => ⟨rfl, rfl, rfl⟩⟩
  · rename_i reads
    rw [statusRaises_success reads]
    refine (decodeSuccessBranch_spec data).imp_left ?_
    rintro ⟨result, decoded, calm, sound, effectless⟩
    exact ⟨result, decoded, calm, fun success => ⟨reads, sound success⟩, effectless⟩
  · rename_i reads
    exact Or.inl ⟨_, rfl, quiet reads (Or.inr (Or.inl rfl)), by simp, fun _ => ⟨rfl, rfl, rfl⟩⟩
  · rename_i reads
    exact Or.inl ⟨_, rfl, quiet reads (Or.inr (Or.inr rfl)), by simp, fun _ => ⟨rfl, rfl, rfl⟩⟩
  · rename_i reads
    rw [statusRaises_artifactError reads, ← printable_message _ "Artifact declaration I/O failed"]
    rcases spelled_spec format (if (Record.get data "error_message").truthy then Record.get data "error_message"
      else .str "Artifact declaration I/O failed") with ⟨⟨text, made⟩, short⟩ | ⟨⟨text, made⟩, long⟩
    · simp only [made, Except.map]
      exact Or.inl ⟨_, rfl, by simp [short], by simp, fun _ => ⟨rfl, rfl, rfl⟩⟩
    · simp only [made, Except.map]
      exact Or.inr ⟨⟨text, rfl⟩, long⟩
  · rename_i reads
    rw [statusRaises_fatal reads]
    unfold logTraceback
    rcases spelled_spec format (fieldOr data "traceback" (.str "")) with ⟨⟨text, made⟩, short⟩ | ⟨⟨text, made⟩, long⟩
    · simp only [made, Except.map]
      exact Or.inl ⟨_, rfl, by simp [short], by simp, fun _ => ⟨rfl, rfl, rfl⟩⟩
    · simp only [made, Except.map]
      exact Or.inr ⟨⟨text, rfl⟩, long⟩
  · rename_i null success retry interrupted artifactError fatal
    have unknown : Record.get data "status" ∉ knownStatuses := by
      simp only [knownStatuses, List.mem_cons, List.not_mem_nil, or_false, not_or]
      exact ⟨null, success, retry, interrupted, artifactError, fatal⟩
    rw [statusRaises_unknown unknown]
    unfold logTraceback
    rcases spelled_spec Python.repr (Record.get data "status") with ⟨⟨status, told⟩, short⟩ | ⟨⟨status, told⟩, long⟩
    · simp only [told, Except.bind]
      rcases spelled_spec format (fieldOr data "traceback" (.str "")) with ⟨⟨text, made⟩, brief⟩ | ⟨⟨text, made⟩, long⟩
      · simp only [made, Except.map]
        exact Or.inl ⟨_, rfl, by simp [short, brief], by simp, fun _ => ⟨rfl, rfl, rfl⟩⟩
      · simp only [made, Except.map]
        exact Or.inr ⟨⟨text, rfl⟩, Or.inr long⟩
    · simp only [told, Except.bind]
      exact Or.inr ⟨⟨status, rfl⟩, Or.inl long⟩

/-- Decoding any payload returns a result, with a success only for a sound payload and without effects
otherwise, if and only if nothing in the payload makes the reader raise. -/
theorem decodeIpcResult_iff (platform : Platform) (exitcode : Option Int) (res : Json) :
    (∃ result, decodeIpcResult platform exitcode res = .ok result ∧ (result.success = true → Sound res) ∧
      (result.success = false → Effectless result)) ↔ ¬ Escapes res := by
  cases res with
  | obj fields =>
    by_cases current : legacyKeys (Dict.ofPairs fields) = []
    · have escapes : Escapes (.obj fields) ↔ StatusRaises (Dict.ofPairs fields) := by
        constructor
        · rintro ⟨others, same, _, raises⟩
          rwa [Json.obj.inj same]
        · exact fun raises => ⟨fields, rfl, current, raises⟩
      rw [escapes, decodeIpcResult, if_pos current]
      rcases decodeStatus_spec platform exitcode (Dict.ofPairs fields) with
        ⟨result, decoded, calm, sound, effectless⟩ | ⟨⟨text, decoded⟩, raises⟩
      · refine iff_of_true ⟨result, decoded, ?_, effectless⟩ calm
        exact fun success => ⟨fields, rfl, current, sound success⟩
      · refine iff_of_false ?_ (not_not.mpr raises)
        rintro ⟨result, other, _⟩
        rw [decoded] at other
        cases other
    · rw [decodeIpcResult, if_neg current]
      refine iff_of_true ⟨_, rfl, by simp [failed], fun _ => ⟨rfl, rfl, rfl⟩⟩ ?_
      rintro ⟨others, same, clean, _⟩
      rw [← Json.obj.inj same] at clean
      exact current clean
  | _ =>
    refine iff_of_true ⟨_, rfl, by simp [DeathAttribution.result], fun _ => ⟨rfl, rfl, rfl⟩⟩ ?_
    rintro ⟨fields, same, _⟩
    cases same

end Decoded

section Sample

local instance : Python := Python.sample

local instance : IntDigits := ⟨4300⟩

/-- A success that asks for a suspension of `10 ^ 400` seconds. -/
def hugeSuspension : Json := .obj [("status", .str "success"), ("raw_result", .null),
  ("resource_suspensions", .arr [.arr [.str "r", .int (Int.ofNat (Nat.pow 10 400))]])]

theorem huge_suspension_escapes :
    decodeIpcResult ⟨fun _ => none, none⟩ none hugeSuspension = .error "int too large to convert to float" := by
  decide +kernel

end Sample

end Tasklite.Engine.Decoding
