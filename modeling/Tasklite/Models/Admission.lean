import Mathlib.Algebra.BigOperators.Group.List.Basic
import Tasklite.Models.Identity
import Tasklite.Utils.FileNames
import Tasklite.Utils.Identifiers

/-! Whether an encoded identifier can be the id of a job. The encoders count characters once the text is
escaped; a job counts the bytes of a file name, in which every percent sign is escaped again. -/

namespace Tasklite.Models.Admission
open Tasklite.Library Tasklite.Utils Tasklite.Utils.Encoding Tasklite.Utils.Escapes Tasklite.Utils.FileNames
open Tasklite.Utils.Identifiers

section Jobs

variable [Python] {taskType jobId : String}

/-- What a constructor gets that is given the two halves of the uid. -/
def halves (taskType jobId : String) : Record :=
  Dict.ofPairs [("task_type", .str taskType), ("job_id", .str jobId)]

/-- The constructor takes the two halves. -/
def Accepted (taskType jobId : String) : Prop := ∃ job, Job.fromDict (halves taskType jobId) = .ok job

theorem validateComponent_str (field : String) (half : Component) :
    validateComponent field (.str half.val) = .ok half := by
  simp only [validateComponent, half.property.1, half.property.2, Bool.false_eq_true, dite_false]

omit [Python] in
theorem halves_get? (key : String) : (halves taskType jobId).get? key =
    if key = "job_id" then some (.str jobId) else if key = "task_type" then some (.str taskType) else none := by
  rw [halves, Dict.get?_ofPairs]
  simp only [List.reverse_cons, List.reverse_nil, List.nil_append, List.cons_append, List.find?_cons, List.find?_nil,
    eq_comm]
  split <;> split <;> simp_all

theorem accepted_iff : Accepted taskType jobId ↔ (taskType ≠ "" ∧ hasSeparator taskType.toList = false) ∧
    (jobId ≠ "" ∧ hasSeparator jobId.toList = false) ∧ uidFits taskType jobId := by
  constructor
  · rintro ⟨job, parsed⟩
    have read := Identity.fromDict_ok parsed
    simp only [Record.get, halves_get?] at read
    simp at read
    rw [read.1, read.2]
    exact ⟨job.taskType.property, job.jobId.property, job.fits⟩
  · rintro ⟨typed, named, fits⟩
    have typeOk := validateComponent_str "task_type" ⟨taskType, typed⟩
    have idOk := validateComponent_str "job_id" ⟨jobId, named⟩
    unfold Accepted Job.fromDict
    simp [Dict.contains, halves_get?, Record.get, validateTaskType, validateJobId, typeOk, idOk, bind, Except.bind,
      pure, Except.pure, validateUidIpcFilename, fits, normalizePayload, normalizeResources, optional,
      normalizeDependsOn, validateAttemptNo, validateActivationNo, validateInteger, validateFirstEnqueuedAt]

end Jobs

section Sizes

variable {keeps : Char → Bool} {text taskType : String}

/-- The bytes of a text in a file name. -/
def fileNameSize (text : String) : ℕ := (encodeJobUidFilename text).utf8ByteSize

/-- The bytes of one character there. -/
def fileNameWidth (c : Char) : ℕ := ((fsEscape c).map Char.utf8Size).sum

/-- The characters of a unit, and its bytes in a file name. -/
def cost (unit : List Char) : ℕ × ℕ := (unit.length, (unit.map fileNameWidth).sum)

/-- The costs of the units of a character: its own when it is kept, otherwise three characters and five bytes
for every byte that is escaped. -/
def unitCosts (keeps : Char → Bool) (c : Char) : List (ℕ × ℕ) :=
  if keeps c ∧ c ≠ '%' then [(1, fileNameWidth c)] else List.replicate c.utf8Size (3, 5)

def unitCostsOf (keeps : Char → Bool) (text : String) : List (ℕ × ℕ) := text.toList.flatMap (unitCosts keeps)

/-- The bytes of the units that fit into so many characters. -/
def spent : ℕ → List (ℕ × ℕ) → ℕ
  | _, [] => 0
  | room, (width, size) :: rest => if width ≤ room then size + spent (room - width) rest else 0

/-- What an identifier of at most 120 characters costs in a file name. One that is cut keeps what fits into
102 characters and pays 20 bytes for the marker and the digest. -/
def identifierCost (keeps : Char → Bool) (text : String) : ℕ :=
  if ((unitCostsOf keeps text).map Prod.fst).sum ≤ 120 then ((unitCostsOf keeps text).map Prod.snd).sum
  else spent 102 (unitCostsOf keeps text) + 20

theorem utf8ByteSize_ofList (letters : List Char) :
    (String.ofList letters).utf8ByteSize = (letters.map Char.utf8Size).sum := by
  rw [← String.size_toByteArray, String.toByteArray_ofList, List.utf8Encode, List.size_toByteArray,
    List.length_flatMap]
  simp only [String.length_utf8EncodeChar]

theorem fileNameSize_eq (text : String) : fileNameSize text = (text.toList.map fileNameWidth).sum := by
  rw [fileNameSize, encodeJobUidFilename_eq, utf8ByteSize_ofList, List.map_flatMap, List.flatMap_def, List.sum_flatten,
    List.map_map]
  rfl

theorem fileNameSize_append (left right : String) :
    fileNameSize (left ++ right) = fileNameSize left + fileNameSize right := by
  rw [fileNameSize_eq, fileNameSize_eq, fileNameSize_eq, String.toList_append, List.map_append, List.sum_append]

theorem fileNameWidth_hexDigit : ∀ digit < 16, fileNameWidth (hexDigit digit) = 1 := by decide

theorem cost_escapeByte (byte : UInt8) : cost (escapeByte byte) = (3, 5) := by
  have bound := byte.toNat_lt
  have percent : fileNameWidth '%' = 3 := by decide
  rw [cost, escapeByte]
  simp only [List.map_cons, List.map_nil, List.length_cons, List.length_nil, List.sum_cons, List.sum_nil, percent,
    fileNameWidth_hexDigit _ (show byte.toNat / 16 < 16 by omega),
    fileNameWidth_hexDigit _ (show byte.toNat % 16 < 16 by omega)]
  rfl

theorem map_cost_units (keeps : Char → Bool) (text : String) :
    (units keeps text).map cost = unitCostsOf keeps text := by
  rw [units, unitCostsOf, List.map_flatMap]
  apply List.flatMap_congr
  intro c _
  rw [escapeUnits, unitCosts]
  split
  · simp [cost]
  · rw [List.map_map, List.eq_replicate_iff]
    constructor
    · rw [List.length_map, String.length_utf8EncodeChar]
    · intro pair member
      obtain ⟨byte, -, rfl⟩ := List.mem_map.mp member
      exact cost_escapeByte byte

theorem length_flatten_units (pieces : List (List Char)) :
    pieces.flatten.length = ((pieces.map cost).map Prod.fst).sum := by
  rw [List.length_flatten, List.map_map]
  rfl

theorem size_flatten_units (pieces : List (List Char)) :
    (pieces.flatten.map fileNameWidth).sum = ((pieces.map cost).map Prod.snd).sum := by
  rw [List.map_flatten, List.sum_flatten, List.map_map, List.map_map]
  rfl

theorem size_takeUnits (room : ℕ) (pieces : List (List Char)) :
    ((takeUnits room pieces).flatten.map fileNameWidth).sum = spent room (pieces.map cost) := by
  induction pieces generalizing room with
  | nil => rfl
  | cons unit rest ih =>
    rw [takeUnits, List.map_cons, cost, spent]
    split
    · rw [List.flatten_cons, List.map_append, List.sum_append, ih]
    · rfl

variable [Sha256]

theorem size_truncDigest (text : String) : ((truncDigest text).map fileNameWidth).sum = 16 := by
  have digits : ∀ c ∈ "0123456789abcdef".toList, fileNameWidth c = 1 := by
    have widths : ("0123456789abcdef".toList.all fun c => fileNameWidth c == 1) = true := by decide
    exact fun c member => beq_iff_eq.mp (List.all_eq_true.mp widths c member)
  have ones : ∀ c ∈ truncDigest text, fileNameWidth c = 1 := fun c member =>
    digits c (Sha256.hex_hexdigest text c (List.mem_of_mem_take member))
  rw [List.map_congr_left ones, List.map_const', List.sum_replicate, length_truncDigest]
  rfl

omit [Sha256] in
theorem fits_iff : Fits keeps 120 text ↔ ((unitCostsOf keeps text).map Prod.fst).sum ≤ 120 := by
  rw [Fits, ← String.length_toList, toList_percentEncode, length_flatten_units, map_cost_units]
  norm_cast

/-- The file name of an identifier has the bytes that its text costs. -/
theorem identifier_size (given : text ≠ "") {fallback : String} :
    ∃ out, encodeIdentifier keeps 120 fallback text = some out ∧ fileNameSize out = identifierCost keeps text := by
  by_cases fits : Fits keeps 120 text
  · refine ⟨_, encodeIdentifier_of_fits given fits, ?_⟩
    rw [identifierCost, if_pos (fits_iff.mp fits), fileNameSize_eq, toList_percentEncode, size_flatten_units,
      map_cost_units]
  · have room : ¬ (120 : ℤ) - truncFixedLen < 0 := by decide
    have left : ((120 : ℤ) - truncFixedLen).toNat = 102 := by decide
    have marker : (truncMarker.toList.map fileNameWidth).sum = 4 := by decide
    have cut := @encodeIdentifier_of_not_fits _ keeps 120 fallback text given fits
    rw [if_neg room, left] at cut
    refine ⟨_, cut, ?_⟩
    rw [identifierCost, if_neg (fun short => fits (fits_iff.mpr short)), fileNameSize_eq, String.toList_ofList,
      List.map_append, List.map_append, List.sum_append, List.sum_append, size_takeUnits, map_cost_units, marker,
      size_truncDigest]

/-- An identifier is not empty, and holds no colon when none is kept. -/
theorem identifier_plain (noColon : keeps ':' = false) (given : text ≠ "") {fallback out : String}
    (encoded : encodeIdentifier keeps 120 fallback text = some out) :
    out ≠ "" ∧ ':' ∉ out.toList := by
  have hex : ':' ∉ hexDigits ∧ ':' ∉ "0123456789abcdef".toList := by decide
  have unitPlain : ∀ unit ∈ units keeps text, ':' ∉ unit := by
    intro unit member
    rcases kept_or_escape member with ⟨c, kept, -, rfl⟩ | ⟨high, highHex, low, lowHex, rfl⟩
    · rw [List.mem_singleton]
      rintro rfl
      rw [noColon] at kept
      cases kept
    · simp only [List.mem_cons, List.not_mem_nil, or_false, not_or]
      exact ⟨by decide, fun same => hex.1 (same ▸ highHex), fun same => hex.1 (same ▸ lowHex)⟩
  by_cases fits : Fits keeps 120 text
  · rw [encodeIdentifier_of_fits given fits, Option.some.injEq] at encoded
    subst encoded
    constructor
    · exact percentEncode_ne_empty given
    · rw [toList_percentEncode, List.mem_flatten]
      rintro ⟨unit, member, colon⟩
      exact unitPlain unit member colon
  · obtain ⟨-, shape⟩ := cut_shape given fits encoded
    constructor
    · rintro rfl
      have nothing : "".toList = [] := rfl
      rw [nothing] at shape
      simp at shape
    · rw [shape, List.mem_append, List.mem_cons, List.mem_cons, List.mem_flatten]
      rintro (⟨unit, member, colon⟩ | same | same | member)
      · exact unitPlain unit ((takeUnits_isPrefix _ _).subset member) colon
      · exact absurd same (by decide)
      · exact absurd same (by decide)
      · exact hex.2 (Sha256.hex_hexdigest text ':' (List.mem_of_mem_take member))

end Sizes

section Plain

variable {taskType jobId : String}

theorem hasSeparator_of_plain {letters : List Char} (plain : ':' ∉ letters) : hasSeparator letters = false := by
  induction letters with
  | nil => rfl
  | cons c rest ih =>
    unfold hasSeparator
    split
    · rename_i same
      exact absurd (by rw [same]; exact List.mem_cons_self) plain
    · rename_i same
      rw [← (List.cons.inj same).2]
      exact ih fun member => plain (List.mem_cons_of_mem _ member)
    · rfl

theorem uidFits_iff : uidFits taskType jobId ↔ fileNameSize taskType + fileNameSize jobId ≤ 193 := by
  have separator : fileNameSize "::" = 6 := by decide
  rw [uidFits, ← fileNameSize, fileNameSize_append, fileNameSize_append, separator, maxSafeUidBytes]
  omega

theorem size_clean (clean : ∀ c ∈ jobId.toList, isClean c = true) :
    fileNameSize jobId = jobId.length := by
  have widths : ∀ c ∈ contentIdAllowed.toList, fileNameWidth c = 1 := by
    have single : (contentIdAllowed.toList.all fun c => fileNameWidth c == 1) = true := by decide
    exact fun c member => beq_iff_eq.mp (List.all_eq_true.mp single c member)
  have ones : ∀ c ∈ jobId.toList, fileNameWidth c = 1 := fun c member =>
    widths c (of_decide_eq_true (clean c member))
  rw [fileNameSize_eq, List.map_congr_left ones, List.map_const', String.length_toList]
  simp

theorem clean_plain (clean : ∀ c ∈ jobId.toList, isClean c = true) : ':' ∉ jobId.toList := by
  intro colon
  exact absurd (clean ':' colon) (by decide)

end Plain

section Admission

variable [Python] [Sha256] {taskType text : String}

/-- The task type leaves room for every job id of 120 clean characters. -/
def Roomy (taskType : String) : Prop :=
  ∀ jobId : String, jobId.length = 120 → (∀ c ∈ jobId.toList, isClean c = true) → Accepted taskType jobId

omit [Sha256] in
/-- A task type is roomy when it is one and takes at most 73 bytes of a file name. -/
theorem roomy_iff : Roomy taskType ↔
    (taskType ≠ "" ∧ hasSeparator taskType.toList = false) ∧ fileNameSize taskType ≤ 73 := by
  constructor
  · intro roomy
    have letters : (String.ofList (List.replicate 120 'a')).toList = List.replicate 120 'a' := String.toList_ofList
    have clean : ∀ c ∈ (String.ofList (List.replicate 120 'a')).toList, isClean c = true := by
      intro c member
      rw [letters, List.mem_replicate] at member
      rw [member.2]
      decide
    have length : (String.ofList (List.replicate 120 'a')).length = 120 := by
      rw [String.length_ofList, List.length_replicate]
    obtain ⟨typed, -, fits⟩ := accepted_iff.mp (roomy _ length clean)
    rw [uidFits_iff, size_clean clean, length] at fits
    exact ⟨typed, by omega⟩
  · rintro ⟨typed, small⟩ jobId length clean
    refine accepted_iff.mpr ⟨typed, ⟨?_, hasSeparator_of_plain (clean_plain clean)⟩, ?_⟩
    · rintro rfl
      cases length
    · rw [uidFits_iff, size_clean clean, length]
      omega

/-- An identifier is accepted exactly when what its text costs is left in the file name. -/
theorem identifier_accepted_iff {keeps : Char → Bool} {fallback out : String} (noColon : keeps ':' = false)
    (typed : taskType ≠ "" ∧ hasSeparator taskType.toList = false) (given : text ≠ "")
    (encoded : encodeIdentifier keeps 120 fallback text = some out) :
    Accepted taskType out ↔ fileNameSize taskType + identifierCost keeps text ≤ 193 := by
  obtain ⟨id, same, size⟩ := @identifier_size keeps text _ given fallback
  rw [encoded, Option.some.injEq] at same
  subst same
  obtain ⟨filled, plain⟩ := identifier_plain noColon given encoded
  rw [accepted_iff, uidFits_iff, size]
  exact ⟨fun accepted => accepted.2.2, fun fits => ⟨typed, ⟨filled, hasSeparator_of_plain plain⟩, fits⟩⟩

variable [Printable]

/-- Both encoded forms of the text are taken as job ids. -/
def BothAccepted (taskType text : String) : Prop :=
  (∃ contentId, encodeContentId 120 text = some contentId ∧ Accepted taskType contentId) ∧
    ∃ component, encodeJobComponent 120 text = some component ∧ Accepted taskType component

theorem bothAccepted_of_typed (typed : taskType ≠ "" ∧ hasSeparator taskType.toList = false) (given : text ≠ "") :
    BothAccepted taskType text ↔
      fileNameSize taskType + identifierCost isClean text ≤ 193 ∧
        fileNameSize taskType + identifierCost (keepsForbidden defaultForbidden) text ≤ 193 := by
  have contentColon : isClean ':' = false := by decide
  have forbiddenColon : keepsForbidden defaultForbidden ':' = false := by
    have listed : ':' ∈ (if defaultForbidden = "" then defaultForbidden else defaultForbidden).toList := by
      decide
    rw [keepsForbidden, decide_eq_false (not_not_intro listed), Bool.and_false]
  obtain ⟨contentId, contentEncoded, -⟩ := @identifier_size isClean text _ given emptySentinel
  obtain ⟨component, componentEncoded, -⟩ :=
    @identifier_size (keepsForbidden defaultForbidden) text _ given emptySentinel
  rw [BothAccepted, encodeContentId_eq, encodeJobComponent, contentEncoded, componentEncoded,
    ← identifier_accepted_iff contentColon typed given contentEncoded,
    ← identifier_accepted_iff forbiddenColon typed given componentEncoded]
  simp only [Option.some.injEq, exists_eq_left']

/-- Under a task type with room for 120 clean characters, an encoded text is a job id in both forms exactly when
what it costs in each is left in the file name. -/
theorem ids_accepted_iff (roomy : Roomy taskType) (given : text ≠ "") :
    BothAccepted taskType text ↔
      fileNameSize taskType + identifierCost isClean text ≤ 193 ∧
        fileNameSize taskType + identifierCost (keepsForbidden defaultForbidden) text ≤ 193 :=
  bothAccepted_of_typed (roomy_iff.mp roomy).1 given

end Admission

section Sample

/-- The printable characters of ASCII; the samples hold no others. -/
@[reducible] def samplePrintable : Printable where
  isPrintable := fun c => decide (32 ≤ c.toNat ∧ c.toNat < 127)
  isPrintable_ascii := fun _ _ => rfl

local instance : Sha256 := Sha256.sample
local instance : Printable := samplePrintable
local instance : Python := Python.sample

theorem roomy_t : Roomy "t" := roomy_iff.mpr (by decide)

/-- One plain letter is a job id in both forms. -/
theorem ids_accepted_plain : Roomy "t" ∧ "a" ≠ "" ∧ BothAccepted "t" "a" :=
  ⟨roomy_t, by decide, (ids_accepted_iff roomy_t (by decide)).mpr (by decide)⟩

/-- Forty percent signs are encoded in 120 characters, and are 200 bytes of a file name. -/
theorem percent_signs_refused : ¬ ∀ taskType text : String, Roomy taskType → text ≠ "" →
    BothAccepted taskType text := by
  intro all
  have accepted := all "t" (String.ofList (List.replicate 40 '%')) roomy_t (by decide)
  rw [bothAccepted_of_typed (roomy_iff.mp roomy_t).1 (by decide)] at accepted
  exact absurd accepted (by decide)

end Sample

end Tasklite.Models.Admission
