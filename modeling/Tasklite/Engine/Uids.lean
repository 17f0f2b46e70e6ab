import Tasklite.Engine.Ops

/-! The pair behind a uid. Neither half may hold the separator, but a colon at the seam of the two halves
moves the first separator by one. -/

namespace Tasklite.Engine.Uids
open Tasklite.Library Tasklite.Models Tasklite.Utils.Encoding StateStore OpsConsole

variable {left : List Char} {job : Job}

section Seam

variable {letters : List Char}

/-- A half that ends in a colon. -/
def Open (letters : List Char) : Prop := letters.getLast? = some ':'

instance (letters : List Char) : Decidable (Open letters) := inferInstanceAs (Decidable (_ = _))

theorem hasSeparator_of_cons {c : Char} (separated : hasSeparator (c :: letters) = false) :
    hasSeparator letters = false := by
  unfold hasSeparator at separated
  split at separated
  · cases separated
  · rename_i same
    rw [(List.cons.inj same).2]
    exact separated
  · rename_i same
    cases same

/-- A half is found in front of the separator when it does not end in a colon. -/
theorem untilSeparator_append (separated : hasSeparator letters = false) (closed : ¬ Open letters) (back : List Char) :
    untilSeparator (letters ++ ':' :: ':' :: back) = (letters, back) := by
  induction letters with
  | nil => rfl
  | cons c rest ih =>
    have tail : untilSeparator (rest ++ ':' :: ':' :: back) = (rest, back) := by
      apply ih (hasSeparator_of_cons separated)
      intro ends
      cases rest with
      | nil => cases ends
      | cons d more => exact closed (by rw [Open, List.getLast?_cons_cons]; exact ends)
    rw [List.cons_append, untilSeparator, tail]
    intro more colon opens
    cases rest with
    | nil => exact closed (by rw [colon]; rfl)
    | cons d others =>
      rw [List.cons_append, List.cons.injEq] at opens
      rw [colon, opens.1, hasSeparator] at separated
      cases separated

/-- The half without its last colon holds no separator, and does not end in another colon. -/
theorem dropLast_closed (separated : hasSeparator letters = false) (ends : Open letters) :
    ∃ start, letters = start ++ [':'] ∧ hasSeparator start = false ∧ ¬ Open start := by
  induction letters with
  | nil => cases ends
  | cons c rest ih =>
    cases rest with
    | nil =>
      refine ⟨[], ?_, rfl, by simp [Open]⟩
      rw [Open, List.getLast?_singleton, Option.some.injEq] at ends
      rw [ends, List.nil_append]
    | cons d more =>
      rw [Open, List.getLast?_cons_cons] at ends
      obtain ⟨start, whole, clear, closed⟩ := ih (hasSeparator_of_cons separated) ends
      refine ⟨c :: start, by rw [whole, List.cons_append], ?_, ?_⟩
      · unfold hasSeparator
        split
        · rename_i same
          rw [(List.cons.inj same).1, whole, (List.cons.inj same).2, List.cons_append, hasSeparator] at separated
          cases separated
        · rename_i same
          rw [← (List.cons.inj same).2]
          exact clear
        · rfl
      · cases start with
        | nil =>
          intro colon
          rw [Open, List.getLast?_singleton, Option.some.injEq] at colon
          rw [colon, whole, List.nil_append, hasSeparator] at separated
          cases separated
        | cons e others =>
          rw [Open, List.getLast?_cons_cons]
          exact closed

end Seam

section Pairs

/-- The letters of the two halves. -/
def front (job : Job) : List Char := job.taskType.val.toList

def back (job : Job) : List Char := job.jobId.val.toList

/-- No other pair has the uid. -/
def Determined (job : Job) : Prop :=
  ∀ other : Job, other.uid = job.uid → other.taskType = job.taskType ∧ other.jobId = job.jobId

/-- Splitting the uid at its first separator gives the pair back, to a retry and to the synthetic row. -/
def Recovered (job : Job) : Prop :=
  untilSeparator job.uid.toList = (front job, back job) ∧
    syntheticSnapshot job.uid = Dict.ofPairs [("task_type", .str job.taskType.val), ("job_id", .str job.jobId.val)]

/-- The prefix test of `clear_failures` holds for the task type of the job alone. -/
def Filtered (job : Job) : Prop :=
  ∀ taskType : Component, startsWith job.uid (taskType.val ++ "::") = true ↔ taskType = job.taskType

theorem toList_uid (job : Job) : job.uid.toList = front job ++ ':' :: ':' :: back job := by
  have separator : "::".toList = [':', ':'] := by decide
  rw [Job.uid, String.toList_append, String.toList_append, separator, List.append_assoc]
  rfl

theorem toList_ne_nil (half : Component) : half.val.toList ≠ [] := by
  rw [ne_eq, String.toList_eq_nil_iff]
  exact half.property.1

/-- A half behind a first one that ends in a colon takes the colon over. -/
theorem untilSeparator_half (half : Component) (rest : List Char) :
    (¬ Open half.val.toList ∧ untilSeparator (half.val.toList ++ ':' :: ':' :: rest) = (half.val.toList, rest)) ∨
      ∃ start, half.val.toList = start ++ [':'] ∧
        untilSeparator (half.val.toList ++ ':' :: ':' :: rest) = (start, ':' :: rest) := by
  by_cases ends : Open half.val.toList
  · obtain ⟨start, whole, clear, closed⟩ := dropLast_closed half.property.2 ends
    right
    refine ⟨start, whole, ?_⟩
    rw [whole, List.append_assoc, List.singleton_append]
    exact untilSeparator_append clear closed (':' :: rest)
  · exact Or.inl ⟨ends, untilSeparator_append half.property.2 ends rest⟩

theorem untilSeparator_clear (clear : hasSeparator left = false) : untilSeparator left = (left, []) := by
  induction left with
  | nil => rfl
  | cons c rest ih =>
    rw [untilSeparator, ih (hasSeparator_of_cons clear)]
    intro more colon opens
    rw [colon, opens, hasSeparator] at clear
    cases clear

theorem recovered_iff (job : Job) : Recovered job ↔ ¬ Open (front job) := by
  rw [Recovered, toList_uid]
  rcases untilSeparator_half job.taskType (back job) with ⟨closed, split⟩ | ⟨start, whole, split⟩
  · have snapshot : syntheticSnapshot job.uid =
        Dict.ofPairs [("task_type", .str job.taskType.val), ("job_id", .str job.jobId.val)] := by
      have whole : untilSeparator (back job) = (back job, []) := untilSeparator_clear job.jobId.property.2
      rw [syntheticSnapshot, toList_uid, front, split]
      simp only [whole]
      rw [back, String.ofList_toList, String.ofList_toList]
    exact iff_of_true ⟨split, snapshot⟩ closed
  · have ends : Open (front job) := by rw [front, whole, Open, List.getLast?_concat]
    refine iff_of_false ?_ (not_not_intro ends)
    rintro ⟨same, -⟩
    rw [front, split, Prod.mk.injEq, whole] at same
    simp at same

/-- The task type with a colon behind it, where that is a task type. -/
theorem hasSeparator_concat (clear : hasSeparator left = false) (closed : ¬ Open left) :
    hasSeparator (left ++ [':']) = false := by
  induction left with
  | nil => rfl
  | cons c rest ih =>
    have tail : hasSeparator (rest ++ [':']) = false := by
      apply ih (hasSeparator_of_cons clear)
      intro ends
      cases rest with
      | nil => cases ends
      | cons d more => exact closed (by rw [Open, List.getLast?_cons_cons]; exact ends)
    rw [List.cons_append, hasSeparator, tail]
    intro more colon opens
    cases rest with
    | nil => exact closed (by rw [colon]; rfl)
    | cons d others =>
      rw [List.cons_append, List.cons.injEq] at opens
      rw [colon, opens.1, hasSeparator] at clear
      cases clear

/-- The task type with a colon behind it. -/
def extended (job : Job) (closed : ¬ Open (front job)) : Component :=
  ⟨job.taskType.val ++ ":", by simp, by
    have colon : ":".toList = [':'] := by decide
    rw [String.toList_append, colon]
    exact hasSeparator_concat job.taskType.property.2 closed⟩

theorem toList_extended (closed : ¬ Open (front job)) : (extended job closed).val.toList = front job ++ [':'] := by
  have colon : ":".toList = [':'] := by decide
  rw [extended, String.toList_append, colon, front]

theorem extended_ne (closed : ¬ Open (front job)) : extended job closed ≠ job.taskType := by
  intro same
  have letters := toList_extended closed
  rw [same, front] at letters
  simp at letters

/-- Where the job id opens with a colon and goes on, the task type may take the colon over. -/
theorem not_determined (closed : ¬ Open (front job)) {rest : List Char} (more : rest ≠ [])
    (opens : back job = ':' :: rest) : ¬ Determined job := by
  intro determined
  have whole : hasSeparator (back job) = false := job.jobId.property.2
  have clear : hasSeparator rest = false := hasSeparator_of_cons (opens ▸ whole)
  have uids : (extended job closed).val ++ "::" ++ String.ofList rest = job.uid := by
    have separator : "::".toList = [':', ':'] := by decide
    rw [← String.toList_inj, toList_uid, opens, String.toList_append, String.toList_append, toList_extended,
      separator]
    simp
  let other : Job := { job with
    taskType := extended job closed
    jobId := ⟨String.ofList rest, by simpa using more, by rw [String.toList_ofList]; exact clear⟩
    fits := by
      have fits := job.fits
      rw [uidFits, ← Job.uid] at fits
      rw [uidFits, uids]
      exact fits }
  exact extended_ne closed (determined other uids).1

theorem determined_of_closed (closed : ¬ Open (front job)) (plain : ¬ ∃ rest, rest ≠ [] ∧ back job = ':' :: rest) :
    Determined job := by
  intro other same
  have mine := untilSeparator_append job.taskType.property.2 closed (back job)
  have letters : front other ++ ':' :: ':' :: back other = front job ++ ':' :: ':' :: back job := by
    rw [← toList_uid, ← toList_uid, same]
  rcases untilSeparator_half other.taskType (back other) with ⟨-, split⟩ | ⟨start, -, split⟩
  · rw [← front, letters, front, mine, Prod.mk.injEq] at split
    exact ⟨Subtype.ext (String.toList_inj.mp split.1.symm), Subtype.ext (String.toList_inj.mp split.2.symm)⟩
  · rw [← front, letters, front, mine, Prod.mk.injEq] at split
    exact absurd ⟨back other, toList_ne_nil other.jobId, split.2⟩ plain

theorem startsWith_iff (job : Job) (taskType : Component) :
    startsWith job.uid (taskType.val ++ "::") = true ↔
      ∃ rest, front job ++ ':' :: ':' :: back job = taskType.val.toList ++ ':' :: ':' :: rest := by
  have separator : "::".toList = [':', ':'] := by decide
  rw [startsWith, List.isPrefixOf_iff_prefix, toList_uid, String.toList_append, separator]
  constructor
  · rintro ⟨rest, split⟩
    exact ⟨rest, by rw [← split, List.append_assoc]; rfl⟩
  · rintro ⟨rest, split⟩
    exact ⟨rest, by rw [split, List.append_assoc]; rfl⟩

theorem filtered_iff (closed : ¬ Open (front job)) : Filtered job ↔ (back job).head? ≠ some ':' := by
  have mine := untilSeparator_append job.taskType.property.2 closed (back job)
  constructor
  · intro filtered colon
    obtain ⟨rest, opens⟩ := List.head?_eq_some_iff.mp colon
    apply extended_ne closed
    rw [← filtered, startsWith_iff]
    refine ⟨rest, ?_⟩
    rw [toList_extended, List.append_assoc, opens]
    rfl
  · intro plain taskType
    rw [startsWith_iff]
    constructor
    · rintro ⟨rest, letters⟩
      rcases untilSeparator_half taskType rest with ⟨-, split⟩ | ⟨start, -, split⟩
      · rw [← letters, front, mine, Prod.mk.injEq] at split
        exact Subtype.ext (String.toList_inj.mp split.1.symm)
      · rw [← letters, front, mine, Prod.mk.injEq] at split
        exact absurd (by rw [split.2]; rfl) plain
    · rintro rfl
      exact ⟨back job, rfl⟩

/-- A uid stands for one pair, which splitting gives back, exactly when the task type does not end in a colon
and the job id does not open with one, unless it is a colon alone. The prefix test needs the first and that
the job id opens with no colon at all. -/
theorem uid_unambiguous_iff (job : Job) :
    (Determined job ∧ Recovered job ↔
      ¬ Open (front job) ∧ ¬ ∃ rest, rest ≠ [] ∧ back job = ':' :: rest) ∧
    (Determined job ∧ Recovered job ∧ Filtered job ↔
      ¬ Open (front job) ∧ (back job).head? ≠ some ':') := by
  rw [recovered_iff]
  constructor
  · constructor
    · rintro ⟨determined, closed⟩
      exact ⟨closed, fun ⟨rest, more, opens⟩ => not_determined closed more opens determined⟩
    · rintro ⟨closed, plain⟩
      exact ⟨determined_of_closed closed plain, closed⟩
  · constructor
    · rintro ⟨-, closed, filtered⟩
      exact ⟨closed, (filtered_iff closed).mp filtered⟩
    · rintro ⟨closed, plain⟩
      refine ⟨determined_of_closed closed ?_, closed, (filtered_iff closed).mpr plain⟩
      rintro ⟨rest, -, opens⟩
      exact plain (by rw [opens]; rfl)

end Pairs

section Sample

/-- A job of two given halves. -/
def sampleJob (taskType jobId : Component) (fits : uidFits taskType.val jobId.val) : Job where
  taskType := taskType
  jobId := jobId
  fits := fits
  payload := Dict.empty
  resources := none
  maxRetries := none
  dependsOn := []
  timeoutSeconds := none
  timeoutIsTransient := none
  trigger := none
  attemptNo := ⟨1, le_rfl⟩
  activationNo := ⟨1, le_rfl⟩
  firstEnqueuedAt := none
  runtime := JobRuntimeState.init

/-- The pairs `a:` with `b` and `a` with `:b` have one uid. -/
theorem seam_collision : ¬ ∀ job : Job, Determined job ∧ Recovered job := by
  intro all
  have first := (all (sampleJob ⟨"a:", by decide⟩ ⟨"b", by decide +kernel⟩ (by decide +kernel))).1
  have second := first (sampleJob ⟨"a", by decide⟩ ⟨":b", by decide +kernel⟩ (by decide +kernel))
    (by decide)
  exact absurd second.1 (by decide)

end Sample

end Tasklite.Engine.Uids
