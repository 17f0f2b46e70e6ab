import Tasklite.Library.Machine
import Tasklite.Models.Artifact

/-! The journal of the declarations that executions have made. A worker adds to it one by one, the parent reads
what there is for a job and checks it as a whole. -/

namespace Tasklite.Utils.Journal
open Tasklite.Library Tasklite.Models

/-- The declarations of every job, in the order they were made. -/
abbrev ArtifactJournal := Dict String (List ArtifactDeclaration)

/-- What the surroundings do while one declaration is recorded: where its path leads, and what goes wrong in
preparing its place or in sending it to the parent. -/
structure Recording where
  jobUid : String
  declaration : ArtifactDeclaration
  resolved : Except PyError String
  preparation : Except PyError Unit := .ok ()
  sending : Except PyError Unit := .ok ()

def declarationsOf (journal : ArtifactJournal) (jobUid : String) : List ArtifactDeclaration :=
  (journal.get? jobUid).getD []

/-- A path must be written as the path policy resolves it. -/
def validateArtifactPath (declaration : ArtifactDeclaration) (resolved : Except PyError String) :
    Except PyError Unit := do
  let path ← resolved
  if path ≠ declaration.path then .error (.valueError "artifact declaration must use the canonical path")

variable [Python]

/-- Check the path and the declarations made before, prepare the place, tell the parent, and only then keep it. -/
def recordArtifact (journal : ArtifactJournal) (recording : Recording) : Except PyError ArtifactJournal := do
  validateArtifactPath recording.declaration recording.resolved
  let previous := declarationsOf journal recording.jobUid
  let declarations ← appendArtifactDeclaration previous recording.declaration
  if declarations.length = previous.length then return journal
  recording.preparation
  recording.sending
  return journal.set recording.jobUid declarations

/-- A recording that raises leaves the journal as it is. -/
def recorded (journal : ArtifactJournal) (recording : Recording) : ArtifactJournal :=
  match recordArtifact journal recording with
  | .ok next => next
  | .error _ => journal

/-- What the parent reads: the paths of what has a name are checked again, then the whole. -/
def readArtifacts (journal : ArtifactJournal) (jobUid : String)
    (resolve : ArtifactDeclaration → Except PyError String) : Except PyError (List ArtifactDeclaration) := do
  let declarations := declarationsOf journal jobUid
  declarations.forM fun declaration =>
    if declaration.name.isSome then validateArtifactPath declaration (resolve declaration) else .ok ()
  validateArtifactDeclarations declarations

/-- The declarations of a job pass the check of the whole as they stand. -/
def Settled (journal : ArtifactJournal) : Prop :=
  ∀ jobUid, validateArtifactDeclarations (declarationsOf journal jobUid) = .ok (declarationsOf journal jobUid)

/-- A declaration that can be added keeps what is declared valid as a whole. -/
theorem validate_append {previous whole : List ArtifactDeclaration} {declaration : ArtifactDeclaration}
    (valid : validateArtifactDeclarations previous = .ok previous)
    (added : appendArtifactDeclaration previous declaration = .ok whole) :
    validateArtifactDeclarations whole = .ok whole := by
  have folded : (previous ++ [declaration]).foldlM appendArtifactDeclaration [] = .ok whole := by
    have before : previous.foldlM appendArtifactDeclaration [] = .ok previous :=
      (foldlM_append_eq_validateAfter [] previous).trans valid
    have last : (Except.ok previous).bind (fun accepted => [declaration].foldlM appendArtifactDeclaration accepted) =
        .ok whole := by
      show [declaration].foldlM appendArtifactDeclaration previous = .ok whole
      rw [List.foldlM_cons, added]
      rfl
    rw [List.foldlM_append, before]
    exact last
  rw [foldlM_append_eq_validateAfter] at folded
  rw [appendArtifactDeclaration, appendAmong_eq_screen] at added
  cases screened : screen declaration previous with
  | error refusal => simp [screened, Except.map] at added
  | ok new =>
    rw [screened] at added
    cases new with
    | true =>
      have same : previous ++ [declaration] = whole := Except.ok.inj added
      rw [← same] at folded ⊢
      exact folded
    | false =>
      have same : previous = whole := Except.ok.inj added
      rw [← same]
      exact valid

theorem settled_recorded {journal : ArtifactJournal} {recording : Recording} (settled : Settled journal) :
    Settled (recorded journal recording) := by
  unfold recorded
  cases answer : recordArtifact journal recording with
  | error refusal => exact settled
  | ok next =>
    simp only [recordArtifact, bind, Except.bind] at answer
    cases checked : validateArtifactPath recording.declaration recording.resolved with
    | error refusal => simp [checked] at answer
    | ok passed =>
      simp only [checked] at answer
      cases added : appendArtifactDeclaration (declarationsOf journal recording.jobUid) recording.declaration with
      | error refusal => simp [added] at answer
      | ok declarations =>
        have valid := validate_append (settled recording.jobUid) added
        simp only [added] at answer
        split at answer
        · rw [← Except.ok.inj answer]
          exact settled
        · cases prepared : recording.preparation with
          | error refusal => simp [prepared] at answer
          | ok ready =>
            cases sent : recording.sending with
            | error refusal => simp [prepared, sent] at answer
            | ok told =>
              simp only [prepared, sent] at answer
              rw [← Except.ok.inj answer]
              intro jobUid
              by_cases same : jobUid = recording.jobUid
              · have kept : declarationsOf (journal.set recording.jobUid declarations) jobUid = declarations := by
                  simp [declarationsOf, same]
                rw [kept]
                exact valid
              · have kept : declarationsOf (journal.set recording.jobUid declarations) jobUid =
                    declarationsOf journal jobUid := by
                  simp [declarationsOf, Dict.get?_set_of_ne _ _ same]
                rw [kept]
                exact settled jobUid

/-- After any recordings, whatever has raised, what is kept for a job passes the check of the whole unchanged. -/
theorem validate_recordings (recordings : List Recording) (jobUid : String) :
    let kept := declarationsOf (Machine.run recorded Dict.empty recordings) jobUid
    validateArtifactDeclarations kept = .ok kept := by
  have settled : Settled (Machine.run recorded Dict.empty recordings) := by
    apply Machine.run_invariant
    · intro other
      rfl
    · exact fun _ _ settled => settled_recorded settled
  exact settled jobUid

end Tasklite.Utils.Journal
