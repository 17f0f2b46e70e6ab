import Tasklite.Library.Fresh
import Tasklite.Models.Json

/-! What a worker declares about its files: where they are, what they are called, and which of them may be
deleted. Declarations of one execution are checked against each other, one by one as they come in and once more
as a whole. -/

namespace Tasklite.Models
open Tasklite.Library

section Path

/-- The names along a path: `Path(text).parts` without the root. -/
def pathParts (path : String) : List String :=
  ((path.toList.splitOn '/').map String.ofList).filter fun part => part ≠ "" ∧ part ≠ "."

/-- Take every name that is followed by two dots out, nearest first; there is nothing above the root. -/
def collapse : List String → List String → List String
  | above, [] => above.reverse
  | above, ".." :: rest => collapse above.tail rest
  | above, part :: rest => collapse (part :: above) rest

/-- `os.path.normpath` of an absolute path. Two slashes in front are kept, more are not. -/
def normpath (path : String) : String :=
  let front := if "//".toList <+: path.toList ∧ ¬ "///".toList <+: path.toList then "//" else "/"
  front ++ "/".intercalate (collapse [] (pathParts path))

def isAbsolute (path : String) : Bool := '/' ∈ path.toList.head?

/-- `path.is_relative_to(other)`: the other path is the path itself or above it. -/
def isRelativeTo (path other : String) : Bool := (pathParts other).isPrefixOf (pathParts path)

/-- Absolute, and as short as it can be written. -/
def lexicallyNormalized (path : String) : Bool :=
  path ≠ "" ∧ '\x00' ∉ path.toList ∧ isAbsolute path = true ∧ normpath path = path ∧ ¬ "//".toList <+: path.toList

end Path

/-- An authorisation of one execution. What the constructor refuses cannot be built. -/
structure ArtifactDeclaration where
  path : String
  name : Option String
  deleteExisting : Bool
  deleteOnFailure : Bool
  deleteOnSuccess : Bool
  sandbox : Bool
  normalized : lexicallyNormalized path = true
  named : name ≠ some ""
  kept : name = none ∨ deleteOnSuccess = false
deriving DecidableEq

namespace ArtifactDeclaration

/-- The constructor with its checks. -/
def new (path : String) (name : Option String) (deleteExisting deleteOnFailure deleteOnSuccess sandbox : Bool) :
    Except PyError ArtifactDeclaration :=
  if path = "" ∨ '\x00' ∈ path.toList ∨ isAbsolute path = false then
    .error (.valueError "artifact path must be a non-empty absolute path without null bytes")
  else if normalized : lexicallyNormalized path = true then
    if named : name ≠ some "" then
      if kept : name = none ∨ deleteOnSuccess = false then
        .ok ⟨path, name, deleteExisting, deleteOnFailure, deleteOnSuccess, sandbox, normalized, named, kept⟩
      else .error (.valueError "artifact name cannot be used with delete_on_success")
    else .error (.valueError "artifact name must be non-empty")
  else .error (.valueError "artifact path must be lexically normalized")

end ArtifactDeclaration

section Declarations

variable [Python]

/-- What a new declaration collides with in an earlier one that is not the same. -/
def collision (previous declaration : ArtifactDeclaration) : Option PyError :=
  if pathParts declaration.path = pathParts previous.path then
    some (.valueError ("artifact path already declared with different attributes: " ++ declaration.path))
  else if declaration.name.isSome ∧ declaration.name = previous.name then
    some (.valueError ("artifact name already declared: " ++ Python.repr (.str (declaration.name.getD ""))))
  else if isRelativeTo declaration.path previous.path ∨ isRelativeTo previous.path declaration.path then
    some (.valueError ("overlapping artifact paths: " ++ previous.path ++ ", " ++ declaration.path))
  else none

/-- The loop over what was accepted before: whether the declaration is to be added, as it is not there yet. -/
def screen (declaration : ArtifactDeclaration) : List ArtifactDeclaration → Except PyError Bool
  | [] => .ok true
  | previous :: rest =>
      if previous = declaration then .ok false
      else match collision previous declaration with
        | some refusal => .error refusal
        | none => screen declaration rest

/-- The loop over the declarations. -/
def validateAfter : List ArtifactDeclaration → List ArtifactDeclaration →
    Except PyError (List ArtifactDeclaration)
  | accepted, [] => .ok accepted
  | accepted, declaration :: rest =>
      match screen declaration accepted with
      | .error refusal => .error refusal
      | .ok true => validateAfter (accepted ++ [declaration]) rest
      | .ok false => validateAfter accepted rest

def validateArtifactDeclarations (declarations : List ArtifactDeclaration) :
    Except PyError (List ArtifactDeclaration) :=
  validateAfter [] declarations

/-- The loop over the earlier declarations, with each of which the new one is checked as a pair. -/
def appendAmong (previous : List ArtifactDeclaration) (declaration : ArtifactDeclaration) :
    List ArtifactDeclaration → Except PyError (List ArtifactDeclaration)
  | [] => .ok (previous ++ [declaration])
  | old :: rest =>
      if old = declaration then .ok previous
      else match validateArtifactDeclarations [old, declaration] with
        | .error refusal => .error refusal
        | .ok _ => appendAmong previous declaration rest

def appendArtifactDeclaration (previous : List ArtifactDeclaration) (declaration : ArtifactDeclaration) :
    Except PyError (List ArtifactDeclaration) :=
  appendAmong previous declaration previous

end Declarations

section Agreement

variable [Python] {declaration old : ArtifactDeclaration} {accepted previous rest whole : List ArtifactDeclaration}

/-- A pair is accepted unless the second collides with the first. -/
theorem validate_pair (different : old ≠ declaration) : validateArtifactDeclarations [old, declaration] =
    match collision old declaration with
    | some refusal => .error refusal
    | none => .ok [old, declaration] := by
  simp only [validateArtifactDeclarations, validateAfter, screen, List.nil_append, if_neg different]
  cases collision old declaration <;> rfl

/-- Comparing pair by pair comes to what one loop over the earlier declarations does. -/
theorem appendAmong_eq_screen (previous rest : List ArtifactDeclaration) (declaration : ArtifactDeclaration) :
    appendAmong previous declaration rest = (screen declaration rest).map fun new =>
      if new then previous ++ [declaration] else previous := by
  induction rest with
  | nil => rfl
  | cons old rest ih =>
    unfold appendAmong screen
    by_cases same : old = declaration
    · rw [if_pos same, if_pos same]
      rfl
    · rw [if_neg same, if_neg same, validate_pair same]
      cases collision old declaration with
      | some refusal => rfl
      | none => exact ih

theorem foldlM_append_eq_validateAfter (accepted declarations : List ArtifactDeclaration) :
    declarations.foldlM appendArtifactDeclaration accepted = validateAfter accepted declarations := by
  induction declarations generalizing accepted with
  | nil => rfl
  | cons declaration rest ih =>
    rw [List.foldlM_cons, appendArtifactDeclaration, appendAmong_eq_screen]
    unfold validateAfter
    cases screen declaration accepted with
    | error refusal => rfl
    | ok new => cases new <;> exact ih _

end Agreement

section Accepted

variable [Python] {declaration old : ArtifactDeclaration} {accepted declarations whole : List ArtifactDeclaration}

/-- Neither path is the other or above it, and the two do not share a name. -/
structure Compatible (first second : ArtifactDeclaration) : Prop where
  below : isRelativeTo first.path second.path = false
  above : isRelativeTo second.path first.path = false
  names : first.name.isSome = true → first.name ≠ second.name

theorem compatible_of_collision (free : collision old declaration = none) : Compatible old declaration := by
  unfold collision at free
  split_ifs at free with _ shared overlapping
  simp only [not_or, Bool.not_eq_true] at overlapping
  refine ⟨overlapping.2, overlapping.1, fun given same => shared ⟨?_, same.symm⟩⟩
  rw [← same]
  exact given

/-- The loop ends with the declaration as new exactly when it collides with nothing that came before. -/
theorem screen_true (new : screen declaration accepted = .ok true) :
    declaration ∉ accepted ∧ ∀ old ∈ accepted, Compatible old declaration := by
  induction accepted with
  | nil => simp
  | cons old rest ih =>
    unfold screen at new
    split at new
    · cases new
    · rename_i different
      split at new
      · cases new
      · rename_i free
        obtain ⟨absent, apart⟩ := ih new
        refine ⟨List.not_mem_cons_of_ne_of_not_mem (Ne.symm different) absent, ?_⟩
        rw [List.forall_mem_cons]
        exact ⟨compatible_of_collision free, apart⟩

theorem screen_false (known : screen declaration accepted = .ok false) : declaration ∈ accepted := by
  induction accepted with
  | nil => cases known
  | cons old rest ih =>
    unfold screen at known
    split at known
    · rename_i same
      exact List.mem_cons.mpr (.inl same.symm)
    · split at known
      · cases known
      · exact List.mem_cons_of_mem _ (ih known)

/-- What is accepted in the end: what was accepted before and the first of each declaration that is new. -/
theorem validateAfter_ok (before : accepted.Pairwise Compatible)
    (succeeds : validateAfter accepted declarations = .ok whole) :
    whole = accepted ++ Fresh.fresh id accepted.toFinset declarations ∧ whole.Pairwise Compatible := by
  induction declarations generalizing accepted with
  | nil =>
    rw [validateAfter, Except.ok.injEq] at succeeds
    subst succeeds
    exact ⟨by simp [Fresh.fresh], before⟩
  | cons declaration rest ih =>
    unfold validateAfter at succeeds
    cases screened : screen declaration accepted with
    | error refusal => simp [screened] at succeeds
    | ok new =>
      cases new with
      | false =>
        have known := screen_false screened
        simp only [screened] at succeeds
        obtain ⟨listed, apart⟩ := ih before succeeds
        refine ⟨?_, apart⟩
        have seen : id declaration ∈ accepted.toFinset := List.mem_toFinset.mpr known
        rw [listed, Fresh.fresh, if_pos seen]
      | true =>
        obtain ⟨absent, apart⟩ := screen_true screened
        simp only [screened] at succeeds
        have longer : (accepted ++ [declaration]).Pairwise Compatible := by
          rw [List.pairwise_append]
          exact ⟨before, List.pairwise_singleton _ _, fun old member other last =>
            List.mem_singleton.mp last ▸ apart old member⟩
        obtain ⟨listed, others⟩ := ih longer succeeds
        refine ⟨?_, others⟩
        have seen : (accepted ++ [declaration]).toFinset = insert declaration accepted.toFinset := by
          ext other
          simp only [List.mem_toFinset, List.mem_append, List.mem_singleton, Finset.mem_insert]
          exact or_comm
        have unseen : id declaration ∉ accepted.toFinset := fun old => absent (List.mem_toFinset.mp old)
        rw [listed, Fresh.fresh, if_neg unseen, seen, List.append_assoc, List.singleton_append]
        rfl

end Accepted

/-- For every sequence of declarations: adding them one by one comes to what checking them as a whole does. What
is accepted has each declaration once, where it occurred first; no path is another or above it, and no name is
given twice. -/
theorem append_agrees_validate [Python] (declarations : List ArtifactDeclaration) :
    declarations.foldlM appendArtifactDeclaration [] = validateArtifactDeclarations declarations ∧
      ∀ accepted, validateArtifactDeclarations declarations = .ok accepted →
        accepted = Fresh.fresh id ∅ declarations ∧ accepted.Nodup ∧
        (∀ declaration, declaration ∈ accepted ↔ declaration ∈ declarations) ∧
        accepted.Pairwise (fun first second =>
          isRelativeTo first.path second.path = false ∧ isRelativeTo second.path first.path = false) ∧
        (accepted.filterMap ArtifactDeclaration.name).Nodup := by
  refine ⟨foldlM_append_eq_validateAfter [] declarations, fun accepted succeeds => ?_⟩
  obtain ⟨listed, apart⟩ := validateAfter_ok List.Pairwise.nil succeeds
  rw [List.nil_append, List.toFinset_nil] at listed
  have once : accepted.Nodup := by
    have distinct := @Fresh.fresh_nodup _ _ _ id ∅ declarations
    rw [List.map_id] at distinct
    exact listed ▸ distinct
  have whole : ∀ declaration, declaration ∈ accepted ↔ declaration ∈ declarations := by
    intro declaration
    have same : Fresh.keys id accepted = Fresh.keys id declarations := by
      rw [listed, Fresh.keys_fresh, Finset.sdiff_empty]
    have member : declaration ∈ Fresh.keys id accepted ↔ declaration ∈ Fresh.keys id declarations := by rw [same]
    simpa [Fresh.keys] using member
  refine ⟨listed, once, whole, apart.imp fun pair => ⟨pair.below, pair.above⟩, ?_⟩
  rw [List.Nodup, List.pairwise_filterMap]
  refine apart.imp fun {first second} pair => ?_
  intro name given other taken same
  have firstNamed : first.name = some name := given
  have secondNamed : second.name = some other := taken
  apply pair.names
  · rw [firstNamed]
    rfl
  · rw [firstNamed, secondNamed, same]

end Tasklite.Models
