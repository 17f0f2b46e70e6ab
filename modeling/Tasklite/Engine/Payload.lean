import Tasklite.Models.Json

/-! The check of payloads against the types that a schema declares for its fields. A union is first given to
`isinstance`, which stops at a member it cannot check; what it leaves open is settled by the literals and by all
other members together. -/

namespace Tasklite.Engine.Payload
open Tasklite.Library

/-- Values and classes of the interpreter. -/
class Objects (V : Type) (C : outParam Type) where
  typeOf : V → C
  equals : V → V → Bool
  isInstance : V → C → Bool
  className : C → String
  int : C
  bool : C

/-- A type that a field may have by itself. `None` stands for its class, and a class with parameters for the class. -/
inductive Member (V C : Type) where
  | literal (allowed : List V)
  | plain (cls : C)
  /-- `Any`, a type variable or a typed dictionary, which `isinstance` refuses to check. -/
  | other

inductive Shape (V C : Type) where
  | single (member : Member V C)
  | union (members : List (Member V C))

/-- The type declared for a field, with its `str` and its `__name__`; a type without a name has its `str` there. -/
structure FieldType (V C : Type) where
  shape : Shape V C
  text : String
  name : String

structure ValidationErrorItem where
  fieldPath : String
  code : String
  expected : String
  actual : String
  message : String
deriving DecidableEq, Repr

section Check

variable {V C : Type} [DecidableEq C] [Objects V C]
open Objects

/-- `type(value).__name__`. -/
def actualName (value : V) : String := className V (typeOf value)

def missingFieldItem (key : String) (expected : FieldType V C) : ValidationErrorItem where
  fieldPath := key
  code := "MISSING_REQUIRED_FIELD"
  expected := expected.text
  actual := "missing"
  message := s!"missing required field '{key}'"

def unexpectedFieldItem (key : String) (value : V) : ValidationErrorItem where
  fieldPath := key
  code := "UNEXPECTED_FIELD"
  expected := "none"
  actual := actualName value
  message := s!"unexpected field '{key}'"

def literalMismatchItem (key : String) (value : V) (text : String) : ValidationErrorItem where
  fieldPath := key
  code := "LITERAL_MISMATCH"
  expected := text
  actual := actualName value
  message := s!"field '{key}' expected {text}, got {actualName value}"

def boolForbiddenForIntItem (key : String) : ValidationErrorItem where
  fieldPath := key
  code := "BOOL_FORBIDDEN_FOR_INT"
  expected := "int"
  actual := "bool"
  message := s!"field '{key}' expected int, got bool"

def typeMismatchItem (key : String) (value : V) (name : String) : ValidationErrorItem where
  fieldPath := key
  code := "TYPE_MISMATCH"
  expected := name
  actual := actualName value
  message := s!"field '{key}' expected {name}, got {actualName value}"

/-- Equal to one of the allowed values, and of the same type. -/
def matchesLiteral (value : V) (allowed : List V) : Bool :=
  allowed.any fun candidate => equals value candidate && decide (typeOf value = typeOf candidate)

def checkLiteralField (key : String) (value : V) (allowed : List V) (text : String) : List ValidationErrorItem :=
  if matchesLiteral value allowed then [] else [literalMismatchItem key value text]

/-- `isinstance` for a tuple: the answer of the first member that accepts, unless a member before it cannot be
checked. There is no answer where a `TypeError` is raised. -/
def isinstanceAny (value : V) : List (Member V C) → Option Bool
  | [] => some false
  | .plain cls :: rest => if isInstance value cls then some true else isinstanceAny value rest
  | .literal _ :: _ => none
  | .other :: _ => none

def literals (members : List (Member V C)) : List (List V) :=
  members.filterMap fun
    | .literal allowed => some allowed
    | _ => none

def classes (members : List (Member V C)) : List C :=
  members.filterMap fun
    | .plain cls => some cls
    | _ => none

/-- The members that can be checked all accept. -/
def isinstanceAllNonLiteral (value : V) (members : List (Member V C)) : Bool :=
  (classes members).all fun cls => isInstance value cls

def isinstanceWithLiteralFallback (value : V) (members : List (Member V C)) : Bool :=
  match isinstanceAny value members with
  | some answer => answer
  | none =>
    if (literals members).isEmpty then true
    else if (literals members).any (matchesLiteral value) then true
    else isinstanceAllNonLiteral value members

/-- A bool, for a union with `int` and without `bool`. -/
def boolInIntOnlyUnion (value : V) (members : List (Member V C)) : Bool :=
  isInstance value (bool V) && decide (int V ∈ classes members) && !decide (bool V ∈ classes members)

/-- The check of the value of one field. -/
def validatePayloadField (key : String) (value : V) (expected : FieldType V C) : List ValidationErrorItem :=
  match expected.shape with
  | .single (.literal allowed) => checkLiteralField key value allowed expected.text
  | .single (.plain cls) =>
    if cls = int V ∧ isInstance value (bool V) then [boolForbiddenForIntItem key]
    else if isInstance value cls then []
    else [typeMismatchItem key value expected.name]
  | .single .other => []
  | .union members =>
    if isinstanceWithLiteralFallback value members && !boolInIntOnlyUnion value members then []
    else [typeMismatchItem key value expected.name]

/-- The check of a payload: the declared fields in their order, then the fields that are not declared. Without
`requiredKeys` every declared field is required. -/
def validatePayload (payload : Dict String V) (hints : Dict String (FieldType V C))
    (requiredKeys : Option (List String)) : List ValidationErrorItem :=
  (hints.entries.flatMap fun hint =>
    match payload.get? hint.1 with
    | some value => validatePayloadField hint.1 value hint.2
    | none =>
      match requiredKeys with
      | some required => if hint.1 ∈ required then [missingFieldItem hint.1 hint.2] else []
      | none => [missingFieldItem hint.1 hint.2]) ++
  (payload.entries.filter fun entry => !hints.contains entry.1).map fun entry => unexpectedFieldItem entry.1 entry.2

end Check

section Payload

variable {V C : Type} [DecidableEq C] [Objects V C] {payload : Dict String V} {hints : Dict String (FieldType V C)}
  {requiredKeys : Option (List String)}

/-- An error names the field it is about. -/
theorem fieldPath_validatePayloadField {key : String} {value : V} {expected : FieldType V C}
    {item : ValidationErrorItem} (reported : item ∈ validatePayloadField key value expected) :
    item.fieldPath = key := by
  unfold validatePayloadField checkLiteralField at reported
  split at reported
  · split at reported
    · cases reported
    · rw [List.mem_singleton.mp reported]
      rfl
  · split at reported
    · rw [List.mem_singleton.mp reported]
      rfl
    · split at reported
      · cases reported
      · rw [List.mem_singleton.mp reported]
        rfl
  · cases reported
  · split at reported
    · cases reported
    · rw [List.mem_singleton.mp reported]
      rfl

/-- A payload passes when every declared field passes or may be missing, and no other field is there. -/
theorem validatePayload_eq_nil_iff : validatePayload payload hints requiredKeys = [] ↔
    (∀ key expected, hints.get? key = some expected →
      (∀ value, payload.get? key = some value → validatePayloadField key value expected = []) ∧
      (payload.get? key = none → ∃ required, requiredKeys = some required ∧ key ∉ required)) ∧
    ∀ key, payload.contains key = true → hints.contains key = true := by
  have declared : ∀ key expected, (match payload.get? key with
      | some value => validatePayloadField key value expected
      | none =>
        match requiredKeys with
        | some required => if key ∈ required then [missingFieldItem key expected] else []
        | none => [missingFieldItem key expected]) = [] ↔
      (∀ value, payload.get? key = some value → validatePayloadField key value expected = []) ∧
        (payload.get? key = none → ∃ required, requiredKeys = some required ∧ key ∉ required) := by
    intro key expected
    cases payload.get? key with
    | some value => simp
    | none => cases requiredKeys <;> simp
  rw [validatePayload, List.append_eq_nil_iff, List.flatMap_eq_nil_iff, List.map_eq_nil_iff, List.filter_eq_nil_iff]
  simp only [declared, Prod.forall, Dict.mem_entries, Bool.not_eq_true', Bool.not_eq_false, Dict.contains,
    Option.isSome_iff_exists]
  constructor
  · rintro ⟨checked, known⟩
    refine ⟨checked, ?_⟩
    rintro key ⟨value, found⟩
    exact known key value found
  · rintro ⟨checked, known⟩
    exact ⟨checked, fun key value found => known key ⟨value, found⟩⟩

end Payload

section Union

variable {V C : Type} [Objects V C] {value : V} {members others : List (Member V C)}
open Objects

/-- A member accepts a value on its own: a literal what equals one of its values and has its type, a class its
instances. `int` accepts a bool only where `bool` is a member too. -/
def Accepts (members : List (Member V C)) (value : V) : Member V C → Prop
  | .literal allowed => ∃ candidate ∈ allowed, equals value candidate = true ∧ typeOf value = typeOf candidate
  | .plain cls => isInstance value cls = true ∧
      (cls = int V → isInstance value (bool V) = true → bool V ∈ classes members)
  | .other => True

/-- Literals, classes and `None`. -/
def Checkable (members : List (Member V C)) : Prop := Member.other ∉ members

/-- Some literal accepts. -/
def Hit (members : List (Member V C)) (value : V) : Prop :=
  ∃ allowed, .literal allowed ∈ members ∧ Accepts members value (.literal allowed)

/-- A bool for a union with `int` and without `bool`. -/
def BoolAsInt (members : List (Member V C)) (value : V) : Prop :=
  isInstance value (bool V) = true ∧ int V ∈ classes members ∧ bool V ∉ classes members

/-- A bool as above that a literal or another class accepts. -/
def RefusedBool (members : List (Member V C)) (value : V) : Prop :=
  BoolAsInt members value ∧ (Hit members value ∨ ∃ cls ∈ classes members, cls ≠ int V ∧ isInstance value cls = true)

/-- The classes do not agree on the value. -/
def Divided (members : List (Member V C)) (value : V) : Prop :=
  (∃ cls ∈ classes members, isInstance value cls = true) ∧ ∃ cls ∈ classes members, isInstance value cls = false

/-- None of the classes before some literal accepts. -/
def Stops (members : List (Member V C)) (value : V) : Prop :=
  ∃ front allowed back, members = front ++ .literal allowed :: back ∧
    ∀ cls ∈ classes front, isInstance value cls = false

/-- No literal accepts, none of the classes before some literal does, and there are no classes at all or they do not
agree. -/
def Misread (members : List (Member V C)) (value : V) : Prop :=
  ¬ BoolAsInt members value ∧ ¬ Hit members value ∧ Stops members value ∧
    (classes members = [] ∨ Divided members value)

/-- Whether the classes before the literals or those behind them accept makes a difference. -/
def OrderMatters (members : List (Member V C)) (value : V) : Prop :=
  ¬ BoolAsInt members value ∧ ¬ Hit members value ∧ (∃ allowed, .literal allowed ∈ members) ∧ Divided members value

omit [Objects V C] in
theorem mem_classes {cls : C} : cls ∈ classes members ↔ .plain cls ∈ members := by
  rw [classes, List.mem_filterMap]
  constructor
  · rintro ⟨member, inside, is⟩
    cases member with
    | plain other =>
      cases is
      exact inside
    | literal | other => cases is
  · intro inside
    exact ⟨_, inside, rfl⟩

omit [Objects V C] in
theorem mem_literals {allowed : List V} : allowed ∈ literals members ↔ .literal allowed ∈ members := by
  rw [literals, List.mem_filterMap]
  constructor
  · rintro ⟨member, inside, is⟩
    cases member with
    | literal other =>
      cases is
      exact inside
    | plain | other => cases is
  · intro inside
    exact ⟨_, inside, rfl⟩

/-- In a list some, but not all, pass a test unless all do exactly when some does. -/
theorem all_iff_exists {α : Type} {list : List α} {test : α → Bool} :
    ((∀ entry ∈ list, test entry = true) ↔ ∃ entry ∈ list, test entry = true) ↔
      ¬ (list = [] ∨ ((∃ entry ∈ list, test entry = true) ∧ ∃ entry ∈ list, test entry = false)) := by
  constructor
  · rintro same (rfl | ⟨⟨first, inside, passes⟩, second, member, fails⟩)
    · simp at same
    · have all := same.mpr ⟨first, inside, passes⟩
      rw [all second member] at fails
      cases fails
  · intro unanimous
    rw [not_or, not_and_or] at unanimous
    obtain ⟨filled, none | none⟩ := unanimous
    · obtain ⟨first, inside⟩ := List.exists_mem_of_ne_nil _ filled
      exact ⟨fun all => ⟨first, inside, all first inside⟩, fun some => absurd some none⟩
    · have all : ∀ entry ∈ list, test entry = true := by
        intro entry inside
        by_contra fails
        exact none ⟨entry, inside, Bool.eq_false_iff.mpr fails⟩
      obtain ⟨first, inside⟩ := List.exists_mem_of_ne_nil _ filled
      exact ⟨fun _ => ⟨first, inside, all first inside⟩, fun _ => all⟩

/-- The scan stops without an answer at a literal that no accepting class stands before. -/
theorem isinstanceAny_none_iff (checkable : Checkable members) :
    isinstanceAny value members = none ↔ Stops members value := by
  induction members with
  | nil => simp [isinstanceAny, Stops]
  | cons member rest ih =>
    rw [Checkable, List.mem_cons, not_or] at checkable
    obtain ⟨known, later⟩ := checkable
    cases member with
    | other => exact absurd rfl known
    | literal allowed =>
      simp only [isinstanceAny, true_iff]
      exact ⟨[], allowed, rest, rfl, by simp [classes]⟩
    | plain cls =>
      rw [isinstanceAny]
      split
      · rename_i accepts
        simp only [reduceCtorEq, false_iff]
        rintro ⟨front, allowed, back, split, refuse⟩
        cases front with
        | nil => cases split
        | cons first more =>
          rw [List.cons_append, List.cons_eq_cons] at split
          have refused := refuse cls (mem_classes.mpr (split.1 ▸ List.mem_cons_self))
          rw [accepts] at refused
          cases refused
      · rename_i refuses
        rw [ih later]
        constructor
        · rintro ⟨front, allowed, back, rfl, refuse⟩
          refine ⟨.plain cls :: front, allowed, back, rfl, ?_⟩
          intro other inside
          rw [mem_classes, List.mem_cons] at inside
          rcases inside with same | inside
          · cases same
            exact Bool.eq_false_iff.mpr refuses
          · exact refuse other (mem_classes.mpr inside)
        · rintro ⟨front, allowed, back, split, refuse⟩
          cases front with
          | nil => cases split
          | cons first more =>
            rw [List.cons_append, List.cons_eq_cons] at split
            refine ⟨more, allowed, back, split.2, ?_⟩
            intro other inside
            exact refuse other (mem_classes.mpr (List.mem_cons_of_mem _ (mem_classes.mp inside)))

/-- An answer of the scan says whether some class accepts. -/
theorem isinstanceAny_some {answer : Bool} (checkable : Checkable members)
    (answers : isinstanceAny value members = some answer) :
    (answer = true ↔ ∃ cls ∈ classes members, isInstance value cls = true) ∧
      (answer = false → ∀ allowed, .literal allowed ∉ members) := by
  induction members with
  | nil =>
    cases answers
    simp [classes]
  | cons member rest ih =>
    rw [Checkable, List.mem_cons, not_or] at checkable
    obtain ⟨known, later⟩ := checkable
    cases member with
    | other => cases answers
    | literal allowed => cases answers
    | plain cls =>
      rw [isinstanceAny] at answers
      split at answers
      · rename_i accepts
        cases answers
        exact ⟨⟨fun _ => ⟨cls, mem_classes.mpr List.mem_cons_self, accepts⟩, fun _ => rfl⟩, fun no => by cases no⟩
      · rename_i refuses
        obtain ⟨found, none⟩ := ih later answers
        constructor
        · rw [found]
          simp only [mem_classes, List.mem_cons]
          constructor
          · rintro ⟨other, inside, accepts⟩
            exact ⟨other, .inr inside, accepts⟩
          · rintro ⟨other, same | inside, accepts⟩
            · cases same
              exact absurd accepts refuses
            · exact ⟨other, inside, accepts⟩
        · intro no allowed inside
          rw [List.mem_cons] at inside
          rcases inside with same | inside
          · cases same
          · exact none no allowed inside

/-- What the members accept on their own, where no bool stands for an `int`. -/
theorem exists_accepts_iff (checkable : Checkable members) (usual : ¬ BoolAsInt members value) :
    (∃ member ∈ members, Accepts members value member) ↔
      Hit members value ∨ ∃ cls ∈ classes members, isInstance value cls = true := by
  constructor
  · rintro ⟨member, inside, accepts⟩
    cases member with
    | literal allowed => exact .inl ⟨allowed, inside, accepts⟩
    | plain cls => exact .inr ⟨cls, mem_classes.mpr inside, accepts.1⟩
    | other => exact absurd inside checkable
  · rintro (⟨allowed, inside, accepts⟩ | ⟨cls, inside, accepts⟩)
    · exact ⟨_, inside, accepts⟩
    · refine ⟨.plain cls, mem_classes.mp inside, accepts, ?_⟩
      rintro rfl isBool
      by_contra missing
      exact usual ⟨isBool, inside, missing⟩

theorem exists_accepts_bool_iff (checkable : Checkable members) (confused : BoolAsInt members value) :
    (∃ member ∈ members, Accepts members value member) ↔
      Hit members value ∨ ∃ cls ∈ classes members, cls ≠ int V ∧ isInstance value cls = true := by
  constructor
  · rintro ⟨member, inside, accepts⟩
    cases member with
    | literal allowed => exact .inl ⟨allowed, inside, accepts⟩
    | plain cls =>
      refine .inr ⟨cls, mem_classes.mpr inside, ?_, accepts.1⟩
      intro isInt
      exact confused.2.2 (accepts.2 isInt confused.1)
    | other => exact absurd inside checkable
  · rintro (⟨allowed, inside, accepts⟩ | ⟨cls, inside, different, accepts⟩)
    · exact ⟨_, inside, accepts⟩
    · exact ⟨.plain cls, mem_classes.mp inside, accepts, fun isInt => absurd isInt different⟩

omit [Objects V C] in
theorem mem_classes_perm (perm : others.Perm members) (cls : C) : cls ∈ classes others ↔ cls ∈ classes members := by
  rw [mem_classes, mem_classes, perm.mem_iff]

theorem hit_perm (perm : others.Perm members) : Hit others value ↔ Hit members value := by
  simp only [Hit, Accepts, perm.mem_iff]

theorem boolAsInt_perm (perm : others.Perm members) : BoolAsInt others value ↔ BoolAsInt members value := by
  simp only [BoolAsInt, mem_classes_perm perm]

theorem stops_of_literal_first (allowed : List V) : Stops (.literal allowed :: members) value :=
  ⟨[], allowed, members, rfl, by simp [classes]⟩

theorem not_stops_of_plain_first {cls : C} (accepts : isInstance value cls = true) :
    ¬ Stops (.plain cls :: members) value := by
  rintro ⟨front, allowed, back, split, refuse⟩
  cases front with
  | nil => cases split
  | cons first more =>
    rw [List.cons_append, List.cons_eq_cons] at split
    have refused := refuse cls (mem_classes.mpr (split.1 ▸ List.mem_cons_self))
    rw [accepts] at refused
    cases refused

/-- Where no class accepts, the scan stops at any literal. -/
theorem stops_of_refused (refused : ∀ cls ∈ classes members, isInstance value cls = false) {allowed : List V}
    (inside : .literal allowed ∈ members) : Stops members value := by
  obtain ⟨front, back, split⟩ := List.append_of_mem inside
  refine ⟨front, allowed, back, split, ?_⟩
  intro cls member
  rw [mem_classes] at member
  exact refused cls (mem_classes.mpr (by simp [split, member]))

theorem exists_literal_of_stops (stops : Stops members value) : ∃ allowed, .literal allowed ∈ members := by
  obtain ⟨front, allowed, back, split, -⟩ := stops
  exact ⟨allowed, by simp [split]⟩

/-- Any member can stand in front. -/
theorem exists_perm_front {α : Type} {list : List α} {entry : α} (inside : entry ∈ list) :
    ∃ rest, (entry :: rest).Perm list := by
  obtain ⟨front, back, split⟩ := List.append_of_mem inside
  exact ⟨front ++ back, split ▸ List.perm_middle.symm⟩

variable [DecidableEq C]

theorem matchesLiteral_iff {allowed : List V} :
    matchesLiteral value allowed = true ↔ Accepts members value (.literal allowed) := by
  simp [matchesLiteral, Accepts]

theorem any_literals_iff : (literals members).any (matchesLiteral value) = true ↔ Hit members value := by
  rw [List.any_eq_true]
  constructor
  · rintro ⟨allowed, inside, same⟩
    exact ⟨allowed, mem_literals.mp inside, matchesLiteral_iff.mp same⟩
  · rintro ⟨allowed, inside, accepts⟩
    exact ⟨allowed, mem_literals.mpr inside, matchesLiteral_iff.mpr accepts⟩

theorem fallback_iff (checkable : Checkable members) : isinstanceWithLiteralFallback value members = true ↔
    Hit members value ∨ (Stops members value ∧ ∀ cls ∈ classes members, isInstance value cls = true) ∨
      (¬ Stops members value ∧ ∃ cls ∈ classes members, isInstance value cls = true) := by
  unfold isinstanceWithLiteralFallback
  cases answers : isinstanceAny value members with
  | none =>
    have stops : Stops members value := (isinstanceAny_none_iff checkable).mp answers
    have filled : (literals members).isEmpty = false := by
      obtain ⟨front, allowed, back, split, -⟩ := stops
      have inside : allowed ∈ literals members := mem_literals.mpr (by simp [split])
      exact List.isEmpty_eq_false_iff.mpr (List.ne_nil_of_mem inside)
    dsimp only
    rw [filled, if_neg Bool.false_ne_true]
    by_cases hit : Hit members value
    · rw [if_pos (any_literals_iff.mpr hit)]
      simp [hit]
    · rw [if_neg (mt any_literals_iff.mp hit), isinstanceAllNonLiteral, List.all_eq_true]
      simp [hit, stops]
  | some answer =>
    have passes : ¬ Stops members value := by
      rw [← isinstanceAny_none_iff checkable, answers]
      exact nofun
    obtain ⟨accepts, unmixed⟩ := isinstanceAny_some checkable answers
    dsimp only
    cases answer with
    | true => simp [passes, accepts.mp rfl]
    | false =>
      have unhit : ¬ Hit members value := by
        rintro ⟨allowed, inside, -⟩
        exact unmixed rfl allowed inside
      simp only [Bool.false_eq_true, false_iff] at accepts
      simp [unhit, passes, accepts]

theorem boolInIntOnlyUnion_iff : boolInIntOnlyUnion value members = true ↔ BoolAsInt members value := by
  simp [boolInIntOnlyUnion, BoolAsInt, and_assoc]

theorem validate_union_iff (checkable : Checkable members) (key text name : String) :
    validatePayloadField key value ⟨.union members, text, name⟩ = [] ↔
      ¬ BoolAsInt members value ∧
        (Hit members value ∨ (Stops members value ∧ ∀ cls ∈ classes members, isInstance value cls = true) ∨
          (¬ Stops members value ∧ ∃ cls ∈ classes members, isInstance value cls = true)) := by
  rw [← fallback_iff checkable, ← boolInIntOnlyUnion_iff, validatePayloadField]
  dsimp only
  split
  · rename_i accepted
    simp only [Bool.and_eq_true, Bool.not_eq_true'] at accepted
    simp [accepted]
  · rename_i refused
    simp only [Bool.and_eq_true, Bool.not_eq_true'] at refused
    simp only [List.cons_ne_nil, false_iff]
    rintro ⟨other, valid⟩
    exact refused ⟨valid, Bool.eq_false_iff.mpr other⟩

/-- A union is judged as its members judge on their own unless a bool is refused or the union is misread. -/
theorem validate_agrees_iff (checkable : Checkable members) (key text name : String) :
    (validatePayloadField key value ⟨.union members, text, name⟩ = [] ↔
        ∃ member ∈ members, Accepts members value member) ↔
      ¬ RefusedBool members value ∧ ¬ Misread members value := by
  rw [validate_union_iff checkable]
  by_cases confused : BoolAsInt members value
  · rw [exists_accepts_bool_iff checkable confused]
    simp [RefusedBool, Misread, confused]
  · rw [exists_accepts_iff checkable confused]
    by_cases hit : Hit members value
    · simp [RefusedBool, Misread, confused, hit]
    · by_cases stops : Stops members value
      · simp only [confused, hit, stops, not_false_eq_true, true_and, not_true_eq_false, false_and, or_false, false_or,
          RefusedBool, Misread, Divided]
        exact all_iff_exists
      · simp [RefusedBool, Misread, confused, hit, stops]

/-- The verdict is the same for every order of the members exactly when the order does not matter. -/
theorem order_irrelevant_iff (checkable : Checkable members) (key text name : String) :
    (∀ others : List (Member V C), others.Perm members →
      (validatePayloadField key value ⟨.union others, text, name⟩ = [] ↔
        validatePayloadField key value ⟨.union members, text, name⟩ = [])) ↔ ¬ OrderMatters members value := by
  have judged : ∀ others : List (Member V C), others.Perm members →
      (validatePayloadField key value ⟨.union others, text, name⟩ = [] ↔ ¬ BoolAsInt members value ∧
        (Hit members value ∨ (Stops others value ∧ ∀ cls ∈ classes members, isInstance value cls = true) ∨
          (¬ Stops others value ∧ ∃ cls ∈ classes members, isInstance value cls = true))) := by
    intro others perm
    rw [validate_union_iff (mt perm.mem_iff.mp checkable), boolAsInt_perm perm, hit_perm perm]
    simp only [mem_classes_perm perm]
  constructor
  · rintro same ⟨usual, unhit, ⟨allowed, inside⟩, ⟨cls, member, accepts⟩, other, listed, refuses⟩
    have mixed : ¬ ∀ cls ∈ classes members, isInstance value cls = true := by
      intro all
      rw [all other listed] at refuses
      cases refuses
    obtain ⟨later, literalFirst⟩ := exists_perm_front inside
    obtain ⟨behind, classFirst⟩ := exists_perm_front (mem_classes.mp member)
    have rejected := mt (judged _ literalFirst).mp (by simp [unhit, stops_of_literal_first, mixed])
    have accepted := (judged _ classFirst).mpr
      ⟨usual, .inr (.inr ⟨not_stops_of_plain_first accepts, cls, member, accepts⟩)⟩
    exact rejected ((same _ literalFirst).mpr ((same _ classFirst).mp accepted))
  · intro settled others perm
    rw [judged others perm, judged members .rfl]
    by_cases confused : BoolAsInt members value
    · simp [confused]
    by_cases hit : Hit members value
    · simp [hit]
    have stopsOf : ∀ others : List (Member V C), others.Perm members → Stops others value →
        ∃ allowed, .literal allowed ∈ members := by
      intro others perm stops
      obtain ⟨allowed, inside⟩ := exists_literal_of_stops stops
      exact ⟨allowed, perm.mem_iff.mp inside⟩
    by_cases some : ∃ cls ∈ classes members, isInstance value cls = true
    · by_cases all : ∀ cls ∈ classes members, isInstance value cls = true
      · have accepted : ∀ stops : Prop, (stops ∧ ∀ cls ∈ classes members, isInstance value cls = true) ∨
            (¬ stops ∧ ∃ cls ∈ classes members, isInstance value cls = true) := by
          intro stops
          by_cases holds : stops
          · exact .inl ⟨holds, all⟩
          · exact .inr ⟨holds, some⟩
        simp only [accepted]
      · have divided : Divided members value := by
          refine ⟨some, ?_⟩
          simp only [not_forall] at all
          obtain ⟨cls, inside, refuses⟩ := all
          exact ⟨cls, inside, Bool.eq_false_iff.mpr refuses⟩
        have plain : ∀ others : List (Member V C), others.Perm members → ¬ Stops others value := by
          intro others perm stops
          exact settled ⟨confused, hit, stopsOf others perm stops, divided⟩
        simp [plain others perm, plain members .rfl]
    · have refused : ∀ cls ∈ classes members, isInstance value cls = false := by
        intro cls inside
        exact Bool.eq_false_iff.mpr fun accepts => some ⟨cls, inside, accepts⟩
      have stopsIff : ∀ others : List (Member V C), others.Perm members →
          (Stops others value ↔ ∃ allowed, .literal allowed ∈ members) := by
        intro others perm
        refine ⟨stopsOf others perm, ?_⟩
        rintro ⟨allowed, inside⟩
        have none : ∀ cls ∈ classes others, isInstance value cls = false := by
          intro cls listed
          exact refused cls ((mem_classes_perm perm cls).mp listed)
        exact stops_of_refused none (perm.mem_iff.mpr inside)
      rw [stopsIff others perm, stopsIff members .rfl]

/-- A field whose type is a union of literals, classes and `None` is judged as its members judge on their own exactly
when no bool is refused that a literal or another class accepts, and the union is not misread. Its verdict is the same
for every order of the members exactly when the order does not matter. -/
theorem union_means_union_iff (checkable : Checkable members) (key text name : String) :
    ((validatePayloadField key value ⟨.union members, text, name⟩ = [] ↔
        ∃ member ∈ members, Accepts members value member) ↔
      ¬ RefusedBool members value ∧ ¬ Misread members value) ∧
    ((∀ others : List (Member V C), others.Perm members →
      (validatePayloadField key value ⟨.union others, text, name⟩ = [] ↔
        validatePayloadField key value ⟨.union members, text, name⟩ = [])) ↔ ¬ OrderMatters members value) :=
  ⟨validate_agrees_iff checkable key text name, order_irrelevant_iff checkable key text name⟩

end Union

section Sample
open Models

/-- Numbers are equal across their classes, and so are bools to numbers. -/
def number? : Json → Option ℚ
  | .bool value => some (if value then 1 else 0)
  | .int value => some value
  | .float value => some value
  | _ => none

/-- JSON values and their classes, by name. `==` is only the one for values that a literal may allow. -/
local instance : Objects Json String where
  typeOf := Json.typeName
  equals value other :=
    match number? value, number? other with
    | some left, some right => decide (left = right)
    | _, _ => decide (value = other)
  isInstance value cls := decide (value.typeName = cls ∨ (cls = "int" ∧ value.typeName = "bool"))
  className cls := cls
  int := "int"
  bool := "bool"

/-- A number passes as `Literal["a", "b"] | int`. -/
theorem number_accepted : validatePayloadField "mode" (Json.int 7)
      ⟨.union [.literal [.str "a", .str "b"], .plain "int"], "Literal['a', 'b'] | int", "Union"⟩ = [] ↔
    ∃ member ∈ [Member.literal [Json.str "a", .str "b"], .plain "int"],
      Accepts [Member.literal [Json.str "a", .str "b"], .plain "int"] (Json.int 7) member := by
  refine (union_means_union_iff ?_ _ _ _).1.mpr ⟨?_, ?_⟩
  · simp [Checkable]
  · rintro ⟨⟨isBool, -⟩, -⟩
    revert isBool
    decide
  · rintro ⟨-, -, -, empty | ⟨-, cls, inside, refuses⟩⟩
    · cases empty
    · have isInt : cls = "int" := List.mem_singleton.mp inside
      rw [isInt] at refuses
      revert refuses
      decide

/-- No number passes as `Literal["a"] | int | None`, as it is not an instance of both classes. -/
theorem optional_number_refused : ¬ ∀ (members : List (Member Json String)) (value : Json), Checkable members →
    (validatePayloadField "mode" value ⟨.union members, "Literal['a'] | int | None", "Union"⟩ = [] ↔
      ∃ member ∈ members, Accepts members value member) := by
  intro all
  have judged := all [.literal [.str "a"], .plain "int", .plain "NoneType"] (.int 3) (by simp [Checkable])
  have refused := judged.mpr ⟨.plain "int", by simp, by decide, fun _ isBool => absurd isBool (by decide)⟩
  revert refused
  decide

end Sample

end Tasklite.Engine.Payload
