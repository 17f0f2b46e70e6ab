import Mathlib.Algebra.Group.Nat.Defs
import Mathlib.Data.Rat.Defs
import Tasklite.Library.Dict

/-! JSON values as the interpreter holds them after `loads`: integers of any size,
finite floats (`loads` refuses every other one), text, lists and objects. -/

namespace Tasklite.Models
open Tasklite.Library

inductive Json where
  | null
  | bool (value : Bool)
  | int (value : Int)
  | float (value : ℚ)
  | str (value : String)
  | arr (items : List Json)
  | obj (fields : List (String × Json))

namespace Json

/-- The name of a value's class, as `type(value).__name__` prints it. -/
def typeName : Json → String
  | .null => "NoneType"
  | .bool _ => "bool"
  | .int _ => "int"
  | .float _ => "float"
  | .str _ => "str"
  | .arr _ => "list"
  | .obj _ => "dict"

/-- What a condition takes a value for: empty values and zeros count as false. -/
def truthy : Json → Bool
  | .null | .bool false | .int 0 | .str "" | .arr [] | .obj [] => false
  | .float q => q ≠ 0
  | _ => true

mutual

def decEq : (left right : Json) → Decidable (left = right)
  | .null, .null => isTrue rfl
  | .bool a, .bool b => decidable_of_iff (a = b) (by simp)
  | .int a, .int b => decidable_of_iff (a = b) (by simp)
  | .float a, .float b => decidable_of_iff (a = b) (by simp)
  | .str a, .str b => decidable_of_iff (a = b) (by simp)
  | .arr a, .arr b =>
      match decEqItems a b with
      | isTrue same => isTrue (by rw [same])
      | isFalse different => isFalse (by simpa using different)
  | .obj a, .obj b =>
      match decEqFields a b with
      | isTrue same => isTrue (by rw [same])
      | isFalse different => isFalse (by simpa using different)
  | .null, .bool _ | .null, .int _ | .null, .float _ | .null, .str _ | .null, .arr _ | .null, .obj _
  | .bool _, .null | .bool _, .int _ | .bool _, .float _ | .bool _, .str _ | .bool _, .arr _
  | .bool _, .obj _ | .int _, .null | .int _, .bool _ | .int _, .float _ | .int _, .str _
  | .int _, .arr _ | .int _, .obj _ | .float _, .null | .float _, .bool _ | .float _, .int _
  | .float _, .str _ | .float _, .arr _ | .float _, .obj _ | .str _, .null | .str _, .bool _
  | .str _, .int _ | .str _, .float _ | .str _, .arr _ | .str _, .obj _ | .arr _, .null
  | .arr _, .bool _ | .arr _, .int _ | .arr _, .float _ | .arr _, .str _ | .arr _, .obj _
  | .obj _, .null | .obj _, .bool _ | .obj _, .int _ | .obj _, .float _ | .obj _, .str _
  | .obj _, .arr _ => isFalse (by simp)

def decEqItems : (left right : List Json) → Decidable (left = right)
  | [], [] => isTrue rfl
  | [], _ :: _ => isFalse (by simp)
  | _ :: _, [] => isFalse (by simp)
  | a :: as, b :: bs =>
      match decEq a b, decEqItems as bs with
      | isTrue same, isTrue rest => isTrue (by rw [same, rest])
      | isFalse different, _ => isFalse (by simp [different])
      | _, isFalse different => isFalse (by simp [different])

def decEqFields : (left right : List (String × Json)) → Decidable (left = right)
  | [], [] => isTrue rfl
  | [], _ :: _ => isFalse (by simp)
  | _ :: _, [] => isFalse (by simp)
  | (k, a) :: as, (j, b) :: bs =>
      match decEq a b, decEqFields as bs with
      | isTrue same, isTrue rest => decidable_of_iff (k = j) (by simp [same, rest])
      | isFalse different, _ => isFalse (by simp [different])
      | _, isFalse different => isFalse (by simp [different])

end

instance : DecidableEq Json := decEq

instance : Inhabited Json := ⟨.null⟩

end Json

/-- A decoded JSON object: the shape of a job snapshot and of a metadata record. -/
abbrev Record := Dict String Json

namespace Record

/-- `record.get(key)`: an absent key and a null one read alike. -/
def get (record : Record) (key : String) : Json := (record.get? key).getD .null

theorem get_set_self (record : Record) (key : String) (value : Json) :
    get (record.set key value) key = value := by
  simp [get]

theorem get_set_of_ne (record : Record) {key other : String} (value : Json) (different : other ≠ key) :
    get (record.set key value) other = get record other := by
  simp [get, Dict.get?_set_of_ne _ _ different]

end Record

/-- The parts of the interpreter's own library whose results are only stored or compared:
`str` and `repr` of values, `int` of a text, a number printed with a fixed number of decimals, the
SHA-256 digest of a record's sorted JSON, and the order in which a set gives back what was put in. -/
class Python where
  str : Json → String
  repr : Json → String
  int? : String → Option Int
  fixed : ℕ → ℚ → String
  sha256 : Record → String
  setOrder : List String → List String
  setOrder_perm : ∀ texts, (setOrder texts).Perm texts

/-- The library as far as samples use it that print nothing and digest nothing. -/
@[reducible] def Python.sample : Python where
  str := fun _ => "None"
  repr := fun _ => "None"
  int? := fun _ => none
  fixed := fun _ _ => "0"
  sha256 := fun _ => ""
  setOrder := fun texts => texts
  setOrder_perm := fun _ => List.Perm.refl _

/-- An f-string field: text stands as it is, every other value goes through `str`. -/
def format [Python] : Json → String
  | .str text => text
  | value => Python.str value

/-- The exceptions that the model layer raises. -/
inductive PyError where
  | keyError (key : String)
  | typeError (message : String)
  | valueError (message : String)
deriving DecidableEq, Repr

/-- A number of a JSON document with its class: `1` and `1.0` are written differently. -/
inductive Number where
  | int (value : Int)
  | float (value : ℚ)
deriving DecidableEq

namespace Number

def value : Number → ℚ
  | .int n => n
  | .float q => q

def toJson : Number → Json
  | .int n => .int n
  | .float q => .float q

/-- Numbers of either class, `bool` excluded. -/
def ofJson : Json → Option Number
  | .int n => some (.int n)
  | .float q => some (.float q)
  | _ => none

/-- `math.isfinite` with the overflow of a huge `int` read as "not finite". The bound is the
first integer that rounds above the largest double. -/
def isFinite : Number → Bool
  | .int n => decide (n.natAbs < 2 ^ 1024 - 2 ^ 970)
  | .float _ => true

end Number

end Tasklite.Models
