import Tasklite.Models.Json

/-! What a handler returns on its way to the scheduler. The value is dumped as JSON and
loaded again, a tuple at its top marked by a sentinel; both sides read a success flag and
metadata off it. -/

namespace Tasklite.Engine.Transport
open Tasklite.Library Tasklite.Models

/-- The interpreter's limit on the digits of an integer it prints; 0 is no limit. -/
class IntDigits where
  maxStrDigits : ℕ

/-- Keys of a dictionary, as far as the encoder tells them apart. -/
inductive Key where
  | text (value : String)
  | int (value : Int)
  | float (value : ℚ)
  | nonFinite
  | bool (value : Bool)
  | null
  | other (typeName : String)
deriving DecidableEq

/-- Values of the interpreter, as far as the encoder tells them apart. -/
inductive Value where
  | null
  | bool (value : Bool)
  | int (value : Int)
  | float (value : ℚ)
  | nonFinite
  | str (value : String)
  | list (items : List Value)
  | tuple (items : List Value)
  | dict (fields : List (Key × Value))
  | other (name : String)

namespace Value

/-- Induction over a value and what it holds. -/
theorem induct {holds : Value → Prop} (null : holds .null) (bool : ∀ value, holds (.bool value))
    (int : ∀ value, holds (.int value)) (float : ∀ value, holds (.float value)) (nonFinite : holds .nonFinite)
    (str : ∀ value, holds (.str value)) (list : ∀ items, (∀ item ∈ items, holds item) → holds (.list items))
    (tuple : ∀ items, (∀ item ∈ items, holds item) → holds (.tuple items))
    (dict : ∀ fields, (∀ field ∈ fields, holds field.2) → holds (.dict fields))
    (other : ∀ name, holds (.other name)) : ∀ value, holds value
  | .null => null
  | .bool value => bool value
  | .int value => int value
  | .float value => float value
  | .nonFinite => nonFinite
  | .str value => str value
  | .list items => list items fun item _ =>
      induct null bool int float nonFinite str list tuple dict other item
  | .tuple items => tuple items fun item _ =>
      induct null bool int float nonFinite str list tuple dict other item
  | .dict fields => dict fields fun field _ =>
      induct null bool int float nonFinite str list tuple dict other field.2
  | .other name => other name
termination_by value => sizeOf value
decreasing_by
  all_goals simp_wf
  · have := List.sizeOf_lt_of_mem ‹_›
    omega
  · have := List.sizeOf_lt_of_mem ‹_›
    omega
  · have := List.sizeOf_lt_of_mem ‹field ∈ fields›
    have inner : sizeOf field.2 < sizeOf field := by
      obtain ⟨key, value⟩ := field
      change sizeOf value < sizeOf (key, value)
      rw [Prod.mk.sizeOf_spec]
      omega
    omega

def typeName : Value → String
  | .null => "NoneType"
  | .bool _ => "bool"
  | .int _ => "int"
  | .float _ | .nonFinite => "float"
  | .str _ => "str"
  | .list _ => "list"
  | .tuple _ => "tuple"
  | .dict _ => "dict"
  | .other name => name

end Value

section Dumps

variable [IntDigits]

/-- More digits than the interpreter prints. -/
def tooLong (n : Int) : Bool :=
  decide (IntDigits.maxStrDigits ≠ 0 ∧ 10 ^ IntDigits.maxStrDigits ≤ n.natAbs)

def tooLongText : String :=
  "Exceeds the limit (" ++ toString IntDigits.maxStrDigits ++
    " digits) for integer string conversion; use sys.set_int_max_str_digits() to increase the limit"

def nonFiniteText : String := "Out of range float values are not JSON compliant"

def Key.refusal : Key → Option String
  | .int n => if tooLong n then some tooLongText else none
  | .nonFinite => some nonFiniteText
  | .other name => some ("keys must be str, int, float, bool or None, not " ++ name)
  | _ => none

mutual

/-- What `dumps` raises, if it does: the error of the first part that it cannot write. -/
def refusal : Value → Option String
  | .int n => if tooLong n then some tooLongText else none
  | .nonFinite => some nonFiniteText
  | .list items | .tuple items => refusalItems items
  | .dict fields => refusalFields fields
  | .other name => some ("Object of type " ++ name ++ " is not JSON serializable")
  | _ => none

def refusalItems : List Value → Option String
  | [] => none
  | item :: rest => (refusal item).or (refusalItems rest)

def refusalFields : List (Key × Value) → Option String
  | [] => none
  | (key, value) :: rest => (key.refusal.or (refusal value)).or (refusalFields rest)

end

theorem refusalItems_eq_none {items : List Value} :
    refusalItems items = none ↔ ∀ item ∈ items, refusal item = none := by
  induction items with
  | nil => simp [refusalItems]
  | cons item rest ih => simp [refusalItems, ih]

theorem refusalFields_eq_none {fields : List (Key × Value)} :
    refusalFields fields = none ↔ ∀ field ∈ fields, field.1.refusal = none ∧ refusal field.2 = none := by
  induction fields with
  | nil => simp [refusalFields]
  | cons field rest ih => simp [refusalFields, ih, and_assoc]

end Dumps

section Loads

variable [Python]

/-- The text that the encoder writes for a key. -/
def Key.written : Key → String
  | .text value => value
  | .int n => toString n
  | .float q => Python.repr (.float q)
  | .bool true => "true"
  | .bool false => "false"
  | .null => "null"
  -- refused before
  | .nonFinite | .other _ => ""

mutual

/-- What `loads` makes of what `dumps` wrote: tuples are lists and keys are text; the last of two keys
that are written alike stands. -/
def reloaded : Value → Json
  | .null => .null
  | .bool value => .bool value
  | .int value => .int value
  | .float value => .float value
  | .str value => .str value
  | .list items | .tuple items => .arr (reloadedItems items)
  | .dict fields => .obj (Dict.ofPairs (reloadedFields fields)).entries
  -- refused before
  | .nonFinite | .other _ => .null

def reloadedItems : List Value → List Json
  | [] => []
  | item :: rest => reloaded item :: reloadedItems rest

def reloadedFields : List (Key × Value) → List (String × Json)
  | [] => []
  | (key, value) :: rest => (key.written, reloaded value) :: reloadedFields rest

end

theorem reloadedItems_eq (items : List Value) : reloadedItems items = items.map reloaded := by
  induction items with
  | nil => rfl
  | cons item rest ih => rw [reloadedItems, ih, List.map_cons]

theorem reloadedFields_eq (fields : List (Key × Value)) :
    reloadedFields fields = fields.map fun field => (field.1.written, reloaded field.2) := by
  induction fields with
  | nil => rfl
  | cons field rest ih => rw [reloadedFields, ih, List.map_cons]

/-- A value through `dumps` and `loads`. -/
def loadsDumps [IntDigits] (value : Value) : Except String Json :=
  match refusal value with
  | some text => .error text
  | none => .ok (reloaded value)

end Loads

mutual

/-- A loaded value as the interpreter holds it. -/
def ofJson : Json → Value
  | .null => .null
  | .bool value => .bool value
  | .int value => .int value
  | .float value => .float value
  | .str value => .str value
  | .arr items => .list (ofItems items)
  | .obj fields => .dict (ofFields fields)

def ofItems : List Json → List Value
  | [] => []
  | item :: rest => ofJson item :: ofItems rest

def ofFields : List (String × Json) → List (Key × Value)
  | [] => []
  | (key, value) :: rest => (.text key, ofJson value) :: ofFields rest

end

theorem ofItems_eq (items : List Json) : ofItems items = items.map ofJson := by
  induction items with
  | nil => rfl
  | cons item rest ih => rw [ofItems, ih, List.map_cons]

theorem ofFields_eq (fields : List (String × Json)) :
    ofFields fields = fields.map fun field => (.text field.1, ofJson field.2) := by
  induction fields with
  | nil => rfl
  | cons field rest ih => rw [ofFields, ih, List.map_cons]

section Shape

mutual

/-- The value with lists for its tuples, at every depth. -/
def asLists : Value → Value
  | .list items | .tuple items => .list (asListsItems items)
  | .dict fields => .dict (asListsFields fields)
  | value => value

def asListsItems : List Value → List Value
  | [] => []
  | item :: rest => asLists item :: asListsItems rest

def asListsFields : List (Key × Value) → List (Key × Value)
  | [] => []
  | (key, value) :: rest => (key, asLists value) :: asListsFields rest

end

theorem asListsItems_eq (items : List Value) : asListsItems items = items.map asLists := by
  induction items with
  | nil => rfl
  | cons item rest ih => rw [asListsItems, ih, List.map_cons]

theorem asListsFields_eq (fields : List (Key × Value)) :
    asListsFields fields = fields.map fun field => (field.1, asLists field.2) := by
  induction fields with
  | nil => rfl
  | cons field rest ih => rw [asListsFields, ih, List.map_cons]

mutual

/-- A test on the keys of every dictionary in a value. -/
def Everywhere (test : List Key → Prop) : Value → Prop
  | .list items | .tuple items => EverywhereItems test items
  | .dict fields => test (fields.map Prod.fst) ∧ EverywhereFields test fields
  | _ => True

def EverywhereItems (test : List Key → Prop) : List Value → Prop
  | [] => True
  | item :: rest => Everywhere test item ∧ EverywhereItems test rest

def EverywhereFields (test : List Key → Prop) : List (Key × Value) → Prop
  | [] => True
  | (_, value) :: rest => Everywhere test value ∧ EverywhereFields test rest

end

variable {test : List Key → Prop}

theorem everywhereItems_iff {items : List Value} :
    EverywhereItems test items ↔ ∀ item ∈ items, Everywhere test item := by
  induction items with
  | nil => simp [EverywhereItems]
  | cons item rest ih => simp [EverywhereItems, ih]

theorem everywhereFields_iff {fields : List (Key × Value)} :
    EverywhereFields test fields ↔ ∀ field ∈ fields, Everywhere test field.2 := by
  induction fields with
  | nil => simp [EverywhereFields]
  | cons field rest ih => simp [EverywhereFields, ih]

/-- The keys of a dictionary are distinct. -/
def Proper : Value → Prop := Everywhere List.Nodup

/-- The keys of all dictionaries are text. -/
def TextKeys : Value → Prop := Everywhere fun keys => ∀ key ∈ keys, ∃ text, key = .text text

theorem everywhere_asLists (value : Value) : Everywhere test (asLists value) ↔ Everywhere test value := by
  induction value using Value.induct with
  | list items ih | tuple items ih =>
    simp only [asLists, Everywhere, asListsItems_eq, everywhereItems_iff, List.forall_mem_map]
    exact forall₂_congr ih
  | dict fields ih =>
    have keys : (asListsFields fields).map Prod.fst = fields.map Prod.fst := by
      rw [asListsFields_eq, List.map_map]
      rfl
    simp only [asLists, Everywhere, keys]
    simp only [asListsFields_eq, everywhereFields_iff, List.forall_mem_map]
    exact and_congr_right fun _ => forall₂_congr ih
  | _ => rfl

end Shape

section Reload

variable [Python]

theorem mem_reloaded {fields : List (Key × Value)} {entry : String × Json}
    (member : entry ∈ (Dict.ofPairs (reloadedFields fields)).entries) :
    ∃ field ∈ fields, reloaded field.2 = entry.2 := by
  have written := Dict.mem_of_get?_ofPairs (Dict.mem_entries.mp member)
  rw [reloadedFields_eq] at written
  obtain ⟨field, place, same⟩ := List.mem_map.mp written
  exact ⟨field, place, congrArg Prod.snd same⟩

/-- Whatever is loaded has text for keys. -/
theorem textKeys_ofJson_reloaded (value : Value) : TextKeys (ofJson (reloaded value)) := by
  induction value using Value.induct with
  | list items ih | tuple items ih =>
    simp only [TextKeys, reloaded, ofJson, Everywhere, ofItems_eq, reloadedItems_eq, everywhereItems_iff,
      List.forall_mem_map]
    exact ih
  | dict fields ih =>
    simp only [TextKeys, reloaded, ofJson, Everywhere, ofFields_eq, everywhereFields_iff, List.forall_mem_map]
    refine ⟨fun field _ => ⟨_, rfl⟩, ?_⟩
    intro entry member
    obtain ⟨field, place, same⟩ := mem_reloaded member
    rw [← same]
    exact ih field place
  | _ => trivial

/-- What has been dumped once can be dumped again. -/
theorem refusal_ofJson_reloaded [IntDigits] (value : Value) (sent : refusal value = none) :
    refusal (ofJson (reloaded value)) = none := by
  induction value using Value.induct with
  | list items ih | tuple items ih =>
    rw [refusal, refusalItems_eq_none] at sent
    simp only [reloaded, ofJson, refusal, ofItems_eq, reloadedItems_eq, refusalItems_eq_none, List.forall_mem_map]
    exact fun item member => ih item member (sent item member)
  | dict fields ih =>
    rw [refusal, refusalFields_eq_none] at sent
    simp only [reloaded, ofJson, refusal, ofFields_eq, refusalFields_eq_none, List.forall_mem_map]
    intro entry member
    obtain ⟨field, place, same⟩ := mem_reloaded member
    refine ⟨rfl, ?_⟩
    rw [← same]
    exact ih field place (sent field place).2
  | int value => exact sent
  | _ => rfl

/-- A dictionary with distinct text keys is loaded as it was. -/
theorem entries_reloaded {fields : List (Key × Value)} (distinct : (fields.map Prod.fst).Nodup)
    (texts : ∀ key ∈ fields.map Prod.fst, ∃ text, key = Key.text text) :
    (Dict.ofPairs (reloadedFields fields)).entries = reloadedFields fields := by
  apply Dict.entries_ofPairs
  rw [reloadedFields_eq, List.map_map]
  have written : (Prod.fst ∘ fun field : Key × Value => (field.1.written, reloaded field.2)) =
      Key.written ∘ Prod.fst := rfl
  rw [written, ← List.map_map]
  refine List.Nodup.map_on ?_ distinct
  intro key member other present same
  obtain ⟨text, rfl⟩ := texts key member
  obtain ⟨otherText, rfl⟩ := texts other present
  exact congrArg Key.text same

/-- The value comes back with lists for tuples exactly if its keys were text. -/
theorem ofJson_reloaded_iff [IntDigits] {value : Value} (proper : Proper value) (sent : refusal value = none) :
    ofJson (reloaded value) = asLists value ↔ TextKeys value := by
  constructor
  · intro same
    have texts := textKeys_ofJson_reloaded value
    rw [same] at texts
    exact (everywhere_asLists value).mp texts
  · intro texts
    induction value using Value.induct with
    | list items ih | tuple items ih =>
      rw [Proper, Everywhere, everywhereItems_iff] at proper
      rw [refusal, refusalItems_eq_none] at sent
      rw [TextKeys, Everywhere, everywhereItems_iff] at texts
      simp only [reloaded, ofJson, asLists, ofItems_eq, reloadedItems_eq, asListsItems_eq, List.map_map]
      congr 1
      apply List.map_congr_left
      exact fun item member => ih item member (proper item member) (sent item member) (texts item member)
    | dict fields ih =>
      rw [Proper, Everywhere, everywhereFields_iff] at proper
      rw [refusal, refusalFields_eq_none] at sent
      rw [TextKeys, Everywhere, everywhereFields_iff] at texts
      simp only [reloaded, ofJson, asLists, entries_reloaded proper.1 texts.1]
      simp only [ofFields_eq, reloadedFields_eq, asListsFields_eq, List.map_map]
      congr 1
      apply List.map_congr_left
      intro field member
      obtain ⟨text, named⟩ := texts.1 field.1 (List.mem_map_of_mem member)
      have inner := ih field member (proper.2 field member) (sent field member).2 (texts.2 field member)
      simp only [Function.comp_apply, inner, named, Key.written]
    | nonFinite | other name => cases sent
    | _ => rfl

end Reload

/-- Marks the encoding of a tuple. -/
def rawTupleSentinel : String := "__tl_tuple_v1"

/-- A tuple at the top becomes the sentinel and the list of its items. -/
def encodeRawResult : Value → Value
  | .tuple items => .list [.str rawTupleSentinel, .list items]
  | value => value

def decodeRawResult : Json → Value
  | .arr [.str text, .arr items] =>
      if text = rawTupleSentinel then .tuple (ofItems items) else ofJson (.arr [.str text, .arr items])
  | value => ofJson value

def errorMetadata (text : String) : List (Key × Value) := [(.text "error_message", .str text)]

/-- Metadata that `dumps` writes, or the failure that takes its place. -/
def checkMetadata [IntDigits] (success : Bool) (fields : List (Key × Value)) : Bool × List (Key × Value) :=
  match refusal (.dict fields) with
  | some text => (false, errorMetadata ("invalid result metadata: not JSON-serializable: " ++ text))
  | none => (success, fields)

/-- Success flag and metadata of what a handler returned. -/
def normalizeHandlerResult [IntDigits] : Value → Bool × List (Key × Value)
  | .null => (true, [])
  | .bool success => (success, [])
  | .dict fields => checkMetadata true fields
  | .tuple [.bool success, .dict fields] => checkMetadata success fields
  | .tuple [_, _] => (false, errorMetadata "invalid handler return tuple: expected (bool, dict)")
  | value => (false, errorMetadata ("invalid handler return type: " ++ value.typeName))

section Results

variable [Python] [IntDigits]

/-- The metadata that a handler hands over. -/
def metadataOf : Value → List (Key × Value)
  | .dict fields => fields
  | .tuple [.bool _, .dict fields] => fields
  | _ => []

/-- The pair that says what is said of a list anyway. -/
def Forged (items : List Value) : Prop :=
  ∃ answer, items = [.bool false, answer] ∧
    reloaded answer = .obj [("error_message", .str "invalid handler return type: list")]

/-- A list in the shape of an encoded tuple. -/
def Mistaken (value : Value) : Prop :=
  ∃ items, (value = .list [.str rawTupleSentinel, .list items] ∨
    value = .list [.str rawTupleSentinel, .tuple items]) ∧ ¬ Forged items

omit [Python] in
theorem refusal_encodeRawResult (value : Value) : refusal (encodeRawResult value) = refusal value := by
  cases value with
  | tuple items => simp [encodeRawResult, refusal, refusalItems]
  | _ => rfl

omit [Python] in
/-- A pair that is not a flag and a dictionary. -/
theorem normalize_pair {first second : Value}
    (other : ∀ success fields, first = .bool success → second ≠ .dict fields) :
    normalizeHandlerResult (.tuple [first, second]) =
      (false, errorMetadata "invalid handler return tuple: expected (bool, dict)") := by
  unfold normalizeHandlerResult
  split <;> simp_all

omit [Python] in
/-- A tuple that is not a pair. -/
theorem normalize_tuple {items : List Value} (other : items.length ≠ 2) :
    normalizeHandlerResult (.tuple items) = (false, errorMetadata "invalid handler return type: tuple") := by
  unfold normalizeHandlerResult
  split <;> simp_all [Value.typeName]

omit [Python] [IntDigits] in
theorem metadataOf_eq_nil {items : List Value}
    (other : ∀ success fields, items ≠ [.bool success, .dict fields]) : metadataOf (.tuple items) = [] := by
  unfold metadataOf
  split <;> simp_all

theorem ofJson_reloaded_bool {value : Value} (sent : refusal value = none) {flag : Bool} :
    ofJson (reloaded value) = .bool flag ↔ value = .bool flag := by
  cases value <;> simp_all [reloaded, ofJson, refusal]

theorem ofJson_reloaded_dict {value : Value} (sent : refusal value = none) {entries : List (Key × Value)}
    (loaded : ofJson (reloaded value) = .dict entries) : ∃ fields, value = .dict fields := by
  cases value <;> simp_all [reloaded, ofJson, refusal]

/-- What is read as the sentinel and a list was a text and a list, or a tuple. -/
theorem reloadedItems_pair {outer : List Value} {text : String} {inner : List Json}
    (sent : refusalItems outer = none) (loaded : reloadedItems outer = [.str text, .arr inner]) :
    ∃ items, inner = reloadedItems items ∧
      (outer = [.str text, .list items] ∨ outer = [.str text, .tuple items]) := by
  match outer, sent, loaded with
  | [first, second], sent, loaded =>
    simp only [reloadedItems, List.cons.injEq, and_true] at loaded
    have head : first = .str text := by
      cases first <;> simp_all [reloaded, refusalItems, refusal]
    cases second with
    | list items =>
      have same : reloadedItems items = inner := by simpa [reloaded] using loaded.2
      exact ⟨items, same.symm, Or.inl (by rw [head])⟩
    | tuple items =>
      have same : reloadedItems items = inner := by simpa [reloaded] using loaded.2
      exact ⟨items, same.symm, Or.inr (by rw [head])⟩
    | _ => simp [reloaded] at loaded
  | [], _, loaded => cases loaded
  | [_], _, loaded => simp [reloadedItems] at loaded
  | _ :: _ :: _ :: _, _, loaded => simp [reloadedItems] at loaded

omit [Python] [IntDigits] in
theorem decodeRawResult_plain {encoded : Json}
    (plain : ∀ inner, encoded ≠ .arr [.str rawTupleSentinel, .arr inner]) :
    decodeRawResult encoded = ofJson encoded := by
  unfold decodeRawResult
  split
  · rename_i text inner
    by_cases tagged : text = rawTupleSentinel
    · exact absurd (by rw [tagged]) (plain inner)
    · rw [if_neg tagged]
  · rfl

omit [Python] [IntDigits] in
theorem decodeRawResult_tagged (inner : List Json) :
    decodeRawResult (.arr [.str rawTupleSentinel, .arr inner]) = .tuple (ofItems inner) := by
  rw [decodeRawResult, if_pos rfl]

/-- The two sides read the same flag, and metadata that differ in tuples only. -/
def Agree (transported direct : Bool × List (Key × Value)) : Prop :=
  transported.1 = direct.1 ∧ transported.2 = asListsFields direct.2

omit [Python] [IntDigits] in
theorem agree_error (text : String) : Agree (false, errorMetadata text) (false, errorMetadata text) :=
  ⟨rfl, rfl⟩

omit [Python] [IntDigits] in
theorem textKeys_nil : TextKeys (.dict []) := ⟨fun _ member => absurd member List.not_mem_nil, trivial⟩

/-- Metadata that the worker could send. -/
theorem agree_metadata {fields : List (Key × Value)} (proper : Proper (.dict fields))
    (sent : refusal (.dict fields) = none) (success : Bool) :
    ∃ entries, ofJson (reloaded (.dict fields)) = .dict entries ∧
      (Agree (checkMetadata success entries) (checkMetadata success fields) ↔ TextKeys (.dict fields)) := by
  refine ⟨ofFields (Dict.ofPairs (reloadedFields fields)).entries, rfl, ?_⟩
  have again : refusal (.dict (ofFields (Dict.ofPairs (reloadedFields fields)).entries)) = none :=
    refusal_ofJson_reloaded (.dict fields) sent
  have loaded := ofJson_reloaded_iff proper sent
  simp only [reloaded, ofJson, asLists, Value.dict.injEq] at loaded
  simp only [checkMetadata, again, sent, Agree, true_and, loaded]

/-- A tuple comes back as the tuple of what its items become. -/
theorem agree_tuple {items : List Value} (proper : Proper (.tuple items))
    (sent : refusal (.tuple items) = none) :
    Agree (normalizeHandlerResult (.tuple (ofItems (reloadedItems items))))
      (normalizeHandlerResult (.tuple items)) ↔ TextKeys (.dict (metadataOf (.tuple items))) := by
  by_cases pair : items.length = 2
  · obtain ⟨first, second, rfl⟩ := List.length_eq_two.mp pair
    rw [refusal, refusalItems_eq_none, List.forall_mem_cons, List.forall_mem_singleton] at sent
    rw [Proper, Everywhere, everywhereItems_iff, List.forall_mem_cons, List.forall_mem_singleton] at proper
    by_cases valid : ∃ success fields, first = .bool success ∧ second = .dict fields
    · obtain ⟨success, fields, rfl, rfl⟩ := valid
      obtain ⟨entries, loaded, agree⟩ := agree_metadata proper.2 sent.2 success
      simp only [reloadedItems, ofItems, loaded]
      exact agree
    · have direct : ∀ success fields, first = .bool success → second ≠ .dict fields :=
        fun success fields flag dict => valid ⟨success, fields, flag, dict⟩
      have loaded : ∀ success fields, ofJson (reloaded first) = .bool success →
          ofJson (reloaded second) ≠ .dict fields := by
        intro success fields flag dict
        obtain ⟨before, was⟩ := ofJson_reloaded_dict sent.2 dict
        exact direct success before ((ofJson_reloaded_bool sent.1).mp flag) was
      have nothing : metadataOf (.tuple [first, second]) = [] := by
        apply metadataOf_eq_nil
        rintro success fields same
        simp only [List.cons.injEq, and_true] at same
        exact direct success fields same.1 same.2
      simp only [reloadedItems, ofItems]
      rw [normalize_pair direct, normalize_pair loaded, nothing]
      exact iff_of_true (agree_error _) textKeys_nil
  · have kept : (ofItems (reloadedItems items)).length ≠ 2 := by
      rwa [ofItems_eq, reloadedItems_eq, List.length_map, List.length_map]
    have nothing : metadataOf (.tuple items) = [] := by
      apply metadataOf_eq_nil
      rintro success fields rfl
      exact pair rfl
    rw [normalize_tuple kept, normalize_tuple pair, nothing]
    exact iff_of_true (agree_error _) textKeys_nil

omit [Python] [IntDigits] in
/-- One text field is loaded from one text field. -/
theorem ofJson_eq_field {loaded : Json} {key text : String}
    (same : ofJson loaded = .dict [(.text key, .str text)]) : loaded = .obj [(key, .str text)] := by
  match loaded, same with
  | .obj [(name, value)], same =>
    simp only [ofJson, ofFields, Value.dict.injEq, List.cons.injEq, Prod.mk.injEq, Key.text.injEq, and_true] at same
    have inner : value = .str text := by
      cases value <;> simp_all [ofJson]
    rw [same.1, inner]
  | .obj [], same => simp [ofJson, ofFields] at same
  | .obj (_ :: _ :: _), same => simp [ofJson, ofFields] at same

/-- A list that is read as a tuple says what is said of a list only if it is forged to. -/
theorem agree_tagged_iff {items : List Value} (sent : refusal (.tuple items) = none) :
    Agree (normalizeHandlerResult (.tuple (ofItems (reloadedItems items))))
      (false, errorMetadata "invalid handler return type: list") ↔ Forged items := by
  constructor
  · rintro ⟨flag, metadata⟩
    by_cases pair : items.length = 2
    · obtain ⟨first, second, rfl⟩ := List.length_eq_two.mp pair
      rw [refusal, refusalItems_eq_none, List.forall_mem_cons, List.forall_mem_singleton] at sent
      simp only [reloadedItems, ofItems] at flag metadata
      by_cases valid : ∃ success entries, ofJson (reloaded first) = .bool success ∧
          ofJson (reloaded second) = .dict entries
      · obtain ⟨success, entries, first_eq, second_eq⟩ := valid
        have again := refusal_ofJson_reloaded second sent.2
        rw [second_eq] at again
        rw [first_eq, second_eq] at flag metadata
        simp only [normalizeHandlerResult, checkMetadata, again] at flag metadata
        have head : first = .bool false := (ofJson_reloaded_bool sent.1).mp (first_eq.trans (by rw [flag]))
        refine ⟨second, by rw [head], ofJson_eq_field (second_eq.trans ?_)⟩
        rw [metadata]
        rfl
      · have other : ∀ success entries, ofJson (reloaded first) = .bool success →
            ofJson (reloaded second) ≠ .dict entries :=
          fun success entries flag dict => valid ⟨success, entries, flag, dict⟩
        rw [normalize_pair other] at metadata
        simp [errorMetadata, asListsFields, asLists] at metadata
    · have kept : (ofItems (reloadedItems items)).length ≠ 2 := by
        rwa [ofItems_eq, reloadedItems_eq, List.length_map, List.length_map]
      rw [normalize_tuple kept] at metadata
      simp [errorMetadata, asListsFields, asLists] at metadata
  · rintro ⟨answer, rfl, loaded⟩
    simp only [reloadedItems, ofItems, reloaded, ofJson, loaded, ofFields]
    exact ⟨rfl, rfl⟩

/-- A list agrees unless it is taken for an encoded tuple. -/
theorem agree_list {items : List Value} (sent : refusal (.list items) = none) :
    Agree (normalizeHandlerResult (decodeRawResult (reloaded (.list items))))
      (normalizeHandlerResult (.list items)) ↔ ¬ Mistaken (.list items) := by
  by_cases plain : ∀ inner, reloaded (.list items) ≠ .arr [.str rawTupleSentinel, .arr inner]
  · rw [decodeRawResult_plain plain]
    refine iff_of_true (agree_error _) ?_
    rintro ⟨inner, tagged | tagged, _⟩
    · exact plain _ (by rw [tagged]; rfl)
    · exact plain _ (by rw [tagged]; rfl)
  · push Not at plain
    obtain ⟨inner, loaded⟩ := plain
    rw [refusal] at sent
    obtain ⟨rest, written, shape⟩ := reloadedItems_pair sent (by simpa [reloaded] using loaded)
    have inner_sent : refusal (.tuple rest) = none := by
      rcases shape with rfl | rfl
      · simpa [refusalItems, refusal] using sent
      · simpa [refusalItems, refusal] using sent
    have mistaken : Mistaken (.list items) ↔ ¬ Forged rest := by
      constructor
      · rintro ⟨others, tagged | tagged, plain⟩
        · rcases shape with rfl | rfl
          · simp only [Value.list.injEq, List.cons.injEq, and_true, true_and] at tagged
            rwa [tagged]
          · simp at tagged
        · rcases shape with rfl | rfl
          · simp at tagged
          · simp only [Value.list.injEq, List.cons.injEq, Value.tuple.injEq, and_true, true_and] at tagged
            rwa [tagged]
      · intro plain
        exact ⟨rest, shape.imp (congrArg Value.list) (congrArg Value.list), plain⟩
    rw [loaded, decodeRawResult_tagged, written, mistaken, not_not]
    exact agree_tagged_iff inner_sent

/-- For every value that can be sent, the scheduler reads what the worker would, up to lists for tuples,
if and only if the value is no list in the shape of an encoded tuple and its metadata have text for keys. -/
theorem transported_iff {returned : Value} (proper : Proper returned) {payload : Json}
    (sent : loadsDumps (encodeRawResult returned) = .ok payload) :
    ((normalizeHandlerResult (decodeRawResult payload)).1 = (normalizeHandlerResult returned).1 ∧
      (normalizeHandlerResult (decodeRawResult payload)).2 =
        asListsFields (normalizeHandlerResult returned).2) ↔
      ¬ Mistaken returned ∧ TextKeys (.dict (metadataOf returned)) := by
  change Agree _ _ ↔ _
  have serializable : refusal returned = none := by
    rw [← refusal_encodeRawResult]
    unfold loadsDumps at sent
    split at sent
    · cases sent
    · assumption
  have loaded : payload = reloaded (encodeRawResult returned) := by
    rw [loadsDumps, refusal_encodeRawResult, serializable] at sent
    exact (Except.ok.inj sent).symm
  rw [loaded]
  have unlisted : ∀ {value : Value}, (∀ items, value ≠ .list items) → ¬ Mistaken value := by
    rintro value other ⟨items, tagged | tagged, _⟩
    · exact other _ tagged
    · exact other _ tagged
  cases returned with
  | list items => exact (agree_list serializable).trans (and_iff_left textKeys_nil).symm
  | tuple items =>
    have decoded : decodeRawResult (reloaded (encodeRawResult (.tuple items))) =
        .tuple (ofItems (reloadedItems items)) := decodeRawResult_tagged (reloadedItems items)
    rw [decoded, agree_tuple proper serializable]
    exact (and_iff_right (unlisted fun _ => by simp)).symm
  | dict fields =>
    obtain ⟨entries, reread, agree⟩ := agree_metadata proper serializable true
    have decoded : decodeRawResult (reloaded (encodeRawResult (.dict fields))) = .dict entries := reread
    rw [decoded]
    exact agree.trans (and_iff_right (unlisted fun _ => by simp)).symm
  | nonFinite | other => cases serializable
  | null | bool | int | float | str =>
    exact iff_of_true ⟨rfl, rfl⟩ ⟨unlisted fun _ => by simp, textKeys_nil⟩

end Results

section Sample

local instance : Python := Python.sample

local instance : IntDigits := ⟨4300⟩

/-- A success with a tuple in its metadata. -/
def nested : Value := .tuple [.bool true, .dict [(.text "k", .tuple [.str "v"])]]

theorem transported_nested : ∃ payload, loadsDumps (encodeRawResult nested) = .ok payload ∧
    (normalizeHandlerResult (decodeRawResult payload)).1 = true ∧
    (normalizeHandlerResult (decodeRawResult payload)).2 = [(.text "k", .list [.str "v"])] := by
  have proper : Proper nested := ⟨trivial, ⟨by simp, by simp [EverywhereFields, Everywhere, EverywhereItems]⟩,
    trivial⟩
  have sent : loadsDumps (encodeRawResult nested) =
      .ok (.arr [.str rawTupleSentinel, .arr [.bool true, .obj [("k", .arr [.str "v"])]]]) := rfl
  have plain : ¬ Mistaken nested := by
    rintro ⟨items, tagged | tagged, _⟩ <;> cases tagged
  have texts : TextKeys (.dict (metadataOf nested)) := by
    refine ⟨?_, by simp [metadataOf, nested, EverywhereFields, Everywhere, EverywhereItems]⟩
    intro key member
    exact ⟨"k", List.mem_singleton.mp member⟩
  have agree := (transported_iff proper sent).mpr ⟨plain, texts⟩
  exact ⟨_, sent, agree.1, agree.2⟩

/-- A list of the sentinel and a pair. -/
def mimic : Value := .list [.str rawTupleSentinel, .list [.bool true, .dict []]]

theorem failure_becomes_success :
    normalizeHandlerResult mimic = (false, errorMetadata "invalid handler return type: list") ∧
      ∃ payload, loadsDumps (encodeRawResult mimic) = .ok payload ∧
        normalizeHandlerResult (decodeRawResult payload) = (true, []) :=
  ⟨rfl, _, rfl, rfl⟩

end Sample

end Tasklite.Engine.Transport
