import Mathlib.Data.Char
import Mathlib.Data.Int.Notation
import Mathlib.Data.List.Lex
import Tasklite.Library.Sorting
import Tasklite.Models.Admission
import Tasklite.Utils.Escapes

/-! Fingerprints of content: every part is printed with a mark of its type, and the printed parts are hashed one
after the other. A version is hashed in front, printed like a part. -/

namespace Tasklite.Utils.Fingerprint
open Tasklite.Library

/-- `repr` of a finite or infinite float: the shortest text that reads as the same float. -/
class FloatRepr (F : Type) where
  repr : F → String
  repr_injective : Function.Injective repr
  repr_plain : ∀ x, '\x00' ∉ (repr x).toList

section Repr

variable [Printable]

def lowerHexDigit (digit : ℕ) : Char := "0123456789abcdef".toList.getD digit '0'

/-- The last digits of a number, in hexadecimal. -/
def hexFixed : ℕ → ℕ → List Char
  | 0, _ => []
  | width + 1, number => hexFixed width (number / 16) ++ [lowerHexDigit (number % 16)]

/-- What follows the backslash where `repr` escapes a character. -/
def escaped (quote c : Char) : Option (List Char) :=
  if c = quote ∨ c = '\\' then some [c]
  else if c = '\t' then some ['t']
  else if c = '\n' then some ['n']
  else if c = '\r' then some ['r']
  else if Printable.isPrintable c then none
  else if c.toNat ≤ 0xff then some ('x' :: hexFixed 2 c.toNat)
  else if c.toNat ≤ 0xffff then some ('u' :: hexFixed 4 c.toNat)
  else some ('U' :: hexFixed 8 c.toNat)

def reprChar (quote c : Char) : List Char :=
  match escaped quote c with
  | none => [c]
  | some letters => '\\' :: letters

/-- Double quotes are only used around single ones. -/
def quoteOf (text : List Char) : Char := if '\'' ∈ text ∧ '"' ∉ text then '"' else '\''

/-- `repr` of a text. -/
def reprText (text : List Char) : List Char :=
  quoteOf text :: text.flatMap (reprChar (quoteOf text)) ++ [quoteOf text]

/-- `repr` of a list of texts. -/
def reprList (texts : List (List Char)) : List Char :=
  '[' :: ", ".toList.intercalate (texts.map reprText) ++ [']']

def reprPair (pair : List Char × List Char) : List Char :=
  ['('] ++ reprText pair.1 ++ ", ".toList ++ reprText pair.2 ++ [')']

/-- `repr` of a list of pairs of texts. -/
def reprPairs (pairs : List (List Char × List Char)) : List Char :=
  '[' :: ", ".toList.intercalate (pairs.map reprPair) ++ [']']

end Repr

/-- What parts are built from. -/
inductive Part (F : Type) where
  | bool (value : Bool)
  | int (value : ℤ)
  | float (value : F)
  | str (text : String)
  | list (items : List (Part F))
  | tuple (items : List (Part F))
  | dict (fields : List (String × Part F))

section Token

variable [Printable] {F : Type} [FloatRepr F]

mutual

/-- A part printed with a mark of its type. Of a dict the pairs of printed keys and values are sorted. -/
def fingerprintToken : Part F → List Char
  | .bool value => 'b' :: (if value then "True" else "False").toList
  | .int value => 'i' :: (Int.repr value).toList
  | .float value => 'f' :: (FloatRepr.repr value).toList
  | .str text => 's' :: reprText text.toList
  | .list items => 'l' :: reprList (itemTokens items)
  | .tuple items => 'l' :: reprList (itemTokens items)
  | .dict fields => 'd' :: reprPairs (sortedPairs (fieldTokens fields))

def itemTokens : List (Part F) → List (List Char)
  | [] => []
  | item :: rest => fingerprintToken item :: itemTokens rest

def fieldTokens : List (String × Part F) → List (List Char × List Char)
  | [] => []
  | (key, value) :: rest => ('s' :: reprText key.toList, fingerprintToken value) :: fieldTokens rest

end

/-- A version that is not empty goes in front of the parts. -/
def salted (version : String) (parts : List (Part F)) : List (Part F) :=
  if version = "" then parts else .str version :: parts

/-- What is fed to the hash: each printed part and a zero byte. -/
def fed (version : String) (parts : List (Part F)) : List UInt8 :=
  (salted version parts).flatMap fun part => (fingerprintToken part).flatMap String.utf8EncodeChar ++ [0]

/-- The first 16 digits of the digest. -/
def contentFingerprint (hexdigest : List UInt8 → String) (version : String) (parts : List (Part F)) : List Char :=
  (hexdigest (fed version parts)).toList.take 16

end Token

section Alike

variable {F : Type}

mutual

/-- Equal, but for the order of entries and whether a sequence is a list or a tuple. -/
def Alike : Part F → Part F → Prop
  | .bool value, .bool other => value = other
  | .int value, .int other => value = other
  | .float value, .float other => value = other
  | .str text, .str other => text = other
  | .list items, .list others => AlikeItems items others
  | .list items, .tuple others => AlikeItems items others
  | .tuple items, .list others => AlikeItems items others
  | .tuple items, .tuple others => AlikeItems items others
  | .dict fields, .dict others => ∃ ordered : List (String × Part F), ordered.Perm others ∧ AlikeFields fields ordered
  | _, _ => False

/-- Alike place by place. -/
def AlikeItems : List (Part F) → List (Part F) → Prop
  | [], [] => True
  | item :: rest, other :: more => Alike item other ∧ AlikeItems rest more
  | _, _ => False

/-- The same keys with values that are alike, place by place. -/
def AlikeFields : List (String × Part F) → List (String × Part F) → Prop
  | [], [] => True
  | (key, value) :: rest, (name, other) :: more => (key = name ∧ Alike value other) ∧ AlikeFields rest more
  | _, _ => False

end

end Alike

section Reading

variable {quote c : Char} {letters rest : List Char}

def lowerHexValue (c : Char) : ℕ := "0123456789abcdef".toList.idxOf c

def readHex (letters : List Char) : Char :=
  Char.ofNat (letters.foldl (fun number digit => 16 * number + lowerHexValue digit) 0)

/-- Read what follows a backslash. -/
def readEscaped : List Char → Option Char
  | 't' :: _ => some '\t'
  | 'n' :: _ => some '\n'
  | 'r' :: _ => some '\r'
  | 'x' :: rest => some (readHex (rest.take 2))
  | 'u' :: rest => some (readHex (rest.take 4))
  | 'U' :: rest => some (readHex (rest.take 8))
  | c :: _ => some c
  | [] => none

/-- Read one character between quotes, or the quote at the end. -/
def readChar (quote : Char) : List Char → Option (Option Char)
  | '\\' :: rest => (readEscaped rest).map some
  | c :: _ => if c = quote then some none else some (some c)
  | [] => none

theorem lowerHexValue_digit : ∀ digit < 16, lowerHexValue (lowerHexDigit digit) = digit := by decide

theorem length_hexFixed (width number : ℕ) : (hexFixed width number).length = width := by
  induction width generalizing number with
  | zero => rfl
  | succ width ih => rw [hexFixed, List.length_append, ih, List.length_singleton]

theorem foldl_hexFixed {width number : ℕ} (fits : number < 16 ^ width) :
    (hexFixed width number).foldl (fun value digit => 16 * value + lowerHexValue digit) 0 = number := by
  induction width generalizing number with
  | zero =>
    rw [Nat.pow_zero] at fits
    simp only [hexFixed, List.foldl_nil]
    omega
  | succ width ih =>
    rw [Nat.pow_succ] at fits
    have less : number / 16 < 16 ^ width := Nat.div_lt_of_lt_mul (Nat.mul_comm _ 16 ▸ fits)
    rw [hexFixed, List.foldl_append, ih less, List.foldl_cons, List.foldl_nil,
      lowerHexValue_digit _ (Nat.mod_lt _ (by omega)), Nat.div_add_mod]

theorem readHex_hexFixed {width : ℕ} (fits : c.toNat < 16 ^ width) (rest : List Char) :
    readHex ((hexFixed width c.toNat ++ rest).take width) = c := by
  have front : (hexFixed width c.toNat ++ rest).take width = hexFixed width c.toNat := by
    rw [List.take_append_of_le_length (length_hexFixed _ _).ge, List.take_of_length_le (length_hexFixed _ _).le]
  rw [front, readHex, foldl_hexFixed fits, Char.ofNat_toNat]

theorem quoteOf_single (text : List Char) : quoteOf text = '\'' ∨ quoteOf text = '"' := by
  unfold quoteOf
  split
  · exact .inr rfl
  · exact .inl rfl

theorem readChar_plain (notSlash : c ≠ '\\') (rest : List Char) :
    readChar quote (c :: rest) = if c = quote then some none else some (some c) := by
  rw [readChar]
  exact notSlash

variable [Printable]

theorem readEscaped_escaped (single : quote = '\'' ∨ quote = '"') (escapes : escaped quote c = some letters)
    (rest : List Char) : readEscaped (letters ++ rest) = some c := by
  unfold escaped at escapes
  split at escapes
  · rename_i marked
    rw [← Option.some.inj escapes]
    rcases marked with rfl | rfl
    · rcases single with rfl | rfl <;> rfl
    · rfl
  · split_ifs at escapes with tab line carriage printable short long
    · rw [← Option.some.inj escapes, tab]
      rfl
    · rw [← Option.some.inj escapes, line]
      rfl
    · rw [← Option.some.inj escapes, carriage]
      rfl
    · rw [← Option.some.inj escapes]
      exact congrArg some (readHex_hexFixed (by omega) rest)
    · rw [← Option.some.inj escapes]
      exact congrArg some (readHex_hexFixed (by omega) rest)
    · rw [← Option.some.inj escapes]
      have bound : c.toNat < 16 ^ 8 := by
        have valid := c.valid
        have top : c.toNat < 0x110000 := by
          rcases valid with low | high
          · show c.val.toNat < _
            omega
          · exact high.2
        omega
      exact congrArg some (readHex_hexFixed bound rest)

theorem escaped_none (plain : escaped quote c = none) : c ≠ quote ∧ c ≠ '\\' ∧ Printable.isPrintable c = true := by
  unfold escaped at plain
  split_ifs at plain with marked _ _ _ printable
  rw [not_or] at marked
  exact ⟨marked.1, marked.2, printable⟩

theorem reprChar_of_escaped (escapes : escaped quote c = some letters) : reprChar quote c = '\\' :: letters := by
  rw [reprChar, escapes]

theorem reprChar_of_plain (plain : escaped quote c = none) : reprChar quote c = [c] := by
  rw [reprChar, plain]

/-- The words between quotes: the characters and the quote at the end. -/
def quotedWord (quote : Char) : Option Char → List Char
  | some c => reprChar quote c
  | none => [quote]

theorem prefixCode_quotedWord (single : quote = '\'' ∨ quote = '"') : PrefixCode (quotedWord quote) := by
  refine @PrefixCode.of_read _ _ (quotedWord quote) (readChar quote) ?_ ?_
  · intro letter none
    cases letter with
    | none => cases none
    | some c =>
      cases escapes : escaped quote c with
      | none => simp [quotedWord, reprChar_of_plain escapes] at none
      | some letters => simp [quotedWord, reprChar_of_escaped escapes] at none
  · intro letter rest
    cases letter with
    | none =>
      have notSlash : quote ≠ '\\' := by
        rcases single with rfl | rfl <;> decide
      rw [quotedWord, List.singleton_append, readChar_plain notSlash, if_pos rfl]
    | some c =>
      rw [quotedWord]
      cases escapes : escaped quote c with
      | none =>
        obtain ⟨notQuote, notSlash, -⟩ := escaped_none escapes
        rw [reprChar_of_plain escapes, List.singleton_append, readChar_plain notSlash, if_neg notQuote]
      | some letters =>
        rw [reprChar_of_escaped escapes, List.cons_append, readChar, readEscaped_escaped single escapes]
        rfl

theorem quoted_eq (quote : Char) (text : List Char) :
    text.flatMap (reprChar quote) ++ [quote] = (text.map some ++ [none]).flatMap (quotedWord quote) := by
  rw [List.flatMap_append, List.flatMap_map, List.flatMap_singleton]
  rfl

/-- A printed text ends where its quotes are closed. -/
theorem prefixCode_reprText : PrefixCode reprText where
  nonempty text none := by simp [reprText] at none
  separate first second opens := by
    rw [reprText, reprText, List.cons_append, List.cons_append, List.cons_prefix_cons] at opens
    obtain ⟨quotes, inner⟩ := opens
    rw [← quotes, quoted_eq, quoted_eq, (prefixCode_quotedWord (quoteOf_single first)).flatMap_prefix_iff] at inner
    obtain ⟨rest, split⟩ := inner
    have ends : (first.map some ++ [none]) ++ rest = second.map some ++ [none] := split
    have unmarked : ∀ text : List Char, (none : Option Char) ∉ text.map some := by simp
    have same := (PrefixCode.terminated (none : Option Char)).separate ⟨first.map some, unmarked first⟩
      ⟨second.map some, unmarked second⟩ ⟨rest, ends⟩
    exact (List.map_injective_iff.mpr (Option.some_injective _)) (Subtype.mk.inj same)

theorem reprList_injective : Function.Injective reprList := by
  intro left right same
  rw [reprList, reprList, List.cons_append, List.cons_append, List.cons_eq_cons] at same
  exact prefixCode_reprText.intercalate_injective (by decide) (List.append_cancel_right same.2)

theorem reprPairs_injective : Function.Injective reprPairs := by
  have code : PrefixCode reprPair := prefixCode_reprText.pair prefixCode_reprText ['('] ", ".toList [')']
  intro left right same
  rw [reprPairs, reprPairs, List.cons_append, List.cons_append, List.cons_eq_cons] at same
  exact code.intercalate_injective (by decide) (List.append_cancel_right same.2)

end Reading

section Numbers

theorem isDigit_toDigits {number : ℕ} {c : Char} (digit : c ∈ Nat.toDigits 10 number) : c.isDigit = true :=
  Nat.isDigit_of_mem_toDigits (by omega) (by omega) digit

theorem toDigits_injective {number other : ℕ} (same : Nat.toDigits 10 number = Nat.toDigits 10 other) :
    number = other := by
  rw [← @Nat.ofDigitChars_ten_toDigits number, same, Nat.ofDigitChars_ten_toDigits]

theorem toList_intRepr (value : ℤ) : (Int.repr value).toList =
    if 0 ≤ value then Nat.toDigits 10 value.toNat else '-' :: Nat.toDigits 10 (-value).toNat := by
  rw [Int.repr_eq_if]
  split
  · rw [Nat.toList_repr]
  · rw [String.toList_append, Nat.toList_repr]
    rfl

theorem intRepr_injective {value other : ℤ} (same : (Int.repr value).toList = (Int.repr other).toList) :
    value = other := by
  have unsigned : ∀ number, '-' ∉ Nat.toDigits 10 number := by
    intro number dash
    have digit := isDigit_toDigits dash
    revert digit
    decide
  rw [toList_intRepr, toList_intRepr] at same
  split_ifs at same
  · have sizes := toDigits_injective same
    omega
  · exact absurd (same ▸ List.mem_cons_self) (unsigned value.toNat)
  · exact absurd (same.symm ▸ List.mem_cons_self) (unsigned other.toNat)
  · have sizes := toDigits_injective (List.tail_eq_of_cons_eq same)
    omega

theorem intRepr_plain (value : ℤ) : '\x00' ∉ (Int.repr value).toList := by
  have digits : ∀ number, '\x00' ∉ Nat.toDigits 10 number := by
    intro number zero
    have digit := isDigit_toDigits zero
    revert digit
    decide
  rw [toList_intRepr]
  split
  · exact digits _
  · rw [List.mem_cons, not_or]
    exact ⟨by decide, digits _⟩

end Numbers

section Unmarked

variable {quote c : Char}

theorem lowerHexDigit_plain : ∀ digit < 16, lowerHexDigit digit ≠ '\x00' := by decide

theorem hexFixed_plain (width number : ℕ) : '\x00' ∉ hexFixed width number := by
  induction width generalizing number with
  | zero => simp [hexFixed]
  | succ width ih =>
    rw [hexFixed, List.mem_append, List.mem_singleton, not_or]
    exact ⟨ih _, (lowerHexDigit_plain _ (Nat.mod_lt _ (by omega))).symm⟩

variable [Printable]

theorem isPrintable_zero : Printable.isPrintable '\x00' = false := by
  rw [Printable.isPrintable_ascii _ (by decide)]
  rfl

/-- A zero character is escaped wherever it stands. -/
theorem reprChar_plain (single : quote = '\'' ∨ quote = '"') : '\x00' ∉ reprChar quote c := by
  cases escapes : escaped quote c with
  | none =>
    rw [reprChar_of_plain escapes, List.mem_singleton]
    intro zero
    have printable := (escaped_none escapes).2.2
    rw [← zero, isPrintable_zero] at printable
    cases printable
  | some letters =>
    rw [reprChar_of_escaped escapes]
    unfold escaped at escapes
    split at escapes
    · rename_i marked
      rw [← Option.some.inj escapes]
      rcases marked with rfl | rfl
      · rcases single with rfl | rfl <;> decide
      · decide
    · split_ifs at escapes <;> rw [← Option.some.inj escapes] <;> simp [hexFixed_plain]

theorem reprText_plain (text : List Char) : '\x00' ∉ reprText text := by
  have quotes : '\x00' ≠ quoteOf text := by
    rcases quoteOf_single text with same | same <;> rw [same] <;> decide
  simp only [reprText, List.cons_append, List.mem_cons, List.mem_append, List.mem_flatMap, List.not_mem_nil,
    or_false, not_or, not_exists, not_and]
  exact ⟨quotes, fun c _ => reprChar_plain (quoteOf_single text), quotes⟩

omit [Printable] in
theorem intercalate_plain {α : Type} {word : α → List Char} (plain : ∀ letter, '\x00' ∉ word letter)
    (letters : List α) : '\x00' ∉ [',', ' '].intercalate (letters.map word) := by
  induction letters with
  | nil => simp [List.intercalate]
  | cons first rest ih =>
    cases rest with
    | nil => simp [List.intercalate, plain]
    | cons second others =>
      have split : [',', ' '].intercalate ((first :: second :: others).map word) =
          word first ++ [',', ' '] ++ [',', ' '].intercalate ((second :: others).map word) := by
        simp [List.intercalate]
      rw [split, List.mem_append, List.mem_append, not_or, not_or]
      exact ⟨⟨plain first, by decide⟩, ih⟩

theorem fingerprintToken_plain {F : Type} [FloatRepr F] (part : Part F) : '\x00' ∉ fingerprintToken part := by
  cases part with
  | bool value => cases value <;> simp [fingerprintToken]
  | int value => simp [fingerprintToken, intRepr_plain]
  | float value => simp [fingerprintToken, FloatRepr.repr_plain]
  | str text => simp [fingerprintToken, reprText_plain]
  | list items | tuple items =>
    simp [fingerprintToken, reprList, intercalate_plain reprText_plain]
  | dict fields =>
    have pairs : ∀ pair, '\x00' ∉ reprPair pair := by
      intro pair
      simp [reprPair, reprText_plain]
    simp [fingerprintToken, reprPairs, intercalate_plain pairs]

end Unmarked

section Injective

theorem boolRepr_inj {value other : Bool} :
    (if value then "True" else "False").toList = (if other then "True" else "False").toList ↔ value = other := by
  cases value <;> cases other <;> decide

theorem intRepr_inj {value other : ℤ} : (Int.repr value).toList = (Int.repr other).toList ↔ value = other := by
  constructor
  · intro same
    exact intRepr_injective same
  · intro same
    rw [same]

variable {F : Type} [FloatRepr F]

theorem floatRepr_inj {value other : F} :
    (FloatRepr.repr value).toList = (FloatRepr.repr other).toList ↔ value = other := by
  rw [String.toList_inj, FloatRepr.repr_injective.eq_iff]

variable [Printable]

theorem reprText_toList_inj {text other : String} : reprText text.toList = reprText other.toList ↔ text = other := by
  constructor
  · intro same
    exact String.toList_inj.mp (prefixCode_reprText.separate _ _ (same ▸ List.prefix_rfl))
  · intro same
    rw [same]

theorem fieldTokens_eq_map (fields : List (String × Part F)) :
    fieldTokens fields = fields.map fun field => ('s' :: reprText field.1.toList, fingerprintToken field.2) := by
  induction fields with
  | nil => rfl
  | cons field rest ih => rw [fieldTokens, ih, List.map_cons]

/-- Entries in another order are printed alike. -/
theorem sortedPairs_fieldTokens {fields others : List (String × Part F)} :
    sortedPairs (fieldTokens fields) = sortedPairs (fieldTokens others) ↔
      ∃ ordered : List (String × Part F), ordered.Perm others ∧ fieldTokens fields = fieldTokens ordered := by
  rw [sortedPairs_eq_iff]
  constructor
  · intro perm
    rw [fieldTokens_eq_map others] at perm
    obtain ⟨ordered, shuffled, same⟩ := exists_perm_of_map perm
    exact ⟨ordered, shuffled, by rw [same, fieldTokens_eq_map]⟩
  · rintro ⟨ordered, shuffled, same⟩
    rw [same, fieldTokens_eq_map, fieldTokens_eq_map]
    exact shuffled.map _

mutual

/-- Two parts are printed the same exactly when they are alike. -/
theorem fingerprintToken_eq_iff :
    ∀ part other : Part F, fingerprintToken part = fingerprintToken other ↔ Alike part other
  | .bool value, other => by
    cases other <;> simp [fingerprintToken, Alike, boolRepr_inj]
  | .int value, other => by
    cases other <;> simp [fingerprintToken, Alike, intRepr_inj]
  | .float value, other => by
    cases other <;> simp [fingerprintToken, Alike, floatRepr_inj]
  | .str text, other => by
    cases other <;> simp [fingerprintToken, Alike, reprText_toList_inj]
  | .list items, other => by
    cases other <;> simp [fingerprintToken, Alike, reprList_injective.eq_iff, itemTokens_eq_iff items]
  | .tuple items, other => by
    cases other <;> simp [fingerprintToken, Alike, reprList_injective.eq_iff, itemTokens_eq_iff items]
  | .dict fields, other => by
    cases other <;>
      simp [fingerprintToken, Alike, reprPairs_injective.eq_iff, sortedPairs_fieldTokens, fieldTokens_eq_iff fields]

theorem itemTokens_eq_iff :
    ∀ items others : List (Part F), itemTokens items = itemTokens others ↔ AlikeItems items others
  | [], others => by
    cases others <;> simp [itemTokens, AlikeItems]
  | item :: rest, others => by
    cases others <;> simp [itemTokens, AlikeItems, fingerprintToken_eq_iff item, itemTokens_eq_iff rest]

theorem fieldTokens_eq_iff : ∀ fields others : List (String × Part F),
    fieldTokens fields = fieldTokens others ↔ AlikeFields fields others
  | [], others => by
    cases others <;> simp [fieldTokens, AlikeFields]
  | (key, value) :: rest, others => by
    cases others <;>
      simp [fieldTokens, AlikeFields, reprText_toList_inj, fingerprintToken_eq_iff value, fieldTokens_eq_iff rest]

end

theorem itemTokens_eq_map (items : List (Part F)) : itemTokens items = items.map fingerprintToken := by
  induction items with
  | nil => rfl
  | cons item rest ih => rw [itemTokens, ih, List.map_cons]

/-- A printed part, which holds no zero. -/
def plainToken (part : Part F) : {letters : List Char // '\x00' ∉ letters} :=
  ⟨fingerprintToken part, fingerprintToken_plain part⟩

theorem fed_eq (version : String) (parts : List (Part F)) : fed version parts =
    (((salted version parts).map plainToken).flatMap fun token => token.1 ++ ['\x00']).flatMap
      String.utf8EncodeChar := by
  have zero : String.utf8EncodeChar '\x00' = [0] := by decide
  rw [fed, List.flatMap_map, List.flatMap_assoc]
  congr
  funext part
  rw [List.flatMap_append, List.flatMap_singleton, zero]
  rfl

/-- The same is fed to the hash exactly when versions and parts are alike, a version counting as the first part. -/
theorem fed_eq_iff {version other : String} {parts others : List (Part F)} :
    fed version parts = fed other others ↔ AlikeItems (salted version parts) (salted other others) := by
  rw [← itemTokens_eq_iff, itemTokens_eq_map, itemTokens_eq_map]
  constructor
  · intro same
    rw [fed_eq, fed_eq] at same
    have tokens := (PrefixCode.terminated '\x00').flatMap_injective (Escapes.prefixCode_utf8.flatMap_injective same)
    have values := congrArg (List.map Subtype.val) tokens
    rw [List.map_map, List.map_map] at values
    exact values
  · intro same
    have fedTokens : ∀ version (parts : List (Part F)), fed version parts =
        ((salted version parts).map fingerprintToken).flatMap fun token =>
          token.flatMap String.utf8EncodeChar ++ [0] := by
      intro version parts
      rw [List.flatMap_map]
      rfl
    rw [fedTokens, fedTokens, same]

end Injective

section Versions

variable {F : Type}

/-- One input has a version where the other has none, but the same text for its first part. -/
def Absorbs (version : String) (parts : List (Part F)) (other : String) (others : List (Part F)) : Prop :=
  version ≠ "" ∧ other = "" ∧ ∃ rest, others = .str version :: rest ∧ AlikeItems parts rest

/-- The inputs are the same, up to the order of entries and whether a sequence is a list or a tuple. -/
def SameInput (version : String) (parts : List (Part F)) (other : String) (others : List (Part F)) : Prop :=
  version = other ∧ AlikeItems parts others

/-- The digest of `second` does not open like the one of `first`. -/
def Separates (hexdigest : List UInt8 → String) (first second : List UInt8) : Prop :=
  (hexdigest first).toList.take 16 = (hexdigest second).toList.take 16 → first = second

variable [Printable] [FloatRepr F] {version other : String} {parts others rest : List (Part F)}

theorem alikeItems_comm : AlikeItems parts others ↔ AlikeItems others parts := by
  rw [← itemTokens_eq_iff, ← itemTokens_eq_iff, eq_comm]

omit [Printable] [FloatRepr F] in
theorem alikeItems_str : AlikeItems (.str version :: rest) others ↔
    ∃ more, others = .str version :: more ∧ AlikeItems rest more := by
  constructor
  · intro alike
    cases others with
    | nil => simp [AlikeItems] at alike
    | cons first more =>
      cases first with
      | str text =>
        simp only [AlikeItems, Alike] at alike
        exact ⟨more, by rw [alike.1], alike.2⟩
      | bool | int | float | list | tuple | dict => simp [AlikeItems, Alike] at alike
  · rintro ⟨more, rfl, alike⟩
    exact ⟨rfl, alike⟩

/-- The same is fed to the hash for the same input, and where a part stands in for the version. -/
theorem fed_eq_cases : fed version parts = fed other others ↔
    SameInput version parts other others ∨ Absorbs version parts other others ∨
      Absorbs other others version parts := by
  rw [fed_eq_iff]
  unfold salted SameInput Absorbs
  by_cases first : version = ""
  · by_cases second : other = ""
    · simp [first, second]
    · rw [if_pos first, if_neg second, alikeItems_comm, alikeItems_str]
      simp [first, second, Ne.symm second]
  · by_cases second : other = ""
    · rw [if_neg first, if_pos second, alikeItems_str]
      simp [first, second]
    · rw [if_neg first, if_neg second]
      simp [first, second, AlikeItems, Alike]

omit [Printable] [FloatRepr F] in
theorem not_sameInput_of_absorbs (absorbs : Absorbs version parts other others) :
    ¬ SameInput version parts other others := by
  intro same
  exact absorbs.1 (same.1.trans absorbs.2.1)

theorem sameInput_comm : SameInput version parts other others ↔ SameInput other others version parts := by
  rw [SameInput, SameInput, alikeItems_comm, eq_comm]

/-- What is fed to the hash tells two inputs apart exactly when neither has a first part that stands in for the
version of the other; and so does the fingerprint, where the digests of the two are told apart. -/
theorem fingerprint_separates_iff (version other : String) (parts others : List (Part F)) :
    ((fed version parts = fed other others → SameInput version parts other others) ↔
      ¬ Absorbs version parts other others ∧ ¬ Absorbs other others version parts) ∧
    ∀ hexdigest, Separates hexdigest (fed version parts) (fed other others) →
      ((contentFingerprint hexdigest version parts = contentFingerprint hexdigest other others →
          SameInput version parts other others) ↔
        ¬ Absorbs version parts other others ∧ ¬ Absorbs other others version parts) := by
  have separates : (fed version parts = fed other others → SameInput version parts other others) ↔
      ¬ Absorbs version parts other others ∧ ¬ Absorbs other others version parts := by
    rw [fed_eq_cases]
    constructor
    · intro input
      constructor
      · intro absorbs
        exact not_sameInput_of_absorbs absorbs (input (.inr (.inl absorbs)))
      · intro absorbs
        exact not_sameInput_of_absorbs absorbs (sameInput_comm.mp (input (.inr (.inr absorbs))))
    · rintro ⟨forward, backward⟩ (same | absorbs | absorbs)
      · exact same
      · exact absurd absorbs forward
      · exact absurd absorbs backward
  refine ⟨separates, ?_⟩
  intro hexdigest apart
  have fingerprints : contentFingerprint hexdigest version parts = contentFingerprint hexdigest other others ↔
      fed version parts = fed other others := by
    constructor
    · exact apart
    · intro same
      rw [contentFingerprint, same, contentFingerprint]
  rw [fingerprints, separates]

end Versions

section Sample

local instance : Printable := Models.Admission.samplePrintable

/-- Two floats, one half and one and a half. -/
local instance : FloatRepr Bool where
  repr more := if more then "1.5" else "0.5"
  repr_injective := by decide
  repr_plain := by decide

/-- A version in front of one part is fed like two parts without a version. -/
theorem version_absorbed : ¬ ∀ (version other : String) (parts others : List (Part Bool)),
    fed version parts = fed other others → SameInput version parts other others := by
  intro all
  have same := all "2" "" [.str "a"] [.str "2", .str "a"] rfl
  exact absurd same.1 (by decide)

end Sample

end Tasklite.Utils.Fingerprint
