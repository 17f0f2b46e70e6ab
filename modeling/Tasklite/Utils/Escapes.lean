import Mathlib.Data.Set.Function
import Tasklite.Library.PrefixCode
import Tasklite.Utils.Encoding

/-! What identifiers are made of. An escaped text is a row of units, each a character that is kept or the
escape of one byte; it can be read back, and an identifier that is cut is cut between two units. -/

namespace Tasklite.Utils.Escapes
open Tasklite.Library Encoding

variable {keeps : Char → Bool} {text other : String} {c : Char} {letters before after : List Char}

section Units

def hexDigits : List Char := "0123456789ABCDEF".toList

/-- The percent sign and two hexadecimal digits in upper case. -/
def IsEscape (unit : List Char) : Prop := ∃ high ∈ hexDigits, ∃ low ∈ hexDigits, unit = ['%', high, low]

/-- The units of one character. -/
def escapeUnits (keeps : Char → Bool) (c : Char) : List (List Char) :=
  if keeps c ∧ c ≠ '%' then [[c]] else (String.utf8EncodeChar c).map escapeByte

def units (keeps : Char → Bool) (text : String) : List (List Char) := text.toList.flatMap (escapeUnits keeps)

/-- Every percent sign is followed by two hexadecimal digits in upper case. -/
def PercentsEscape (letters : List Char) : Prop :=
  ∀ before after, letters = before ++ '%' :: after →
    ∃ high ∈ hexDigits, ∃ low ∈ hexDigits, ∃ rest, after = high :: low :: rest

theorem hexDigit_mem : ∀ digit < 16, hexDigit digit ∈ hexDigits := by decide

theorem hexDigit_injective : ∀ digit < 16, ∀ other < 16, hexDigit digit = hexDigit other → digit = other := by
  decide

theorem isEscape_escapeByte (byte : UInt8) : IsEscape (escapeByte byte) := by
  have bound := byte.toNat_lt
  exact ⟨_, hexDigit_mem _ (by omega), _, hexDigit_mem _ (by omega), rfl⟩

/-- The percent sign is escaped like every other character that is not kept. -/
theorem escapeChar_eq (keeps : Char → Bool) (c : Char) :
    escapeChar keeps c = if keeps c ∧ c ≠ '%' then [c] else (String.utf8EncodeChar c).flatMap escapeByte := by
  by_cases percent : c = '%'
  · subst percent
    rw [escapeChar, if_pos rfl, if_neg (by simp)]
    decide
  · rw [escapeChar, if_neg percent]
    simp only [percent, ne_eq, not_false_eq_true, and_true]

theorem escapeChar_units (keeps : Char → Bool) (c : Char) : escapeChar keeps c = (escapeUnits keeps c).flatten := by
  rw [escapeChar_eq, escapeUnits]
  split
  · rfl
  · rw [List.flatMap_def]

theorem toList_percentEncode (keeps : Char → Bool) (text : String) :
    (percentEncode keeps text).toList = (units keeps text).flatten := by
  rw [percentEncode, String.toList_ofList, units, ← List.flatMap_id, List.flatMap_assoc]
  apply List.flatMap_congr
  intro c _
  rw [List.flatMap_id, escapeChar_units]

theorem kept_or_escape {unit : List Char} (member : unit ∈ units keeps text) :
    (∃ c, keeps c = true ∧ c ≠ '%' ∧ unit = [c]) ∨ IsEscape unit := by
  obtain ⟨c, -, member⟩ := List.mem_flatMap.mp member
  rw [escapeUnits] at member
  split at member
  · rename_i kept
    exact Or.inl ⟨c, kept.1, kept.2, List.mem_singleton.mp member⟩
  · obtain ⟨byte, -, rfl⟩ := List.mem_map.mp member
    exact Or.inr (isEscape_escapeByte byte)

theorem unit_shape {unit : List Char} (member : unit ∈ units keeps text) :
    (∃ c, c ≠ '%' ∧ unit = [c]) ∨ IsEscape unit := by
  rcases kept_or_escape member with ⟨c, -, kept⟩ | escape
  · exact Or.inl ⟨c, kept⟩
  · exact Or.inr escape

theorem percent_not_hex : '%' ∉ hexDigits := by decide

theorem percentsEscape_flatten {pieces : List (List Char)}
    (shape : ∀ unit ∈ pieces, (∃ c, c ≠ '%' ∧ unit = [c]) ∨ IsEscape unit) : PercentsEscape pieces.flatten := by
  intro before after split
  have front : ∀ unit ∈ pieces, '%' ∉ (id unit).tail := by
    intro unit member
    rcases shape unit member with ⟨c, -, rfl⟩ | ⟨high, highHex, low, lowHex, rfl⟩
    · simp
    · intro percent
      simp only [id_eq, List.tail_cons, List.mem_cons, List.not_mem_nil, or_false] at percent
      rcases percent with rfl | rfl
      · exact percent_not_hex highHex
      · exact percent_not_hex lowHex
  rw [← List.flatMap_id] at split
  obtain ⟨left, unit, right, whole, -, behind, -⟩ := flatMap_split_at_front front split
  have member : unit ∈ pieces := by simp [whole]
  rcases shape unit member with ⟨c, kept, rfl⟩ | ⟨high, highHex, low, lowHex, rfl⟩
  · simp only [id_eq, List.cons_append, List.nil_append, List.cons.injEq] at behind
    exact absurd behind.1.symm kept
  · simp only [id_eq, List.cons_append, List.nil_append, List.cons.injEq, true_and] at behind
    exact ⟨high, highHex, low, lowHex, _, behind⟩

theorem percentsEscape_percentEncode (keeps : Char → Bool) (text : String) :
    PercentsEscape (percentEncode keeps text).toList := by
  rw [toList_percentEncode]
  exact percentsEscape_flatten fun _ => unit_shape

end Units

section Reading

def hexValue (c : Char) : ℕ := hexDigits.idxOf c

/-- The bytes of an escaped text: those of its escapes, and of its other characters in UTF-8. -/
def unescape : List Char → List UInt8
  | '%' :: high :: low :: rest => UInt8.ofNat (16 * hexValue high + hexValue low) :: unescape rest
  | c :: rest => String.utf8EncodeChar c ++ unescape rest
  | [] => []

/-- Read an escaped text back. -/
def percentDecode (text : String) : Option String := String.fromUTF8? (unescape text.toList).toByteArray

theorem hexValue_hexDigit : ∀ digit < 16, hexValue (hexDigit digit) = digit := by decide

theorem unescape_escapeByte (byte : UInt8) (rest : List Char) :
    unescape (escapeByte byte ++ rest) = byte :: unescape rest := by
  have bound := byte.toNat_lt
  rw [escapeByte, List.cons_append, List.cons_append, List.cons_append, List.nil_append, unescape,
    hexValue_hexDigit _ (by omega), hexValue_hexDigit _ (by omega), Nat.div_add_mod]
  simp

theorem unescape_kept (kept : c ≠ '%') (rest : List Char) :
    unescape (c :: rest) = String.utf8EncodeChar c ++ unescape rest := by
  rw [unescape]
  exact fun high low more opened _ => kept opened

theorem unescape_bytes (bytes : List UInt8) (rest : List Char) :
    unescape (bytes.flatMap escapeByte ++ rest) = bytes ++ unescape rest := by
  induction bytes with
  | nil => rfl
  | cons byte bytes ih =>
    rw [List.flatMap_cons, List.append_assoc, unescape_escapeByte, ih, List.cons_append]

theorem unescape_flatMap (keeps : Char → Bool) (letters : List Char) :
    unescape (letters.flatMap (escapeChar keeps)) = letters.flatMap String.utf8EncodeChar := by
  induction letters with
  | nil => rfl
  | cons c rest ih =>
    rw [List.flatMap_cons, List.flatMap_cons, escapeChar_eq]
    split
    · rename_i kept
      rw [List.singleton_append, unescape_kept kept.2, ih]
    · rw [unescape_bytes, ih]

theorem percentDecode_percentEncode (keeps : Char → Bool) (text : String) :
    percentDecode (percentEncode keeps text) = some text := by
  have bytes : (unescape (percentEncode keeps text).toList).toByteArray = text.toByteArray := by
    rw [percentEncode, String.toList_ofList, unescape_flatMap, ← List.utf8Encode, ← String.toByteArray_ofList,
      String.ofList_toList]
  rw [percentDecode, bytes, String.fromUTF8?, dif_pos text.isValidUTF8]
  rfl

theorem percentEncode_injective (keeps : Char → Bool) : Function.Injective (percentEncode keeps) := by
  intro left right same
  have read := percentDecode_percentEncode keeps left
  rw [same, percentDecode_percentEncode] at read
  exact (Option.some.inj read).symm

/-- Nothing but the empty text is escaped as the empty text. -/
theorem percentEncode_ne_empty (given : text ≠ "") : percentEncode keeps text ≠ "" := by
  have nothing : percentEncode keeps "" = "" := rfl
  exact fun same => given (percentEncode_injective keeps (same.trans nothing.symm))

end Reading

section Prefixes

theorem prefixCode_utf8 : PrefixCode String.utf8EncodeChar where
  nonempty _ := String.utf8EncodeChar_ne_nil
  separate first second opens := by
    obtain ⟨rest, split⟩ := opens
    have left := @ByteArray.utf8DecodeChar?_utf8EncodeChar_append rest.toByteArray first
    have right := @ByteArray.utf8DecodeChar?_utf8EncodeChar_append ByteArray.empty second
    rw [← List.toByteArray_append, split] at left
    rw [ByteArray.append_empty, left] at right
    exact Option.some.inj right

theorem prefixCode_escapeByte : PrefixCode escapeByte where
  nonempty byte none := by cases none
  separate first second opens := by
    have same : escapeByte first = escapeByte second := opens.eq_of_length rfl
    simp only [escapeByte, List.cons.injEq, and_true, true_and] at same
    have bound := first.toNat_lt
    have limit := second.toNat_lt
    have high := hexDigit_injective _ (by omega) _ (by omega) same.1
    have low := hexDigit_injective _ (by omega) _ (by omega) same.2
    exact UInt8.toNat_inj.mp (by omega)

/-- An escape opens with a percent sign, and no character that is kept is one. -/
theorem prefixCode_escapeChar (keeps : Char → Bool) : PrefixCode (escapeChar keeps) where
  nonempty c none := by
    rw [escapeChar_eq] at none
    split at none
    · cases none
    · exact (prefixCode_utf8.comp prefixCode_escapeByte).nonempty c none
  separate first second opens := by
    have escapes : ∀ c, ∃ rest, (String.utf8EncodeChar c).flatMap escapeByte = '%' :: rest := by
      intro c
      obtain ⟨byte, rest, bytes⟩ := List.exists_cons_of_ne_nil (@String.utf8EncodeChar_ne_nil c)
      exact ⟨_, by rw [bytes, List.flatMap_cons, escapeByte, List.cons_append]⟩
    obtain ⟨firstRest, firstEscape⟩ := escapes first
    obtain ⟨secondRest, secondEscape⟩ := escapes second
    rw [escapeChar_eq, escapeChar_eq] at opens
    split at opens <;> split at opens
    · exact (List.cons_prefix_cons.mp opens).1
    · rename_i kept _
      rw [secondEscape] at opens
      exact absurd (List.cons_prefix_cons.mp opens).1 kept.2
    · rename_i kept
      rw [firstEscape] at opens
      exact absurd (List.cons_prefix_cons.mp opens).1.symm kept.2
    · exact (prefixCode_utf8.comp prefixCode_escapeByte).separate first second opens

/-- One escaped text opens another exactly when the texts do. -/
theorem percentEncode_prefix_iff (keeps : Char → Bool) {left right : String} :
    (percentEncode keeps left).toList <+: (percentEncode keeps right).toList ↔ left.toList <+: right.toList := by
  rw [percentEncode, percentEncode, String.toList_ofList, String.toList_ofList]
  exact (prefixCode_escapeChar keeps).flatMap_prefix_iff

end Prefixes

section Cutting

/-- The units that fit into so many characters. -/
def takeUnits : ℕ → List (List Char) → List (List Char)
  | _, [] => []
  | room, unit :: rest => if unit.length ≤ room then unit :: takeUnits (room - unit.length) rest else []

theorem takeUnits_isPrefix (room : ℕ) (pieces : List (List Char)) : takeUnits room pieces <+: pieces := by
  induction pieces generalizing room with
  | nil => exact List.nil_prefix
  | cons unit rest ih =>
    rw [takeUnits]
    split
    · exact (List.prefix_cons_inj unit).mpr (ih _)
    · exact List.nil_prefix

theorem length_takeUnits (room : ℕ) (pieces : List (List Char)) : (takeUnits room pieces).flatten.length ≤ room := by
  induction pieces generalizing room with
  | nil => exact Nat.zero_le room
  | cons unit rest ih =>
    rw [takeUnits]
    split
    · have tail := ih (room - unit.length)
      rw [List.flatten_cons, List.length_append]
      omega
    · exact Nat.zero_le room

/-- Cut at any place, a row of units ends between two of them or within an escape. -/
theorem take_flatten {pieces : List (List Char)}
    (shape : ∀ unit ∈ pieces, (∃ c, c ≠ '%' ∧ unit = [c]) ∨ IsEscape unit) (room : ℕ) :
    ∃ opened, pieces.flatten.take room = (takeUnits room pieces).flatten ++ opened ∧
      (opened = [] ∨ opened = ['%'] ∨ ∃ high ∈ hexDigits, opened = ['%', high]) := by
  induction pieces generalizing room with
  | nil => exact ⟨[], by simp [takeUnits], Or.inl rfl⟩
  | cons unit rest ih =>
    rw [takeUnits]
    by_cases fits : unit.length ≤ room
    · obtain ⟨opened, cut, kind⟩ := ih (fun unit member => shape unit (List.mem_cons_of_mem _ member))
        (room - unit.length)
      refine ⟨opened, ?_, kind⟩
      rw [if_pos fits, List.flatten_cons, List.flatten_cons, List.take_append, cut, List.take_of_length_le fits,
        List.append_assoc]
    · refine ⟨unit.take room, ?_, ?_⟩
      · rw [if_neg fits, List.flatten_cons, List.flatten_nil, List.nil_append, List.take_append_of_le_length (by omega)]
      · rcases shape unit List.mem_cons_self with ⟨c, -, rfl⟩ | ⟨high, highHex, low, -, rfl⟩
        · have room : room = 0 := by simpa using fits
          exact Or.inl (by rw [room, List.take_zero])
        · have few : room = 0 ∨ room = 1 ∨ room = 2 := by
            simp only [List.length_cons, List.length_nil] at fits
            omega
          rcases few with rfl | rfl | rfl
          · exact Or.inl rfl
          · exact Or.inr (Or.inl rfl)
          · exact Or.inr (Or.inr ⟨high, highHex, rfl⟩)

/-- A text whose percent signs all open an escape has no open escape to drop. -/
theorem dropOpenEscape_of_percentsEscape (closed : PercentsEscape letters) : dropOpenEscape letters = letters := by
  unfold dropOpenEscape
  split
  · rename_i rest backwards
    have ends : letters = rest.reverse ++ '%' :: [] := by
      rw [← List.reverse_reverse letters, backwards, List.reverse_cons]
    obtain ⟨high, -, low, -, more, absent⟩ := closed _ _ ends
    cases absent
  · rename_i last rest _ backwards
    have ends : letters = rest.reverse ++ '%' :: [last] := by
      rw [← List.reverse_reverse letters, backwards]
      simp
    obtain ⟨high, -, low, -, more, absent⟩ := closed _ _ ends
    cases absent
  · rfl

/-- An identifier is cut between two units. -/
theorem dropOpenEscape_take {pieces : List (List Char)}
    (shape : ∀ unit ∈ pieces, (∃ c, c ≠ '%' ∧ unit = [c]) ∨ IsEscape unit) (room : ℕ) :
    dropOpenEscape (pieces.flatten.take room) = (takeUnits room pieces).flatten := by
  obtain ⟨opened, cut, kind⟩ := take_flatten shape room
  rw [cut]
  rcases kind with rfl | rfl | ⟨high, hex, rfl⟩
  · rw [List.append_nil]
    exact dropOpenEscape_of_percentsEscape
      (percentsEscape_flatten fun unit member => shape unit ((takeUnits_isPrefix room pieces).subset member))
  · simp [dropOpenEscape]
  · have backwards : ((takeUnits room pieces).flatten ++ ['%', high]).reverse =
        high :: '%' :: (takeUnits room pieces).flatten.reverse := by simp
    have digit : high ≠ '%' := fun percent => percent_not_hex (percent ▸ hex)
    rw [dropOpenEscape, backwards]
    split
    · rename_i same
      exact absurd (List.cons.inj same).1 digit
    · rename_i same
      rw [← (List.cons.inj (List.cons.inj same).2).2, List.reverse_reverse]
    · rename_i other
      exact absurd rfl (other high _)

end Cutting

end Tasklite.Utils.Escapes
