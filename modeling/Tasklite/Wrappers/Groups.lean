import Tasklite.Utils.Identifiers
import Tasklite.Wrappers.Discovery

/-! Groups of contents in one task type. The namespace of a group opens with the length of its key, so that key
and id are told apart; a content id belongs to a group when the escaped namespace opens it, or as far as it is
kept when it is cut. -/

namespace Tasklite.Wrappers.Groups
open Tasklite.Utils Tasklite.Utils.Encoding Tasklite.Utils.Escapes Tasklite.Utils.Identifiers

variable {key other cid name : String} {letters rest : List Char} {maxLen : ℤ}

/-- `_resolve_prefix`, for a group with a key. -/
def resolvePrefix (key : String) : String := toString key.length ++ ":" ++ key

/-- The escaped namespace, which is never cut. -/
def groupPrefix (namespacePrefix : String) : String := percentEncode isClean namespacePrefix

/-- What stands in front of the first marker. -/
def beforeMarker : List Char → List Char
  | '%' :: '_' :: _ => []
  | c :: rest => c :: beforeMarker rest
  | [] => []

/-- `_in_discovery_group` -/
def inDiscoveryGroup (contentPart groupPrefix : String) : Bool :=
  groupPrefix.toList.isPrefixOf contentPart.toList ||
    (decide ((beforeMarker contentPart.toList).length < contentPart.toList.length) &&
      (beforeMarker contentPart.toList).isPrefixOf groupPrefix.toList)

section Namespaces

theorem toList_resolvePrefix (key : String) :
    (resolvePrefix key).toList = Nat.toDigits 10 key.toList.length ++ ':' :: key.toList := by
  have colon : ":".toList = [':'] := by decide
  rw [resolvePrefix, String.toList_append, String.toList_append, colon, Nat.toString_eq_repr, Nat.toList_repr,
    String.length_toList, List.append_assoc, List.singleton_append]

theorem colon_not_digit (n : ℕ) : ':' ∉ Nat.toDigits 10 n := by
  intro member
  exact absurd (Nat.isDigit_of_mem_toDigits (by decide) (by decide) member) (by decide)

theorem toDigits_injective {m n : ℕ} (same : Nat.toDigits 10 m = Nat.toDigits 10 n) : m = n := by
  rw [← @Nat.ofDigitChars_ten_toDigits m, same, Nat.ofDigitChars_ten_toDigits]

/-- A front without the separator ends at the first one. -/
theorem front_inj {α : Type} {mark : α} {left right front back : List α} (leftPlain : mark ∉ left)
    (rightPlain : mark ∉ right) (same : left ++ mark :: front = right ++ mark :: back) :
    left = right ∧ front = back := by
  induction left generalizing right with
  | nil =>
    cases right with
    | nil => exact ⟨rfl, (List.cons.inj same).2⟩
    | cons head tail => exact absurd (by rw [(List.cons.inj same).1]; exact List.mem_cons_self) rightPlain
  | cons head tail ih =>
    cases right with
    | nil => exact absurd (by rw [← (List.cons.inj same).1]; exact List.mem_cons_self) leftPlain
    | cons other rest =>
      obtain ⟨heads, tails⟩ := List.cons.inj same
      obtain ⟨fronts, backs⟩ := ih (fun member => leftPlain (List.mem_cons_of_mem _ member))
        (fun member => rightPlain (List.mem_cons_of_mem _ member)) tails
      exact ⟨by rw [heads, fronts], backs⟩

/-- The length in front of a key tells where the key ends. -/
theorem resolvePrefix_append_inj {left right : List Char}
    (same : (resolvePrefix key).toList ++ left = (resolvePrefix other).toList ++ right) :
    key = other ∧ left = right := by
  rw [toList_resolvePrefix, toList_resolvePrefix, List.append_assoc, List.append_assoc, List.cons_append,
    List.cons_append] at same
  obtain ⟨digits, letters⟩ := front_inj (colon_not_digit _) (colon_not_digit _) same
  obtain ⟨keys, contents⟩ := List.append_inj letters (toDigits_injective digits)
  exact ⟨String.toList_inj.mp keys, contents⟩

end Namespaces

section Markers

theorem percentsEscape_tail {c : Char} (escaped : PercentsEscape (c :: rest)) : PercentsEscape rest := by
  intro before after split
  exact escaped (c :: before) after (by rw [split, List.cons_append])

theorem underscore_not_hex : '_' ∉ hexDigits := by decide

/-- A text whose percent signs all open an escape stays whole in front of a marker. -/
theorem beforeMarker_append (escaped : PercentsEscape letters) (digest : List Char) :
    beforeMarker (letters ++ '%' :: '_' :: digest) = letters := by
  induction letters with
  | nil => rfl
  | cons c rest ih =>
    rw [List.cons_append, beforeMarker, ih (percentsEscape_tail escaped)]
    intro more percent opens
    obtain ⟨high, hex, low, -, others, behind⟩ := escaped [] rest (by rw [percent]; rfl)
    rw [behind, List.cons_append, List.cons.injEq] at opens
    exact underscore_not_hex (opens.1 ▸ hex)

theorem beforeMarker_escaped (escaped : PercentsEscape letters) : beforeMarker letters = letters := by
  induction letters with
  | nil => rfl
  | cons c rest ih =>
    rw [beforeMarker, ih (percentsEscape_tail escaped)]
    intro more percent opens
    obtain ⟨high, hex, low, -, others, behind⟩ := escaped [] rest (by rw [percent]; rfl)
    rw [behind, List.cons.injEq] at opens
    exact underscore_not_hex (opens.1 ▸ hex)

end Markers

section Membership

/-- An id that is not cut is in a group exactly when the namespace opens its text. -/
theorem inDiscoveryGroup_escaped (text namespacePrefix : String) :
    inDiscoveryGroup (percentEncode isClean text) (groupPrefix namespacePrefix) = true ↔
      namespacePrefix.toList <+: text.toList := by
  rw [inDiscoveryGroup, beforeMarker_escaped (percentsEscape_percentEncode isClean text), groupPrefix,
    decide_eq_false (lt_irrefl _), Bool.false_and, Bool.or_false, List.isPrefixOf_iff_prefix,
    percentEncode_prefix_iff]

variable [Sha256]

/-- An id is in the group it is made for, whether it is cut or not. -/
theorem inDiscoveryGroup_own (namespacePrefix : String) (given : namespacePrefix ++ cid ≠ "")
    (encoded : encodeContentId maxLen (namespacePrefix ++ cid) = some name) :
    inDiscoveryGroup name (groupPrefix namespacePrefix) = true := by
  have opens : namespacePrefix.toList <+: (namespacePrefix ++ cid).toList := by
    rw [String.toList_append]
    exact List.prefix_append _ _
  rw [encodeContentId_eq] at encoded
  by_cases fits : Fits isClean maxLen (namespacePrefix ++ cid)
  · rw [encodeIdentifier_of_fits given fits, Option.some.injEq] at encoded
    rw [← encoded, inDiscoveryGroup_escaped]
    exact opens
  · obtain ⟨-, shape⟩ := cut_shape given fits encoded
    have whole := takeUnits_isPrefix (maxLen - truncFixedLen).toNat (units isClean (namespacePrefix ++ cid))
    generalize takeUnits (maxLen - truncFixedLen).toNat (units isClean (namespacePrefix ++ cid)) = kept at shape whole
    have escaped : PercentsEscape kept.flatten :=
      percentsEscape_flatten fun unit member => unit_shape (whole.subset member)
    have front : kept.flatten <+: (percentEncode isClean (namespacePrefix ++ cid)).toList := by
      obtain ⟨behind, split⟩ := whole
      rw [toList_percentEncode, ← split, List.flatten_append]
      exact List.prefix_append _ _
    have group := (percentEncode_prefix_iff isClean).mpr opens
    rw [inDiscoveryGroup, shape, beforeMarker_append escaped, groupPrefix]
    cases List.prefix_or_prefix_of_prefix group front with
    | inl longer =>
      have found := List.isPrefixOf_iff_prefix.mpr (longer.trans (List.prefix_append kept.flatten
        ('%' :: '_' :: truncDigest (namespacePrefix ++ cid))))
      rw [found, Bool.true_or]
    | inr shorter =>
      have cut : kept.flatten.length <
          (kept.flatten ++ '%' :: '_' :: truncDigest (namespacePrefix ++ cid)).length := by simp
      rw [List.isPrefixOf_iff_prefix.mpr shorter, decide_eq_true cut, Bool.and_true, Bool.or_true]

omit [Sha256] in
theorem resolvePrefix_append_ne (key cid : String) : resolvePrefix key ++ cid ≠ "" := by
  intro empty
  have letters := congrArg String.toList empty
  rw [String.toList_append, toList_resolvePrefix, String.toList_empty] at letters
  simp at letters

/-- Content ids of groups are distinct unless key and id are the same, as long as they are not cut. Each is in its
own group, and one that is not cut is in no other. -/
theorem groups_disjoint (maxLen : ℤ) :
    (∀ key other cid otherCid : String, Fits isClean maxLen (resolvePrefix key ++ cid) →
      Fits isClean maxLen (resolvePrefix other ++ otherCid) →
      encodeContentId maxLen (resolvePrefix key ++ cid) = encodeContentId maxLen (resolvePrefix other ++ otherCid) →
      key = other ∧ cid = otherCid) ∧
    (∀ key cid name : String, encodeContentId maxLen (resolvePrefix key ++ cid) = some name →
      inDiscoveryGroup name (groupPrefix (resolvePrefix key)) = true) ∧
    (∀ key other cid name : String, key ≠ other → Fits isClean maxLen (resolvePrefix other ++ cid) →
      encodeContentId maxLen (resolvePrefix other ++ cid) = some name →
      inDiscoveryGroup name (groupPrefix (resolvePrefix key)) = false) := by
  refine ⟨fun key other cid otherCid fits otherFits same => ?_,
    fun key cid name encoded => inDiscoveryGroup_own _ (resolvePrefix_append_ne key cid) encoded,
    fun key other cid name different fits encoded => ?_⟩
  · rw [encodeContentId_eq, encodeContentId_eq, encodeIdentifier_of_fits (resolvePrefix_append_ne key cid) fits,
      encodeIdentifier_of_fits (resolvePrefix_append_ne other otherCid) otherFits, Option.some.injEq] at same
    have texts := congrArg String.toList (percentEncode_injective isClean same)
    rw [String.toList_append, String.toList_append] at texts
    obtain ⟨keys, cids⟩ := resolvePrefix_append_inj texts
    exact ⟨keys, String.toList_inj.mp cids⟩
  · rw [encodeContentId_eq, encodeIdentifier_of_fits (resolvePrefix_append_ne other cid) fits,
      Option.some.injEq] at encoded
    rw [← encoded, Bool.eq_false_iff, ne_eq, inDiscoveryGroup_escaped]
    rintro ⟨rest, split⟩
    rw [String.toList_append] at split
    exact different (resolvePrefix_append_inj split).1

end Membership

end Tasklite.Wrappers.Groups
