import Tasklite.Utils.Escapes

/-! The three kinds of identifiers: escaped texts, cut ones that end in a digest, and the sentinel of the empty
text. The marker of the cut ones and the sentinel hold a percent sign that opens no escape. -/

namespace Tasklite.Utils.Identifiers
open Encoding Escapes

variable [Sha256] {keeps : Char → Bool} {maxLen : ℤ} {fallback text out : String}

/-- The fingerprint that a cut identifier ends in. -/
def truncDigest (text : String) : List Char := (Sha256.hexdigest text).toList.take truncDigestHex

/-- The escaped text fits, so that it is the identifier. -/
def Fits (keeps : Char → Bool) (maxLen : ℤ) (text : String) : Prop := (percentEncode keeps text).length ≤ maxLen

instance (keeps : Char → Bool) (maxLen : ℤ) (text : String) : Decidable (Fits keeps maxLen text) :=
  inferInstanceAs (Decidable (_ ≤ _))

section Kinds

theorem length_truncDigest (text : String) : (truncDigest text).length = truncDigestHex := by
  rw [truncDigest, List.length_take, String.length_toList, Sha256.length_hexdigest]
  rfl

theorem encodeIdentifier_of_fits (given : text ≠ "") (fits : Fits keeps maxLen text) :
    encodeIdentifier keeps maxLen fallback text = some (percentEncode keeps text) := by
  rw [encodeIdentifier, if_neg given]
  exact if_pos fits

/-- What is too long is cut between two units, when the marker and the digest leave room. -/
theorem encodeIdentifier_of_not_fits (given : text ≠ "") (long : ¬ Fits keeps maxLen text) :
    encodeIdentifier keeps maxLen fallback text =
      if maxLen - truncFixedLen < 0 then none
      else some (String.ofList ((takeUnits (maxLen - truncFixedLen).toNat (units keeps text)).flatten ++
        truncMarker.toList ++ truncDigest text)) := by
  rw [encodeIdentifier, if_neg given]
  rw [Fits] at long
  simp only [if_neg long, toList_percentEncode, dropOpenEscape_take fun _ => unit_shape, truncDigest]

/-- A cut identifier and where it is cut. -/
theorem cut_shape (given : text ≠ "") (long : ¬ Fits keeps maxLen text)
    (encoded : encodeIdentifier keeps maxLen fallback text = some out) :
    0 ≤ maxLen - truncFixedLen ∧
      out.toList = (takeUnits (maxLen - truncFixedLen).toNat (units keeps text)).flatten ++
        '%' :: '_' :: truncDigest text := by
  have marker : truncMarker.toList = ['%', '_'] := by decide
  rw [encodeIdentifier_of_not_fits given long] at encoded
  split at encoded
  · cases encoded
  · rename_i room
    rw [Option.some.injEq] at encoded
    rw [← encoded, String.toList_ofList, marker, List.append_assoc]
    exact ⟨by omega, rfl⟩

theorem length_le (given : text ≠ "") (encoded : encodeIdentifier keeps maxLen fallback text = some out) :
    out.length ≤ maxLen := by
  by_cases fits : Fits keeps maxLen text
  · rw [encodeIdentifier_of_fits given fits, Option.some.injEq] at encoded
    rw [← encoded]
    exact fits
  · obtain ⟨room, shape⟩ := cut_shape given fits encoded
    have kept := length_takeUnits (maxLen - truncFixedLen).toNat (units keeps text)
    have fixed : truncFixedLen = 2 + truncDigestHex := by decide
    have size : out.length = (takeUnits (maxLen - truncFixedLen).toNat (units keeps text)).flatten.length +
        (truncDigestHex + 1 + 1) := by
      rw [← String.length_toList, shape, List.length_append, List.length_cons, List.length_cons, length_truncDigest]
    omega

/-- The encoder raises exactly when the text must be cut and the marker and the digest would not fit. -/
theorem raises_iff (given : text ≠ "") :
    encodeIdentifier keeps maxLen fallback text = none ↔ ¬ Fits keeps maxLen text ∧ maxLen < truncFixedLen := by
  by_cases fits : Fits keeps maxLen text
  · simp [encodeIdentifier_of_fits given fits, fits]
  · rw [encodeIdentifier_of_not_fits given fits]
    split
    · simp only [fits, not_false_eq_true, true_and, true_iff]
      omega
    · simp only [reduceCtorEq, fits, not_false_eq_true, true_and, false_iff]
      omega

end Kinds

section Disjoint

omit [Sha256] in
theorem marker_not_escaped {kept digest : List Char} : ¬ PercentsEscape (kept ++ '%' :: '_' :: digest) := by
  intro escaped
  obtain ⟨high, hex, low, -, rest, same⟩ := escaped kept _ rfl
  have foreign : '_' ∉ hexDigits := by decide
  exact foreign ((List.cons.inj same).1 ▸ hex)

/-- An identifier that is cut is not an escaped text. -/
theorem cut_ne_escaped (given : text ≠ "") (long : ¬ Fits keeps maxLen text)
    (encoded : encodeIdentifier keeps maxLen fallback text = some out) (keeps' : Char → Bool) (other : String) :
    out ≠ percentEncode keeps' other := by
  intro same
  have escaped := percentsEscape_percentEncode keeps' other
  rw [← same, (cut_shape given long encoded).2] at escaped
  exact marker_not_escaped escaped

/-- The sentinel is the identifier of no text. -/
theorem ne_emptySentinel (given : text ≠ "") (encoded : encodeIdentifier keeps maxLen fallback text = some out) :
    out ≠ emptySentinel := by
  have letters : emptySentinel.toList = '%' :: "untitled".toList := by decide
  intro same
  by_cases fits : Fits keeps maxLen text
  · rw [encodeIdentifier_of_fits given fits, Option.some.injEq] at encoded
    have escaped := percentsEscape_percentEncode keeps text
    rw [encoded, same, letters] at escaped
    obtain ⟨high, hex, low, -, rest, opened⟩ := escaped [] _ rfl
    have untitled : "untitled".toList.head? = some 'u' ∧ 'u' ∉ hexDigits := by decide
    rw [opened, List.head?_cons, Option.some.injEq] at untitled
    exact untitled.2 (untitled.1 ▸ hex)
  · have shape := (cut_shape given fits encoded).2
    rw [same, letters] at shape
    have clean : '%' ∉ "untitled".toList ∧ "untitled".toList.head? = some 'u' := by decide
    cases kept : (takeUnits (maxLen - truncFixedLen).toNat (units keeps text)).flatten with
    | nil =>
      rw [kept, List.nil_append, List.cons.injEq] at shape
      rw [shape.2, List.head?_cons, Option.some.injEq] at clean
      exact absurd clean.2 (by decide)
    | cons first rest =>
      rw [kept, List.cons_append, List.cons.injEq] at shape
      rw [shape.2] at clean
      exact clean.1 (by simp)

/-- Texts with one identifier are one text, unless they are cut and have one digest. -/
theorem encodeIdentifier_injective {left right : String} (leftGiven : left ≠ "") (rightGiven : right ≠ "")
    (collisionFree : truncDigest left = truncDigest right → left = right)
    (leftEncoded : encodeIdentifier keeps maxLen fallback left = some out)
    (rightEncoded : encodeIdentifier keeps maxLen fallback right = some out) : left = right := by
  by_cases leftFits : Fits keeps maxLen left <;> by_cases rightFits : Fits keeps maxLen right
  · rw [encodeIdentifier_of_fits leftGiven leftFits, Option.some.injEq] at leftEncoded
    rw [encodeIdentifier_of_fits rightGiven rightFits, Option.some.injEq] at rightEncoded
    exact percentEncode_injective keeps (leftEncoded.trans rightEncoded.symm)
  · rw [encodeIdentifier_of_fits leftGiven leftFits, Option.some.injEq] at leftEncoded
    exact absurd leftEncoded.symm (cut_ne_escaped rightGiven rightFits rightEncoded keeps left)
  · rw [encodeIdentifier_of_fits rightGiven rightFits, Option.some.injEq] at rightEncoded
    exact absurd rightEncoded.symm (cut_ne_escaped leftGiven leftFits leftEncoded keeps right)
  · have letters := (cut_shape leftGiven leftFits leftEncoded).2.symm.trans
      (cut_shape rightGiven rightFits rightEncoded).2
    have sizes : ('%' :: '_' :: truncDigest left).length = ('%' :: '_' :: truncDigest right).length := by
      simp only [List.length_cons, length_truncDigest]
    have ends := (List.append_inj' letters sizes).2
    exact collisionFree (List.cons.inj (List.cons.inj ends).2).2

end Disjoint

section ContentIds

omit [Sha256] in
theorem escapeChar_clean {c : Char} (clean : isClean c = true) : escapeChar isClean c = [c] := by
  have percent : c ≠ '%' := by
    rintro rfl
    exact absurd clean (by decide)
  rw [escapeChar, if_neg percent, if_pos clean]

omit [Sha256] in
theorem percentEncode_clean (clean : text.toList.all isClean = true) : percentEncode isClean text = text := by
  have letters : text.toList.flatMap (escapeChar isClean) = text.toList := by
    calc text.toList.flatMap (escapeChar isClean) = text.toList.flatMap (fun c => [c]) :=
          List.flatMap_congr fun c member => escapeChar_clean (List.all_eq_true.mp clean c member)
      _ = text.toList := List.flatMap_singleton' _
  rw [percentEncode, letters, String.ofList_toList]

/-- The fast path for clean texts changes nothing. -/
theorem encodeContentId_eq (maxLen : ℤ) (text : String) :
    encodeContentId maxLen text = encodeIdentifier isClean maxLen emptySentinel text := by
  rw [encodeContentId]
  by_cases empty : text = ""
  · rw [if_pos empty, encodeIdentifier, if_pos empty]
  · rw [if_neg empty]
    split
    · rename_i clean
      have same := percentEncode_clean clean.1
      rw [encodeIdentifier_of_fits empty (by rw [Fits, same]; exact clean.2), same]
    · rfl

end ContentIds

/-- Escaping can be undone, whatever characters are kept, and writes percent signs only to open an escape. An
identifier keeps to its length or is refused; it is the escaped text or ends in the marker and the digest behind
whole units. The three kinds of identifiers are disjoint, and texts whose digests differ have different ones.
The fast path of content ids gives what the slow path gives. -/
theorem identifiers_distinct :
    (∀ keeps text, percentDecode (percentEncode keeps text) = some text) ∧
      (∀ keeps, Function.Injective (percentEncode keeps)) ∧
      (∀ keeps text, PercentsEscape (percentEncode keeps text).toList) ∧
      (∀ keeps (maxLen : ℤ) fallback text, text ≠ "" →
        (encodeIdentifier keeps maxLen fallback text = none ↔
          ¬ Fits keeps maxLen text ∧ maxLen < truncFixedLen) ∧
        ∀ out, encodeIdentifier keeps maxLen fallback text = some out →
          out.length ≤ maxLen ∧ (Fits keeps maxLen text → out = percentEncode keeps text) ∧
            (¬ Fits keeps maxLen text → ∃ kept, kept <+: units keeps text ∧
              out.toList = kept.flatten ++ truncMarker.toList ++ truncDigest text)) ∧
      (∀ keeps (maxLen limit : ℤ) fallback text other out, text ≠ "" → other ≠ "" →
        ¬ Fits keeps maxLen text → encodeIdentifier keeps maxLen fallback text = some out →
        Fits keeps limit other → encodeIdentifier keeps limit fallback other ≠ some out) ∧
      (∀ keeps maxLen fallback text, text ≠ "" →
        encodeIdentifier keeps maxLen fallback text ≠ some emptySentinel) ∧
      (∀ keeps maxLen fallback (texts : Set String), "" ∉ texts → Set.InjOn truncDigest texts →
        ∀ left ∈ texts, ∀ right ∈ texts, ∀ out, encodeIdentifier keeps maxLen fallback left = some out →
          encodeIdentifier keeps maxLen fallback right = some out → left = right) ∧
      (∀ maxLen text, encodeContentId maxLen text = encodeIdentifier isClean maxLen emptySentinel text) := by
  refine ⟨percentDecode_percentEncode, percentEncode_injective, percentsEscape_percentEncode,
    fun keeps maxLen fallback text given => ⟨raises_iff given, fun out encoded => ⟨length_le given encoded, ?_, ?_⟩⟩,
    fun keeps maxLen limit fallback text other out given otherGiven long encoded fits => ?_,
    fun keeps maxLen fallback text given encoded => ne_emptySentinel given encoded rfl,
    fun keeps maxLen fallback texts nonempty collisionFree left leftIn right rightIn out => ?_, encodeContentId_eq⟩
  · intro fits
    rw [encodeIdentifier_of_fits given fits, Option.some.injEq] at encoded
    exact encoded.symm
  · intro long
    have marker : truncMarker.toList = ['%', '_'] := by decide
    refine ⟨_, takeUnits_isPrefix (maxLen - truncFixedLen).toNat (units keeps text), ?_⟩
    rw [(cut_shape given long encoded).2, marker, List.append_assoc]
    rfl
  · rw [encodeIdentifier_of_fits otherGiven fits, ne_eq, Option.some.injEq]
    exact (cut_ne_escaped given long encoded keeps other).symm
  · exact encodeIdentifier_injective (fun empty => nonempty (empty ▸ leftIn)) (fun empty => nonempty (empty ▸ rightIn))
      (fun same => collisionFree leftIn rightIn same)

end Tasklite.Utils.Identifiers
