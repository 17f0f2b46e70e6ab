import Mathlib.Data.String.Basic
import Tasklite.Library.Segments
import Tasklite.Utils.Fingerprint
import Tasklite.Utils.Identifiers

/-! The keys of stored responses. A key is the method, the escaped URL, and up to three digests: of the body behind an
underscore, of the parameters and of the headers that identify the caller behind a doubled colon each. -/

namespace Tasklite.Wrappers.SnapshotKeys
open Tasklite.Library Tasklite.Models Tasklite.Utils

/-- What `urlparse` splits a URL into. -/
structure ParseResult where
  scheme : String
  netloc : String
  path : String
  params : String
  query : String
  fragment : String
deriving DecidableEq

/-- The bytes of a text in UTF-8. -/
def encodeText (text : String) : List UInt8 := text.toList.flatMap String.utf8EncodeChar

/-- The parts of the standard library that keys are made with. `urlparse` refuses some texts, and bytes are digested
like texts. -/
class Urllib extends Sha256 where
  strip : String → String
  lower : String → String
  upper : String → String
  urlparse : String → Option ParseResult
  parseQsl : String → List (String × String)
  urlencode : List (String × String) → String
  urlunparse : ParseResult → String
  dumps : Json → String
  hexdigestBytes : List UInt8 → String
  hexdigestBytes_text : ∀ text, hexdigestBytes (encodeText text) = hexdigest text
  length_hexdigestBytes : ∀ data, (hexdigestBytes data).length = 64
  hex_hexdigestBytes : ∀ data, ∀ c ∈ (hexdigestBytes data).toList, c ∈ "0123456789abcdef".toList

/-- What the value of a parameter is: bytes, something that can be written as JSON, or an object that is only known by
its `repr`. -/
inductive Content where
  | bytes (data : List UInt8)
  | json (document : Json)
  | object (repr : String)

/-- The value of a parameter and its `str`. -/
structure ParamValue where
  content : Content
  text : String

/-- A body; a dict or a list is sent as JSON. -/
inductive Body where
  | none
  | bytes (data : List UInt8)
  | str (text : String)
  | dict (fields : List (String × Json))
  | list (items : List Json)

/-- What a key is made for. Missing parameters or headers are like empty ones. -/
structure Request where
  url : String
  method : String
  params : Dict String (Option ParamValue)
  body : Body
  headers : Dict String String

section Keys

variable [Printable] [Urllib]
open Urllib Identifiers

/-- The first 16 digits of the digest of some bytes. -/
def digestBytes (data : List UInt8) : List Char := (hexdigestBytes data).toList.take 16

/-- The bytes of a body that is not empty. -/
def sentBody : Body → Option (List UInt8)
  | .none => none
  | .bytes data => if data.isEmpty then none else some data
  | .str text => if text.isEmpty then none else some (encodeText text)
  | .dict fields => if fields.isEmpty then none else some (encodeText (dumps (.obj fields)))
  | .list items => if items.isEmpty then none else some (encodeText (dumps (.arr items)))

def identityKeyHeaders : List String :=
  ["authorization", "proxy-authorization", "cookie", "x-api-key", "api-key", "content-type"]

/-- The parameters that are not `None`. -/
def givenParams (request : Request) : List (String × ParamValue) :=
  request.params.entries.filterMap fun param => param.2.map fun value => (param.1, value)

def canonicalQueryItems (parsed : ParseResult) (request : Request) : List (String × String) :=
  sortedPairs ((if parsed.query = "" then [] else parseQsl parsed.query) ++
    (givenParams request).map fun param => (param.1, param.2.text))

/-- The URL with the parameters merged into its query. -/
def normUrl (request : Request) : Option String :=
  (urlparse (strip request.url)).map fun parsed =>
    urlunparse { parsed with
      scheme := lower parsed.scheme
      netloc := lower parsed.netloc
      query := urlencode (canonicalQueryItems parsed request)
      fragment := "" }

def normMethod (request : Request) : List Char := (upper (strip request.method)).toList

def valueFingerprint : Content → String
  | .bytes data => "bytes:" ++ String.ofList (data.flatMap fun byte => Fingerprint.hexFixed 2 byte.toNat)
  | .json document => "json:" ++ dumps document
  | .object repr => "repr:" ++ repr

/-- A list of pairs of texts, as JSON. -/
def pairsDocument (pairs : List (String × String)) : Json :=
  .arr (pairs.map fun pair => .arr [.str pair.1, .str pair.2])

def fingerprintItems (request : Request) : List (String × String) :=
  (givenParams request).map fun param => (param.1, valueFingerprint param.2.content)

/-- Pairs in order, as JSON. -/
def sortedDocument (pairs : List (String × String)) : String := dumps (pairsDocument (sortedPairs pairs))

/-- A marker and the digest of some pairs, unless there are none. -/
def fingerprintOf (marker : Char) (pairs : List (String × String)) : List Char :=
  if pairs.isEmpty then [] else ':' :: ':' :: marker :: truncDigest (sortedDocument pairs)

def paramsFingerprint (request : Request) : List Char := fingerprintOf 'p' (fingerprintItems request)

/-- The headers that identify the caller and are not empty, by their names in lower case. -/
def identityHeaders (request : Request) : List (String × String) :=
  let items := Dict.ofPairs (request.headers.entries.map fun header => (lower header.1, header.2))
  identityKeyHeaders.filterMap fun name =>
    match items.get? name with
    | some value => if value = "" then none else some (name, value)
    | none => none

def identityHeadersFingerprint (request : Request) : List Char := fingerprintOf 'h' (identityHeaders request)

def bodyHash (request : Request) : List Char :=
  match sentBody request.body with
  | none => []
  | some data => '_' :: digestBytes data

/-- The key of a request. There is none where the URL cannot be parsed. -/
def makeKey (request : Request) : Option (List Char) := do
  let url ← normUrl request
  let component ← Encoding.encodeJobComponent 120 url
  some (normMethod request ++ "::".toList ++ component.toList ++ bodyHash request ++ paramsFingerprint request ++
    identityHeadersFingerprint request)

end Keys

section Component

variable [Printable] [Sha256] {url other : String} {out : String} {letters : List Char}
open Encoding Escapes Identifiers

/-- The digits of a digest, in lower case. -/
def IsHex (letters : List Char) : Prop := letters.length = 16 ∧ ∀ c ∈ letters, c ∈ "0123456789abcdef".toList

omit [Printable] in
theorem isHex_truncDigest (text : String) : IsHex (truncDigest text) :=
  ⟨length_truncDigest text, fun c member => Sha256.hex_hexdigest text c (List.mem_of_mem_take member)⟩

omit [Sha256] in
/-- Plain letters are kept as they are. -/
theorem keeps_plain : ∀ c ∈ "_ph0123456789abcdef".toList, keepsForbidden defaultForbidden c = true ∧ c ≠ '%' := by
  intro c member
  have listed : "_ph0123456789abcdef".toList.all (fun c => decide (c.toNat < 128 ∧ 32 ≤ c.toNat ∧ c.toNat < 127 ∧
      c ∉ defaultForbidden.toList)) = true := by decide
  obtain ⟨ascii, visible, below, allowed⟩ := of_decide_eq_true (List.all_eq_true.mp listed c member)
  have given : defaultForbidden ≠ "" := by decide
  rw [keepsForbidden, Printable.isPrintable_ascii c ascii, if_neg given, Bool.and_eq_true, decide_eq_true_eq,
    decide_eq_true_eq]
  have percent : '%' ∈ defaultForbidden.toList := by decide
  refine ⟨⟨⟨visible, below⟩, allowed⟩, ?_⟩
  rintro rfl
  exact allowed percent

omit [Sha256] in
theorem encode_plain (plain : ∀ c ∈ letters, c ∈ "_ph0123456789abcdef".toList) :
    letters.flatMap (escapeChar (keepsForbidden defaultForbidden)) = letters := by
  induction letters with
  | nil => rfl
  | cons c rest ih =>
    obtain ⟨kept, notPercent⟩ := keeps_plain c (plain c List.mem_cons_self)
    rw [List.flatMap_cons, ih fun other member => plain other (List.mem_cons_of_mem _ member), escapeChar,
      if_neg notPercent, if_pos kept, List.singleton_append]

theorem encodeJobComponent_eq (url : String) : ∃ out, encodeJobComponent 120 url = some out := by
  rw [← Option.isSome_iff_exists, Option.isSome_iff_ne_none]
  intro raises
  by_cases empty : url = ""
  · simp [encodeJobComponent, encodeIdentifier, empty] at raises
  · rw [encodeJobComponent, raises_iff empty] at raises
    exact absurd raises.2 (by decide)

/-- No colon is left in a component. -/
theorem colon_not_mem (encoded : encodeJobComponent 120 url = some out) : ':' ∉ out.toList := by
  have piece : ∀ unit ∈ units (keepsForbidden defaultForbidden) url, ':' ∉ unit := by
    intro unit member colon
    rcases kept_or_escape member with ⟨c, kept, -, rfl⟩ | ⟨high, highHex, low, lowHex, rfl⟩
    · rw [List.mem_singleton] at colon
      subst colon
      simp [keepsForbidden, defaultForbidden] at kept
    · have foreign : ':' ∉ hexDigits := by decide
      simp only [List.mem_cons, List.not_mem_nil, or_false] at colon
      rcases colon with percent | rfl | rfl
      · exact absurd percent (by decide)
      · exact foreign highHex
      · exact foreign lowHex
  by_cases empty : url = ""
  · rw [encodeJobComponent, encodeIdentifier, if_pos empty, Option.some.injEq] at encoded
    rw [← encoded]
    decide
  · by_cases fits : Fits (keepsForbidden defaultForbidden) 120 url
    · rw [encodeJobComponent, encodeIdentifier_of_fits empty fits, Option.some.injEq] at encoded
      rw [← encoded, toList_percentEncode]
      simpa using piece
    · rw [(cut_shape empty fits encoded).2]
      simp only [List.mem_append, List.mem_flatten, List.mem_cons, not_or, not_exists, not_and]
      refine ⟨fun unit member => piece unit ((takeUnits_isPrefix _ _).subset member), by decide, by decide, ?_⟩
      intro colon
      exact absurd ((isHex_truncDigest url).2 _ colon) (by decide)

theorem component_ne_nil (encoded : encodeJobComponent 120 url = some out) : out.toList ≠ [] := by
  by_cases empty : url = ""
  · rw [encodeJobComponent, encodeIdentifier, if_pos empty, Option.some.injEq] at encoded
    rw [← encoded]
    decide
  · by_cases fits : Fits (keepsForbidden defaultForbidden) 120 url
    · rw [encodeJobComponent, encodeIdentifier_of_fits empty fits, Option.some.injEq] at encoded
      rw [← encoded]
      exact fun nothing => percentEncode_ne_empty empty (String.toList_eq_nil_iff.mp nothing)
    · rw [(cut_shape empty fits encoded).2]
      simp

/-- Two URLs have one component only if they are one, or their digests collide. -/
theorem component_injective (collisionFree : truncDigest url = truncDigest other → url = other)
    (encoded : encodeJobComponent 120 url = some out) (also : encodeJobComponent 120 other = some out) :
    url = other := by
  by_cases empty : url = ""
  · by_cases blank : other = ""
    · rw [empty, blank]
    · rw [encodeJobComponent, encodeIdentifier, if_pos empty, Option.some.injEq] at encoded
      exact absurd encoded.symm (ne_emptySentinel blank also)
  · by_cases blank : other = ""
    · rw [encodeJobComponent, encodeIdentifier, if_pos blank, Option.some.injEq] at also
      exact absurd also.symm (ne_emptySentinel empty encoded)
    · exact encodeIdentifier_injective empty blank collisionFree encoded also

omit [Sha256] in
theorem percentEncode_plain_append (url : String) (plain : ∀ c ∈ letters, c ∈ "_ph0123456789abcdef".toList) :
    (percentEncode (keepsForbidden defaultForbidden) (url ++ String.ofList letters)).toList =
      (percentEncode (keepsForbidden defaultForbidden) url).toList ++ letters := by
  rw [percentEncode, percentEncode, String.toList_ofList, String.toList_ofList, String.toList_append,
    String.toList_ofList, List.flatMap_append, encode_plain plain]

omit [Printable] [Sha256] in
theorem plain_of_isHex (hex : IsHex letters) : ∀ c ∈ letters, c ∈ "_ph0123456789abcdef".toList := by
  intro c member
  have digits : "0123456789abcdef".toList ⊆ "_ph0123456789abcdef".toList := by decide
  exact digits (hex.2 c member)

/-- What is neither the sentinel nor cut is the escaped URL. -/
theorem component_cases (encoded : encodeJobComponent 120 url = some out) :
    (url = "" ∧ out.toList = "%untitled".toList) ∨
      (url ≠ "" ∧ Fits (keepsForbidden defaultForbidden) 120 url ∧
        out = percentEncode (keepsForbidden defaultForbidden) url) ∨
      (url ≠ "" ∧ ¬ Fits (keepsForbidden defaultForbidden) 120 url ∧
        ∃ kept, out.toList = kept ++ '%' :: '_' :: truncDigest url) := by
  by_cases empty : url = ""
  · rw [encodeJobComponent, encodeIdentifier, if_pos empty, Option.some.injEq] at encoded
    exact .inl ⟨empty, encoded ▸ rfl⟩
  · by_cases fits : Fits (keepsForbidden defaultForbidden) 120 url
    · rw [encodeJobComponent, encodeIdentifier_of_fits empty fits, Option.some.injEq] at encoded
      exact .inr (.inl ⟨empty, fits, encoded.symm⟩)
    · exact .inr (.inr ⟨empty, fits, _, (cut_shape empty fits encoded).2⟩)

omit [Printable] [Sha256] in
theorem percent_opens_escape {before after : List Char} {keeps : Char → Bool} {text : String}
    (split : (percentEncode keeps text).toList = before ++ '%' :: after) :
    ∃ high ∈ hexDigits, ∃ rest, after = high :: rest := by
  obtain ⟨high, hex, low, -, rest, same⟩ := percentsEscape_percentEncode keeps text before after split
  exact ⟨high, hex, low :: rest, same⟩

/-- A component does not end in a percent sign. -/
theorem component_end (encoded : encodeJobComponent 120 url = some out) (kept : List Char) :
    out.toList ≠ kept ++ ['%'] := by
  intro same
  rcases component_cases encoded with ⟨-, sentinel⟩ | ⟨-, -, rfl⟩ | ⟨-, -, front, cut⟩
  · have last := congrArg List.getLast? (sentinel.symm.trans same)
    rw [List.getLast?_append, List.getLast?_singleton, Option.some_or] at last
    exact absurd last (by decide)
  · obtain ⟨high, -, rest, nothing⟩ := percent_opens_escape same
    cases nothing
  · have digits := isHex_truncDigest url
    rcases List.eq_nil_or_concat (truncDigest url) with none | ⟨init, c, ends⟩
    · rw [none] at digits
      cases digits.1
    · rw [cut, ends, List.concat_eq_append, ← List.cons_append, ← List.cons_append, ← List.append_assoc] at same
      have last : c = '%' := List.singleton_inj.mp (List.append_inj' same rfl).2
      exact absurd (digits.2 c (by simp [ends])) (by rw [last]; decide)

/-- A component is another one and a body digest exactly where the URL itself ends in an underscore and the digest. -/
theorem component_append_iff (hex : IsHex letters) {more : String} (encoded : encodeJobComponent 120 url = some out)
    (also : encodeJobComponent 120 other = some more) : more.toList = out.toList ++ '_' :: letters ↔
      url ≠ "" ∧ other = url ++ String.ofList ('_' :: letters) ∧ Fits (keepsForbidden defaultForbidden) 120 other := by
  have plain : ∀ c ∈ '_' :: letters, c ∈ "_ph0123456789abcdef".toList := by
    intro c member
    rcases List.mem_cons.mp member with rfl | member
    · decide
    · exact plain_of_isHex hex c member
  constructor
  · intro same
    rcases component_cases also with ⟨-, sentinel⟩ | ⟨given, fits, rfl⟩ | ⟨-, -, kept, cut⟩
    · have absent : '_' ∉ "%untitled".toList := by decide
      rw [sentinel] at same
      exact absurd (by simp [same]) absent
    · rcases component_cases encoded with ⟨-, sentinel⟩ | ⟨filled, -, rfl⟩ | ⟨-, -, kept, cut⟩
      · have opens : "%untitled".toList = '%' :: "untitled".toList := by decide
        rw [sentinel, opens, List.cons_append, ← List.nil_append (_ :: _)] at same
        obtain ⟨high, digit, rest, untitled⟩ := percent_opens_escape same
        have letter : "untitled".toList.head? = some 'u' ∧ 'u' ∉ hexDigits := by decide
        have first := congrArg List.head? untitled
        rw [List.head?_append, letter.1, Option.some_or, List.head?_cons, Option.some.injEq] at first
        exact absurd (first ▸ digit) letter.2
      · refine ⟨filled, ?_, fits⟩
        rw [← percentEncode_plain_append url plain] at same
        exact percentEncode_injective _ (String.toList_inj.mp same)
      · rw [cut, List.append_assoc, List.cons_append, List.cons_append] at same
        obtain ⟨high, digit, rest, underscore⟩ := percent_opens_escape same
        rw [List.cons_eq_cons] at underscore
        exact absurd (underscore.1 ▸ digit) (by decide)
    · rw [cut, ← List.singleton_append, ← List.append_assoc] at same
      have sizes : ('_' :: truncDigest other).length = ('_' :: letters).length := by
        rw [List.length_cons, List.length_cons, hex.1, (isHex_truncDigest other).1]
      exact absurd (List.append_inj' same sizes).1.symm (component_end encoded kept)
  · rintro ⟨given, rfl, fits⟩
    have filled : url ++ String.ofList ('_' :: letters) ≠ "" := by
      intro nothing
      have none := congrArg String.toList nothing
      simp at none
    have shorter : Fits (keepsForbidden defaultForbidden) 120 url := by
      have room := fits
      rw [Fits, ← String.length_toList, percentEncode_plain_append url plain, List.length_append] at room
      rw [Fits, ← String.length_toList]
      omega
    rw [encodeJobComponent, encodeIdentifier_of_fits filled fits, Option.some.injEq] at also
    rw [encodeJobComponent, encodeIdentifier_of_fits given shorter, Option.some.injEq] at encoded
    rw [← also, ← encoded, percentEncode_plain_append url plain]

/-- A component of plain letters is the URL itself. -/
theorem component_plain_iff (filled : letters ≠ []) (short : letters.length ≤ 120)
    (plain : ∀ c ∈ letters, c ∈ "_ph0123456789abcdef".toList) (encoded : encodeJobComponent 120 url = some out) :
    out.toList = letters ↔ url = String.ofList letters := by
  have bare : (percentEncode (keepsForbidden defaultForbidden) (String.ofList letters)).toList = letters := by
    rw [percentEncode, String.toList_ofList, String.toList_ofList, encode_plain plain]
  have unescaped : '%' ∉ letters := fun percent => absurd (plain _ percent) (by decide)
  constructor
  · intro same
    rcases component_cases encoded with ⟨-, sentinel⟩ | ⟨given, fits, rfl⟩ | ⟨-, -, kept, cut⟩
    · rw [← same, sentinel] at unescaped
      exact absurd (by decide) unescaped
    · rw [← bare] at same
      exact percentEncode_injective _ (String.toList_inj.mp same)
    · rw [← same, cut] at unescaped
      simp at unescaped
  · rintro rfl
    have given : String.ofList letters ≠ "" := by
      intro nothing
      have none := congrArg String.toList nothing
      rw [String.toList_ofList] at none
      exact filled none
    have fits : Fits (keepsForbidden defaultForbidden) 120 (String.ofList letters) := by
      rw [Fits, ← String.length_toList, bare]
      omega
    rw [encodeJobComponent, encodeIdentifier_of_fits given fits, Option.some.injEq] at encoded
    rw [← encoded, bare]

end Component

section Parts

variable [Urllib] {first second : Request}
open Urllib Identifiers

/-- The parameters by name and content. -/
def namedContents (request : Request) : List (String × Content) :=
  (givenParams request).map fun param => (param.1, param.2.content)

/-- The requests are the same, up to the order of parameters and headers. -/
structure SameRequest (first second : Request) : Prop where
  method : normMethod first = normMethod second
  url : normUrl first = normUrl second
  body : sentBody first.body = sentBody second.body
  params : (namedContents first).Perm (namedContents second)
  headers : (identityHeaders first).Perm (identityHeaders second)

/-- The digests of two requests tell apart what they are of. -/
structure CollisionFree (first second : Request) : Prop where
  url : ∀ url ∈ normUrl first, ∀ other ∈ normUrl second, truncDigest url = truncDigest other → url = other
  body : ∀ data ∈ sentBody first.body, ∀ other ∈ sentBody second.body,
    digestBytes data = digestBytes other → data = other
  params :
    truncDigest (sortedDocument (fingerprintItems first)) = truncDigest (sortedDocument (fingerprintItems second)) →
    sortedDocument (fingerprintItems first) = sortedDocument (fingerprintItems second)
  headers :
    truncDigest (sortedDocument (identityHeaders first)) = truncDigest (sortedDocument (identityHeaders second)) →
    sortedDocument (identityHeaders first) = sortedDocument (identityHeaders second)

/-- What two requests have written as JSON can be read back. -/
structure ReadBack (first second : Request) : Prop where
  params : sortedDocument (fingerprintItems first) = sortedDocument (fingerprintItems second) →
    pairsDocument (sortedPairs (fingerprintItems first)) = pairsDocument (sortedPairs (fingerprintItems second))
  headers : sortedDocument (identityHeaders first) = sortedDocument (identityHeaders second) →
    pairsDocument (sortedPairs (identityHeaders first)) = pairsDocument (sortedPairs (identityHeaders second))
  values : ∀ param ∈ namedContents first, ∀ other ∈ namedContents second, ∀ document more,
    param.2 = .json document → other.2 = .json more → dumps document = dumps more → document = more

theorem CollisionFree.symm (collisionFree : CollisionFree first second) : CollisionFree second first where
  url url known other same equal := (collisionFree.url other same url known equal.symm).symm
  body data known other same equal := (collisionFree.body other same data known equal.symm).symm
  params equal := (collisionFree.params equal.symm).symm
  headers equal := (collisionFree.headers equal.symm).symm

theorem ReadBack.symm (readBack : ReadBack first second) : ReadBack second first where
  params equal := (readBack.params equal.symm).symm
  headers equal := (readBack.headers equal.symm).symm
  values param known other same document more is also equal :=
    (readBack.values other same param known more document also is equal.symm).symm

theorem SameRequest.symm (same : SameRequest first second) : SameRequest second first where
  method := same.method.symm
  url := same.url.symm
  body := same.body.symm
  params := same.params.symm
  headers := same.headers.symm

omit [Urllib] in
theorem pairsDocument_injective : Function.Injective pairsDocument := by
  intro left right same
  have pairs : Function.Injective fun pair : String × String => Json.arr [.str pair.1, .str pair.2] := by
    intro first second equal
    simp only [Json.arr.injEq, List.cons.injEq, Json.str.injEq, and_true] at equal
    exact Prod.ext equal.1 equal.2
  exact List.map_injective_iff.mpr pairs (Json.arr.inj same)

omit [Urllib] in
/-- Bytes are read back from their digits. -/
theorem hex_injective : Function.Injective fun data : List UInt8 =>
    data.flatMap fun byte => Fingerprint.hexFixed 2 byte.toNat := by
  have code : PrefixCode fun byte : UInt8 => Fingerprint.hexFixed 2 byte.toNat := by
    refine @PrefixCode.of_read _ _ _ (fun letters => some (UInt8.ofNat ((letters.take 2).foldl
      (fun number digit => 16 * number + Fingerprint.lowerHexValue digit) 0))) ?_ ?_
    · intro byte none
      have size := Fingerprint.length_hexFixed 2 byte.toNat
      rw [none] at size
      cases size
    · intro byte rest
      have fits : byte.toNat < 16 ^ 2 := byte.toNat_lt
      have size := Fingerprint.length_hexFixed 2 byte.toNat
      rw [List.take_append_of_le_length size.ge, List.take_of_length_le size.le, Fingerprint.foldl_hexFixed fits,
        UInt8.ofNat_toNat]
  exact code.flatMap_injective

theorem valueFingerprint_injective {content other : Content}
    (readBack : ∀ document more, content = .json document → other = .json more → dumps document = dumps more →
      document = more) (same : valueFingerprint content = valueFingerprint other) : content = other := by
  have letters := congrArg String.toList same
  cases content with
  | bytes data =>
    cases other with
    | bytes more =>
      simp only [valueFingerprint, String.toList_append, String.toList_ofList] at letters
      rw [hex_injective (List.append_cancel_left letters)]
    | json more => simp [valueFingerprint] at letters
    | object more => simp [valueFingerprint] at letters
  | json document =>
    cases other with
    | bytes more => simp [valueFingerprint] at letters
    | json more =>
      simp only [valueFingerprint, String.toList_append] at letters
      rw [readBack document more rfl rfl (String.toList_inj.mp (List.append_cancel_left letters))]
    | object more => simp [valueFingerprint] at letters
  | object text =>
    cases other with
    | bytes more => simp [valueFingerprint] at letters
    | json more => simp [valueFingerprint] at letters
    | object more =>
      simp only [valueFingerprint, String.toList_append] at letters
      rw [String.toList_inj.mp (List.append_cancel_left letters)]

/-- Pairs of texts that are digested alike are the same. -/
theorem perm_of_sortedDocument {pairs others : List (String × String)}
    (readBack : sortedDocument pairs = sortedDocument others →
      pairsDocument (sortedPairs pairs) = pairsDocument (sortedPairs others))
    (same : sortedDocument pairs = sortedDocument others) : pairs.Perm others :=
  sortedPairs_eq_iff.mp (pairsDocument_injective (readBack same))

theorem sortedDocument_perm {pairs others : List (String × String)} (perm : pairs.Perm others) :
    sortedDocument pairs = sortedDocument others := by
  rw [sortedDocument, sortedDocument, sortedPairs_eq_iff.mpr perm]

theorem fingerprintItems_eq (request : Request) :
    fingerprintItems request = (namedContents request).map fun param => (param.1, valueFingerprint param.2) := by
  rw [fingerprintItems, namedContents, List.map_map]
  rfl

theorem fingerprintItems_eq_nil_iff {request : Request} :
    fingerprintItems request = [] ↔ namedContents request = [] := by
  rw [fingerprintItems_eq, List.map_eq_nil_iff]

theorem fingerprintOf_cases (marker : Char) (pairs : List (String × String)) :
    (pairs = [] ∧ fingerprintOf marker pairs = []) ∨
      (pairs ≠ [] ∧ fingerprintOf marker pairs = ':' :: ':' :: marker :: truncDigest (sortedDocument pairs)) := by
  cases pairs with
  | nil => exact .inl ⟨rfl, rfl⟩
  | cons pair rest => exact .inr ⟨List.cons_ne_nil _ _, rfl⟩

theorem fingerprintOf_eq_nil_iff {marker : Char} {pairs : List (String × String)} :
    fingerprintOf marker pairs = [] ↔ pairs = [] := by
  cases pairs <;> simp [fingerprintOf]

theorem fingerprintOf_perm {pairs others : List (String × String)} (marker : Char) (perm : pairs.Perm others) :
    fingerprintOf marker pairs = fingerprintOf marker others := by
  rw [fingerprintOf, fingerprintOf, perm.isEmpty_eq, sortedDocument_perm perm]

/-- Two lists of pairs have one fingerprint exactly if they are the same. -/
theorem fingerprintOf_eq_iff {marker : Char} {pairs others : List (String × String)}
    (collisionFree : truncDigest (sortedDocument pairs) = truncDigest (sortedDocument others) →
      sortedDocument pairs = sortedDocument others)
    (readBack : sortedDocument pairs = sortedDocument others →
      pairsDocument (sortedPairs pairs) = pairsDocument (sortedPairs others)) :
    fingerprintOf marker pairs = fingerprintOf marker others ↔ pairs.Perm others := by
  refine ⟨?_, fingerprintOf_perm marker⟩
  intro same
  rcases fingerprintOf_cases marker pairs with ⟨none, left⟩ | ⟨-, left⟩ <;>
    rcases fingerprintOf_cases marker others with ⟨nothing, right⟩ | ⟨-, right⟩ <;> rw [left, right] at same
  · rw [none, nothing]
  · cases same
  · cases same
  · simp only [List.cons_eq_cons, true_and] at same
    exact perm_of_sortedDocument readBack (collisionFree same)

/-- The parameters of two requests have one fingerprint exactly if they are the same. -/
theorem paramsFingerprint_eq_iff (collisionFree : CollisionFree first second) (readBack : ReadBack first second) :
    paramsFingerprint first = paramsFingerprint second ↔ (namedContents first).Perm (namedContents second) := by
  rw [paramsFingerprint, paramsFingerprint, fingerprintOf_eq_iff collisionFree.params readBack.params,
    fingerprintItems_eq, fingerprintItems_eq]
  constructor
  · intro perm
    refine perm_of_map_perm ?_ perm
    intro param member other inside same
    rw [Prod.mk.injEq] at same
    exact Prod.ext same.1 (valueFingerprint_injective
      (fun document more is also => readBack.values param member other inside document more is also) same.2)
  · intro perm
    exact perm.map _

theorem identityHeadersFingerprint_eq_iff (collisionFree : CollisionFree first second)
    (readBack : ReadBack first second) :
    identityHeadersFingerprint first = identityHeadersFingerprint second ↔
      (identityHeaders first).Perm (identityHeaders second) :=
  fingerprintOf_eq_iff collisionFree.headers readBack.headers

end Parts

section Segments

variable [Urllib] {first second : Request} {pairs others : List (String × String)} {marker : Char}
open Urllib Identifiers

theorem isHex_digestBytes (data : List UInt8) : IsHex (digestBytes data) := by
  constructor
  · rw [digestBytes, List.length_take, String.length_toList, length_hexdigestBytes]
    rfl
  · exact fun c member => hex_hexdigestBytes data c (List.mem_of_mem_take member)

omit [Urllib] in
theorem colon_not_mem_hex {letters : List Char} (hex : IsHex letters) : ':' ∉ letters :=
  fun colon => absurd (hex.2 _ colon) (by decide)

theorem bodyHash_cases (request : Request) : (sentBody request.body = none ∧ bodyHash request = []) ∨
    ∃ data, sentBody request.body = some data ∧ bodyHash request = '_' :: digestBytes data := by
  unfold bodyHash
  cases sentBody request.body with
  | none => exact .inl ⟨rfl, rfl⟩
  | some data => exact .inr ⟨data, rfl, rfl⟩

theorem colon_not_mem_bodyHash (request : Request) : ':' ∉ bodyHash request := by
  rcases bodyHash_cases request with ⟨-, none⟩ | ⟨data, -, some⟩
  · simp [none]
  · rw [some, List.mem_cons, not_or]
    exact ⟨by decide, colon_not_mem_hex (isHex_digestBytes data)⟩

theorem opens_fingerprints (params headers : List (String × String)) :
    Segments.Opens ':' (fingerprintOf 'p' params ++ fingerprintOf 'h' headers) := by
  rcases fingerprintOf_cases 'p' params with ⟨-, none⟩ | ⟨-, some⟩
  · rcases fingerprintOf_cases 'h' headers with ⟨-, nothing⟩ | ⟨-, something⟩
    · rw [none, nothing]
      exact nofun
    · rw [none, something]
      rintro head ⟨⟩
      rfl
  · rw [some]
    rintro head ⟨⟩
    rfl

/-- The two fingerprints are told apart by their markers. -/
theorem fingerprints_eq {params headers moreParams moreHeaders : List (String × String)}
    (same : fingerprintOf 'p' params ++ fingerprintOf 'h' headers =
      fingerprintOf 'p' moreParams ++ fingerprintOf 'h' moreHeaders) :
    fingerprintOf 'p' params = fingerprintOf 'p' moreParams ∧
      fingerprintOf 'h' headers = fingerprintOf 'h' moreHeaders := by
  have marked : ∀ (headers : List (String × String)) (rest more : List Char),
      fingerprintOf 'h' headers ≠ ':' :: ':' :: 'p' :: rest ++ more := by
    intro headers rest more same
    rcases fingerprintOf_cases 'h' headers with ⟨-, none⟩ | ⟨-, some⟩
    · rw [none] at same
      cases same
    · rw [some] at same
      simp at same
  rcases fingerprintOf_cases 'p' params with ⟨-, none⟩ | ⟨-, some⟩ <;>
    rcases fingerprintOf_cases 'p' moreParams with ⟨-, nothing⟩ | ⟨-, something⟩
  · rw [none, nothing] at same
    exact ⟨none.trans nothing.symm, same⟩
  · rw [none, something] at same
    exact absurd same (marked headers _ _)
  · rw [some, nothing] at same
    exact absurd same.symm (marked moreHeaders _ _)
  · have sizes : (fingerprintOf 'p' params).length = (fingerprintOf 'p' moreParams).length := by
      rw [some, something]
      simp [length_truncDigest]
    exact List.append_inj same sizes

/-- Behind a doubled colon in a fingerprint stands its marker. -/
theorem behind_fingerprint {gap rest : List Char} (same : fingerprintOf marker pairs = gap ++ ':' :: ':' :: rest)
    (visible : marker ≠ ':') :
    pairs ≠ [] ∧ gap = [] ∧ rest = marker :: truncDigest (sortedDocument pairs) := by
  rcases fingerprintOf_cases marker pairs with ⟨-, none⟩ | ⟨filled, some⟩
  · rw [none] at same
    simp at same
  · rw [some] at same
    have free : ':' ∉ marker :: truncDigest (sortedDocument pairs) := by
      rw [List.mem_cons, not_or]
      exact ⟨visible.symm, colon_not_mem_hex (isHex_truncDigest _)⟩
    have end_ : ':' :: ':' :: (marker :: truncDigest (sortedDocument pairs) ++ []) = gap ++ ':' :: ':' :: rest := by
      rw [List.append_nil, same]
    rcases Segments.doubled_mark (List.cons_ne_nil _ _) free end_ with ⟨none, is⟩ | ⟨more, -, nothing⟩
    · exact ⟨filled, none, by rw [is, List.append_nil]⟩
    · simp at nothing

/-- Where a front takes in the beginning of another request, it takes in whole segments of it. -/
theorem behind_fingerprints {params headers : List (String × String)} {gap rest : List Char}
    (same : fingerprintOf 'p' params ++ fingerprintOf 'h' headers = gap ++ ':' :: ':' :: rest) :
    (params ≠ [] ∧ gap = [] ∧ rest = 'p' :: truncDigest (sortedDocument params) ++ fingerprintOf 'h' headers) ∨
      (headers ≠ [] ∧ gap = fingerprintOf 'p' params ∧ rest = 'h' :: truncDigest (sortedDocument headers)) := by
  rcases fingerprintOf_cases 'p' params with ⟨-, none⟩ | ⟨filled, some⟩
  · rw [none, List.nil_append] at same
    obtain ⟨given, nothing, is⟩ := behind_fingerprint same (by decide)
    exact .inr ⟨given, by rw [none, nothing], is⟩
  · have free : ':' ∉ 'p' :: truncDigest (sortedDocument params) := by
      rw [List.mem_cons, not_or]
      exact ⟨by decide, colon_not_mem_hex (isHex_truncDigest _)⟩
    rw [some, List.cons_append, List.cons_append] at same
    rcases Segments.doubled_mark (List.cons_ne_nil _ _) free same with ⟨nothing, is⟩ | ⟨more, is, behind⟩
    · exact .inl ⟨filled, nothing, is⟩
    · obtain ⟨given, nothing, last⟩ := behind_fingerprint behind (by decide)
      rw [nothing, List.append_nil] at is
      exact .inr ⟨given, by rw [is, some], last⟩

end Segments

section Separation

variable [Printable] [Urllib] {first second : Request} {front more : List Char}
open Urllib Encoding Escapes Identifiers

/-- The URL and the body of a request, as they stand in its key. -/
def target (request : Request) : Option (List Char) :=
  (normUrl request).bind fun url =>
    (encodeJobComponent 120 url).map fun component => component.toList ++ bodyHash request

/-- The second URL is the first one, an underscore and the digest of the first body; there is no second body. -/
def TargetConfused (first second : Request) : Prop :=
  ∃ url data, normUrl first = some url ∧ url ≠ "" ∧ sentBody first.body = some data ∧ sentBody second.body = none ∧
    normUrl second = some (url ++ String.ofList ('_' :: digestBytes data)) ∧
    Fits (keepsForbidden defaultForbidden) 120 (url ++ String.ofList ('_' :: digestBytes data))

/-- The digest of the first body stands in the second URL. -/
structure BodyConfused (first second : Request) : Prop where
  method : normMethod first = normMethod second
  target : TargetConfused first second
  params : (namedContents first).Perm (namedContents second)
  headers : (identityHeaders first).Perm (identityHeaders second)

/-- The second method takes in the first method, URL and body, and the second URL is the digest of the parameters. -/
structure ParamsConfused (first second : Request) : Prop where
  given : namedContents first ≠ []
  method : ∃ front ∈ target first, normMethod second = normMethod first ++ ':' :: ':' :: front
  url : normUrl second = some (String.ofList ('p' :: truncDigest (sortedDocument (fingerprintItems first))))
  body : sentBody second.body = none
  params : namedContents second = []
  headers : (identityHeaders first).Perm (identityHeaders second)

/-- The second method takes in everything but the headers of the first request, and the second URL is their digest. -/
structure HeadersConfused (first second : Request) : Prop where
  given : identityHeaders first ≠ []
  method : ∃ front ∈ target first,
    normMethod second = normMethod first ++ ':' :: ':' :: (front ++ paramsFingerprint first)
  url : normUrl second = some (String.ofList ('h' :: truncDigest (sortedDocument (identityHeaders first))))
  body : sentBody second.body = none
  params : namedContents second = []
  headers : identityHeaders second = []

/-- A segment of the first request stands in another segment of the second one. -/
def Confused (first second : Request) : Prop :=
  BodyConfused first second ∨ ParamsConfused first second ∨ HeadersConfused first second

theorem makeKey_eq (request : Request) : makeKey request = (target request).map fun front =>
    normMethod request ++ ':' :: ':' ::
      (front ++ (paramsFingerprint request ++ identityHeadersFingerprint request)) := by
  have colons : "::".toList = [':', ':'] := by decide
  simp only [makeKey, target, Option.bind_eq_bind]
  cases normUrl request with
  | none => rfl
  | some url =>
    simp only [Option.bind_some]
    cases encodeJobComponent 120 url with
    | none => rfl
    | some component => simp [colons]

theorem target_of_normUrl {request : Request} {url : String} (given : normUrl request = some url) :
    ∃ component, encodeJobComponent 120 url = some component ∧
      target request = some (component.toList ++ bodyHash request) := by
  obtain ⟨component, encoded⟩ := encodeJobComponent_eq url
  exact ⟨component, encoded, by rw [target, given, Option.bind_some, encoded, Option.map_some]⟩

theorem target_some {request : Request} (is : target request = some front) :
    ∃ url component, normUrl request = some url ∧ encodeJobComponent 120 url = some component ∧
      front = component.toList ++ bodyHash request := by
  obtain ⟨url, given, mapped⟩ := Option.bind_eq_some_iff.mp is
  obtain ⟨component, encoded, same⟩ := Option.map_eq_some_iff.mp mapped
  exact ⟨url, component, given, encoded, same.symm⟩

theorem colon_not_mem_target {request : Request} (is : target request = some front) : ':' ∉ front := by
  obtain ⟨url, component, -, encoded, rfl⟩ := target_some is
  rw [List.mem_append, not_or]
  exact ⟨colon_not_mem encoded, colon_not_mem_bodyHash request⟩

/-- Behind the method of a key stands something other than a colon. -/
theorem target_filled {request : Request} (is : target request = some front) (rest : List Char) :
    ∃ head ∈ (front ++ rest).head?, head ≠ ':' := by
  have free := colon_not_mem_target is
  obtain ⟨url, component, -, encoded, rfl⟩ := target_some is
  cases letters : component.toList with
  | nil => exact absurd letters (component_ne_nil encoded)
  | cons head tail =>
    rw [letters, List.cons_append, List.mem_cons, not_or] at free
    exact ⟨head, rfl, Ne.symm free.1⟩

theorem not_targetConfused_of_none (none : sentBody first.body = none) : ¬ TargetConfused first second := by
  rintro ⟨url, data, -, -, sent, -⟩
  rw [none] at sent
  cases sent

theorem not_targetConfused_of_some {data : List UInt8} (sent : sentBody second.body = some data) :
    ¬ TargetConfused first second := by
  rintro ⟨url, body, -, -, -, none, -⟩
  rw [sent] at none
  cases none

/-- The URL and body of the first request look like the URL of the second one exactly if that is put together from
them. -/
theorem targetConfused_iff {url other component composed : String} {data : List UInt8}
    (given : normUrl first = some url) (known : normUrl second = some other) (sent : sentBody first.body = some data)
    (none : sentBody second.body = none) (encoded : encodeJobComponent 120 url = some component)
    (also : encodeJobComponent 120 other = some composed) :
    composed.toList = component.toList ++ '_' :: digestBytes data ↔ TargetConfused first second := by
  rw [component_append_iff (isHex_digestBytes data) encoded also]
  constructor
  · rintro ⟨filled, rfl, fits⟩
    exact ⟨url, data, given, filled, sent, none, known, fits⟩
  · rintro ⟨url', data', given', filled, sent', -, known', fits⟩
    rw [given, Option.some.injEq] at given'
    rw [sent, Option.some.injEq] at sent'
    rw [known, Option.some.injEq] at known'
    subst given' sent' known'
    exact ⟨filled, rfl, fits⟩

/-- The URLs and bodies of two requests look alike if they are the same, or if a digest stands in a URL. -/
theorem target_eq_iff (collisionFree : CollisionFree first second) (is : target first = some front)
    (also : target second = some more) :
    front = more ↔ (normUrl first = normUrl second ∧ sentBody first.body = sentBody second.body) ∨
      TargetConfused first second ∨ TargetConfused second first := by
  obtain ⟨url, component, given, encoded, rfl⟩ := target_some is
  obtain ⟨other, composed, known, decoded, rfl⟩ := target_some also
  have urls : component.toList = composed.toList ↔ normUrl first = normUrl second := by
    rw [given, known, Option.some.injEq, String.toList_inj]
    constructor
    · rintro rfl
      exact component_injective (collisionFree.url url given other known) encoded decoded
    · rintro rfl
      exact Option.some.inj (encoded.symm.trans decoded)
  rcases bodyHash_cases first with ⟨none, empty⟩ | ⟨data, sent, hash⟩
  · have notFirst : ¬ TargetConfused first second := not_targetConfused_of_none none
    rcases bodyHash_cases second with ⟨nothing, blank⟩ | ⟨body, filled, digest⟩
    · have notSecond : ¬ TargetConfused second first := not_targetConfused_of_none nothing
      rw [empty, blank, List.append_nil, List.append_nil, urls, none, nothing]
      simp [notFirst, notSecond]
    · rw [empty, digest, List.append_nil, targetConfused_iff known given filled none decoded encoded, none, filled]
      simp [notFirst]
  · have notSecond : ¬ TargetConfused second first := not_targetConfused_of_some sent
    rcases bodyHash_cases second with ⟨nothing, blank⟩ | ⟨body, filled, digest⟩
    · rw [hash, blank, List.append_nil, eq_comm, targetConfused_iff given known sent nothing encoded decoded, sent,
        nothing]
      simp [notSecond]
    · have notFirst : ¬ TargetConfused first second := not_targetConfused_of_some filled
      have bodies : digestBytes data = digestBytes body ↔ data = body :=
        ⟨collisionFree.body data sent body filled, congrArg digestBytes⟩
      have sizes : ('_' :: digestBytes data).length = ('_' :: digestBytes body).length := by
        rw [List.length_cons, List.length_cons, (isHex_digestBytes data).1, (isHex_digestBytes body).1]
      have parts : component.toList ++ '_' :: digestBytes data = composed.toList ++ '_' :: digestBytes body ↔
          component.toList = composed.toList ∧ '_' :: digestBytes data = '_' :: digestBytes body :=
        ⟨fun same => List.append_inj' same sizes, fun same => by rw [same.1, same.2]⟩
      rw [hash, digest, parts, urls, List.cons_eq_cons, bodies, sent, filled]
      simp [notFirst, notSecond]

/-- What a key holds is a marker and a digest exactly if that is the URL and there is no body. -/
theorem target_digest_iff {marker : Char} {letters : List Char} (hex : IsHex letters) (known : marker ∈ ['p', 'h']) :
    target second = some (marker :: letters) ↔
      normUrl second = some (String.ofList (marker :: letters)) ∧ sentBody second.body = none := by
  have plain : ∀ c ∈ marker :: letters, c ∈ "_ph0123456789abcdef".toList := by
    intro c member
    have markers : ['p', 'h'] ⊆ "_ph0123456789abcdef".toList := by decide
    rcases List.mem_cons.mp member with rfl | member
    · exact markers known
    · exact plain_of_isHex hex c member
  have short : (marker :: letters).length ≤ 120 := by
    rw [List.length_cons, hex.1]
    omega
  have bare : '_' ∉ marker :: letters := by
    rw [List.mem_cons, not_or]
    refine ⟨?_, fun underscore => absurd (hex.2 _ underscore) (by decide)⟩
    rintro rfl
    exact absurd known (by decide)
  constructor
  · intro is
    obtain ⟨url, component, given, encoded, same⟩ := target_some is
    rcases bodyHash_cases second with ⟨none, empty⟩ | ⟨data, -, hash⟩
    · rw [empty, List.append_nil] at same
      rw [given, (component_plain_iff (List.cons_ne_nil _ _) short plain encoded).mp same.symm]
      exact ⟨rfl, none⟩
    · rw [same, hash] at bare
      exact absurd (by simp) bare
  · rintro ⟨given, none⟩
    obtain ⟨component, encoded, is⟩ := target_of_normUrl given
    have same := (component_plain_iff (List.cons_ne_nil _ _) short plain encoded).mpr rfl
    rw [is, same, bodyHash, none, List.append_nil]

omit [Printable] in
theorem fingerprints_eq_iff (collisionFree : CollisionFree first second) (readBack : ReadBack first second) :
    paramsFingerprint first ++ identityHeadersFingerprint first =
        paramsFingerprint second ++ identityHeadersFingerprint second ↔
      (namedContents first).Perm (namedContents second) ∧ (identityHeaders first).Perm (identityHeaders second) := by
  rw [← paramsFingerprint_eq_iff collisionFree readBack, ← identityHeadersFingerprint_eq_iff collisionFree readBack]
  exact ⟨fingerprints_eq, fun same => by rw [same.1, same.2]⟩

omit [Printable] in
theorem colon_not_mem_marked {marker : Char} (visible : marker ∈ ['p', 'h']) (text : String) :
    ':' ∉ marker :: truncDigest text := by
  rw [List.mem_cons, not_or]
  refine ⟨?_, colon_not_mem_hex (isHex_truncDigest text)⟩
  rintro rfl
  exact absurd visible (by decide)

/-- Where a longer method takes in the beginning of the other key, it ends in front of a digest. -/
theorem confused_of_taken_in (collisionFree : CollisionFree first second) (readBack : ReadBack first second)
    {gap : List Char} (is : target first = some front) (also : target second = some more)
    (method : normMethod second = normMethod first ++ ':' :: ':' :: gap)
    (same : front ++ (paramsFingerprint first ++ identityHeadersFingerprint first) =
      gap ++ ':' :: ':' :: (more ++ (paramsFingerprint second ++ identityHeadersFingerprint second))) :
    Confused first second := by
  obtain ⟨rest, longer, behind⟩ := Segments.behind_front (colon_not_mem_target is) same
  rcases behind_fingerprints behind with ⟨filled, none, segment⟩ | ⟨filled, before, segment⟩
  · obtain ⟨digest, fingerprints⟩ := Segments.front_eq (colon_not_mem_target also)
      (colon_not_mem_marked (by decide) _) (opens_fingerprints _ _) (opens_fingerprints [] _) segment
    obtain ⟨url, body⟩ := (target_digest_iff (isHex_truncDigest _) (by decide)).mp (digest ▸ also)
    obtain ⟨params, headers⟩ := fingerprints_eq (fingerprints : _ = fingerprintOf 'p' [] ++ _)
    exact .inr (.inl
      { given := fun nothing => filled (fingerprintItems_eq_nil_iff.mpr nothing)
        method := ⟨front, is, by rw [method, longer, none, List.append_nil]⟩
        url := url
        body := body
        params := fingerprintItems_eq_nil_iff.mp (fingerprintOf_eq_nil_iff.mp params)
        headers := (identityHeadersFingerprint_eq_iff collisionFree readBack).mp headers.symm })
  · rw [← List.append_nil ('h' :: _)] at segment
    obtain ⟨digest, fingerprints⟩ := Segments.front_eq (colon_not_mem_target also)
      (colon_not_mem_marked (by decide) _) (opens_fingerprints _ _) (opens_fingerprints [] []) segment
    obtain ⟨url, body⟩ := (target_digest_iff (isHex_truncDigest _) (by decide)).mp (digest ▸ also)
    obtain ⟨params, headers⟩ := fingerprints_eq (fingerprints : _ = fingerprintOf 'p' [] ++ fingerprintOf 'h' [])
    exact .inr (.inr
      { given := filled
        method := ⟨front, is, by rw [method, longer, before, paramsFingerprint]⟩
        url := url
        body := body
        params := fingerprintItems_eq_nil_iff.mp (fingerprintOf_eq_nil_iff.mp params)
        headers := fingerprintOf_eq_nil_iff.mp headers })

theorem makeKey_of_target {request : Request} (is : target request = some front) : makeKey request =
    some (normMethod request ++ ':' :: ':' ::
      (front ++ (paramsFingerprint request ++ identityHeadersFingerprint request))) := by
  rw [makeKey_eq, is, Option.map_some]

/-- A key whose URL is the digest of the parameters, behind a method that takes in the rest. -/
theorem same_key_of_paramsConfused (confused : ParamsConfused first second) :
    ∃ key, makeKey first = some key ∧ makeKey second = some key := by
  obtain ⟨front, is, method⟩ := confused.method
  have also := (target_digest_iff (isHex_truncDigest _) (by decide)).mpr ⟨confused.url, confused.body⟩
  have filled : fingerprintItems first ≠ [] := fun nothing =>
    confused.given (fingerprintItems_eq_nil_iff.mp nothing)
  have params : paramsFingerprint second = [] :=
    fingerprintOf_eq_nil_iff.mpr (fingerprintItems_eq_nil_iff.mpr confused.params)
  have headers : identityHeadersFingerprint second = identityHeadersFingerprint first :=
    fingerprintOf_perm 'h' confused.headers.symm
  have segment : paramsFingerprint first =
      ':' :: ':' :: 'p' :: truncDigest (sortedDocument (fingerprintItems first)) := by
    rcases fingerprintOf_cases 'p' (fingerprintItems first) with ⟨none, -⟩ | ⟨-, some⟩
    · exact absurd none filled
    · exact some
  refine ⟨_, makeKey_of_target is, ?_⟩
  rw [makeKey_of_target also, method, params, headers, segment]
  simp

/-- A key whose URL is the digest of the headers, behind a method that takes in the rest. -/
theorem same_key_of_headersConfused (confused : HeadersConfused first second) :
    ∃ key, makeKey first = some key ∧ makeKey second = some key := by
  obtain ⟨front, is, method⟩ := confused.method
  have also := (target_digest_iff (isHex_truncDigest _) (by decide)).mpr ⟨confused.url, confused.body⟩
  have params : paramsFingerprint second = [] :=
    fingerprintOf_eq_nil_iff.mpr (fingerprintItems_eq_nil_iff.mpr confused.params)
  have headers : identityHeadersFingerprint second = [] := fingerprintOf_eq_nil_iff.mpr confused.headers
  have segment : identityHeadersFingerprint first =
      ':' :: ':' :: 'h' :: truncDigest (sortedDocument (identityHeaders first)) := by
    rcases fingerprintOf_cases 'h' (identityHeaders first) with ⟨none, -⟩ | ⟨-, some⟩
    · exact absurd none confused.given
    · exact some
  refine ⟨_, makeKey_of_target is, ?_⟩
  rw [makeKey_of_target also, method, params, headers, segment]
  simp

/-- Keys with the same method. -/
theorem key_eq_iff (collisionFree : CollisionFree first second) (readBack : ReadBack first second)
    (is : target first = some front) (also : target second = some more) :
    front ++ (paramsFingerprint first ++ identityHeadersFingerprint first) =
        more ++ (paramsFingerprint second ++ identityHeadersFingerprint second) ↔
      ((normUrl first = normUrl second ∧ sentBody first.body = sentBody second.body) ∨
          TargetConfused first second ∨ TargetConfused second first) ∧
        (namedContents first).Perm (namedContents second) ∧ (identityHeaders first).Perm (identityHeaders second) := by
  rw [← target_eq_iff collisionFree is also, ← fingerprints_eq_iff collisionFree readBack]
  constructor
  · exact Segments.front_eq (colon_not_mem_target is) (colon_not_mem_target also) (opens_fingerprints _ _)
      (opens_fingerprints _ _)
  · intro same
    rw [same.1, same.2]

theorem same_of_makeKey_eq (collisionFree : CollisionFree first second) (readBack : ReadBack first second)
    {key : List Char} (made : makeKey first = some key) (alsoMade : makeKey second = some key) :
    SameRequest first second ∨ Confused first second ∨ Confused second first := by
  rw [makeKey_eq, Option.map_eq_some_iff] at made alsoMade
  obtain ⟨front, is, rfl⟩ := made
  obtain ⟨more, also, same⟩ := alsoMade
  rcases Segments.doubled_mark_cases (target_filled is _) (target_filled also _) same.symm with
    ⟨method, rest⟩ | ⟨gap, longer, rest⟩ | ⟨gap, longer, rest⟩
  · obtain ⟨targets, params, headers⟩ := (key_eq_iff collisionFree readBack is also).mp rest
    rcases targets with ⟨url, body⟩ | confused | confused
    · exact .inl ⟨method, url, body, params, headers⟩
    · exact .inr (.inl (.inl ⟨method, confused, params, headers⟩))
    · exact .inr (.inr (.inl ⟨method.symm, confused, params.symm, headers.symm⟩))
  · exact .inr (.inl (confused_of_taken_in collisionFree readBack is also longer rest))
  · exact .inr (.inr (confused_of_taken_in collisionFree.symm readBack.symm also is longer rest))

theorem same_key_of_bodyConfused (collisionFree : CollisionFree first second) (readBack : ReadBack first second)
    (confused : BodyConfused first second) : ∃ key, makeKey first = some key ∧ makeKey second = some key := by
  obtain ⟨url, data, given, -, -, -, known, -⟩ := confused.target
  obtain ⟨_, _, is⟩ := target_of_normUrl given
  obtain ⟨_, _, also⟩ := target_of_normUrl known
  have rest := (key_eq_iff collisionFree readBack is also).mpr
    ⟨.inr (.inl confused.target), confused.params, confused.headers⟩
  exact ⟨_, makeKey_of_target is, by rw [makeKey_of_target also, confused.method, rest]⟩

theorem same_key_of_confused (collisionFree : CollisionFree first second) (readBack : ReadBack first second)
    (confused : Confused first second) : ∃ key, makeKey first = some key ∧ makeKey second = some key := by
  rcases confused with body | params | headers
  · exact same_key_of_bodyConfused collisionFree readBack body
  · exact same_key_of_paramsConfused params
  · exact same_key_of_headersConfused headers

theorem not_sameRequest_of_confused (confused : Confused first second) : ¬ SameRequest first second := by
  have longer : ∀ rest, normMethod second ≠ normMethod second ++ ':' :: ':' :: rest := by
    intro rest same
    have sizes := congrArg List.length same
    simp at sizes
  intro same
  rcases confused with body | params | headers
  · obtain ⟨url, data, -, -, sent, none, -⟩ := body.target
    rw [same.body, none] at sent
    cases sent
  · obtain ⟨front, -, method⟩ := params.method
    rw [same.method] at method
    exact longer _ method
  · obtain ⟨front, -, method⟩ := headers.method
    rw [same.method] at method
    exact longer _ method

/-- Requests with one key are the same exactly when no segment of the one stands in another segment of the other. -/
theorem keys_separate_iff (collisionFree : CollisionFree first second) (readBack : ReadBack first second) :
    (∀ key, makeKey first = some key → makeKey second = some key → SameRequest first second) ↔
      ¬ Confused first second ∧ ¬ Confused second first := by
  constructor
  · intro separate
    constructor
    · intro confused
      obtain ⟨key, made, alsoMade⟩ := same_key_of_confused collisionFree readBack confused
      exact not_sameRequest_of_confused confused (separate key made alsoMade)
    · intro confused
      obtain ⟨key, made, alsoMade⟩ := same_key_of_confused collisionFree.symm readBack.symm confused
      exact not_sameRequest_of_confused confused (separate key alsoMade made).symm
  · rintro ⟨forward, backward⟩ key made alsoMade
    rcases same_of_makeKey_eq collisionFree readBack made alsoMade with same | confused | confused
    · exact same
    · exact absurd confused forward
    · exact absurd confused backward

end Separation

section Sample

/-- A URL of a host `a`, by its path. -/
def sampleUrl (path : String) : ParseResult := ⟨"https", "a", path, "", "", ""⟩

/-- The digests of one body and of two URLs. -/
def sampleDigest (data : List UInt8) : String :=
  if data = [0x31] then "6b86b273ff34fce19d6b804eff5a3f5747ada4eaa22f1d49c01e52ddb7875b4b"
  else if data = encodeText "https://a/x" then "30c4c44c2fbb7a352607ffbfd80b84ab0b82b52505824d50fecba1d48046b222"
  else if data = encodeText "https://a/x_6b86b273ff34fce1" then
    "759f1e01cd8bbe9b8dfa463793f42db6551815fc39e0d3793e64b0d22519ccd9"
  else String.ofList (List.replicate 64 '0')

theorem length_sampleDigest (data : List UInt8) : (sampleDigest data).length = 64 := by
  unfold sampleDigest
  split_ifs <;> decide +kernel

theorem hex_sampleDigest (data : List UInt8) : (sampleDigest data).toList ⊆ "0123456789abcdef".toList := by
  unfold sampleDigest
  split_ifs <;> decide +kernel

/-- The standard library on two URLs, as far as it is asked. -/
@[reducible] def sampleUrllib : Urllib where
  hexdigest text := sampleDigest (encodeText text)
  length_hexdigest text := length_sampleDigest (encodeText text)
  hex_hexdigest text _ member := hex_sampleDigest (encodeText text) member
  strip := id
  lower := id
  upper := id
  urlparse text :=
    if text = "https://a/x" then some (sampleUrl "/x")
    else if text = "https://a/x_6b86b273ff34fce1" then some (sampleUrl "/x_6b86b273ff34fce1")
    else none
  parseQsl _ := []
  urlencode _ := ""
  urlunparse parsed := parsed.scheme ++ "://" ++ parsed.netloc ++ parsed.path
  dumps _ := "[]"
  hexdigestBytes := sampleDigest
  hexdigestBytes_text _ := rfl
  length_hexdigestBytes := length_sampleDigest
  hex_hexdigestBytes data _ member := hex_sampleDigest data member

local instance : Urllib := sampleUrllib
local instance : Printable := Models.Admission.samplePrintable

/-- A body of one character. -/
def posted : Request := ⟨"https://a/x", "POST", Dict.empty, .bytes [0x31], Dict.empty⟩

/-- The same without a body. -/
def plain : Request := ⟨"https://a/x", "POST", Dict.empty, .none, Dict.empty⟩

/-- No body, and an underscore and the digest of the posted one in the URL. -/
def imitating : Request := ⟨"https://a/x_6b86b273ff34fce1", "POST", Dict.empty, .none, Dict.empty⟩

theorem collisionFree_posted {second : Request} (params : fingerprintItems second = [])
    (headers : identityHeaders second = []) (none : sentBody second.body = none)
    (url : ∀ url ∈ normUrl posted, ∀ other ∈ normUrl second,
      Identifiers.truncDigest url = Identifiers.truncDigest other → url = other) : CollisionFree posted second where
  url := url
  body data _ other sent := by
    rw [none] at sent
    cases sent
  params _ := by rw [params]; rfl
  headers _ := by rw [headers]; rfl

theorem readBack_posted {second : Request} (params : fingerprintItems second = [])
    (headers : identityHeaders second = []) : ReadBack posted second where
  params _ := by rw [params]; rfl
  headers _ := by rw [headers]; rfl
  values param none := by cases none

theorem unconfused_posted_plain : ¬ Confused posted plain := by
  rintro (body | params | headers)
  · obtain ⟨url, data, given, -, sent, -, known, -⟩ := body.target
    have is : normUrl posted = some "https://a/x" := by decide
    have also : normUrl plain = some "https://a/x" := by decide
    rw [is, Option.some.injEq] at given
    rw [also, Option.some.injEq, ← given] at known
    have sizes := congrArg String.length known
    simp at sizes
  · exact params.given rfl
  · exact headers.given rfl

theorem unconfused_plain_posted : ¬ Confused plain posted := by
  rintro (body | params | headers)
  · exact not_targetConfused_of_none rfl body.target
  · exact params.given rfl
  · exact headers.given rfl

theorem makeKey_posted_isSome : (makeKey posted).isSome := by decide +kernel

theorem sentBody_posted : sentBody posted.body = some [0x31] := by decide

/-- A body and no body at one URL have two keys. -/
theorem bodies_separated : makeKey posted ≠ makeKey plain := by
  intro one
  have oneUrl : normUrl posted = normUrl plain := rfl
  have collisionFree : CollisionFree posted plain := by
    apply collisionFree_posted rfl rfl rfl
    intro url known other also same
    exact Option.some.inj (known.symm.trans (oneUrl.trans also))
  obtain ⟨key, is⟩ := Option.isSome_iff_exists.mp makeKey_posted_isSome
  have same : SameRequest posted plain := (keys_separate_iff collisionFree (readBack_posted rfl rfl)).mpr
    ⟨unconfused_posted_plain, unconfused_plain_posted⟩ key is (one ▸ is)
  have none : sentBody plain.body = none := by decide
  cases sentBody_posted.symm.trans (same.body.trans none)

/-- A URL that ends in an underscore and the digest of a body has the key of the shorter URL with that body. -/
theorem body_imitated : ¬ ∀ first second : Request, CollisionFree first second → ReadBack first second →
    ∀ key, makeKey first = some key → makeKey second = some key → SameRequest first second := by
  intro all
  have collisionFree : CollisionFree posted imitating := by
    apply collisionFree_posted rfl rfl rfl
    intro url known other also same
    have first : normUrl posted = some "https://a/x" := by decide
    have second : normUrl imitating = some "https://a/x_6b86b273ff34fce1" := by decide
    rw [first, Option.mem_some_iff] at known
    rw [second, Option.mem_some_iff] at also
    rw [← known, ← also] at same
    exact absurd same (by decide +kernel)
  have one : makeKey posted = makeKey imitating := by decide +kernel
  obtain ⟨key, is⟩ := Option.isSome_iff_exists.mp makeKey_posted_isSome
  have same := all posted imitating collisionFree (readBack_posted rfl rfl) key is (one ▸ is)
  have none : sentBody imitating.body = none := by decide
  cases sentBody_posted.symm.trans (same.body.trans none)

end Sample

end Tasklite.Wrappers.SnapshotKeys
