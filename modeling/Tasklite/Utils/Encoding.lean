import Mathlib.Data.Int.Notation
import Mathlib.Data.List.Basic

/-! Identifiers and file names derived from other texts: what is not clean is escaped, and an
identifier that is too long ends in a digest of the whole text. -/

namespace Tasklite.Utils

/-- The digest of the standard library, of a text in UTF-8: 64 lower-case hexadecimal digits. -/
class Sha256 where
  hexdigest : String → String
  length_hexdigest : ∀ text, (hexdigest text).length = 64
  hex_hexdigest : ∀ text, ∀ c ∈ (hexdigest text).toList, c ∈ "0123456789abcdef".toList

/-- A digest of zeros, for samples that need none. -/
@[reducible] def Sha256.sample : Sha256 where
  hexdigest := fun _ => String.ofList (List.replicate 64 '0')
  length_hexdigest := by
    intro text
    rw [String.length_ofList, List.length_replicate]
  hex_hexdigest := by
    intro text c member
    rw [String.toList_ofList, List.mem_replicate] at member
    rw [member.2]
    decide +kernel

/-- `str.isprintable` of one character. Beyond ASCII it is a table of the Unicode database. -/
class Printable where
  isPrintable : Char → Bool
  isPrintable_ascii : ∀ c : Char, c.toNat < 128 → isPrintable c = decide (32 ≤ c.toNat ∧ c.toNat < 127)

namespace Encoding

/-- `text.replace(char, escape)` for a pattern of one character. -/
def replaceChar (char : Char) (escape : String) (text : List Char) : List Char :=
  text.flatMap (fun c => if c = char then escape.toList else [c])

/-- Characters a file system may reserve, in the order the source replaces them. -/
def fsEscapeChars : List (Char × String) :=
  [('/', "%2F"), ('\\', "%5C"), ('\x00', "%00"), ('*', "%2A"), ('?', "%3F"), ('[', "%5B"),
    (']', "%5D"), (':', "%3A")]

/-- The percent sign is replaced first, then every reserved character in turn. -/
def encodeJobUidFilename (jobUid : String) : String :=
  String.ofList ((('%', "%25") :: fsEscapeChars).foldl
    (fun text escape => replaceChar escape.1 escape.2 text) jobUid.toList)

section Identifier

/-- Path separators, the colon, and the percent sign. -/
def defaultForbidden : String := "/\\:%"

def contentIdAllowed : String := "abcdefghijklmnopqrstuvwxyzABCDEFGHIJKLMNOPQRSTUVWXYZ0123456789-_."

/-- A lone percent sign: no text that is not empty is encoded like this. -/
def emptySentinel : String := "%untitled"

def truncDigestHex : ℕ := 16

def truncMarker : String := "%_"

def truncFixedLen : ℕ := truncMarker.length + truncDigestHex

def hexDigit (digit : ℕ) : Char := "0123456789ABCDEF".toList.getD digit '0'

/-- `%XX` of a byte. -/
def escapeByte (byte : UInt8) : List Char := ['%', hexDigit (byte.toNat / 16), hexDigit (byte.toNat % 16)]

/-- One character: the percent sign is always escaped, and what is not kept is escaped byte by byte. -/
def escapeChar (keeps : Char → Bool) (c : Char) : List Char :=
  if c = '%' then "%25".toList
  else if keeps c then [c]
  else (String.utf8EncodeChar c).flatMap escapeByte

/-- `percent_encode`, for the characters that either of its arguments keeps. -/
def percentEncode (keeps : Char → Bool) (text : String) : String :=
  String.ofList (text.toList.flatMap (escapeChar keeps))

/-- Cut a text back to before an escape that is not complete. -/
def dropOpenEscape (letters : List Char) : List Char :=
  match letters.reverse with
  | '%' :: rest => rest.reverse
  | _ :: '%' :: rest => rest.reverse
  | _ => letters

variable [Sha256]

/-- An identifier of at most `maxLen` characters. Nothing where the source raises, as the digest alone would
not fit. -/
def encodeIdentifier (keeps : Char → Bool) (maxLen : ℤ) (fallback : String) (text : String) : Option String :=
  if text = "" then some fallback
  else
    let escaped := percentEncode keeps text
    if escaped.length ≤ maxLen then some escaped
    else
      let digest := (Sha256.hexdigest text).toList.take truncDigestHex
      let baseLimit := maxLen - truncFixedLen
      if baseLimit < 0 then none
      else some (String.ofList (dropOpenEscape (escaped.toList.take baseLimit.toNat) ++ truncMarker.toList ++ digest))

def isClean (c : Char) : Bool := c ∈ contentIdAllowed.toList

def encodeContentId (maxLen : ℤ) (contentId : String) : Option String :=
  if contentId = "" then some emptySentinel
  else if contentId.toList.all isClean ∧ contentId.length ≤ maxLen then some contentId
  else encodeIdentifier isClean maxLen emptySentinel contentId

/-- Printable, and not one of `forbidden`; no character stands for the default ones. -/
def keepsForbidden [Printable] (forbidden : String) (c : Char) : Bool :=
  Printable.isPrintable c && c ∉ (if forbidden = "" then defaultForbidden else forbidden).toList

def encodeJobComponent [Printable] (maxLen : ℤ) (value : String) : Option String :=
  encodeIdentifier (keepsForbidden defaultForbidden) maxLen emptySentinel value

end Identifier

end Encoding

end Tasklite.Utils
