import Mathlib.Data.Int.Notation
import Mathlib.Data.String.Basic

/-! Timestamps as texts and as microseconds. What a text in ISO format stands for is
left to the library's parser, which is a parameter. -/

namespace Tasklite.Utils

/-- A date and time as the parser gives it: microseconds since the epoch on its own clock, and how far that
clock is ahead of UTC, if it is known. -/
structure DateTime where
  ticks : ℤ
  offset : Option ℤ
deriving DecidableEq

/-- The instant that a text names, in microseconds; nothing where the source raises. -/
def parseUtcIsoToUs (fromisoformat : String → Option DateTime) (isoStr : String) : Option ℤ :=
  if isoStr = "" then none
  else
    let normalized :=
      if isoStr.toList.getLast? = some 'Z' ∨ isoStr.toList.getLast? = some 'z' then
        String.ofList isoStr.toList.dropLast ++ "+00:00"
      else isoStr
    match fromisoformat normalized with
    | some ⟨ticks, some offset⟩ => some (ticks - offset)
    | _ => none

end Tasklite.Utils
