import RowCast.Calendar.Pattern
import RowCast.Text.CaseFold

/-!
# Interchange forms of dates and times

How days, times and instants are read from interchange text: blanks around the separators are
allowed, seconds of a time of day may be missing, and an instant ends with a zone.
-/

namespace RowCast

/-- The pattern of a day, with blanks before the separators. -/
def looseDatePattern : List PatternItem :=
  [.year, .blanks, .literal '-', .month, .blanks, .literal '-', .day]

/-- The pattern of hours and minutes. -/
def looseMinutePattern : List PatternItem :=
  [.hour, .blanks, .literal ':', .minute]

/-- The pattern of seconds behind minutes. -/
def looseSecondPattern : List PatternItem :=
  [.blanks, .literal ':', .second, .fraction, .blanks]

/-- Read a day; blanks may follow it. -/
def Date.readLoose (s : List Char) : Option Date :=
  ((readExactly (looseDatePattern ++ [.blanks]) s).bind TemporalFields.toDate).toOption

/-- Read a time of day; seconds may be missing and blanks may follow. -/
def TimeOfDay.readLoose (s : List Char) : Option TimeOfDay := do
  let (minutes, rest) ← (readPattern looseMinutePattern .start s).toOption
  let (fields, rest) := match readPattern looseSecondPattern minutes rest with
    | .ok read => read
    | .error _ => (minutes, rest)
  if Text.trimStart rest = [] then fields.toTime.toOption else none

/-- Read two digits. -/
def readTwoDigits : List Char → Option (Nat × List Char)
  | a :: b :: rest => do
    let tens ← Text.digitValue? a
    let units ← Text.digitValue? b
    some (tens * 10 + units, rest)
  | _ => none

/--
Read a signed offset `±HH:MM` in minutes, shorter than a day; the colon may be missing or be blanks.
-/
def readOffset (s : List Char) : Option (Int × List Char) := do
  let (negative, s) ← match s with
    | '+' :: rest => some (false, rest)
    | '-' :: rest => some (true, rest)
    | '\u2212' :: rest => some (true, rest)
    | _ => none
  let (hours, s) ← readTwoDigits s
  let (minutes, s) ← readTwoDigits (s.dropWhile fun c => c == ':' || Text.isBlank c)
  let total : Int := (hours * 60 + minutes : Nat)
  if 60 ≤ minutes ∨ 1440 ≤ total then none
  else some (if negative then -total else total, s)

/-- Read a zone: `Z`, `UTC` in any case, or an offset. -/
def readZone (s : List Char) : Option (Int × List Char) :=
  if Text.sameIgnoringCase (s.take 3) ['u', 't', 'c'] then some (0, s.drop 3)
  else match s with
    | 'Z' :: rest => some (0, rest)
    | 'z' :: rest => some (0, rest)
    | s => readOffset s

/-- Read an instant: a day, `T` or a blank space, a time with seconds, and a zone. -/
def Timestamp.readLoose (s : List Char) : Option Timestamp := do
  let (fields, rest) ← (readPattern looseDatePattern .start s).toOption
  let rest ← match rest with
    | c :: rest => if c = 'T' ∨ c = 't' ∨ c = ' ' then some rest else none
    | [] => none
  let (fields, rest) ←
    (readPattern (looseMinutePattern ++ looseSecondPattern) fields rest).toOption
  let (offset, rest) ← readZone (Text.trimStart rest)
  if Text.trimStart rest ≠ [] then none else
    let date ← fields.toDate.toOption
    let time ← fields.toTime.toOption
    Timestamp.ofLocal? date time offset

end RowCast
