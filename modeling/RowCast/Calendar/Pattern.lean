import RowCast.Calendar.Timestamp
import RowCast.Text.Blank

/-!
# Temporal patterns

Dates and times read from text by a pattern: a list of fields, fixed characters and optional blanks.
-/

namespace RowCast

open scoped CorePowers

/-- Why a text does not follow a pattern. -/
inductive TemporalError where
  | outOfRange
  | invalid
  | tooShort
  | trailing
  deriving DecidableEq, Repr

namespace TemporalError

/-- The text of an error in a day or a time. -/
def message : TemporalError → String
  | outOfRange => "input is out of range"
  | invalid => "input contains invalid characters"
  | tooShort => "premature end of input"
  | trailing => "trailing input"

end TemporalError

/-- One element of a pattern. -/
inductive PatternItem where
  /-- A year: up to four digits, or a sign and any number of digits. -/
  | year
  | month
  | day
  | hour
  | minute
  /-- A second, 60 included. -/
  | second
  /-- A fraction of a second behind a point, or nothing. -/
  | fraction
  | literal (c : Char)
  /-- Any number of blanks. -/
  | blanks
  deriving DecidableEq, Repr

/-- The numbers that a pattern has read. -/
structure TemporalFields where
  year : Int
  month : Nat
  day : Nat
  hour : Nat
  minute : Nat
  second : Nat
  nano : Nat
  deriving DecidableEq

namespace TemporalFields

/-- Midnight, before any field is read. -/
def start : TemporalFields := ⟨0, 0, 0, 0, 0, 0, 0⟩

/-- The day that the fields name. -/
def toDate (f : TemporalFields) : Except TemporalError Date :=
  match Date.of? f.year f.month f.day with
  | some d => .ok d
  | none => .error .outOfRange

/-- The time that the fields name; second 60 is a leap second. -/
def toTime (f : TemporalFields) : Except TemporalError TimeOfDay :=
  let time :=
    if f.second = 60 then TimeOfDay.of? f.hour f.minute 59 (1000000000 + f.nano)
    else TimeOfDay.of? f.hour f.minute f.second f.nano
  match time with
  | some t => .ok t
  | none => .error .outOfRange

end TemporalFields

namespace PatternItem

/-- Split off the leading digits, at most `limit` of them where there is a limit. -/
def takeDigits (limit : Option Nat) (s : List Char) : List Char × List Char :=
  match limit with
  | some n => ((s.take n).takeWhile Text.isDigit, (s.take n).dropWhile Text.isDigit ++ s.drop n)
  | none => Text.spanDigits s

/-- Read a number of at least one digit, below `2 ^ 63`; also says how many digits it has. -/
def readDigits (limit : Option Nat) (s : List Char) :
    Except TemporalError (Nat × Nat × List Char) :=
  let (digits, rest) := takeDigits limit s
  if s = [] then .error .tooShort
  else if digits = [] then .error .invalid
  else
    let n := Text.digitsValue 0 digits
    if n < 2 ^ (63 : Nat) then .ok (n, digits.length, rest) else .error .outOfRange

/-- Read a number of one or two digits, after blanks, and check that it lies between two bounds. -/
def readBounded (low high : Nat) (s : List Char) : Except TemporalError (Nat × List Char) := do
  let (n, _, rest) ← readDigits (some 2) (Text.trimStart s)
  if low ≤ n ∧ n ≤ high then .ok (n, rest) else .error .outOfRange

/-- Read a year, after blanks, and check that it fits 32 bits. -/
def readYear (s : List Char) : Except TemporalError (Int × List Char) := do
  let (n, rest) ← match Text.trimStart s with
    | '-' :: digits => do
      let (n, _, rest) ← readDigits none digits
      pure (-(n : Int), rest)
    | '+' :: digits => do
      let (n, _, rest) ← readDigits none digits
      pure ((n : Int), rest)
    | digits => do
      let (n, _, rest) ← readDigits (some 4) digits
      pure ((n : Int), rest)
  if -2 ^ (31 : Nat) ≤ n ∧ n < 2 ^ (31 : Nat) then .ok (n, rest) else .error .outOfRange

/-- Read the fraction behind a point in nanoseconds; digits after the ninth are passed over. -/
def readFraction : List Char → Except TemporalError (Option Nat × List Char)
  | '.' :: s => do
    let (n, count, rest) ← readDigits (some 9) s
    .ok (some (n * 10 ^ (9 - count)), rest.dropWhile Text.isDigit)
  | s => .ok (none, s)

/-- Read one element of a pattern. -/
def read (item : PatternItem) (f : TemporalFields) (s : List Char) :
    Except TemporalError (TemporalFields × List Char) :=
  match item with
  | year => (readYear s).map fun (n, rest) => ({ f with year := n }, rest)
  | month => (readBounded 1 12 s).map fun (n, rest) => ({ f with month := n }, rest)
  | day => (readBounded 1 31 s).map fun (n, rest) => ({ f with day := n }, rest)
  | hour => (readBounded 0 23 s).map fun (n, rest) => ({ f with hour := n }, rest)
  | minute => (readBounded 0 59 s).map fun (n, rest) => ({ f with minute := n }, rest)
  | second => (readBounded 0 60 s).map fun (n, rest) => ({ f with second := n }, rest)
  | fraction => (readFraction s).map fun (n, rest) => ({ f with nano := n.getD f.nano }, rest)
  | literal c =>
    match s with
    | [] => .error .tooShort
    | d :: rest => if d = c then .ok (f, rest) else .error .invalid
  | blanks => .ok (f, Text.trimStart s)

end PatternItem

/-- Read a whole pattern from the front of a text; what follows is left over. -/
def readPattern : List PatternItem → TemporalFields → List Char →
    Except TemporalError (TemporalFields × List Char)
  | [], f, s => .ok (f, s)
  | item :: items, f, s =>
    match item.read f s with
    | .ok (f, s) => readPattern items f s
    | .error e => .error e

/-- Read a pattern that must take the whole text. -/
def readExactly (items : List PatternItem) (s : List Char) : Except TemporalError TemporalFields :=
  match readPattern items .start s with
  | .ok (f, []) => .ok f
  | .ok (_, _ :: _) => .error .trailing
  | .error e => .error e

/-- The pattern `YYYY-MM-DD`. -/
def datePattern : List PatternItem :=
  [.year, .literal '-', .month, .literal '-', .day]

/-- The pattern `HH:MM:SS` with an optional fraction. -/
def timePattern : List PatternItem :=
  [.hour, .literal ':', .minute, .literal ':', .second, .fraction]

/-- Read a day in the form `YYYY-MM-DD`. -/
def Date.read (s : List Char) : Except TemporalError Date :=
  (readExactly datePattern s).bind TemporalFields.toDate

/-- Read a time in the form `HH:MM:SS` with an optional fraction. -/
def TimeOfDay.read (s : List Char) : Except TemporalError TimeOfDay :=
  (readExactly timePattern s).bind TemporalFields.toTime

/-- Read a day and a time with blanks between them, in UTC. -/
def Timestamp.read (s : List Char) : Except TemporalError Timestamp := do
  let f ← readExactly (datePattern ++ .blanks :: timePattern) s
  let date ← f.toDate
  let time ← f.toTime
  pure ⟨date, time⟩

end RowCast
