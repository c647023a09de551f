import RowCast.Text.Digits

/-!
# Calendar dates

Days of the proleptic Gregorian calendar, the days next to them and their text.
-/

namespace RowCast

/-- Whether a year has a 29th of February. -/
def isLeapYear (year : Int) : Bool :=
  year % 4 == 0 && (year % 100 != 0 || year % 400 == 0)

/-- The number of days of a month, zero for a number that is no month. -/
def daysInMonth (year : Int) (month : Nat) : Nat :=
  match month with
  | 1 | 3 | 5 | 7 | 8 | 10 | 12 => 31
  | 4 | 6 | 9 | 11 => 30
  | 2 => if isLeapYear year then 29 else 28
  | _ => 0

/-- Whether the numbers name a day, from the first one of -262143 to the last one of 262142. -/
def IsDate (year : Int) (month day : Nat) : Prop :=
  -262143 ≤ year ∧ year ≤ 262142 ∧ 1 ≤ day ∧ day ≤ daysInMonth year month

instance (year : Int) (month day : Nat) : Decidable (IsDate year month day) :=
  inferInstanceAs (Decidable (_ ∧ _))

/-- A day of the calendar. -/
structure Date where
  year : Int
  month : Nat
  day : Nat
  valid : IsDate year month day
  deriving DecidableEq

namespace Date

/-- The day that the numbers name, if they name one. -/
def of? (year : Int) (month day : Nat) : Option Date :=
  if h : IsDate year month day then some ⟨year, month, day, h⟩ else none

/-- The day after, unless this is the last one. -/
def next? (d : Date) : Option Date :=
  (of? d.year d.month (d.day + 1)).or <|
    if d.month < 12 then of? d.year (d.month + 1) 1 else of? (d.year + 1) 1 1

/-- The day before, unless this is the first one. -/
def previous? (d : Date) : Option Date :=
  if 1 < d.day then of? d.year d.month (d.day - 1)
  else if 1 < d.month then of? d.year (d.month - 1) (daysInMonth d.year (d.month - 1))
  else of? (d.year - 1) 12 31

/-- A year of four digits as it is, any other year with its sign and at least four digits. -/
def yearText (year : Int) : List Char :=
  if 0 ≤ year ∧ year ≤ 9999 then Text.paddedText 4 year.natAbs
  else (if year < 0 then '-' else '+') :: Text.paddedText 4 year.natAbs

/-- The text `YYYY-MM-DD` of a day. -/
def text (d : Date) : List Char :=
  yearText d.year ++ '-' :: Text.paddedText 2 d.month ++ '-' :: Text.paddedText 2 d.day

end Date

end RowCast
