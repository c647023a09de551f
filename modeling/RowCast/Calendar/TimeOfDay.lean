import RowCast.Text.Digits

/-!
# Times of day

Times to the nanosecond and their text. A leap second follows its second as nanoseconds past a
billion, and its text shows the number behind that second: 60 at the end of a minute. Within a
minute this is the number of the next second, so there the text of a leap second is that of another
time.
-/

namespace RowCast

/-- Whether the numbers name a time; every second has room for a leap second behind it. -/
def IsTimeOfDay (hour minute second nano : Nat) : Prop :=
  hour < 24 ∧ minute < 60 ∧ second < 60 ∧ nano < 2000000000

instance (hour minute second nano : Nat) : Decidable (IsTimeOfDay hour minute second nano) :=
  inferInstanceAs (Decidable (_ ∧ _))

/-- A time of day. -/
structure TimeOfDay where
  hour : Nat
  minute : Nat
  second : Nat
  nano : Nat
  valid : IsTimeOfDay hour minute second nano
  deriving DecidableEq

namespace TimeOfDay

/-- The first time of a day. -/
def midnight : TimeOfDay :=
  ⟨0, 0, 0, 0, by decide⟩

/-- Whether a leap second, where a time is in one, is at the end of a minute. -/
def LeapEndsMinute (t : TimeOfDay) : Prop :=
  t.nano < 1000000000 ∨ t.second = 59

instance (t : TimeOfDay) : Decidable t.LeapEndsMinute :=
  inferInstanceAs (Decidable (t.nano < 1000000000 ∨ t.second = 59))

/-- The time that the numbers name; they name a leap second at the end of a minute only. -/
def of? (hour minute second nano : Nat) : Option TimeOfDay :=
  if h : IsTimeOfDay hour minute second nano then
    let t : TimeOfDay := ⟨hour, minute, second, nano, h⟩
    if t.LeapEndsMinute then some t else none
  else none

/-- The fraction of a second in 3, 6 or 9 digits behind a point, nothing for a whole second. -/
def fractionText (nano : Nat) : List Char :=
  if nano = 0 then []
  else if nano % 1000000 = 0 then '.' :: Text.paddedText 3 (nano / 1000000)
  else if nano % 1000 = 0 then '.' :: Text.paddedText 6 (nano / 1000)
  else '.' :: Text.paddedText 9 nano

/-- The text `HH:MM:SS` of a time, with its fraction. -/
def text (t : TimeOfDay) : List Char :=
  Text.paddedText 2 t.hour ++ ':' :: Text.paddedText 2 t.minute ++
    ':' :: Text.paddedText 2 (t.second + t.nano / 1000000000) ++ fractionText (t.nano % 1000000000)

end TimeOfDay

end RowCast
