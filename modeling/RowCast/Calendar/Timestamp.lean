import RowCast.Calendar.Date
import RowCast.Calendar.TimeOfDay

/-!
# Timestamps

Instants as a day and a time of day in UTC.
-/

namespace RowCast

/-- An instant in UTC. -/
structure Timestamp where
  date : Date
  time : TimeOfDay
  deriving DecidableEq

namespace Timestamp

/-- The text of an instant, with `T` between day and time and the given zone behind them. -/
def textIn (zone : List Char) (t : Timestamp) : List Char :=
  t.date.text ++ 'T' :: t.time.text ++ zone

/-- The text of an instant with a numeric zone. -/
def offsetText (t : Timestamp) : List Char :=
  t.textIn ['+', '0', '0', ':', '0', '0']

/-- The text of an instant with the zone letter of UTC. -/
def zuluText (t : Timestamp) : List Char :=
  t.textIn ['Z']

/-- A time some minutes later on the clock, wherever midnight falls. -/
def turnClock (t : TimeOfDay) (minutes : Int) : TimeOfDay :=
  let turned := ((t.hour * 60 + t.minute : Nat) + minutes) % 1440
  { t with
    hour := (turned / 60).toNat
    minute := (turned % 60).toNat
    valid := by
      have := t.valid
      unfold IsTimeOfDay at this ⊢
      omega }

/--
The instant of a local day and time at `offset` minutes east of UTC, less than a day. The result may
fall on the day before or after, which must exist; seconds and their fraction stay.
-/
def ofLocal? (date : Date) (time : TimeOfDay) (offset : Int) : Option Timestamp :=
  let minutes : Int := (time.hour * 60 + time.minute : Nat) - offset
  let day :=
    if minutes < 0 then date.previous?
    else if 1440 ≤ minutes then date.next?
    else some date
  day.map fun d => ⟨d, turnClock time (-offset)⟩

end Timestamp

end RowCast
