/-!
# Moments

Calendar dates, with or without a time of day, as a data file can hold them.  `Moment.mk?` admits
the dates that exist, from year 1 to year 9999, and zones less than a day away from the meridian.
-/

namespace Rewind

/-- A time of day, with the zone as seconds east of the meridian if one is given. -/
structure TimeOfDay where
  hour : Nat
  minute : Nat
  second : Nat
  microsecond : Nat
  zone : Option Int
  deriving DecidableEq, Repr

/-- A calendar date, perhaps with a time of day. -/
structure Moment where
  year : Nat
  month : Nat
  day : Nat
  time : Option TimeOfDay
  deriving DecidableEq, Repr

namespace Moment

/-- Whether a year has a 29th of February. -/
def isLeap (year : Nat) : Bool := year % 4 = 0 && (year % 100 != 0 || year % 400 = 0)

/-- The number of days of a month. -/
def daysIn (year month : Nat) : Nat :=
  if month = 2 then (if isLeap year then 29 else 28)
  else if month ∈ [4, 6, 9, 11] then 30
  else 31

/-- Whether the date exists. -/
def validDate (year month day : Nat) : Bool :=
  1 ≤ year && year ≤ 9999 && 1 ≤ month && month ≤ 12 && 1 ≤ day && day ≤ daysIn year month

/-- Whether the time of day exists. -/
def validTime (t : TimeOfDay) : Bool :=
  t.hour < 24 && t.minute < 60 && t.second < 60 && t.microsecond < 1000000 &&
    (match t.zone with
     | none => true
     | some z => -86400 < z && z < 86400)

/-- The moment, if its date and its time of day exist. -/
def mk? (year month day : Nat) (time : Option TimeOfDay) : Option Moment :=
  if validDate year month day && time.all validTime then some ⟨year, month, day, time⟩ else none

/-! ## Instants -/

/-- The number of days from the first one of year 1. -/
def dayNumber (year month day : Nat) : Nat :=
  let years := year - 1
  years * 365 + years / 4 - years / 100 + years / 400 +
    (List.range (month - 1)).foldl (fun days m => days + daysIn year (m + 1)) 0 + (day - 1)

/-- The instant of a moment with a zone, in microseconds from the start of year 1 at the meridian.
-/
def instant? (m : Moment) : Option Int := do
  let t ← m.time
  let zone ← t.zone
  let seconds : Int := dayNumber m.year m.month m.day * 86400 + t.hour * 3600 + t.minute * 60 + t.second
  return (seconds - zone) * 1000000 + t.microsecond

/-- Whether two moments are the same one: the same instant if they have zones, and the same fields
if they have none. -/
def isSame (a b : Moment) : Bool :=
  match a.instant?, b.instant? with
  | some x, some y => x = y
  | none, none => a = b
  | _, _ => false

/-! ## Written forms -/

/-- The fields of a zone's distance: whole days, then seconds within the day. -/
def zoneText (z : Int) : String :=
  let days := z / 86400
  let seconds := z % 86400
  if z = 0 then "datetime.timezone.utc"
  else if days = 0 then s!"datetime.timezone(datetime.timedelta(seconds={seconds}))"
  else s!"datetime.timezone(datetime.timedelta(days={days}, seconds={seconds}))"

/-- The written form in which a moment is named as the place of a mistake. -/
def text (m : Moment) : String :=
  let date := s!"{m.year}, {m.month}, {m.day}"
  match m.time with
  | none => s!"datetime.date({date})"
  | some t =>
    let clock := s!", {t.hour}, {t.minute}"
    let fine :=
      if t.microsecond ≠ 0 then s!", {t.second}, {t.microsecond}"
      else if t.second ≠ 0 then s!", {t.second}"
      else ""
    let zone := match t.zone with
      | none => ""
      | some z => ", tzinfo=" ++ zoneText z
    s!"datetime.datetime({date}{clock}{fine}{zone})"

end Moment

end Rewind
