/-!
# Dates and times in settings

A date of the calendar, and a date with a time of day and perhaps an offset from universal time.
-/

namespace Unbundle

/-- A date. -/
structure Date where
  year : Nat
  month : Nat
  day : Nat
  deriving DecidableEq, Repr

/-- A date and a time of day; the offset from universal time is in seconds. -/
structure Moment where
  date : Date
  hour : Nat
  minute : Nat
  second : Nat
  micro : Nat
  offset : Option Int
  deriving DecidableEq, Repr

/-- A number with zeros before it up to a width. -/
def padNumber (width n : Nat) : String :=
  let digits := toString n
  String.ofList (List.replicate (width - digits.length) '0') ++ digits

namespace Date

/-- Whether a year has a leap day. -/
def isLeap (year : Nat) : Bool := year % 4 = 0 && (year % 100 ≠ 0 || year % 400 = 0)

/-- How many days a month has. -/
def daysIn (year month : Nat) : Nat :=
  if month = 2 then if isLeap year then 29 else 28
  else if month = 4 || month = 6 || month = 9 || month = 11 then 30
  else 31

/-- The date, or why there is none. -/
def make (year month day : Nat) : Except String Date :=
  if year = 0 then .error "year 0 is out of range"
  else if month = 0 || 12 < month then .error "month must be in 1..12"
  else if day = 0 || daysIn year month < day then .error "day is out of range for month"
  else .ok ⟨year, month, day⟩

/-- How many days lie before a date since the start of year one. -/
def ordinal (d : Date) : Nat :=
  let y := d.year - 1
  let months := (List.range (d.month - 1)).foldl (fun days m => days + daysIn d.year (m + 1)) 0
  365 * y + y / 4 - y / 100 + y / 400 + months + d.day

/-- A date as text. -/
def words (d : Date) : String := s!"{padNumber 4 d.year}-{padNumber 2 d.month}-{padNumber 2 d.day}"

/-- A date shown as a value. -/
def shown (d : Date) : String := s!"datetime.date({d.year}, {d.month}, {d.day})"

end Date

namespace Moment

/-- The moment, or why there is none. -/
def make (date : Date) (hour minute second micro : Nat) (offset : Option Int) :
    Except String Moment :=
  if 23 < hour then .error "hour must be in 0..23"
  else if 59 < minute then .error "minute must be in 0..59"
  else if 59 < second then .error "second must be in 0..59"
  else .ok ⟨date, hour, minute, second, micro, offset⟩

/-- An offset from universal time as text. -/
def offsetWords (offset : Int) : String :=
  let minutes := offset.natAbs / 60
  (if offset < 0 then "-" else "+") ++ padNumber 2 (minutes / 60) ++ ":" ++
    padNumber 2 (minutes % 60)

/-- A moment as text. -/
def words (m : Moment) : String :=
  let fraction := if m.micro = 0 then "" else "." ++ padNumber 6 m.micro
  s!"{m.date.words} {padNumber 2 m.hour}:{padNumber 2 m.minute}:{padNumber 2 m.second}" ++
    fraction ++
    (m.offset.map offsetWords).getD ""

/-- An offset shown as a value. -/
def offsetShown (offset : Int) : String :=
  if offset = 0 then "datetime.timezone.utc"
  else if offset < 0 then
    s!"datetime.timezone(datetime.timedelta(days=-1, seconds={offset + 86400}))"
  else s!"datetime.timezone(datetime.timedelta(seconds={offset}))"

/-- A moment shown as a value. -/
def shown (m : Moment) : String :=
  let seconds :=
    if m.micro ≠ 0 then [m.second, m.micro] else if m.second ≠ 0 then [m.second] else []
  let numbers := [m.date.year, m.date.month, m.date.day, m.hour, m.minute] ++ seconds
  let offset := (m.offset.map fun o => ["tzinfo=" ++ offsetShown o]).getD []
  "datetime.datetime(" ++ ", ".intercalate (numbers.map toString ++ offset) ++ ")"

/-- The order of moments: microseconds since the start of year one, in universal time if the offset
is known. -/
def instant (m : Moment) : Int :=
  let seconds : Int := (m.date.ordinal * 86400 + m.hour * 3600 + m.minute * 60 + m.second : Nat)
  (seconds - m.offset.getD 0) * 1000000 + m.micro

end Moment

end Unbundle
