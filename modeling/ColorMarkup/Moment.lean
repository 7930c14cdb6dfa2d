/-! Dates, times of day and their combination, with or without an offset from universal time. -/

namespace ColorMarkup

structure Date where
  year : Nat
  month : Nat
  day : Nat
deriving DecidableEq

structure TimeOfDay where
  hour : Nat
  minute : Nat
  second : Nat := 0
  microsecond : Nat := 0
deriving DecidableEq

structure Zone where
  minutes : Int
  name : String
deriving DecidableEq

inductive Moment where
  | date (day : Date)
  | time (clock : TimeOfDay)
  | dateTime (day : Date) (clock : TimeOfDay) (zone : Option Zone)
deriving DecidableEq

namespace Date

def isLeap (year : Nat) : Bool :=
  year % 4 = 0 && (year % 100 ≠ 0 || year % 400 = 0)

def daysIn (year month : Nat) : Nat :=
  match month with
  | 2 => if isLeap year then 29 else 28
  | 4 | 6 | 9 | 11 => 30
  | _ => 31

def isValid (date : Date) : Bool :=
  1 ≤ date.year && date.year ≤ 9999 && 1 ≤ date.month && date.month ≤ 12
    && 1 ≤ date.day && date.day ≤ daysIn date.year date.month

def fields (date : Date) : List Nat :=
  [date.year, date.month, date.day]

end Date

namespace TimeOfDay

def isValid (time : TimeOfDay) : Bool :=
  time.hour < 24 && time.minute < 60 && time.second < 60 && time.microsecond < 1000000

def fields (time : TimeOfDay) : List Nat :=
  [time.hour, time.minute]
    ++ (if time.microsecond ≠ 0 then [time.second, time.microsecond]
        else if time.second ≠ 0 then [time.second] else [])

end TimeOfDay

namespace Zone

/-- A negative offset is shown as a day less and the rest in seconds. -/
def displayOffset (minutes : Int) : String :=
  if minutes = 0 then "datetime.timedelta(0)"
  else if 0 < minutes then "datetime.timedelta(seconds=" ++ toString (minutes * 60) ++ ")"
  else "datetime.timedelta(days=-1, seconds=" ++ toString (86400 + minutes * 60) ++ ")"

def display (zone : Zone) : String :=
  "datetime.timezone(" ++ displayOffset zone.minutes ++ ", '" ++ zone.name ++ "')"

end Zone

namespace Moment

def fieldList (fields : List Nat) : String :=
  ", ".intercalate (fields.map fun field => toString field)

def display : Moment → String
  | .date day => "datetime.date(" ++ fieldList day.fields ++ ")"
  | .time clock => "datetime.time(" ++ fieldList clock.fields ++ ")"
  | .dateTime day clock zone =>
    "datetime.datetime(" ++ fieldList (day.fields ++ clock.fields)
      ++ (match zone with
          | some offset => ", tzinfo=" ++ offset.display
          | none => "")
      ++ ")"

end Moment

end ColorMarkup
