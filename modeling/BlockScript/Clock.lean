/-!
# Dates and times of day
-/

namespace BlockScript

/-- A date of the Gregorian calendar and a time of day. -/
structure DateTime where
  year : Int
  month : Int
  day : Int
  hour : Int
  minute : Int
  second : Int
  microsecond : Int
deriving DecidableEq

/-- Why numbers are not a date and a time. -/
inductive DateTimeError
  /-- A number that does not fit into a signed 32-bit word. -/
  | tooLarge
  | year (year : Int)
  | month
  | day
  | hour
  | minute
  | second
  | microsecond
deriving DecidableEq

namespace DateTimeError

def message : DateTimeError → String
  | .tooLarge => "number is too large"
  | .year n => "year " ++ toString n ++ " is out of range"
  | .month => "month must be in 1..12"
  | .day => "day is out of range for month"
  | .hour => "hour must be in 0..23"
  | .minute => "minute must be in 0..59"
  | .second => "second must be in 0..59"
  | .microsecond => "microsecond must be in 0..999999"

end DateTimeError

namespace DateTime

def isLeapYear (year : Int) : Bool :=
  year % 4 == 0 && (year % 100 != 0 || year % 400 == 0)

def daysInMonth (year month : Int) : Int :=
  if month = 2 then if isLeapYear year then 29 else 28
  else if month = 4 ∨ month = 6 ∨ month = 9 ∨ month = 11 then 30
  else 31

def fields (d : DateTime) : List Int :=
  [d.year, d.month, d.day, d.hour, d.minute, d.second, d.microsecond]

def inRange (low high n : Int) : Bool :=
  low ≤ n && n ≤ high

/-- The first field that is out of its range, the date before the time. -/
def fault? (d : DateTime) : Option DateTimeError :=
  if !d.fields.all (inRange (-2147483648) 2147483647) then some .tooLarge
  else if !inRange 1 9999 d.year then some (.year d.year)
  else if !inRange 1 12 d.month then some .month
  else if !inRange 1 (daysInMonth d.year d.month) d.day then some .day
  else if !inRange 0 23 d.hour then some .hour
  else if !inRange 0 59 d.minute then some .minute
  else if !inRange 0 59 d.second then some .second
  else if !inRange 0 999999 d.microsecond then some .microsecond
  else none

/-- The number of days before a month in its year. -/
def daysBeforeMonth (year month : Int) : Int :=
  ((List.range (month - 1).toNat).map fun (m : Nat) => daysInMonth year (m + 1)).foldl (· + ·) 0

/-- The number of the day, the first day of the year 1 being the first. -/
def dayNumber (d : DateTime) : Int :=
  let y := d.year - 1
  y * 365 + y / 4 - y / 100 + y / 400 + daysBeforeMonth d.year d.month + d.day

def weekdays : List String :=
  ["monday", "tuesday", "wednesday", "thursday", "friday", "saturday", "sunday"]

/-- The first day of the year 1 was a Monday. -/
def weekday (d : DateTime) : String :=
  weekdays.getD ((d.dayNumber + 6) % 7).toNat "monday"

/-- Digits with zeros in front, at least `width` of them. -/
def padded (width : Nat) (n : Int) : String :=
  let digits := (toString n).toList
  String.ofList (List.replicate (width - digits.length) '0' ++ digits)

/-- The date and the time to the second. -/
def isoText (d : DateTime) : String :=
  padded 4 d.year ++ "-" ++ padded 2 d.month ++ "-" ++ padded 2 d.day ++ "T" ++
    padded 2 d.hour ++ ":" ++ padded 2 d.minute ++ ":" ++ padded 2 d.second

end DateTime

/-- What conditions can ask about the time. -/
structure Clock where
  iso : String
  hour : Int
  minute : Int
  weekday : String
deriving DecidableEq

namespace Clock

/-- Minutes since midnight. -/
def minutes (c : Clock) : Int :=
  c.hour * 60 + c.minute

def ofDateTime (d : DateTime) : Except DateTimeError Clock :=
  match d.fault? with
  | some e => .error e
  | none => .ok ⟨d.isoText, d.hour, d.minute, d.weekday⟩

end Clock

end BlockScript
