-- Dates and times of the calendar, checked field by field.

namespace ProtoRefresh.Document

/-! ## Dates and times -/

structure Date where
  year : Nat
  month : Nat
  day : Nat
  deriving DecidableEq, Repr

/-- A time of a day. The offset from universal time, if there is one, is in minutes. -/
structure Time where
  hour : Nat
  minute : Nat
  second : Nat
  micro : Nat
  offset : Option Int
  deriving DecidableEq, Repr

/-- A date, perhaps with a time. -/
structure Moment where
  date : Date
  time : Option Time
  deriving DecidableEq, Repr

/-! ## The calendar -/

/-- Whether a year has a leap day. -/
def isLeap (year : Nat) : Bool := year % 4 = 0 && (year % 100 ≠ 0 || year % 400 = 0)

/-- The number of days in a month. -/
def daysInMonth (year month : Nat) : Nat :=
  if month = 2 then (if isLeap year then 29 else 28)
  else if month = 4 || month = 6 || month = 9 || month = 11 then 30
  else 31

/-- Why fields make no date or time. -/
inductive MomentError
  | year (value : Nat)
  | month
  | day
  | hour
  | minute
  | second
  | offset (minutes : Int)
  deriving DecidableEq, Repr

/-- The first field that is out of its range. -/
def Date.fault? (d : Date) : Option MomentError :=
  if d.year < 1 || 9999 < d.year then some (.year d.year)
  else if d.month < 1 || 12 < d.month then some .month
  else if d.day < 1 || daysInMonth d.year d.month < d.day then some .day
  else none

/-- The first field that is out of its range. -/
def Time.fault? (t : Time) : Option MomentError :=
  if 23 < t.hour then some .hour
  else if 59 < t.minute then some .minute
  else if 59 < t.second then some .second
  else none

/-- An offset has to be shorter than a day. -/
def Time.offsetFault? (t : Time) : Option MomentError :=
  match t.offset with
  | some minutes => if 1440 ≤ minutes.natAbs then some (.offset minutes) else none
  | none => none

/-- The first fault of a moment. The offset is looked at first. -/
def Moment.fault? (m : Moment) : Option MomentError :=
  match m.time with
  | none => m.date.fault?
  | some t => (t.offsetFault?.or m.date.fault?).or t.fault?

/-- A length of time in days and the seconds left over. -/
def spanText (minutes : Int) : String :=
  let days := minutes.fdiv 1440
  let seconds := minutes.fmod 1440 * 60
  let parts := (if days = 0 then [] else ["days=" ++ toString days]) ++
    (if seconds = 0 then [] else ["seconds=" ++ toString seconds])
  "datetime.timedelta(" ++ (if parts.isEmpty then "0" else ", ".intercalate parts) ++ ")"

def MomentError.message : MomentError → String
  | .year y => "year " ++ toString y ++ " is out of range"
  | .month => "month must be in 1..12"
  | .day => "day is out of range for month"
  | .hour => "hour must be in 0..23"
  | .minute => "minute must be in 0..59"
  | .second => "second must be in 0..59"
  | .offset m =>
    "offset must be a timedelta strictly between -timedelta(hours=24) and timedelta(hours=24), not "
      ++ spanText m ++ "."

/-! ## Text -/

/-- Decimal digits with zeros before them up to a width. -/
def padNat (width n : Nat) : String :=
  let s := toString n
  "".pushn '0' (width - s.length) ++ s

def Date.text (d : Date) : String :=
  padNat 4 d.year ++ "-" ++ padNat 2 d.month ++ "-" ++ padNat 2 d.day

/-- Hours and minutes of an offset. -/
def offsetText (minutes : Int) : String :=
  (if minutes < 0 then "-" else "+") ++ padNat 2 (minutes.natAbs / 60) ++ ":" ++
    padNat 2 (minutes.natAbs % 60)

def Time.text (t : Time) : String :=
  padNat 2 t.hour ++ ":" ++ padNat 2 t.minute ++ ":" ++ padNat 2 t.second ++
    (if t.micro = 0 then "" else "." ++ padNat 6 t.micro) ++
    ((t.offset.map offsetText).getD "")

/-- The text of a moment that stands alone. -/
def Moment.text (m : Moment) : String :=
  match m.time with
  | none => m.date.text
  | some t => m.date.text ++ " " ++ t.text

/-- The time zone of an offset, as a constructor call. -/
def zoneText (minutes : Int) : String :=
  if minutes = 0 then "datetime.timezone.utc" else "datetime.timezone(" ++ spanText minutes ++ ")"

/-- The text of a moment inside a list or a mapping: a constructor call with its fields. -/
def Moment.callText (m : Moment) : String :=
  let date := ", ".intercalate [toString m.date.year, toString m.date.month, toString m.date.day]
  match m.time with
  | none => "datetime.date(" ++ date ++ ")"
  | some t =>
    let seconds := if t.second = 0 && t.micro = 0 then [] else [toString t.second]
    let micro := if t.micro = 0 then [] else [toString t.micro]
    let zone := (t.offset.map fun minutes => ["tzinfo=" ++ zoneText minutes]).getD []
    "datetime.datetime(" ++
      ", ".intercalate (date :: [toString t.hour, toString t.minute] ++ seconds ++ micro ++ zone) ++ ")"

end ProtoRefresh.Document
