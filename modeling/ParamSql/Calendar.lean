/-!
# Calendar dates and times of day

Dates are those of the Gregorian calendar, continued to all years.  They are
counted in days, and instants in microseconds, from the start of the year
2000.
-/

namespace ParamSql

/-- A date of the calendar. -/
structure Date where
  year : Int
  month : Nat
  day : Nat
  deriving DecidableEq, Repr

/-- A date with a time of day. -/
structure Timestamp where
  date : Date
  hour : Nat
  minute : Nat
  second : Nat
  nanosecond : Nat
  deriving DecidableEq, Repr

/-! ## Counting -/

namespace Date

/-- Whether a year has a 29th of February. -/
def isLeap (year : Int) : Bool :=
  year % 4 = 0 && (year % 100 ≠ 0 || year % 400 = 0)

/-- The days from the start of the year 1 to the start of a year. -/
def daysBeforeYear (year : Int) : Int :=
  let past := year - 1
  365 * past + past.fdiv 4 - past.fdiv 100 + past.fdiv 400

/-- The days of a month. -/
def daysInMonth (year : Int) (month : Nat) : Nat :=
  if month = 2 then (if isLeap year then 29 else 28)
  else if month = 4 ∨ month = 6 ∨ month = 9 ∨ month = 11 then 30
  else 31

/-- The days of the months from January to just before a month. -/
def daysBeforeMonth (year : Int) (month : Nat) : Nat :=
  (List.range (month - 1)).foldl (fun days earlier => days + daysInMonth year (earlier + 1)) 0

/-- The days from the first day of the year 2000. -/
def dayNumber (date : Date) : Int :=
  daysBeforeYear date.year - daysBeforeYear 2000 +
    daysBeforeMonth date.year date.month + (date.day - 1 : Int)

end Date

/-- The nanoseconds from the start of the year 2000. -/
def Timestamp.nanoseconds (t : Timestamp) : Int :=
  let seconds := t.date.dayNumber * 86400 + (t.hour * 3600 + t.minute * 60 + t.second : Nat)
  seconds * 1000000000 + t.nanosecond

/-- The whole microseconds from the start of the year 2000; a part of one is
dropped on either side. -/
def Timestamp.microseconds (t : Timestamp) : Int :=
  t.nanoseconds.tdiv 1000

/-! ## Text -/

/-- A number with zeros in front up to a width. -/
def padded (width n : Nat) : String :=
  let digits := Nat.toDigits 10 n
  String.ofList (List.replicate (width - digits.length) '0' ++ digits)

/-- Four digits at least; years that need a sign or more digits have a sign. -/
def yearText (year : Int) : String :=
  if 0 ≤ year ∧ year ≤ 9999 then padded 4 year.toNat
  else (if year < 0 then "-" else "+") ++ padded 4 year.natAbs

/-- Year, month and day, as in `2000-01-31`. -/
def Date.text (date : Date) : String :=
  yearText date.year ++ "-" ++ padded 2 date.month ++ "-" ++ padded 2 date.day

/-- The fraction of a second in three, six or nine digits, the fewest that are
exact; nothing for a whole second. -/
def fractionText (nanosecond : Nat) : String :=
  if nanosecond = 0 then ""
  else if nanosecond % 1000000 = 0 then "." ++ padded 3 (nanosecond / 1000000)
  else if nanosecond % 1000 = 0 then "." ++ padded 6 (nanosecond / 1000)
  else "." ++ padded 9 nanosecond

/-- Date and time, as in `2000-01-31T08:30:00.250`.  A leap second counts on in
the nanoseconds and is written as the next second. -/
def Timestamp.text (t : Timestamp) : String :=
  let second := t.second + t.nanosecond / 1000000000
  t.date.text ++ "T" ++ padded 2 t.hour ++ ":" ++ padded 2 t.minute ++ ":" ++
    padded 2 second ++ fractionText (t.nanosecond % 1000000000)

end ParamSql
