/-!
Days and moments of the proleptic Gregorian calendar, years 1 to 9999. A moment may carry an offset from
universal time; two moments with an offset are equal when they are the same instant, and a moment with
an offset never equals one without.
-/

namespace ObjectWatch

structure Day where
  year : Nat
  month : Nat
  day : Nat
  deriving DecidableEq, Repr, Inhabited

/-- A day with a time of day and perhaps an offset in minutes. -/
structure Moment where
  date : Day
  hour : Nat
  minute : Nat
  second : Nat
  micro : Nat
  offset : Option Int
  deriving DecidableEq, Repr, Inhabited

def padded (width n : Nat) : String :=
  let ds := Nat.toDigits 10 n
  String.ofList (List.replicate (width - ds.length) '0' ++ ds)

namespace Day

def isLeap (year : Nat) : Bool :=
  year % 4 == 0 && (year % 100 != 0 || year % 400 == 0)

def monthLength (year month : Nat) : Nat :=
  if month = 2 then if isLeap year then 29 else 28
  else if month = 4 || month = 6 || month = 9 || month = 11 then 30 else 31

/-- The day of the calendar with these numbers, if there is one. -/
def of? (year month day : Nat) : Option Day :=
  if 1 ≤ year ∧ year ≤ 9999 ∧ 1 ≤ month ∧ month ≤ 12 ∧ 1 ≤ day ∧ day ≤ monthLength year month then
    some ⟨year, month, day⟩
  else none

/-- The number of days of the months before a month. -/
def daysBefore (year : Nat) : Nat → Nat
  | 0 => 0
  | 1 => 0
  | month + 2 => daysBefore year (month + 1) + monthLength year (month + 1)

/-- The number of a day, counted from the first day of year 1. -/
def ordinal (d : Day) : Nat :=
  let y := d.year - 1
  365 * y + y / 4 - y / 100 + y / 400 + daysBefore d.year d.month + d.day

def text (d : Day) : String :=
  padded 4 d.year ++ "-" ++ padded 2 d.month ++ "-" ++ padded 2 d.day

def fields (d : Day) : List Nat :=
  [d.year, d.month, d.day]

def literal (d : Day) : String :=
  "datetime.date(" ++ ", ".intercalate (d.fields.map toString) ++ ")"

end Day

namespace Moment

/-- The moment with these numbers, if its day is in the calendar, its time in the day and its offset
less than a day. -/
def of? (year month day hour minute second micro : Nat) (offset : Option Int) : Option Moment := do
  let date ← Day.of? year month day
  if hour < 24 ∧ minute < 60 ∧ second < 60 ∧ micro < 1000000
      ∧ (offset.all fun o => decide (-1440 < o ∧ o < 1440)) then
    some ⟨date, hour, minute, second, micro, offset⟩
  else none

/-- Microseconds since the start of year 1, by the clock that the moment is told by. -/
def clock (t : Moment) : Int :=
  (((t.date.ordinal * 24 + t.hour) * 60 + t.minute) * 60 + t.second : Nat) * 1000000 + t.micro

/-- The same instant, or the same reading of two clocks of unknown offset. -/
def equal (a b : Moment) : Bool :=
  match a.offset, b.offset with
  | none, none => a.clock == b.clock
  | some o, some p => a.clock - o * 60000000 == b.clock - p * 60000000
  | _, _ => false

def offsetText (o : Int) : String :=
  (if o < 0 then "-" else "+") ++ padded 2 (o.natAbs / 60) ++ ":" ++ padded 2 (o.natAbs % 60)

def text (t : Moment) : String :=
  t.date.text ++ " " ++ padded 2 t.hour ++ ":" ++ padded 2 t.minute ++ ":" ++ padded 2 t.second
    ++ (if t.micro = 0 then "" else "." ++ padded 6 t.micro)
    ++ (t.offset.map offsetText).getD ""

/-- An offset as a length of time: days, negative for an offset to the west, and seconds of a day. -/
def offsetLiteral (o : Int) : String :=
  let days := if o < 0 then ["days=-1"] else []
  let seconds := (if o < 0 then o + 1440 else o) * 60
  let parts := days ++ (if seconds = 0 then [] else ["seconds=" ++ toString seconds])
  if o = 0 then "datetime.timezone.utc"
  else "datetime.timezone(datetime.timedelta(" ++ ", ".intercalate parts ++ "))"

/-- The numbers of a moment; a zero at the end of the time that says nothing is left out. -/
def fields (t : Moment) : List Nat :=
  t.date.fields ++ [t.hour, t.minute]
    ++ (if t.micro ≠ 0 then [t.second, t.micro] else if t.second ≠ 0 then [t.second] else [])

def literal (t : Moment) : String :=
  let offset := match t.offset with
    | some o => ["tzinfo=" ++ offsetLiteral o]
    | none => []
  "datetime.datetime(" ++ ", ".intercalate (t.fields.map toString ++ offset) ++ ")"

end Moment

end ObjectWatch
