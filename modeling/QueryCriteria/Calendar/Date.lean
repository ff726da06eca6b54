/-!
Dates of the proleptic Gregorian calendar, held as the number of days since 1970-01-01.

A date is a day count inside the calendar's range, so every value of the type is a day that
exists; year, month and day are computed from it. `dayNumber` and `civil` convert between the two
by whole eras of 400 years (146097 days), each year counted from March so that the leap day is the
last one of its year.
-/

namespace QueryCriteria.Calendar

/-- Decimal digits with zeros in front, at least `width` characters. -/
def padded (width n : Nat) : List Char :=
  let ds := Nat.toDigits 10 n
  List.replicate (width - ds.length) '0' ++ ds

/-- A year: four digits for the years 0 to 9999, else a sign and at least four digits. -/
def yearText (year : Int) : List Char :=
  if 0 ≤ year && year ≤ 9999 then padded 4 year.toNat
  else (if year < 0 then '-' else '+') :: padded 4 year.natAbs

def isLeap (year : Int) : Bool := year % 4 == 0 && (year % 100 != 0 || year % 400 == 0)

def daysIn (year : Int) (month : Nat) : Nat :=
  if month = 2 then if isLeap year then 29 else 28
  else if month = 4 || month = 6 || month = 9 || month = 11 then 30 else 31

/-- The number of days from 1970-01-01 to a day of the calendar. -/
def dayNumber (year : Int) (month day : Nat) : Int :=
  let y := if month ≤ 2 then year - 1 else year
  let yearOfEra := y % 400
  let monthFromMarch : Int := (month + 9) % 12
  let dayOfYear := (153 * monthFromMarch + 2) / 5 + day - 1
  y / 400 * 146097 + (yearOfEra * 365 + yearOfEra / 4 - yearOfEra / 100 + dayOfYear) - 719468

/-- Year, month and day of the day `n` days after 1970-01-01. -/
def civil (n : Int) : Int × Nat × Nat :=
  let era := (n + 719468) / 146097
  let dayOfEra := (n + 719468) % 146097
  let yearOfEra := (dayOfEra - dayOfEra / 1460 + dayOfEra / 36524 - dayOfEra / 146096) / 365
  let dayOfYear := dayOfEra - (365 * yearOfEra + yearOfEra / 4 - yearOfEra / 100)
  let monthFromMarch := (5 * dayOfYear + 2) / 153
  let day := (dayOfYear - (153 * monthFromMarch + 2) / 5 + 1).toNat
  let month := ((monthFromMarch + 2) % 12 + 1).toNat
  let year := era * 400 + yearOfEra + if month ≤ 2 then 1 else 0
  (year, month, day)

/-- The days of the calendar reach from -262143-01-01 to +262142-12-31. -/
def InRange (n : Int) : Prop := -96465292 ≤ n ∧ n ≤ 95026236

instance (n : Int) : Decidable (InRange n) := inferInstanceAs (Decidable (_ ∧ _))

/-- A day of the calendar. -/
structure Date where
  /-- Days since 1970-01-01. -/
  number : Int
  inRange : InRange number
  deriving DecidableEq, Repr

/-- The day with this year, month and day, if there is one. -/
def Date.of? (year : Int) (month day : Nat) : Option Date :=
  if 1 ≤ month && month ≤ 12 && 1 ≤ day && day ≤ daysIn year month then
    let n := dayNumber year month day
    if h : InRange n then some ⟨n, h⟩ else none
  else none

/-- Year, month and day with hyphens between them. -/
def dayText (n : Int) : List Char :=
  let (year, month, day) := civil n
  yearText year ++ '-' :: padded 2 month ++ '-' :: padded 2 day

def Date.text (d : Date) : String := String.ofList (dayText d.number)

end QueryCriteria.Calendar
