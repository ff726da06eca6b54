import QueryCriteria.Calendar.Date

/-!
Points in time, held as seconds since 1970-01-01T00:00:00 in UTC and nanoseconds.

A leap second is the second :59 once more: its nanoseconds go on from 1000000000, and its text has
the seconds 60. The text is that of RFC 3339, with the fraction in as few groups of three digits
as lose nothing.
-/

namespace QueryCriteria.Calendar

def nanosPerSecond : Nat := 1000000000

/-- The day is one of the calendar's, and only the last second of a minute goes on as a leap
second. -/
def ValidTime (second : Int) (nanosecond : Nat) : Prop :=
  InRange (second / 86400) ∧ nanosecond < 2 * nanosPerSecond
    ∧ (nanosPerSecond ≤ nanosecond → second % 60 = 59)

instance (second : Int) (nanosecond : Nat) : Decidable (ValidTime second nanosecond) :=
  inferInstanceAs (Decidable (_ ∧ _ ∧ _))

structure Timestamp where
  /-- Seconds since 1970-01-01T00:00:00 in UTC. -/
  second : Int
  nanosecond : Nat
  valid : ValidTime second nanosecond
  deriving DecidableEq, Repr

def Timestamp.of? (second : Int) (nanosecond : Nat) : Option Timestamp :=
  if h : ValidTime second nanosecond then some ⟨second, nanosecond, h⟩ else none

/-- A fraction of a second: nothing, or a point and three, six or nine digits. -/
def fractionText (nanos : Nat) : List Char :=
  if nanos = 0 then []
  else if nanos % 1000000 = 0 then '.' :: padded 3 (nanos / 1000000)
  else if nanos % 1000 = 0 then '.' :: padded 6 (nanos / 1000)
  else '.' :: padded 9 nanos

/-- Day and time without the offset. -/
def Timestamp.clockText (t : Timestamp) : List Char :=
  let secondOfDay := (t.second % 86400).toNat
  let leap := if nanosPerSecond ≤ t.nanosecond then 1 else 0
  dayText (t.second / 86400) ++ 'T' :: padded 2 (secondOfDay / 3600)
    ++ ':' :: padded 2 (secondOfDay / 60 % 60) ++ ':' :: padded 2 (secondOfDay % 60 + leap)
    ++ fractionText (t.nanosecond % nanosPerSecond)

/-- The text with the offset written as `+00:00`. -/
def Timestamp.text (t : Timestamp) : String :=
  String.ofList (t.clockText ++ ['+', '0', '0', ':', '0', '0'])

/-- The text with the offset written as `Z`. -/
def Timestamp.zuluText (t : Timestamp) : String := String.ofList (t.clockText ++ ['Z'])

end QueryCriteria.Calendar
