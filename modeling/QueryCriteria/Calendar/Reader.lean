import QueryCriteria.Calendar.Timestamp
import QueryCriteria.Text.Blank

/-!
Dates and points in time read from text. The reading is wider than the writing: blanks may stand
between the parts, numbers need no leading zeros, a year with a sign may have any number of
digits, and a fraction of a second may have more digits than nine, of which the first nine count.

Each reader takes what it reads off the front of a text and returns the rest.
-/

namespace QueryCriteria.Calendar

open Text (trimStart isBlank)

/-- One to `most` digits. -/
def readDigits (most : Nat) (s : List Char) : Option (Nat × List Char) :=
  let digits := (s.take most).takeWhile Char.isDigit
  if digits.isEmpty then none else some (Nat.ofDigitChars 10 digits 0, s.drop digits.length)

/-- A given character. -/
def readMark (mark : Char) : List Char → Option (List Char)
  | [] => none
  | c :: s => if c = mark then some s else none

/-- A year: with a sign any number of digits, without one at most four. -/
def readYear (s : List Char) : Option (Int × List Char) :=
  match trimStart s with
  | '-' :: s => (readDigits s.length s).map fun r => (-(r.1 : Int), r.2)
  | '+' :: s => (readDigits s.length s).map fun r => ((r.1 : Int), r.2)
  | s => (readDigits 4 s).map fun r => ((r.1 : Int), r.2)

/-- A number of one or two digits, blanks before it. -/
def readPart (s : List Char) : Option (Nat × List Char) := readDigits 2 (trimStart s)

/-- A day with its parts joined by hyphens; what follows the day is left alone. -/
def readDay (s : List Char) : Option (Date × List Char) := do
  let (year, s) ← readYear s
  let s ← readMark '-' (trimStart s)
  let (month, s) ← readPart s
  let s ← readMark '-' (trimStart s)
  let (day, s) ← readPart s
  let date ← Date.of? year month day
  some (date, s)

/-- A whole text that is a date. -/
def Date.read? (s : String) : Option Date := do
  let (date, rest) ← readDay s.toList
  if (trimStart rest).isEmpty then some date else none

/-- A fraction of a second in nanoseconds, if a point starts one. -/
def readFraction : List Char → Option (Nat × List Char)
  | '.' :: s => do
    let (n, rest) ← readDigits 9 s
    let used := s.length - rest.length
    some (n * Nat.pow 10 (9 - used), rest.dropWhile Char.isDigit)
  | s => some (0, s)

/-- Two digits of an offset. -/
def readPair : List Char → Option (Nat × List Char)
  | a :: b :: s => if a.isDigit && b.isDigit then some (Nat.ofDigitChars 10 [a, b] 0, s) else none
  | _ => none

/-- An offset from UTC in seconds: `Z`, `UTC`, or a sign with hours and minutes, between which
colons and blanks may stand. -/
def readOffset (s : List Char) : Option (Int × List Char) :=
  let signed (negative : Bool) (s : List Char) : Option (Int × List Char) := do
    let (hours, s) ← readPair s
    let (minutes, s) ← readPair (s.dropWhile fun c => c == ':' || isBlank c)
    if minutes < 60 && hours < 24 then
      let n : Int := hours * 3600 + minutes * 60
      some (if negative then -n else n, s)
    else none
  if (s.take 3).map Char.toUpper = ['U', 'T', 'C'] then some (0, s.drop 3)
  else
    match s with
    | 'Z' :: s => some (0, s)
    | 'z' :: s => some (0, s)
    | '+' :: s => signed false s
    | '-' :: s => signed true s
    | '\u2212' :: s => signed true s
    | _ => none

/-- A whole text that is a point in time: a day, `T` or a space, a time of day and an offset. A
second 60 is the leap second after :59. -/
def Timestamp.read? (s : String) : Option Timestamp := do
  let (date, s) ← readDay s.toList
  let s ← match s with
    | 'T' :: s => some s
    | 't' :: s => some s
    | ' ' :: s => some s
    | _ => none
  let (hour, s) ← readPart s
  let s ← readMark ':' (trimStart s)
  let (minute, s) ← readPart s
  let s ← readMark ':' (trimStart s)
  let (second, s) ← readPart s
  let (nanos, s) ← readFraction s
  let (offset, s) ← readOffset (trimStart s)
  if hour < 24 && minute < 60 && second ≤ 60 && (trimStart s).isEmpty then
    let leap := second == 60
    let clock : Int := hour * 3600 + minute * 60 + (if leap then 59 else second : Nat)
    Timestamp.of? (date.number * 86400 + clock - offset)
      (if leap then nanos + nanosPerSecond else nanos)
  else none

end QueryCriteria.Calendar
