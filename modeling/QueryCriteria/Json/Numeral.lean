import QueryCriteria.Json.Basic

/-!
The text of a JSON number and the value it stands for.

A number without point and exponent that fits in sixty-four bits is a whole number, except `-0`.
Every other number is a fraction: of its digits as many as fit in an unsigned sixty-four-bit word
are rounded to a double, and this is multiplied with, or divided by, the double nearest to the
power of ten that is left, in steps of at most 308. So a fraction of few digits is exact up to one
rounding, and one of many digits may differ from the nearest double by some steps. A fraction too
large for a double is a fault; one too small is zero.
-/

namespace QueryCriteria.Json

/-- What can be wrong with a JSON text: a place where no JSON text can go on as it does, or an end
before the value is complete. -/
inductive Fault where
  | malformed
  | cut
  deriving DecidableEq, Repr

/-- The parts of a number's text: digits without sign, point and mark of the exponent. -/
structure Numeral where
  negative : Bool
  whole : List Char
  fraction : Option (List Char)
  /-- Whether the exponent is negative, and its digits. -/
  exponent : Option (Bool × List Char)
  deriving DecidableEq, Repr

/-- One or more digits and what follows them. -/
def readDigits (s : List Char) : Except Fault (List Char × List Char) :=
  match s.takeWhile Char.isDigit, s with
  | [], [] => .error .cut
  | [], _ => .error .malformed
  | digits, s => .ok (digits, s.dropWhile Char.isDigit)

/-- A sign of either kind, if one stands there. -/
def readSign : List Char → Bool × List Char
  | '-' :: s => (true, s)
  | '+' :: s => (false, s)
  | s => (false, s)

namespace Numeral

/-- Reads the text of a number, which starts with a digit or a minus sign. -/
def read (s : List Char) : Except Fault (Numeral × List Char) := do
  let (negative, s) := match s with
    | '-' :: rest => (true, rest)
    | s => (false, s)
  let (whole, s) ← readDigits s
  if whole.head? = some '0' && 1 < whole.length then throw .malformed
  let (fraction, s) ← match s with
    | '.' :: rest => do
      let (digits, rest) ← readDigits rest
      pure (some digits, rest)
    | s => pure (none, s)
  let exponentPart (rest : List Char) := do
    let (negative, rest) := readSign rest
    let (digits, rest) ← readDigits rest
    pure (some (negative, digits), rest)
  let (exponent, s) ← match s with
    | 'e' :: rest => exponentPart rest
    | 'E' :: rest => exponentPart rest
    | s => pure (none, s)
  pure (⟨negative, whole, fraction, exponent⟩, s)

/-- A number `significand * 10 ^ exponent` while its digits are taken in. -/
structure Scaled where
  significand : Nat
  exponent : Int

/-- Takes in digits as long as the significand fits in sixty-four bits. A digit taken in and a
digit left out each move the exponent by their own amount. -/
def Scaled.take (taken left : Int) : Scaled → List Char → Scaled
  | x, [] => x
  | x, c :: rest =>
    let n := 10 * x.significand + (c.toNat - '0'.toNat)
    if n < UInt64.size then Scaled.take taken left ⟨n, x.exponent + taken⟩ rest
    else ⟨x.significand, x.exponent + left * (rest.length + 1)⟩

/-- The double nearest to a power of ten. -/
def tenTo (n : Nat) : Float := Float.ofScientific 1 false n

/-- Divides by a power of ten, by at most `10 ^ 308` at a time. -/
def shrink (x : Float) (n : Nat) : Float :=
  if n ≤ 308 then x / tenTo n
  else if x == 0 then x
  else shrink (x / tenTo 308) (n - 308)
termination_by n

/-- The double of a scaled number; none if it is too large for one. -/
def Scaled.toFloat? (x : Scaled) : Option Float :=
  let start := Float.ofNat x.significand
  if x.exponent < 0 then some (shrink start x.exponent.natAbs)
  else if start == 0 then some start
  else if 308 < x.exponent then none
  else
    let y := start * tenTo x.exponent.toNat
    if y.isFinite then some y else none

/-- The number as a fraction. -/
def toFraction? (n : Numeral) : Option Fraction := do
  let whole := Scaled.take 0 1 ⟨0, 0⟩ n.whole
  let all := Scaled.take (-1) 0 whole (n.fraction.getD [])
  let shift : Int := match n.exponent with
    | none => 0
    | some (negative, digits) =>
      let e : Int := Nat.ofDigitChars 10 digits 0
      if negative then -e else e
  let x ← Scaled.toFloat? ⟨all.significand, all.exponent + shift⟩
  Fraction.of? (if n.negative then -x else x)

/-- The number as a whole number, if it has the form of one, fits, and is not `-0`. -/
def toWhole? (n : Numeral) : Option Whole :=
  if n.fraction.isSome || n.exponent.isSome then none
  else
    let m : Int := Nat.ofDigitChars 10 n.whole 0
    if n.negative then if m = 0 then none else Whole.of? (-m) else Whole.of? m

/-- The value of a number's text. -/
def value (n : Numeral) : Except Fault Json :=
  match n.toWhole? with
  | some w => .ok (.whole w)
  | none =>
    match n.toFraction? with
    | some x => .ok (.fraction x)
    | none => .error .malformed

end Numeral

end QueryCriteria.Json
