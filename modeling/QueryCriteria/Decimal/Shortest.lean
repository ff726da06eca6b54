/-!
The shortest decimal of a double: the fewest digits that read back as the same number.

A positive finite double is `mantissa * 2 ^ exponent`. The reals that round to it form an interval
around it whose ends are half a step away and belong to it exactly when the mantissa is even. A
decimal reads back as the double exactly when it lies in that interval. The multiples of a power
of ten form a grid; the coarsest grid with a point inside the interval gives the fewest digits,
and of its points the two next to the double are the candidates. All of it is exact arithmetic on
natural numbers: distances are counted in quarters of a step, over a common denominator.
-/

namespace QueryCriteria

/-- A decimal number `significand * 10 ^ exponent`, without its sign. -/
structure Decimal where
  significand : Nat
  exponent : Int
  deriving DecidableEq, Repr

namespace Decimal

/-- What the sixty-four bits of a double say. -/
inductive Double where
  | notANumber
  | infinite (negative : Bool)
  | zero (negative : Bool)
  /-- `mantissa * 2 ^ exponent`; `tight` when the next double towards zero is half a step away. -/
  | finite (negative : Bool) (mantissa : Nat) (exponent : Int) (tight : Bool)
  deriving DecidableEq, Repr

/-- Two to the power of fifty-two: the leading bit of a mantissa, which the fraction leaves out. -/
def hiddenBit : Nat := 4503599627370496

/-- Takes a double apart: one sign bit, eleven bits of exponent, fifty-two bits of fraction. -/
def Double.ofFloat (x : Float) : Double :=
  let bits := x.toBits.toNat
  let negative := bits >>> 63 == 1
  let biased : Nat := (bits >>> 52) % 2048
  let fraction := bits % hiddenBit
  if biased = 2047 then if fraction = 0 then .infinite negative else .notANumber
  else if biased = 0 then
    if fraction = 0 then .zero negative else .finite negative fraction (-1074) false
  else
    .finite negative (hiddenBit + fraction) ((biased : Int) - 1075) (fraction = 0 && 1 < biased)

/-- Which of two equally near candidates is taken. -/
inductive Tie where
  | up
  | toEven
  deriving DecidableEq, Repr

/-- The point of the grid of multiples of `10 ^ k` nearest to `mantissa * 2 ^ exponent` among
those that read back as it, if there is one. -/
def nearestOnGrid (tie : Tie) (mantissa : Nat) (exponent : Int) (tight : Bool) (k : Int) :
    Option Nat :=
  -- one quarter of a binary step and one step of the grid, over a common denominator
  let quarter := Nat.pow 2 (exponent - 2).toNat * Nat.pow 10 (-k).toNat
  let step := Nat.pow 10 k.toNat * Nat.pow 2 (2 - exponent).toNat
  let centre := 4 * mantissa * quarter
  let low := (4 * mantissa - (if tight then 1 else 2)) * quarter
  let high := (4 * mantissa + 2) * quarter
  let closed := mantissa % 2 == 0
  let inside (n : Nat) : Bool :=
    if closed then low ≤ n * step && n * step ≤ high else low < n * step && n * step < high
  let below := centre / step
  let above := below + 1
  match inside below, inside above with
  | true, false => some below
  | false, true => some above
  | false, false => none
  | true, true =>
    let fromBelow := centre - below * step
    let fromAbove := above * step - centre
    if fromBelow < fromAbove then some below
    else if fromAbove < fromBelow then some above
    else
      match tie with
      | .up => some above
      | .toEven => some (if below % 2 = 0 then below else above)

/-- The shortest decimal that reads back as `mantissa * 2 ^ exponent`: the first grid with a hit,
from `10 ^ 309`, beyond the largest double, downwards. -/
def shortest (tie : Tie) (mantissa : Nat) (exponent : Int) (tight : Bool) : Decimal :=
  let hit := (List.range 640).findSome? fun i : Nat =>
    let k : Int := 309 - (i : Int)
    (nearestOnGrid tie mantissa exponent tight k).map (⟨·, k⟩)
  hit.getD ⟨mantissa * Nat.pow 2 exponent.toNat, 0⟩

end Decimal

end QueryCriteria
