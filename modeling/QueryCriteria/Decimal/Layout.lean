import QueryCriteria.Decimal.Shortest

/-!
How a decimal is laid out as text. A `Layout` holds the decisions: which numbers are written
positionally and which with an exponent, whether a whole number keeps a `.0`, what stands for the
values that have no digits, and which way a tie between two shortest candidates goes. Every text
of a double in this library is `Layout.text` of one of the two layouts in use.
-/

namespace QueryCriteria.Decimal

structure Layout where
  /-- Whether a number with this scientific exponent is written without an exponent. -/
  positional : Int → Bool
  /-- Whether a whole number in positional form ends in `.0`. -/
  keepsPoint : Bool
  tie : Tie
  notANumber : String
  infinite : Bool → String

/-- Plain text: never an exponent and no needless point. Two equally near candidates: the upper. -/
def plain : Layout where
  positional := fun _ => true
  keepsPoint := false
  tie := .up
  notANumber := "NaN"
  infinite := fun negative => if negative then "-inf" else "inf"

/-- The text of a JSON number: an exponent outside of `1e-5` to `1e15`, and always a point or an
exponent, so that it reads back as a fraction. A double without digits is written as null. -/
def json : Layout where
  positional := fun e => -5 ≤ e && e ≤ 15
  keepsPoint := true
  tie := .toEven
  notANumber := "null"
  infinite := fun _ => "null"

/-- Digits with the point after the first `whole` of them, which may lie outside of the digits. -/
def withPoint (keepsPoint : Bool) (digits : List Char) (whole : Int) : List Char :=
  if whole ≤ 0 then '0' :: '.' :: List.replicate (-whole).toNat '0' ++ digits
  else
    let n := whole.toNat
    if digits.length ≤ n then
      digits ++ List.replicate (n - digits.length) '0' ++ (if keepsPoint then ['.', '0'] else [])
    else digits.take n ++ '.' :: digits.drop n

/-- One digit, the others after a point, and the exponent with its sign. -/
def withExponent (digits : List Char) (e : Int) : List Char :=
  let rest := digits.drop 1
  digits.take 1 ++ (if rest.isEmpty then [] else '.' :: rest)
    ++ 'e' :: (if e < 0 then '-' else '+') :: Nat.toDigits 10 e.natAbs

namespace Layout

/-- The text of a positive decimal. -/
def digits (l : Layout) (d : Decimal) : List Char :=
  let ds := Nat.toDigits 10 d.significand
  let whole : Int := ds.length + d.exponent
  if l.positional (whole - 1) then withPoint l.keepsPoint ds whole else withExponent ds (whole - 1)

/-- The text of a double. -/
def text (l : Layout) (x : Float) : String :=
  let signed (negative : Bool) (s : List Char) := String.ofList (if negative then '-' :: s else s)
  match Double.ofFloat x with
  | .notANumber => l.notANumber
  | .infinite negative => l.infinite negative
  | .zero negative => signed negative (if l.keepsPoint then ['0', '.', '0'] else ['0'])
  | .finite negative mantissa exponent tight =>
    signed negative (l.digits (shortest l.tie mantissa exponent tight))

end Layout

end QueryCriteria.Decimal
