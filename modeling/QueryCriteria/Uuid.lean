import QueryCriteria.Text.Hexadecimal

/-!
Universally unique identifiers: 128 bits, written as 32 lower-case hexadecimal digits in groups of
8, 4, 4, 4 and 12 with hyphens between them. Four spellings are read: the digits alone, the
hyphenated groups, these in braces, and these after `urn:uuid:`; the case of a letter is free.
-/

namespace QueryCriteria

structure Uuid where
  bits : BitVec 128
  deriving DecidableEq, Repr

namespace Uuid

/-- The digits with hyphens after the 8th, 12th, 16th and 20th. -/
def hyphenated (digits : List Char) : List Char :=
  digits.take 8 ++ '-' :: (digits.drop 8).take 4 ++ '-' :: (digits.drop 12).take 4
    ++ '-' :: (digits.drop 16).take 4 ++ '-' :: digits.drop 20

def text (u : Uuid) : String := String.ofList (hyphenated (Text.toHex 32 u.bits.toNat))

/-- Thirty-two digits. -/
def ofDigits? (digits : List Char) : Option Uuid :=
  if digits.length = 32 then (Text.ofHex? digits).map fun n => ⟨BitVec.ofNat 128 n⟩ else none

/-- Thirty-two digits with the four hyphens at their places. -/
def ofHyphenated? (s : List Char) : Option Uuid :=
  let digits := s.filter (· ≠ '-')
  if s = hyphenated digits then ofDigits? digits else none

/-- Reads any of the four spellings. -/
def read? (s : String) : Option Uuid :=
  let s := s.toList
  let urn := "urn:uuid:".toList
  match s.length with
  | 32 => ofDigits? s
  | 36 => ofHyphenated? s
  | 38 =>
    if s.head? = some '{' && s.getLast? = some '}' then ofHyphenated? (s.drop 1).dropLast else none
  | 45 =>
    if (s.take urn.length).map Char.toLower = urn then ofHyphenated? (s.drop urn.length) else none
  | _ => none

end Uuid

end QueryCriteria
