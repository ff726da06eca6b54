import QueryCriteria.Decimal.Layout
import QueryCriteria.Json.Outline
import QueryCriteria.Text.Shown

/-!
What can be wrong with a document as it is read: the text is no JSON, or a value in it does not
fit where it stands. Only the second kind has a message.
-/

namespace QueryCriteria.Json

/-- What was found where something else was expected. -/
inductive Found where
  | null
  | bool (b : Bool)
  | whole (n : Int)
  | fraction (x : Float)
  | text (s : String)
  | sequence
  | map
  deriving DecidableEq

def Found.describe : Found → String
  | null => "null"
  | bool true => "boolean `true`"
  | bool false => "boolean `false`"
  | whole n => "integer `" ++ toString n ++ "`"
  | fraction x => "floating point `" ++ Decimal.json.text x ++ "`"
  | text s => "string " ++ String.ofList (Text.shown s.toList)
  | sequence => "sequence"
  | map => "map"

inductive Mismatch where
  | invalidType (found : Found) (expected : String)
  /-- A value of the right kind that is out of bounds. -/
  | invalidValue (found : Found) (expected : String)
  | invalidLength (length : Nat) (expected : String)
  | unknownField (name : String) (expected : List String)
  | duplicateField (name : String)
  | missingField (name : String)
  | unknownVariant (name : String) (expected : List String)
  /-- A value that has none of the shapes a type allows for. -/
  | noVariant (type : String)
  /-- A text that means nothing to its reader, with the reader's complaint. -/
  | refused (complaint : String)
  deriving DecidableEq

/-- Names in backquotes with commas between them. -/
def nameList (names : List String) : String :=
  ", ".intercalate (names.map fun n => "`" ++ n ++ "`")

/-- The text before ` at line L column C` at the end of a text, if it ends so and both numbers fit
in sixty-four bits. -/
def withoutPosition (s : List Char) : List Char :=
  let (column, rest) := (s.reverse.takeWhile Char.isDigit, s.reverse.dropWhile Char.isDigit)
  let columnWord := " column ".toList.reverse
  let lineWord := " at line ".toList.reverse
  let isNumber (reversed : List Char) : Bool :=
    !reversed.isEmpty && Nat.ofDigitChars 10 reversed.reverse 0 < UInt64.size
  if columnWord.isPrefixOf rest then
    let rest := rest.drop columnWord.length
    let (line, rest) := (rest.takeWhile Char.isDigit, rest.dropWhile Char.isDigit)
    if isNumber column && isNumber line && lineWord.isPrefixOf rest then
      (rest.drop lineWord.length).reverse
    else s
  else s

namespace Mismatch

/-- The message. A complaint that ends in a position in a text is taken without it, since that is
where the position of the mismatch itself would stand. -/
def message : Mismatch → String
  | invalidType found expected =>
    "invalid type: " ++ found.describe ++ ", expected " ++ expected
  | invalidValue found expected =>
    "invalid value: " ++ found.describe ++ ", expected " ++ expected
  | invalidLength length expected =>
    "invalid length " ++ toString length ++ ", expected " ++ expected
  | unknownField name expected =>
    "unknown field `" ++ name ++ "`, expected one of " ++ nameList expected
  | duplicateField name => "duplicate field `" ++ name ++ "`"
  | missingField name => "missing field `" ++ name ++ "`"
  | unknownVariant name expected =>
    "unknown variant `" ++ name ++ "`, expected one of " ++ nameList expected
  | noVariant type => "data did not match any variant of untagged enum " ++ type
  | refused complaint => String.ofList (withoutPosition complaint.toList)

end Mismatch

inductive ReadError where
  | fault (f : Fault)
  | mismatch (m : Mismatch)
  deriving DecidableEq

end QueryCriteria.Json
