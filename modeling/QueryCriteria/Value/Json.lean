import QueryCriteria.Criteria.Error
import QueryCriteria.Json.Printer
import QueryCriteria.Value.Basic

/-!
Values as JSON and back. Numbers and truth values keep their kind; every other value becomes its
plain text, and a double that is not finite becomes null. A JSON scalar becomes a value again,
except null; a whole number beyond the signed sixty-four bits becomes a double.
-/

namespace QueryCriteria.Value

def toJson : Value → Json
  | int n => .whole (.ofInt64 n)
  | float x =>
    match Json.Fraction.of? x with
    | some x => .fraction x
    | none => .null
  | bool b => .bool b
  | v => .text v.plain

/-- The value of a whole number: an integer if it fits in sixty-four bits with a sign. -/
def ofWhole (n : Json.Whole) : Value :=
  match n.toInt64? with
  | some n => .int n
  | none => .float (Float.ofNat n.val.toNat)

/-- The value of a JSON scalar. What is none is named by its compact text. -/
def ofJson : Json → Except CriteriaError Value
  | .bool b => .ok (.bool b)
  | .text s => .ok (.text s)
  | .whole n => .ok (ofWhole n)
  | .fraction x => .ok (.float x.val)
  | j => .error (.unsupportedValue j.canonical.compact)

end QueryCriteria.Value
