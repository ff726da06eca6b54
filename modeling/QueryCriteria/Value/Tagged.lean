import QueryCriteria.Calendar.Reader
import QueryCriteria.Json.Decode
import QueryCriteria.Json.Printer
import QueryCriteria.Value.Basic

/-!
Tagged values: values as JSON objects with one member whose key names their kind, such as
`Int` or `Date`. This form keeps every kind apart from the others and can be read back.
-/

namespace QueryCriteria.Value

open Json

/-- The tag of a value's kind. -/
def tag : Value → String
  | int _ => "Int"
  | float _ => "Float"
  | text _ => "String"
  | bool _ => "Boolean"
  | uuid _ => "Uuid"
  | date _ => "Date"
  | timestamp _ => "Timestamp"

def tags : List String := ["Int", "Float", "String", "Boolean", "Uuid", "Date", "Timestamp"]

/-- The JSON of a value under its tag. -/
def content : Value → Json
  | int n => .whole (.ofInt64 n)
  | float x =>
    match Fraction.of? x with
    | some x => .fraction x
    | none => .null
  | bool b => .bool b
  | timestamp t => .text t.zuluText
  | v => .text v.plain

def toTagged (v : Value) : Json := .object [(v.tag, v.content)]

/-- A text that a reader takes or does not. -/
def readForm {α : Type} (read? : String → Option α) (o : Outline) : Read α := do
  match read? (← o.readText) with
  | some a => pure a
  | none => Read.mismatch (.refused "invalid form")

/-- The value under a tag. -/
def readContent (tag : String) (o : Outline) : Read Value :=
  match tag with
  | "Int" =>
    match o with
    | .leaf (.ok (.whole n)) _ =>
      match n.toInt64? with
      | some n => pure (.int n)
      | none => Read.mismatch (.invalidValue (.whole n.val) "i64")
    | o => o.unexpected "i64"
  | "Float" =>
    match o with
    | .leaf (.ok (.fraction x)) _ => pure (.float x.val)
    | .leaf (.ok (.whole n)) _ => pure (.float (Float.ofInt n.val))
    | o => o.unexpected "f64"
  | "String" => do pure (.text (← o.readText))
  | "Boolean" =>
    match o with
    | .leaf (.ok (.bool b)) _ => pure (.bool b)
    | o => o.unexpected "a boolean"
  | "Uuid" => do pure (.uuid (← readForm Uuid.read? o))
  | "Date" => do pure (.date (← readForm Calendar.Date.read? o))
  | "Timestamp" => do pure (.timestamp (← readForm Calendar.Timestamp.read? o))
  | _ => Read.mismatch (.unknownVariant tag tags)

/-- The tag that a text spells. -/
def readTag (read : Except Fault String) : Read String := do
  let tag ← Read.ofFault read
  if tags.contains tag then pure tag else Read.mismatch (.unknownVariant tag tags)

/-- Reads a tagged value: an object with exactly one member. A tag without a value is a mismatch;
anything but an object or a tag breaks the text off. -/
def ofTagged (o : Outline) : Read Value :=
  match o with
  | .object [] _ => Read.fault .malformed
  | .object ((k, o) :: rest) stop => do
    let tag ← readTag k.key
    let v ← readContent tag o
    if rest.isEmpty then Read.ofFault (Outline.closed stop) else Read.fault .malformed
    pure v
  | .text read _ => do
    let tag ← readTag read
    Read.mismatch (.refused ("no value under `" ++ tag ++ "`"))
  | .absent => Read.fault .cut
  | _ => Read.fault .malformed

def ofTaggedText (s : String) : Read Value := readText ofTagged s

end QueryCriteria.Value
