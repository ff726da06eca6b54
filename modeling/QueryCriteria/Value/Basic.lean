import QueryCriteria.Calendar.Timestamp
import QueryCriteria.Decimal.Layout
import QueryCriteria.Text.Quoted
import QueryCriteria.Uuid

/-!
Scalar values: what a condition compares a field with, and what a rendered query binds.

A value has a plain text (`Value.plain`) and a text in SQL (`Value.sql`), in which numbers and
truth values stand as they are and everything else stands in single quotes.
-/

namespace QueryCriteria

inductive Value where
  | int (n : Int64)
  | float (x : Float)
  | text (s : String)
  | bool (b : Bool)
  | uuid (u : Uuid)
  | date (d : Calendar.Date)
  | timestamp (t : Calendar.Timestamp)
  deriving DecidableEq

namespace Value

/-- The plain text of a value, without any quotes. -/
def plain : Value → String
  | int n => toString n.toInt
  | float x => Decimal.plain.text x
  | text s => s
  | bool true => "true"
  | bool false => "false"
  | uuid u => u.text
  | date d => d.text
  | timestamp t => t.text

/-- A text between single quotes, the ones inside it doubled. -/
def quoted (s : String) : String := String.ofList (Text.enclose '\'' s.toList)

/-- The value as it stands in SQL. -/
def sql (v : Value) : String :=
  match v with
  | int _ | float _ | bool _ => v.plain
  | _ => quoted v.plain

end Value

end QueryCriteria
