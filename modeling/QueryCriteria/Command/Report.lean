import QueryCriteria.Json.Printer
import QueryCriteria.Clauses.Apply

/-!
What the command line prints: the clauses of a criteria or a rendered query, as plain text or as
JSON over several lines.
-/

namespace QueryCriteria

open Sql

/-- A text with blanks after it up to a width in characters. -/
def paddedTo (width : Nat) (s : String) : String :=
  s ++ String.ofList (List.replicate (width - s.length) ' ')

/-- A string or null. -/
def Json.ofOption (s : Option String) : Json :=
  match s with
  | some s => .text s
  | none => .null

/-- An unsigned number or null. -/
def Json.ofCount (n : Option UInt64) : Json :=
  match n with
  | some n => .whole (.ofUInt64 n)
  | none => .null

namespace Clauses

def parameterJson (p : Parameter) : Json :=
  .ofMembers [("name", .text p.name), ("value", p.value.toJson),
    ("type", .ofOption (p.type.map ParameterType.name))]

def sortColumnJson (c : SortColumn) : Json :=
  .ofMembers [("column", .text c.column), ("direction", .text c.direction.sql)]

/-- The clauses as JSON. -/
def toJson (c : Clauses) : Json :=
  .ofMembers
    [("predicates", .array (c.predicates.map .text)),
     ("params", .array (c.parameters.map parameterJson)),
     ("order_by", .array (c.sorting.map sortColumnJson)),
     ("offset", .ofCount c.offset),
     ("limit", .ofCount c.limit)]

/-- The line of a parameter: its name, its value as JSON, and its type if it has one. -/
def parameterLine (p : Parameter) : String :=
  let type := match p.type with
    | some t => " (" ++ t.name ++ ")"
    | none => ""
  "  " ++ paddedTo 16 p.name ++ " " ++ p.value.toJson.compact ++ type ++ "\n"

/-- A heading and lines under it; without lines nothing at all. -/
def part (heading : String) (lines : List String) : String :=
  if lines.isEmpty then "" else heading ++ "\n" ++ String.join lines

/-- A line of a word and a number, if there is one. -/
def countLine (word : String) (n : Option UInt64) : String :=
  match n with
  | some n => word ++ " " ++ toString n.toNat ++ "\n"
  | none => ""

/-- The clauses as plain text. -/
def report (c : Clauses) : String :=
  part "WHERE" (c.predicates.map fun p => "  " ++ p ++ "\n")
    ++ part "PARAMETERS" (c.parameters.map parameterLine)
    ++ part "ORDER BY" (c.sorting.map fun c => "  " ++ c.column ++ " " ++ c.direction.sql ++ "\n")
    ++ countLine "OFFSET" c.offset
    ++ countLine "LIMIT" c.limit

/-- The clauses as they are printed. -/
def print (c : Clauses) (asJson : Bool) : String :=
  if asJson then c.toJson.pretty ++ "\n" else c.report

end Clauses

namespace Sql.Query

/-- The query as JSON. -/
def toJson (q : Query) : Json :=
  .ofMembers [("sql", .text q.sql), ("params", .array (q.parameters.map Value.toJson))]

/-- The line of a positional parameter, numbered from 1. -/
def parameterLine (v : Value) (index : Nat) : String :=
  "  #" ++ paddedTo 4 (toString (index + 1)) ++ " " ++ v.sql ++ "\n"

/-- The query as plain text. -/
def report (q : Query) : String :=
  q.sql ++ "\n" ++ String.join (q.parameters.zipIdx.map fun p => parameterLine p.1 p.2)

/-- The query as it is printed. -/
def print (q : Query) (asJson : Bool) : String :=
  if asJson then q.toJson.pretty ++ "\n" else q.report

end Sql.Query

end QueryCriteria
