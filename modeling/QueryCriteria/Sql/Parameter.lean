import QueryCriteria.Value.Json
import QueryCriteria.Keyed

/-!
Named parameters: what a fragment refers to as `:name`.
-/

namespace QueryCriteria.Sql

/-- How a parameter that holds several values is bound. -/
inductive ParameterType where
  /-- One placeholder for each value, each bound as text. -/
  | stringArray
  deriving DecidableEq, Repr

def ParameterType.name : ParameterType → String
  | stringArray => "string_array"

inductive ParameterValue where
  | scalar (v : Value)
  | list (vs : List Value)
  deriving DecidableEq

def ParameterValue.toJson : ParameterValue → Json
  | scalar v => v.toJson
  | list vs => .array (vs.map Value.toJson)

structure Parameter where
  name : String
  value : ParameterValue
  type : Option ParameterType
  deriving DecidableEq

/-- Binds a parameter among others; one of the same name is replaced where it stands. -/
def bind (p : Parameter) (ps : List Parameter) : List Parameter := Keyed.put Parameter.name p ps

end QueryCriteria.Sql
