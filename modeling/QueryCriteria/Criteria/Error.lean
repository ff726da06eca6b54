import QueryCriteria.Criteria.Operator

/-!
What can be wrong with the parts of a criteria, and the message of each.
-/

namespace QueryCriteria

inductive CriteriaError where
  /-- No value where the operator takes one or a list. -/
  | missingValue (field : String) (operator : Operator)
  /-- A value where the operator takes none. -/
  | unexpectedValue (field : String) (operator : Operator)
  | expectedList (field : String) (operator : Operator)
  | expectedScalar (field : String) (operator : Operator)
  | emptyField
  | zeroLimit
  /-- A JSON value that is no scalar; its compact text. -/
  | unsupportedValue (json : String)
  | unknownOperator (text : String)
  | unknownOrderType (text : String)
  deriving DecidableEq, Repr

namespace CriteriaError

/-- Names the operator and the field of a comparison before the complaint about it. -/
def about (field : String) (operator : Operator) (complaint : String) : String :=
  "operator `" ++ operator.name ++ "` on field `" ++ field ++ "` " ++ complaint

def message : CriteriaError → String
  | missingValue field operator => about field operator "requires a value"
  | unexpectedValue field operator => about field operator "does not take a value"
  | expectedList field operator => about field operator "requires a list of values"
  | expectedScalar field operator => about field operator "requires a single value"
  | emptyField => "field identifier must not be empty"
  | zeroLimit => "limit must be greater than zero"
  | unsupportedValue json => "unsupported value: " ++ json
  | unknownOperator text => "unknown operator: " ++ text
  | unknownOrderType text => "unknown order type: " ++ text

end CriteriaError

/-- The operator that a text names, or a complaint with the text as it was given. -/
def Operator.read (s : String) : Except CriteriaError Operator :=
  match ofText? s with
  | some op => .ok op
  | none => .error (.unknownOperator s)

/-- A field identifier that names nothing: empty, or blanks only. -/
def IsBlankField (field : String) : Prop := Text.allBlank field.toList = true

instance (field : String) : Decidable (IsBlankField field) :=
  inferInstanceAs (Decidable (_ = true))

end QueryCriteria
