import QueryCriteria.Criteria.Basic
import QueryCriteria.FieldMap
import QueryCriteria.Sql.Parameter

/-!
The clauses of a criteria: one predicate for each filter, the parameters that the predicates
refer to, sort columns, and the window of rows. They are the same for every dialect.

The comparisons of a criteria are numbered from left to right through all its filters, whether
they take a value or not, and a parameter is named after the field and the number of its
comparison. So that several criteria can share one numbering, it may start after a given number of
comparisons (`Criteria.clausesFrom`).
-/

namespace QueryCriteria

open Sql

/-- The operator as SQL writes it. -/
def Operator.sql : Operator → String
  | equal => "="
  | notEqual => "<>"
  | gt => ">"
  | lt => "<"
  | gte => ">="
  | lte => "<="
  | contains => "LIKE"
  | isIn => "IN"
  | notIn => "NOT IN"
  | isNull => "IS NULL"
  | isNotNull => "IS NOT NULL"

/-- How the values of the operator are bound. -/
def Operator.parameterType : Operator → Option ParameterType
  | isIn | notIn => some .stringArray
  | _ => none

/-- A column to sort by. -/
structure SortColumn where
  column : String
  direction : Direction
  deriving DecidableEq, Repr

/-- What a criteria asks of a query, as text and bindings. -/
structure Clauses where
  /-- One for each filter. -/
  predicates : List String := []
  /-- In the order of their comparisons. -/
  parameters : List Parameter := []
  sorting : List SortColumn := []
  offset : Option UInt64 := none
  limit : Option UInt64 := none
  deriving DecidableEq

namespace Clauses

/-- The first parameter of a name. -/
def parameter? (c : Clauses) (name : String) : Option Parameter :=
  Keyed.find? Parameter.name name c.parameters

end Clauses

namespace Comparison

/-- The name of the parameter of the comparison with this number. -/
def parameterName (c : Comparison) (number : Nat) : String := c.field ++ toString number

/-- What a comparison binds for its value: the value, or for a search inside texts its plain text
between wildcards. -/
def boundValue (operator : Operator) (v : Value) : Value :=
  match operator with
  | .contains => .text ("%" ++ v.plain ++ "%")
  | _ => v

/-- The condition of the comparison with this number, and the parameter it refers to. -/
def condition (fields : FieldMap) (c : Comparison) (number : Nat) : String × List Parameter :=
  let name := c.parameterName number
  let start := fields.resolve c.field ++ " " ++ c.operator.sql
  match c.operand with
  | .none => (start, [])
  | .scalar v => (start ++ " :" ++ name, [⟨name, .scalar (boundValue c.operator v), none⟩])
  | .list vs => (start ++ " (:" ++ name ++ ")", [⟨name, .list vs, c.operator.parameterType⟩])

end Comparison

/-- A part of the clauses: what it yields, its parameters, and how many comparisons were
numbered up to its end. -/
structure Numbered (α : Type) where
  result : α
  parameters : List Parameter
  count : Nat

namespace Filter

/-- Two conditions with a word between them, in parentheses. -/
def grouped (left word right : String) : String :=
  "( " ++ left ++ " " ++ word ++ " " ++ right ++ " )"

/-- The predicate of a filter, after so many comparisons. -/
def predicate (fields : FieldMap) (count : Nat) : Filter → Numbered String
  | comparison c =>
    let (text, parameters) := c.condition fields (count + 1)
    ⟨text, parameters, count + 1⟩
  | and left right =>
    let l := left.predicate fields count
    let r := right.predicate fields l.count
    ⟨grouped l.result "AND" r.result, l.parameters ++ r.parameters, r.count⟩
  | or left right =>
    let l := left.predicate fields count
    let r := right.predicate fields l.count
    ⟨grouped l.result "OR" r.result, l.parameters ++ r.parameters, r.count⟩

/-- The predicates of filters one after the other. -/
def predicates (fields : FieldMap) (count : Nat) : List Filter → Numbered (List String)
  | [] => ⟨[], [], count⟩
  | f :: fs =>
    let first := f.predicate fields count
    let rest := predicates fields first.count fs
    ⟨first.result :: rest.result, first.parameters ++ rest.parameters, rest.count⟩

/-- A filter moves the numbering on by the number of its comparisons. -/
theorem count_predicate (fields : FieldMap) (count : Nat) (f : Filter) :
    (f.predicate fields count).count = count + f.comparisonCount := by
  induction f generalizing count with
  | comparison c => rfl
  | and l r hl hr => simp [predicate, hl, hr, comparisonCount, Nat.add_assoc]
  | or l r hl hr => simp [predicate, hl, hr, comparisonCount, Nat.add_assoc]

theorem count_predicates (fields : FieldMap) (count : Nat) (fs : List Filter) :
    (predicates fields count fs).count = count + totalCount fs := by
  induction fs generalizing count with
  | nil => rfl
  | cons f fs ih => simp [predicates, ih, count_predicate, totalCount, Nat.add_assoc]

end Filter

namespace Criteria

/-- The clauses of a criteria, after so many comparisons. -/
def clausesFrom (fields : FieldMap) (count : Nat) (c : Criteria) : Clauses :=
  let filters := Filter.predicates fields count c.filters
  { predicates := filters.result
    parameters := filters.parameters
    sorting := c.sorting.map fun o => ⟨fields.resolve o.field, o.direction⟩
    offset := c.offset
    limit := c.limit }

def clauses (fields : FieldMap) (c : Criteria) : Clauses := c.clausesFrom fields 0

end Criteria

end QueryCriteria
