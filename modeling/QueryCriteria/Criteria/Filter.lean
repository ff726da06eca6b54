import QueryCriteria.Criteria.Error
import QueryCriteria.Value.Basic

/-!
Filters: trees of conditions joined two by two with and, or.

A condition compares a field with an operand. A comparison holds the proof that its field has a
name and that its operand is of the kind its operator takes, so `Comparison.of`, which checks
both, is the one way in; the field is checked first.
-/

namespace QueryCriteria

/-- The right-hand side of a comparison. -/
inductive Operand where
  | none
  | scalar (v : Value)
  | list (vs : List Value)
  deriving DecidableEq

/-- The kind of operator that takes this operand. -/
def Operand.arity : Operand → Arity
  | none => .nullary
  | scalar _ => .scalar
  | list _ => .list

/-- One condition on a field. -/
@[ext]
structure Comparison where
  field : String
  operator : Operator
  operand : Operand
  named : ¬ IsBlankField field
  fits : operand.arity = operator.arity

instance : DecidableEq Comparison := fun a b =>
  if h : a.field = b.field ∧ a.operator = b.operator ∧ a.operand = b.operand then
    isTrue (Comparison.ext h.1 h.2.1 h.2.2)
  else isFalse fun e => h (e ▸ ⟨rfl, rfl, rfl⟩)

namespace Comparison

/-- The complaint about an operand that its operator does not take. -/
def misfit (field : String) (operator : Operator) (operand : Operand) : CriteriaError :=
  match operator.arity, operand.arity with
  | .nullary, _ => .unexpectedValue field operator
  | _, .nullary => .missingValue field operator
  | .list, _ => .expectedList field operator
  | .scalar, _ => .expectedScalar field operator

def of (field : String) (operator : Operator) (operand : Operand) :
    Except CriteriaError Comparison :=
  if named : IsBlankField field then .error .emptyField
  else if fits : operand.arity = operator.arity then
    .ok ⟨field, operator, operand, named, fits⟩
  else .error (misfit field operator operand)

/-- A comparison with one value. -/
def withValue (operator : Operator) (field : String) (v : Value) :
    Except CriteriaError Comparison :=
  of field operator (.scalar v)

def equal := withValue .equal
def notEqual := withValue .notEqual
def gt := withValue .gt
def lt := withValue .lt
def gte := withValue .gte
def lte := withValue .lte
def contains := withValue .contains

def inList (field : String) (vs : List Value) : Except CriteriaError Comparison :=
  of field .isIn (.list vs)

def notInList (field : String) (vs : List Value) : Except CriteriaError Comparison :=
  of field .notIn (.list vs)

def isNull (field : String) : Except CriteriaError Comparison := of field .isNull .none

def isNotNull (field : String) : Except CriteriaError Comparison := of field .isNotNull .none

theorem of_eq_ok_iff {field : String} {operator : Operator} {operand : Operand}
    {c : Comparison} :
    of field operator operand = .ok c ↔
      c.field = field ∧ c.operator = operator ∧ c.operand = operand := by
  unfold of
  split
  · next h =>
    simp only [reduceCtorEq, false_iff, not_and]
    intro hf
    exact absurd (hf ▸ h) c.named
  · split
    · cases c
      simp [eq_comm]
    · next h =>
      simp only [reduceCtorEq, false_iff, not_and]
      intro _ ho hx
      exact absurd (hx ▸ ho ▸ c.fits) h

end Comparison

inductive Filter where
  | comparison (c : Comparison)
  /-- Both children must hold. -/
  | and (left right : Filter)
  /-- At least one child must hold. -/
  | or (left right : Filter)
  deriving DecidableEq

namespace Filter

/-- The comparisons of a filter from left to right. -/
def comparisons : Filter → List Comparison
  | comparison c => [c]
  | and left right => left.comparisons ++ right.comparisons
  | or left right => left.comparisons ++ right.comparisons

/-- The number of comparisons in a filter. -/
def comparisonCount : Filter → Nat
  | comparison _ => 1
  | and left right => left.comparisonCount + right.comparisonCount
  | or left right => left.comparisonCount + right.comparisonCount

/-- The number of comparisons in all of some filters. -/
def totalCount (fs : List Filter) : Nat := fs.foldr (fun f n => f.comparisonCount + n) 0

theorem length_comparisons (f : Filter) : f.comparisons.length = f.comparisonCount := by
  induction f with
  | comparison c => rfl
  | and l r hl hr => simp [comparisons, comparisonCount, hl, hr]
  | or l r hl hr => simp [comparisons, comparisonCount, hl, hr]

end Filter

end QueryCriteria
