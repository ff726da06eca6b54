import QueryCriteria.Criteria.Error

/-!
Sort keys: a field and a direction.
-/

namespace QueryCriteria

inductive Direction where
  | asc
  | desc
  deriving DecidableEq, Repr

namespace Direction

def name : Direction → String
  | asc => "asc"
  | desc => "desc"

/-- The word for the direction in SQL. -/
def sql : Direction → String
  | asc => "ASC"
  | desc => "DESC"

/-- The direction that a text names: its short or its long name, in any case, between blanks. -/
def ofText? (s : String) : Option Direction :=
  match String.ofList ((Text.trim s.toList).map Char.toLower) with
  | "asc" | "ascending" => some asc
  | "desc" | "descending" => some desc
  | _ => none

/-- The direction that a text names, or a complaint with the text as it was given. -/
def read (s : String) : Except CriteriaError Direction :=
  match ofText? s with
  | some d => .ok d
  | none => .error (.unknownOrderType s)

end Direction

/-- A sort key of a criteria. -/
structure Order where
  field : String
  direction : Direction
  named : ¬ IsBlankField field
  deriving DecidableEq

namespace Order

def of (field : String) (direction : Direction) : Except CriteriaError Order :=
  if h : IsBlankField field then .error .emptyField else .ok ⟨field, direction, h⟩

def asc (field : String) : Except CriteriaError Order := of field .asc

def desc (field : String) : Except CriteriaError Order := of field .desc

theorem of_eq_ok_iff {field : String} {direction : Direction} {o : Order} :
    of field direction = .ok o ↔ o.field = field ∧ o.direction = direction := by
  unfold of
  split
  · next h =>
    simp only [reduceCtorEq, false_iff, not_and]
    intro hf
    exact absurd (hf ▸ h) o.named
  · next h =>
    cases o
    simp [eq_comm]

end Order

end QueryCriteria
