import QueryCriteria.Criteria.Basic
import QueryCriteria.Value.Json

/-!
Criteria documents: the form in which a criteria is written as JSON.

A document is read in two steps. Its shape is fixed first: a filter document is the JSON of a
conjunction, a disjunction or a comparison, with the operator still a text and the value still
JSON. `Document.toCriteria` then makes the criteria, through the same checks as every other way
of making one, and reports the first problem: filters from left to right, then sort keys, then the
window.
-/

namespace QueryCriteria

/-- The shape of a filter. -/
inductive FilterDocument where
  | comparison (field operator : String) (value : Option Json)
  | and (left right : FilterDocument)
  | or (left right : FilterDocument)

structure OrderDocument where
  field : String
  direction : Direction := .asc
  deriving DecidableEq, Repr

structure Document where
  filters : List FilterDocument := []
  sorting : List OrderDocument := []
  offset : Option UInt64 := none
  limit : Option UInt64 := none

namespace FilterDocument

/-! ## From JSON -/

/-- The value of a key that occurs once among members. -/
def only? {α : Type} (key : String) (members : List (String × α)) : Option α :=
  match members.filter (·.1 == key) with
  | [m] => some m.2
  | _ => none

/-- A comparison: a field and an operator, both texts, and at most one value; null is no value. -/
def comparison? (members : List (String × Json)) : Option FilterDocument :=
  match only? "field" members, only? "operator" members with
  | some (.text field), some (.text operator) =>
    match members.filter (·.1 == "value") with
    | [] => some (comparison field operator none)
    | [(_, .null)] => some (comparison field operator none)
    | [(_, value)] => some (comparison field operator (some value))
    | _ => none
  | _, _ => none

mutual

/-- The filter document of a JSON value. An object is a conjunction if it has a good key `and`,
else a disjunction if it has a good key `or`, else a comparison. -/
def ofJson? : Json → Option FilterDocument
  | .object members =>
    let children := childPairs members
    match (only? "and" children).join with
    | some (l, r) => some (and l r)
    | none =>
      match (only? "or" children).join with
      | some (l, r) => some (or l r)
      | none => comparison? members
  | _ => none

/-- Two filter documents from a list of exactly two good values. -/
def pair? : Json → Option (FilterDocument × FilterDocument)
  | .array [l, r] =>
    match ofJson? l, ofJson? r with
    | some l, some r => some (l, r)
    | _, _ => none
  | _ => none

/-- The members with what their values are as pairs. -/
def childPairs : List (String × Json) →
    List (String × Option (FilterDocument × FilterDocument))
  | [] => []
  | (key, j) :: rest => (key, pair? j) :: childPairs rest

end

theorem childPairs_eq_map (members : List (String × Json)) :
    childPairs members = members.map fun m => (m.1, pair? m.2) := by
  induction members with
  | nil => rfl
  | cons m rest ih => rw [childPairs, ih, List.map_cons]

/-- A pair is looked up among the members themselves. -/
theorem join_only?_childPairs (key : String) (members : List (String × Json)) :
    (only? key (childPairs members)).join = (only? key members).bind pair? := by
  have hkeys : (members.map fun m => (m.1, pair? m.2)).filter (·.1 == key) =
      (members.filter (·.1 == key)).map fun m => (m.1, pair? m.2) := List.filter_map
  unfold only?
  rw [childPairs_eq_map, hkeys]
  generalize members.filter (·.1 == key) = found
  match found with
  | [] => rfl
  | [m] => rfl
  | _ :: _ :: _ => rfl

theorem pair?_eq_some_iff {j : Json} {a b : FilterDocument} :
    pair? j = some (a, b) ↔
      ∃ l r, j = .array [l, r] ∧ ofJson? l = some a ∧ ofJson? r = some b := by
  constructor
  · intro h
    unfold pair? at h
    split at h
    · next l r =>
      split at h
      · next hl hr =>
        cases h
        exact ⟨l, r, rfl, hl, hr⟩
      · cases h
    · cases h
  · rintro ⟨l, r, rfl, hl, hr⟩
    unfold pair?
    simp only [hl, hr]

theorem bind_pair?_eq_some_iff {value : Option Json} {a b : FilterDocument} :
    value.bind pair? = some (a, b) ↔
      ∃ l r, value = some (.array [l, r]) ∧ ofJson? l = some a ∧ ofJson? r = some b := by
  cases value with
  | none => simp
  | some j => simp [pair?_eq_some_iff]

theorem comparison?_eq_some {members : List (String × Json)} {f : FilterDocument}
    (h : comparison? members = some f) :
    ∃ field operator value, f = comparison field operator value ∧ value ≠ some .null
      ∧ only? "field" members = some (.text field)
      ∧ only? "operator" members = some (.text operator) := by
  unfold comparison? at h
  split at h
  · next field operator hfield hoperator =>
    split at h
    · cases h
      exact ⟨field, operator, none, rfl, nofun, hfield, hoperator⟩
    · cases h
      exact ⟨field, operator, none, rfl, nofun, hfield, hoperator⟩
    · next hnull _ =>
      cases h
      exact ⟨field, operator, _, rfl, fun hvalue => hnull (Option.some.inj hvalue), hfield,
        hoperator⟩
    · cases h
  · cases h

/-- How an object is read: a good key `and` decides, else a good key `or`, and else it is a
comparison. -/
theorem ofJson?_eq_some_iff {j : Json} {f : FilterDocument} :
    ofJson? j = some f ↔
      ∃ members, j = .object members ∧
        ((∃ a b, (only? "and" members).bind pair? = some (a, b) ∧ f = and a b) ∨
          (only? "and" members).bind pair? = none ∧
            ((∃ a b, (only? "or" members).bind pair? = some (a, b) ∧ f = or a b) ∨
              (only? "or" members).bind pair? = none ∧ comparison? members = some f)) := by
  cases j with
  | object members =>
    have hread : ofJson? (.object members) = match (only? "and" members).bind pair? with
        | some (l, r) => some (and l r)
        | none =>
          match (only? "or" members).bind pair? with
          | some (l, r) => some (or l r)
          | none => comparison? members := by
      rw [ofJson?, join_only?_childPairs, join_only?_childPairs]
    rw [hread]
    constructor
    · intro h
      refine ⟨members, rfl, ?_⟩
      rcases hand : (only? "and" members).bind pair? with _ | ⟨a, b⟩
      · rcases hor : (only? "or" members).bind pair? with _ | ⟨a, b⟩
        · rw [hand, hor] at h
          exact .inr ⟨rfl, .inr ⟨rfl, h⟩⟩
        · rw [hand, hor] at h
          exact .inr ⟨rfl, .inl ⟨a, b, rfl, (Option.some.inj h).symm⟩⟩
      · rw [hand] at h
        exact .inl ⟨a, b, rfl, (Option.some.inj h).symm⟩
    · rintro ⟨_, ⟨⟩, ⟨a, b, hand, rfl⟩ | ⟨hand, ⟨a, b, hor, rfl⟩ | ⟨hor, h⟩⟩⟩
      · rw [hand]
      · rw [hand, hor]
      · rw [hand, hor, h]
  | _ => simp [ofJson?]

theorem ofJson?_eq_and_iff {j : Json} {a b : FilterDocument} :
    ofJson? j = some (and a b) ↔
      ∃ members l r, j = .object members ∧ only? "and" members = some (.array [l, r])
        ∧ ofJson? l = some a ∧ ofJson? r = some b := by
  rw [ofJson?_eq_some_iff]
  constructor
  · rintro ⟨members, rfl, ⟨a', b', hand, ⟨⟩⟩ | ⟨-, ⟨_, _, -, ⟨⟩⟩ | ⟨-, h⟩⟩⟩
    · obtain ⟨l, r, hmember, hl, hr⟩ := bind_pair?_eq_some_iff.1 hand
      exact ⟨members, l, r, rfl, hmember, hl, hr⟩
    · obtain ⟨_, _, _, ⟨⟩, -⟩ := comparison?_eq_some h
  · rintro ⟨members, l, r, rfl, hmember, hl, hr⟩
    exact ⟨members, rfl, .inl ⟨a, b, bind_pair?_eq_some_iff.2 ⟨l, r, hmember, hl, hr⟩, rfl⟩⟩

theorem ofJson?_eq_or_iff {j : Json} {a b : FilterDocument} :
    ofJson? j = some (or a b) ↔
      ∃ members l r, j = .object members ∧ (only? "and" members).bind pair? = none
        ∧ only? "or" members = some (.array [l, r]) ∧ ofJson? l = some a ∧ ofJson? r = some b := by
  rw [ofJson?_eq_some_iff]
  constructor
  · rintro ⟨members, rfl, ⟨_, _, -, ⟨⟩⟩ | ⟨hand, ⟨a', b', hor, ⟨⟩⟩ | ⟨-, h⟩⟩⟩
    · obtain ⟨l, r, hmember, hl, hr⟩ := bind_pair?_eq_some_iff.1 hor
      exact ⟨members, l, r, rfl, hand, hmember, hl, hr⟩
    · obtain ⟨_, _, _, ⟨⟩, -⟩ := comparison?_eq_some h
  · rintro ⟨members, l, r, rfl, hand, hmember, hl, hr⟩
    have hor := bind_pair?_eq_some_iff.2 ⟨l, r, hmember, hl, hr⟩
    exact ⟨members, rfl, .inr ⟨hand, .inl ⟨a, b, hor, rfl⟩⟩⟩

theorem ofJson?_eq_comparison_iff {j : Json} {field operator : String} {value : Option Json} :
    ofJson? j = some (comparison field operator value) ↔
      ∃ members, j = .object members ∧ (only? "and" members).bind pair? = none
        ∧ (only? "or" members).bind pair? = none
        ∧ comparison? members = some (comparison field operator value) := by
  rw [ofJson?_eq_some_iff]
  constructor
  · rintro ⟨members, rfl, ⟨_, _, -, ⟨⟩⟩ | ⟨hand, ⟨_, _, -, ⟨⟩⟩ | ⟨hor, h⟩⟩⟩
    exact ⟨members, rfl, hand, hor, h⟩
  · rintro ⟨members, rfl, hand, hor, h⟩
    exact ⟨members, rfl, .inr ⟨hand, .inr ⟨hor, h⟩⟩⟩

/-! ## To filters -/

/-- The operand that a value stands for: none, a list or a scalar. -/
def operand : Option Json → Except CriteriaError Operand
  | none => .ok .none
  | some (.array items) => (items.mapM Value.ofJson).map .list
  | some j => (Value.ofJson j).map .scalar

def toFilter : FilterDocument → Except CriteriaError Filter
  | comparison field operator value => do
    let operator ← Operator.read operator
    let operand ← operand value
    pure (.comparison (← Comparison.of field operator operand))
  | and left right => do
    let l ← left.toFilter
    pure (.and l (← right.toFilter))
  | or left right => do
    let l ← left.toFilter
    pure (.or l (← right.toFilter))

end FilterDocument

namespace Document

def toCriteria (d : Document) : Except CriteriaError Criteria := do
  let filters ← d.filters.mapM FilterDocument.toFilter
  let sorting ← d.sorting.mapM fun o => Order.of o.field o.direction
  Criteria.Builder.build { filters, sorting, offset := d.offset, limit := d.limit }

end Document

end QueryCriteria
