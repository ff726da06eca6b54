import Mathlib.Algebra.Ring.Nat
import QueryCriteria.Clauses.Apply

/-!
One numbering through all criteria of a session.

`Filter.numbered` lists the comparisons of filters with their numbers, from left to right and
whether they bind something or not. `Comparison.parameters` is what one comparison binds under its
number; it does not depend on the field map.

The main statements are `parameters_executeAll` and `predicates_executeAll`: what a session yields
for criteria one after the other is what `Filter.predicates` yields once for all their filters, so
a parameter of a session is one of `Filter.numbered` and a later module never looks at a session
again.
-/

namespace QueryCriteria

open Sql

/-- The filters of criteria, one criteria after the other. -/
def Criteria.allFilters (cs : List Criteria) : List Filter := cs.flatMap Criteria.filters

/-! ## What one comparison binds -/

namespace Comparison

/-- The comparison binds something: its operator takes a value or a list. -/
def Binds (c : Comparison) : Prop := c.operand ≠ .none

instance (c : Comparison) : Decidable c.Binds := inferInstanceAs (Decidable (_ ≠ _))

/-- What the comparison binds under its number: nothing, or one parameter. -/
def parameters (c : Comparison) (number : Nat) : List Parameter :=
  match c.operand with
  | .none => []
  | .scalar v => [⟨c.parameterName number, .scalar (boundValue c.operator v), none⟩]
  | .list vs => [⟨c.parameterName number, .list vs, c.operator.parameterType⟩]

theorem condition_snd (fields : FieldMap) (c : Comparison) (number : Nat) :
    (c.condition fields number).2 = c.parameters number := by
  unfold condition parameters
  cases c.operand <;> rfl

/-- A parameter of a comparison has the name that its number gives. -/
theorem map_name_parameters (c : Comparison) (number : Nat) :
    (c.parameters number).map Parameter.name =
      if c.Binds then [c.parameterName number] else [] := by
  by_cases h : c.operand = .none
  · simp [parameters, Binds, h]
  · unfold parameters
    rw [if_pos (show c.Binds from h)]
    cases ho : c.operand with
    | none => exact absurd ho h
    | scalar v => rfl
    | list vs => rfl

end Comparison

/-! ## The numbered comparisons -/

namespace Filter

/-- The comparisons of filters with their numbers, after `count` others. -/
def numbered (count : Nat) (fs : List Filter) : List (Comparison × Nat) :=
  (fs.flatMap comparisons).zipIdx (count + 1)

theorem length_flatMap_comparisons (fs : List Filter) :
    (fs.flatMap comparisons).length = totalCount fs := by
  induction fs with
  | nil => rfl
  | cons f fs ih =>
    rw [List.flatMap_cons, List.length_append, length_comparisons, ih]
    rfl

theorem numbered_append (count : Nat) (fs gs : List Filter) :
    numbered count (fs ++ gs) = numbered count fs ++ numbered (count + totalCount fs) gs := by
  unfold numbered
  rw [List.flatMap_append, List.zipIdx_append, length_flatMap_comparisons]
  congr 2
  omega

/-- A filter and the filters after it. -/
theorem numbered_cons (count : Nat) (f : Filter) (fs : List Filter) :
    numbered count (f :: fs) =
      numbered count [f] ++ numbered (count + f.comparisonCount) fs := by
  have h := numbered_append count [f] fs
  simpa [totalCount] using h

/-- A pair numbers its children one after the other. -/
theorem numbered_and (count : Nat) (l r : Filter) :
    numbered count [and l r] =
      numbered count [l] ++ numbered (count + l.comparisonCount) [r] := by
  rw [← numbered_cons]
  simp [numbered, comparisons]

theorem numbered_or (count : Nat) (l r : Filter) :
    numbered count [or l r] =
      numbered count [l] ++ numbered (count + l.comparisonCount) [r] :=
  numbered_and count l r

/-- No two comparisons share a number. -/
theorem pairwise_numbered (count : Nat) (fs : List Filter) :
    (numbered count fs).Pairwise fun x y => x.2 < y.2 := by
  unfold numbered
  generalize fs.flatMap comparisons = cs
  induction cs generalizing count with
  | nil => exact List.Pairwise.nil
  | cons c cs ih =>
    rw [List.zipIdx_cons, List.pairwise_cons]
    refine ⟨?_, ih (count + 1)⟩
    intro x hx
    exact List.le_snd_of_mem_zipIdx hx

/-! ## What filters yield -/

theorem parameters_predicate (fields : FieldMap) (count : Nat) (f : Filter) :
    (f.predicate fields count).parameters =
      (numbered count [f]).flatMap fun x => x.1.parameters x.2 := by
  induction f generalizing count with
  | comparison c =>
    simp only [predicate, numbered, comparisons, List.flatMap_cons, List.flatMap_nil,
      List.append_nil, List.zipIdx_cons, List.zipIdx_nil]
    exact c.condition_snd fields (count + 1)
  | and l r hl hr =>
    rw [numbered_and, List.flatMap_append, ← hl, ← hr, ← count_predicate fields]
    rfl
  | or l r hl hr =>
    rw [numbered_or, List.flatMap_append, ← hl, ← hr, ← count_predicate fields]
    rfl

theorem parameters_predicates (fields : FieldMap) (count : Nat) (fs : List Filter) :
    (predicates fields count fs).parameters =
      (numbered count fs).flatMap fun x => x.1.parameters x.2 := by
  induction fs generalizing count with
  | nil => rfl
  | cons f fs ih =>
    rw [numbered_cons, List.flatMap_append, ← parameters_predicate fields, ← ih,
      ← count_predicate fields]
    rfl

/-- Filters can be taken in two goes, the second of which goes on with the numbers. -/
theorem result_predicates_append (fields : FieldMap) (count : Nat) (fs gs : List Filter) :
    (predicates fields count (fs ++ gs)).result =
      (predicates fields count fs).result ++
        (predicates fields (count + totalCount fs) gs).result := by
  induction fs generalizing count with
  | nil => rfl
  | cons f fs ih =>
    simp only [List.cons_append, predicates, count_predicate, ih, totalCount, List.foldr_cons,
      Nat.add_assoc]

end Filter

/-! ## What a session yields -/

namespace Session

theorem predicates_executeAll (fields : FieldMap) (count : Nat) (cs : List Criteria) :
    ((Session.mk fields count).executeAll cs).flatMap Clauses.predicates =
      (Filter.predicates fields count (Criteria.allFilters cs)).result := by
  induction cs generalizing count with
  | nil => rfl
  | cons c cs ih =>
    have hall : Criteria.allFilters (c :: cs) = c.filters ++ Criteria.allFilters cs := rfl
    rw [hall, Filter.result_predicates_append]
    exact congrArg (_ ++ ·) (ih (count + c.comparisonCount))

/-- The parameters of a session are those of its comparisons in the order of their numbers. -/
theorem parameters_executeAll (fields : FieldMap) (count : Nat) (cs : List Criteria) :
    ((Session.mk fields count).executeAll cs).flatMap Clauses.parameters =
      (Filter.numbered count (Criteria.allFilters cs)).flatMap fun x => x.1.parameters x.2 := by
  induction cs generalizing count with
  | nil => rfl
  | cons c cs ih =>
    have hall : Criteria.allFilters (c :: cs) = c.filters ++ Criteria.allFilters cs := rfl
    have hfirst := Filter.parameters_predicates fields count c.filters
    rw [hall, Filter.numbered_append, List.flatMap_append, ← hfirst]
    exact congrArg (_ ++ ·) (ih (count + c.comparisonCount))

end Session

end QueryCriteria
