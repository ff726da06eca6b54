import Mathlib.Data.List.Basic
import QueryCriteria.Proofs.Execution

/-!
Several criteria as one.

`Criteria.merge` puts criteria together part by part: all filters, all sort keys, and of offsets
and limits the last one there is. Executing criteria one after the other on a query, whatever was
done to the query before, leaves what the clauses of their merge leave when they are applied once
(`Sql.Select.executeAll_eq_apply_merge`).

Two things have to agree for that. A session adds up `Filter.comparisonCount`, a number that is
taken from the trees alone, and the predicates go on from where this sum has got to; that both
count the same comparisons is `Session.count_after`. And the additions of the criteria, interleaved
as they are, have the same parts as those of the merge (`Session.additions_executeAll`), which is
all that a query depends on.
-/

namespace QueryCriteria

open Sql

/-- Criteria put together: all filters, all sort keys, the last offset and the last limit. -/
def Criteria.merge (cs : List Criteria) : Criteria where
  filters := allFilters cs
  sorting := cs.flatMap sorting
  offset := (cs.filterMap offset).getLast?
  limit := (cs.filterMap limit).getLast?
  limit_ne_zero := by
    intro h
    obtain ⟨c, -, hc⟩ := List.mem_filterMap.1 (List.mem_of_getLast? h)
    exact c.limit_ne_zero hc

/-! ## Counting -/

/-- Filters can be numbered in two goes. -/
theorem Filter.count_predicates_append (fields : FieldMap) (count : Nat) (fs gs : List Filter) :
    (predicates fields count (fs ++ gs)).count =
      (predicates fields (predicates fields count fs).count gs).count := by
  induction fs generalizing count with
  | nil => rfl
  | cons f fs ih => exact ih (f.predicate fields count).count

namespace Session

/-- The session after criteria. -/
def after (s : Session) (cs : List Criteria) : Session := cs.foldl (fun s c => (s.execute c).2) s

theorem after_cons (s : Session) (c : Criteria) (cs : List Criteria) :
    s.after (c :: cs) = (s.execute c).2.after cs := rfl

/-- One criteria moves a session on by what its predicates have numbered. -/
theorem count_execute (s : Session) (c : Criteria) :
    (s.execute c).2.count = (Filter.predicates s.fields s.count c.filters).count := by
  rw [Filter.count_predicates]
  rfl

theorem count_after (fields : FieldMap) (count : Nat) (cs : List Criteria) :
    ((Session.mk fields count).after cs).count =
      (Filter.predicates fields count (Criteria.allFilters cs)).count := by
  induction cs generalizing count with
  | nil => rfl
  | cons c cs ih =>
    have hall : Criteria.allFilters (c :: cs) = c.filters ++ Criteria.allFilters cs := rfl
    have hstep : (Session.execute ⟨fields, count⟩ c).2 =
        ⟨fields, (Filter.predicates fields count c.filters).count⟩ :=
      congrArg (Session.mk fields) (count_execute ⟨fields, count⟩ c)
    rw [after_cons, hstep, ih, hall, Filter.count_predicates_append]

/-! ## The parts of what is added -/

/-- A part of clauses that no number comes into. -/
theorem map_executeAll {β : Type} {fields : FieldMap} {f : Clauses → β} {g : Criteria → β}
    (h : ∀ count c, f (Criteria.clausesFrom fields count c) = g c) (count : Nat)
    (cs : List Criteria) : ((Session.mk fields count).executeAll cs).map f = cs.map g := by
  induction cs generalizing count with
  | nil => rfl
  | cons c cs ih => exact congr (congrArg List.cons (h count c)) (ih _)

end Session

namespace Clauses

theorem filterMap_offset (c : Clauses) :
    c.additions.filterMap Addition.offset? = c.offset.toList := by
  rw [filterMap_additions]
  simp only [Addition.offset?, filterMap_const_none, List.append_nil, List.nil_append]
  exact List.filterMap_some

theorem filterMap_limit (c : Clauses) :
    c.additions.filterMap Addition.limit? = c.limit.toList := by
  rw [filterMap_additions]
  simp only [Addition.limit?, filterMap_const_none, List.append_nil, List.nil_append]
  exact List.filterMap_some

end Clauses

/-! ## The main statement -/

namespace Session

/-- Additions that leave of every part of a query what clauses leave of it: the same predicates,
parameters and sort keys in the same order, and the same offset and limit in the end. -/
structure AddsUpTo (additions : List Addition) (whole : Clauses) : Prop where
  predicates : additions.filterMap Addition.predicate? = whole.predicates.map Expr.fragment
  parameters : additions.filterMap Addition.parameter? = whole.parameters
  sorting : additions.filterMap Addition.sortKey? =
    whole.sorting.map fun s => ⟨.verbatim s.column, some s.direction⟩
  offset : (additions.filterMap Addition.offset?).getLast? = whole.offset
  limit : (additions.filterMap Addition.limit?).getLast? = whole.limit

/-- Clauses add up to themselves. -/
theorem addsUpTo_additions (t : Clauses) : AddsUpTo t.additions t := by
  refine ⟨t.filterMap_predicate, t.filterMap_parameter, t.filterMap_sortKey, ?_, ?_⟩
  · rw [t.filterMap_offset]
    cases t.offset <;> rfl
  · rw [t.filterMap_limit]
    cases t.limit <;> rfl

theorem additions_executeAll (fields : FieldMap) (cs : List Criteria) :
    AddsUpTo (((start fields).executeAll cs).flatMap Clauses.additions)
      ((Criteria.merge cs).clauses fields) := by
  refine ⟨?_, ?_, ?_, ?_, ?_⟩
  · simp only [List.filterMap_flatMap, Clauses.filterMap_predicate]
    rw [← List.map_flatMap]
    exact congrArg (List.map Expr.fragment) (predicates_executeAll fields 0 cs)
  · simp only [List.filterMap_flatMap, Clauses.filterMap_parameter]
    have hmerge := Filter.parameters_predicates fields 0 (Criteria.allFilters cs)
    exact (parameters_executeAll fields 0 cs).trans hmerge.symm
  · simp only [List.filterMap_flatMap, Clauses.filterMap_sortKey]
    have hparts : ((start fields).executeAll cs).map Clauses.sorting = cs.map fun c =>
        c.sorting.map fun o => ⟨fields.resolve o.field, o.direction⟩ :=
      map_executeAll (fun _ _ => rfl) 0 cs
    have hflat := congrArg List.flatten hparts
    rw [← List.flatMap_def, ← List.flatMap_def, ← List.map_flatMap] at hflat
    rw [← List.map_flatMap, hflat]
    rfl
  · simp only [List.filterMap_flatMap, Clauses.filterMap_offset]
    have hparts : ((start fields).executeAll cs).map Clauses.offset = cs.map Criteria.offset :=
      map_executeAll (fun _ _ => rfl) 0 cs
    rw [← List.flatMap_map, hparts, List.flatMap_map, ← List.filterMap_eq_flatMap_toList]
    rfl
  · simp only [List.filterMap_flatMap, Clauses.filterMap_limit]
    have hparts : ((start fields).executeAll cs).map Clauses.limit = cs.map Criteria.limit :=
      map_executeAll (fun _ _ => rfl) 0 cs
    rw [← List.flatMap_map, hparts, List.flatMap_map, ← List.filterMap_eq_flatMap_toList]
    rfl

/-- Additions that add up to the same clauses leave the same query. -/
theorem AddsUpTo.addAll_eq {as bs : List Addition} {t : Clauses} (ha : AddsUpTo as t)
    (hb : AddsUpTo bs t) (q : Select) : q.addAll as = q.addAll bs := by
  rw [Select.addAll_eq, Select.addAll_eq, ha.predicates, ha.parameters, ha.sorting, ha.offset,
    ha.limit, hb.predicates, hb.parameters, hb.sorting, hb.offset, hb.limit]

end Session

/-- A session leaves the query that the clauses of the merge leave, and it has counted the
comparisons that the predicates of the merge number, with a value or without. -/
theorem Sql.Select.executeAll_eq_apply_merge (q : Select) (fields : FieldMap)
    (cs : List Criteria) :
    q.executeAll fields cs = q.apply ((Criteria.merge cs).clauses fields) ∧
      ((Session.start fields).after cs).count =
          (Filter.predicates fields 0 (Criteria.merge cs).filters).count ∧
        (Filter.predicates fields 0 (Criteria.merge cs).filters).count =
          ((Criteria.merge cs).filters.flatMap Filter.comparisons).length := by
  refine ⟨?_, Session.count_after fields 0 cs, ?_⟩
  · rw [executeAll_eq_addAll]
    exact (Session.additions_executeAll fields cs).addAll_eq (Session.addsUpTo_additions _) q
  · rw [Filter.count_predicates, Filter.length_flatMap_comparisons, Nat.zero_add]

end QueryCriteria
