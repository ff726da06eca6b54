import QueryCriteria.Proofs.Numbering

/-!
What additions leave of a query.

A query takes additions in one by one, but no addition looks at another part of the query than its
own. So the query after a run of additions is put together from the subsequences of the run, one
for each part (`addAll_eq`): predicates and sort keys stand behind those before, parameters are
bound in turn, and the last offset and the last limit count.

A session is one such run (`executeAll_eq_addAll`); the lemmas after it give the parts of the query
that a session has worked on.
-/

namespace QueryCriteria

open Sql

/-! ## The parts of a run of additions -/

namespace Addition

/-- The predicate that an addition adds. -/
def predicate? : Addition → Option Expr
  | .predicate s => some (.fragment s)
  | _ => none

/-- The parameter that an addition binds. -/
def parameter? : Addition → Option Parameter
  | .parameter p => some p
  | _ => none

/-- The sort key that an addition adds. -/
def sortKey? : Addition → Option SortKey
  | .sortColumn c => some ⟨.verbatim c.column, some c.direction⟩
  | _ => none

def offset? : Addition → Option UInt64
  | .offset n => some n
  | _ => none

def limit? : Addition → Option UInt64
  | .limit n => some n
  | _ => none

end Addition

/-- Parameters bound one after the other. -/
def Sql.bindAll (ps qs : List Parameter) : List Parameter :=
  qs.foldl (fun ps p => Sql.bind p ps) ps

theorem Sql.bindAll_cons (ps : List Parameter) (p : Parameter) (qs : List Parameter) :
    bindAll ps (p :: qs) = bindAll (Sql.bind p ps) qs := rfl

/-- Names that are distinct before stay so. -/
theorem Sql.nodup_bindAll {ps : List Parameter} (qs : List Parameter)
    (h : (ps.map Parameter.name).Nodup) : ((bindAll ps qs).map Parameter.name).Nodup := by
  induction qs generalizing ps with
  | nil => exact h
  | cons q qs ih =>
    rw [bindAll_cons]
    exact ih (Keyed.nodup_put Parameter.name q h)

namespace Sql.Select

/-- Each part of the query depends on its own part of the run. -/
theorem addAll_eq (q : Select) (as : List Addition) :
    q.addAll as =
      { columns := q.columns
        source := q.source
        predicates := q.predicates ++ as.filterMap Addition.predicate?
        sorting := q.sorting ++ as.filterMap Addition.sortKey?
        limit := (as.filterMap Addition.limit?).getLast?.or q.limit
        offset := (as.filterMap Addition.offset?).getLast?.or q.offset
        parameters := bindAll q.parameters (as.filterMap Addition.parameter?) } := by
  induction as generalizing q with
  | nil => simp [addAll, bindAll]
  | cons a as ih =>
    have hstep : q.addAll (a :: as) = (q.add a).addAll as := rfl
    rw [hstep, ih]
    cases a <;>
      simp [add, filter, orderBy, bind, takeRows, skipRows, bindAll, List.filterMap_cons,
        List.getLast?_cons, Addition.predicate?, Addition.sortKey?, Addition.limit?,
        Addition.offset?, Addition.parameter?]

theorem executeAll_eq_addAll (q : Select) (fields : FieldMap) (cs : List Criteria) :
    q.executeAll fields cs =
      q.addAll (((Session.start fields).executeAll cs).flatMap Clauses.additions) := by
  unfold executeAll addAll
  rw [List.foldl_flatMap]
  rfl

end Sql.Select

/-! ## The parts of clauses -/

namespace Clauses

/-- What one part of a query takes from clauses is taken from their parts in turn. -/
theorem filterMap_additions {β : Type} (f : Addition → Option β) (c : Clauses) :
    c.additions.filterMap f =
      c.predicates.filterMap (fun s => f (.predicate s))
        ++ c.parameters.filterMap (fun p => f (.parameter p))
        ++ c.sorting.filterMap (fun s => f (.sortColumn s))
        ++ c.offset.toList.filterMap (fun n => f (.offset n))
        ++ c.limit.toList.filterMap (fun n => f (.limit n)) := by
  unfold additions
  rw [List.filterMap_append, List.filterMap_append, List.filterMap_append,
    List.filterMap_append, Option.toList_map, Option.toList_map]
  simp only [List.filterMap_map, Function.comp_def]

theorem filterMap_const_none {α β : Type} (l : List α) :
    l.filterMap (fun _ => (none : Option β)) = [] :=
  List.filterMap_eq_nil_iff.2 fun _ _ => rfl

theorem filterMap_predicate (c : Clauses) :
    c.additions.filterMap Addition.predicate? = c.predicates.map Expr.fragment := by
  rw [filterMap_additions]
  simp only [Addition.predicate?, filterMap_const_none, List.append_nil]
  rw [List.filterMap_eq_map']

theorem filterMap_parameter (c : Clauses) :
    c.additions.filterMap Addition.parameter? = c.parameters := by
  rw [filterMap_additions]
  simp only [Addition.parameter?, filterMap_const_none, List.append_nil, List.nil_append]
  exact List.filterMap_some

theorem filterMap_sortKey (c : Clauses) :
    c.additions.filterMap Addition.sortKey? =
      c.sorting.map fun s => ⟨.verbatim s.column, some s.direction⟩ := by
  rw [filterMap_additions]
  simp only [Addition.sortKey?, filterMap_const_none, List.append_nil, List.nil_append]
  rw [List.filterMap_eq_map']

end Clauses

/-! ## The parts of a query after a session -/

namespace Sql.Select

theorem executeAll_columns (q : Select) (fields : FieldMap) (cs : List Criteria) :
    (q.executeAll fields cs).columns = q.columns := by
  rw [executeAll_eq_addAll, addAll_eq]

theorem executeAll_predicates (q : Select) (fields : FieldMap) (cs : List Criteria) :
    (q.executeAll fields cs).predicates =
      q.predicates ++
        (Filter.predicates fields 0 (Criteria.allFilters cs)).result.map Expr.fragment := by
  have h := Session.predicates_executeAll fields 0 cs
  rw [executeAll_eq_addAll, addAll_eq]
  simp only [List.filterMap_flatMap, Clauses.filterMap_predicate]
  rw [← h, List.map_flatMap]
  rfl

theorem executeAll_parameters (q : Select) (fields : FieldMap) (cs : List Criteria) :
    (q.executeAll fields cs).parameters =
      bindAll q.parameters
        ((Filter.numbered 0 (Criteria.allFilters cs)).flatMap fun x => x.1.parameters x.2) := by
  have h := Session.parameters_executeAll fields 0 cs
  rw [executeAll_eq_addAll, addAll_eq]
  simp only [List.filterMap_flatMap, Clauses.filterMap_parameter]
  rw [← h]
  rfl

/-- What a session sorts by is copied, whatever it is. -/
theorem executeAll_sorting (q : Select) (fields : FieldMap) (cs : List Criteria) {k : SortKey}
    (h : k ∈ (q.executeAll fields cs).sorting) : k ∈ q.sorting ∨ ∃ s, k.expr = .verbatim s := by
  rw [executeAll_eq_addAll, addAll_eq] at h
  simp only [List.filterMap_flatMap, Clauses.filterMap_sortKey, List.mem_append] at h
  rcases h with h | h
  · exact Or.inl h
  · obtain ⟨c, -, hc⟩ := List.mem_flatMap.1 h
    obtain ⟨s, -, rfl⟩ := List.mem_map.1 hc
    exact Or.inr ⟨s.column, rfl⟩

end Sql.Select

end QueryCriteria
