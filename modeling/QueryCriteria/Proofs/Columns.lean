import QueryCriteria.Proofs.Binding
import QueryCriteria.Proofs.Faults
import QueryCriteria.Proofs.Positions

/-!
A field map has a say in columns only.

The clauses of a criteria under two maps differ in the text before the operators and in the columns
to sort by (`Comparison.reading_eq_append`); where the maps agree on the fields of the criteria they
do not differ at all (`Criteria.clauses_congr`).

A column stands in the same fragment as the placeholders, and one with a quote or a colon in it may
hide or add some. A dull column cannot: it is copied and leaves the scanner as it was. What the
scanner then finds in a predicate are the names in its holes, one after the other and each in the
state in which the ones before it leave the scanner (`Segment.placeholders_layout`), and the holes
do not depend on the map. A name may well hold quotes and colons and so be cut in pieces; no piece
reaches beyond the blank or the parenthesis behind the hole, as long as no field has such a
character in it.
-/

namespace QueryCriteria

open Sql Sql.Fragment

/-! ## Clauses under two maps -/

namespace Comparison

/-- What stands behind the column of a numbered comparison: the operator, and the placeholder if
there is one. -/
def behindColumn (x : Comparison × Nat) : List Char :=
  ' ' :: (x.1.operator.sql.toList ++ x.1.behind (':' :: (nameOf x).toList))

theorem reading_eq_append (fields : FieldMap) (x : Comparison × Nat) :
    reading fields x = (fields.resolve x.1.field).toList ++ behindColumn x :=
  (reading_eq fields x.1 x.2).trans (condition_eq_phrase fields x.1 x.2)

end Comparison

namespace Criteria

/-- The predicates under any map: the column of that map before each comparison of the filters. -/
theorem clauses_predicates (fields : FieldMap) (c : Criteria) :
    (c.clauses fields).predicates =
      (Condition.numberedAll 0 (c.filters.map Filter.condition)).map fun t =>
        String.ofList (t.map fun x =>
          (fields.resolve x.1.field).toList ++ Comparison.behindColumn x).text := by
  unfold clauses clausesFrom
  simp only [Filter.predicates_eq_numberedAll, ← Comparison.reading_eq_append]

theorem clauses_parameters (fields fields' : FieldMap) (c : Criteria) :
    (c.clauses fields).parameters = (c.clauses fields').parameters := by
  have h := fun m : FieldMap => Filter.parameters_predicates m 0 c.filters
  exact (h fields).trans (h fields').symm

theorem mem_comparisons_of_mem_numberedAll {c : Criteria} {t : Condition (Comparison × Nat)}
    (ht : t ∈ Condition.numberedAll 0 (c.filters.map Filter.condition)) {x : Comparison × Nat}
    (hx : x ∈ t.atoms) : x.1 ∈ c.filters.flatMap Filter.comparisons := by
  have hatoms := List.mem_flatMap.2 ⟨t, ht, hx⟩
  rw [Condition.atoms_numberedAll, List.flatMap_map] at hatoms
  simp only [Filter.atoms_condition] at hatoms
  exact List.fst_mem_of_mem_zipIdx hatoms

/-- Maps that agree on the fields of a criteria give it the same clauses. -/
theorem clauses_congr {fields fields' : FieldMap} {c : Criteria}
    (hfilters : ∀ x ∈ c.filters.flatMap Filter.comparisons,
      fields.resolve x.field = fields'.resolve x.field)
    (hsorting : ∀ o ∈ c.sorting, fields.resolve o.field = fields'.resolve o.field) :
    c.clauses fields = c.clauses fields' := by
  have hpredicates : (c.clauses fields).predicates = (c.clauses fields').predicates := by
    rw [clauses_predicates, clauses_predicates]
    refine List.map_congr_left fun t ht => ?_
    have hcolumns := Condition.map_congr fun x hx =>
      congrArg (fun s : String => s.toList ++ Comparison.behindColumn x)
        (hfilters x.1 (mem_comparisons_of_mem_numberedAll ht hx))
    rw [hcolumns]
  have hkeys : (c.clauses fields).sorting = (c.clauses fields').sorting :=
    List.map_congr_left fun o ho => congrArg (SortColumn.mk · o.direction) (hsorting o ho)
  have hparameters := clauses_parameters fields fields' c
  unfold clauses clausesFrom at *
  simp only [Clauses.mk.injEq, and_true]
  exact ⟨hpredicates, hparameters, hkeys⟩

end Criteria

/-! ## The placeholders of a predicate -/

namespace Sql.Fragment

variable {ps : List Parameter}

/-- Dull text has no placeholders. -/
theorem placeholders_dull {s : List Char} (h : Dull s) (quoted : Bool) (t : List Char) :
    placeholders ps quoted (s ++ t) = placeholders ps quoted t := by
  have hplain : (s.map Piece.plain).filterMap Piece.placeholder? = [] := by
    rw [List.filterMap_map]
    exact List.filterMap_eq_nil_iff.2 fun _ _ => rfl
  unfold placeholders
  rw [piecesFrom_inert ps (inert_of_not_mem quoted h.2), quotedAfter_of_not_mem quoted h.1,
    List.filterMap_append, hplain, List.nil_append]

theorem placeholders_append {t : List Char} (h : Boundary ps t) (quoted : Bool) (s : List Char) :
    placeholders ps quoted (s ++ t) =
      placeholders ps quoted s ++
        placeholders ps (openAfter quoted (piecesFrom ps quoted 0 s)) t := by
  unfold placeholders
  rw [h.piecesFrom_append, List.filterMap_append]

/-- If no name has a blank or a closing parenthesis in it, none reaches beyond one. -/
theorem boundary_of_stops (hps : ∀ p ∈ ps, ' ' ∉ p.name.toList ∧ ')' ∉ p.name.toList)
    {t : List Char} (ht : Stops t) : Boundary ps t := by
  intro c hc
  rcases ht c hc with rfl | rfl
  · exact ⟨by decide, by decide, by decide, fun p hp => (hps p hp).1⟩
  · exact ⟨by decide, by decide, by decide, fun p hp => (hps p hp).2⟩

end Sql.Fragment

namespace Segment

/-- What the scanner finds in the names of numbered comparisons, each of them behind its colon and
in the state in which the one before it leaves the scanner. -/
def namesRead (ps : List Parameter) (quoted : Bool) : List (Comparison × Nat) → List Placeholder
  | [] => []
  | x :: xs =>
    let name := ':' :: (nameOf x).toList
    placeholders ps quoted name ++ namesRead ps (openAfter quoted (piecesFrom ps quoted 0 name)) xs

/-- Between dull texts the placeholders are those of the names in the holes. -/
theorem placeholders_layout {ps : List Parameter}
    (hps : ∀ p ∈ ps, ' ' ∉ p.name.toList ∧ ')' ∉ p.name.toList) {segments : List Segment}
    (hspaced : WellSpaced segments) (hdull : ∀ s, copied s ∈ segments → Dull s) (quoted : Bool) :
    placeholders ps quoted (segments.flatMap named) =
      namesRead ps quoted (segments.filterMap operand?) := by
  induction segments generalizing quoted with
  | nil => rfl
  | cons x rest ih =>
    have hrest := fun s hs => hdull s (List.mem_cons_of_mem x hs)
    cases x with
    | copied s =>
      rw [List.flatMap_cons, named, placeholders_dull (hdull s (List.mem_cons_self ..))]
      exact ih hspaced hrest quoted
    | operand c number =>
      -- the text behind the hole cannot be reached from the colon before it
      have hboundary := boundary_of_stops hps hspaced.1
      rw [List.flatMap_cons, placeholders_append hboundary, ih hspaced.2 hrest]
      rfl

end Segment

namespace Filter

/-- The holes are the same under all maps. -/
theorem map_operands_layouts (fields fields' : FieldMap) (count : Nat) (fs : List Filter) :
    (layouts fields count fs).map (List.filterMap Segment.operand?) =
      (layouts fields' count fs).map (List.filterMap Segment.operand?) := by
  induction fs generalizing count with
  | nil => rfl
  | cons f fs ih =>
    rw [layouts, layouts, List.map_cons, List.map_cons, operands_layout, operands_layout, ih]

end Filter

theorem Segment.CopiedFrom.dull {fields : FieldMap} {cs : List Comparison} {s : List Char}
    (h : CopiedFrom fields cs s) (hcolumns : ∀ c ∈ cs, Dull (fields.resolve c.field).toList) :
    Dull s := by
  obtain ⟨column, rest, rfl, hrest, hcolumn⟩ := h
  refine dull_append.2 ⟨?_, hrest⟩
  rcases hcolumn with rfl | ⟨c, hc, rfl⟩
  · exact (by decide : Dull [])
  · exact hcolumns c hc

/-! ## A session under two maps -/

/-- What a session on a new query adds to it is copied but for the predicates. -/
theorem Sql.Select.fragments_executeAll {columns : List Expr} (source : FromClause)
    (hcolumns : ∀ e ∈ columns, ∀ s, e ≠ .fragment s) {fields : FieldMap} {cs : List Criteria} :
    ((start columns source).executeAll fields cs).fragments =
      (Filter.layouts fields 0 (Criteria.allFilters cs)).map fun segments =>
        String.ofList (segments.flatMap Segment.named) := by
  have hopening : ((start columns source).executeAll fields cs).columns.filterMap
      Expr.fragment? = [] := by
    rw [executeAll_columns]
    exact List.filterMap_eq_nil_iff.2 fun e he => Expr.fragment?_eq_none (hcolumns e he)
  have hclosing : (((start columns source).executeAll fields cs).sorting.map
      SortKey.expr).filterMap Expr.fragment? = [] := by
    rw [List.filterMap_map]
    refine List.filterMap_eq_nil_iff.2 fun k hk => ?_
    obtain ⟨s, hs⟩ := (executeAll_sorting _ fields cs hk).resolve_left List.not_mem_nil
    exact congrArg Expr.fragment? hs
  unfold fragments
  rw [List.filterMap_append, List.filterMap_append, hopening, hclosing, List.append_nil,
    List.nil_append, executeAll_start_predicates, List.filterMap_map]
  exact congrFun List.filterMap_eq_map _

section Dull

variable {cs : List Criteria}
  (hfields : ∀ c ∈ (Criteria.allFilters cs).flatMap Filter.comparisons,
    ' ' ∉ c.field.toList ∧ ')' ∉ c.field.toList)

include hfields

theorem Criteria.not_mem_name_of_mem_bindAll {p : Parameter}
    (hp : p ∈ bindAll [] (Criteria.parameters cs)) :
    ' ' ∉ p.name.toList ∧ ')' ∉ p.name.toList := by
  obtain ⟨x, hx, hname⟩ := List.mem_map.1 (mem_names_of_mem_bindAll (List.mem_map_of_mem hp))
  obtain ⟨hblank, hparenthesis⟩ := hfields x.1 (mem_comparisons_of_mem_binding hx)
  rw [← hname]
  exact ⟨Comparison.not_mem_parameterName hblank (by decide) x.2,
    Comparison.not_mem_parameterName hparenthesis (by decide) x.2⟩

/-- The placeholders of a session on a new query, under a map with dull columns. -/
theorem Sql.Select.placeholders_executeAll {columns : List Expr} (source : FromClause)
    (hcolumns : ∀ e ∈ columns, ∀ s, e ≠ .fragment s) {fields : FieldMap}
    (hdull : ∀ c ∈ (Criteria.allFilters cs).flatMap Filter.comparisons,
      Dull (fields.resolve c.field).toList) :
    ((start columns source).executeAll fields cs).placeholders =
      ((Filter.layouts fields 0 (Criteria.allFilters cs)).map
        (List.filterMap Segment.operand?)).flatMap
          (Segment.namesRead (bindAll [] (Criteria.parameters cs)) false) := by
  unfold placeholders
  rw [fragments_executeAll source hcolumns, executeAll_start_parameters, List.flatMap_map,
    List.flatMap_map]
  refine List.flatMap_congr fun segments h => ?_
  obtain ⟨f, hf, n, rfl⟩ := Filter.mem_layouts h
  rw [String.toList_ofList]
  refine Segment.placeholders_layout (fun p hp => Criteria.not_mem_name_of_mem_bindAll hfields hp)
    (f.wellSpaced_layout fields n) (fun s hs => ?_) false
  refine (Filter.copied_of_mem_layout hs).dull fun c hc => ?_
  exact hdull c (List.mem_flatMap.2 ⟨f, hf, hc⟩)

end Dull

/-! ## The main statement -/

/-- Maps change columns: the clauses of a criteria have the same parameters, directions and window
under both, and in their predicates the text of a comparison is a column and then what no map has a
say in. Where the maps agree on all fields, all is the same. And if the columns of both have neither
quotes nor colons, and no field has a blank or a closing parenthesis, both queries have the same
positional parameters or fail with the same error. -/
theorem Criteria.maps_change_columns (c : Criteria) (m m' : FieldMap) :
    ((c.clauses m).parameters = (c.clauses m').parameters ∧
      (c.clauses m).predicates.length = (c.clauses m').predicates.length ∧
      (c.clauses m).sorting.map SortColumn.direction =
        (c.clauses m').sorting.map SortColumn.direction ∧
      (c.clauses m).offset = (c.clauses m').offset ∧
      (c.clauses m).limit = (c.clauses m').limit) ∧
    (∃ ts, Condition.Numbers 0 (c.filters.map Filter.condition) ts ∧
      ∀ fields : FieldMap, (c.clauses fields).predicates = ts.map fun t =>
        String.ofList (t.map fun x =>
          (fields.resolve x.1.field).toList ++ Comparison.behindColumn x).text) ∧
    ((∀ x ∈ c.filters.flatMap Filter.comparisons, m.resolve x.field = m'.resolve x.field) →
      (∀ o ∈ c.sorting, m.resolve o.field = m'.resolve o.field) → c.clauses m = c.clauses m') ∧
    ∀ columns source, (∀ e ∈ columns, ∀ s, e ≠ .fragment s) →
      (∀ x ∈ c.filters.flatMap Filter.comparisons,
        (' ' ∉ x.field.toList ∧ ')' ∉ x.field.toList) ∧
        Dull (m.resolve x.field).toList ∧ Dull (m'.resolve x.field).toList) →
      ∀ d, (((Select.start columns source).executeAll m [c]).render d).map Query.parameters =
        (((Select.start columns source).executeAll m' [c]).render d).map Query.parameters := by
  have hpredicates := fun fields => clauses_predicates fields c
  refine ⟨⟨clauses_parameters m m' c, ?_, ?_, rfl, rfl⟩, ?_, clauses_congr, ?_⟩
  · rw [hpredicates m, hpredicates m', List.length_map, List.length_map]
  · unfold clauses clausesFrom
    rw [List.map_map, List.map_map]
    rfl
  · exact ⟨_, Condition.numbers_iff.2 rfl, hpredicates⟩
  · intro columns source hcolumns h d
    have hall : allFilters [c] = c.filters := by
      unfold allFilters
      rw [List.flatMap_singleton]
    rw [← hall] at h
    -- the placeholders are read off the holes, which are the same under both maps
    have hplaceholders : ((Select.start columns source).executeAll m [c]).placeholders =
        ((Select.start columns source).executeAll m' [c]).placeholders := by
      rw [Select.placeholders_executeAll (fun x hx => (h x hx).1) source hcolumns
          fun x hx => (h x hx).2.1,
        Select.placeholders_executeAll (fun x hx => (h x hx).1) source hcolumns
          fun x hx => (h x hx).2.2, Filter.map_operands_layouts m m']
    rw [Select.map_parameters_render, Select.map_parameters_render, hplaceholders]

/-- Fields with quotes and colons in them: the first makes a cast of its own colon, the second is
bound in spite of its quote, and the last but one opens a literal around the last. -/
def hours : Criteria :=
  { Criteria.empty with
    filters := [
      .or (.comparison ⟨":a", .gt, .scalar (.int 17), by decide, rfl⟩)
        (.comparison ⟨"till'five", .lt, .scalar (.int 9), by decide, rfl⟩),
      .comparison ⟨"shift", .isIn, .list [.text "early", .text "night"], by decide, rfl⟩,
      .and (.comparison ⟨":'b", .notEqual, .scalar (.int 12), by decide, rfl⟩)
        (.comparison ⟨"late", .notEqual, .scalar (.bool false), by decide, rfl⟩)] }

def hourColumns (qualifier : String) : FieldMap :=
  FieldMap.ofList [(":a", qualifier ++ "a"), ("till'five", qualifier ++ "hour"),
    (":'b", qualifier ++ "b")]

theorem Criteria.maps_change_columns_hours :
    (∀ x ∈ hours.filters.flatMap Filter.comparisons,
      (' ' ∉ x.field.toList ∧ ')' ∉ x.field.toList) ∧
        Dull ((hourColumns "").resolve x.field).toList ∧
        Dull ((hourColumns "h.").resolve x.field).toList) ∧
      hours.clauses (hourColumns "") ≠ hours.clauses (hourColumns "h.") ∧
      hours.clauses ((hourColumns "").insert "never" "n") = hours.clauses (hourColumns "") ∧
      ∀ m ∈ [hourColumns "", hourColumns "h."],
        (((Select.start [.verbatim ":id"] ⟨⟨none, "shifts"⟩, none⟩).executeAll m [hours]).render
            .postgres).map Query.parameters = .ok [.int 9, .text "early", .text "night"] := by
  have hfields : ∀ x ∈ hours.filters.flatMap Filter.comparisons,
      (' ' ∉ x.field.toList ∧ ')' ∉ x.field.toList) ∧
        Dull ((hourColumns "").resolve x.field).toList ∧
        Dull ((hourColumns "h.").resolve x.field).toList := by decide +kernel
  have hcolumns : ∀ e ∈ [Expr.verbatim ":id"], ∀ s, e ≠ .fragment s := by simp
  have hmaps := maps_change_columns hours (hourColumns "") (hourColumns "h.")
  have hmore := maps_change_columns hours ((hourColumns "").insert "never" "n") (hourColumns "")
  have hsame := hmaps.2.2.2 _ ⟨⟨none, "shifts"⟩, none⟩ hcolumns hfields .postgres
  have hleft : (((Select.start [.verbatim ":id"] ⟨⟨none, "shifts"⟩, none⟩).executeAll
      (hourColumns "") [hours]).render .postgres).map Query.parameters =
        .ok [.int 9, .text "early", .text "night"] := by decide +kernel
  refine ⟨hfields, by decide +kernel, ?_, ?_⟩
  · exact hmore.2.2.1 (by decide +kernel) (by decide +kernel)
  · intro m hm
    simp only [List.mem_cons, List.not_mem_nil, or_false] at hm
    rcases hm with rfl | rfl
    · exact hleft
    · exact hsame.symm.trans hleft

end QueryCriteria
